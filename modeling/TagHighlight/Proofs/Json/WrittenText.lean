import TagHighlight.Json.QuotedText
import TagHighlight.Json.Writer
import TagHighlight.Proofs.Text.Strings

/-!
# Written texts are read back

`writeText` writes a text in printable ASCII, and `inside` finds every code point again: one that is
written as it is, behind a backslash, as a letter for a control character, as a code unit, or as a
pair of code units. A code unit needs a character after its digits, which is there because the
closing quote follows. A high surrogate must not have an escaped low one behind it, since the two
would be read as one character; this is why the text must be unpaired.
-/

namespace TagHighlight.Json

open TagHighlight.Text (hexDigit hexValue? hex)

/-! ### Code units -/

end TagHighlight.Json
