import TagHighlight.Text.Basic
import TagHighlight.Text.Loose
import TagHighlight.Unicode.Printable

/-!
# Quoted texts

Messages show a text between quotes. Apostrophes are the quotes, unless the text holds an apostrophe
and no double quote. Backslashes and the quote in use are escaped, line feed, return and tab have
short escapes, and every other code point that is not a printable character is written by its
number, with two, four or eight digits.
-/

namespace TagHighlight.Text

open TagHighlight.Unicode (isPrintable)

/-- The apostrophe, which is also the single quote. -/
def apostrophe : Char := '\x27'

def doubleQuote : Char := '\x22'

def isQuote (c : Char) : Bool := c == apostrophe || c == doubleQuote

/-- The number of a code point after a backslash, in the shortest of the three widths. -/
def numberEscape (n : Nat) : List Char :=
  if n < 0x100 then '\\' :: 'x' :: hex 2 n
  else if n < 0x10000 then '\\' :: 'u' :: hex 4 n
  else '\\' :: 'U' :: hex 8 n

/-- One character of a text quoted with `quote`. -/
def quotedChar (quote c : Char) : List Char :=
  if c = quote ∨ c = '\\' then ['\\', c]
  else if c = '\n' then ['\\', 'n']
  else if c = '\r' then ['\\', 'r']
  else if c = '\t' then ['\\', 't']
  else if isPrintable c then [c]
  else numberEscape c.toNat

/-- One code point of a text quoted with `quote`. -/
def quotedPoint (quote : Char) : CodePoint → List Char
  | .char c => quotedChar quote c
  | p => numberEscape p.toNat

/-- The quote that a text is put between. -/
def quoteFor (t : LooseText) : Char :=
  if t.points.contains (.char apostrophe) && !t.points.contains (.char doubleQuote) then doubleQuote
  else apostrophe

/-- The text between quotes, with escapes. -/
def quoted (t : LooseText) : String :=
  let quote := quoteFor t
  String.ofList (quote :: t.points.flatMap (quotedPoint quote) ++ [quote])

end TagHighlight.Text
