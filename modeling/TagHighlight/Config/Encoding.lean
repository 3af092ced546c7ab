import TagHighlight.Config.Reading
import TagHighlight.Digest.Sha256
import TagHighlight.Json.Display

/-!
# Encodings and keys of configurations

All that decides how a line is classified is written as one text: the words of each table in order,
joined by unit separators, and the three tables and the switch for unterminated quotes, joined by
record separators. The key of a configuration is the start of the digest of that text. Whether lines
are checked changes no token, so it is not part of the encoding.

A configuration has no key when a table has an entry that is no text, when the switch holds an
integer that cannot be written, or when a surrogate stands alone in the encoding.
-/

namespace TagHighlight

/-- The number that a value is; a truth value counts as zero or one. -/
def Json.number? : Json → Option ExactNumber
  | .bool b => some (.scaled (if b then 1 else 0) 0)
  | .int n => some (.scaled n 0)
  | .real x => x.exact?
  | _ => none

/-- The first value is a smaller number than the second. -/
def Json.isLess (v w : Json) : Bool :=
  match v.number?, w.number? with
  | some x, some y => x.isLess y
  | _, _ => false

/-- The least number among values, or the first value if none is less. -/
def Json.least? : List Json → Option Json
  | [] => none
  | v :: vs => some (vs.foldl (fun best w => if w.isLess best then w else best) v)

/-- The words of a table as one text. -/
def Table.encoding (t : Table) : Except ConfigError LooseText :=
  match Json.least? t.others with
  | some v => .error (.entryNotText v)
  | none => .ok (.join "\x1f" t.words)

/-- All of a configuration that decides how a line is classified, as one text. -/
def Config.encoding (c : Config) : Except ConfigError LooseText := do
  let keywords ← c.keywords.encoding
  let punctuation ← c.punctuation.encoding
  let elementNames ← c.elementNames.encoding
  let switch ← c.unterminatedToEol.text.mapError .unwritableSwitch
  .ok (.join "\x1e" [keywords, punctuation, elementNames, switch])

def keyLength : Nat := 16

/-- The first `n` characters of a text; a negative count leaves off that many at the end. -/
def truncate (s : String) (n : Int) : String :=
  let count := if 0 ≤ n then n.toNat else s.length - n.natAbs
  String.ofList (s.toList.take count)

/-- The key under which lines classified with a configuration are kept. -/
def Config.key (c : Config) : Except ConfigError String := do
  let text ← c.encoding
  let digest ← (Digest.ofText text).mapError .loneSurrogates
  .ok (truncate digest keyLength)

end TagHighlight
