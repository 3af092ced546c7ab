import TagHighlight.Report

/-!
# Failures of reading JSON

A text that is not JSON is refused at one place: the first at which no JSON text could go on as this
one does. The place is told by line, column and offset. An integer too long to be read is a failure
of another kind, without a place.
-/

namespace TagHighlight.Json

/-- Why a text is not JSON. -/
inductive Cause
  | byteOrderMark
  | noValue
  /-- The quoted name of a member is missing. -/
  | noName
  | noColon
  /-- After a value there is neither a comma nor the closing bracket. -/
  | noComma
  | extraData
  | unterminatedText
  | controlCharacter
  /-- No escape is written so. -/
  | unknownEscape
  /-- The escape of a code unit is not complete. -/
  | badUnitEscape

def Cause.message : Cause → String
  | byteOrderMark => "Unexpected UTF-8 BOM (decode using utf-8-sig)"
  | noValue => "Expecting value"
  | noName => "Expecting property name enclosed in double quotes"
  | noColon => "Expecting ':' delimiter"
  | noComma => "Expecting ',' delimiter"
  | extraData => "Extra data"
  | unterminatedText => "Unterminated string starting at"
  | controlCharacter => "Invalid control character at"
  | unknownEscape => "Invalid \\escape"
  | badUnitEscape => "Invalid \\uXXXX escape"

structure Place where
  line : Nat
  column : Nat
  /-- The number of characters before the place. -/
  offset : Nat

/-- The place after the first `offset` characters of a text. -/
def Place.ofOffset (text : List Char) (offset : Nat) : Place :=
  let before := text.take offset
  { line := before.count '\n' + 1
    column := (before.reverse.takeWhile (· != '\n')).length + 1
    offset }

def Place.message (p : Place) : String :=
  s!"line {p.line} column {p.column} (char {p.offset})"

/-- Why a text is not read as a JSON value. -/
inductive ReadError
  /-- It is not JSON from some place on. -/
  | malformed (cause : Cause) (place : Place)
  /-- It holds an integer of more digits than the limit. -/
  | oversizedInteger (digits : Nat)

def ReadError.message : ReadError → String
  | malformed cause place => cause.message ++ ": " ++ place.message
  | oversizedInteger digits =>
    s!"Exceeds the limit ({digitLimit} digits) for integer string conversion: value has " ++
      s!"{digits} digits; use sys.set_int_max_str_digits() to increase the limit"

end TagHighlight.Json
