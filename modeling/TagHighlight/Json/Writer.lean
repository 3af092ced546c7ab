import TagHighlight.Json.Basic
import TagHighlight.Number.Display
import TagHighlight.Report
import TagHighlight.Text.Basic

/-!
# Writing JSON

Values are written in ASCII: a code point outside the printable ASCII range becomes `\uXXXX`, and
one beyond the basic plane becomes a pair of surrogates. Without an indent everything stands on one
line with a space after commas and colons. With an indent every item has a line of its own, set in
by that many spaces for each level; an indent of zero or less gives the lines without spaces. Empty
lists and objects stay on one line.

The spaces of an indent are counted in a signed machine word, so an indent that does not fit into one
is refused, whatever the value. A value with an integer of too many digits is refused as well.
-/

namespace TagHighlight.Json

open TagHighlight.Number (displayDouble)
open TagHighlight.Text (hex)

/-- A code unit of 16 bits after a backslash. -/
def unitEscape (n : Nat) : List Char := '\\' :: 'u' :: hex 4 n

/-- A character inside a written text. -/
def writeChar (c : Char) : List Char :=
  if c = '\x22' ∨ c = '\\' then ['\\', c]
  else if c = '\n' then ['\\', 'n']
  else if c = '\r' then ['\\', 'r']
  else if c = '\t' then ['\\', 't']
  else if c = '\x08' then ['\\', 'b']
  else if c = '\x0c' then ['\\', 'f']
  else if ' ' ≤ c ∧ c ≤ '~' then [c]
  else
    let n := c.toNat
    if n < 0x10000 then unitEscape n
    else unitEscape (0xD800 + (n - 0x10000) / 0x400) ++ unitEscape (0xDC00 + (n - 0x10000) % 0x400)

/-- A code point inside a written text. -/
def writePoint : CodePoint → List Char
  | .char c => writeChar c
  | p => unitEscape p.toNat

/-- A written text. -/
def writeText (t : LooseText) : List Char :=
  '\x22' :: t.points.flatMap writePoint ++ ['\x22']

/-- A real number; the infinities and the value that is no number have names. -/
def writeReal (x : Double) : List Char :=
  match x with
  | .nan => "NaN".toList
  | .infinite negative => if negative then "-Infinity".toList else "Infinity".toList
  | x => (displayDouble x).toList

/-- The start of a new line at a level, or nothing without an indent. -/
def lineBreak (indent : Option Int) (level : Nat) : List Char :=
  match indent with
  | none => []
  | some n => '\n' :: List.replicate (n.toNat * level) ' '

/-- What stands between two items at a level. -/
def separator (indent : Option Int) (level : Nat) : List Char :=
  match indent with
  | none => [',', ' ']
  | some _ => ',' :: lineBreak indent level

mutual

/-- A value as it is written at a level. -/
def write (indent : Option Int) (level : Nat) : Json → List Char
  | null => "null".toList
  | bool b => if b then "true".toList else "false".toList
  | int n => (toString n).toList
  | real x => writeReal x
  | str s => writeText s
  | arr [] => ['[', ']']
  | arr (v :: vs) =>
    '[' :: lineBreak indent (level + 1) ++ write indent (level + 1) v
      ++ writeItems indent (level + 1) vs ++ lineBreak indent level ++ [']']
  | obj [] => ['\x7b', '\x7d']
  | obj ((name, v) :: ms) =>
    '\x7b' :: lineBreak indent (level + 1) ++ writeText name ++ [':', ' ']
      ++ write indent (level + 1) v ++ writeMembers indent (level + 1) ms
      ++ lineBreak indent level ++ ['\x7d']

/-- The items after the first one, each after a separator. -/
def writeItems (indent : Option Int) (level : Nat) : List Json → List Char
  | [] => []
  | v :: vs => separator indent level ++ write indent level v ++ writeItems indent level vs

/-- The members after the first one, each after a separator. -/
def writeMembers (indent : Option Int) (level : Nat) : List (LooseText × Json) → List Char
  | [] => []
  | (name, v) :: ms =>
    separator indent level ++ writeText name ++ [':', ' '] ++ write indent level v
      ++ writeMembers indent level ms

end

/-- Why a value is not written. -/
inductive WriteError
  | indent (given : Int)
  | integer (e : OversizedInteger)

def WriteError.raised : WriteError → Raised
  | indent _ => ⟨.overflow, "cannot fit 'int' into an index-sized integer"⟩
  | integer e => e.raised

/-- The number of spaces can be counted. -/
def IsIndent (n : Int) : Prop := -0x8000000000000000 ≤ n ∧ n < 0x8000000000000000

instance (n : Int) : Decidable (IsIndent n) := inferInstanceAs (Decidable (_ ∧ _))

def toText (v : Json) (indent : Option Int) : Except WriteError String :=
  match indent.filter fun n => ¬IsIndent n with
  | some n => .error (.indent n)
  | none => (showing v.integers (String.ofList (write indent 0 v))).mapError .integer

end TagHighlight.Json
