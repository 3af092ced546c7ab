/-!
# Lines, parts and digits

A text is cut into lines at its line feeds and at nothing else: a return, a form feed or a line
separator stays inside its line. A text has one line more than it has line feeds, so the empty text
is one empty line.

A text can also be collected part by part and joined once at its end. Empty parts are not kept, so
the number of parts counts what was really added.

Numbers are written with a fixed count of lower-case hexadecimal digits, most significant first, and
one digit of either case is read back.
-/

namespace TagHighlight.Text

/-! ### Lines -/

/-- The stretches between the line feeds. -/
def splitFeeds : List Char → List (List Char)
  | [] => [[]]
  | c :: cs =>
    if c = '\n' then [] :: splitFeeds cs
    else match splitFeeds cs with
      | [] => [[c]]
      | line :: lines => (c :: line) :: lines

theorem flatMap_splitFeeds (cs : List Char) :
    (splitFeeds cs).flatMap (· ++ ['\n']) = cs ++ ['\n'] := by
  induction cs with
  | nil => rfl
  | cons c cs ih =>
    rw [splitFeeds]
    split
    · rename_i hc
      rw [List.flatMap_cons, ih, hc]
      rfl
    · split
      · rename_i hnil
        rw [hnil] at ih
        cases cs <;> cases ih
      · rename_i line lines hlines
        rw [hlines, List.flatMap_cons] at ih
        rw [List.flatMap_cons, List.cons_append, List.cons_append, ih]
        rfl

def lines (text : String) : List String := (splitFeeds text.toList).map String.ofList

/-- The lines of a text, each with a line feed, are the text with a line feed. -/
theorem join_lines (text : String) : String.join ((lines text).map (· ++ "\n")) = text ++ "\n" := by
  have hfeeds := flatMap_splitFeeds text.toList
  rw [lines, List.map_map, ← String.toList_inj, String.toList_join, List.flatMap_map,
    String.toList_append]
  simpa [String.toList_append] using hfeeds

def joinLines (ls : List String) : String := "\n".intercalate ls

/-! ### Parts -/

structure Parts where
  /-- The parts in order, none of them empty. -/
  parts : List String := []

namespace Parts

/-- Adds a part; an empty one leaves the parts as they are. -/
def append (p : Parts) (s : String) : Parts := if s = "" then p else ⟨p.parts ++ [s]⟩

def appendLine (p : Parts) (s : String) : Parts := (p.append s).append "\n"

def size (p : Parts) : Nat := p.parts.length

def build (p : Parts) : String := String.join p.parts

end Parts

/-! ### Hexadecimal digits -/

/-- The lower-case digit of a value below sixteen. -/
def hexDigit (n : Nat) : Char :=
  if n < 10 then Char.ofNat (0x30 + n) else Char.ofNat (0x57 + n)

/-- The last `width` hexadecimal digits of a number. -/
def hex : (width : Nat) → Nat → List Char
  | 0, _ => []
  | width + 1, n => hex width (n / 16) ++ [hexDigit (n % 16)]

/-- The value of a hexadecimal digit of either case; only ASCII digits have one. -/
def hexValue? (c : Char) : Option Nat :=
  if '0' ≤ c ∧ c ≤ '9' then some (c.toNat - 0x30)
  else if 'a' ≤ c ∧ c ≤ 'f' then some (c.toNat - 0x57)
  else if 'A' ≤ c ∧ c ≤ 'F' then some (c.toNat - 0x37)
  else none

end TagHighlight.Text
