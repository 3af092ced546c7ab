import TagHighlight.Json.Basic
import TagHighlight.Number.Display
import TagHighlight.Report
import TagHighlight.Text.Quoted

/-!
# Values in messages

A message shows a value on one line: texts are quoted, numbers are written in decimal, lists and
objects have one space after each comma and colon, and the three constants are capitalised words. A
value with an integer that cannot be written is not shown at all.
-/

namespace TagHighlight.Json

open TagHighlight.Number (displayDouble)
open TagHighlight.Text (quoted)

mutual

/-- The look of a value, whatever the size of its integers. -/
def look : Json → String
  | null => "None"
  | bool b => if b then "True" else "False"
  | int n => toString n
  | real x => displayDouble x
  | str s => quoted s
  | arr items => "[" ++ ", ".intercalate (lookOfItems items) ++ "]"
  | obj members => "\x7b" ++ ", ".intercalate (lookOfMembers members) ++ "\x7d"

def lookOfItems : List Json → List String
  | [] => []
  | v :: vs => look v :: lookOfItems vs

def lookOfMembers : List (LooseText × Json) → List String
  | [] => []
  | (name, v) :: ms => (quoted name ++ ": " ++ look v) :: lookOfMembers ms

end

/-- The value as a message shows it. -/
def display (v : Json) : Except OversizedInteger String := showing v.integers v.look

/-- The value as text: a text is itself, and any other value is shown as in a message. -/
def text : Json → Except OversizedInteger LooseText
  | str s => .ok s
  | v => v.display.map .ofString

end TagHighlight.Json
