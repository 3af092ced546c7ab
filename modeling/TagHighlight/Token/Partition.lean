import TagHighlight.Token.Basic

/-!
# Partitions of a line

Tokens partition a line when none is empty, each starts where the one before it ends, and their
texts are the line from its first character to its last. The check reads tokens in order and tells
the first defect and the column up to which all was in order. The report of a defect shows integers,
so it can fail itself: at a column or a line number that cannot be written.
-/

namespace TagHighlight

/-- The first thing that is wrong with a partition. -/
inductive Defect
  | emptyToken (category : Category)
  /-- A token starts elsewhere than the one before it ends. -/
  | misplaced (category : Category) (col : Int) (expected : Nat)
  /-- The text of a token is not the text of the line at its place. -/
  | mismatch (category : Category) (text : String)
  /-- The tokens end before the line does. -/
  | uncovered (stop length : Nat)

/-- The integers that the message shows. -/
def Defect.shown : Defect → List Int
  | emptyToken _ => []
  | misplaced _ col expected => [col, expected]
  | mismatch _ _ => []
  | uncovered stop length => [stop, length]

def Defect.message (d : Defect) : Except OversizedInteger String :=
  showing d.shown <|
    match d with
    | emptyToken category => s!"Empty {category.name} token"
    | misplaced category col expected =>
      s!"{category.name} token starts at column {col}, expected {expected}"
    | mismatch category text =>
      s!"{category.name} token {Text.quoted text} does not match the line"
    | uncovered stop length => s!"Tokens end at column {stop}, line has {length}"

/-- A message with its place in front. A column is told only together with the line. -/
def located (detail : String) (lineno col : Option Int) : Except OversizedInteger String :=
  match lineno, col with
  | none, _ => .ok detail
  | some line, none => showing [line] s!"{line} {detail}"
  | some line, some col => showing [line, col] s!"{line}:{col} {detail}"

/-- A broken partition: what is wrong, in which line if that is known, and at which column. -/
structure PartitionError where
  defect : Defect
  lineno : Option Int
  col : Nat

def PartitionError.message (e : PartitionError) : Except OversizedInteger String := do
  located (← e.defect.message) e.lineno (some e.col)

def PartitionError.raised (e : PartitionError) : Raised :=
  .of .partition (e.message.map .ofString)

/-- The first defect of tokens against what is left of a line at a column, with the column at which
it shows. -/
def firstDefect (col : Nat) (rest : List Char) : List Token → Option (Defect × Nat)
  | [] => if rest.isEmpty then none else some (.uncovered col (col + rest.length), col)
  | t :: ts =>
    let text := t.text.toList
    if text.isEmpty then some (.emptyToken t.category, col)
    else if t.col ≠ col then some (.misplaced t.category t.col col, col)
    else if text.isPrefixOf rest then firstDefect (col + text.length) (rest.drop text.length) ts
    else some (.mismatch t.category t.text, col)

/-- Checks that tokens partition a line. -/
def verifyPartition (line : String) (tokens : List Token) (lineno : Option Int) :
    Except PartitionError Unit :=
  match firstDefect 0 line.toList tokens with
  | none => .ok ()
  | some (defect, col) => .error ⟨defect, lineno, col⟩

end TagHighlight
