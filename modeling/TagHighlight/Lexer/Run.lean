import TagHighlight.Lexer.Progress
import TagHighlight.Token.Partition

/-!
# Lexing a line

A line is read step by step until nothing is left. A lexeme becomes a token when its column is
known, which is the length of all that stands before it.

A text is classified line by line, and no line knows of another. In strict mode the tokens of every
line are checked to be a partition of it.
-/

namespace TagHighlight.Lexer

/-- The steps that read a text to its end. -/
def run (config : Config) (mode : Mode) : List Char → List Step
  | [] => []
  | c :: cs =>
    step config mode c cs ::
      run config (step config mode c cs).mode (step config mode c cs).rest
termination_by cs => weight mode cs
decreasing_by exact weight_step_lt config mode c cs

def lexemes (steps : List Step) : List Lexeme := steps.flatMap Step.lexemes

def finalMode (mode : Mode) (steps : List Step) : Mode := (steps.getLast?.map Step.mode).getD mode

/-- The tokens of lexemes that stand one after the other from a column on. -/
def place (col : Nat) : List Lexeme → List Token
  | [] => []
  | l :: ls => ⟨String.ofList l.chars, l.category, col⟩ :: place (col + l.chars.length) ls

/-- The tokens of one step, and where and in which mode it ends. -/
structure Stage where
  tokens : List Token
  /-- The column after them. -/
  stop : Nat
  mode : Mode

/-- The stages of steps that begin at a column. -/
def stages (col : Nat) : List Step → List Stage
  | [] => []
  | s :: ss =>
    let stop := col + (textOf s.lexemes).length
    ⟨place col s.lexemes, stop, s.mode⟩ :: stages stop ss

/-- The stages of a line, from its start and in statement text. -/
def trace (config : Config) (line : String) : List Stage :=
  stages 0 (run config .statement line.toList)

/-- The stage that reads a line from a column on in a mode, to its end. -/
def resume (config : Config) (line : String) (col : Nat) (mode : Mode) : Stage :=
  let steps := run config mode (line.toList.drop col)
  ⟨place col (lexemes steps), col + (textOf (lexemes steps)).length, finalMode mode steps⟩

def tokens (config : Config) (line : String) : List Token :=
  place 0 (lexemes (run config .statement line.toList))

end TagHighlight.Lexer

namespace TagHighlight

/-- The tokens of a line, checked if the configuration asks for it. -/
def classifyLine (config : Config) (line : String) (lineno : Option Int) :
    Except PartitionError (List Token) :=
  let tokens := Lexer.tokens config line
  if config.strict.isOn then
    match verifyPartition line tokens lineno with
    | .ok () => .ok tokens
    | .error e => .error e
  else .ok tokens

/-- The tokens of lines that are numbered from `lineno` on. -/
def classifyLines (config : Config) (lineno : Nat) :
    List String → Except PartitionError (List (List Token))
  | [] => .ok []
  | line :: rest => do
    let tokens ← classifyLine config line (some lineno)
    let others ← classifyLines config (lineno + 1) rest
    .ok (tokens :: others)

def classify (config : Config) (text : String) : Except PartitionError (List (List Token)) :=
  classifyLines config 1 (Text.lines text)

end TagHighlight
