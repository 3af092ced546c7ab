import TagHighlight.Unicode.Basic
import TagHighlight.Unicode.Numeric

/-!
# Boundaries

Where names, words and tags begin and end. Every test looks at what is left of the line, never at
what has been read. The characters `<`, `>`, `/`, `=`, quotes and braces belong to no name.
-/

namespace TagHighlight.Lexer

open TagHighlight.Unicode (isBlank isLetter isAlphanumeric)

/-- The character may begin the name of a tag. A digit may not, so `i<10` opens no tag. -/
def isTagNameStart (c : Char) : Bool := isLetter c || c == '_'

def isTagNameChar (c : Char) : Bool := isAlphanumeric c || c == '_' || c == '.'

def isAttributeNameChar (c : Char) : Bool :=
  isAlphanumeric c || c == '_' || c == '-' || c == ':' || c == '$'

/-- A tag starts here: `<` and then a slash or the first character of a name. -/
def atTagStart : List Char → Bool
  | c :: d :: _ => c == '<' && (d == '/' || isTagNameStart d)
  | _ => false

def atTagClose : List Char → Bool
  | [] => false
  | c :: rest => c == '>' || (c == '/' && rest.head? == some '>')

def atComment : List Char → Bool
  | c :: d :: _ => c == '/' && d == '/'
  | _ => false

/-- A word of statement text ends here: before a blank or a tag. -/
def endsWord : List Char → Bool
  | [] => true
  | c :: rest => isBlank c || atTagStart (c :: rest)

/-- A chunk inside a tag ends here: before a blank or the close of the tag. -/
def endsChunk : List Char → Bool
  | [] => true
  | c :: rest => isBlank c || atTagClose (c :: rest)

/-- The text up to the first place where `stop` holds of what is left, and what is left. -/
def splitUntil (stop : List Char → Bool) : List Char → List Char × List Char
  | [] => ([], [])
  | c :: cs =>
    if stop (c :: cs) then ([], c :: cs)
    else (c :: (splitUntil stop cs).1, (splitUntil stop cs).2)

theorem splitUntil_append (stop : List Char → Bool) (cs : List Char) :
    (splitUntil stop cs).1 ++ (splitUntil stop cs).2 = cs := by
  induction cs with
  | nil => rfl
  | cons c cs ih =>
    unfold splitUntil
    split
    · rfl
    · simp [ih]

/-- The word that begins with `c`: it has at least that character. -/
def word (c : Char) (cs : List Char) : List Char × List Char :=
  (c :: (splitUntil endsWord cs).1, (splitUntil endsWord cs).2)

/-- The chunk that begins with `c`: it has at least that character. -/
def chunk (c : Char) (cs : List Char) : List Char × List Char :=
  (c :: (splitUntil endsChunk cs).1, (splitUntil endsChunk cs).2)

/-- The run of blanks at the start of a text, and what follows it. -/
def blankRun (cs : List Char) : List Char × List Char :=
  (cs.takeWhile isBlank, cs.dropWhile isBlank)

end TagHighlight.Lexer
