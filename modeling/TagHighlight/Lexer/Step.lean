import TagHighlight.Config.Basic
import TagHighlight.Lexer.Boundary
import TagHighlight.Lexer.Delimited
import TagHighlight.Token.Category
import TagHighlight.Unicode.Uppercase

/-!
# Steps of the lexer

A line is statement text until a tag starts. The bracket and the name of a tag are read in one mode
and the rest of the tag, up to its closing bracket, in another; after the bracket the line is
statement text again.

One step cuts some lexemes off the front of what is left of a line, and tells the mode in which the
rest is read. The only step that takes nothing is the one from statement text to the start of a tag.

* Statement text: a run of blanks, a comment to the end of the line, or a word.
* The start of a tag: its bracket, and its name if it has one.
* The inside of a tag: a run of blanks, the closing bracket, an attribute with its value, or text
  that is none of these.

A word of statement text is looked up in the keyword table, then in the punctuation table; a word in
neither table is a string literal if it begins with a quote. A tag name that begins with an
uppercase character or holds a point is a component; any other one is an element if its lowercase
form is in the table of elements, and else a component too.

A step is given a character of the line, so what it does with the line never runs past its end. The
character after that one is looked at only behind a test that there is one, except at the start of a
tag, which is entered only where two characters are left; and a word or a name is categorised by its
first character only when it has one.
-/

namespace TagHighlight.Lexer

open TagHighlight.Text (isQuote)
open TagHighlight.Unicode (isBlank isUppercase lower)

/-! ### Modes -/

/-- What kind of text comes next. -/
inductive Mode
  | statement
  /-- The bracket that opens a tag, and its name. -/
  | tagOpen
  /-- The inside of a tag after its name. -/
  | attributes
  deriving DecidableEq

namespace Mode

def all : List Mode := [statement, tagOpen, attributes]

def name : Mode → String
  | statement => "DEFAULT"
  | tagOpen => "TAG_OPEN"
  | attributes => "ATTRIBUTES"

def ofName? (s : String) : Option Mode := all.find? fun m => m.name == s

/-- The place of a mode in the order, counted from one. -/
def number (m : Mode) : Nat := all.idxOf m + 1

end Mode

/-! ### Categories of words and names -/

def wordCategory (config : Config) (cs : List Char) : Category :=
  if config.keywords.contains (String.ofList cs) then .keyword
  else if config.punctuation.contains (String.ofList cs) then .punctuation
  else if cs.head?.any isQuote then .stringLiteral
  else .plain

/-- The category of a tag name. -/
def nameCategory (config : Config) (cs : List Char) : Category :=
  if cs.head?.any isUppercase || cs.contains '.' then .componentName
  else if config.elementNames.contains (lower (String.ofList cs)) then .elementName
  else .componentName

/-! ### Steps -/

/-- A stretch of a line with its category. -/
structure Lexeme where
  category : Category
  chars : List Char

/-- What one step cuts off, and how it goes on. -/
structure Step where
  lexemes : List Lexeme
  mode : Mode
  /-- What is left of the line. -/
  rest : List Char

def statementStep (config : Config) (c : Char) (cs : List Char) : Step :=
  if isBlank c then
    ⟨[⟨.whitespace, (blankRun (c :: cs)).1⟩], .statement, (blankRun (c :: cs)).2⟩
  else if atTagStart (c :: cs) then ⟨[], .tagOpen, c :: cs⟩
  else if atComment (c :: cs) then ⟨[⟨.lineComment, c :: cs⟩], .statement, []⟩
  else
    let (text, rest) := word c cs
    ⟨[⟨wordCategory config text, text⟩], .statement, rest⟩

/-- The bracket that opens a tag, and what follows it: a slash after the first character belongs to
it. -/
def openingBracket (c : Char) : List Char → List Char × List Char
  | '/' :: cs => ([c, '/'], cs)
  | cs => ([c], cs)

/-- The lexeme of a text, which is categorised only if it is not empty. -/
def lexeme? (category : List Char → Category) (chars : List Char) : List Lexeme :=
  if chars.isEmpty then [] else [⟨category chars, chars⟩]

def tagOpenStep (config : Config) (c : Char) (cs : List Char) : Step :=
  let (bracket, rest) := openingBracket c cs
  let name := rest.takeWhile isTagNameChar
  ⟨⟨.tagBracket, bracket⟩ :: lexeme? (nameCategory config) name, .attributes,
    rest.dropWhile isTagNameChar⟩

/-- Text that follows a closed value without a blank is the rest of the same chunk. -/
def chunkTail : List Char → List Lexeme × List Char
  | [] => ([], [])
  | c :: cs =>
    if endsChunk (c :: cs) then ([], c :: cs)
    else ([⟨.plain, (chunk c cs).1⟩], (chunk c cs).2)

/-- The value that begins with `c`: a quoted text, a braced text or a chunk. -/
def value (toEol : Bool) (c : Char) (cs : List Char) : List Lexeme × List Char :=
  if isQuote c then
    match throughQuote c cs with
    | some (inside, rest) =>
      (⟨.stringLiteral, c :: inside⟩ :: (chunkTail rest).1, (chunkTail rest).2)
    | none =>
      if toEol then ([⟨.stringLiteral, c :: cs⟩], []) else ([⟨.plain, [c]⟩], cs)
  else if c = '\x7b' then
    let (text, rest) := braced (c :: cs)
    (⟨.plain, text⟩ :: (chunkTail rest).1, (chunkTail rest).2)
  else ([⟨.plain, (chunk c cs).1⟩], (chunk c cs).2)

/-- The value after the sign of an attribute, if one follows directly. -/
def attributeValue (toEol : Bool) : List Char → List Lexeme × List Char
  | [] => ([], [])
  | c :: cs => if endsChunk (c :: cs) then ([], c :: cs) else value toEol c cs

/-- What follows the name of an attribute: the sign and the value, if there is a sign. -/
def assignment (toEol : Bool) : List Char → List Lexeme × List Char
  | '=' :: cs =>
    (⟨.attributeOperator, ['=']⟩ :: (attributeValue toEol cs).1, (attributeValue toEol cs).2)
  | cs => ([], cs)

/-- The bracket that closes a tag, and what follows it. -/
def closingBracket (c : Char) (cs : List Char) : List Char × List Char :=
  if c = '>' then ([c], cs) else (c :: cs.take 1, cs.drop 1)

def attributesStep (toEol : Bool) (c : Char) (cs : List Char) : Step :=
  if isBlank c then
    ⟨[⟨.whitespace, (blankRun (c :: cs)).1⟩], .attributes, (blankRun (c :: cs)).2⟩
  else if atTagClose (c :: cs) then
    ⟨[⟨.tagBracket, (closingBracket c cs).1⟩], .statement, (closingBracket c cs).2⟩
  else if isAttributeNameChar c then
    let rest := cs.dropWhile isAttributeNameChar
    ⟨⟨.attributeName, c :: cs.takeWhile isAttributeNameChar⟩ :: (assignment toEol rest).1,
      .attributes, (assignment toEol rest).2⟩
  else ⟨(value toEol c cs).1, .attributes, (value toEol c cs).2⟩

def step (config : Config) (mode : Mode) (c : Char) (cs : List Char) : Step :=
  match mode with
  | .statement => statementStep config c cs
  | .tagOpen => tagOpenStep config c cs
  | .attributes => attributesStep config.unterminatedToEol.isOn c cs

end TagHighlight.Lexer
