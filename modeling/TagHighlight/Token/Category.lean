import TagHighlight.Text.Loose

/-!
# Categories of tokens

The kinds of text that a line is cut into: six for statement text and five for markup tags. The set
is closed, and the order of `Category.all` is the order in which categories are listed everywhere.
-/

namespace TagHighlight

/-- The kind of a token. -/
inductive Category
  | keyword
  | punctuation
  | stringLiteral
  | lineComment
  | whitespace
  | plain
  | tagBracket
  | componentName
  | elementName
  | attributeName
  | attributeOperator
  deriving DecidableEq

namespace Category

/-- All categories in order. -/
def all : List Category :=
  [keyword, punctuation, stringLiteral, lineComment, whitespace, plain, tagBracket, componentName,
    elementName, attributeName, attributeOperator]

def name : Category → String
  | keyword => "KEYWORD"
  | punctuation => "PUNCTUATION"
  | stringLiteral => "STRING_LITERAL"
  | lineComment => "LINE_COMMENT"
  | whitespace => "WHITESPACE"
  | plain => "PLAIN"
  | tagBracket => "TAG_BRACKET"
  | componentName => "COMPONENT_NAME"
  | elementName => "ELEMENT_NAME"
  | attributeName => "ATTRIBUTE_NAME"
  | attributeOperator => "ATTRIBUTE_OPERATOR"

/-- The category of a name, which has to be written exactly. -/
def ofName? (s : LooseText) : Option Category := all.find? fun c => c.name = s

/-- The place of a category in the order, counted from one. -/
def number (c : Category) : Nat := all.idxOf c + 1

theorem mem_all (c : Category) : c ∈ all := by cases c <;> decide

theorem ofName?_name (c : Category) : ofName? c.name = some c := by cases c <;> decide

theorem eq_name_of_ofName? {s : LooseText} {c : Category} (h : ofName? s = some c) : s = c.name := by
  have hname := List.find?_some h
  exact (of_decide_eq_true hname).symm

theorem ofName?_eq_some_iff {s : LooseText} {c : Category} : ofName? s = some c ↔ s = c.name :=
  ⟨eq_name_of_ofName?, fun h => h ▸ ofName?_name c⟩

end Category

end TagHighlight
