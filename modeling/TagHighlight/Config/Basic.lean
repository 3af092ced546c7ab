import TagHighlight.Config.Table
import TagHighlight.Unicode.CaseMap

/-!
# Configurations

A configuration holds the tables that words and tag names are looked up in, what becomes of a quote
that is never closed, and whether the tokens of every line are checked. The element names are kept
in lower case, so that a tag name matches one however it is capitalised.
-/

namespace TagHighlight

def defaultKeywords : List LooseText :=
  ["import", "from", "const", "let", "var", "function", "return", "export", "default", "="]

def defaultPunctuation : List LooseText := ["\x7b", "\x7d", "(", ")", "[", "]", ",", ";"]

def defaultElementNames : List LooseText :=
  ["div", "h1", "h2", "h3", "h4", "h5", "h6", "p", "span", "a", "img", "ul", "ol", "li", "button",
    "input", "form", "label"]

/-- How lines are classified. The two switches are kept as they were given. -/
structure Config where
  keywords : Table
  punctuation : Table
  /-- The known element names, in lower case. -/
  elementNames : Table
  /-- A quote inside a tag that is never closed takes the rest of the line; otherwise it stands for
  itself and the line goes on after it. -/
  unterminatedToEol : Json
  /-- The tokens of every line are checked. -/
  strict : Json

namespace Config

/-- The configuration with the given tables and switches; element names are lowered. -/
def make (keywords punctuation elementNames : Table) (unterminatedToEol strict : Json) : Config :=
  { keywords, punctuation, elementNames := elementNames.map LooseText.lower, unterminatedToEol
    strict }

def default : Config :=
  make (.ofWords defaultKeywords) (.ofWords defaultPunctuation) (.ofWords defaultElementNames)
    (.bool true) (.bool false)

end Config

end TagHighlight
