import TagHighlight.Lexer.Run
import TagHighlight.Report
import TagHighlight.Theme.Basic

/-!
# Rendering to HTML

Lines of tokens become one `pre` element with a `div` for each line. A token is a `span` with its
style, or with the class of its category; blanks are bare text. A line without tokens holds a line
break, so that it keeps its height. With styles, a category that the theme does not cover is warned
of once.

Five characters have a meaning in markup and in attributes; each is written as an entity. All others
stand for themselves.
-/

namespace TagHighlight

/-- The class of a category in a style sheet. -/
def Category.cssClass (c : Category) : String :=
  "jl-" ++ String.ofList (c.name.toList.map fun d => if d = '_' then '-' else d.toLower)

namespace Html

open TagHighlight.Text (apostrophe doubleQuote)

/-- A character as it is written in HTML. -/
def escapeChar (c : Char) : List Char :=
  if c = '&' then "&amp;".toList
  else if c = '<' then "&lt;".toList
  else if c = '>' then "&gt;".toList
  else if c = doubleQuote then "&quot;".toList
  else if c = apostrophe then "&#x27;".toList
  else [c]

def escape (s : String) : String := String.ofList (s.toList.flatMap escapeChar)

/-- How lines are rendered. -/
structure Renderer where
  theme : Theme := Theme.default
  showLinenos : Bool := false
  /-- Tokens carry classes and no styles. -/
  cssClasses : Bool := false

namespace Renderer

/-- The attribute that gives a token its look. -/
def appearance (r : Renderer) (c : Category) : String :=
  if r.cssClasses then "class=\"" ++ c.cssClass ++ "\""
  else "style=\"" ++ (r.theme.style c).css ++ "\""

def token (r : Renderer) (t : Token) : String :=
  if t.category = .whitespace then escape t.text
  else "<span " ++ r.appearance t.category ++ ">" ++ escape t.text ++ "</span>"

def lineNumber (r : Renderer) (lineno : Nat) : String :=
  if r.showLinenos then "<span class=\"lineno\">" ++ toString lineno ++ "</span>" else ""

def content (r : Renderer) (ts : List Token) : String :=
  if ts.isEmpty then "<br>" else String.join (ts.map r.token)

def line (r : Renderer) (lineno : Nat) (ts : List Token) : String :=
  "<div class=\"line\">" ++ r.lineNumber lineno ++ r.content ts ++ "</div>\n"

def render (r : Renderer) (ls : List (List Token)) : String :=
  "<pre class=\"jsxlight\">\n" ++ String.join ((ls.zipIdx 1).map fun (ts, n) => r.line n ts)
    ++ "</pre>\n"

/-- The categories that are neither seen nor covered, in order, each once. -/
def uncovered (theme : Theme) (seen : List Category) : List Category → List Category
  | [] => []
  | c :: cs =>
    if seen.contains c || theme.covers c then uncovered theme seen cs
    else c :: uncovered theme (c :: seen) cs

/-- The warning of a category without a style. -/
def warning (theme : Theme) (c : Category) : Log.Record :=
  { level := .warning
    logger := Log.loggerName "renderers.html"
    message := s!"Theme {Text.quoted theme.name} has no style for {c.name}, using plain style" }

def warnings (r : Renderer) (ls : List (List Token)) : List Log.Record :=
  if r.cssClasses then []
  else
    let used := (ls.flatten.map Token.category).filter fun c => c ≠ .whitespace
    (uncovered r.theme [] used).map (warning r.theme)

def rule (r : Renderer) (c : Category) : String :=
  ".jsxlight ." ++ c.cssClass ++ " \x7b " ++ (r.theme.style c).css ++ " \x7d\n"

/-- The style sheet for tokens that carry classes. -/
def stylesheet (r : Renderer) : String :=
  String.join ((Category.all.filter fun c => c ≠ .whitespace).map r.rule)

end Renderer

end Html

/-- A text in HTML, and the warnings of its rendering. -/
def highlight (config : Config) (theme : Theme) (showLinenos : Bool) (text : String) :
    Except PartitionError (String × List Log.Record) := do
  let lines ← classify config text
  let renderer : Html.Renderer := { theme, showLinenos }
  .ok (renderer.render lines, renderer.warnings lines)

end TagHighlight
