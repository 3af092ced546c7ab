import TagHighlight.Theme.Style
import TagHighlight.Token.Category
import TagHighlight.Unicode.CaseMap

/-!
# Themes

A theme gives styles to categories. A category without a style of its own looks like plain text, so
a theme always has a style for plain text. A theme is read from items in order: the key names a
category in any capitalisation, and the value is a color or an object with the parts of a style. A
later item for a category replaces an earlier one, and the first item that is wrong is told.

The default theme has light colors for a dark background. Every category has a style; only comments
are set in italics.
-/

namespace TagHighlight

open TagHighlight.Text (quoted)

/-- The styles of categories. -/
structure Theme where
  name : LooseText
  styles : Category → Option Style
  /-- The style of plain text. -/
  plain : Style
  styles_plain : styles .plain = some plain

namespace Theme

/-- The category has a style of its own. -/
def covers (t : Theme) (c : Category) : Bool := (t.styles c).isSome

/-- The style of a category, or else the style of plain text. -/
def style (t : Theme) (c : Category) : Style := (t.styles c).getD t.plain

end Theme

/-! ### Reading a theme -/

/-- Why a theme is refused. -/
inductive ThemeError
  | keyNotText (theme : LooseText) (key : Json)
  | unknownCategory (theme key : LooseText)
  /-- The object of a key is not a style. -/
  | badStyle (theme key : LooseText) (cause : StyleError)
  | badColor (given : LooseText)
  /-- The value of a key is neither a color nor an object. -/
  | notAStyle (theme key : LooseText)
  | noPlain (theme : LooseText)

def ThemeError.message : ThemeError → Except OversizedInteger LooseText
  | keyNotText theme key => do
    return s!"Theme {quoted theme}: category names must be strings, got {← key.display}"
  | unknownCategory theme key => .ok s!"Theme {quoted theme}: unknown category {quoted key}"
  | badStyle theme key cause =>
    .ok (s!"Theme {quoted theme}: bad style for {quoted key}: " ++ cause.raised.message)
  | badColor given => .ok (StyleError.badColor given).raised.message
  | notAStyle theme key =>
    .ok s!"Theme {quoted theme}: style for {quoted key} must be a color or a mapping"
  | noPlain theme => .ok s!"Theme {quoted theme} must define a style for PLAIN"

def ThemeError.raised (e : ThemeError) : Raised := .of .theme e.message

/-- The reason why an item of a theme is refused for its style. -/
def ThemeError.ofStyle (theme key : LooseText) : StyleError → ThemeError
  | .badColor given => .badColor given
  | cause => .badStyle theme key cause

/-- The category and the style of an item. -/
def themeItem? (theme : LooseText) (item : Json × Json) : Except ThemeError (Category × Style) :=
  match item.1 with
  | .str key =>
    match Category.ofName? key.upper with
    | none => .error (.unknownCategory theme key)
    | some category =>
      match item.2 with
      | .str s =>
        ((Style.make? (.str s) (.bool false) (.bool false)).map (category, ·)).mapError
          (ThemeError.ofStyle theme key)
      | .obj members =>
        ((Style.ofMembers? members).map (category, ·)).mapError (ThemeError.ofStyle theme key)
      | _ => .error (.notAStyle theme key)
  | key => .error (.keyNotText theme key)

/-- The styles after one more category has got its style. -/
def addStyle (styles : Category → Option Style) (item : Category × Style) :
    Category → Option Style :=
  fun c => if c = item.1 then some item.2 else styles c

def Theme.ofStyles? (name : LooseText) (styles : Category → Option Style) :
    Except ThemeError Theme :=
  match h : styles .plain with
  | none => .error (.noPlain name)
  | some plain => .ok ⟨name, styles, plain, h⟩

/-- The theme of items in order. -/
def Theme.ofItems? (name : LooseText) (items : List (Json × Json)) : Except ThemeError Theme := do
  let styles ← items.mapM (themeItem? name)
  Theme.ofStyles? name (styles.foldl addStyle fun _ => none)

/-! ### The default theme -/

namespace Theme

def lavender : Color := ⟨"#cba6f7", by decide⟩

def teal : Color := ⟨"#94e2d5", by decide⟩

def blue : Color := ⟨"#578FD6", by decide⟩

def green : Color := ⟨"#a6e3a1", by decide⟩

def yellow : Color := ⟨"#f9e2af", by decide⟩

def grey : Color := ⟨"#6c7086", by decide⟩

def pale : Color := ⟨"#cdd6f4", by decide⟩

def defaultStyle : Category → Style
  | .keyword => { color := lavender }
  | .punctuation | .tagBracket | .attributeOperator => { color := teal }
  | .componentName | .elementName => { color := blue }
  | .attributeName => { color := green }
  | .stringLiteral => { color := yellow }
  | .lineComment => { color := grey, italic := .bool true }
  | .whitespace | .plain => { color := pale }

def default : Theme :=
  { name := "default"
    styles := fun c => some (defaultStyle c)
    plain := defaultStyle .plain
    styles_plain := rfl }

end Theme

end TagHighlight
