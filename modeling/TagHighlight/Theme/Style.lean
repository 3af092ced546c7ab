import TagHighlight.Json.Display
import TagHighlight.Text.Basic

/-!
# Styles

A style is a color and two switches, for italics and for bold type. The switches are kept as they
were given. A style is given as an object; the first member that is no part of a style is refused
before a missing color, and that before a color that is none. The name `self` stands for the style
itself, so a member of that name is refused for another reason than an unknown one.

A color is written as a hash sign and three or six hexadecimal digits of either case. One line feed
may follow the digits; it is kept as part of the color.
-/

namespace TagHighlight

/-! ### Colors -/

/-- The text without one line feed at its end. -/
def dropFinalFeed (cs : List Char) : List Char :=
  if cs.getLast? = some '\n' then cs.dropLast else cs

def isHexDigit (c : Char) : Bool := (Text.hexValue? c).isSome

def isColor : List Char → Bool
  | '#' :: cs =>
    let digits := dropFinalFeed cs
    (digits.length == 3 || digits.length == 6) && digits.all isHexDigit
  | _ => false

structure Color where
  text : String
  /-- It is written as a color. -/
  isColor_text : isColor text.toList = true

/-- The color that a text writes; a text with a lone surrogate writes none. -/
def Color.ofText? (t : LooseText) : Option Color :=
  match t.toString? with
  | .error _ => none
  | .ok s => if h : isColor s.toList = true then some ⟨s, h⟩ else none

/-! ### Styles -/

/-- How tokens of a category look. -/
structure Style where
  color : Color
  italic : Json := .bool false
  bold : Json := .bool false

/-- Why a style is refused. -/
inductive StyleError
  | unexpectedMember (name : LooseText)
  /-- A member has the name of the style itself. -/
  | selfMember
  | missingColor
  | colorNotText (given : Json)
  | badColor (given : LooseText)

def StyleError.raised : StyleError → Raised
  | unexpectedMember name =>
    ⟨.wrongType, "Style.__init__() got an unexpected keyword argument '" ++ name ++ "'"⟩
  | selfMember => ⟨.wrongType, "Style.__init__() got multiple values for argument 'self'"⟩
  | missingColor =>
    ⟨.wrongType, "Style.__init__() missing 1 required positional argument: 'color'"⟩
  | colorNotText given =>
    ⟨.wrongType, s!"expected string or bytes-like object, got '{given.kind}'"⟩
  | badColor given =>
    ⟨.theme, s!"Invalid color {Text.quoted given}, expected #rgb or #rrggbb"⟩

namespace Style

/-- The style with a color and switches as they are given. -/
def make? (color italic bold : Json) : Except StyleError Style :=
  match color with
  | .str s =>
    match Color.ofText? s with
    | some color => .ok ⟨color, italic, bold⟩
    | none => .error (.badColor s)
  | v => .error (.colorNotText v)

/-- The parts of a style by their names. -/
def memberNames : List LooseText := ["color", "italic", "bold"]

/-- Why no style has a member of this name. -/
def nameError? (name : LooseText) : Option StyleError :=
  if memberNames.contains name then none
  else if name = "self" then some .selfMember
  else some (.unexpectedMember name)

/-- The style of an object with the given members. -/
def ofMembers? (members : List (LooseText × Json)) : Except StyleError Style :=
  match members.findSome? fun m => nameError? m.1 with
  | some e => .error e
  | none =>
    let given := (Json.obj members).get?
    match given "color" with
    | none => .error .missingColor
    | some color =>
      make? color ((given "italic").getD (.bool false)) ((given "bold").getD (.bool false))

/-- The declarations of a style. -/
def css (s : Style) : String :=
  "color: " ++ s.color.text ++ (if s.italic.isOn then "; font-style: italic" else "")
    ++ (if s.bold.isOn then "; font-weight: bold" else "")

end Style

end TagHighlight
