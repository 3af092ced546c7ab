import TagHighlight.Report
import TagHighlight.Text.Quoted
import TagHighlight.Token.Category

/-!
# Tokens

A token is a stretch of one line with a category and the column it starts at. Two tokens agree when
their texts and categories are equal; the column does not count.
-/

namespace TagHighlight

structure Token where
  text : String
  category : Category
  /-- The column of the first character, counted from zero. -/
  col : Int := 0
  deriving DecidableEq

namespace Token

/-- The column after the last character. -/
def stop (t : Token) : Int := t.col + t.text.length

/-- The token some columns further on. -/
def shift (n : Nat) (t : Token) : Token := { t with col := t.col + n }

def agrees (t u : Token) : Bool := t.text == u.text && t.category == u.category

/-- The text shown for a token: more than twenty characters are cut to seventeen and three dots. -/
def excerpt (t : Token) : String :=
  if t.text.length > 20 then String.ofList (t.text.toList.take 17) ++ "..." else t.text

/-- A token on one line, for people to read. -/
def label (t : Token) : Except OversizedInteger String :=
  showing [t.col] s!"Token({t.category.name}, {Text.quoted t.excerpt}, {t.col})"

end Token

end TagHighlight
