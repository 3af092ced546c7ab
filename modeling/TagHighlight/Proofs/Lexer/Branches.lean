import TagHighlight.Proofs.Lexer.Boundary

/-!
# What a step can do

`Branch` lists the ways a step can go in each mode, with the tests that lead there and all that the
step then cuts off. `branch_step` says that every step goes one of these ways, so a property of steps
is proved by cases on `Branch`, and the nested tests are opened here and nowhere else.

A value is one lexeme, or a closed text with the rest of its chunk behind it. `IsValue` is the
shape of its categories.
-/

namespace TagHighlight.Lexer

open TagHighlight.Text (isQuote)
open TagHighlight.Unicode (isBlank)

/-! ### The ways a step can go -/

/-- The ways a step can go in a mode, on a text that begins with a given character. -/
inductive Branch (config : Config) : Mode → Char → List Char → Step → Prop
  | blanks {mode : Mode} {c : Char} {cs : List Char} (hmode : mode ≠ .tagOpen)
      (hblank : isBlank c = true) :
      Branch config mode c cs
        ⟨[⟨.whitespace, (blankRun (c :: cs)).1⟩], mode, (blankRun (c :: cs)).2⟩
  | tagStart {c : Char} {cs : List Char} (htag : atTagStart (c :: cs) = true) :
      Branch config .statement c cs ⟨[], .tagOpen, c :: cs⟩
  | comment {c : Char} {cs : List Char} (hblank : isBlank c = false)
      (hcomment : atComment (c :: cs) = true) :
      Branch config .statement c cs ⟨[⟨.lineComment, c :: cs⟩], .statement, []⟩
  | word {c : Char} {cs : List Char} (hblank : isBlank c = false)
      (htag : atTagStart (c :: cs) = false) (hcomment : atComment (c :: cs) = false) :
      Branch config .statement c cs
        ⟨[⟨wordCategory config (word c cs).1, (word c cs).1⟩], .statement, (word c cs).2⟩
  | head {c : Char} {cs : List Char} : Branch config .tagOpen c cs (tagOpenStep config c cs)
  | close {c : Char} {cs : List Char} (hclose : atTagClose (c :: cs) = true) :
      Branch config .attributes c cs
        ⟨[⟨.tagBracket, (closingBracket c cs).1⟩], .statement, (closingBracket c cs).2⟩
  /-- An attribute with what is assigned to it. -/
  | named {c : Char} {cs : List Char} (hname : isAttributeNameChar c = true) :
      Branch config .attributes c cs
        ⟨⟨.attributeName, c :: cs.takeWhile isAttributeNameChar⟩ ::
            (assignment config.unterminatedToEol.isOn (cs.dropWhile isAttributeNameChar)).1,
          .attributes,
          (assignment config.unterminatedToEol.isOn (cs.dropWhile isAttributeNameChar)).2⟩
  /-- A value without a name. -/
  | unnamed {c : Char} {cs : List Char} (hends : endsChunk (c :: cs) = false)
      (hname : isAttributeNameChar c = false) :
      Branch config .attributes c cs
        ⟨(value config.unterminatedToEol.isOn c cs).1, .attributes,
          (value config.unterminatedToEol.isOn c cs).2⟩

theorem branch_statementStep (config : Config) (c : Char) (cs : List Char) :
    Branch config .statement c cs (statementStep config c cs) := by
  unfold statementStep
  by_cases hblank : isBlank c = true
  · rw [if_pos hblank]
    exact .blanks (by decide) hblank
  by_cases htag : atTagStart (c :: cs) = true
  · rw [if_neg hblank, if_pos htag]
    exact .tagStart htag
  rw [if_neg hblank, if_neg htag]
  rw [Bool.not_eq_true] at hblank htag
  by_cases hcomment : atComment (c :: cs) = true
  · rw [if_pos hcomment]
    exact .comment hblank hcomment
  · rw [if_neg hcomment]
    exact .word hblank htag (Bool.eq_false_iff.2 hcomment)

theorem branch_attributesStep (config : Config) (c : Char) (cs : List Char) :
    Branch config .attributes c cs (attributesStep config.unterminatedToEol.isOn c cs) := by
  unfold attributesStep
  by_cases hblank : isBlank c = true
  · rw [if_pos hblank]
    exact .blanks (by decide) hblank
  by_cases hclose : atTagClose (c :: cs) = true
  · rw [if_neg hblank, if_pos hclose]
    exact .close hclose
  rw [if_neg hblank, if_neg hclose]
  by_cases hname : isAttributeNameChar c = true
  · rw [if_pos hname]
    exact .named hname
  · rw [if_neg hname]
    refine .unnamed ?_ (Bool.eq_false_iff.2 hname)
    rw [endsChunk, Bool.eq_false_iff.2 hblank, Bool.eq_false_iff.2 hclose]
    rfl

theorem branch_step (config : Config) (mode : Mode) (c : Char) (cs : List Char) :
    Branch config mode c cs (step config mode c cs) := by
  cases mode with
  | statement => exact branch_statementStep config c cs
  | tagOpen => exact .head
  | attributes => exact branch_attributesStep config c cs

/-! ### Values -/

/-- A quoted text or plain text. -/
def IsValue (l : Lexeme) : Prop := l.category = .stringLiteral ∨ l.category = .plain

theorem isValue_chunkTail (cs : List Char) : ∀ l ∈ (chunkTail cs).1, IsValue l := by
  intro l hl
  cases cs with
  | nil => cases hl
  | cons c cs =>
    rw [chunkTail] at hl
    split at hl
    · cases hl
    · rw [List.mem_singleton.1 hl]
      exact .inr rfl

theorem isValue_value (toEol : Bool) (c : Char) (cs : List Char) :
    ∀ l ∈ (value toEol c cs).1, IsValue l := by
  intro l hl
  unfold value at hl
  split at hl
  · split at hl
    · rcases List.mem_cons.1 hl with rfl | hl
      · exact .inl rfl
      · exact isValue_chunkTail _ l hl
    · split at hl
      · rw [List.mem_singleton.1 hl]
        exact .inl rfl
      · rw [List.mem_singleton.1 hl]
        exact .inr rfl
  · split at hl
    · rcases List.mem_cons.1 hl with rfl | hl
      · exact .inr rfl
      · exact isValue_chunkTail _ l hl
    · rw [List.mem_singleton.1 hl]
      exact .inr rfl

theorem isValue_attributeValue (toEol : Bool) (cs : List Char) :
    ∀ l ∈ (attributeValue toEol cs).1, IsValue l := by
  intro l hl
  cases cs with
  | nil => cases hl
  | cons c cs =>
    rw [attributeValue] at hl
    split at hl
    · cases hl
    · exact isValue_value toEol c cs l hl

theorem assignment_of_ne (toEol : Bool) {cs : List Char} (h : ∀ ds, cs ≠ '=' :: ds) :
    assignment toEol cs = ([], cs) := by
  unfold assignment
  split
  · exact absurd rfl (h _)
  · rfl

theorem assignment_cases (toEol : Bool) (cs : List Char) :
    (assignment toEol cs).1 = [] ∨
      ∃ ls, (assignment toEol cs).1 = ⟨.attributeOperator, ['=']⟩ :: ls ∧ ∀ l ∈ ls, IsValue l := by
  unfold assignment
  split
  · exact .inr ⟨_, rfl, isValue_attributeValue toEol _⟩
  · exact .inl rfl

end TagHighlight.Lexer
