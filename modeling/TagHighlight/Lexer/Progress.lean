import TagHighlight.Lexer.Step

/-!
# A step loses nothing and makes progress

The lexemes of a step and what it leaves are together what it was given, and no lexeme is empty. So
a step either shortens the line or is the one from statement text to the start of a tag, after which
a step does shorten it: twice the length of the rest, and one more in statement text, falls with
every step.
-/

namespace TagHighlight.Lexer

open TagHighlight.Text (isQuote)
open TagHighlight.Unicode (isBlank)

def textOf (ls : List Lexeme) : List Char := ls.flatMap Lexeme.chars

@[simp] theorem textOf_nil : textOf [] = [] := rfl

@[simp] theorem textOf_cons (l : Lexeme) (ls : List Lexeme) :
    textOf (l :: ls) = l.chars ++ textOf ls := rfl

theorem textOf_append (ls ms : List Lexeme) : textOf (ls ++ ms) = textOf ls ++ textOf ms :=
  List.flatMap_append

/-! ## Nothing is lost -/

theorem word_append (c : Char) (cs : List Char) : (word c cs).1 ++ (word c cs).2 = c :: cs := by
  rw [word, List.cons_append, splitUntil_append]

theorem chunk_append (c : Char) (cs : List Char) : (chunk c cs).1 ++ (chunk c cs).2 = c :: cs := by
  rw [chunk, List.cons_append, splitUntil_append]

theorem blankRun_append (cs : List Char) : (blankRun cs).1 ++ (blankRun cs).2 = cs :=
  List.takeWhile_append_dropWhile

theorem openingBracket_append (c : Char) (cs : List Char) :
    (openingBracket c cs).1 ++ (openingBracket c cs).2 = c :: cs := by
  unfold openingBracket
  split <;> rfl

theorem closingBracket_append (c : Char) (cs : List Char) :
    (closingBracket c cs).1 ++ (closingBracket c cs).2 = c :: cs := by
  unfold closingBracket
  split
  · rfl
  · rw [List.cons_append, List.take_append_drop]

theorem textOf_lexeme? (category : List Char → Category) (cs : List Char) :
    textOf (lexeme? category cs) = cs := by
  unfold lexeme?
  split
  · rename_i h
    rw [List.isEmpty_iff.1 h, textOf_nil]
  · simp

theorem chunkTail_append (cs : List Char) :
    textOf (chunkTail cs).1 ++ (chunkTail cs).2 = cs := by
  cases cs with
  | nil => rfl
  | cons c cs =>
    simp only [chunkTail]
    split
    · rfl
    · simpa using chunk_append c cs

theorem value_append (toEol : Bool) (c : Char) (cs : List Char) :
    textOf (value toEol c cs).1 ++ (value toEol c cs).2 = c :: cs := by
  unfold value
  split
  · split
    · rename_i inside rest h
      simp [List.append_assoc, chunkTail_append, throughQuote_append h]
    · split <;> simp
  · split
    · simp only [textOf_cons, List.append_assoc, chunkTail_append]
      exact throughBrace_append 0 none (c :: cs)
    · simpa using chunk_append c cs

theorem attributeValue_append (toEol : Bool) (cs : List Char) :
    textOf (attributeValue toEol cs).1 ++ (attributeValue toEol cs).2 = cs := by
  cases cs with
  | nil => rfl
  | cons c cs =>
    simp only [attributeValue]
    split
    · rfl
    · exact value_append toEol c cs

theorem assignment_append (toEol : Bool) (cs : List Char) :
    textOf (assignment toEol cs).1 ++ (assignment toEol cs).2 = cs := by
  unfold assignment
  split
  · simp [attributeValue_append]
  · rfl

/-- The lexemes of a step and what it leaves are what it was given. -/
theorem step_append (config : Config) (mode : Mode) (c : Char) (cs : List Char) :
    textOf (step config mode c cs).lexemes ++ (step config mode c cs).rest = c :: cs := by
  cases mode with
  | statement =>
    simp only [step, statementStep]
    split
    · simpa using blankRun_append (c :: cs)
    · split
      · rfl
      · split
        · simp
        · simpa using word_append c cs
  | tagOpen =>
    simp only [step, tagOpenStep, textOf_cons, textOf_lexeme?, List.append_assoc,
      List.takeWhile_append_dropWhile]
    exact openingBracket_append c cs
  | attributes =>
    simp only [step, attributesStep]
    split
    · simpa using blankRun_append (c :: cs)
    · split
      · simpa using closingBracket_append c cs
      · split
        · simp [List.append_assoc, assignment_append, List.takeWhile_append_dropWhile]
        · exact value_append _ c cs

/-! ## No lexeme is empty -/

def Solid (ls : List Lexeme) : Prop := ∀ l ∈ ls, l.chars ≠ []

theorem solid_nil : Solid [] := by intro l h; cases h

theorem solid_cons {l : Lexeme} {ls : List Lexeme} (hl : l.chars ≠ []) (h : Solid ls) :
    Solid (l :: ls) := by
  intro m hm
  rcases List.mem_cons.1 hm with rfl | hm
  · exact hl
  · exact h m hm

theorem solid_lexeme? (category : List Char → Category) (cs : List Char) : Solid (lexeme? category cs) := by
  unfold lexeme?
  split
  · exact solid_nil
  · rename_i h
    exact solid_cons (fun he => h (List.isEmpty_iff.2 he)) solid_nil

theorem solid_chunkTail (cs : List Char) : Solid (chunkTail cs).1 := by
  cases cs with
  | nil => exact solid_nil
  | cons c cs =>
    simp only [chunkTail]
    split
    · exact solid_nil
    · exact solid_cons (List.cons_ne_nil _ _) solid_nil

theorem throughBrace_ne_nil (depth : Int) (within : Option Char) (c : Char) (cs : List Char) :
    (throughBrace depth within (c :: cs)).1 ≠ [] := by
  unfold throughBrace
  split
  · exact List.cons_ne_nil _ _
  · split
    · exact List.cons_ne_nil _ _
    · split
      · split <;> exact List.cons_ne_nil _ _
      · split <;> exact List.cons_ne_nil _ _

theorem solid_value (toEol : Bool) (c : Char) (cs : List Char) : Solid (value toEol c cs).1 := by
  unfold value
  split
  · split
    · exact solid_cons (List.cons_ne_nil _ _) (solid_chunkTail _)
    · split <;> exact solid_cons (List.cons_ne_nil _ _) solid_nil
  · split
    · exact solid_cons (throughBrace_ne_nil _ _ _ _) (solid_chunkTail _)
    · exact solid_cons (List.cons_ne_nil _ _) solid_nil

theorem solid_attributeValue (toEol : Bool) (cs : List Char) :
    Solid (attributeValue toEol cs).1 := by
  cases cs with
  | nil => exact solid_nil
  | cons c cs =>
    simp only [attributeValue]
    split
    · exact solid_nil
    · exact solid_value toEol c cs

theorem solid_assignment (toEol : Bool) (cs : List Char) : Solid (assignment toEol cs).1 := by
  unfold assignment
  split
  · exact solid_cons (List.cons_ne_nil _ _) (solid_attributeValue _ _)
  · exact solid_nil

theorem blankRun_ne_nil {c : Char} (cs : List Char) (h : isBlank c = true) :
    (blankRun (c :: cs)).1 ≠ [] := by
  rw [blankRun, List.takeWhile_cons_of_pos h]
  exact List.cons_ne_nil _ _

theorem openingBracket_ne_nil (c : Char) (cs : List Char) : (openingBracket c cs).1 ≠ [] := by
  unfold openingBracket
  split <;> exact List.cons_ne_nil _ _

theorem closingBracket_ne_nil (c : Char) (cs : List Char) : (closingBracket c cs).1 ≠ [] := by
  unfold closingBracket
  split <;> exact List.cons_ne_nil _ _

/-- No lexeme of a step is empty. -/
theorem solid_step (config : Config) (mode : Mode) (c : Char) (cs : List Char) :
    Solid (step config mode c cs).lexemes := by
  cases mode with
  | statement =>
    simp only [step, statementStep]
    split
    · rename_i h
      exact solid_cons (blankRun_ne_nil cs h) solid_nil
    · split
      · exact solid_nil
      · split <;> exact solid_cons (List.cons_ne_nil _ _) solid_nil
  | tagOpen => exact solid_cons (openingBracket_ne_nil c cs) (solid_lexeme? _ _)
  | attributes =>
    simp only [step, attributesStep]
    split
    · rename_i h
      exact solid_cons (blankRun_ne_nil cs h) solid_nil
    · split
      · exact solid_cons (closingBracket_ne_nil c cs) solid_nil
      · split
        · exact solid_cons (List.cons_ne_nil _ _) (solid_assignment _ _)
        · exact solid_value _ c cs

/-! ## Progress -/

theorem value_ne_nil (toEol : Bool) (c : Char) (cs : List Char) : (value toEol c cs).1 ≠ [] := by
  unfold value
  split
  · split
    · exact List.cons_ne_nil _ _
    · split <;> exact List.cons_ne_nil _ _
  · split <;> exact List.cons_ne_nil _ _

/-- Only the step to the start of a tag has no lexemes. -/
theorem lexemes_step_eq_nil {config : Config} {mode : Mode} {c : Char} {cs : List Char}
    (h : (step config mode c cs).lexemes = []) :
    mode = .statement ∧ (step config mode c cs).mode = .tagOpen := by
  cases mode with
  | statement =>
    refine ⟨rfl, ?_⟩
    simp only [step, statementStep] at h ⊢
    split at h
    · exact absurd h (List.cons_ne_nil _ _)
    · split at h
      · rename_i hb ht
        rw [if_neg hb, if_pos ht]
      · split at h <;> exact absurd h (List.cons_ne_nil _ _)
  | tagOpen => exact absurd h (List.cons_ne_nil _ _)
  | attributes =>
    simp only [step, attributesStep] at h
    split at h
    · exact absurd h (List.cons_ne_nil _ _)
    · split at h
      · exact absurd h (List.cons_ne_nil _ _)
      · split at h
        · exact absurd h (List.cons_ne_nil _ _)
        · exact absurd h (value_ne_nil _ c cs)

/-- What falls with every step: twice the length of the rest, and one more in statement text. -/
def weight (mode : Mode) (cs : List Char) : Nat :=
  2 * cs.length + if mode = .statement then 1 else 0

theorem weight_step_lt (config : Config) (mode : Mode) (c : Char) (cs : List Char) :
    weight (step config mode c cs).mode (step config mode c cs).rest < weight mode (c :: cs) := by
  have happ := congrArg List.length (step_append config mode c cs)
  have hsolid := solid_step config mode c cs
  cases hl : (step config mode c cs).lexemes with
  | nil =>
    obtain ⟨hmode, hnext⟩ := lexemes_step_eq_nil hl
    rw [hl, textOf_nil, List.nil_append] at happ
    rw [hnext, weight, weight, happ, hmode]
    simp
  | cons l ls =>
    have hpos : 0 < l.chars.length :=
      List.length_pos_iff.2 (hsolid l (by rw [hl]; exact List.mem_cons_self))
    rw [hl, textOf_cons, List.length_append, List.length_append] at happ
    have hle : (if (step config mode c cs).mode = .statement then 1 else 0) ≤ 1 := by
      split <;> omega
    unfold weight
    omega

end TagHighlight.Lexer
