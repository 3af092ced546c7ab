import TagHighlight.Proofs.Lexer.Placement

/-!
# How the inside of a tag is cut

Behind the name of a tag a lexeme is a maximal run of blanks, the name of an attribute with all its
characters, a sign, a quoted text, plain text, or the bracket that closes the tag. `TagCut` says how
each is cut out of what stands around it: above all, a blank or a `>` is covered only by a quoted text
or by plain text that begins with a brace, so that no close is missed.

The text of values is cut in pieces with one rule each (`ValueCut`). `Along P ls right` says that `P`
holds of every lexeme and what stands on its right; it follows the pieces from the tail of a chunk to
a value and what is assigned to a name, and one step puts them together (`tagCut_of_branch`).
-/

namespace TagHighlight

namespace Lexer

open TagHighlight.Text (isQuote)
open TagHighlight.Unicode (isBlank)

/-! ### The cuts -/

/-- A text between two quotes of a kind that it does not hold. -/
def IsQuoted (cs : List Char) : Prop :=
  ∃ quote w, isQuote quote = true ∧ quote ∉ w ∧ cs = quote :: (w ++ [quote])

def IsUnterminated (cs : List Char) : Prop :=
  ∃ quote w, isQuote quote = true ∧ quote ∉ w ∧ cs = quote :: w

/-- The lexeme is the whole name of an attribute, and the sign comes next exactly when there is one. -/
structure AttributeNameCut (l : Lexeme) (right : List Char) (next : Option Lexeme) : Prop where
  ne_nil : l.chars ≠ []
  all : ∀ c ∈ l.chars, isAttributeNameChar c = true
  ends : ∀ c ∈ right.head?, isAttributeNameChar c = false
  operator : (∃ m ∈ next, m.category = .attributeOperator) ↔ right.head? = some '='

/-- The lexeme is cut as the inside of a tag out of what stands around it. -/
structure TagCut (config : Config) (left : List Char) (l : Lexeme) (right : List Char)
    (next : Option Lexeme) : Prop where
  blanks : l.category = .whitespace → IsMaximalRun isBlank left l.chars right
  name : l.category = .attributeName → AttributeNameCut l right next
  string : l.category = .stringLiteral → IsQuoted l.chars ∨
    config.unterminatedToEol.isOn = true ∧ right = [] ∧ IsUnterminated l.chars
  /-- No other lexeme than an expression in braces reaches over a blank or a close. -/
  braced : l.category ≠ .whitespace → ¬l.Closes → l.category ≠ .stringLiteral →
    (∃ c ∈ l.chars, c = '>' ∨ isBlank c = true) →
      l.category = .plain ∧ l.chars.head? = some '\x7b'

/-! ### Lexemes and what stands on their right -/

/-- Each lexeme has the property in front of what stands on its right. -/
def Along (P : Lexeme → List Char → Prop) : List Lexeme → List Char → Prop
  | [], _ => True
  | l :: ls, right => P l (textOf ls ++ right) ∧ Along P ls right

theorem Along.of_split {P : Lexeme → List Char → Prop} {b a : List Lexeme} {l : Lexeme}
    {right : List Char} (h : Along P (b ++ l :: a) right) : P l (textOf a ++ right) := by
  induction b with
  | nil => exact h.1
  | cons m b ih => exact ih h.2

inductive ValueCut (toEol : Bool) : Lexeme → List Char → Prop
  | quoted {cs : List Char} (right : List Char) (h : IsQuoted cs) :
      ValueCut toEol ⟨.stringLiteral, cs⟩ right
  | unterminated {cs : List Char} (htoEol : toEol = true) (h : IsUnterminated cs) :
      ValueCut toEol ⟨.stringLiteral, cs⟩ []
  | braced {cs : List Char} (right : List Char) (h : cs.head? = some '\x7b') :
      ValueCut toEol ⟨.plain, cs⟩ right
  /-- Neither a blank nor a close is in it. -/
  | chunk {cs : List Char} (right : List Char) (h : ∀ c ∈ cs, isBlank c = false ∧ c ≠ '>') :
      ValueCut toEol ⟨.plain, cs⟩ right

theorem isBlank_and_ne_of_mem_chunk {c : Char} {cs : List Char} (hc : endsChunk (c :: cs) = false) :
    ∀ d ∈ (chunk c cs).1, isBlank d = false ∧ d ≠ '>' := by
  intro d hd
  obtain ⟨rest, hrest⟩ := endsChunk_of_mem_chunk hc d hd
  refine ⟨isBlank_eq_false_of_endsChunk hrest, ?_⟩
  rintro rfl
  rw [endsChunk_cons.2 (.inr (.inl rfl))] at hrest
  cases hrest

theorem along_chunkTail (toEol : Bool) (cs : List Char) :
    Along (ValueCut toEol) (chunkTail cs).1 (chunkTail cs).2 := by
  cases cs with
  | nil => trivial
  | cons c cs =>
    by_cases hends : endsChunk (c :: cs) = true
    · rw [chunkTail, if_pos hends]
      trivial
    · rw [chunkTail, if_neg hends]
      exact ⟨.chunk _ (isBlank_and_ne_of_mem_chunk (Bool.eq_false_iff.2 hends)), trivial⟩

theorem head?_braced (cs : List Char) : (braced ('\x7b' :: cs)).1.head? = some '\x7b' := by
  simp [braced, throughBrace, consFirst]

theorem along_value (toEol : Bool) {c : Char} {cs : List Char} (hends : endsChunk (c :: cs) = false) :
    Along (ValueCut toEol) (value toEol c cs).1 (value toEol c cs).2 := by
  unfold value
  by_cases hquote : isQuote c = true
  · rw [if_pos hquote]
    cases hthrough : throughQuote c cs with
    | some parts =>
      obtain ⟨inside, rest⟩ := parts
      obtain ⟨w, hw, rfl⟩ := throughQuote_eq_some hthrough
      exact ⟨.quoted _ ⟨c, w, hquote, hw, rfl⟩, along_chunkTail toEol rest⟩
    | none =>
      have hlone : c ∉ cs := notMem_of_throughQuote_eq_none hthrough
      cases toEol with
      | true => exact ⟨.unterminated rfl ⟨c, cs, hquote, hlone, rfl⟩, trivial⟩
      | false =>
        refine ⟨.chunk _ fun d hd => ?_, trivial⟩
        rw [List.mem_singleton.1 hd]
        refine ⟨isBlank_eq_false_of_isQuote hquote, ?_⟩
        rintro rfl
        cases hquote
  · rw [if_neg hquote]
    by_cases hopen : c = '\x7b'
    · rw [if_pos hopen, hopen]
      exact ⟨.braced _ (head?_braced cs), along_chunkTail toEol _⟩
    · rw [if_neg hopen]
      exact ⟨.chunk _ (isBlank_and_ne_of_mem_chunk hends), trivial⟩

theorem along_attributeValue (toEol : Bool) (cs : List Char) :
    Along (ValueCut toEol) (attributeValue toEol cs).1 (attributeValue toEol cs).2 := by
  cases cs with
  | nil => trivial
  | cons c cs =>
    by_cases hends : endsChunk (c :: cs) = true
    · rw [attributeValue, if_pos hends]
      trivial
    · rw [attributeValue, if_neg hends]
      exact along_value toEol (Bool.eq_false_iff.2 hends)

/-! ### Steps -/

section
variable {config : Config}

theorem ValueCut.tagCut {l : Lexeme} {right : List Char}
    (h : ValueCut config.unterminatedToEol.isOn l right) (left : List Char) (next : Option Lexeme) :
    TagCut config left l right next := by
  cases h with
  | quoted right h => exact ⟨by simp, by simp, fun _ => .inl h, by simp⟩
  | unterminated htoEol h => exact ⟨by simp, by simp, fun _ => .inr ⟨htoEol, rfl, h⟩, by simp⟩
  | braced right h => exact ⟨by simp, by simp, by simp, fun _ _ _ _ => ⟨rfl, h⟩⟩
  | chunk right h =>
    refine ⟨by simp, by simp, by simp, ?_⟩
    rintro _ _ _ ⟨c, hc, hgreater | hblank⟩
    · exact absurd hgreater (h c hc).2
    · rw [(h c hc).1] at hblank
      cases hblank

theorem tagCut_sign (left right : List Char) (next : Option Lexeme) :
    TagCut config left ⟨.attributeOperator, ['=']⟩ right next := by
  refine ⟨by simp, by simp, by simp, ?_⟩
  rintro _ _ _ ⟨c, hc, h⟩
  rw [List.mem_singleton.1 hc] at h
  rcases h with h | h
  · exact absurd h (by decide)
  · cases h

theorem tagCut_assignment {cs left : List Char} {b a : List Lexeme} {l : Lexeme}
    (h : (assignment config.unterminatedToEol.isOn cs).1 = b ++ l :: a) (next : Option Lexeme) :
    TagCut config left l (textOf a ++ (assignment config.unterminatedToEol.isOn cs).2) next := by
  by_cases hsign : ∃ ds, cs = '=' :: ds
  · obtain ⟨ds, rfl⟩ := hsign
    rw [assignment] at h ⊢
    cases b with
    | nil =>
      obtain ⟨rfl, -⟩ := List.cons.inj h
      exact tagCut_sign _ _ _
    | cons m b =>
      have halong := along_attributeValue config.unterminatedToEol.isOn ds
      rw [(List.cons.inj h).2] at halong
      exact halong.of_split.tagCut left next
  · rw [assignment_of_ne _ (not_exists.1 hsign)] at h
    cases b <;> cases h

theorem attributeNameCut_of_assignment (config : Config) {c : Char}
    (hname : isAttributeNameChar c = true) (cs : List Char) (mode : Mode) :
    let assigned := assignment config.unterminatedToEol.isOn (cs.dropWhile isAttributeNameChar)
    AttributeNameCut ⟨.attributeName, c :: cs.takeWhile isAttributeNameChar⟩
      (cs.dropWhile isAttributeNameChar)
      (assigned.1 ++ lexemes (run config mode assigned.2)).head? := by
  intro assigned
  refine ⟨List.cons_ne_nil _ _, fun d hd => ?_, head?_dropWhile_eq_false cs, ?_⟩
  · rcases List.mem_cons.1 hd with rfl | hd
    · exact hname
    · exact List.all_eq_true.1 List.all_takeWhile d hd
  by_cases hsign : ∃ ds, cs.dropWhile isAttributeNameChar = '=' :: ds
  · obtain ⟨ds, hds⟩ := hsign
    refine iff_of_true ⟨⟨.attributeOperator, ['=']⟩, ?_, rfl⟩ (by rw [hds]; rfl)
    simp only [assigned, hds, assignment]
    rfl
  · have hnone : assigned = ([], cs.dropWhile isAttributeNameChar) :=
      assignment_of_ne _ (not_exists.1 hsign)
    rw [hnone]
    refine iff_of_false ?_ fun hhead => ?_
    · rintro ⟨m, hm, hoperator⟩
      exact (first_lexeme_run config mode _ m hm).1 hoperator
    · exact hsign ((List.head?_eq_some_iff.1 hhead).imp fun ds hds => hds)

theorem tagCut_of_branch {c : Char} {cs : List Char} {s : Step}
    (hs : Branch config .attributes c cs s) {left : List Char} (hleft : Parted left (c :: cs))
    {b a : List Lexeme} {l : Lexeme} (hsplit : s.lexemes = b ++ l :: a) :
    TagCut config (left ++ textOf b) l (textOf a ++ s.rest)
      (a ++ lexemes (run config s.mode s.rest)).head? := by
  cases hs with
  | blanks hmode hblank =>
    obtain ⟨rfl, rfl, rfl⟩ := eq_of_singleton_eq_append_cons hsplit
    rw [textOf_nil, List.append_nil]
    exact ⟨fun _ => isMaximalRun_blankRun hblank hleft, by simp, by simp, by simp⟩
  | close hclose =>
    obtain ⟨rfl, rfl, rfl⟩ := eq_of_singleton_eq_append_cons hsplit
    exact ⟨by simp, by simp, by simp, fun _ h => absurd (closes_closingBracket hclose) h⟩
  | named hname =>
    cases b with
    | nil =>
      obtain ⟨rfl, rfl⟩ := List.cons.inj hsplit
      have hcut := attributeNameCut_of_assignment config hname cs .attributes
      rw [assignment_append]
      refine ⟨by simp, fun _ => hcut, by simp, ?_⟩
      rintro _ _ _ ⟨d, hd, rfl | hblank⟩
      · exact absurd (hcut.all _ hd) (by decide)
      · rw [isBlank_eq_false_of_isAttributeNameChar (hcut.all d hd)] at hblank
        cases hblank
    | cons m b => exact tagCut_assignment (List.cons.inj hsplit).2 _
  | unnamed hends hname =>
    have halong := along_value config.unterminatedToEol.isOn hends
    change (value config.unterminatedToEol.isOn c cs).1 = _ at hsplit
    rw [hsplit] at halong
    exact halong.of_split.tagCut _ _

theorem tagCut_of_run {cs : List Char} {before after : List Lexeme} {l : Lexeme}
    (h : lexemes (run config .statement cs) = before ++ l :: after) (hin : EndsInTag before)
    (hl : l.category.isName = false) :
    TagCut config (textOf before) l (textOf after) after.head? := by
  refine forall_lexemes_run (P := fun before l after => EndsInTag before →
    l.category.isName = false → TagCut config (textOf before) l (textOf after) after.head?) ?_
      (behind_nil cs) before l after h hin hl
  intro before mode c cs hbehind b l a hsplit hin hl
  obtain rfl := hbehind.mode_eq_attributes hsplit hin hl
  rw [textOf_append, textOf_append, textOf_lexemes_run]
  exact tagCut_of_branch (branch_step config .attributes c cs) hbehind.parted hsplit

end

end Lexer

open Lexer in
/-- **The inside of a tag is cut correctly, and no close is missed.** A token behind the bracket and
the name of an open tag is a maximal run of blanks if it is blanks; the name of an attribute is whole,
and its sign is the next token exactly when it is the next character; a quoted text reaches to the
next quote of its kind, or to the end of the line if there is none and the policy says so; and only an
expression in braces reaches over a blank or a `>` besides. The tokens partition the line, so nothing
of it is left out. -/
theorem inside_of_tag_is_cut (config : Config) (line : String) (lineno : Option Int) :
    ∃ ts, classifyLine config line lineno = .ok ts ∧ Partitions line ts ∧
      ∀ before t after, ts = before ++ t :: after → EndsInTag (before.map Token.lexeme) →
        t.category.isName = false →
        ∃ left right, t.Within line left right ∧
          TagCut config left t.lexeme right (after.map Token.lexeme).head? := by
  refine ⟨_, classifyLine_eq config line lineno, partitions_tokens config line,
    fun before t after hts hin ht => ?_⟩
  obtain ⟨hlexemes, hwithin⟩ := tokens_split hts
  exact ⟨_, _, hwithin, tagCut_of_run hlexemes hin ht⟩

end TagHighlight
