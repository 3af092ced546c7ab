import Mathlib.Data.List.Basic
import TagHighlight.Lexer.Progress
import TagHighlight.Proofs.Lexer.Branches

/-!
# How far a step looks ahead

A step that leaves something of a text without quotes does not notice what is put behind that text:
it cuts off the same lexemes and leaves what is put behind as well (`step_append_of_rest`). Every
test looks at two characters at most (`IsLocal`), and where a step has left something, both of them
were there; a braced text has been closed there, and without quotes nothing behind it can open a
quoted text in it.
-/

namespace TagHighlight

namespace Lexer

open TagHighlight.Text (isQuote)
open TagHighlight.Unicode (isBlank)

/-- The parts of a text with another text put behind it. -/
def followedBy {α : Type} (b : List Char) (parts : α × List Char) : α × List Char :=
  (parts.1, parts.2 ++ b)

/-- The step with a text put behind what it leaves. -/
def Step.followedBy (b : List Char) (s : Step) : Step := { s with rest := s.rest ++ b }

/-! ### Tests -/

/-- The test looks at two characters at most, and if one is enough for it, a second one changes
nothing. -/
structure IsLocal (test : List Char → Bool) : Prop where
  two : ∀ c d rest, test (c :: d :: rest) = test [c, d]
  one : ∀ c d, test [c] = true → test [c, d] = true

theorem isLocal_atTagClose : IsLocal atTagClose where
  two _ _ _ := rfl
  one c d h := by
    rcases atTagClose_cons.1 h with rfl | ⟨_, hnone⟩
    · rfl
    · cases hnone

theorem isLocal_atTagStart : IsLocal atTagStart where
  two _ _ _ := rfl
  one c d h := by cases h

theorem isLocal_atComment : IsLocal atComment where
  two _ _ _ := rfl
  one c d h := by cases h

theorem isLocal_endsWord : IsLocal endsWord where
  two _ _ _ := rfl
  one c d h := by
    have hblank : isBlank c = true := by simpa [endsWord, atTagStart] using h
    rw [endsWord, hblank, Bool.true_or]

theorem isLocal_endsChunk : IsLocal endsChunk where
  two _ _ _ := rfl
  one c d h := by
    simp only [endsChunk, Bool.or_eq_true] at h ⊢
    exact h.imp id (isLocal_atTagClose.one c d)

namespace IsLocal

variable {test : List Char → Bool} (h : IsLocal test)
include h

theorem append_of_ne_nil (c : Char) {cs : List Char} (hne : cs ≠ []) (b : List Char) :
    test (c :: (cs ++ b)) = test (c :: cs) := by
  obtain ⟨d, ds, rfl⟩ := List.exists_cons_of_ne_nil hne
  rw [List.cons_append, h.two, h.two c d ds]

theorem append_of_true {s : List Char} (hne : s ≠ []) (hs : test s = true) (b : List Char) :
    test (s ++ b) = true := by
  match s, b, hs with
  | [], _, _ => exact absurd rfl hne
  | [c], [], hs => exact hs
  | [c], d :: b, hs =>
    change test (c :: d :: b) = true
    rw [h.two]
    exact h.one c d hs
  | c :: d :: s, b, hs =>
    have hsame := h.append_of_ne_nil c (List.cons_ne_nil d s) b
    exact hsame.trans hs

theorem splitUntil_append {cs : List Char} (hrest : (splitUntil test cs).2 ≠ []) (b : List Char) :
    splitUntil test (cs ++ b) = followedBy b (splitUntil test cs) := by
  induction cs with
  | nil => exact absurd rfl hrest
  | cons c cs ih =>
    by_cases hc : test (c :: cs) = true
    · have hmore : test (c :: (cs ++ b)) = true := h.append_of_true (List.cons_ne_nil c cs) hc b
      rw [List.cons_append, splitUntil, if_pos hmore, splitUntil, if_pos hc]
      rfl
    · rw [splitUntil, if_neg hc] at hrest
      have hcs : cs ≠ [] := fun hnil => hrest (by rw [hnil]; rfl)
      have hmore : ¬test (c :: (cs ++ b)) = true := by rwa [h.append_of_ne_nil c hcs]
      rw [List.cons_append, splitUntil, if_neg hmore, splitUntil, if_neg hc, ih hrest]
      rfl

end IsLocal

/-! ### Pieces that leave something -/

section
variable {p : Char → Bool} {cs : List Char}

theorem takeWhile_append_of_rest (hrest : cs.dropWhile p ≠ []) (b : List Char) :
    (cs ++ b).takeWhile p = cs.takeWhile p := by
  have hhead : ∀ c ∈ (cs.dropWhile p ++ b).head?, p c = false := by
    rw [List.head?_append_of_ne_nil _ hrest]
    exact head?_dropWhile_eq_false cs
  have hall : ∀ c ∈ cs.takeWhile p, p c = true := List.all_eq_true.1 List.all_takeWhile
  have happ : cs ++ b = cs.takeWhile p ++ (cs.dropWhile p ++ b) := by
    rw [← List.append_assoc, List.takeWhile_append_dropWhile]
  rw [happ, takeWhile_append_of_head hall hhead]

theorem dropWhile_append_of_rest (hrest : cs.dropWhile p ≠ []) (b : List Char) :
    (cs ++ b).dropWhile p = cs.dropWhile p ++ b := by
  rw [List.dropWhile_append, if_neg]
  rwa [List.isEmpty_iff]

theorem blankRun_append_of_rest (hrest : (blankRun cs).2 ≠ []) (b : List Char) :
    blankRun (cs ++ b) = followedBy b (blankRun cs) :=
  Prod.ext (takeWhile_append_of_rest hrest b) (dropWhile_append_of_rest hrest b)

end

theorem word_append_of_rest {c : Char} {cs : List Char} (hrest : (word c cs).2 ≠ [])
    (b : List Char) : word c (cs ++ b) = followedBy b (word c cs) := by
  rw [word, isLocal_endsWord.splitUntil_append hrest]
  rfl

theorem chunk_append_of_rest {c : Char} {cs : List Char} (hrest : (chunk c cs).2 ≠ [])
    (b : List Char) : chunk c (cs ++ b) = followedBy b (chunk c cs) := by
  rw [chunk, isLocal_endsChunk.splitUntil_append hrest]
  rfl

theorem closingBracket_append_of_close {c : Char} {cs : List Char}
    (h : atTagClose (c :: cs) = true) (b : List Char) :
    closingBracket c (cs ++ b) = followedBy b (closingBracket c cs) := by
  rcases atTagClose_cons.1 h with rfl | ⟨rfl, hcs⟩
  · rfl
  · obtain ⟨ds, rfl⟩ := List.head?_eq_some_iff.1 hcs
    rfl

theorem chunkTail_append_of_rest {cs : List Char} (hrest : (chunkTail cs).2 ≠ []) (b : List Char) :
    chunkTail (cs ++ b) = followedBy b (chunkTail cs) := by
  match cs with
  | [] => exact absurd rfl hrest
  | c :: cs =>
    by_cases hends : endsChunk (c :: cs) = true
    · have hmore : endsChunk (c :: (cs ++ b)) = true :=
        isLocal_endsChunk.append_of_true (List.cons_ne_nil c cs) hends b
      rw [List.cons_append, chunkTail, if_pos hmore, chunkTail, if_pos hends]
      rfl
    · rw [chunkTail, if_neg hends] at hrest
      have hcs : cs ≠ [] := fun hnil => hrest (by rw [hnil]; rfl)
      have hmore : ¬endsChunk (c :: (cs ++ b)) = true := by
        rwa [isLocal_endsChunk.append_of_ne_nil c hcs]
      rw [List.cons_append, chunkTail, if_neg hmore, chunkTail, if_neg hends,
        chunk_append_of_rest hrest]
      rfl

theorem throughBrace_append_of_rest {cs : List Char} (hquote : ∀ d ∈ cs, isQuote d = false)
    (depth : Int) (hrest : (throughBrace depth none cs).2 ≠ []) (b : List Char) :
    throughBrace depth none (cs ++ b) = followedBy b (throughBrace depth none cs) := by
  induction cs generalizing depth with
  | nil => exact absurd rfl hrest
  | cons c cs ih =>
    have hc : isQuote c = false := hquote c List.mem_cons_self
    have hcs : ∀ d ∈ cs, isQuote d = false := fun d hd => hquote d (List.mem_cons_of_mem c hd)
    simp only [List.cons_append, throughBrace, hc, Bool.false_and, Bool.false_eq_true,
      if_false] at hrest ⊢
    by_cases hopen : c = '\x7b'
    · rw [if_pos hopen] at hrest
      rw [if_pos hopen, if_pos hopen, ih hcs (depth + 1) hrest]
      rfl
    rw [if_neg hopen] at hrest
    rw [if_neg hopen, if_neg hopen]
    by_cases hclose : c = '\x7d'
    · rw [if_pos hclose] at hrest
      rw [if_pos hclose, if_pos hclose]
      by_cases hdepth : depth = 1
      · rw [if_pos hdepth, if_pos hdepth]
        rfl
      · rw [if_neg hdepth] at hrest
        rw [if_neg hdepth, if_neg hdepth, ih hcs (depth - 1) hrest]
        rfl
    · rw [if_neg hclose] at hrest
      rw [if_neg hclose, if_neg hclose, ih hcs depth hrest]
      rfl

theorem value_append_of_rest {toEol : Bool} {c : Char} {cs : List Char}
    (hquote : ∀ d ∈ c :: cs, isQuote d = false) (hrest : (value toEol c cs).2 ≠ [])
    (b : List Char) : value toEol c (cs ++ b) = followedBy b (value toEol c cs) := by
  have hc : ¬isQuote c = true := by simp [hquote c List.mem_cons_self]
  unfold value at hrest ⊢
  rw [if_neg hc] at hrest
  rw [if_neg hc, if_neg hc]
  by_cases hopen : c = '\x7b'
  · rw [if_pos hopen] at hrest
    change (chunkTail (braced (c :: cs)).2).2 ≠ [] at hrest
    have hbraced : (braced (c :: cs)).2 ≠ [] := fun hnil => hrest (by rw [hnil]; rfl)
    have hmore : braced (c :: (cs ++ b)) = followedBy b (braced (c :: cs)) :=
      throughBrace_append_of_rest hquote 0 hbraced b
    rw [if_pos hopen, if_pos hopen, hmore]
    simp only [followedBy, chunkTail_append_of_rest hrest]
  · rw [if_neg hopen] at hrest
    rw [if_neg hopen, if_neg hopen, chunk_append_of_rest hrest]
    rfl

theorem ne_nil_of_value_rest {toEol : Bool} {c : Char} {cs : List Char}
    (hrest : (value toEol c cs).2 ≠ []) : cs ≠ [] := by
  rintro rfl
  have happ := value_append toEol c []
  obtain ⟨l, ls, hls⟩ := List.exists_cons_of_ne_nil (value_ne_nil toEol c [])
  have hl : l.chars ≠ [] := solid_value toEol c [] l (hls ▸ List.mem_cons_self)
  -- the first lexeme has taken the only character
  rw [hls, textOf_cons, List.append_assoc] at happ
  rcases List.append_eq_singleton_iff.1 happ with ⟨hnil, _⟩ | ⟨_, hnil⟩
  · exact hl hnil
  · exact hrest (List.append_eq_nil_iff.1 hnil).2

theorem attributeValue_append_of_rest {toEol : Bool} {cs : List Char}
    (hquote : ∀ d ∈ cs, isQuote d = false) (hrest : (attributeValue toEol cs).2 ≠ [])
    (b : List Char) : attributeValue toEol (cs ++ b) = followedBy b (attributeValue toEol cs) := by
  match cs with
  | [] => exact absurd rfl hrest
  | c :: cs =>
    by_cases hends : endsChunk (c :: cs) = true
    · have hmore : endsChunk (c :: (cs ++ b)) = true :=
        isLocal_endsChunk.append_of_true (List.cons_ne_nil c cs) hends b
      rw [List.cons_append, attributeValue, if_pos hmore, attributeValue, if_pos hends]
      rfl
    · rw [attributeValue, if_neg hends] at hrest
      have hmore : ¬endsChunk (c :: (cs ++ b)) = true := by
        rwa [isLocal_endsChunk.append_of_ne_nil c (ne_nil_of_value_rest hrest)]
      rw [List.cons_append, attributeValue, if_neg hmore, attributeValue, if_neg hends,
        value_append_of_rest hquote hrest]

theorem assignment_append_of_rest {toEol : Bool} {cs : List Char}
    (hquote : ∀ d ∈ cs, isQuote d = false) (hrest : (assignment toEol cs).2 ≠ [])
    (b : List Char) : assignment toEol (cs ++ b) = followedBy b (assignment toEol cs) := by
  by_cases hsign : ∃ ds, cs = '=' :: ds
  · obtain ⟨ds, rfl⟩ := hsign
    rw [assignment] at hrest
    have hds : ∀ d ∈ ds, isQuote d = false := fun d hd => hquote d (List.mem_cons_of_mem _ hd)
    rw [List.cons_append, assignment, attributeValue_append_of_rest hds hrest, assignment]
    rfl
  · have hnone := not_exists.1 hsign
    rw [assignment_of_ne toEol hnone] at hrest ⊢
    refine assignment_of_ne toEol fun es hes => ?_
    obtain ⟨c, cs, rfl⟩ := List.exists_cons_of_ne_nil hrest
    exact hnone cs (by rw [(List.cons.inj hes).1])

/-! ### Steps that leave something -/

theorem statementStep_append_of_rest {config : Config} {c : Char} {cs : List Char}
    (hrest : (statementStep config c cs).rest ≠ []) (b : List Char) :
    statementStep config c (cs ++ b) = (statementStep config c cs).followedBy b := by
  unfold statementStep at hrest ⊢
  by_cases hblank : isBlank c = true
  · rw [if_pos hblank] at hrest
    rw [if_pos hblank, if_pos hblank, ← List.cons_append, blankRun_append_of_rest hrest]
    rfl
  rw [if_neg hblank] at hrest
  rw [if_neg hblank, if_neg hblank]
  by_cases hstart : atTagStart (c :: cs) = true
  · have hmore : atTagStart (c :: (cs ++ b)) = true :=
      isLocal_atTagStart.append_of_true (List.cons_ne_nil c cs) hstart b
    rw [if_pos hstart, if_pos hmore]
    rfl
  rw [if_neg hstart] at hrest
  by_cases hcomment : atComment (c :: cs) = true
  · rw [if_pos hcomment] at hrest
    exact absurd rfl hrest
  rw [if_neg hcomment] at hrest
  change (word c cs).2 ≠ [] at hrest
  have hcs : cs ≠ [] := fun hnil => hrest (by rw [hnil]; rfl)
  have hmore : ¬atTagStart (c :: (cs ++ b)) = true := by
    rwa [isLocal_atTagStart.append_of_ne_nil c hcs]
  have hmore' : ¬atComment (c :: (cs ++ b)) = true := by
    rwa [isLocal_atComment.append_of_ne_nil c hcs]
  rw [if_neg hstart, if_neg hcomment, if_neg hmore, if_neg hmore', word_append_of_rest hrest]
  rfl

theorem openingBracket_append_of_rest {c : Char} {cs : List Char}
    (hrest : (openingBracket c cs).2 ≠ []) (b : List Char) :
    openingBracket c (cs ++ b) = followedBy b (openingBracket c cs) := by
  match cs with
  | [] => exact absurd rfl hrest
  | d :: ds =>
    by_cases hslash : d = '/'
    · rw [hslash]
      rfl
    · rw [List.cons_append, openingBracket_of_ne hslash, openingBracket_of_ne hslash]
      rfl

theorem tagOpenStep_append_of_rest {config : Config} {c : Char} {cs : List Char}
    (hrest : (tagOpenStep config c cs).rest ≠ []) (b : List Char) :
    tagOpenStep config c (cs ++ b) = (tagOpenStep config c cs).followedBy b := by
  change (openingBracket c cs).2.dropWhile isTagNameChar ≠ [] at hrest
  have hbracket : (openingBracket c cs).2 ≠ [] := fun hnil => hrest (by rw [hnil]; rfl)
  simp only [tagOpenStep, openingBracket_append_of_rest hbracket, followedBy,
    takeWhile_append_of_rest hrest, dropWhile_append_of_rest hrest]
  rfl

theorem attributesStep_append_of_rest {toEol : Bool} {c : Char} {cs : List Char}
    (hquote : ∀ d ∈ c :: cs, isQuote d = false) (hrest : (attributesStep toEol c cs).rest ≠ [])
    (b : List Char) :
    attributesStep toEol c (cs ++ b) = (attributesStep toEol c cs).followedBy b := by
  unfold attributesStep at hrest ⊢
  by_cases hblank : isBlank c = true
  · rw [if_pos hblank] at hrest
    rw [if_pos hblank, if_pos hblank, ← List.cons_append, blankRun_append_of_rest hrest]
    rfl
  rw [if_neg hblank] at hrest
  rw [if_neg hblank, if_neg hblank]
  by_cases hclose : atTagClose (c :: cs) = true
  · have hmore : atTagClose (c :: (cs ++ b)) = true :=
      isLocal_atTagClose.append_of_true (List.cons_ne_nil c cs) hclose b
    rw [if_pos hclose, if_pos hmore, closingBracket_append_of_close hclose]
    rfl
  rw [if_neg hclose] at hrest
  rw [if_neg hclose]
  by_cases hname : isAttributeNameChar c = true
  · rw [if_pos hname] at hrest
    change (assignment toEol (cs.dropWhile isAttributeNameChar)).2 ≠ [] at hrest
    have hdrop : cs.dropWhile isAttributeNameChar ≠ [] := fun hnil => hrest (by rw [hnil]; rfl)
    have hcs : ∀ d ∈ cs.dropWhile isAttributeNameChar, isQuote d = false := fun d hd =>
      hquote d (List.mem_cons_of_mem c ((List.dropWhile_suffix _).mem hd))
    have hmore : ¬atTagClose (c :: (cs ++ b)) = true := by
      intro h
      rcases atTagClose_cons.1 h with rfl | ⟨rfl, _⟩ <;> revert hname <;> decide
    rw [if_neg hmore, if_pos hname, if_pos hname]
    simp only [takeWhile_append_of_rest hdrop, dropWhile_append_of_rest hdrop,
      assignment_append_of_rest hcs hrest]
    rfl
  · rw [if_neg hname] at hrest
    have hmore : ¬atTagClose (c :: (cs ++ b)) = true := by
      rwa [isLocal_atTagClose.append_of_ne_nil c (ne_nil_of_value_rest hrest)]
    rw [if_neg hmore, if_neg hname, if_neg hname, value_append_of_rest hquote hrest]
    rfl

/-- A step that leaves something of a text without quotes does not notice what is behind it. -/
theorem step_append_of_rest {config : Config} {mode : Mode} {c : Char} {cs : List Char}
    (hquote : ∀ d ∈ c :: cs, isQuote d = false) (hrest : (step config mode c cs).rest ≠ [])
    (b : List Char) : step config mode c (cs ++ b) = (step config mode c cs).followedBy b := by
  cases mode with
  | statement => exact statementStep_append_of_rest hrest b
  | tagOpen => exact tagOpenStep_append_of_rest hrest b
  | attributes => exact attributesStep_append_of_rest hquote hrest b

end Lexer

end TagHighlight
