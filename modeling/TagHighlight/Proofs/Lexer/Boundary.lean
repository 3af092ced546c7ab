import TagHighlight.Lexer.Step

/-!
# Where texts end

The classes of characters that matter to the lexer lie apart: no character of a name is blank, and
neither a quote nor a character that opens or closes anything belongs to a name
(`isBlank_eq_false_of_isAttributeNameChar`, `endsChunk_eq_false_of_isAttributeNameChar`). So a run of
one class in front of a text that begins with none of it is cut off exactly
(`takeWhile_append_of_head`, `splitUntil_append_of_stop`).
-/

namespace TagHighlight.Lexer

open TagHighlight.Text (apostrophe doubleQuote isQuote)
open TagHighlight.Unicode (blanks isBlank isAlphanumeric)

/-! ### Classes of characters -/

theorem mem_blanks_of_isBlank {c : Char} (h : isBlank c = true) : c ∈ blanks :=
  List.contains_iff_mem.1 h

theorem isTagNameChar_eq_false_of_isBlank {c : Char} (h : isBlank c = true) :
    isTagNameChar c = false := by
  have hall : (blanks.all fun d => !isTagNameChar d) = true := by decide +kernel
  simpa using List.all_eq_true.1 hall c (mem_blanks_of_isBlank h)

theorem isAttributeNameChar_eq_false_of_isBlank {c : Char} (h : isBlank c = true) :
    isAttributeNameChar c = false := by
  have hall : (blanks.all fun d => !isAttributeNameChar d) = true := by decide +kernel
  simpa using List.all_eq_true.1 hall c (mem_blanks_of_isBlank h)

theorem isBlank_eq_false_of_isAttributeNameChar {c : Char} (h : isAttributeNameChar c = true) :
    isBlank c = false := by
  refine Bool.eq_false_iff.2 fun hb => ?_
  simp [isAttributeNameChar_eq_false_of_isBlank hb] at h

theorem isTagNameChar_of_isTagNameStart {c : Char} (h : isTagNameStart c = true) :
    isTagNameChar c = true := by
  simp only [isTagNameStart, isTagNameChar, isAlphanumeric, Bool.or_eq_true] at h ⊢
  rcases h with h | h
  · exact .inl (.inl (.inl h))
  · exact .inl (.inr h)

theorem eq_of_isQuote {c : Char} (h : isQuote c = true) : c = apostrophe ∨ c = doubleQuote := by
  simpa [isQuote] using h

theorem ne_brace_of_isQuote {c : Char} (h : isQuote c = true) : c ≠ '\x7b' ∧ c ≠ '\x7d' := by
  rcases eq_of_isQuote h with rfl | rfl <;> decide

/-! ### Ends of chunks -/

theorem atTagClose_cons {c : Char} {cs : List Char} :
    atTagClose (c :: cs) = true ↔ c = '>' ∨ c = '/' ∧ cs.head? = some '>' := by
  simp [atTagClose]

theorem endsChunk_cons {c : Char} {cs : List Char} :
    endsChunk (c :: cs) = true ↔ isBlank c = true ∨ c = '>' ∨ c = '/' ∧ cs.head? = some '>' := by
  rw [endsChunk, Bool.or_eq_true, atTagClose_cons]

theorem endsChunk_eq_false {c : Char} {cs : List Char} (hblank : isBlank c = false)
    (hclose : c ≠ '>') (hslash : c = '/' → cs.head? ≠ some '>') : endsChunk (c :: cs) = false := by
  rw [Bool.eq_false_iff, ne_eq, endsChunk_cons, hblank]
  rintro (h | h | ⟨hc, hcs⟩)
  · cases h
  · exact hclose h
  · exact hslash hc hcs

theorem isAttributeNameChar_eq_false_of_endsChunk {c : Char} {cs : List Char}
    (h : endsChunk (c :: cs) = true) : isAttributeNameChar c = false ∧ c ≠ '=' := by
  rcases endsChunk_cons.1 h with h | rfl | ⟨rfl, _⟩
  · refine ⟨isAttributeNameChar_eq_false_of_isBlank h, ?_⟩
    rintro rfl
    cases h
  · exact ⟨by decide, by decide⟩
  · exact ⟨by decide, by decide⟩

theorem isTagNameChar_eq_false_of_endsChunk {c : Char} {cs : List Char}
    (h : endsChunk (c :: cs) = true) : isTagNameChar c = false := by
  rcases endsChunk_cons.1 h with h | rfl | ⟨rfl, _⟩
  · exact isTagNameChar_eq_false_of_isBlank h
  · decide
  · decide

theorem openingBracket_of_ne {c d : Char} {cs : List Char} (h : d ≠ '/') :
    openingBracket c (d :: cs) = ([c], d :: cs) := by
  unfold openingBracket
  split
  · rename_i heq
    exact absurd (List.cons.inj heq).1 h
  · rfl

/-! ### Runs that are cut off -/

section
variable {p : Char → Bool} {s rest : List Char}

theorem takeWhile_append_of_head (hs : ∀ c ∈ s, p c = true) (hrest : ∀ c ∈ rest.head?, p c = false) :
    (s ++ rest).takeWhile p = s := by
  have hstop : rest.takeWhile p = [] := by
    cases rest with
    | nil => rfl
    | cons c cs => simp [hrest c rfl]
  rw [List.takeWhile_append_of_pos hs, hstop, List.append_nil]

theorem dropWhile_append_of_head (hs : ∀ c ∈ s, p c = true) (hrest : ∀ c ∈ rest.head?, p c = false) :
    (s ++ rest).dropWhile p = rest := by
  rw [List.dropWhile_append_of_pos hs]
  cases rest with
  | nil => rfl
  | cons c cs => simp [hrest c rfl]

theorem head?_dropWhile_eq_false (cs : List Char) : ∀ c ∈ (cs.dropWhile p).head?, p c = false := by
  intro c hc
  have h := List.head?_dropWhile_not p cs
  rw [Option.mem_def.1 hc] at h
  exact h

end

theorem splitUntil_append_of_stop {stop : List Char → Bool} {s rest : List Char}
    (hs : ∀ t, t <:+ s → t ≠ [] → stop (t ++ rest) = false) (hrest : rest ≠ [] → stop rest = true) :
    splitUntil stop (s ++ rest) = (s, rest) := by
  induction s with
  | nil =>
    cases rest with
    | nil => rfl
    | cons c cs =>
      rw [List.nil_append, splitUntil, if_pos (hrest (List.cons_ne_nil _ _))]
  | cons c s ih =>
    have hc : stop (c :: (s ++ rest)) = false := hs _ (List.suffix_refl _) (List.cons_ne_nil _ _)
    have hsplit := ih fun t ht => hs t (ht.trans (List.suffix_cons c s))
    rw [List.cons_append, splitUntil, if_neg (by simp [hc]), hsplit]

end TagHighlight.Lexer
