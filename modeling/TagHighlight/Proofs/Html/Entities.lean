import TagHighlight.Html.Render

/-!
# Entities are read back

`decode` reads the five entities of a text from left to right, each at one go, so what an entity
stands for is never read as a part of another. A character as it is written, with any text behind
it, is read as that character (`decode_escapeChar_append`), hence so is a whole text.
-/

namespace TagHighlight.Html

open TagHighlight.Text (apostrophe doubleQuote)

/-- A text with its entities read. All that is no entity stands for itself. -/
def decode : List Char → List Char
  | '&' :: 'a' :: 'm' :: 'p' :: ';' :: cs => '&' :: decode cs
  | '&' :: 'l' :: 't' :: ';' :: cs => '<' :: decode cs
  | '&' :: 'g' :: 't' :: ';' :: cs => '>' :: decode cs
  | '&' :: 'q' :: 'u' :: 'o' :: 't' :: ';' :: cs => doubleQuote :: decode cs
  | '&' :: '#' :: 'x' :: '2' :: '7' :: ';' :: cs => apostrophe :: decode cs
  | c :: cs => c :: decode cs
  | [] => []

def hasEntity (c : Char) : Bool := ['&', '<', '>', doubleQuote, apostrophe].contains c

theorem hasEntity_iff {c : Char} : hasEntity c = true ↔
    c = '&' ∨ c = '<' ∨ c = '>' ∨ c = doubleQuote ∨ c = apostrophe := by
  simp [hasEntity]

theorem escapeChar_of_hasEntity_eq_false {c : Char} (h : hasEntity c = false) :
    escapeChar c = [c] := by
  rw [← Bool.not_eq_true, hasEntity_iff] at h
  simp only [not_or] at h
  obtain ⟨hand, hless, hgreater, hquote, hapostrophe⟩ := h
  rw [escapeChar, if_neg hand, if_neg hless, if_neg hgreater, if_neg hquote, if_neg hapostrophe]

theorem eq_ampersand_of_mem_escapeChar {c d : Char} (hd : hasEntity d = true)
    (h : d ∈ escapeChar c) : d = '&' := by
  cases hc : hasEntity c with
  | true =>
    have hall : (escapeChar c).all (fun d => !hasEntity d || d == '&') = true := by
      rcases hasEntity_iff.1 hc with rfl | rfl | rfl | rfl | rfl <;> rfl
    have hone := List.all_eq_true.1 hall d h
    rw [hd] at hone
    exact eq_of_beq hone
  | false =>
    rw [escapeChar_of_hasEntity_eq_false hc, List.mem_singleton] at h
    rw [h, hc] at hd
    cases hd

theorem notMem_escape {d : Char} (hd : hasEntity d = true) (hne : d ≠ '&') (s : String) :
    d ∉ (escape s).toList := by
  rw [escape, String.toList_ofList]
  intro hm
  obtain ⟨c, _, hc⟩ := List.mem_flatMap.1 hm
  exact hne (eq_ampersand_of_mem_escapeChar hd hc)

theorem less_notMem_escape (s : String) : '<' ∉ (escape s).toList :=
  notMem_escape rfl (by decide) s

theorem decode_cons_of_ne {c : Char} (h : c ≠ '&') (cs : List Char) :
    decode (c :: cs) = c :: decode cs := by
  rw [decode] <;> exact fun _ hc => absurd hc h

theorem decode_escapeChar_append (c : Char) (rest : List Char) :
    decode (escapeChar c ++ rest) = c :: decode rest := by
  cases h : hasEntity c with
  | true => rcases hasEntity_iff.1 h with rfl | rfl | rfl | rfl | rfl <;> rfl
  | false =>
    have hc : c ≠ '&' := by
      rintro rfl
      cases h
    rw [escapeChar_of_hasEntity_eq_false h]
    exact decode_cons_of_ne hc rest

theorem decode_escape_append (cs rest : List Char) :
    decode (cs.flatMap escapeChar ++ rest) = cs ++ decode rest := by
  induction cs with
  | nil => rfl
  | cons c cs ih =>
    rw [List.flatMap_cons, List.append_assoc, decode_escapeChar_append, ih, List.cons_append]

end TagHighlight.Html
