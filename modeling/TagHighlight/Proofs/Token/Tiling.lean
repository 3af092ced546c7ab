import TagHighlight.Token.Partition

/-!
# Tilings of a line

Tokens tile a stretch of a line when none is empty, each stands where the ones before it end, and
their texts one after the other are the stretch. That speaks of all tokens at once; the check walks
along the line with a running column. Both say the same of the whole line, by induction on the
tokens with the column and the stretch free (`firstDefect_eq_none_iff`).
-/

namespace TagHighlight

def textLength : List Token → Nat
  | [] => 0
  | t :: ts => t.text.length + textLength ts

/-- The tokens tile the stretch `rest` of a line, which begins at the column `col`. -/
structure Tiles (col : Nat) (rest : List Char) (ts : List Token) : Prop where
  ne_empty : ∀ t ∈ ts, t.text ≠ ""
  col_eq : ∀ (before : List Token) (t : Token) (after : List Token),
    ts = before ++ t :: after → t.col = ((col + textLength before : Nat) : Int)
  text_eq : ts.flatMap (fun t => t.text.toList) = rest

abbrev Partitions (line : String) (ts : List Token) : Prop := Tiles 0 line.toList ts

theorem tiles_nil {col : Nat} {rest : List Char} : Tiles col rest [] ↔ rest = [] := by
  refine ⟨fun h => h.text_eq.symm, fun h => ⟨fun t ht => ?_, fun before t after ht => ?_, h.symm⟩⟩
  · cases ht
  · cases before <;> cases ht

theorem tiles_cons {col : Nat} {rest : List Char} {t : Token} {ts : List Token} :
    Tiles col rest (t :: ts) ↔
      t.text ≠ "" ∧ t.col = col ∧
        ∃ after, rest = t.text.toList ++ after ∧ Tiles (col + t.text.length) after ts := by
  constructor
  · intro h
    have htext := h.text_eq
    rw [List.flatMap_cons] at htext
    refine ⟨h.ne_empty t List.mem_cons_self, h.col_eq [] t ts rfl, _, htext.symm,
      fun u hu => h.ne_empty u (List.mem_cons_of_mem _ hu), fun before u after hu => ?_, rfl⟩
    rw [h.col_eq (t :: before) u after (by rw [hu]; rfl), textLength, Nat.add_assoc]
  · rintro ⟨hne, hcol, after, rfl, h⟩
    refine ⟨fun u hu => ?_, fun before u others hu => ?_, ?_⟩
    · rcases List.mem_cons.1 hu with rfl | hu
      · exact hne
      · exact h.ne_empty u hu
    · cases before with
      | nil =>
        cases hu
        exact hcol
      | cons v before =>
        obtain ⟨rfl, hts⟩ := List.cons.inj hu
        rw [h.col_eq before u others hts, textLength, Nat.add_assoc]
    · rw [List.flatMap_cons, h.text_eq]

theorem firstDefect_eq_none_iff {col : Nat} {rest : List Char} {ts : List Token} :
    firstDefect col rest ts = none ↔ Tiles col rest ts := by
  induction ts generalizing col rest with
  | nil =>
    rw [tiles_nil, firstDefect]
    split
    · rename_i h
      exact iff_of_true rfl (List.isEmpty_iff.1 h)
    · rename_i h
      exact iff_of_false (fun h => by cases h) (fun he => h (List.isEmpty_iff.2 he))
  | cons t ts ih =>
    have hempty : t.text.toList.isEmpty = true ↔ t.text = "" := by
      rw [List.isEmpty_iff, String.toList_eq_nil_iff]
    rw [tiles_cons, firstDefect]
    by_cases he : t.text.toList.isEmpty = true
    · rw [if_pos he]
      exact iff_of_false (fun h => by cases h) (fun h => h.1 (hempty.1 he))
    by_cases hcol : t.col = col
    · rw [if_neg he, if_neg (not_not_intro hcol)]
      by_cases hpre : t.text.toList.isPrefixOf rest = true
      · obtain ⟨after, rfl⟩ := List.isPrefixOf_iff_prefix.1 hpre
        rw [if_pos hpre, ih, List.drop_left, String.length_toList]
        refine ⟨fun h => ⟨fun h => he (hempty.2 h), hcol, after, rfl, h⟩, ?_⟩
        rintro ⟨_, _, after', happ, h⟩
        rwa [List.append_cancel_left happ]
      · rw [if_neg hpre]
        refine iff_of_false (fun h => by cases h) ?_
        rintro ⟨_, _, after, rfl, _⟩
        exact hpre (List.isPrefixOf_iff_prefix.2 (List.prefix_append _ _))
    · rw [if_neg he, if_pos hcol]
      exact iff_of_false (fun h => by cases h) (fun h => hcol h.2.1)

theorem verifyPartition_of_partitions {line : String} {ts : List Token} (h : Partitions line ts)
    (lineno : Option Int) : verifyPartition line ts lineno = .ok () := by
  rw [verifyPartition, firstDefect_eq_none_iff.2 h]

end TagHighlight
