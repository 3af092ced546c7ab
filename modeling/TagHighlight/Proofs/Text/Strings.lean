import Mathlib.Data.List.Chain
import TagHighlight.Proofs.Unicode.Lowering

/-!
# Loose texts that are strings

A loose text is a string when no surrogate stands alone in it. Joining and lowering neither bring in
surrogates nor take any away, so a joined text is a string exactly when all its parts are
(`isString_join`), and a lowered one exactly when the text is (`isString_lower`).

Between strings and all loose texts lie the unpaired ones: surrogates may stand in them, but not the
two halves of a pair next to each other.
-/

namespace TagHighlight

namespace CodePoint

def IsHigh (p : CodePoint) : Prop := 0xD800 ≤ p.toNat ∧ p.toNat < 0xDC00

def IsLow (p : CodePoint) : Prop := 0xDC00 ≤ p.toNat ∧ p.toNat < 0xE000

theorem not_isSurrogate_char (c : Char) : ¬(0xD800 ≤ (char c).toNat ∧ (char c).toNat < 0xE000) := by
  have hvalid : c.toNat.isValidChar := c.valid
  unfold Nat.isValidChar at hvalid
  rw [toNat]
  omega

theorem not_isHigh_char (c : Char) : ¬(char c).IsHigh := by
  have h := not_isSurrogate_char c
  unfold IsHigh
  omega

theorem not_isLow_char (c : Char) : ¬(char c).IsLow := by
  have h := not_isSurrogate_char c
  unfold IsLow
  omega

end CodePoint

namespace LooseText

def IsString (t : LooseText) : Prop := ∃ s : String, t = s

theorem isString_ofString (s : String) : IsString s := ⟨s, rfl⟩

theorem isString_iff {t : LooseText} : t.IsString ↔ ∀ n, .surrogate n ∉ t.points := by
  constructor
  · rintro ⟨s, rfl⟩ n hn
    obtain ⟨c, -, hc⟩ := List.mem_map.1 hn
    cases hc
  · intro h
    obtain ⟨points⟩ := t
    have hchars : ∃ cs : List Char, points = cs.map .char := by
      induction points with
      | nil => exact ⟨[], rfl⟩
      | cons p ps ih =>
        obtain ⟨cs, rfl⟩ := ih fun n hn => h n (List.mem_cons_of_mem p hn)
        cases p with
        | char c => exact ⟨c :: cs, rfl⟩
        | surrogate n => exact absurd List.mem_cons_self (h n)
    obtain ⟨cs, rfl⟩ := hchars
    exact ⟨String.ofList cs, by rw [ofString, String.toList_ofList]⟩

theorem isString_lower {t : LooseText} : t.lower.IsString ↔ t.IsString := by
  rw [isString_iff, isString_iff]
  exact forall_congr' fun n => not_congr surrogate_mem_lowerAfter

theorem mem_points_join_of_mem {separator : LooseText} {ts : List LooseText} {t : LooseText}
    (ht : t ∈ ts) {p : CodePoint} (hp : p ∈ t.points) : p ∈ (join separator ts).points := by
  rw [join]
  induction ts with
  | nil => cases ht
  | cons u us ih =>
    by_cases hus : us = []
    · subst hus
      obtain rfl := List.mem_singleton.1 ht
      simpa using hp
    · rw [List.map_cons, List.intercalate_cons_of_ne_nil (by simpa using hus), List.mem_append,
        List.mem_append]
      rcases List.mem_cons.1 ht with rfl | ht
      · exact .inl (.inl hp)
      · exact .inr (ih ht)

theorem mem_intercalate {α : Type} {x : α} {sep : List α} {ls : List (List α)}
    (h : x ∈ sep.intercalate ls) : x ∈ sep ∨ ∃ l ∈ ls, x ∈ l := by
  induction ls with
  | nil => simp at h
  | cons l ls ih =>
    by_cases hls : ls = []
    · subst hls
      exact Or.inr ⟨l, List.mem_cons_self, by simpa using h⟩
    · rw [List.intercalate_cons_of_ne_nil hls] at h
      rcases List.mem_append.1 h with h | h
      · rcases List.mem_append.1 h with h | h
        · exact Or.inr ⟨l, List.mem_cons_self, h⟩
        · exact Or.inl h
      · rcases ih h with h | ⟨m, hm, h⟩
        · exact Or.inl h
        · exact Or.inr ⟨m, List.mem_cons_of_mem _ hm, h⟩

theorem mem_points_join {separator : LooseText} {ts : List LooseText} {p : CodePoint}
    (h : p ∈ (join separator ts).points) : p ∈ separator.points ∨ ∃ t ∈ ts, p ∈ t.points := by
  refine (mem_intercalate h).imp_right ?_
  rintro ⟨l, hl, hp⟩
  obtain ⟨t, ht, rfl⟩ := List.mem_map.1 hl
  exact ⟨t, ht, hp⟩

theorem isString_join {separator : String} {ts : List LooseText} :
    (join separator ts).IsString ↔ ∀ t ∈ ts, t.IsString := by
  constructor
  · intro h t ht
    rw [isString_iff] at h ⊢
    exact fun n hn => h n (mem_points_join_of_mem ht hn)
  · intro h
    rw [isString_iff]
    intro n hn
    rcases mem_points_join hn with hsep | ⟨t, ht, hpoint⟩
    · exact isString_iff.1 (isString_ofString separator) n hsep
    · exact isString_iff.1 (h t ht) n hpoint

theorem exists_toString?_iff {t : LooseText} : (∃ s, t.toString? = .ok s) ↔ t.IsString :=
  exists_congr fun _ => toString?_eq_ok_iff

/-! ### Halves of pairs -/

/-- No high surrogate has a low one directly behind it. -/
def IsUnpaired (t : LooseText) : Prop := t.points.IsChain fun p q => p.IsHigh → ¬q.IsLow

end LooseText

end TagHighlight
