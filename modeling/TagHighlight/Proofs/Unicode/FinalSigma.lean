import Mathlib.Data.List.Forall2
import TagHighlight.Proofs.Unicode.Lowering

/-!
# Lowering some of the characters first

A text in which some characters are replaced by what each of them is lowered to alone (`PartlyLowered`)
has the same lowercase form, but for one character: a capital sigma that ends a word becomes `ς` in the
lowercase form and `σ` alone. `lower_eq_iff_keepsFinalSigmas` says that the two lowercase forms are
equal exactly when every capital sigma that ends a word is left as it is.

Whether a sigma ends a word is decided by the characters around it, and those can be replaced too. It
makes no difference because the replacement of a character is cased exactly when the character is, and
neither is looked through; for the table this is checked run by run (`moved_are_casedOnly`).
-/

namespace TagHighlight.Unicode

/-! ### Runs of cased characters -/

/-- One of the ranges has the whole run. -/
def Run.inside (r : Run) : List (Nat × Nat) → Bool
  | [] => false
  | (first, last) :: rs => Nat.ble first r.first && (Nat.ble r.last last || r.inside rs)

/-- The run is passed by all ranges up to the first one that starts beyond it. -/
def Run.outside (r : Run) : List (Nat × Nat) → Bool
  | [] => true
  | (first, last) :: rs => Nat.blt r.last first || (Nat.blt last r.first && r.outside rs)

theorem Run.inRanges_of_inside {r : Run} {rs : List (Nat × Nat)} {n : Nat}
    (h : r.inside rs = true) (hn : r.contains n = true) : inRanges rs n = true := by
  obtain ⟨hfirst, hlast, -⟩ := contains_iff.1 hn
  induction rs with
  | nil => cases h
  | cons range rs ih =>
    simp only [inside, Bool.and_eq_true, Bool.or_eq_true, Nat.ble_eq] at h
    simp only [inRanges, Bool.and_eq_true, Bool.or_eq_true, Nat.ble_eq]
    refine ⟨by omega, ?_⟩
    rcases h.2 with hrange | hrest
    · left
      omega
    · exact .inr (ih hrest)

theorem Run.inRanges_eq_false_of_outside {r : Run} {rs : List (Nat × Nat)} {n : Nat}
    (h : r.outside rs = true) (hn : r.contains n = true) : inRanges rs n = false := by
  obtain ⟨hfirst, hlast, -⟩ := contains_iff.1 hn
  induction rs with
  | nil => rfl
  | cons range rs ih =>
    simp only [outside, Bool.and_eq_true, Bool.or_eq_true, Nat.blt_eq] at h
    rw [← Bool.not_eq_true]
    simp only [inRanges, Bool.and_eq_true, Bool.or_eq_true, Nat.ble_eq]
    rintro ⟨hstart, hin⟩
    rcases h with hbeyond | ⟨hpassed, hrest⟩
    · omega
    · rcases hin with hin | hin
      · omega
      · rw [ih hrest] at hin
        cases hin

def Run.points (r : Run) : List Nat :=
  (List.range ((r.last - r.first) / r.stride + 1)).map fun k => r.first + r.stride * k

theorem Run.mem_points {r : Run} {n : Nat} (h : r.contains n = true) : n ∈ r.points := by
  obtain ⟨hfirst, hlast, hstep⟩ := contains_iff.1 h
  have hle : (n - r.first) / r.stride ≤ (r.last - r.first) / r.stride :=
    Nat.div_le_div_right (by omega)
  refine List.mem_map.2 ⟨(n - r.first) / r.stride, List.mem_range.2 (by omega), ?_⟩
  rw [Nat.mul_div_cancel' hstep]
  omega

/-- The run has cased characters only, and none of them is looked through. -/
def Run.casedOnly (r : Run) : Bool :=
  (r.inside casedRanges || r.points.all (inRanges casedRanges)) && r.outside caseIgnorableRanges

theorem moved_are_casedOnly :
    lowerRuns.all (fun r => r.source.casedOnly && r.image.casedOnly) = true := by
  decide +kernel

structure CasedOnly (c : Char) : Prop where
  isCased : isCased c = true
  isCaseIgnorable : isCaseIgnorable c = false

theorem Run.casedOnly_of_contains {r : Run} {c : Char} (h : r.casedOnly = true)
    (hc : r.contains c.toNat = true) : CasedOnly c := by
  simp only [Run.casedOnly, Bool.and_eq_true, Bool.or_eq_true] at h
  obtain ⟨hcased, houtside⟩ := h
  refine ⟨?_, inRanges_eq_false_of_outside houtside hc⟩
  rcases hcased with hinside | hpoints
  · exact inRanges_of_inside hinside hc
  · exact List.all_eq_true.1 hpoints _ (mem_points hc)

/-! ### A character lowered alone -/

/-- Alone, the first character is lowered to the second one. -/
def LowersTo (c d : Char) : Prop := lower (String.ofList [c]) = String.ofList [d]

instance (c d : Char) : Decidable (LowersTo c d) := inferInstanceAs (Decidable (lower _ = _))

theorem lowersTo_iff {c d : Char} : LowersTo c d ↔ lowerChar [] c [] = [d] := by
  rw [LowersTo, lower, String.toList_ofList, String.ofList_inj]
  simp only [lowerAfter, List.append_nil]

namespace LowersTo

variable {c d : Char}

theorem lowered (h : LowersTo c d) : Lowered d := by
  have hmem : d ∈ lowerChar [] c [] := by
    rw [lowersTo_iff.1 h]
    exact List.mem_singleton_self d
  exact lowered_of_mem_lowerChar hmem

theorem eq_of_sigma (h : LowersTo 'Σ' d) : d = 'σ' :=
  (List.cons.inj (lowersTo_iff.1 h)).1.symm

theorem lowerChar_eq (h : LowersTo c d) (hc : c ≠ 'Σ') (before after : List Char) :
    lowerChar before c after = [d] := by
  rw [← lowersTo_iff.1 h]
  simp only [lowerChar, if_neg hc]

theorem casedOnly (h : LowersTo c d) (hne : d ≠ c) : CasedOnly c ∧ CasedOnly d := by
  by_cases hc : c = 'Σ'
  · subst hc
    rw [h.eq_of_sigma]
    exact ⟨⟨by decide +kernel, by decide +kernel⟩, ⟨by decide +kernel, by decide +kernel⟩⟩
  have hd := lowersTo_iff.1 h
  rw [lowerChar, if_neg hc] at hd
  split at hd
  · cases hd
  · obtain rfl := (List.cons.inj hd).1
    rcases shift_cases lowerRuns c.toNat with hself | ⟨r, hr, hsource, hshift⟩
    · rw [hself, Char.ofNat_toNat] at hne
      exact absurd rfl hne
    · obtain ⟨hchars, -⟩ := Bool.and_eq_true_iff.1 (List.all_eq_true.1 images_miss_sources r hr)
      obtain ⟨hfrom, hto⟩ := Bool.and_eq_true_iff.1 (List.all_eq_true.1 moved_are_casedOnly r hr)
      have himage := ShiftedRun.contains_image hsource
      refine ⟨Run.casedOnly_of_contains hfrom hsource, Run.casedOnly_of_contains hto ?_⟩
      rwa [hshift, Run.toNat_ofNat hchars himage]

end LowersTo

/-- The character is left as it is or replaced by what it is lowered to alone. -/
def KeptOrLowered (c d : Char) : Prop := d = c ∨ LowersTo c d

instance (c d : Char) : Decidable (KeptOrLowered c d) :=
  inferInstanceAs (Decidable (d = c ∨ LowersTo c d))

namespace KeptOrLowered

variable {c d : Char}

theorem eq_or_casedOnly (h : KeptOrLowered c d) : d = c ∨ CasedOnly c ∧ CasedOnly d := by
  by_cases hne : d = c
  · exact .inl hne
  · exact .inr ((h.resolve_left hne).casedOnly hne)

theorem isCased_eq (h : KeptOrLowered c d) : isCased d = isCased c := by
  rcases h.eq_or_casedOnly with rfl | ⟨hc, hd⟩
  · rfl
  · rw [hc.isCased, hd.isCased]

theorem isCaseIgnorable_eq (h : KeptOrLowered c d) : isCaseIgnorable d = isCaseIgnorable c := by
  rcases h.eq_or_casedOnly with rfl | ⟨hc, hd⟩
  · rfl
  · rw [hc.isCaseIgnorable, hd.isCaseIgnorable]

end KeptOrLowered

/-! ### Texts with some characters lowered -/

/-- Some characters of the first text are replaced, each by what it is lowered to alone. -/
def PartlyLowered (cs ds : List Char) : Prop := List.Forall₂ KeptOrLowered cs ds

instance (cs ds : List Char) : Decidable (PartlyLowered cs ds) :=
  inferInstanceAs (Decidable (List.Forall₂ KeptOrLowered cs ds))

theorem startsCased_cons (c : Char) (cs : List Char) :
    startsCased (c :: cs) = if isCaseIgnorable c then startsCased cs else isCased c := by
  unfold startsCased
  rw [List.dropWhile_cons]
  split <;> rfl

namespace PartlyLowered

variable {cs ds before before' : List Char}

theorem startsCased_eq (h : PartlyLowered cs ds) : startsCased ds = startsCased cs := by
  unfold PartlyLowered at h
  induction h with
  | nil => rfl
  | cons hcd _ ih =>
    rw [startsCased_cons, startsCased_cons, ih, hcd.isCased_eq, hcd.isCaseIgnorable_eq]

theorem sigmaIsFinal_eq (hbefore : PartlyLowered before before') (h : PartlyLowered cs ds) :
    sigmaIsFinal before' ds = sigmaIsFinal before cs := by
  rw [sigmaIsFinal, sigmaIsFinal, hbefore.startsCased_eq, h.startsCased_eq]

/-- In a text with some characters lowered, a character is lowered as before unless it is a capital
sigma that ends a word. -/
theorem lowerChar_eq_iff {c d : Char} (hbefore : PartlyLowered before before')
    (h : PartlyLowered cs ds) (hcd : KeptOrLowered c d) :
    (lowerChar before c cs).length = (lowerChar before' d ds).length ∧
      (lowerChar before c cs = lowerChar before' d ds ↔
        (c = 'Σ' → sigmaIsFinal before cs = true → d = 'Σ')) := by
  rcases hcd with rfl | hcd
  · have hsame : lowerChar before d cs = lowerChar before' d ds := by
      rw [lowerChar, lowerChar, sigmaIsFinal_eq hbefore h]
    exact ⟨congrArg List.length hsame, iff_of_true hsame fun hd _ => hd⟩
  · have hd := hcd.lowered.lowerChar_eq before' ds
    by_cases hc : c = 'Σ'
    · subst hc
      obtain rfl := hcd.eq_of_sigma
      rw [hd, lowerChar, if_pos rfl]
      cases sigmaIsFinal before cs <;> simp
    · rw [hd, hcd.lowerChar_eq hc]
      exact ⟨rfl, iff_of_true rfl fun h => absurd h hc⟩

end PartlyLowered

/-! ### Sigmas that end a word -/

/-- Behind `before`, which is given from right to left, the second text has a capital sigma wherever
the first one has one that ends a word. -/
def KeepsFinalSigmas (before cs ds : List Char) : Prop :=
  ∀ left right, cs = left ++ 'Σ' :: right → sigmaIsFinal (left.reverse ++ before) right = true →
    ds[left.length]? = some 'Σ'

theorem keepsFinalSigmas_nil (before ds : List Char) : KeepsFinalSigmas before [] ds := by
  intro left right h
  cases left <;> cases h

theorem keepsFinalSigmas_cons {before cs ds : List Char} {c d : Char} :
    KeepsFinalSigmas before (c :: cs) (d :: ds) ↔
      (c = 'Σ' → sigmaIsFinal before cs = true → d = 'Σ') ∧ KeepsFinalSigmas (c :: before) cs ds := by
  constructor
  · intro h
    constructor
    · rintro rfl hfinal
      exact Option.some.inj (h [] cs rfl hfinal)
    · intro left right hcs hfinal
      apply h (c :: left) right (congrArg (c :: ·) hcs)
      rwa [List.reverse_cons, List.append_assoc]
  · rintro ⟨hfirst, hrest⟩ left right hcs hfinal
    cases left with
    | nil =>
      obtain ⟨rfl, rfl⟩ := List.cons.inj hcs
      exact congrArg some (hfirst rfl hfinal)
    | cons e left =>
      obtain ⟨rfl, htail⟩ := List.cons.inj hcs
      apply hrest left right htail
      rwa [List.reverse_cons, List.append_assoc] at hfinal

theorem lowerAfter_eq_iff {before before' cs ds : List Char} (hbefore : PartlyLowered before before')
    (h : PartlyLowered cs ds) :
    lowerAfter before cs = lowerAfter before' ds ↔ KeepsFinalSigmas before cs ds := by
  unfold PartlyLowered at h
  induction h generalizing before before' with
  | nil => exact iff_of_true rfl (keepsFinalSigmas_nil _ _)
  | cons hcd hrest ih =>
    obtain ⟨hlength, hfirst⟩ := hbefore.lowerChar_eq_iff hrest hcd
    rw [lowerAfter, lowerAfter, keepsFinalSigmas_cons, ← hfirst, ← ih (.cons hcd hbefore)]
    constructor
    · intro happ
      exact List.append_inj happ hlength
    · rintro ⟨hc, hcs⟩
      rw [hc, hcs]

/-- **A text and the same text with some characters lowered have one lowercase form exactly when every
capital sigma that ends a word is left as it is.** -/
theorem lower_eq_iff_keepsFinalSigmas {cs ds : List Char} (h : PartlyLowered cs ds) :
    lower (String.ofList cs) = lower (String.ofList ds) ↔ KeepsFinalSigmas [] cs ds := by
  rw [lower, lower, String.toList_ofList, String.toList_ofList, String.ofList_inj]
  exact lowerAfter_eq_iff .nil h

end TagHighlight.Unicode
