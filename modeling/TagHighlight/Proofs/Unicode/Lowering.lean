import Mathlib.Data.Nat.ModEq
import TagHighlight.Unicode.CaseMap

/-!
# Lowering twice

A text in lower case is its own lowercase form. A character can depend on its neighbours when it is
lowered, and one character can become two; but what it becomes is `Lowered`: it is neither a capital
sigma nor a dotted capital I, and the table does not move it, so it stands for itself wherever it is.

That the table moves nothing onto a character that it moves again is checked run by run
(`images_miss_sources`). Two runs that overlap have no code point in common all the same when they
step over one another (`Run.misses`).
-/

namespace TagHighlight.Unicode

/-! ### Runs without a common code point -/

theorem Run.contains_iff {r : Run} {n : Nat} :
    r.contains n = true ↔ r.first ≤ n ∧ n ≤ r.last ∧ r.stride ∣ n - r.first := by
  rw [contains, Bool.and_eq_true, Bool.and_eq_true, Nat.ble_eq, Nat.ble_eq, Nat.beq_eq,
    ← Nat.dvd_iff_mod_eq_zero, and_assoc]

/-- The runs lie apart, or the first one keeps between the code points of the second one. -/
def Run.misses (r s : Run) : Bool :=
  Nat.blt r.last s.first || Nat.blt s.last r.first ||
    (Nat.beq r.first r.last || Nat.beq (r.stride % s.stride) 0) &&
      !Nat.beq (r.first % s.stride) (s.first % s.stride)

theorem Run.contains_eq_false_of_misses {r s : Run} {n : Nat} (h : r.misses s = true)
    (hr : r.contains n = true) : s.contains n = false := by
  obtain ⟨hfirst, hlast, hstep⟩ := contains_iff.1 hr
  rw [← Bool.not_eq_true, contains_iff]
  rintro ⟨hfirst', hlast', hstep'⟩
  simp only [misses, Bool.or_eq_true, Bool.and_eq_true, Nat.blt_eq, Nat.beq_eq, Bool.not_eq_true'] at h
  rcases h with (h | h) | ⟨hdvd, hne⟩
  · omega
  · omega
  · have hcommon : s.stride ∣ n - r.first := by
      rcases hdvd with hone | hdvd
      · rw [show n - r.first = 0 by omega]
        exact Nat.dvd_zero _
      · exact (Nat.dvd_of_mod_eq_zero hdvd).trans hstep
    have hr : r.first ≡ n [MOD s.stride] := (Nat.modEq_iff_dvd' hfirst).2 hcommon
    have hs : s.first ≡ n [MOD s.stride] := (Nat.modEq_iff_dvd' hfirst').2 hstep'
    rw [← Bool.not_eq_true, Nat.beq_eq] at hne
    exact hne (hr.trans hs.symm)

/-! ### What the table moves -/

theorem shift_eq_self {rs : List ShiftedRun} {n : Nat}
    (h : ∀ r ∈ rs, r.source.contains n = false) : shift rs n = n := by
  induction rs with
  | nil => rfl
  | cons r rs ih =>
    rw [shift, h r List.mem_cons_self]
    split
    · rfl
    · exact ih fun s hs => h s (List.mem_cons_of_mem r hs)

theorem shift_cases (rs : List ShiftedRun) (n : Nat) :
    shift rs n = n ∨
      ∃ r ∈ rs, r.source.contains n = true ∧ shift rs n = r.target + (n - r.source.first) := by
  induction rs with
  | nil => exact .inl rfl
  | cons r rs ih =>
    rw [shift]
    split
    · exact .inl rfl
    · split
      · rename_i hr
        exact .inr ⟨r, List.mem_cons_self, hr, rfl⟩
      · exact ih.imp_right fun ⟨s, hs, hshift⟩ => ⟨s, List.mem_cons_of_mem r hs, hshift⟩

def ShiftedRun.image (r : ShiftedRun) : Run :=
  ⟨r.target, r.target + (r.source.last - r.source.first), r.source.stride⟩

theorem ShiftedRun.contains_image {r : ShiftedRun} {n : Nat} (h : r.source.contains n = true) :
    r.image.contains (r.target + (n - r.source.first)) = true := by
  obtain ⟨hfirst, hlast, hstep⟩ := Run.contains_iff.1 h
  refine Run.contains_iff.2 ⟨Nat.le_add_right _ _, ?_, ?_⟩
  · simp only [image]
    omega
  · rwa [image, Nat.add_sub_cancel_left]

/-- The capitals that the table leaves to rules of their own. -/
def ruledCapitals : List Char := ['Σ', 'İ']

def Run.one (c : Char) : Run := ⟨c.toNat, c.toNat, 1⟩

/-- The characters that are not their own lowercase forms. -/
def loweredRuns : List Run := ruledCapitals.map Run.one ++ lowerRuns.map ShiftedRun.source

def Run.areChars (r : Run) : Bool :=
  Nat.blt r.last 0xD800 || (Nat.blt 0xDFFF r.first && Nat.blt r.last 0x110000)

/-- The table moves characters to characters that neither it nor a rule changes. -/
theorem images_miss_sources :
    lowerRuns.all (fun r => r.image.areChars &&
      loweredRuns.all r.image.misses) = true := by
  decide +kernel

theorem Run.isValidChar_of_areChars {r : Run} {n : Nat} (h : r.areChars = true)
    (hn : r.contains n = true) : n.isValidChar := by
  obtain ⟨hfirst, hlast, -⟩ := contains_iff.1 hn
  simp only [areChars, Bool.or_eq_true, Bool.and_eq_true, Nat.blt_eq] at h
  unfold Nat.isValidChar
  omega

theorem Run.toNat_ofNat {r : Run} {n : Nat} (h : r.areChars = true) (hn : r.contains n = true) :
    (Char.ofNat n).toNat = n := by
  rw [Char.ofNat, dif_pos (isValidChar_of_areChars h hn)]
  rfl

/-! ### Lowered characters -/

/-- The character is its own lowercase form, wherever it stands. -/
structure Lowered (c : Char) : Prop where
  ne_sigma : c ≠ 'Σ'
  ne_dotted : c ≠ 'İ'
  shift_eq : shift lowerRuns c.toNat = c.toNat

theorem Lowered.lowerChar_eq {c : Char} (h : Lowered c) (before after : List Char) :
    lowerChar before c after = [c] := by
  rw [lowerChar, if_neg h.ne_sigma, if_neg h.ne_dotted, h.shift_eq, Char.ofNat_toNat]

theorem lowered_of_misses {r : Run} {n : Nat} (hchars : r.areChars = true)
    (hmisses : loweredRuns.all r.misses = true) (hn : r.contains n = true) :
    Lowered (Char.ofNat n) := by
  have htoNat : (Char.ofNat n).toNat = n := Run.toNat_ofNat hchars hn
  have hnone : ∀ s ∈ loweredRuns, s.contains n = false :=
    fun s hs => Run.contains_eq_false_of_misses (List.all_eq_true.1 hmisses s hs) hn
  have hne : ∀ c ∈ ruledCapitals, Char.ofNat n ≠ c := by
    rintro c hc rfl
    have hone := hnone _ (List.mem_append_left _ (List.mem_map_of_mem hc))
    rw [Run.one, htoNat, ← Bool.not_eq_true, Run.contains_iff] at hone
    exact hone ⟨Nat.le_refl n, Nat.le_refl n, Nat.one_dvd _⟩
  refine ⟨hne 'Σ' (by decide), hne 'İ' (by decide), ?_⟩
  rw [htoNat]
  exact shift_eq_self fun s hs => hnone _ (List.mem_append_right _ (List.mem_map_of_mem hs))

theorem lowered_of_mem_lowerChar {before after : List Char} {c d : Char}
    (h : d ∈ lowerChar before c after) : Lowered d := by
  unfold lowerChar at h
  split at h
  · rw [List.mem_singleton] at h
    subst h
    split
    · exact ⟨by decide, by decide, by decide +kernel⟩
    · exact ⟨by decide, by decide, by decide +kernel⟩
  · split at h
    · rw [List.mem_cons, List.mem_singleton] at h
      rcases h with rfl | rfl
      · exact ⟨by decide, by decide, by decide +kernel⟩
      · exact ⟨by decide, by decide, by decide +kernel⟩
    · rename_i hsigma hdotted
      rw [List.mem_singleton] at h
      subst h
      rcases shift_cases lowerRuns c.toNat with hself | ⟨r, hr, hsource, hshift⟩
      · rw [hself, Char.ofNat_toNat]
        exact ⟨hsigma, hdotted, hself⟩
      · have hall := List.all_eq_true.1 images_miss_sources r hr
        obtain ⟨hchars, hmisses⟩ := Bool.and_eq_true_iff.1 hall
        rw [hshift]
        exact lowered_of_misses hchars hmisses (ShiftedRun.contains_image hsource)

/-! ### Lowered texts -/

theorem lowered_of_mem_lowerAfter {before cs : List Char} {d : Char}
    (h : d ∈ lowerAfter before cs) : Lowered d := by
  induction cs generalizing before with
  | nil => cases h
  | cons c cs ih =>
    rw [lowerAfter, List.mem_append] at h
    exact h.elim lowered_of_mem_lowerChar ih

theorem lowerAfter_eq_self {before cs : List Char} (h : ∀ c ∈ cs, Lowered c) :
    lowerAfter before cs = cs := by
  induction cs generalizing before with
  | nil => rfl
  | cons c cs ih =>
    have hcs : ∀ d ∈ cs, Lowered d := fun d hd => h d (List.mem_cons_of_mem c hd)
    rw [lowerAfter, (h c List.mem_cons_self).lowerChar_eq, ih hcs]
    rfl

theorem lower_lower (s : String) : lower (lower s) = lower s := by
  rw [lower, lower, String.toList_ofList, lowerAfter_eq_self fun _ => lowered_of_mem_lowerAfter]

end TagHighlight.Unicode

/-! ### Lowered loose texts -/

namespace TagHighlight.LooseText

open TagHighlight.Unicode (Lowered lowered_of_mem_lowerChar)

theorem leadingChars_map_char (cs : List Char) : leadingChars (cs.map .char) = cs := by
  induction cs with
  | nil => rfl
  | cons c cs ih => rw [List.map_cons, leadingChars, ih]

theorem lowerAfter_map_char (before cs : List Char) :
    lowerAfter before (cs.map .char) = (Unicode.lowerAfter before cs).map .char := by
  induction cs generalizing before with
  | nil => rfl
  | cons c cs ih =>
    rw [List.map_cons, lowerAfter, Unicode.lowerAfter, leadingChars_map_char, ih, List.map_append]

@[simp] theorem lower_ofString (s : String) : (ofString s).lower = ofString (Unicode.lower s) := by
  rw [lower, ofString, ofString, lowerAfter_map_char, Unicode.lower, String.toList_ofList]

theorem lowered_of_mem_lowerAfter {before : List Char} {ps : List CodePoint} {d : Char}
    (h : .char d ∈ lowerAfter before ps) : Lowered d := by
  induction ps generalizing before with
  | nil => cases h
  | cons p ps ih =>
    cases p with
    | char c =>
      rw [lowerAfter, List.mem_append, List.mem_map] at h
      rcases h with ⟨e, he, hed⟩ | h
      · obtain rfl := CodePoint.char.inj hed
        exact lowered_of_mem_lowerChar he
      · exact ih h
    | surrogate n =>
      rw [lowerAfter, List.mem_cons] at h
      exact ih (h.resolve_left nofun)

theorem lowerAfter_eq_self {before : List Char} {ps : List CodePoint}
    (h : ∀ c, .char c ∈ ps → Lowered c) : lowerAfter before ps = ps := by
  induction ps generalizing before with
  | nil => rfl
  | cons p ps ih =>
    have hps : ∀ c, .char c ∈ ps → Lowered c := fun c hc => h c (List.mem_cons_of_mem p hc)
    cases p with
    | char c =>
      rw [lowerAfter, (h c List.mem_cons_self).lowerChar_eq, ih hps]
      rfl
    | surrogate n => rw [lowerAfter, ih hps]

theorem lower_lower (t : LooseText) : t.lower.lower = t.lower := by
  rw [lower, lower, lowerAfter_eq_self fun _ => lowered_of_mem_lowerAfter]

theorem surrogate_mem_lowerAfter {before : List Char} {ps : List CodePoint} {n : Fin 0x800} :
    .surrogate n ∈ lowerAfter before ps ↔ .surrogate n ∈ ps := by
  induction ps generalizing before with
  | nil => rfl
  | cons p ps ih =>
    cases p with
    | char c => simp [lowerAfter, ih]
    | surrogate m => simp [lowerAfter, ih]

end TagHighlight.LooseText
