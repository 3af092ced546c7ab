import Mathlib.Data.List.Induction
import Mathlib.Data.List.TakeWhile
import TagHighlight.Json.Reader
import TagHighlight.Proofs.Report
import TagHighlight.Proofs.Text.Strings

/-!
# What can be read

The reader refuses an integer with more digits than the limit, and it joins the two halves of a
surrogate pair. So in a value that it reads every integer can be written again and every text is
unpaired (`legible_of_ofText`). The invariant of the machine is that the values it has read so far
are such; a symbol can only add a value that is such too.
-/

namespace TagHighlight.Json

/-- The integers in the value can be written, and its texts are unpaired. -/
inductive Legible : Json → Prop
  | null : Legible null
  | bool (b : Bool) : Legible (bool b)
  | int {n : Int} (h : IsWritable n) : Legible (int n)
  | real (x : Double) : Legible (real x)
  | str {s : LooseText} (h : s.IsUnpaired) : Legible (str s)
  | arr {items : List Json} (h : ∀ v ∈ items, Legible v) : Legible (arr items)
  | obj {members : List (LooseText × Json)} (h : ∀ m ∈ members, Legible m.2) :
    Legible (obj members)

theorem Legible.get? {v w : Json} {name : LooseText} (h : Legible v)
    (hw : v.get? name = some w) : Legible w := by
  cases h with
  | @obj members h =>
    obtain ⟨before, after, rfl, -⟩ := List.lookup_eq_some_iff.1 hw
    exact h (name, w) (by simp)
  | null => cases hw
  | bool _ => cases hw
  | int _ => cases hw
  | real _ => cases hw
  | str _ => cases hw
  | arr _ => cases hw

theorem Legible.isWritable {v : Json} (h : Legible v) : ∀ n ∈ v.integers, IsWritable n := by
  induction h with
  | int hn =>
    rw [integers]
    exact List.forall_mem_singleton.2 hn
  | arr _ ih =>
    intro n hn
    rw [integers, mem_integersOfItems] at hn
    obtain ⟨v, hv, hn⟩ := hn
    exact ih v hv n hn
  | obj _ ih =>
    intro n hn
    rw [integers, mem_integersOfMembers] at hn
    obtain ⟨m, hm, hn⟩ := hn
    exact ih m hm n hn
  | null | bool _ | real _ | str _ => exact List.forall_mem_nil _

/-! ### Texts -/

section

variable {opening cs rest : List Char} {n : Nat} {p : CodePoint}

theorem hexValue?_lt {c : Char} {d : Nat} (h : Text.hexValue? c = some d) : d < 16 := by
  unfold Text.hexValue? at h
  split at h
  · rename_i hc
    have hle : c.toNat ≤ 0x39 := hc.2
    cases h
    omega
  · split at h
    · rename_i hc
      have hle : c.toNat ≤ 0x66 := hc.2
      cases h
      omega
    · split at h
      · rename_i hc
        have hle : c.toNat ≤ 0x46 := hc.2
        cases h
        omega
      · cases h

theorem unit?_lt (h : unit? cs = some (n, rest)) : n < 0x10000 := by
  unfold unit? at h
  split at h
  · simp only [Option.bind_eq_bind, Option.bind_eq_some_iff, Option.some.injEq,
      Prod.mk.injEq] at h
    obtain ⟨a, ha, b, hb, c, hc, d, hd, rfl, -⟩ := h
    have := hexValue?_lt ha
    have := hexValue?_lt hb
    have := hexValue?_lt hc
    have := hexValue?_lt hd
    omega
  · cases h

theorem isLow_of_lowSurrogate? (h : lowSurrogate? cs = some (n, rest)) :
    0xDC00 ≤ n ∧ n < 0xE000 := by
  unfold lowSurrogate? at h
  split at h
  · split at h
    · split at h
      · rename_i hlow
        cases h
        exact hlow
      · cases h
    · cases h
  · cases h

theorem lowSurrogate?_of_unit? (hn : 0xDC00 ≤ n ∧ n < 0xE000) (h : unit? cs = some (n, rest)) :
    lowSurrogate? ('\\' :: 'u' :: cs) = some (n, rest) := by
  simp only [lowSurrogate?, h]
  exact if_pos hn

/-- The point of a code unit is that unit, unless it is the first of a pair, whose point is beyond
all units. -/
theorem unitPoint_eq_or (hn : n < 0x10000) (cs : List Char) :
    ((unitPoint n cs).1.toNat = n ∧ (unitPoint n cs).2 = cs ∧
      ((unitPoint n cs).1.IsHigh → lowSurrogate? cs = none)) ∨
    0x10000 ≤ (unitPoint n cs).1.toNat := by
  unfold unitPoint
  split
  · rename_i hhigh
    split
    · rename_i low after hlow
      have hrange := isLow_of_lowSurrogate? hlow
      refine .inr ?_
      rw [CodePoint.toNat_ofNat (by omega)]
      omega
    · rename_i hnone
      exact .inl ⟨CodePoint.toNat_ofNat (by omega), rfl, fun _ => hnone⟩
  · rename_i hhigh
    have hunit : (CodePoint.ofNat n).toNat = n := CodePoint.toNat_ofNat (by omega)
    refine .inl ⟨hunit, rfl, fun h => ?_⟩
    rw [CodePoint.IsHigh, hunit] at h
    exact absurd h hhigh

theorem char_or_unit_of_piece (h : piece opening cs = .point p rest) :
    (∃ c, p = .char c) ∨
      ∃ n after tail, cs = '\\' :: 'u' :: tail ∧ unit? tail = some (n, after) ∧
        unitPoint n after = (p, rest) := by
  unfold piece at h
  split at h
  · cases h
  · rename_i c cs
    split at h
    · cases h
    · split at h
      · rename_i hbackslash
        split at h
        · cases h
        · rename_i e tail
          split at h
          · rename_i hu
            split at h
            · rename_i n after hunit
              cases h
              exact .inr ⟨n, after, tail, by rw [hbackslash, hu], hunit, rfl⟩
            · cases h
          · split at h
            · cases h
              exact .inl ⟨_, rfl⟩
            · cases h
      · split at h
        · cases h
        · cases h
          exact .inl ⟨_, rfl⟩

theorem lowSurrogate?_of_piece (h : piece opening cs = .point p rest) (hp : p.IsHigh) :
    lowSurrogate? rest = none := by
  rcases char_or_unit_of_piece h with ⟨c, rfl⟩ | ⟨n, after, tail, -, hunit, hpoint⟩
  · exact absurd hp (CodePoint.not_isHigh_char c)
  · have hcases := unitPoint_eq_or (unit?_lt hunit) after
    rw [hpoint] at hcases
    dsimp only at hcases
    rcases hcases with ⟨-, rfl, hnone⟩ | hlarge
    · exact hnone hp
    · unfold CodePoint.IsHigh at hp
      omega

theorem not_isLow_of_piece (h : piece opening cs = .point p rest) (hnone : lowSurrogate? cs = none) :
    ¬p.IsLow := by
  intro hp
  rcases char_or_unit_of_piece h with ⟨c, rfl⟩ | ⟨n, after, tail, rfl, hunit, hpoint⟩
  · exact CodePoint.not_isLow_char c hp
  · have hcases := unitPoint_eq_or (unit?_lt hunit) after
    rw [hpoint] at hcases
    dsimp only at hcases
    unfold CodePoint.IsLow at hp
    rcases hcases with ⟨hpoint, -, -⟩ | hlarge
    · rw [lowSurrogate?_of_unit? (by omega) hunit] at hnone
      cases hnone
    · omega

theorem piece_of_inside {ps : List CodePoint} (h : inside opening cs = .ok (p :: ps, rest)) :
    ∃ tail, piece opening cs = .point p tail := by
  rw [inside] at h
  split at h
  · cases h
  · cases h
  · rename_i q tail hpiece
    split at h
    · cases h
    · cases h
      exact ⟨tail, hpiece⟩

theorem isUnpaired_of_inside {ps : List CodePoint} (h : inside opening cs = .ok (ps, rest)) :
    LooseText.IsUnpaired ⟨ps⟩ := by
  fun_induction inside opening cs generalizing ps rest with
  | case1 => cases h
  | case2 =>
    cases h
    exact .nil
  | case3 => cases h
  | case4 cs p after hpiece text tail hinside ih =>
    cases h
    have htext := ih hinside
    cases text with
    | nil => exact .singleton p
    | cons q qs =>
      refine List.isChain_cons_cons.2 ⟨fun hp => ?_, htext⟩
      obtain ⟨_, hnext⟩ := piece_of_inside hinside
      exact not_isLow_of_piece hnext (lowSurrogate?_of_piece hpiece hp)

end

/-! ### Numbers -/

theorem digitsValue_concat (ds : List Char) (d : Char) :
    digitsValue (ds ++ [d]) = 10 * digitsValue ds + (d.toNat - 0x30) := by
  simp [digitsValue]

theorem digitsValue_lt {ds : List Char} (h : ∀ d ∈ ds, d.isDigit) :
    digitsValue ds < 10 ^ ds.length := by
  induction ds using List.reverseRecOn with
  | nil => decide
  | append_singleton ds d ih =>
    have hds := ih fun e he => h e (List.mem_append_left _ he)
    have hdigit : d.toNat ≤ 0x39 := (Char.isDigit_iff_toNat.1 (h d (by simp))).2
    rw [digitsValue_concat, List.length_append, List.length_singleton, Nat.pow_succ]
    omega

theorem isDigit_of_mem_wholePart {cs : List Char} {d : Char} (h : d ∈ (wholePart cs).1) :
    d.isDigit := by
  unfold wholePart at h
  split at h
  · rw [List.mem_singleton.1 h]
    decide
  · exact List.mem_takeWhile_imp h

theorem isDigit_of_mem_numeral? {negative : Bool} {cs rest : List Char} {n : Numeral}
    (h : numeral? negative cs = some (n, rest)) : ∀ d ∈ n.whole, d.isDigit := by
  simp only [numeral?] at h
  split at h
  · cases h
  · cases h
    exact fun d => isDigit_of_mem_wholePart

theorem isDigit_of_mem_signedNumeral? {cs rest : List Char} {n : Numeral}
    (h : signedNumeral? cs = some (n, rest)) : ∀ d ∈ n.whole, d.isDigit := by
  unfold signedNumeral? at h
  split at h
  · exact isDigit_of_mem_numeral? h
  · exact isDigit_of_mem_numeral? h

/-! ### Symbols -/

def Symbol.Legible : Symbol → Prop
  | .scalar v => v.Legible
  | .text s => s.IsUnpaired
  | _ => True

theorem Numeral.legible_symbol {n : Numeral} (hn : ∀ d ∈ n.whole, d.isDigit) :
    n.symbol.Legible := by
  unfold Numeral.symbol
  split
  · trivial
  · rename_i hsize
    unfold Numeral.value
    split
    · rename_i hinteger
      have hlength : n.whole.length ≤ digitLimit := Nat.not_lt.1 fun h => hsize ⟨hinteger, h⟩
      have hvalue : digitsValue n.whole < 10 ^ digitLimit :=
        Nat.lt_of_lt_of_le (digitsValue_lt hn) (Nat.pow_le_pow_right (by decide) hlength)
      refine .int ?_
      rw [isWritable_iff]
      cases n.negative
      · simpa using hvalue
      · simpa using hvalue
    · exact .real _

theorem legible_of_constant? {cs rest : List Char} {v : Json} (h : constant? cs = some (v, rest)) :
    Legible v := by
  obtain ⟨⟨name, w⟩, hmem, hname⟩ := List.exists_of_findSome?_eq_some h
  have hw : Legible w := by
    simp only [constants, List.mem_cons, Prod.mk.injEq, List.not_mem_nil, or_false] at hmem
    rcases hmem with h | h | h | h | h | h <;> rw [h.2] <;> constructor
  simp only at hname
  split at hname
  · cases hname
    exact hw
  · cases hname

theorem legible_symbolOf (c : Char) (cs : List Char) : (symbolOf c cs).1.Legible := by
  unfold symbolOf
  split
  iterate 6 trivial
  · split
    · rename_i hinside
      exact isUnpaired_of_inside hinside
    · trivial
  · split
    · rename_i hconstant
      exact legible_of_constant? hconstant
    · split
      · rename_i hnumeral
        exact Numeral.legible_symbol (isDigit_of_mem_signedNumeral? hnumeral)
      · trivial

theorem legible_symbols (cs : List Char) : ∀ p ∈ symbols cs, p.symbol.Legible := by
  fun_induction symbols cs with
  | case1 => exact nofun
  | case2 cs c rest hcs ih =>
    intro p hp
    rcases List.mem_cons.1 hp with rfl | hp
    · exact legible_symbolOf c rest
    · exact ih p hp

/-! ### The machine -/

def Frame.Legible : Frame → Prop
  | list before => ∀ v ∈ before, v.Legible
  | object before _ => ∀ m ∈ before, m.2.Legible

/-- The values that have been read are legible. -/
def State.Legible : State → Prop
  | value frames | firstItem frames | firstName frames => ∀ f ∈ frames, f.Legible
  | name before frames | colon before _ frames =>
    (∀ m ∈ before, m.2.Legible) ∧ ∀ f ∈ frames, f.Legible
  | afterValue v frames => v.Legible ∧ ∀ f ∈ frames, f.Legible

theorem legible_setMember {name : LooseText} {v : Json} {ms : List (LooseText × Json)}
    (hv : v.Legible) (hms : ∀ m ∈ ms, m.2.Legible) : ∀ m ∈ setMember name v ms, m.2.Legible := by
  induction ms with
  | nil =>
    intro m hm
    rw [List.mem_singleton.1 hm]
    exact hv
  | cons n ms ih =>
    have hrest : ∀ m ∈ ms, m.2.Legible := fun m hm => hms m (List.mem_cons_of_mem _ hm)
    unfold setMember
    split
    · intro m hm
      rcases List.mem_cons.1 hm with rfl | hm
      · exact hv
      · exact hrest m hm
    · intro m hm
      rcases List.mem_cons.1 hm with rfl | hm
      · exact hms _ List.mem_cons_self
      · exact ih hrest m hm

theorem legible_foldl_setMember {done ms : List (LooseText × Json)}
    (hdone : ∀ m ∈ done, m.2.Legible) (hms : ∀ m ∈ ms, m.2.Legible) :
    ∀ m ∈ ms.foldl (fun done m => setMember m.1 m.2 done) done, m.2.Legible := by
  induction ms generalizing done with
  | nil => exact hdone
  | cons m ms ih =>
    exact ih (legible_setMember (hms m List.mem_cons_self) hdone)
      fun n hn => hms n (List.mem_cons_of_mem _ hn)

theorem legible_ofMembers {ms : List (LooseText × Json)} (h : ∀ m ∈ ms, m.2.Legible) :
    (ofMembers ms).Legible :=
  .obj (legible_foldl_setMember nofun h)

section

variable {frames : List Frame} {p : Placed} {s s' : State}

theorem legible_readValue (hframes : ∀ f ∈ frames, f.Legible) (hp : p.symbol.Legible)
    (h : readValue frames p = .ok s') : s'.Legible := by
  unfold readValue at h
  split at h
  · cases h
    exact hframes
  · cases h
    exact hframes
  · rename_i t ht
    cases h
    rw [ht] at hp
    exact ⟨.str hp, hframes⟩
  · rename_i v hv
    cases h
    rw [hv] at hp
    exact ⟨hp, hframes⟩
  iterate 3 cases h

theorem legible_readName {before : List (LooseText × Json)} (hbefore : ∀ m ∈ before, m.2.Legible)
    (hframes : ∀ f ∈ frames, f.Legible) (h : readName before frames p = .ok s') : s'.Legible := by
  unfold readName at h
  split at h
  · cases h
    exact ⟨hbefore, hframes⟩
  iterate 2 cases h

theorem legible_readAfter {v : Json} (hv : v.Legible) (hframes : ∀ f ∈ frames, f.Legible)
    (h : readAfter v frames p = .ok s') : s'.Legible := by
  have hitems : ∀ before, (Frame.list before).Legible → ∀ w ∈ v :: before, w.Legible :=
    fun _ hbefore => List.forall_mem_cons.2 ⟨hv, hbefore⟩
  have hmembers : ∀ before name, (Frame.object before name).Legible →
      ∀ m ∈ (name, v) :: before, m.2.Legible :=
    fun _ _ hbefore => List.forall_mem_cons.2 ⟨hv, hbefore⟩
  unfold readAfter at h
  split at h
  · cases h
  · cases h
    obtain ⟨hbefore, hrest⟩ := List.forall_mem_cons.1 hframes
    exact List.forall_mem_cons.2 ⟨hitems _ hbefore, hrest⟩
  · cases h
    obtain ⟨hbefore, hrest⟩ := List.forall_mem_cons.1 hframes
    exact ⟨.arr fun w hw => hitems _ hbefore w (List.mem_reverse.1 hw), hrest⟩
  · cases h
    obtain ⟨hbefore, hrest⟩ := List.forall_mem_cons.1 hframes
    exact ⟨hmembers _ _ hbefore, hrest⟩
  · cases h
    obtain ⟨hbefore, hrest⟩ := List.forall_mem_cons.1 hframes
    exact ⟨legible_ofMembers fun m hm => hmembers _ _ hbefore m (List.mem_reverse.1 hm), hrest⟩
  · cases h

theorem State.Legible.next (hs : s.Legible) (hp : p.symbol.Legible) (h : s.next p = .ok s') :
    s'.Legible := by
  cases s with
  | value frames => exact legible_readValue hs hp h
  | firstItem frames =>
    simp only [State.next] at h
    split at h
    · cases h
      exact ⟨.arr nofun, hs⟩
    · have hempty : (Frame.list []).Legible := List.forall_mem_nil _
      exact legible_readValue (List.forall_mem_cons.2 ⟨hempty, hs⟩) hp h
  | firstName frames =>
    simp only [State.next] at h
    split at h
    · cases h
      exact ⟨.obj nofun, hs⟩
    · exact legible_readName (List.forall_mem_nil _) hs h
  | name before frames => exact legible_readName hs.1 hs.2 h
  | colon before key frames =>
    simp only [State.next] at h
    split at h
    · cases h
      exact List.forall_mem_cons.2 ⟨hs.1, hs.2⟩
    · cases h
  | afterValue v frames => exact legible_readAfter hs.1 hs.2 h

theorem State.Legible.finish {v : Json} (hs : s.Legible) (h : s.finish = .ok v) : v.Legible := by
  cases s with
  | afterValue w frames =>
    cases frames with
    | nil =>
      cases h
      exact hs.1
    | cons _ _ => cases h
  | value _ => cases h
  | firstItem _ => cases h
  | firstName _ => cases h
  | name _ _ => cases h
  | colon _ _ _ => cases h

theorem legible_run {ps : List Placed} {v : Json} (hs : s.Legible)
    (hps : ∀ p ∈ ps, p.symbol.Legible) (h : run s ps = .ok v) : v.Legible := by
  induction ps generalizing s with
  | nil => exact hs.finish h
  | cons p ps ih =>
    rw [run] at h
    split at h
    · rename_i hnext
      exact ih (hs.next (hps p List.mem_cons_self) hnext)
        (fun q hq => hps q (List.mem_cons_of_mem _ hq)) h
    · cases h

end

theorem legible_of_ofText {text : String} {v : Json} (h : ofText text = .ok v) : v.Legible := by
  unfold ofText read at h
  split at h
  · cases h
  · have hstart : (State.value []).Legible := nofun
    cases hrun : run (.value []) (symbols text.toList) with
    | error stop =>
      rw [hrun] at h
      cases h
    | ok w =>
      rw [hrun] at h
      cases h
      exact legible_run hstart (legible_symbols _) hrun

end TagHighlight.Json
