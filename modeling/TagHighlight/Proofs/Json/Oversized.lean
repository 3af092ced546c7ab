import TagHighlight.Proofs.Json.Legible
import TagHighlight.Proofs.Json.RoundTrip

/-!
# Integers of too many digits

Reading fails at a fault, or for an integer of too many digits. `MeetsOversized` says when the second
happens: the machine gets to such an integer while it awaits a value. A fault in front of it is told
instead, and so is a byte order mark, and inside a text digits are no integer (`read_eq_oversized_iff`).
Each symbol is a part of the text it is read from, so the digits stand in the text, all in a row
(`exists_digits_of_mem_symbols`).
-/

namespace TagHighlight.Json

/-! ### What follows a symbol -/

section
variable {c : Char} {cs rest opening : List Char} {n : Nat}

theorem suffix_of_unit? (h : unit? cs = some (n, rest)) : rest <:+ cs := by
  unfold unit? at h
  split at h
  · rename_i a b c d next after
    simp only [Option.bind_eq_bind, Option.bind_eq_some_iff, Option.some.injEq, Prod.mk.injEq] at h
    obtain ⟨_, _, _, _, _, _, _, _, _, rfl⟩ := h
    exact List.suffix_append [a, b, c, d] (next :: after)
  · cases h

theorem suffix_of_lowSurrogate? (h : lowSurrogate? cs = some (n, rest)) : rest <:+ cs := by
  unfold lowSurrogate? at h
  split at h
  · rename_i after
    split at h
    · rename_i hunit
      split at h
      · cases h
        exact (suffix_of_unit? hunit).trans (List.suffix_append ['\\', 'u'] after)
      · cases h
    · cases h
  · cases h

theorem suffix_unitPoint (n : Nat) (cs : List Char) : (unitPoint n cs).2 <:+ cs := by
  unfold unitPoint
  split
  · split
    · rename_i hlow
      exact suffix_of_lowSurrogate? hlow
    · exact List.suffix_rfl
  · exact List.suffix_rfl

theorem suffix_piece (opening cs : List Char) : (piece opening cs).rest <:+ cs := by
  unfold piece
  split
  · exact List.nil_suffix
  · rename_i c cs
    split
    · exact List.suffix_cons c cs
    · split
      · split
        · exact List.nil_suffix
        · rename_i e rest
          have hrest : rest <:+ c :: e :: rest := List.suffix_append [c, e] rest
          split
          · split
            · rename_i n after hunit
              exact ((suffix_unitPoint n after).trans (suffix_of_unit? hunit)).trans hrest
            · exact List.nil_suffix
          · split
            · exact hrest
            · exact List.nil_suffix
      · split
        · exact List.nil_suffix
        · exact List.suffix_cons c cs

theorem suffix_of_inside {text : List CodePoint} (h : inside opening cs = .ok (text, rest)) :
    rest <:+ cs := by
  have hpiece := suffix_piece opening cs
  fun_induction inside opening cs generalizing text rest with
  | case1 => cases h
  | case2 cs after hp =>
    cases h
    rwa [hp] at hpiece
  | case3 => cases h
  | case4 cs p after hp text' rest' hi ih =>
    cases h
    rw [hp] at hpiece
    exact (ih hi (suffix_piece opening after)).trans hpiece

theorem suffix_of_constant? {v : Json} (h : constant? cs = some (v, rest)) : rest <:+ cs := by
  obtain ⟨⟨name, w⟩, _, hname⟩ := List.exists_of_findSome?_eq_some h
  simp only at hname
  split at hname
  · cases hname
    exact List.drop_suffix name.length cs
  · cases hname

theorem suffix_fractionPart (cs : List Char) : (fractionPart cs).2 <:+ cs := by
  unfold fractionPart
  split
  · rename_i rest
    dsimp only
    split
    · exact List.suffix_rfl
    · exact (List.dropWhile_suffix _).trans (List.suffix_cons '.' rest)
  · exact List.suffix_rfl

theorem suffix_exponentSign (cs : List Char) : (exponentSign cs).2 <:+ cs := by
  unfold exponentSign
  split
  · exact List.suffix_cons '-' _
  · exact List.suffix_cons '+' _
  · exact List.suffix_rfl

theorem suffix_exponentPart (cs : List Char) : (exponentPart cs).2 <:+ cs := by
  unfold exponentPart
  split
  · rename_i c rest
    split
    · dsimp only
      split
      · exact List.suffix_rfl
      · exact ((List.dropWhile_suffix _).trans (suffix_exponentSign rest)).trans
          (List.suffix_cons c rest)
    · exact List.suffix_rfl
  · exact List.suffix_rfl

theorem parts_of_numeral? {negative : Bool} {m : Numeral}
    (h : numeral? negative cs = some (m, rest)) : m.whole <+: cs ∧ rest <:+ cs := by
  have hwhole := wholePart_append cs
  simp only [numeral?] at h
  split at h
  · cases h
  · cases h
    have hfraction := suffix_fractionPart (wholePart cs).2
    have hexponent := suffix_exponentPart (fractionPart (wholePart cs).2).2
    exact ⟨⟨_, hwhole⟩, (hexponent.trans hfraction).trans ⟨_, hwhole⟩⟩

theorem parts_of_signedNumeral? {m : Numeral} (h : signedNumeral? cs = some (m, rest)) :
    m.whole <:+: cs ∧ rest <:+ cs := by
  unfold signedNumeral? at h
  split at h
  · rename_i after
    obtain ⟨hwhole, hrest⟩ := parts_of_numeral? h
    have hafter : after <:+ '-' :: after := List.suffix_cons '-' after
    exact ⟨hwhole.isInfix.trans hafter.isInfix, hrest.trans hafter⟩
  · obtain ⟨hwhole, hrest⟩ := parts_of_numeral? h
    exact ⟨hwhole.isInfix, hrest⟩

theorem suffix_symbolOf (c : Char) (cs : List Char) : (symbolOf c cs).2 <:+ c :: cs := by
  unfold symbolOf
  split
  iterate 6 exact List.suffix_cons _ cs
  · split
    · rename_i hinside
      exact (suffix_of_inside hinside).trans (List.suffix_cons _ cs)
    · exact List.nil_suffix
  · split
    · rename_i hconstant
      exact suffix_of_constant? hconstant
    · split
      · rename_i hnumeral
        exact (parts_of_signedNumeral? hnumeral).2
      · exact List.nil_suffix

end

/-! ### Too many digits -/

/-- In the text there are `n` digits in a row. -/
def HasDigits (text : List Char) (n : Nat) : Prop :=
  ∃ ds, ds <:+: text ∧ ds.length = n ∧ ∀ d ∈ ds, d.isDigit

theorem HasDigits.of_suffix {cs text : List Char} {n : Nat} (h : HasDigits cs n) (hcs : cs <:+ text) :
    HasDigits text n := by
  obtain ⟨ds, hds, hlength, hdigits⟩ := h
  exact ⟨ds, hds.trans hcs.isInfix, hlength, hdigits⟩

theorem digits_of_symbolOf_oversized {c : Char} {cs : List Char} {n : Nat}
    (h : (symbolOf c cs).1 = .oversized n) : digitLimit < n ∧ HasDigits (c :: cs) n := by
  unfold symbolOf at h
  split at h
  iterate 6 cases h
  · split at h
    · cases h
    · cases h
  · split at h
    · cases h
    · split at h
      · rename_i m rest hnumeral
        simp only [Numeral.symbol] at h
        split at h
        · rename_i hlong
          cases h
          exact ⟨hlong.2, m.whole, (parts_of_signedNumeral? hnumeral).1, rfl,
            isDigit_of_mem_signedNumeral? hnumeral⟩
        · cases h
      · cases h

theorem exists_digits_of_mem_symbols {text : List Char} {p : Placed} {n : Nat}
    (hp : p ∈ symbols text) (h : p.symbol = .oversized n) : digitLimit < n ∧ HasDigits text n := by
  fun_induction symbols text with
  | case1 => cases hp
  | case2 text c rest htext ih =>
    have hhere : c :: rest <:+ text := htext ▸ List.dropWhile_suffix isSpace
    rcases List.mem_cons.1 hp with rfl | hp
    · obtain ⟨hlong, hdigits⟩ := digits_of_symbolOf_oversized h
      exact ⟨hlong, hdigits.of_suffix hhere⟩
    · obtain ⟨hlong, hdigits⟩ := ih hp
      exact ⟨hlong, hdigits.of_suffix ((suffix_symbolOf c rest).trans hhere)⟩

/-! ### The machine -/

theorem readValue_eq_oversized_iff {frames : List Frame} {p : Placed} {n : Nat} :
    readValue frames p = .error (.oversized n) ↔ p.symbol = .oversized n := by
  cases h : p.symbol <;> simp [readValue, h, stopAt]

theorem readName_ne_oversized (before : List (LooseText × Json)) (frames : List Frame) (p : Placed)
    (n : Nat) : readName before frames p ≠ .error (.oversized n) := by
  unfold readName stopAt
  split <;> nofun

theorem readAfter_ne_oversized (v : Json) (frames : List Frame) (p : Placed) (n : Nat) :
    readAfter v frames p ≠ .error (.oversized n) := by
  unfold readAfter stopAt
  split <;> nofun

theorem State.next_ne_oversized {s : State} (hs : s.awaited = none) (p : Placed) (n : Nat) :
    s.next p ≠ .error (.oversized n) := by
  cases s with
  | value frames => cases hs
  | firstItem frames => cases hs
  | firstName frames =>
    simp only [State.next]
    split
    · intro h
      cases h
    · exact readName_ne_oversized [] frames p n
  | name before frames => exact readName_ne_oversized before frames p n
  | colon before name frames =>
    simp only [State.next, stopAt]
    split
    · intro h
      cases h
    · intro h
      cases h
  | afterValue v frames => exact readAfter_ne_oversized v frames p n

/-- A symbol is refused for its digits only where a value must come. -/
theorem State.next_eq_oversized_iff {s : State} {p : Placed} {n : Nat} :
    s.next p = .error (.oversized n) ↔ s.awaited.isSome ∧ p.symbol = .oversized n := by
  constructor
  · intro h
    cases s with
    | value frames => exact ⟨rfl, readValue_eq_oversized_iff.1 h⟩
    | firstItem frames =>
      simp only [State.next] at h
      split at h
      · cases h
      · exact ⟨rfl, readValue_eq_oversized_iff.1 h⟩
    | firstName _ => exact absurd h (State.next_ne_oversized rfl p n)
    | name _ _ => exact absurd h (State.next_ne_oversized rfl p n)
    | colon _ _ _ => exact absurd h (State.next_ne_oversized rfl p n)
    | afterValue _ _ => exact absurd h (State.next_ne_oversized rfl p n)
  · rintro ⟨hs, hp⟩
    obtain ⟨frames, hframes⟩ := Option.isSome_iff_exists.1 hs
    have hbracket : p.symbol ≠ .closeBracket := by
      rw [hp]
      intro h
      cases h
    rw [State.next_of_awaited hframes hbracket]
    exact readValue_eq_oversized_iff.2 hp

/-- The machine gets to an integer of `n` digits, more than the limit, while it awaits a value. -/
inductive MeetsOversized (n : Nat) : State → List Placed → Prop
  | here {s : State} {p : Placed} {ps : List Placed} (hs : s.awaited.isSome)
    (hp : p.symbol = .oversized n) : MeetsOversized n s (p :: ps)
  | later {s s' : State} {p : Placed} {ps : List Placed} (hnext : s.next p = .ok s')
    (h : MeetsOversized n s' ps) : MeetsOversized n s (p :: ps)

theorem State.finish_ne_oversized (s : State) (n : Nat) : s.finish ≠ .error (.oversized n) := by
  cases s with
  | afterValue v frames => cases frames <;> nofun
  | value _ => nofun
  | firstItem _ => nofun
  | firstName _ => nofun
  | name _ _ => nofun
  | colon _ _ _ => nofun

theorem run_eq_oversized_iff {s : State} {ps : List Placed} {n : Nat} :
    run s ps = .error (.oversized n) ↔ MeetsOversized n s ps := by
  induction ps generalizing s with
  | nil => exact ⟨fun h => absurd h (s.finish_ne_oversized n), nofun⟩
  | cons p ps ih =>
    rw [run]
    constructor
    · intro h
      split at h
      · rename_i hnext
        exact .later hnext (ih.1 h)
      · rename_i hnext
        cases h
        obtain ⟨hs, hp⟩ := State.next_eq_oversized_iff.1 hnext
        exact .here hs hp
    · intro h
      cases h with
      | here hs hp => rw [State.next_eq_oversized_iff.2 ⟨hs, hp⟩]
      | later hnext h =>
        rw [hnext]
        exact ih.2 h

theorem MeetsOversized.exists_symbol {n : Nat} {s : State} {ps : List Placed}
    (h : MeetsOversized n s ps) : ∃ p ∈ ps, p.symbol = .oversized n := by
  induction h with
  | here _ hp => exact ⟨_, List.mem_cons_self, hp⟩
  | later _ _ ih =>
    obtain ⟨p, hp, hsymbol⟩ := ih
    exact ⟨p, List.mem_cons_of_mem _ hp, hsymbol⟩

/-! ### Texts -/

/-- Reading the text stops at an integer of `n` digits. -/
def StopsAtInteger (text : List Char) (n : Nat) : Prop :=
  text.head? ≠ some '\ufeff' ∧ MeetsOversized n (.value []) (symbols text)

theorem read_eq_oversized_iff {text : List Char} {n : Nat} :
    read text = .error (.oversizedInteger n) ↔ StopsAtInteger text n := by
  rw [StopsAtInteger, ← run_eq_oversized_iff, read]
  split
  · rename_i hmark
    simp [hmark]
  · rename_i hmark
    cases run (.value []) (symbols text) with
    | ok v => simp [Except.mapError]
    | error stop => cases stop <;> simp [Except.mapError, Stop.error, hmark]

theorem StopsAtInteger.hasDigits {text : List Char} {n : Nat} (h : StopsAtInteger text n) :
    digitLimit < n ∧ HasDigits text n := by
  obtain ⟨p, hp, hsymbol⟩ := h.2.exists_symbol
  exact exists_digits_of_mem_symbols hp hsymbol

theorem numeral?_digits {d : Char} {ds : List Char} (hd : d ≠ '0')
    (hdigits : ∀ e ∈ d :: ds, e.isDigit) :
    numeral? false (d :: ds) = some (⟨false, d :: ds, [], none⟩, []) := by
  have htake : (d :: ds).takeWhile Char.isDigit = d :: ds := List.takeWhile_eq_self_iff.2 hdigits
  have hdrop : (d :: ds).dropWhile Char.isDigit = [] := List.dropWhile_eq_nil_iff.2 hdigits
  rw [numeral?, wholePart_of_ne hd, htake, hdrop]
  rfl

theorem stopsAtInteger_digits {d : Char} {ds : List Char} (hd : d ≠ '0')
    (hdigits : ∀ e ∈ d :: ds, e.isDigit) (hlong : digitLimit < (d :: ds).length) :
    StopsAtInteger (d :: ds) (d :: ds).length := by
  have hdigit : d.isDigit := hdigits d List.mem_cons_self
  have hsymbol := symbolOf_of_isDigit hdigit (numeral?_digits hd hdigits)
  have hoversized : Numeral.symbol ⟨false, d :: ds, [], none⟩ = .oversized (d :: ds).length :=
    if_pos ⟨rfl, hlong⟩
  refine ⟨?_, ?_⟩
  · intro hmark
    cases hmark
    cases hdigit
  · rw [symbols_eq, List.dropWhile_cons_of_neg (by rw [isSpace_of_isDigit hdigit]; decide)]
    exact .here rfl (by rw [hsymbol, hoversized])

theorem stopsAtInteger_replicate {d : Char} {n : Nat} (hdigit : d.isDigit) (hd : d ≠ '0')
    (hlong : digitLimit < n) : StopsAtInteger (List.replicate n d) n := by
  obtain ⟨m, rfl⟩ := Nat.exists_eq_succ_of_ne_zero (Nat.ne_zero_of_lt hlong)
  have hdigits : ∀ e ∈ d :: List.replicate m d, e.isDigit := by
    intro e he
    rw [← List.replicate_succ] at he
    rwa [List.eq_of_mem_replicate he]
  have hlength : (d :: List.replicate m d).length = m + 1 := by simp
  have hstops := stopsAtInteger_digits hd hdigits (by omega)
  rwa [hlength] at hstops

end TagHighlight.Json
