/-!
# Texts with lone surrogates

A character beyond the basic plane can be named by the two halves of a surrogate pair, so a text
that is given by code units can hold one half without the other. Such a half is a code point but no
character. A loose text is a sequence of code points and keeps halves that stand alone; a string is
a loose text without them. A loose text that is no string cannot be encoded, and the first of its
surrogates tell why (`LooseText.toString?`).

Loose texts are ordered by their code points.
-/

namespace TagHighlight

inductive CodePoint
  | char (c : Char)
  /-- One half of a surrogate pair, standing alone, counted from U+D800. -/
  | surrogate (n : Fin 0x800)
  deriving DecidableEq

namespace CodePoint

def ofNat (n : Nat) : CodePoint :=
  if h : 0xD800 ≤ n ∧ n < 0xE000 then surrogate ⟨n - 0xD800, by omega⟩ else char (Char.ofNat n)

def toNat : CodePoint → Nat
  | char c => c.toNat
  | surrogate n => 0xD800 + n.val

def isSurrogate : CodePoint → Bool
  | char _ => false
  | surrogate _ => true

theorem toNat_ofNat {n : Nat} (h : n < 0x110000) : (ofNat n).toNat = n := by
  unfold ofNat
  split
  · simp only [toNat]
    omega
  · have hv : n.isValidChar := by
      unfold Nat.isValidChar
      omega
    show (Char.ofNat n).toNat = n
    rw [Char.ofNat, dif_pos hv]
    rfl

theorem ofNat_toNat (p : CodePoint) : ofNat p.toNat = p := by
  cases p with
  | char c =>
    have hvalid : c.toNat.isValidChar := c.valid
    unfold Nat.isValidChar at hvalid
    rw [toNat, ofNat, dif_neg (by omega), Char.ofNat_toNat]
  | surrogate n =>
    have hn := n.isLt
    rw [toNat, ofNat, dif_pos (by omega)]
    simp

theorem toNat_inj {p q : CodePoint} : p.toNat = q.toNat ↔ p = q := by
  refine ⟨fun h => ?_, fun h => by rw [h]⟩
  rw [← ofNat_toNat p, h, ofNat_toNat]

end CodePoint

/-- A text in which surrogates may stand alone. -/
structure LooseText where
  points : List CodePoint
  deriving DecidableEq

/-- Surrogates of a text that stand alone, one directly after the other. -/
structure LoneSurrogates where
  first : Fin 0x800
  /-- The number of code points before them. -/
  offset : Nat
  count : Nat

namespace LooseText

def ofString (s : String) : LooseText := ⟨s.toList.map .char⟩

instance : Coe String LooseText := ⟨ofString⟩

instance : Append LooseText := ⟨fun s t => ⟨s.points ++ t.points⟩⟩

def isEmpty (t : LooseText) : Bool := t.points.isEmpty

/-- The texts in order, with a separator between them. -/
def join (separator : LooseText) (ts : List LooseText) : LooseText :=
  ⟨separator.points.intercalate (ts.map points)⟩

/-- The characters of code points that stand behind `offset` others. -/
def characters? (offset : Nat) : List CodePoint → Except LoneSurrogates (List Char)
  | [] => .ok []
  | .char c :: ps => (characters? (offset + 1) ps).map (c :: ·)
  | .surrogate n :: ps => .error ⟨n, offset, (ps.takeWhile CodePoint.isSurrogate).length + 1⟩

/-- The string that a loose text is, or else the first surrogates in it. -/
def toString? (t : LooseText) : Except LoneSurrogates String :=
  (characters? 0 t.points).map String.ofList

theorem points_ofString_inj {cs ds : List Char} :
    cs.map CodePoint.char = ds.map CodePoint.char ↔ cs = ds :=
  List.map_inj_right fun _ _ h => CodePoint.char.inj h

theorem ofString_inj {s t : String} : ofString s = ofString t ↔ s = t := by
  rw [ofString, ofString, mk.injEq, points_ofString_inj, String.toList_inj]

theorem char_mem_points_ofString {s : String} {c : Char} :
    .char c ∈ (ofString s).points ↔ c ∈ s.toList := by
  simp [ofString]

theorem characters?_map_char (offset : Nat) (cs : List Char) :
    characters? offset (cs.map .char) = .ok cs := by
  induction cs generalizing offset with
  | nil => rfl
  | cons c cs ih =>
    rw [List.map_cons, characters?, ih]
    rfl

theorem eq_map_char_of_characters? {offset : Nat} {ps : List CodePoint} {cs : List Char}
    (h : characters? offset ps = .ok cs) : ps = cs.map .char := by
  induction ps generalizing offset cs with
  | nil =>
    cases h
    rfl
  | cons p ps ih =>
    cases p with
    | surrogate n => cases h
    | char c =>
      rw [characters?] at h
      cases hps : characters? (offset + 1) ps with
      | error e =>
        rw [hps] at h
        cases h
      | ok ds =>
        rw [hps] at h
        cases h
        rw [List.map_cons, ih hps]

theorem toString?_eq_ok_iff {t : LooseText} {s : String} : t.toString? = .ok s ↔ t = ofString s := by
  constructor
  · intro h
    unfold toString? at h
    cases hcs : characters? 0 t.points with
    | error e =>
      rw [hcs] at h
      cases h
    | ok cs =>
      rw [hcs] at h
      cases h
      obtain ⟨points⟩ := t
      rw [ofString, String.toList_ofList, mk.injEq]
      exact eq_map_char_of_characters? hcs
  · rintro rfl
    rw [toString?, ofString, characters?_map_char, Except.map, String.ofList_toList]

/-! ### Order -/

instance : LT LooseText := ⟨fun s t => s.points.map CodePoint.toNat < t.points.map CodePoint.toNat⟩

instance (s t : LooseText) : Decidable (s < t) :=
  inferInstanceAs (Decidable (s.points.map CodePoint.toNat < t.points.map CodePoint.toNat))

theorem lt_trans {s t u : LooseText} (hst : s < t) (htu : t < u) : s < u := List.lt_trans hst htu

theorem lt_irrefl (s : LooseText) : ¬s < s := List.lt_irrefl _

theorem lt_or_eq_or_gt (s t : LooseText) : s < t ∨ s = t ∨ t < s := by
  by_cases hst : s < t
  · exact .inl hst
  by_cases hts : t < s
  · exact .inr (.inr hts)
  have hpoints : s.points.map CodePoint.toNat = t.points.map CodePoint.toNat :=
    List.le_antisymm (List.not_lt.1 hts) (List.not_lt.1 hst)
  have hinj : s.points = t.points := (List.map_inj_right fun _ _ => CodePoint.toNat_inj.1).1 hpoints
  obtain ⟨points⟩ := s
  exact .inr (.inl (congrArg mk hinj))

end LooseText

end TagHighlight
