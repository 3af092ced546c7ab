import TagHighlight.Json.Basic

/-!
# Reading JSON numbers

A number is the longest stretch that has the form of one: an optional minus sign, a whole part
without leading zeros, then a fraction and an exponent if they are complete. What follows, such as
the second digit of `01` or the point of `1.`, is not part of it. A number without fraction and
exponent is an integer.
-/

namespace TagHighlight.Json

def digitsValue (ds : List Char) : Nat := ds.foldl (fun n d => 10 * n + (d.toNat - 0x30)) 0

/-- The digits of the whole part, and what follows them. A leading zero stands alone. -/
def wholePart : List Char → List Char × List Char
  | '0' :: rest => (['0'], rest)
  | cs => (cs.takeWhile Char.isDigit, cs.dropWhile Char.isDigit)

/-- The digits of the fraction, if there is one, and what follows. -/
def fractionPart (cs : List Char) : List Char × List Char :=
  match cs with
  | '.' :: rest =>
    let ds := rest.takeWhile Char.isDigit
    if ds.isEmpty then ([], cs) else (ds, rest.dropWhile Char.isDigit)
  | _ => ([], cs)

/-- The sign of an exponent: whether it is negative, and what follows. -/
def exponentSign : List Char → Bool × List Char
  | '-' :: rest => (true, rest)
  | '+' :: rest => (false, rest)
  | cs => (false, cs)

/-- The exponent, if there is one, and what follows. -/
def exponentPart (cs : List Char) : Option Int × List Char :=
  match cs with
  | c :: rest =>
    if c = 'e' ∨ c = 'E' then
      let (negative, rest) := exponentSign rest
      let ds := rest.takeWhile Char.isDigit
      if ds.isEmpty then (none, cs)
      else
        let n : Int := digitsValue ds
        (some (if negative then -n else n), rest.dropWhile Char.isDigit)
    else (none, cs)
  | [] => (none, cs)

/-- A number as it is written. -/
structure Numeral where
  negative : Bool
  whole : List Char
  /-- The digits of the fraction; none if there is no fraction. -/
  fraction : List Char
  exponent : Option Int

def Numeral.isInteger (n : Numeral) : Bool := n.fraction.isEmpty && n.exponent.isNone

def Numeral.value (n : Numeral) : Json :=
  if n.isInteger then
    let m : Int := digitsValue n.whole
    int (if n.negative then -m else m)
  else
    real (Double.ofDecimal n.negative (digitsValue (n.whole ++ n.fraction))
      (n.exponent.getD 0 - n.fraction.length))

/-- The number at the start of a text, of which a minus sign is already read, and what follows. -/
def numeral? (negative : Bool) (cs : List Char) : Option (Numeral × List Char) :=
  let (whole, rest) := wholePart cs
  if whole.isEmpty then none
  else
    let (fraction, rest) := fractionPart rest
    let (exponent, rest) := exponentPart rest
    some (⟨negative, whole, fraction, exponent⟩, rest)

theorem length_dropWhile_le {α : Type} (p : α → Bool) (xs : List α) :
    (xs.dropWhile p).length ≤ xs.length :=
  (List.dropWhile_sublist p).length_le

theorem wholePart_append (cs : List Char) : (wholePart cs).1 ++ (wholePart cs).2 = cs := by
  unfold wholePart
  split
  · rfl
  · exact List.takeWhile_append_dropWhile

theorem length_fractionPart_le (cs : List Char) : (fractionPart cs).2.length ≤ cs.length := by
  unfold fractionPart
  split
  · rename_i rest
    simp only
    split
    · exact Nat.le_refl _
    · exact Nat.le_succ_of_le (length_dropWhile_le _ rest)
  · exact Nat.le_refl _

theorem length_exponentSign_le (cs : List Char) : (exponentSign cs).2.length ≤ cs.length := by
  unfold exponentSign
  split <;> simp

theorem length_exponentPart_le (cs : List Char) : (exponentPart cs).2.length ≤ cs.length := by
  unfold exponentPart
  split
  · rename_i c rest
    split
    · simp only
      split
      · exact Nat.le_refl _
      · exact Nat.le_succ_of_le
          (Nat.le_trans (length_dropWhile_le _ _) (length_exponentSign_le rest))
    · exact Nat.le_refl _
  · exact Nat.le_refl _

theorem length_of_numeral? {negative : Bool} {cs rest : List Char} {n : Numeral}
    (h : numeral? negative cs = some (n, rest)) : rest.length < cs.length := by
  simp only [numeral?] at h
  split at h
  · simp at h
  · rename_i hne
    simp only [Option.some.injEq, Prod.mk.injEq] at h
    obtain ⟨_, rfl⟩ := h
    have hw := congrArg List.length (wholePart_append cs)
    have hpos : 0 < (wholePart cs).1.length := by
      simpa [List.length_pos_iff, List.isEmpty_iff] using hne
    have hf := length_fractionPart_le (wholePart cs).2
    have he := length_exponentPart_le (fractionPart (wholePart cs).2).2
    rw [List.length_append] at hw
    omega

end TagHighlight.Json
