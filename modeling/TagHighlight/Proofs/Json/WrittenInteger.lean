import Mathlib.Algebra.Group.Nat.Defs
import TagHighlight.Json.Symbol

/-!
# Written integers are read back

An integer is written as its decimal digits, with a minus sign before them if it is negative, and
without leading zeros. The reader takes the longest stretch that has the form of a number, so it
finds the integer again when what follows goes on neither with a digit nor with a fraction or an
exponent, and when there are not too many digits.
-/

namespace TagHighlight.Json

theorem isDigit_of_mem_toDigits {n : Nat} {c : Char} (h : c ∈ Nat.toDigits 10 n) : c.isDigit :=
  Nat.isDigit_of_mem_toDigits (by decide) (by decide) h

theorem wholePart_of_ne {c : Char} (h : c ≠ '0') (cs : List Char) :
    wholePart (c :: cs) =
      ((c :: cs).takeWhile Char.isDigit, (c :: cs).dropWhile Char.isDigit) := by
  unfold wholePart
  split
  · rename_i heq
    exact absurd (List.cons.inj heq).1 h
  · rfl

theorem ne_of_isDigit {c d : Char} (hc : c.isDigit) (hd : d.isDigit = false) : d ≠ c := by
  rintro rfl
  rw [hc] at hd
  cases hd

theorem isSpace_of_isDigit {c : Char} (h : c.isDigit) : isSpace c = false := by
  simp [isSpace, (ne_of_isDigit h _).symm]

theorem constant?_of_isDigit {c : Char} (h : c.isDigit) (cs : List Char) :
    constant? (c :: cs) = none := by
  simp [constant?, constants, ne_of_isDigit h]

theorem symbolOf_of_isDigit {c : Char} (h : c.isDigit) {cs rest : List Char} {n : Numeral}
    (hn : numeral? false (c :: cs) = some (n, rest)) : symbolOf c cs = (n.symbol, rest) := by
  unfold symbolOf
  split
  iterate 7 cases h
  · rw [constant?_of_isDigit h]
    simp only
    rw [signedNumeral?, hn]
    intro _ heq
    cases heq
    cases h

end TagHighlight.Json
