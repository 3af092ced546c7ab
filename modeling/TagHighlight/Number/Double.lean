/-!
# Double-precision numbers

A finite number is `± mantissa · 2 ^ exponent` with a mantissa of at most 53 bits and an exponent of
at least -1074. Reading a decimal rounds to the nearest such number, a tie going to the even
mantissa; what lies beyond the largest one is infinite. All arithmetic is exact on natural numbers.

Whole numbers of any size and double-precision numbers are compared without rounding either. Both
are whole numbers times powers of two, unless they are infinite, and are brought to the smaller of
their exponents.
-/

namespace TagHighlight

/-- A binary floating-point number of 64 bits. -/
inductive Double
  /-- The number `± mantissa · 2 ^ exponent`; zero keeps its sign. -/
  | finite (negative : Bool) (mantissa : Nat) (exponent : Int)
  | infinite (negative : Bool)
  | nan
  deriving DecidableEq

namespace Double

def zero (negative : Bool) : Double := finite negative 0 (-1074)

def isZero : Double → Bool
  | finite _ mantissa _ => mantissa == 0
  | _ => false

/-- The least mantissa of 53 bits. -/
def mantissaStart : Nat := 0x10000000000000

/-- The least number of more than 53 bits. -/
def mantissaEnd : Nat := 0x20000000000000

/-- The quotient rounded to the nearest whole number, a tie going to the even one. -/
def roundDiv (num den : Nat) : Nat :=
  let quotient := num / den
  let twice := 2 * (num % den)
  if den < twice ∨ (twice = den ∧ quotient % 2 = 1) then quotient + 1 else quotient

/-- The fraction `num / den` divided by `2 ^ exponent`. -/
def unscale (num den : Nat) (exponent : Int) : Nat × Nat :=
  if 0 ≤ exponent then (num, den * Nat.pow 2 exponent.toNat)
  else (num * Nat.pow 2 (-exponent).toNat, den)

/-- The exponent at which the whole part of `num / den` has 53 bits, or the least exponent. -/
def exponentFor (num den : Nat) : Int :=
  let low : Int := (Nat.log2 num : Int) - (Nat.log2 den : Int) - 53
  let (n, d) := unscale num den low
  max (-1074) (if n / d < mantissaEnd then low else low + 1)

/-- The number nearest to the positive fraction `num / den`. -/
def ofFraction (negative : Bool) (num den : Nat) : Double :=
  let exponent := exponentFor num den
  let (n, d) := unscale num den exponent
  let rounded := roundDiv n d
  let (mantissa, exponent) :=
    if rounded = mantissaEnd then (mantissaStart, exponent + 1) else (rounded, exponent)
  if 971 < exponent then infinite negative else finite negative mantissa exponent

/-- The number nearest to `digits · 10 ^ scale`. Decimals of a size that only zero or infinity can
stand for are told by their count of digits. -/
def ofDecimal (negative : Bool) (digits : Nat) (scale : Int) : Double :=
  if digits = 0 then zero negative
  else
    let magnitude := ((Nat.toDigits 10 digits).length : Int) + scale
    if 310 < magnitude then infinite negative
    else if magnitude < -330 then zero negative
    else if 0 ≤ scale then ofFraction negative (digits * Nat.pow 10 scale.toNat) 1
    else ofFraction negative digits (Nat.pow 10 (-scale).toNat)

end Double

/-! ### Order -/

/-- A number as it is, without rounding. -/
inductive ExactNumber
  | infinite (negative : Bool)
  /-- The number `factor · 2 ^ exponent`. -/
  | scaled (factor exponent : Int)

namespace ExactNumber

def isLess : ExactNumber → ExactNumber → Bool
  | scaled m p, scaled n q =>
    let least := min p q
    m * Int.ofNat (Nat.pow 2 (p - least).toNat) < n * Int.ofNat (Nat.pow 2 (q - least).toNat)
  | scaled _ _, infinite negative => !negative
  | infinite negative, scaled _ _ => negative
  | infinite negative, infinite other => negative && !other

end ExactNumber

/-- The exact value of a double-precision number. -/
def Double.exact? : Double → Option ExactNumber
  | finite negative mantissa exponent =>
    some (.scaled (if negative then -(mantissa : Int) else mantissa) exponent)
  | infinite negative => some (.infinite negative)
  | nan => none

end TagHighlight
