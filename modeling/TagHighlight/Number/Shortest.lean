import TagHighlight.Number.Double

/-!
# Shortest decimals

The decimal that stands for a double-precision number has the fewest significant digits with which
it still reads back as that number; of several such decimals it is the one nearest to the number,
and of two equally near ones the one with an even last digit. Both neighbours of the number on each
decimal grid are tried, from one digit to seventeen, which always suffice.
-/

namespace TagHighlight.Number

/-- A decimal `digits · 10 ^ scale`. -/
structure Decimal where
  digits : Nat
  /-- The power of ten of the last digit. -/
  scale : Int

/-- The positive reals `low / unit` to `high / unit` that round to `value / unit`. -/
structure Interval where
  low : Nat
  value : Nat
  high : Nat
  /-- The common denominator. -/
  unit : Nat
  /-- The ends round to the number too. -/
  closed : Bool

/-- The reals that round to `mantissa · 2 ^ exponent`, in quarters of the last bit. Below a power of
two the next number is only half as far away. -/
def Interval.around (mantissa : Nat) (exponent : Int) : Interval :=
  let shift := if 0 ≤ exponent then Nat.pow 2 exponent.toNat else 1
  let below := if mantissa = Double.mantissaStart ∧ -1074 < exponent then 1 else 2
  { low := (4 * mantissa - below) * shift
    value := 4 * mantissa * shift
    high := (4 * mantissa + 2) * shift
    unit := if 0 ≤ exponent then 4 else 4 * Nat.pow 2 (-exponent).toNat
    closed := mantissa % 2 = 0 }

/-- The power of ten of the leading digit of the positive fraction `num / den`. -/
def leadingPower (num den : Nat) : Int :=
  if den ≤ num then ((Nat.toDigits 10 (num / den)).length : Int) - 1
  else match (List.range 400).find? fun j => den ≤ num * Nat.pow 10 j with
    | some j => -(j : Int)
    | none => 0

/-- The decimal on the grid of multiples of `10 ^ scale` that lies in the interval and next to its
number, if there is one. -/
def onGrid (i : Interval) (scale : Int) : Option Decimal :=
  -- the interval and the step of the grid as whole numbers of one unit
  let (factor, step) :=
    if 0 ≤ scale then (1, i.unit * Nat.pow 10 scale.toNat)
    else (Nat.pow 10 (-scale).toNat, i.unit)
  let floor := i.value * factor / step
  let below := floor * step
  let above := (floor + 1) * step
  let belowFits := i.low * factor < below || (i.closed && i.low * factor == below)
  let aboveFits := above < i.high * factor || (i.closed && above == i.high * factor)
  if belowFits && aboveFits then
    let twice := 2 * (i.value * factor)
    let middle := below + above
    if twice < middle || (twice == middle && floor % 2 == 0) then some ⟨floor, scale⟩
    else some ⟨floor + 1, scale⟩
  else if belowFits then some ⟨floor, scale⟩
  else if aboveFits then some ⟨floor + 1, scale⟩
  else none

/-- The shortest decimal of the positive number `mantissa · 2 ^ exponent`. -/
def shortest (mantissa : Nat) (exponent : Int) : Decimal :=
  let i := Interval.around mantissa exponent
  let lead := leadingPower i.value i.unit
  ((List.range 17).findSome? fun k : Nat => onGrid i (lead - k)).getD ⟨0, 0⟩

end TagHighlight.Number
