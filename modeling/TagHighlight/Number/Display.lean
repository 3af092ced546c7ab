import TagHighlight.Number.Shortest

/-!
# Numbers as text

A double-precision number is shown by its shortest decimal. From 0.0001 up to below ten to the
sixteenth the decimal is positional and always has a point; outside that range it has one digit
before the point and an exponent with a sign and at least two digits.
-/

namespace TagHighlight.Number

def dropTrailingZeros (ds : List Char) : List Char :=
  (ds.reverse.dropWhile (· == '0')).reverse

/-- An exponent with its sign and at least two digits. -/
def exponentText (e : Int) : List Char :=
  let ds := Nat.toDigits 10 e.natAbs
  'e' :: (if e < 0 then '-' else '+') :: (if ds.length < 2 then '0' :: ds else ds)

/-- A positive decimal as text, where `point` digits stand before the decimal point. -/
def positional (ds : List Char) (point : Int) : List Char :=
  if point ≤ 0 then '0' :: '.' :: (List.replicate (-point).toNat '0' ++ ds)
  else
    let whole := ds.take point.toNat ++ List.replicate (point.toNat - ds.length) '0'
    let fraction := ds.drop point.toNat
    whole ++ '.' :: (if fraction.isEmpty then ['0'] else fraction)

/-- The digits with an exponent; a single digit has no point. -/
def scientific (ds : List Char) (exponent : Int) : List Char :=
  match ds with
  | [] => []
  | [d] => d :: exponentText exponent
  | d :: rest => d :: '.' :: rest ++ exponentText exponent

def Decimal.text (d : Decimal) : List Char :=
  let all := Nat.toDigits 10 d.digits
  let point := (all.length : Int) + d.scale
  let ds := dropTrailingZeros all
  if -4 < point ∧ point ≤ 16 then positional ds point else scientific ds (point - 1)

def displayDouble : Double → String
  | .nan => "nan"
  | .infinite negative => if negative then "-inf" else "inf"
  | .finite negative mantissa exponent =>
    let magnitude := if mantissa = 0 then ['0', '.', '0'] else (shortest mantissa exponent).text
    String.ofList (if negative then '-' :: magnitude else magnitude)

end TagHighlight.Number
