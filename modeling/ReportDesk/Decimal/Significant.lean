import ReportDesk.Decimal.Shortest

/-! # Doubles in fifteen significant digits

    A double as a text that is rounded to at most fifteen digits, without zeros at the end. There is
    always a point with a digit after it; the exponent has two digits or more.
-/

namespace ReportDesk.Decimal

/-- The decimal of at most `count` digits that is nearest to `m · 2^q`, a half going up. -/
def significant (count m : Nat) (q : Int) : Digits :=
  let n := m * Nat.pow 2 q.toNat
  let d := Nat.pow 2 (-q).toNat
  let e := leadingExponent n d - (count - 1 : Nat)
  let numerator := n * Nat.pow 10 (-e).toNat
  let denominator := d * Nat.pow 10 e.toNat
  let units := (2 * numerator + denominator) / (2 * denominator)
  Digits.trimmed (count + 1) { digits := units, exponent := e }

/-- The digits after the first, or a zero. -/
def fractionOf (ds : List Char) : List Char :=
  if ds.isEmpty then ['0'] else ds

/-- An exponent with its sign and at least two digits. -/
def exponentText (e : Int) : List Char :=
  let ds := Nat.toDigits 10 e.natAbs
  'e' :: (if e < 0 then '-' else '+') :: (if ds.length < 2 then '0' :: ds else ds)

/-- A decimal, without an exponent from `0.0001` up to fifteen digits before the point. -/
def Digits.general (decimal : Digits) : List Char :=
  let ds := Nat.toDigits 10 decimal.digits
  let first := decimal.exponent + ds.length - 1
  if first < -4 || first > 14 then
    ds.take 1 ++ '.' :: fractionOf (ds.drop 1) ++ exponentText first
  else if first < 0 then '0' :: '.' :: List.replicate (-first - 1).toNat '0' ++ ds
  else
    let all := ds ++ List.replicate (first.toNat + 1 - ds.length) '0'
    all.take (first.toNat + 1) ++ '.' :: fractionOf (all.drop (first.toNat + 1))

/-- A double in fifteen significant digits. -/
def general (x : Float) : String :=
  match Parts.ofFloat x with
  | .nan => "NaN"
  | .infinite negative => if negative then "-Inf" else "Inf"
  | .finite negative m q =>
    let body := if m = 0 then ['0', '.', '0'] else (significant 15 m q).general
    String.ofList (if negative then '-' :: body else body)

end ReportDesk.Decimal
