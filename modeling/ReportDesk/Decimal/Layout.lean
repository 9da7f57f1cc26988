import ReportDesk.Decimal.Shortest

/-! # How doubles are written

    The digits come from `ReportDesk.Decimal.Shortest`; a layout says which numbers are written
    without an exponent and how an exponent looks. Whole numbers keep a `.0`.
-/

namespace ReportDesk.Decimal

/-- The choices in writing a finite double. -/
structure Layout where
  /-- The least power of ten of a first digit that is written without an exponent. -/
  leastPlain : Int
  /-- The greatest such power. -/
  greatestPlain : Int
  /-- What stands between the digits and an exponent that is not negative. -/
  growing : String
  /-- What stands there, sign included, before the size of a negative exponent. -/
  shrinking : String

/-- Plain from `0.00001` up to sixteen digits before the point, and `1e16` beyond. -/
def Layout.display : Layout :=
  { leastPlain := -5, greatestPlain := 15, growing := "e", shrinking := "e-" }

/-- As `Layout.display`, with the sign of a positive exponent written: `1e+16`. -/
def Layout.json : Layout :=
  { Layout.display with growing := "e+" }

/-- Decimal digits `ds` with the last at the power `e` of ten, without an exponent. -/
def plain (ds : List Char) (e : Int) : List Char :=
  if e ≥ 0 then ds ++ List.replicate e.toNat '0' ++ ['.', '0']
  else
    let places := (-e).toNat
    if ds.length > places then ds.take (ds.length - places) ++ '.' :: ds.drop (ds.length - places)
    else '0' :: '.' :: List.replicate (places - ds.length) '0' ++ ds

/-- Decimal digits with one before the point, and the power of ten of that one. -/
def Layout.exponential (layout : Layout) (ds : List Char) (first : Int) : List Char :=
  let mantissa :=
    match ds with
    | [] => []
    | [d] => [d]
    | d :: rest => d :: '.' :: rest
  let mark := if first < 0 then layout.shrinking else layout.growing
  mantissa ++ mark.toList ++ Nat.toDigits 10 first.natAbs

/-- A decimal in a layout. -/
def Layout.digits (layout : Layout) (d : Digits) : List Char :=
  let ds := Nat.toDigits 10 d.digits
  let first := d.exponent + ds.length - 1
  if layout.leastPlain ≤ first && first ≤ layout.greatestPlain then plain ds d.exponent
  else layout.exponential ds first

/-- A double in a layout: the shortest digits that read back, and a sign also before zero. -/
def Layout.text (layout : Layout) (x : Float) : String :=
  match Parts.ofFloat x with
  | .nan => "NaN"
  | .infinite negative => if negative then "-inf" else "inf"
  | .finite negative m q =>
    let body := if m = 0 then ['0', '.', '0'] else layout.digits (shortest m q)
    String.ofList (if negative then '-' :: body else body)

/-- Whether a double is neither infinite nor NaN. -/
def isFinite (x : Float) : Bool :=
  match Parts.ofFloat x with
  | .finite .. => true
  | _ => false

end ReportDesk.Decimal
