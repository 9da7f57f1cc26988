/-! # Fixed decimals of single-precision numbers

    A single-precision number with a fixed count of digits after the point, rounded from its exact
    value; a half goes to the even digit.
-/

namespace ReportDesk.Decimal

/-- The whole number nearest to `n / d`, a half going to the even neighbour. -/
def roundDiv (n d : Nat) : Nat :=
  let q := n / d
  let rest := 2 * (n % d)
  if rest > d || (rest == d && q % 2 == 1) then q + 1 else q

/-- A finite single-precision number as a sign and a fraction. -/
def singleParts (x : Float32) : Bool × Nat × Nat :=
  let bits : Nat := x.toBits.toNat
  let biased : Nat := bits / Nat.pow 2 23 % 256
  let fraction : Nat := bits % Nat.pow 2 23
  let significand : Nat := if biased = 0 then fraction else Nat.pow 2 23 + fraction
  let exponent : Nat := if biased = 0 then 1 else biased
  (bits ≥ Nat.pow 2 31, significand * Nat.pow 2 (exponent - 150), Nat.pow 2 (150 - exponent))

/-- A number with `places` digits after the point. A number that rounds to zero has no sign. -/
def fixed (places : Nat) (x : Float32) : String :=
  let (negative, n, d) := singleParts x
  let units := roundDiv (n * Nat.pow 10 places) d
  let ds := Nat.toDigits 10 units
  let all := List.replicate (places + 1 - ds.length) '0' ++ ds
  let whole := all.take (all.length - places)
  let fraction := all.drop (all.length - places)
  let sign := if negative && units ≠ 0 then ['-'] else []
  String.ofList (sign ++ whole ++ (if places = 0 then [] else '.' :: fraction))

end ReportDesk.Decimal
