import ReportDesk.Decimal.Words
import ReportDesk.Json.Basic

/-! # Numbers in JSON texts

    How a numeral becomes a number. Its leading digits, as many as fit 64 bits, make a significand;
    without fraction and exponent, and with nothing left over, that is an integer. Otherwise the
    significand is scaled by a power of ten in double arithmetic, so the last bit of a long numeral
    is that of the scaling and not always the nearest one.
-/

namespace ReportDesk.Json

/-- The digits of a numeral read so far. -/
structure Significand where
  /-- The number they make. -/
  value : Nat := 0
  /-- The power of ten it is to be scaled by. -/
  scale : Int := 0
  /-- Whether a digit was left out because the number would not fit 64 bits. -/
  full : Bool := false

namespace Significand

/-- The digit that a character stands for. -/
def digit (c : Char) : Nat :=
  c.toNat - '0'.toNat

/-- Takes a digit before the point: once one is left out, all others only count. -/
def addWhole (s : Significand) (c : Char) : Significand :=
  let next := s.value * 10 + digit c
  if s.full || next ≥ Decimal.unsignedLimit then { s with scale := s.scale + 1, full := true }
  else { s with value := next }

/-- Takes the digits after the point, up to the first that does not fit. -/
def addFraction (s : Significand) : List Char → Significand
  | [] => s
  | c :: rest =>
    let next := s.value * 10 + digit c
    if next ≥ Decimal.unsignedLimit then { s with full := true }
    else addFraction { s with value := next, scale := s.scale - 1 } rest

end Significand

/-- Scales by a power of ten. Beyond `10^308` a small number is first divided by that, as long as
    anything is left of it; a great one is out of range. -/
def scaleByTen : Nat → Float → Int → Option Float
  | 0, x, _ => some x
  | fuel + 1, x, e =>
    if e.natAbs ≤ 308 then
      let power := Float.ofScientific 1 false e.natAbs
      if e ≥ 0 then
        let y := x * power
        if Decimal.isFinite y then some y else none
      else some (x / power)
    else if x == 0 then some x
    else if e ≥ 0 then none
    else scaleByTen fuel (x / Float.ofScientific 1 false 308) (e + 308)

/-- One above the greatest exponent that can be written. -/
def exponentLimit : Nat := 2147483648

/-- A significand scaled, with its sign. An exponent that cannot be written leaves zero or is out of
    range. -/
def ofScaled (negative : Bool) (s : Significand) (exponent : Int) : Json :=
  let signed (x : Float) : Json := .float (if negative then -x else x)
  if exponent ≥ exponentLimit && s.value ≠ 0 then .broken .numberOutOfRange
  else if exponent.natAbs ≥ exponentLimit then signed 0
  else
    match scaleByTen 4 s.value.toUInt64.toFloat (s.scale + exponent) with
    | some x => signed x
    | none => .broken .numberOutOfRange

/-- The number of a numeral: its sign, the digits before the point, those after it if there is one,
    and the exponent if there is one. -/
def ofNumeral (negative : Bool) (whole : List Char) (fraction : Option (List Char))
    (exponent : Option Int) : Json :=
  let s := whole.foldl Significand.addWhole {}
  match fraction, exponent with
  | none, none =>
    if s.full then ofScaled negative s 0
    else if !negative then .integer s.value
    else if s.value = 0 || s.value > Decimal.signedLimit.toNat then .float (-s.value.toUInt64.toFloat)
    else .integer (-s.value)
  | fraction, exponent => ofScaled negative (s.addFraction (fraction.getD [])) (exponent.getD 0)

end ReportDesk.Json
