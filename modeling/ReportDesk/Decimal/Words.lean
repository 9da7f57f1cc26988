/-! # Numbers that fit a word

    The bounds of whole numbers in 64 bits, with and without a sign.
-/

namespace ReportDesk.Decimal

/-- One above the greatest number of 64 bits with a sign. -/
def signedLimit : Int := 9223372036854775808

/-- One above the greatest number of 64 bits without a sign. -/
def unsignedLimit : Nat := 18446744073709551616

/-- Whether a number fits 64 bits with a sign. -/
def fitsSigned (n : Int) : Bool :=
  -signedLimit ≤ n && n < signedLimit

end ReportDesk.Decimal
