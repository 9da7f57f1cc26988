/-! # The shortest decimal of a double

    A finite double stands for all reals that round to it. Its shortest decimal is the one with the
    fewest digits among them, and of those the nearest; the search is exact, in natural numbers.

    The interval of reals that round to `m · 2^q` reaches half a unit up and, unless `m` is the
    least significand of its exponent, half a unit down (else a quarter). Its ends belong to it
    iff `m` is even.
-/

namespace ReportDesk.Decimal

/-! ### Doubles as numbers -/

/-- What the 64 bits of a double say. -/
inductive Parts where
  /-- Not a number. -/
  | nan
  /-- An infinity. -/
  | infinite (negative : Bool)
  /-- `significand · 2^exponent`, with a sign. -/
  | finite (negative : Bool) (significand : Nat) (exponent : Int)
  deriving DecidableEq, Repr

/-- Reads the sign, exponent and significand fields of a double. -/
def Parts.ofBits (bits : UInt64) : Parts :=
  let negative := bits.toNat ≥ Nat.pow 2 63
  let biased : Nat := bits.toNat / Nat.pow 2 52 % 2048
  let fraction : Nat := bits.toNat % Nat.pow 2 52
  if biased = 2047 then
    if fraction = 0 then .infinite negative else .nan
  else if biased = 0 then .finite negative fraction (-1074)
  else .finite negative (Nat.pow 2 52 + fraction) ((biased : Int) - 1075)

/-- The parts of a double. -/
def Parts.ofFloat (x : Float) : Parts :=
  .ofBits x.toBits

/-! ### The interval that rounds to a double -/

/-- The reals that round to one double, over a common denominator. -/
structure Interval where
  /-- The lower end. -/
  low : Nat
  /-- The double itself. -/
  value : Nat
  /-- The upper end. -/
  high : Nat
  /-- What all three are divided by. -/
  denominator : Nat
  /-- Whether the ends round to the double too. -/
  closed : Bool

/-- The interval of `m · 2^q`. -/
def Interval.around (m : Nat) (q : Int) : Interval :=
  let below := if m = Nat.pow 2 52 ∧ q ≠ -1074 then 1 else 2
  let scale := Nat.pow 2 q.toNat
  { low := (4 * m - below) * scale
    value := 4 * m * scale
    high := (4 * m + 2) * scale
    denominator := 4 * Nat.pow 2 (-q).toNat
    closed := m % 2 = 0 }

/-- Whether `n · unit / denominator` rounds to the double. -/
def Interval.holds (i : Interval) (scaled : Nat) : Bool :=
  if i.closed then i.low ≤ scaled && scaled ≤ i.high else i.low < scaled && scaled < i.high

/-! ### The search -/

/-- A decimal, `digits · 10^exponent`. -/
structure Digits where
  /-- The digits as a number. -/
  digits : Nat
  /-- The power of ten of the last digit. -/
  exponent : Int
  deriving DecidableEq, Repr

/-- How often `n` can be multiplied by ten before it reaches `d`. -/
def leadingZeros : Nat → Nat → Nat → Nat
  | 0, _, _ => 0
  | fuel + 1, n, d => if n ≥ d then 0 else leadingZeros fuel (n * 10) d + 1

/-- The power of ten that the first digit of `n / d` is a multiple of. -/
def leadingExponent (n d : Nat) : Int :=
  if n ≥ d then ((Nat.toDigits 10 (n / d)).length : Int) - 1
  else -(leadingZeros 400 n d : Int)

/-- The decimal on the grid of step `10^e` that rounds to the double, the nearer one if both
    neighbours of the double do and the even one if they are equally near. -/
def Interval.onGrid? (i : Interval) (e : Int) : Option Nat :=
  let up := Nat.pow 10 (-e).toNat
  let unit := i.denominator * Nat.pow 10 e.toNat
  let scaled : Interval := { i with low := i.low * up, value := i.value * up, high := i.high * up }
  let n := scaled.value / unit
  let below := scaled.holds (n * unit)
  let above := scaled.holds ((n + 1) * unit)
  if below && above then
    let rest := 2 * (scaled.value % unit)
    if rest < unit || (rest == unit && n % 2 == 0) then some n else some (n + 1)
  else if below then some n
  else if above then some (n + 1)
  else none

/-- The coarsest of `count` grids that holds a decimal of the double, from step `10^e` down. -/
def Interval.search (i : Interval) : Nat → Int → Digits
  | 0, e => { digits := 0, exponent := e }
  | count + 1, e =>
    match i.onGrid? e with
    | some n => { digits := n, exponent := e }
    | none => i.search count (e - 1)

/-- Moves zeros at the end of the digits into the exponent. -/
def Digits.trimmed : Nat → Digits → Digits
  | 0, d => d
  | fuel + 1, d =>
    if d.digits % 10 = 0 && d.digits ≠ 0 then
      Digits.trimmed fuel { digits := d.digits / 10, exponent := d.exponent + 1 }
    else d

/-- The shortest decimal of `m · 2^q`. Seventeen digits always suffice. -/
def shortest (m : Nat) (q : Int) : Digits :=
  let i := Interval.around m q
  (i.search 18 (leadingExponent i.value i.denominator)).trimmed 20

end ReportDesk.Decimal
