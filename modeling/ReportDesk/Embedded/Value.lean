import ReportDesk.Decimal.Words
import ReportDesk.Decimal.Reading
import ReportDesk.Decimal.Significant
import ReportDesk.Table.Cell
import ReportDesk.Text.Pieces

/-! # Values of the embedded database

    A value has one of five kinds, whatever its column was declared to hold. The declaration gives a
    column an affinity, a kind that values are turned into where nothing is lost. Values of all
    kinds have an order: no value, then numbers, texts and bytes.
-/

namespace ReportDesk.Embedded

/-- A value. -/
inductive Value where
  | null
  | integer (value : Int64)
  | real (value : Float)
  | text (value : String)
  | blob (bytes : List UInt8)
  deriving Inhabited

namespace Value

/-! ### Numbers in texts -/

/-- Whether a character can stand around a number in a text. -/
def isPadding (c : Char) : Bool :=
  c == ' ' || ('\t' ≤ c && c ≤ '\x0d')

/-- A whole number as a value: an integer if it fits 64 bits, else a real. -/
def ofInt (n : Int) : Value :=
  if Decimal.fitsSigned n then .integer (Int64.ofInt n) else .real (Float.ofInt n)

/-- The digits at the front of a list, and what follows them. -/
def digits (cs : List Char) : List Char × List Char :=
  (cs.takeWhile Char.isDigit, cs.dropWhile Char.isDigit)

/-- The number at the front of a text and what follows it; or nothing if there is none. -/
def numberAtFront? (cs : List Char) : Option (Value × List Char) :=
  let (negative, body) :=
    match cs with
    | '-' :: rest => (true, rest)
    | '+' :: rest => (false, rest)
    | _ => (false, cs)
  let (whole, rest) := digits body
  let (point, fraction, rest) :=
    match rest with
    | '.' :: after => (true, (digits after).1, (digits after).2)
    | _ => (false, [], rest)
  if whole.isEmpty && fraction.isEmpty then none
  else
    let (exponent, rest) : Option Int × List Char :=
      match rest with
      | e :: sign :: after =>
        if e == 'e' || e == 'E' then
          let (signs, body) :=
            if sign == '+' || sign == '-' then ([sign], after) else ([], sign :: after)
          let (power, further) := digits body
          if power.isEmpty then (none, rest)
          else (Decimal.signed? (signs ++ power), further)
        else (none, rest)
      | _ => (none, rest)
    let size := Decimal.ofDigits (whole ++ fraction)
    if !point && exponent.isNone then
      some (ofInt (if negative then -(size : Int) else size), rest)
    else
      let x := Decimal.nearest size (exponent.getD 0 - fraction.length)
      some (.real (if negative then -x else x), rest)

/-- The number that a text is, apart from padding; or nothing. -/
def ofNumeral? (text : String) : Option Value :=
  match numberAtFront? (text.toList.dropWhile isPadding) with
  | some (value, rest) => if rest.all isPadding then some value else none
  | none => none

/-- The number at the front of a text after padding; zero if there is none. -/
def ofPrefix (text : String) : Value :=
  match numberAtFront? (text.toList.dropWhile isPadding) with
  | some (value, _) => value
  | none => .integer 0

/-! ### Conversions -/

/-- A real as an integer if it is one and neither the least nor the greatest. -/
def wholeOr (x : Float) : Value :=
  match Decimal.Parts.ofFloat x with
  | .finite negative m q =>
    let scale := Nat.pow 2 (-q).toNat
    let size := m * Nat.pow 2 q.toNat / scale
    if m % scale = 0 && (size : Int) < Decimal.signedLimit - 1 then
      .integer (Int64.ofInt (if negative then -(size : Int) else size))
    else .real x
  | _ => .real x

/-- A value as a real number. Bytes count as no number. -/
def toReal : Value → Float
  | .null => 0
  | .integer n => Float.ofInt n.toInt
  | .real x => x
  | .text t =>
    match ofPrefix t with
    | .integer n => Float.ofInt n.toInt
    | .real x => x
    | _ => 0
  | .blob _ => 0

/-- A value as a number: itself if it is one, else the one at the front of its text. -/
def toNumber : Value → Value
  | .text t => ofPrefix t
  | .blob _ => .integer 0
  | value => value

/-- The text of a value, if it has one. -/
def toText? : Value → Option String
  | .null => none
  | .integer n => some (toString n.toInt)
  | .real x => some (Decimal.general x)
  | .text t => some t
  | .blob bytes => some (String.ofList (bytes.map fun b => Char.ofNat b.toNat))

/-- A value as a cell of a result. Of bytes only the number is told. -/
def toCell : Value → Cell
  | .null => .null
  | .integer n => .integer n
  | .real x => .float x
  | .text t => .text t
  | .blob bytes => .text ("<" ++ toString bytes.length ++ " bytes>")

/-! ### Order -/

/-- The order of an integer and a real, exactly. -/
def compareIntReal (n : Int) (x : Float) : Ordering :=
  match Decimal.Parts.ofFloat x with
  | .nan => .gt
  | .infinite negative => if negative then .gt else .lt
  | .finite negative m q =>
    let size : Int := m * Nat.pow 2 q.toNat
    compare (n * Nat.pow 2 (-q).toNat) (if negative then -size else size)

/-- The order of two reals. -/
def compareReal (x y : Float) : Ordering :=
  if x < y then .lt else if x == y then .eq else .gt

/-- The order of two lists of bytes: at the first difference, else by length. -/
def compareBytes : List UInt8 → List UInt8 → Ordering
  | [], [] => .eq
  | [], _ :: _ => .lt
  | _ :: _, [] => .gt
  | a :: as, b :: bs => if a = b then compareBytes as bs else compare a b

/-- The order of two values. -/
def compareTo : Value → Value → Ordering
  | .null, .null => .eq
  | .null, _ => .lt
  | _, .null => .gt
  | .integer a, .integer b => compare a.toInt b.toInt
  | .integer a, .real y => compareIntReal a.toInt y
  | .real x, .integer b => (compareIntReal b.toInt x).swap
  | .real x, .real y => compareReal x y
  | .integer _, _ | .real _, _ => .lt
  | _, .integer _ | _, .real _ => .gt
  | .text a, .text b => if a < b then .lt else if a = b then .eq else .gt
  | .text _, .blob _ => .lt
  | .blob _, .text _ => .gt
  | .blob a, .blob b => compareBytes a b

end Value

/-! ### Affinities -/

/-- The kind that values of a column are turned into. -/
inductive Affinity where
  /-- None. -/
  | blob
  | text
  | numeric
  | integer
  | real
  deriving DecidableEq, Repr

namespace Affinity

/-- Whether an affinity is for numbers. -/
def isNumeric : Affinity → Bool
  | .numeric | .integer | .real => true
  | _ => false

/-- The affinity of a column that is declared with a type. -/
def ofType (type : String) : Affinity :=
  let cs := (type.toList.map Char.toLower)
  let names (part : String) : Bool := Text.occursIn part.toList cs
  if names "int" then .integer
  else if names "char" || names "clob" || names "text" then .text
  else if names "blob" || cs.isEmpty then .blob
  else if names "real" || names "floa" || names "doub" then .real
  else .numeric

/-- A number as a column for numbers holds it. -/
def storeNumber (affinity : Affinity) (value : Value) : Value :=
  match affinity, value with
  | .real, .integer n => .real (Float.ofInt n.toInt)
  | .real, .real x => .real (if x == 0 then 0 else x)
  | _, .real x => Value.wholeOr x
  | _, value => value

/-- A value as a column holds it. -/
def store (affinity : Affinity) (value : Value) : Value :=
  match affinity, value with
  | .blob, value => value
  | .text, .integer _ | .text, .real _ => (value.toText?.map .text).getD value
  | .text, value => value
  | affinity, .text t => ((Value.ofNumeral? t).map affinity.storeNumber).getD value
  | affinity, value => affinity.storeNumber value

end Affinity

end ReportDesk.Embedded
