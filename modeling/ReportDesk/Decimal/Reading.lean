import ReportDesk.Decimal.Shortest

/-! # Reading doubles

    A decimal text as the nearest double: digits with a point somewhere or nowhere, and an exponent
    perhaps.
-/

namespace ReportDesk.Decimal

/-- The number that digits make. -/
def ofDigits (ds : List Char) : Nat :=
  ds.foldl (fun n c => n * 10 + (c.toNat - '0'.toNat)) 0

/-- The double nearest to `digits · 10^exponent`. What no double comes near to is zero or infinite,
    whatever the exponent. -/
def nearest (digits : Nat) (exponent : Int) : Float :=
  let size : Int := (Nat.toDigits 10 digits).length + exponent
  if digits = 0 || size < -400 then 0
  else if size > 400 then 1 / 0
  else Float.ofScientific digits (exponent < 0) exponent.natAbs

/-- An integer with a sign or without, all of a text. -/
def signed? (cs : List Char) : Option Int :=
  let (negative, digits) :=
    match cs with
    | '-' :: rest => (true, rest)
    | '+' :: rest => (false, rest)
    | _ => (false, cs)
  if digits.isEmpty || !digits.all Char.isDigit then none
  else some (if negative then -(ofDigits digits : Int) else ofDigits digits)

/-- Digits, a point and digits perhaps, an exponent perhaps; at least one digit before or after the
    point. -/
def unsigned? (cs : List Char) : Option Float :=
  let whole := cs.takeWhile Char.isDigit
  let rest := cs.dropWhile Char.isDigit
  let (fraction, rest) :=
    match rest with
    | '.' :: after => (after.takeWhile Char.isDigit, after.dropWhile Char.isDigit)
    | _ => ([], rest)
  if whole.isEmpty && fraction.isEmpty then none
  else
    let digits := ofDigits (whole ++ fraction)
    let places : Int := fraction.length
    match rest with
    | [] => some (nearest digits (-places))
    | c :: exponent =>
      if c == 'e' || c == 'E' then (signed? exponent).map fun e => nearest digits (e - places)
      else none

/-- Reads a double; the words `inf`, `infinity` and `nan` in any case count too. -/
def read? (text : String) : Option Float :=
  let (negative, body) :=
    match text.toList with
    | '-' :: rest => (true, rest)
    | '+' :: rest => (false, rest)
    | cs => (false, cs)
  let word := String.ofList (body.map Char.toLower)
  let size :=
    if word = "inf" || word = "infinity" then some (1 / 0)
    else if word = "nan" then some (0 / 0)
    else unsigned? body
  size.map fun x => if negative then -x else x

end ReportDesk.Decimal
