import ReportDesk.Decimal.Words
import ReportDesk.Json.Printer

/-! # Cells

    The value in one place of a result table, and the two texts it has: the one shown to people and
    the one in JSON. Neither depends on the calendar, so dates and times are taken as the numbers
    that they are written with, and what is proved of cells is proved of all such numbers, be there
    a day that has them or not.
-/

namespace ReportDesk

/-! ### Dates -/

/-- A day, told by its year, its month and its day of the month. -/
structure Date where
  /-- The year, of any size and sign. -/
  year : Int
  /-- The month, from 1 to 12 for a real day. -/
  month : Nat
  /-- The day of the month, from 1 to at most 31 for a real day. -/
  day : Nat
  deriving DecidableEq, Repr

/-- A day with a time of day. -/
structure Timestamp where
  /-- The day. -/
  date : Date
  /-- The hour, from 0. -/
  hour : Nat
  /-- The minute, from 0. -/
  minute : Nat
  /-- The second, from 0. -/
  second : Nat
  /-- Billionths of a second; a whole one more marks a leap second. -/
  nanos : Nat := 0
  deriving DecidableEq, Repr

/-- A number in at least `width` digits. -/
def padded (width n : Nat) : String :=
  let ds := Nat.toDigits 10 n
  String.ofList (List.replicate (width - ds.length) '0' ++ ds)

/-- Year, month and day with hyphens between. A year has four digits, and a sign unless it lies
    between 0 and 9999. -/
def Date.text (date : Date) : String :=
  let sign := if date.year < 0 then "-" else if date.year > 9999 then "+" else ""
  sign ++ padded 4 date.year.natAbs ++ "-" ++ padded 2 date.month ++ "-" ++ padded 2 date.day

/-- Hour, minute and second with colons between; a leap second is the sixty-first. -/
def Timestamp.timeText (t : Timestamp) : String :=
  let second := t.second + t.nanos / 1000000000
  padded 2 t.hour ++ ":" ++ padded 2 t.minute ++ ":" ++ padded 2 second

/-! ### Cells -/

/-- The value in one place of a table. -/
inductive Cell where
  /-- No value. -/
  | null
  | integer (value : Int64)
  | float (value : Float)
  | text (value : String)
  | date (value : Date)
  | timestamp (value : Timestamp)
  | boolean (value : Bool)
  deriving Inhabited

namespace Cell

/-- Whether a cell has no value. -/
def isNull : Cell → Bool
  | .null => true
  | _ => false

/-- The kind of value, by name. -/
def kind : Cell → String
  | .null => "null"
  | .integer _ => "integer"
  | .float _ => "float"
  | .text _ => "text"
  | .date _ => "date"
  | .timestamp _ => "datetime"
  | .boolean _ => "boolean"

/-- The text people see; none for no value. -/
def display : Cell → String
  | .null => ""
  | .integer n => toString n.toInt
  | .float x => Decimal.Layout.display.text x
  | .text t => t
  | .date d => d.text
  | .timestamp t => t.date.text ++ " " ++ t.timeText
  | .boolean b => if b then "true" else "false"

/-- The cell of an untyped JSON value. An integer that 64 bits with a sign cannot hold becomes a
    double, an array or object its JSON text. -/
def ofJson : Json → Cell
  | .null => .null
  | .bool b => .boolean b
  | .integer n =>
    if Decimal.fitsSigned n then .integer (Int64.ofInt n)
    else .float (Float.ofInt n)
  | .float x => .float x
  | .string t => .text t
  | json => .text json.compact

/-- A cell as JSON. Dates become texts, and a double that is no number becomes null. -/
def toJson : Cell → Json
  | .null => .null
  | .integer n => .integer n.toInt
  | .float x => if Decimal.isFinite x then .float x else .null
  | .text t => .string t
  | .date d => .string d.text
  | .timestamp t => .string (t.date.text ++ "T" ++ t.timeText)
  | .boolean b => .bool b

end Cell

end ReportDesk
