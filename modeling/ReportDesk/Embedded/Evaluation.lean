import ReportDesk.Embedded.Naming

/-! # What expressions say of rows

    An expression whose names are looked up has a value for a row, and with functions of groups for
    the rows of a group. Conditions are true, false or neither; neither is what a missing value
    makes of them. Before two values are compared, a column's affinity can turn one into the kind
    of the other.
-/

namespace ReportDesk.Embedded

/-! ### Conditions -/

namespace Value

/-- Whether a value counts as true. A missing one is neither. -/
def truth? : Value → Option Bool
  | .null => none
  | .integer n => some (n != 0)
  | .real x => some (x != 0)
  | value => some (value.toReal != 0)

/-- The value of a condition. -/
def ofTruth? : Option Bool → Value
  | none => .null
  | some b => .integer (if b then 1 else 0)

/-- Neither if one of two conditions is neither, unless the other one settles the matter. -/
def and? : Option Bool → Option Bool → Option Bool
  | some false, _ | _, some false => some false
  | some true, some true => some true
  | _, _ => none

/-- As `and?`, for one of the two being enough. -/
def or? (a b : Option Bool) : Option Bool :=
  (and? (a.map Bool.not) (b.map Bool.not)).map Bool.not

/-! ### Comparison -/

/-- A text as the number that it is, if it is one. -/
def asNumber : Value → Value
  | .text t => (ofNumeral? t).getD (.text t)
  | value => value

/-- A number as its text. -/
def asText : Value → Value
  | .integer n => .text (toString n.toInt)
  | .real x => .text (Decimal.general x)
  | value => value

/-- Whether a value is a text. -/
def isText : Value → Bool
  | .text _ => true
  | _ => false

/-- Two values as they are compared where their expressions have these affinities. -/
def aligned (a b : Option Affinity) (x y : Value) : Value × Value :=
  let numeric := (a.any Affinity.isNumeric) || (b.any Affinity.isNumeric)
  let textual := (a == some .text && b.isNone) || (a.isNone && b == some .text)
  if numeric then (x.asNumber, y.asNumber)
  else if textual && (x.isText || y.isText) then (x.asText, y.asText)
  else (x, y)

/-- Whether a missing value is compared, which settles nothing. -/
def missing : Value → Value → Bool
  | .null, _ | _, .null => true
  | _, _ => false

/-- Whether a comparison comes out in one of the accepted ways. -/
def compare? (accepted : Ordering → Bool) (x y : Value) : Option Bool :=
  if missing x y then none else some (accepted (x.compareTo y))

/-! ### Arithmetic -/

/-- A real, or no value where it is not a number. -/
def ofReal (x : Float) : Value :=
  if x == x then .real x else .null

/-- The value of an operation on two numbers, done on integers if both are and the result fits. -/
def arithmetic (onIntegers : Int → Int → Option Int) (onReals : Float → Float → Value)
    (x y : Value) : Value :=
  match x.toNumber, y.toNumber with
  | .null, _ | _, .null => .null
  | .integer a, .integer b =>
    match onIntegers a.toInt b.toInt with
    | some n =>
      if Decimal.fitsSigned n then .integer (Int64.ofInt n)
      else onReals (Float.ofInt a.toInt) (Float.ofInt b.toInt)
    | none => .null
  | a, b => onReals a.toReal b.toReal

/-- The negation of a number. -/
def negated (x : Value) : Value :=
  arithmetic (fun a b => some (a - b)) (fun a b => ofReal (a - b)) (.integer 0) x

/-! ### Patterns -/

/-- Whether a text matches a pattern, in which a percent sign stands for any characters and an
    underscore for one. ASCII case makes no difference. -/
def matches? : List Char → List Char → Bool
  | [], cs => cs.isEmpty
  | '%' :: rest, cs => anyTail rest cs
  | p :: rest, c :: cs => (p == '_' || p.toLower == c.toLower) && matches? rest cs
  | _ :: _, [] => false
where
  /-- Whether some end of a text matches a pattern. -/
  anyTail (rest : List Char) : List Char → Bool
    | [] => matches? rest []
    | c :: cs => matches? rest (c :: cs) || anyTail rest cs

end Value

/-! ### Sums -/

/-- A sum under way. -/
structure Total where
  /-- How many values were added. -/
  count : Nat := 0
  /-- The sum, as long as all values were integers and it fitted. -/
  exact : Option Int := some 0
  /-- The sum in reals, without what rounding took away. -/
  sum : Float := 0
  /-- What rounding took away. -/
  lost : Float := 0
  /-- Whether integers alone became too great. -/
  overflown : Bool := false

namespace Total

/-- Adds a real and keeps what rounding takes away. -/
def addReal (total : Total) (x : Float) : Total :=
  let sum := total.sum + x
  let lost :=
    if total.sum.abs > x.abs then (total.sum - sum) + x else (x - sum) + total.sum
  { total with sum := sum, lost := total.lost + lost }

/-- Adds an integer to the sum in reals, in two parts if a real cannot hold it. -/
def addWhole (total : Total) (n : Int) : Total :=
  if n.natAbs ≥ Nat.pow 2 52 then
    let small := n.tmod 16384
    (total.addReal (Float.ofInt (n - small))).addReal (Float.ofInt small)
  else total.addReal (Float.ofInt n)

/-- The sum in reals that goes on from an exact one. -/
def inexact (total : Total) (n : Int) : Total :=
  { total with exact := none, sum := 0, lost := 0 }.addWhole n

/-- Adds a value. A missing one is passed over, and a text counts as the number it is. -/
def add (total : Total) (value : Value) : Total :=
  match value.asNumber, total.exact with
  | .null, _ => total
  | .integer n, some sum =>
    let counted := { total with count := total.count + 1 }
    let next := sum + n.toInt
    if Decimal.fitsSigned next then { counted with exact := some next }
    else { (counted.inexact sum).addWhole n.toInt with overflown := true }
  | .integer n, none => { total.addWhole n.toInt with count := total.count + 1 }
  | other, some sum =>
    { (total.inexact sum).addReal other.toReal with count := total.count + 1 }
  | other, none =>
    { total.addReal other.toReal with count := total.count + 1, overflown := false }

/-- The sum as a real. -/
def toReal (total : Total) : Float :=
  match total.exact with
  | some n => Float.ofInt n
  | none => if Decimal.isFinite total.lost then total.sum + total.lost else total.sum

/-- The sum; no value if nothing was added. -/
def result (total : Total) : Except Fault Value :=
  if total.count = 0 then .ok .null
  else
    match total.exact with
    | some n => .ok (Value.ofInt n)
    | none => if total.overflown then .error .integerOverflow else .ok (Value.ofReal total.toReal)

/-- The average; no value if nothing was added. -/
def average (total : Total) : Value :=
  if total.count = 0 then .null else Value.ofReal (total.toReal / Float.ofNat total.count)

end Total

/-! ### Groups -/

/-- The first of the values that none is beyond, missing ones apart. -/
def extreme (beyond : Ordering) : List Value → Value :=
  List.foldl (fun best value =>
    match value, best with
    | .null, best => best
    | value, .null => value
    | value, best => if value.compareTo best == beyond then value else best) .null

/-- The value of a function of groups for the values of a group. -/
def Aggregate.value (values : List Value) : Aggregate → Except Fault Value
  | .count => .ok (.integer (Int64.ofNat (values.filter fun v => !Value.missing v v).length))
  | .sum => (values.foldl Total.add {}).result
  | .average => .ok (values.foldl Total.add {}).average
  | .least => .ok (extreme .lt values)
  | .greatest => .ok (extreme .gt values)

/-! ### Expressions -/

/-- A row of joined tables: of each table a row of its own, or none where nothing was joined. -/
abbrev Row := List (Option (List Value))

/-- The value in a column. -/
def Row.value (row : Row) (table column : Nat) : Value :=
  match row[table]? with
  | some (some values) => values[column]?.getD .null
  | _ => .null

/-- The value of an operator for two values, which are compared as their affinities say. -/
def Operator.value (op : Operator) (a b : Option Affinity) (x y : Value) : Value :=
  let (left, right) := Value.aligned a b x y
  let compared (accepted : Ordering → Bool) : Value :=
    .ofTruth? (Value.compare? accepted left right)
  match op with
  | .or => .ofTruth? (Value.or? x.truth? y.truth?)
  | .and => .ofTruth? (Value.and? x.truth? y.truth?)
  | .eq => compared (· == .eq)
  | .ne => compared (· != .eq)
  | .lt => compared (· == .lt)
  | .le => compared (· != .gt)
  | .gt => compared (· == .gt)
  | .ge => compared (· != .lt)
  | .same => .ofTruth? (some (left.compareTo right == .eq))
  | .differs => .ofTruth? (some (left.compareTo right != .eq))
  | .add => .arithmetic (fun a b => some (a + b)) (fun a b => .ofReal (a + b)) x y
  | .subtract => .arithmetic (fun a b => some (a - b)) (fun a b => .ofReal (a - b)) x y
  | .multiply => .arithmetic (fun a b => some (a * b)) (fun a b => .ofReal (a * b)) x y
  | .divide =>
    .arithmetic (fun a b => if b = 0 then none else some (a.tdiv b))
      (fun a b => if b == 0 then .null else .ofReal (a / b)) x y
  | .remainder =>
    .arithmetic (fun a b => if b = 0 then none else some (a.tmod b))
      (fun a b =>
        let divisor := b.toInt64.toInt
        if divisor = 0 then .null else .real (Float.ofInt (a.toInt64.toInt.tmod divisor))) x y
  | .concatenate =>
    match x.toText?, y.toText? with
    | some s, some t => .text (s ++ t)
    | _, _ => .null

/-- Whether a value is one of several, as the affinity of its expression says. -/
def memberOf (affinity : Option Affinity) (x : Value) (items : List Value) : Option Bool :=
  let held (v : Value) : Value :=
    match affinity with
    | some .real => Affinity.numeric.store v
    | some kind => kind.store v
    | none => v
  items.foldl (fun found item => Value.or? found (Value.compare? (· == .eq) (held x) (held item)))
    (some false)

/-- What an expression is evaluated for. -/
structure Frame where
  /-- The tables. -/
  scope : Scope
  /-- The row. -/
  row : Row
  /-- The rows of its group, if there are groups. -/
  group : List Row := []

mutual

/-- The value of an expression. -/
def Expr.value? (frame : Frame) : Expr → Except Fault Value
  | .value v => .ok v
  | .whole size => .ok (Value.ofInt size)
  | .column _ => .ok .null
  | .place table column => .ok (frame.row.value table column)
  | .negate (.whole size) => .ok (Value.ofInt (-(size : Int)))
  | .negate (.value (.real x)) => .ok (.real (-x))
  | .negate e => return (← e.value? frame).negated
  | .not e => return .ofTruth? ((← e.value? frame).truth?.map Bool.not)
  | .isNull e => do
    let v ← e.value? frame
    return .ofTruth? (some (Value.missing v v))
  | .binary l op r => do
    let x ← l.value? frame
    let y ← r.value? frame
    return op.value (frame.scope.affinity? l) (frame.scope.affinity? r) x y
  | .like e pattern => do
    let text ← e.value? frame
    let p ← pattern.value? frame
    match text.toText?, p.toText? with
    | some t, some p => return .ofTruth? (some (Value.matches? p.toList t.toList))
    | _, _ => return .null
  | .between e low high => do
    let x ← e.value? frame
    let affinity := frame.scope.affinity? e
    let least := Operator.ge.value affinity (frame.scope.affinity? low) x (← low.value? frame)
    let most := Operator.le.value affinity (frame.scope.affinity? high) x (← high.value? frame)
    return .ofTruth? (Value.and? least.truth? most.truth?)
  | .oneOf e items => do
    let x ← e.value? frame
    let values ← valuesOf frame items
    return .ofTruth? (memberOf (frame.scope.affinity? e) x values)
  | .call name arguments _ =>
    match arguments, Aggregate.ofName? name with
    | _, none => .ok .null
    | [], some _ => .ok (.integer (Int64.ofNat frame.group.length))
    | e :: _, some function => do
      let values ← frame.group.mapM fun row => e.value? { frame with row := row, group := [] }
      function.value values

/-- The values of expressions. -/
def valuesOf (frame : Frame) : List Expr → Except Fault (List Value)
  | [] => .ok []
  | e :: rest => do
    let v ← e.value? frame
    return v :: (← valuesOf frame rest)

end

/-- Whether a condition is true of a row. -/
def holds (scope : Scope) (condition : Option Expr) (row : Row) : Except Fault Bool :=
  match condition with
  | none => .ok true
  | some e => return (← e.value? { scope := scope, row := row }).truth? == some true

end ReportDesk.Embedded
