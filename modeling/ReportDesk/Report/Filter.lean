import ReportDesk.Report.Configuration

/-! # Filters as predicates

    What a filter means in SQL. Values of string columns are quoted, those of other columns written
    as they are; a strict report writes only numbers as they are.
-/

namespace ReportDesk.Report

open Sql (Expr TableName)

/-! ### Operators -/

/-- The comparisons a filter can make. -/
inductive Operator where
  | equals | notEquals | contains | startsWith | endsWith
  | greaterThan | greaterThanOrEqual | lessThan | lessThanOrEqual
  | isNull | isNotNull | oneOf | between
  deriving DecidableEq, Repr

namespace Operator

/-- The name an operator goes by. -/
def name : Operator → String
  | .equals => "EQUALS"
  | .notEquals => "NOT_EQUALS"
  | .contains => "CONTAINS"
  | .startsWith => "STARTS_WITH"
  | .endsWith => "ENDS_WITH"
  | .greaterThan => "GREATER_THAN"
  | .greaterThanOrEqual => "GREATER_THAN_OR_EQUAL"
  | .lessThan => "LESS_THAN"
  | .lessThanOrEqual => "LESS_THAN_OR_EQUAL"
  | .isNull => "IS_NULL"
  | .isNotNull => "IS_NOT_NULL"
  | .oneOf => "IN"
  | .between => "BETWEEN"

/-- The names and signs of the operators. -/
def spellings : List (String × Operator) :=
  [("EQUALS", .equals), ("=", .equals), ("NOT_EQUALS", .notEquals), ("!=", .notEquals),
   ("<>", .notEquals), ("CONTAINS", .contains), ("LIKE", .contains), ("STARTS_WITH", .startsWith),
   ("ENDS_WITH", .endsWith), ("GREATER_THAN", .greaterThan), (">", .greaterThan),
   ("GREATER_THAN_OR_EQUAL", .greaterThanOrEqual), (">=", .greaterThanOrEqual),
   ("LESS_THAN", .lessThan), ("<", .lessThan), ("LESS_THAN_OR_EQUAL", .lessThanOrEqual),
   ("<=", .lessThanOrEqual), ("IS_NULL", .isNull), ("IS_NOT_NULL", .isNotNull), ("IN", .oneOf),
   ("BETWEEN", .between)]

/-- Reads a name or sign, ignoring blanks around it and ASCII case. -/
def parse? (text : String) : Option Operator :=
  spellings.lookup (Text.asciiUpper (Text.trim text))

/-- Whether an operator compares with a value. -/
def needsValue : Operator → Bool
  | .isNull | .isNotNull => false
  | _ => true

end Operator

/-! ### Values -/

/-- Whether a text is a decimal number: a sign perhaps, digits, and perhaps a point with digits. -/
def isNumeral (cs : List Char) : Bool :=
  let body :=
    match cs with
    | '-' :: rest => rest
    | _ => cs
  match body.dropWhile Char.isDigit with
  | [] => !body.isEmpty
  | '.' :: fraction => body.head? != some '.' && !fraction.isEmpty && fraction.all Char.isDigit
  | _ => false

/-- Why a filter has no predicate. -/
inductive FilterError where
  /-- The operator compares with a value and there is none. -/
  | missingValue (column : String) (operator : Operator)
  /-- Two values separated by a bar are needed. -/
  | malformedBetween (column value : String)
  /-- The operator is not known. -/
  | unknownOperator (text : String)
  /-- A strict report would write something other than a number as it is. -/
  | notNumeric (column value : String)
  deriving DecidableEq, Repr

/-- An error in words. -/
def FilterError.message : FilterError → String
  | .missingValue column op =>
    "filter on column '" ++ column ++ "' with operator " ++ op.name ++ " requires a value"
  | .malformedBetween column value =>
    "BETWEEN filter on column '" ++ column ++ "' needs two values separated by '|', got '" ++
      value ++ "'"
  | .unknownOperator text => "unknown filter operator '" ++ text ++ "'"
  | .notNumeric column value =>
    "filter value '" ++ value ++ "' for column '" ++ column ++ "' is not a numeric literal"

/-- Whether a type of this name holds strings. -/
def isStringType (declaredType : String) : Bool :=
  let name := (Text.asciiUpper declaredType).toList
  Text.occursIn "CHAR".toList name || Text.occursIn "TEXT".toList name

namespace Filter

/-! ### Predicates -/

/-- The filtered column. -/
def subject (filter : Filter) : Expr :=
  .column (some (TableName.parse filter.table)) filter.column

/-- A value as it is. A strict report accepts only a number. -/
def verbatim (filter : Filter) (strict : Bool) (value : String) : Except FilterError Expr :=
  if strict && !isNumeral value.toList then .error (.notNumeric filter.column value)
  else .ok (.verbatim value)

/-- A value as the column's type wants it: quoted for a string, else as it is. -/
def literal (filter : Filter) (strict : Bool) (value : String) : Except FilterError Expr :=
  if isStringType filter.declaredType then .ok (.string value) else filter.verbatim strict value

/-- The literals of several values, or the error of the first that has none. -/
def literals (filter : Filter) (strict : Bool) : List String → Except FilterError (List Expr)
  | [] => .ok []
  | value :: rest => do
    let first ← filter.literal strict value
    return first :: (← filter.literals strict rest)

/-- The pieces of a value between commas or bars, without blanks around them. -/
def trimmedPieces (separator : Char) (value : String) : List String :=
  (Text.pieces separator value.toList).map fun piece => String.ofList (Text.trimBoth piece)

/-- The predicate of an operator that is given a value; null checks ignore it. -/
def compare (filter : Filter) (strict : Bool) (value : String) :
    Operator → Except FilterError Expr
  | .equals => (filter.literal strict value).map (.binary filter.subject .eq)
  | .notEquals => (filter.literal strict value).map (.binary filter.subject .ne)
  | .contains => .ok (.like filter.subject (.string ("%" ++ value ++ "%")))
  | .startsWith => .ok (.like filter.subject (.string (value ++ "%")))
  | .endsWith => .ok (.like filter.subject (.string ("%" ++ value)))
  | .greaterThan => (filter.verbatim strict value).map (.binary filter.subject .gt)
  | .greaterThanOrEqual => (filter.verbatim strict value).map (.binary filter.subject .ge)
  | .lessThan => (filter.verbatim strict value).map (.binary filter.subject .lt)
  | .lessThanOrEqual => (filter.verbatim strict value).map (.binary filter.subject .le)
  | .isNull => .ok (.isNull filter.subject false)
  | .isNotNull => .ok (.isNull filter.subject true)
  | .oneOf => (filter.literals strict (trimmedPieces ',' value)).map (.oneOf filter.subject)
  | .between =>
    match trimmedPieces '|' value with
    | [low, high] => do
      let low ← filter.literal strict low
      let high ← filter.literal strict high
      return .between filter.subject low high
    | _ => .error (.malformedBetween filter.column value)

/-- The predicate of a filter. -/
def predicate (filter : Filter) (strict : Bool) : Except FilterError Expr :=
  match Operator.parse? filter.operator with
  | none => .error (.unknownOperator filter.operator)
  | some op =>
    let value := filter.value.getD ""
    if value.isEmpty && op.needsValue then .error (.missingValue filter.column op)
    else filter.compare strict value op

end Filter

end ReportDesk.Report
