/-! # Why the embedded database refuses a statement -/

namespace ReportDesk.Embedded

/-- What is wrong with a statement. -/
inductive Fault where
  /-- It ends too soon. -/
  | incomplete
  /-- A lexeme is not expected where it stands. -/
  | misplaced (lexeme : String)
  /-- A piece of it is no lexeme. -/
  | unrecognized (piece : String)
  /-- There is no table of a name. -/
  | noTable (name : String)
  /-- There is no column of a name. -/
  | noColumn (name : String)
  /-- Several tables have a column of a name. -/
  | ambiguous (name : String)
  /-- There is no function of a name. -/
  | noFunction (name : String)
  /-- A function has too few or too many arguments. -/
  | wrongArguments (name : String)
  /-- A function of groups stands in a selection without groups, or inside another one. -/
  | misusedFunction (name : String)
  /-- A function of groups stands where rows are chosen for the groups. -/
  | misusedAggregate (name : String)
  /-- Rows are grouped by a function of groups. -/
  | aggregateInGrouping
  /-- A star stands for the columns of no table. -/
  | noSource
  /-- A sort key or a group names a column of the result by a number that is too great. -/
  | outOfRange (position : Nat) (clause : String) (size : Nat)
  /-- The condition of a join refers to a table further right. -/
  | joinRefersRight
  /-- A number of rows is none. -/
  | datatypeMismatch
  /-- A sum is too great. -/
  | integerOverflow
  /-- It gives a value to a column that its table does not have. -/
  | noColumnIn (table column : String)
  /-- It gives a table's columns too few or too many values. -/
  | wrongWidth (table : String) (columns values : Nat)
  /-- It gives the columns that it names too few or too many values. -/
  | wrongCount (values columns : Nat)
  /-- It would change the rows of a view. -/
  | isView (name : String)
  /-- It would make a table or view under a name that is taken. -/
  | isTaken (name : String) (byView : Bool)
  /-- It would change the database. -/
  | readOnly
  /-- It has places for values that are not given. -/
  | placeholders (count : Nat)
  /-- There is nothing to run. -/
  | nothing
  deriving DecidableEq, Repr

/-- A position in words. -/
def ordinal (n : Nat) : String :=
  let ending :=
    if n % 100 / 10 = 1 then "th"
    else
      match n % 10 with
      | 1 => "st"
      | 2 => "nd"
      | 3 => "rd"
      | _ => "th"
  toString n ++ ending

/-- A fault in words. -/
def Fault.message : Fault → String
  | .incomplete => "incomplete input"
  | .misplaced lexeme => "near \"" ++ lexeme ++ "\": syntax error"
  | .unrecognized piece => "unrecognized token: \"" ++ piece ++ "\""
  | .noTable name => "no such table: " ++ name
  | .noColumn name => "no such column: " ++ name
  | .ambiguous name => "ambiguous column name: " ++ name
  | .noFunction name => "no such function: " ++ name
  | .wrongArguments name => "wrong number of arguments to function " ++ name ++ "()"
  | .misusedAggregate name => "misuse of aggregate: " ++ name ++ "()"
  | .misusedFunction name => "misuse of aggregate function " ++ name ++ "()"
  | .aggregateInGrouping => "aggregate functions are not allowed in the GROUP BY clause"
  | .noSource => "no tables specified"
  | .outOfRange position clause size =>
    ordinal position ++ " " ++ clause ++ " BY term out of range - should be between 1 and " ++
      toString size
  | .joinRefersRight => "ON clause references tables to its right"
  | .datatypeMismatch => "datatype mismatch"
  | .integerOverflow => "integer overflow"
  | .noColumnIn table column => "table " ++ table ++ " has no column named " ++ column
  | .wrongWidth table columns values =>
    "table " ++ table ++ " has " ++ toString columns ++ " columns but " ++ toString values ++
      " values were supplied"
  | .wrongCount values columns =>
    toString values ++ " values for " ++ toString columns ++ " columns"
  | .isView name => "cannot modify " ++ name ++ " because it is a view"
  | .isTaken name byView => (if byView then "view " else "table ") ++ name ++ " already exists"
  | .readOnly => "attempt to write a readonly database"
  | .placeholders count =>
    "Wrong number of parameters passed to query. Got 0, needed " ++ toString count
  | .nothing => "not an error"

end ReportDesk.Embedded
