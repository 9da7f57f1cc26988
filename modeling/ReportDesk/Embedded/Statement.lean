import ReportDesk.Embedded.Value

/-! # Statements of the embedded database

    What the database understands: selections from joined tables, with conditions, groups and an
    order. Of statements that would change the database it is enough to know what they are aimed
    at, for it is open for reading only.
-/

namespace ReportDesk.Embedded

/-! ### Expressions -/

/-- A column by name. -/
structure ColumnName where
  /-- The schema of its table, when one is given. -/
  schema : Option String := none
  /-- Its table or the table's alias, when one is given. -/
  table : Option String := none
  /-- Its own name. -/
  column : String
  /-- Whether the name stood in double quotes. -/
  doubtful : Bool := false
  deriving DecidableEq, Repr

/-- An operator between two operands. -/
inductive Operator where
  | or | and
  | eq | ne | lt | le | gt | ge
  /-- Equality under which two missing values are equal. -/
  | same
  /-- Its negation. -/
  | differs
  | add | subtract | multiply | divide | remainder | concatenate
  deriving DecidableEq, Repr

/-- An expression. -/
inductive Expr where
  | value (value : Value)
  /-- A whole number in digits, as great as it may be. -/
  | whole (size : Nat)
  | column (name : ColumnName)
  /-- A column by the place of its table and its own, after its name was looked up. -/
  | place (table column : Nat)
  | negate (e : Expr)
  | not (e : Expr)
  | binary (left : Expr) (op : Operator) (right : Expr)
  | isNull (e : Expr)
  | between (e low high : Expr)
  | oneOf (e : Expr) (items : List Expr)
  | like (e pattern : Expr)
  /-- A function, with a star for its arguments perhaps. -/
  | call (name : String) (arguments : List Expr) (star : Bool)
  deriving Inhabited

/-! ### Selections -/

/-- An item of a selection. -/
inductive Item where
  /-- All columns of all tables. -/
  | all
  /-- All columns of a table. -/
  | allOf (table : String)
  /-- An expression, with its text as it was written, and with an alias perhaps. -/
  | expr (e : Expr) (written : String) (asName : Option String)

/-- A table to select from. -/
structure Source where
  /-- Its schema, when one is given. -/
  schema : Option String := none
  /-- Its name. -/
  name : String
  /-- Its alias. -/
  asName : Option String := none

/-- How a table is joined to those before it. -/
inductive JoinKind where
  | inner | left | right | full
  deriving DecidableEq, Repr

/-- A further table. -/
structure Joined where
  /-- How it is joined. -/
  kind : JoinKind
  /-- The table. -/
  source : Source
  /-- The condition under which rows go together. -/
  condition : Option Expr := none

/-- A sort key. -/
structure SortKey where
  /-- What is compared. -/
  e : Expr
  /-- Whether the greater comes first. -/
  descending : Bool := false

/-- A selection. -/
structure Selection where
  /-- Whether rows that were there before are left out. -/
  distinct : Bool := false
  /-- What is selected. -/
  items : List Item
  /-- The first table, if there is any. -/
  source : Option Source := none
  /-- The further tables. -/
  joined : List Joined := []
  /-- The condition for rows. -/
  condition : Option Expr := none
  /-- What rows are grouped by. -/
  grouping : List Expr := []
  /-- The sort keys. -/
  ordering : List SortKey := []
  /-- The greatest number of rows. -/
  limit : Option Expr := none
  /-- How many rows are passed over. -/
  offset : Option Expr := none

/-! ### Statements -/

/-- How a table or view is to be changed. -/
inductive Change where
  /-- Rows are taken out. -/
  | delete (condition : Option Expr)
  /-- Columns get values. -/
  | update (assignments : List (String × Expr)) (condition : Option Expr)
  /-- Rows of values are added, to the named columns or to all. -/
  | insert (columns : List String) (rows : List (List Expr))
  /-- The rows of a selection are added, to the named columns or to all. -/
  | insertFrom (columns : List String) (selection : Selection)
  /-- It gets another shape, or goes. -/
  | reshape

/-- A statement. -/
inductive Statement where
  /-- Nothing but blanks. -/
  | empty
  | select (selection : Selection)
  /-- A statement with a table that is defined through itself. Its rows do not end. -/
  | endless
  /-- A change to a table or view, which has to be there or else is left alone. -/
  | change (target : Source) (required : Bool) (change : Change)
  /-- A statement that makes a table or view of a name, or leaves one alone that is there. -/
  | make (name : String) (ifMissing : Bool)
  /-- A statement that makes something else. -/
  | create

end ReportDesk.Embedded
