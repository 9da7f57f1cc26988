import ReportDesk.Embedded.Evaluation

/-! # The order of visits

    Where nothing else orders the results, they come in the order in which rows are visited: one
    table is gone through, and for each of its rows those rows of the next table that go with it. Of
    two tables the one whose rows are harder to find is gone through first. Rows that are found
    through an index made for the purpose come in the order of that index, which holds all columns
    that are used of the table.
-/

namespace ReportDesk.Embedded

/-! ### Orders -/

/-- The order of two lists of values: at the first difference. -/
def compareAll : List Value → List Value → Ordering
  | x :: xs, y :: ys => (x.compareTo y).then (compareAll xs ys)
  | _, _ => .eq

/-- The order of two lists of values, each up or down. -/
def compareDirected : List (Bool × Value × Value) → Ordering
  | [] => .eq
  | (descending, x, y) :: rest =>
    let here := x.compareTo y
    (if descending then here.swap else here).then (compareDirected rest)

/-- The order of two lists of values for sort keys. -/
def compareKeys (keys : List SortKey) (xs ys : List Value) : Ordering :=
  compareDirected ((keys.map (·.descending)).zip (xs.zip ys))

/-! ### Columns in expressions -/

mutual

/-- The columns in an expression: tables and columns by place. -/
def Expr.columns : Expr → List (Nat × Nat)
  | .value _ | .whole _ | .column _ => []
  | .place table column => [(table, column)]
  | .negate e | .not e | .isNull e => e.columns
  | .binary l _ r | .like l r => l.columns ++ r.columns
  | .between e low high => e.columns ++ low.columns ++ high.columns
  | .oneOf e items => e.columns ++ columnsIn items
  | .call _ arguments _ => columnsIn arguments

/-- The columns in expressions. -/
def columnsIn : List Expr → List (Nat × Nat)
  | [] => []
  | e :: rest => e.columns ++ columnsIn rest

end

/-- Whether an expression has a column of a table in it. -/
def Expr.isAbout (e : Expr) (table : Nat) : Bool :=
  e.columns.any fun (other, _) => other = table

/-- The terms that have to be true for a condition to be true. -/
def Expr.terms : Expr → List Expr
  | .binary left .and right => left.terms ++ right.terms
  | e => [e]

/-- The column of a table that a term says is equal to something else, and that. -/
def Expr.equated? (table : Nat) : Expr → Option (Nat × Expr)
  | .binary l .eq r =>
    let side (column other : Expr) : Option (Nat × Expr) :=
      match column with
      | .place i c => if i = table && !other.isAbout table then some (c, other) else none
      | _ => none
    side l r <|> side r l
  | _ => none

/-- Whether a column is its table's key. -/
def Scope.isKey (scope : Scope) (table column : Nat) : Bool :=
  (scope.declaration? table column).any Declaration.isKey

/-! ### Finding rows -/

/-- How the rows of a table are found that go with a row of the tables before. -/
inductive Access where
  /-- By looking at all of them. -/
  | scan
  /-- Through an index on some columns. -/
  | index (columns : List Nat)
  /-- By the key. -/
  | key
  deriving DecidableEq, Repr

/-- How good an access is. -/
def Access.rank : Access → Nat
  | .scan => 0
  | .index _ => 1
  | .key => 2

/-- Whether an index on a column serves to find what is equal to an expression: a number that is
    compared to a text column is not found in the order of texts. -/
def Scope.isIndexable (scope : Scope) (table column : Nat) (e : Expr) : Bool :=
  let own := scope.affinity? (.place table column)
  (scope.affinity? e).all fun other => !other.isNumeric || own.any Affinity.isNumeric

/-- The best access to a table that terms allow when `before` are the tables before it. -/
def Scope.access (scope : Scope) (terms : List Expr) (table : Nat) (before : List Nat) : Access :=
  let equated := (terms.filterMap (Expr.equated? table)).filter fun (_, e) =>
    e.columns.all fun (other, _) => before.contains other
  if equated.any fun (column, _) => scope.isKey table column then .key
  else
    match equated.filter fun (column, e) => scope.isIndexable table column e with
    | [] => .scan
    | found => .index (found.map (·.1))

/-- Whether an expression is a number near zero, which many rows are thought to have. -/
def Expr.isSmall : Expr → Bool
  | .value (.integer n) => n.toInt.natAbs ≤ 1
  | .whole n | .negate (.whole n) => n ≤ 1
  | _ => false

/-- How much terms about a table alone are thought to leave out of it: a little each, and more if a
    column is compared to a constant that is not near zero. -/
def selectivity (terms : List Expr) (table : Nat) : Nat :=
  let own := terms.filter fun e =>
    !e.columns.isEmpty && e.columns.all fun (other, _) => other = table
  let weights := own.filterMap fun term =>
    (term.equated? table).map fun (_, e) => if e.isSmall then 10 else 20
  weights.foldl max own.length

/-- How much what is left out of a table counts beside the making of an index, by degrees. -/
def degree (selectivity : Nat) : Nat :=
  if selectivity = 0 then 0 else if selectivity ≤ 6 then 1 else if selectivity ≤ 13 then 2 else 3

/-- Whether an expression is missing when a table has no row. -/
def Expr.needsRow (table : Nat) : Expr → Bool
  | .place i _ => i = table
  | .negate e | .not e => e.needsRow table
  | .binary l .and r | .binary l .or r => l.needsRow table && r.needsRow table
  | .binary _ .same _ | .binary _ .differs _ => false
  | .binary l _ r => l.needsRow table || r.needsRow table
  | .between e low high => e.needsRow table || (low.needsRow table && high.needsRow table)
  | .oneOf e _ => e.needsRow table
  | _ => false

/-- Whether a term is only true when a table has a row. -/
def Expr.requiresRow (table : Nat) : Expr → Bool
  | .not (.isNull e) => e.needsRow table
  | e => e.needsRow table

/-! ### Plans -/

/-- The terms of a join's condition. -/
def ResolvedJoin.terms (join : ResolvedJoin) : List Expr :=
  join.condition.toList.flatMap Expr.terms

namespace Resolved

/-- The terms of the condition for rows. -/
def terms (r : Resolved) : List Expr :=
  r.condition.toList.flatMap Expr.terms

/-- All expressions of a selection. -/
def expressions (r : Resolved) : List Expr :=
  r.outputs.map (·.e) ++ r.condition.toList ++ r.joins.filterMap (·.condition) ++ r.grouping ++
    r.ordering.map (·.e)

/-- The columns that are used of a table, other than its key. -/
def columnsUsed (r : Resolved) (table : Nat) : List Nat :=
  let used := columnsIn r.expressions
  let width := (r.scope[table]?.map (·.relation.columns.length)).getD 0
  (List.range width).filter fun column =>
    used.contains (table, column) && !r.scope.isKey table column

/-- The rows of a table as they are found by an access. -/
def found (r : Resolved) (table : Nat) (access : Access) : List (List Value) :=
  let rows := (r.scope[table]?.map (·.relation.rows)).getD []
  match access with
  | .index columns =>
    let others := (r.columnsUsed table).filter fun column => !columns.contains column
    let entry (row : List Value) : List Value := others.map fun column => row[column]?.getD .null
    rows.mergeSort fun a b => compareAll (entry a) (entry b) != .gt
  | _ => rows

/-- Whether terms leave at most one row of a table. -/
def isSingle (r : Resolved) (terms : List Expr) (table : Nat) : Bool :=
  (terms.filterMap (Expr.equated? table)).any fun (column, e) =>
    r.scope.isKey table column && e.columns.isEmpty

/-- The table of a key. -/
def keyTable? (r : Resolved) : Expr → Option Nat
  | .place table column => if r.scope.isKey table column then some table else none
  | _ => none

/-- The table by whose key the results are grouped, or else sorted first. -/
def leadingTable? (r : Resolved) : Option Nat :=
  match r.grouping with
  | [] => (r.ordering.head?.map (·.e)).bind r.keyTable?
  | grouping => grouping.findSome? r.keyTable?

/-- How two tables are visited. -/
structure Visit where
  /-- Whether the second is gone through first. -/
  secondFirst : Bool := false
  /-- How the rows of the other one are found. -/
  access : Access := .scan

/-- How the two tables of a join are visited. A left join whose condition for rows leaves out what
    has no row on the right is like an inner join. -/
def visit (r : Resolved) (join : ResolvedJoin) : Visit :=
  let isInner := join.kind == .inner || (join.kind == .left && r.terms.any (Expr.requiresRow 1))
  if isInner then
    let terms := join.terms ++ r.terms
    if r.isSingle terms 0 || r.isSingle terms 1 then {}
    else
      let first := r.scope.access terms 0 [1]
      let second := r.scope.access terms 1 [0]
      let secondFirst :=
        if first.rank = second.rank then
          match r.leadingTable? with
          | some table => table == 1
          | none =>
            let (a, b) := (selectivity terms 0, selectivity terms 1)
            if first = .scan then decide (a < b) else decide (degree a < degree b)
        else decide (second.rank < first.rank)
      { secondFirst := secondFirst, access := if secondFirst then first else second }
  else if join.kind == .left && !r.isSingle r.terms 0 then
    { access := r.scope.access join.terms 1 [0] }
  else {}

/-- How the rows of a table are found that is joined to those before it. -/
def accessTo (r : Resolved) (join : ResolvedJoin) (table : Nat) : Access :=
  let before := List.range table
  match join.kind with
  | .inner => r.scope.access (join.terms ++ r.terms) table before
  | .left => r.scope.access join.terms table before
  | .right | .full => .scan

/-- The table that is gone through first, and all tables of which no more than one row goes with one
    of its rows. -/
def leader (r : Resolved) : Nat × List Nat :=
  match r.scope, r.joins with
  | [_, _], [join] =>
    let visit := r.visit join
    let (first, other) := if visit.secondFirst then (1, 0) else (0, 1)
    (first, if visit.access = .key then [first, other] else [first])
  | _, _ => (0, [0])

/-- What groups are sorted by. Where a key of the table that is gone through first sets the groups
    apart, they come in its order. Otherwise as many sort keys as there are terms to group by give
    these their directions. -/
def groupKeys (r : Resolved) : List SortKey :=
  let (first, settled) := r.leader
  let isSettled (e : Expr) : Bool := e.columns.all fun (table, _) => settled.contains table
  let directions := r.ordering.map (·.descending)
  match r.grouping.find? fun e => r.keyTable? e == some first && r.grouping.all isSettled with
  | some key => [{ e := key }]
  | none =>
    if directions.length = r.grouping.length then
      List.zipWith (fun e descending => { e := e, descending := descending }) r.grouping directions
    else r.grouping.map fun e => { e := e }

end Resolved

end ReportDesk.Embedded
