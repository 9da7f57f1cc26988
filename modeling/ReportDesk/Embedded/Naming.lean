import ReportDesk.Embedded.Fault
import ReportDesk.Embedded.Statement
import ReportDesk.Embedded.Store

/-! # What names stand for

    The names in a selection are looked up before any row is visited: tables first, then columns.
    A name that no table has can be that of a result, and in double quotes it can be a string. An
    expression whose names are looked up refers to columns by their places.
-/

namespace ReportDesk.Embedded

/-! ### Tables in scope -/

/-- A table as a selection sees it. -/
structure Seen where
  /-- The table. -/
  relation : Relation
  /-- The alias that it has in the selection. -/
  asName : Option String := none

/-- The name that a table goes by in a selection. -/
def Seen.name (seen : Seen) : String :=
  seen.asName.getD seen.relation.name

/-- The tables of a selection, in the order in which they are written. -/
abbrev Scope := List Seen

/-- The schema that all tables are in. -/
def schemaName : String := "main"

/-- A name after those that it is qualified with. -/
def dotted (parts : List (Option String)) (name : String) : String :=
  ".".intercalate (parts.filterMap id ++ [name])

/-- The table that a selection names. -/
def Store.see (store : Store) (source : Source) : Except Fault Seen :=
  let known := source.schema.all (Text.eqFolded schemaName)
  match store.find? source.name with
  | some relation =>
    if known then .ok { relation := relation, asName := source.asName }
    else .error (.noTable (dotted [source.schema] source.name))
  | none => .error (.noTable (dotted [source.schema] source.name))

namespace Scope

/-- The places of the columns that a name can stand for, tables being counted from `i`. -/
def places (name : ColumnName) (i : Nat) : Scope → List (Nat × Nat)
  | [] => []
  | seen :: rest =>
    let meant := name.schema.all (Text.eqFolded schemaName) &&
      name.table.all (Text.eqFolded seen.name)
    match seen.relation.columnIndex? name.column with
    | some column => if meant then (i, column) :: places name (i + 1) rest else places name (i + 1) rest
    | none => places name (i + 1) rest

/-- The declaration of a column by its place. -/
def declaration? (scope : Scope) (table column : Nat) : Option Declaration := do
  (← scope[table]?).relation.columns[column]?

/-- The affinity of an expression, if it is a column. -/
def affinity? (scope : Scope) : Expr → Option Affinity
  | .place table column => (scope.declaration? table column).map Declaration.affinity
  | _ => none

end Scope

/-- A column name as it is told. -/
def ColumnName.told (name : ColumnName) : String :=
  dotted [name.schema, name.table] name.column

/-! ### Functions of groups -/

/-- A function of the rows of a group. -/
inductive Aggregate where
  | count | sum | average | least | greatest
  deriving DecidableEq, Repr

/-- The function of a name. -/
def Aggregate.ofName? (name : String) : Option Aggregate :=
  match Text.asciiUpper name with
  | "COUNT" => some .count
  | "SUM" => some .sum
  | "AVG" => some .average
  | "MIN" => some .least
  | "MAX" => some .greatest
  | _ => none

mutual

/-- The names of the functions of groups in an expression. -/
def Expr.aggregates : Expr → List String
  | .value _ | .whole _ | .column _ | .place .. => []
  | .negate e | .not e | .isNull e => e.aggregates
  | .binary l _ r | .like l r => l.aggregates ++ r.aggregates
  | .between e low high => e.aggregates ++ low.aggregates ++ high.aggregates
  | .oneOf e items => e.aggregates ++ aggregatesIn items
  | .call name arguments _ =>
    (if (Aggregate.ofName? name).isSome then [name] else []) ++ aggregatesIn arguments

/-- The names of the functions of groups in expressions. -/
def aggregatesIn : List Expr → List String
  | [] => []
  | e :: rest => e.aggregates ++ aggregatesIn rest

end

/-! ### Looking up names -/

/-- What names can stand for. -/
structure Context where
  /-- The tables. -/
  scope : Scope
  /-- The results that have an alias. -/
  aliases : List (String × Expr) := []
  /-- Whether there are groups. -/
  grouped : Bool := true

namespace Context

/-- What a column name stands for. -/
def column (context : Context) (name : ColumnName) : Except Fault Expr :=
  match context.scope.places name 0 with
  | [(table, column)] => .ok (.place table column)
  | _ :: _ :: _ => .error (.ambiguous name.told)
  | [] =>
    if name.table.isSome then .error (.noColumn name.told)
    else
      match context.aliases.find? fun entry => Text.eqFolded entry.1 name.column with
      | some (_, e) => .ok e
      | none =>
        if name.doubtful then .ok (.value (.text name.column))
        else if Text.eqFolded name.column "true" then .ok (.value (.integer 1))
        else if Text.eqFolded name.column "false" then .ok (.value (.integer 0))
        else .error (.noColumn name.told)

mutual

/-- An expression with its names looked up. -/
def resolve (context : Context) : Expr → Except Fault Expr
  | .value v => .ok (.value v)
  | .whole size => .ok (.whole size)
  | .column name => context.column name
  | .place table column => .ok (.place table column)
  | .negate e => return .negate (← resolve context e)
  | .not e => return .not (← resolve context e)
  | .isNull e => return .isNull (← resolve context e)
  | .binary l op r => do
    let left ← resolve context l
    return .binary left op (← resolve context r)
  | .like e pattern => do
    let text ← resolve context e
    return .like text (← resolve context pattern)
  | .between e low high => do
    let middle ← resolve context e
    let least ← resolve context low
    return .between middle least (← resolve context high)
  | .oneOf e items => do
    let member ← resolve context e
    return .oneOf member (← resolveAll context items)
  | .call name arguments star => do
    let some function := Aggregate.ofName? name | .error (.noFunction name)
    if function ≠ .count && arguments.length ≠ 1 then .error (.wrongArguments name)
    if function = .count && arguments.length > 1 then .error (.wrongArguments name)
    if !context.grouped then .error (.misusedFunction name)
    return .call name (← resolveAll { context with grouped := false } arguments) star

/-- Expressions with their names looked up. -/
def resolveAll (context : Context) : List Expr → Except Fault (List Expr)
  | [] => .ok []
  | e :: rest => do
    let first ← resolve context e
    return first :: (← resolveAll context rest)

end

end Context

/-! ### Selections -/

/-- A result of a selection. -/
structure Output where
  /-- What it is. -/
  e : Expr
  /-- Its label. -/
  label : String
  /-- Its alias. -/
  asName : Option String := none

/-- A join whose names are looked up. -/
structure ResolvedJoin where
  /-- How the table is joined. -/
  kind : JoinKind
  /-- The condition. -/
  condition : Option Expr

/-- A selection whose names are looked up. -/
structure Resolved where
  /-- The tables. -/
  scope : Scope
  /-- How each table after the first is joined. -/
  joins : List ResolvedJoin
  /-- The results. -/
  outputs : List Output
  /-- The condition for rows. -/
  condition : Option Expr
  /-- Whether results are of groups. -/
  grouped : Bool
  /-- What rows are grouped by. -/
  grouping : List Expr
  /-- The sort keys. -/
  ordering : List SortKey
  /-- Whether repeated rows are left out. -/
  distinct : Bool
  /-- The greatest number of rows. -/
  limit : Option Expr
  /-- How many rows are passed over. -/
  offset : Option Expr

/-- The columns of the table number `i`, as results. -/
def columnsAsOutputs (i : Nat) (seen : Seen) : List Output :=
  seen.relation.columns.zipIdx.map fun (column, j) =>
    { e := .place i j, label := column.name }

/-- The results that an item of a selection stands for, their names being looked up later. -/
def Scope.expand (scope : Scope) : Item → Except Fault (List Output)
  | .all =>
    if scope.isEmpty then .error .noSource
    else .ok (scope.zipIdx.flatMap fun (seen, i) => columnsAsOutputs i seen)
  | .allOf table =>
    match scope.zipIdx.filter fun (seen, _) => Text.eqFolded seen.name table with
    | [] => .error (.noTable table)
    | found => .ok (found.flatMap fun (seen, i) => columnsAsOutputs i seen)
  | .expr e written asName => .ok [{ e := e, label := written, asName := asName }]

/-- A result with its names looked up. Its label is its alias, or else the name of its column, or
    else its text. -/
def Context.output (context : Context) (output : Output) : Except Fault Output := do
  let e ← context.resolve output.e
  let label :=
    match output.asName, e with
    | some asName, _ => asName
    | none, .place table column =>
      ((context.scope.declaration? table column).map (·.name)).getD output.label
    | none, _ => output.label
  return { output with e := e, label := label }

/-- What the term number `i` to sort or group by stands for: the result at a position, the result of
    an alias, or an expression. Only a sort key looks at aliases before columns. -/
def Context.term (context : Context) (outputs : List Output) (clause : String) (e : Expr)
    (i : Nat) : Except Fault Expr :=
  let aliased? : Option Expr :=
    match e with
    | .column { schema := none, table := none, column := name, .. } =>
      if clause = "ORDER" then
        (outputs.find? fun o => o.asName.any (Text.eqFolded name)).map (·.e)
      else none
    | _ => none
  match aliased?, e with
  | some found, _ => .ok found
  | none, .whole position =>
    match if position = 0 then none else outputs[position - 1]? with
    | some output => .ok output.e
    | none => .error (.outOfRange (i + 1) clause outputs.length)
  | none, e => context.resolve e

/-- The condition of a join with its names looked up. -/
def Context.join (context : Context) (joined : Joined) : Except Fault ResolvedJoin := do
  match joined.condition with
  | none => return { kind := joined.kind, condition := none }
  | some e => return { kind := joined.kind, condition := some (← context.resolve e) }

/-- Refuses functions of groups in expressions for single rows. -/
def refuseAggregates (expressions : List Expr) : Except Fault Unit :=
  match aggregatesIn expressions with
  | name :: _ => .error (.misusedAggregate name)
  | [] => .ok ()

mutual

/-- How many of the tables, from the first on, an expression needs. -/
def Expr.reach : Expr → Nat
  | .value _ | .whole _ | .column _ => 0
  | .place table _ => table + 1
  | .negate e | .not e | .isNull e => e.reach
  | .binary l _ r | .like l r => max l.reach r.reach
  | .between e low high => max e.reach (max low.reach high.reach)
  | .oneOf e items => max e.reach (reachOf items)
  | .call _ arguments _ => reachOf arguments

/-- How many of the tables expressions need. -/
def reachOf : List Expr → Nat
  | [] => 0
  | e :: rest => max e.reach (reachOf rest)

end

/-- Refuses the condition of an outer join that refers to a table further right, `size` being the
    number of tables up to the joined one. -/
def refuseReach (size : Nat) : List ResolvedJoin → Except Fault Unit
  | [] => .ok ()
  | join :: rest =>
    if join.kind ≠ .inner && size < (join.condition.map Expr.reach).getD 0 then
      .error .joinRefersRight
    else refuseReach (size + 1) rest

/-- A selection with all its names looked up, in this order: tables, results, the condition, the
    conditions of joins, sort keys and groups. -/
def Selection.resolve (selection : Selection) (store : Store) : Except Fault Resolved := do
  let sources := selection.source.toList ++ selection.joined.map (·.source)
  let scope : Scope ← sources.mapM store.see
  let expanded ← selection.items.mapM scope.expand
  let context : Context := { scope := scope }
  let outputs ← expanded.flatten.mapM context.output
  let grouped := !selection.grouping.isEmpty || !(aggregatesIn (outputs.map (·.e))).isEmpty
  let aliases := outputs.filterMap fun o => o.asName.map fun asName => (asName, o.e)
  let context := { context with aliases := aliases, grouped := grouped }
  let condition ← selection.condition.mapM context.resolve
  let joins ← selection.joined.mapM context.join
  let ordering ← selection.ordering.zipIdx.mapM fun (key, i) => do
    let e ← { context with grouped := true : Context }.term outputs "ORDER" key.e i
    return { key with e := e }
  let grouping ← selection.grouping.zipIdx.mapM fun (e, i) => context.term outputs "GROUP" e i
  unless (aggregatesIn grouping).isEmpty do .error .aggregateInGrouping
  unless grouped do refuseAggregates (ordering.map (·.e))
  refuseAggregates condition.toList
  joins.forM fun join => refuseAggregates join.condition.toList
  refuseReach 2 joins
  return {
    scope := scope, joins := joins, outputs := outputs, condition := condition
    grouped := grouped, grouping := grouping, ordering := ordering
    distinct := selection.distinct, limit := selection.limit, offset := selection.offset }

end ReportDesk.Embedded
