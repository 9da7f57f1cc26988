import ReportDesk.Embedded.Evaluation
import ReportDesk.Embedded.Visiting

/-! # What selections give

    A selection joins the rows of its tables, keeps those its condition is true of, puts them into
    groups perhaps, and gives a row of results for each. Groups come in the order of what they are
    grouped by, sort keys keep the order of equal rows, and a limit takes from the front.
-/

namespace ReportDesk.Embedded

/-! ### Joins -/

/-- Joins the rows of a table to rows. Rows of the left side that nothing goes with are kept by a
    left join, those of the table by a right join, which follow all others; a full join keeps
    both. `width` is the number of tables on the left side. -/
def joinRows (scope : Scope) (join : ResolvedJoin) (width : Nat) (left right : List Row) :
    Except Fault (List Row) := do
  let pairs ← left.mapM fun row =>
    right.filterM fun other => holds scope join.condition (row ++ other)
  let matched := List.zipWith (fun row others =>
    if others.isEmpty && (join.kind == .left || join.kind == .full) then [row ++ [none]]
    else others.map (row ++ ·)) left pairs
  if join.kind == .right || join.kind == .full then
    let alone ← right.filterM fun other => do
      let some ← left.anyM fun row => holds scope join.condition (row ++ other)
      return !some
    return matched.flatten ++ alone.map (List.replicate width none ++ ·)
  else return matched.flatten

/-- A join without a condition that needs tables further right, and such a condition. -/
def ResolvedJoin.split (size : Nat) (join : ResolvedJoin) : ResolvedJoin × List Expr :=
  match join.condition with
  | some e => if e.reach > size then ({ join with condition := none }, [e]) else (join, [])
  | none => (join, [])

/-- Joins rows as an inner join does, those of the right side being gone through first. -/
def joinBackwards (scope : Scope) (join : ResolvedJoin) (left right : List Row) :
    Except Fault (List Row) := do
  let rows ← right.mapM fun other => do
    return (← left.filterM fun row => holds scope join.condition (row ++ other)).map (· ++ other)
  return rows.flatten

/-- The joined rows of all tables, in the order in which they are visited. Conditions that need
    tables further right are checked last. -/
def Resolved.joinedRows (r : Resolved) : Except Fault (List Row) := do
  let found (table : Nat) (access : Access) : List Row :=
    (r.found table access).map fun values => [some values]
  match r.scope, r.joins with
  | [], _ => return [[]]
  | [_, _], [join] =>
    let visit := r.visit join
    if visit.secondFirst then joinBackwards r.scope join (found 0 visit.access) (found 1 .scan)
    else joinRows r.scope join 1 (found 0 .scan) (found 1 visit.access)
  | _, joins =>
    let parts := joins.zipIdx.map fun (join, i) =>
      (found (i + 1) (r.accessTo join (i + 1)), join.split (i + 2), i + 1)
    let rows ← parts.foldlM (fun rows (right, (join, _), width) =>
      joinRows r.scope join width rows right) (found 0 .scan)
    let later := parts.flatMap fun (_, (_, conditions), _) => conditions
    rows.filterM fun row => later.allM fun e => holds r.scope (some e) row

/-! ### Groups -/

/-- Puts an item into groups that are sorted by what they are grouped by. -/
def intoGroups {α : Type} (keys : List SortKey) (key : List Value) (item : α) :
    List (List Value × List α) → List (List Value × List α)
  | [] => [(key, [item])]
  | (other, items) :: rest =>
    match compareKeys keys key other with
    | .lt => (key, [item]) :: (other, items) :: rest
    | .eq => (other, items ++ [item]) :: rest
    | .gt => (other, items) :: intoGroups keys key item rest

mutual

/-- What the functions for a least or greatest value look at, and which of the two each is. -/
def Expr.extremes : Expr → List (Ordering × Expr)
  | .value _ | .whole _ | .column _ | .place .. => []
  | .negate e | .not e | .isNull e => e.extremes
  | .binary l _ r | .like l r => l.extremes ++ r.extremes
  | .between e low high => e.extremes ++ low.extremes ++ high.extremes
  | .oneOf e items => e.extremes ++ extremesIn items
  | .call name arguments _ =>
    match Aggregate.ofName? name, arguments with
    | some .least, e :: _ => [(.lt, e)]
    | some .greatest, e :: _ => [(.gt, e)]
    | _, _ => []

/-- The same for expressions. -/
def extremesIn : List Expr → List (Ordering × Expr)
  | [] => []
  | e :: rest => e.extremes ++ extremesIn rest

end

/-- The row that stands for a group in what is not a function of it: the first row, or where least
    or greatest values are asked for the last one that had all of them so far. -/
def representative (scope : Scope) (extremes : List (Ordering × Expr)) (group : List Row) :
    Except Fault Row := do
  let start : Row × List Value := (group.headD [], extremes.map fun _ => .null)
  let (row, _) ← group.foldlM (fun (kept, bests) row => do
    let values ← valuesOf { scope := scope, row := row } (extremes.map (·.2))
    let new := List.zipWith (fun (beyond, _) (best, value) => extreme beyond [best, value])
      extremes (bests.zip values)
    let isNew := List.zipWith (fun (beyond, _) (best, value) =>
      match best, value with
      | .null, _ => true
      | _, .null => false
      | best, value => Value.compareTo value best == beyond) extremes (bests.zip values)
    let chosen := !extremes.isEmpty && isNew.all id
    return (if chosen then row else kept, new)) start
  return row

/-- The frames that results are evaluated for: one for each row, or for each group. Without anything
    to group by all rows are a group, even if there are none. -/
def Resolved.frames (r : Resolved) (rows : List Row) : Except Fault (List Frame) := do
  if !r.grouped then return rows.map fun row => { scope := r.scope, row := row }
  let groups : List (List Row) ←
    if r.grouping.isEmpty then pure [rows]
    else do
      let keys := r.groupKeys
      let keyed ← rows.mapM fun row => do
        return (← valuesOf { scope := r.scope, row := row } (keys.map (·.e)), row)
      let groups := keyed.foldl (fun groups (key, row) => intoGroups keys key row groups) []
      pure (groups.map (·.2))
  let extremes := extremesIn (r.outputs.map (·.e) ++ r.ordering.map (·.e))
  groups.mapM fun group => do
    return { scope := r.scope, row := ← representative r.scope extremes group, group := group }

/-! ### Results -/

/-- Rows without those that were there before. -/
def distinctRows : List (List Value) → List (List Value)
  | [] => []
  | row :: rest =>
    row :: (distinctRows rest).filter fun other => compareAll row other != .eq

/-- The number of rows that a limit or an offset says; nothing stands for no limit. -/
def rowCount? (e : Option Expr) : Except Fault (Option Int) :=
  match e with
  | none => .ok none
  | some e => do
    match Affinity.numeric.store (← e.value? { scope := [], row := [] }) with
    | .integer n => return some n.toInt
    | _ => .error .datatypeMismatch

/-- The part of a list that a limit and an offset leave. A negative limit is none. -/
def window {α : Type} (limit offset : Option Int) (items : List α) : List α :=
  let rest := items.drop (offset.getD 0).toNat
  match limit with
  | none => rest
  | some n => if n < 0 then rest else rest.take n.toNat

/-- The rows that a selection gives, each with a value for each result. -/
def Resolved.rows (r : Resolved) : Except Fault (List (List Value)) := do
  let limit ← rowCount? r.limit
  let offset ← rowCount? r.offset
  let joined ← r.joinedRows
  let kept ← joined.filterM (holds r.scope r.condition)
  let frames ← r.frames kept
  let given ← frames.mapM fun frame => do
    let values ← valuesOf frame (r.outputs.map (·.e))
    return (← valuesOf frame (r.ordering.map (·.e)), values)
  let sorted := given.mergeSort fun a b => compareKeys r.ordering a.1 b.1 != .gt
  let rows := sorted.map (·.2)
  return window limit offset (if r.distinct then distinctRows rows else rows)

end ReportDesk.Embedded
