import ReportDesk.Embedded.Naming

/-! # Changes that are refused

    A database that is open for reading only refuses all changes, but it refuses one first for what
    is wrong with it: a table that is not there, a column, a number of values.
-/

namespace ReportDesk.Embedded

/-- Looks up the names in expressions. -/
def checkNames (scope : Scope) (expressions : List Expr) : Except Fault Unit :=
  expressions.forM fun e => do
    let _ ← Context.resolve { scope := scope, grouped := false } e

/-- Whether a number of values goes with the columns that are named, or with all of a table. -/
def checkWidth (relation : Relation) (columns : List String) (values : Nat) : Except Fault Unit :=
  if columns.isEmpty then
    if values = relation.columns.length then .ok ()
    else .error (.wrongWidth relation.name relation.columns.length values)
  else if values = columns.length then .ok ()
  else .error (.wrongCount values columns.length)

/-- Looks for the columns that get values. -/
def checkColumns (relation : Relation) (columns : List String) : Except Fault Unit :=
  columns.forM fun column =>
    if (relation.columnIndex? column).isSome then .ok ()
    else .error (.noColumnIn relation.name column)

/-- Looks for what is wrong with a change to a table. -/
def Change.check (change : Change) (store : Store) (seen : Seen) : Except Fault Unit := do
  let relation := seen.relation
  let changesRows : Bool := match change with | .reshape => false | _ => true
  if relation.isView && changesRows then .error (.isView relation.name)
  match change with
  | .delete condition => checkNames [seen] condition.toList
  | .update assignments condition =>
    assignments.forM fun (column, e) => do
      checkNames [seen] [e]
      if (relation.columnIndex? column).isNone then throw (Fault.noColumn column)
    checkNames [seen] condition.toList
  | .insert columns rows =>
    checkColumns relation columns
    match rows with
    | [] => pure ()
    | row :: _ =>
      rows.forM (checkNames [])
      checkWidth relation columns row.length
  | .insertFrom columns selection =>
    checkColumns relation columns
    let resolved ← selection.resolve store
    checkWidth relation columns resolved.outputs.length
  | .reshape => pure ()

/-- What becomes of a change: nothing if it is to be left alone, else a fault. -/
def Change.outcome (change : Change) (store : Store) (target : Source) (required : Bool) :
    Except Fault Unit :=
  match store.see target with
  | .error fault => if required then .error fault else .ok ()
  | .ok seen => do
    change.check store seen
    .error .readOnly

/-- What becomes of a statement that makes a table or view. -/
def makingOutcome (store : Store) (name : String) (ifMissing : Bool) : Except Fault Unit :=
  match store.find? name with
  | none => .error .readOnly
  | some relation =>
    if ifMissing then .ok () else .error (.isTaken relation.name relation.isView)

end ReportDesk.Embedded
