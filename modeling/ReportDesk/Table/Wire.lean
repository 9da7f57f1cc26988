import ReportDesk.Json.Decode
import ReportDesk.Table.Basic

/-! # Tables as JSON

    On the wire a table is an object: its columns, its rows as objects keyed by column, and the
    number of rows, which is not read back. A row may leave out a cell, which is then null.
-/

namespace ReportDesk.Table

open Json (Decoder)

/-! ### Writing -/

/-- A row as JSON. -/
def rowJson (columns : List String) (row : List Cell) : Json :=
  .object (List.zipWith (fun column cell => (column, cell.toJson)) columns row)

/-- A table as JSON. -/
def toJson (table : Table) : Json :=
  .object
    [("columns", .array (table.columns.map .string)),
     ("rows", .array (table.rows.map (rowJson table.columns))),
     ("rowCount", .integer table.rows.length)]

/-! ### Reading -/

/-- The value that the last of the members with a key gives. -/
def lastOf (key : String) : List (String × Cell) → Option Cell
  | [] => none
  | (k, cell) :: rest =>
    match lastOf key rest with
    | some later => some later
    | none => if k = key then some cell else none

/-- The cells of a row that is given by key. -/
def cellsOf (columns : List String) (members : List (String × Cell)) : List Cell :=
  columns.map fun column => (lastOf column members).getD .null

/-- The order in which the keys of a row are met when it is searched for one that is no column. A
    document does not settle it, and it may be another in each row. -/
structure KeyOrder where
  /-- The members of row number `i`, in the order in which they are met. -/
  arrange (i : Nat) (members : List (String × Cell)) : List (String × Cell)
  /-- Each member is met, and no other. -/
  perm (i : Nat) (members : List (String × Cell)) : (arrange i members).Perm members

/-- Members that are met as they are written. -/
def KeyOrder.asWritten : KeyOrder where
  arrange _ members := members
  perm _ _ := .refl _

section

variable (order : KeyOrder)

/-- The rows that are given by key, the first being number `i`. -/
def rowsOf (columns : List String) :
    Nat → List (List (String × Cell)) → Except TableError (List (List Cell))
  | _, [] => .ok []
  | i, members :: rest =>
    match (order.arrange i members).find? fun member => !columns.contains member.1 with
    | some (key, _) => .error (.unknownKey i key)
    | none => (rowsOf columns (i + 1) rest).map (cellsOf columns members :: ·)

variable {order} in
theorem rowsOf_eq_ok {columns : List String} {i : Nat} {members : List (List (String × Cell))}
    {rows : List (List Cell)} (h : rowsOf order columns i members = .ok rows) :
    rows = members.map (cellsOf columns) := by
  induction members generalizing i rows with
  | nil =>
    cases h
    rfl
  | cons first rest ih =>
    simp only [rowsOf] at h
    split at h
    · cases h
    · cases hothers : rowsOf order columns (i + 1) rest with
      | error error => simp [hothers, Except.map] at h
      | ok others =>
        simp only [hothers, Except.map, Except.ok.injEq] at h
        rw [← h, ih hothers, List.map_cons]

variable {order} in
theorem width_of_rowsOf {columns : List String} {members : List (List (String × Cell))}
    {rows : List (List Cell)} (h : rowsOf order columns 0 members = .ok rows) :
    ∀ row ∈ rows, row.length = columns.length := by
  intro row hrow
  rw [rowsOf_eq_ok h] at hrow
  obtain ⟨keyed, -, rfl⟩ := List.mem_map.mp hrow
  simp [cellsOf]

/-- A table from its parts, each of which may be missing. -/
def ofParts (columns : Option (List String)) (rows : Option (List (List (String × Cell)))) :
    Except TableError Table := do
  let some columns := columns | .error (.missingField "columns")
  let some rows := rows | .error (.missingField "rows")
  let table ← ofColumns columns
  match h : rowsOf order table.columns 0 rows with
  | .error error => .error error
  | .ok cells => .ok { table with rows := cells, width := width_of_rowsOf h }

end

/-- A cell: any value. -/
def cellDecoder : Decoder Cell := fun scope json =>
  (Decoder.untyped scope json).map Cell.ofJson

/-- The parts of a table. -/
def partsDecoder : Decoder (Option (List String) × Option (List (List (String × Cell)))) :=
  .record "RawTabularResult" 2 fun r =>
    Prod.mk <$> r.orNull 0 ["columns"] (.list .string)
      <*> r.orNull 1 ["rows"] (.list (.members cellDecoder))

/-- A table, the keys of its rows being met in some order. -/
def decoderIn (order : KeyOrder) : Decoder Table := fun scope json =>
  match partsDecoder scope json with
  | .error failure => .error failure
  | .ok (columns, rows) =>
    match ofParts order columns rows with
    | .ok table => .ok table
    | .error error => Json.fail (.refused error.message)

/-- A table, the keys of its rows being met as they are written. -/
def decoder : Decoder Table :=
  decoderIn .asWritten

end ReportDesk.Table
