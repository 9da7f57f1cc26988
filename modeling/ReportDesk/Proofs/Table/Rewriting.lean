import ReportDesk.Proofs.Decimal.Whole
import ReportDesk.Proofs.Table.Acceptance

/-! # Tables that are written again

    A document that has been read as a table can be written again. What comes back has the same
    columns, and in every row a value for each of them in their order: the one that was read, if it
    is null, a truth value, a string or an integer of 64 bits with a sign, and null where there was
    none. Greater integers are not kept: a cell holds them as a double, and a double comes back.
-/

namespace ReportDesk.Table

open Json (Decoder Reading Record Scope)

/-! ### Documents -/

/-- A document that gives columns and rows: an object that tells both, or an array of the two. -/
inductive IsDocument (columns : List String) (rows : List (List (String × Json))) :
    Json → Prop where
  | object {members : List (String × Json)} : Tells members (some columns) (some rows) →
      IsDocument columns rows (.object members)
  | array : IsDocument columns rows
      (.array [.array (columns.map .string), .array (rows.map .object)])

/-- A document gives one list of columns and one of rows. -/
theorem IsDocument.unique {columns names : List String} {rows given : List (List (String × Json))}
    {json : Json} (h : IsDocument columns rows json) (h' : IsDocument names given json) :
    columns = names ∧ rows = given := by
  cases h with
  | @object members htells =>
    cases h' with
    | object htells' =>
      obtain ⟨hcolumns, hrows⟩ := htells.unique htells'
      exact ⟨Option.some.inj hcolumns, Option.some.inj hrows⟩
  | array =>
    generalize hjson : Json.array [.array (columns.map .string), .array (rows.map .object)] = json
      at h'
    cases h' with
    | object htells' => cases hjson
    | array =>
      obtain ⟨hcolumns, hrest⟩ := List.cons.inj (Json.array.inj hjson)
      exact ⟨eq_of_map_string_eq hcolumns, eq_of_map_object_eq (List.cons.inj hrest).1⟩

section

variable {scope : Scope} {json : Json} {columns : List String}
  {keyed : List (List (String × Cell))}

theorem partsDecoder_array {items : List Json} {columns : Option (List String)}
    {keyed : Option (List (List (String × Cell)))}
    (h : partsDecoder scope (.array items) = .ok (columns, keyed)) :
    ∃ first second, items = [first, second] ∧
      Decoder.nullable (.list .string) scope.inside first = .ok columns ∧
      Decoder.nullable (.list (.members cellDecoder)) scope.inside second = .ok keyed := by
  unfold partsDecoder at h
  rw [Decoder.record_array_eq_ok_iff, Reading.pair_eq_done_iff,
    Record.orNull_inOrder_eq_done_iff rfl, Record.orNull_inOrder_eq_done_iff rfl] at h
  obtain ⟨⟨⟨first, hfirst, hcolumns⟩, second, hsecond, hrows⟩, hlength⟩ := h
  match items with
  | [] => cases hfirst
  | [_] => cases hsecond
  | [_, _] =>
    cases hfirst
    cases hsecond
    exact ⟨_, _, rfl, hcolumns, hrows⟩
  | _ :: _ :: _ :: _ => simp at hlength

/-- Columns and rows are read from a document that gives them. -/
theorem exists_document (h : partsDecoder scope json = .ok (some columns, some keyed)) :
    ∃ rows, IsDocument columns rows json ∧
      List.Forall₂ (AreRead (scope.depth + 3)) rows keyed := by
  cases json with
  | object members =>
    obtain ⟨⟨rows, htells, hread⟩, -⟩ := partsDecoder_object_eq_ok_iff.mp h
    cases hread with
    | some hread => exact ⟨_, .object htells, hread⟩
  | array items =>
    obtain ⟨first, second, rfl, hcolumns, hrows⟩ := partsDecoder_array h
    rcases Json.nullable_eq_ok_iff.mp hcolumns with ⟨-, hnone⟩ | ⟨-, names, hnames, hfirst⟩
    · cases hnone
    · rcases Json.nullable_eq_ok_iff.mp hrows with ⟨-, hnone⟩ | ⟨-, given, hgiven, hsecond⟩
      · cases hnone
      · cases hnames
        cases hgiven
        obtain rfl := Json.list_string_eq_ok_iff.mp hfirst
        obtain ⟨rows, rfl, hread⟩ := rows_eq_ok_iff.mp hsecond
        exact ⟨rows, .array, hread⟩
  | _ => cases h

/-- A table is what its columns and rows make. -/
theorem exists_parts {order : KeyOrder} {table : Table}
    (h : decoderIn order scope json = .ok table) :
    ∃ columns keyed, partsDecoder scope json = .ok (some columns, some keyed) ∧
      ofParts order (some columns) (some keyed) = .ok table := by
  unfold decoderIn at h
  split at h
  · cases h
  · next columns keyed hparts =>
    split at h
    · next made hmade =>
      cases h
      cases columns with
      | none => cases hmade
      | some columns =>
        cases keyed with
        | none => cases hmade
        | some keyed => exact ⟨columns, keyed, hparts, hmade⟩
    · cases h

end

/-! ### Scalars -/

/-- Null, a truth value, a string, or an integer of 64 bits, with or without a sign. -/
inductive IsScalar : Json → Prop where
  | null : IsScalar .null
  | bool (value : Bool) : IsScalar (.bool value)
  | string (text : String) : IsScalar (.string text)
  | integer {n : Int} : -Decimal.signedLimit ≤ n → n < Decimal.unsignedLimit →
      IsScalar (.integer n)

/-- How a scalar comes back: as it is, unless it is an integer that 64 bits with a sign cannot hold.
    That comes back as a double. -/
def returned : Json → Json
  | .integer n => if Decimal.fitsSigned n then .integer n else .float (Float.ofInt n)
  | json => json

theorem toJson_ofJson {json : Json} (h : IsScalar json) :
    (Cell.ofJson json).toJson = returned json := by
  cases h with
  | null => rfl
  | bool value => rfl
  | string text => rfl
  | @integer n hlow hhigh =>
    by_cases hfits : Decimal.fitsSigned n = true
    · obtain ⟨hleast, hgreatest⟩ := Decimal.fitsSigned_iff.mp hfits
      have hsame : (Int64.ofInt n).toInt = n := Int64.toInt_ofInt_of_le hleast hgreatest
      simp [Cell.ofJson, Cell.toJson, returned, hfits, hsame]
    · -- a double is written as a number only if it is finite
      have hgreat : Decimal.signedLimit ≤ n := by
        rw [Decimal.fitsSigned_iff] at hfits
        omega
      have hfinite := Decimal.isFinite_ofInt hgreat hhigh
      simp [Cell.ofJson, Cell.toJson, returned, hfits, hfinite]

/-- A scalar is read as it is, whatever is around it. -/
theorem settle_of_isScalar {json : Json} (h : IsScalar json) (depth : Nat) :
    json.settle depth = .ok json := by
  cases h <;> rfl

/-! ### Rows -/

section

variable {depth : Nat} {row : List (String × Json)} {columns : List String}

/-- What comes back for a column of a row. -/
def returnedFor (row : List (String × Json)) (column : String) : Json :=
  ((given? row column).map returned).getD .null

theorem toJson_of_fills {column : String} {cell : Cell} (h : Fills depth row column cell)
    (hscalar : ∀ value, given? row column = some value → IsScalar value) :
    cell.toJson = returnedFor row column := by
  unfold returnedFor
  cases h with
  | missing hnone =>
    rw [hnone]
    rfl
  | @given json cell hgiven hbecomes =>
    have hjson := hscalar json hgiven
    obtain ⟨value, hvalue, rfl⟩ := hbecomes
    rw [settle_of_isScalar hjson] at hvalue
    cases hvalue
    rw [hgiven, toJson_ofJson hjson]
    rfl

theorem rowJson_of_fills {cells : List Cell}
    (h : List.Forall₂ (Fills depth row) columns cells)
    (hscalar : ∀ column ∈ columns, ∀ value, given? row column = some value → IsScalar value) :
    rowJson columns cells =
      .object (columns.map fun column => (column, returnedFor row column)) := by
  unfold rowJson
  congr 1
  induction h with
  | nil => rfl
  | @cons column cell columns cells hcell _ ih =>
    obtain ⟨hfirst, hothers⟩ := List.forall_mem_cons.mp hscalar
    rw [List.zipWith_cons_cons, List.map_cons, ih hothers, toJson_of_fills hcell hfirst]

theorem rowsJson_of_fills {rows : List (List (String × Json))} {cells : List (List Cell)}
    (h : List.Forall₂ (fun row => List.Forall₂ (Fills depth row) columns) rows cells)
    (hscalar : ∀ row ∈ rows, ∀ column ∈ columns, ∀ value, given? row column = some value →
      IsScalar value) :
    cells.map (rowJson columns) =
      rows.map fun row => .object (columns.map fun column => (column, returnedFor row column)) := by
  induction h with
  | nil => rfl
  | @cons row cells rows others hrow _ ih =>
    obtain ⟨hfirst, hothers⟩ := List.forall_mem_cons.mp hscalar
    rw [List.map_cons, List.map_cons, ih hothers, rowJson_of_fills hrow hfirst]

end

/-! ### Tables -/

/-- A document that is read as a table gives columns and rows. If the values that it gives for its
    columns are scalars, then written again it has the same columns, as many rows, which it counts,
    and in each of them, for the columns in their order, the last value that the row gave for it:
    null if it gave none, and a double in place of an integer that 64 bits with a sign cannot
    hold. -/
theorem scalars_returned {order : KeyOrder} {scope : Scope} {json : Json} {table : Table}
    (h : decoderIn order scope json = .ok table) :
    (∃ columns rows, IsDocument columns rows json) ∧
    ∀ columns rows, IsDocument columns rows json →
      (∀ row ∈ rows, ∀ column ∈ columns, ∀ value, given? row column = some value →
        IsScalar value) →
      table.toJson = .object
        [("columns", .array (columns.map .string)),
         ("rows", .array (rows.map fun row =>
           .object (columns.map fun column =>
             (column, ((given? row column).map returned).getD .null)))),
         ("rowCount", .integer rows.length)] := by
  obtain ⟨names, keyed, hparts, hmade⟩ := exists_parts h
  obtain ⟨given, hgiven, hread⟩ := exists_document hparts
  refine ⟨⟨names, given, hgiven⟩, ?_⟩
  intro columns rows hdocument hscalar
  -- the columns and rows that were read are those that are given
  obtain ⟨rfl, rfl⟩ := hdocument.unique hgiven
  have hverdict : Verdict (scope.depth + 3) (some columns) (some rows) (.ok table) := by
    rw [← hmade]
    exact verdict_ofParts (.some hread)
  cases hverdict with
  | table hknown hfills =>
    have hrows := rowsJson_of_fills hfills hscalar
    have hcount : table.rows.length = rows.length := hfills.length_eq.symm
    simp only [toJson, hrows, hcount]
    rfl

/-- The greatest integer of 64 bits with a sign and the one after it, with a value left out in each
    row. -/
def brimming : Json :=
  .object
    [("columns", .array [.string "n", .string "s"]),
     ("rows", .array
       [.object [("n", .integer 9223372036854775807)],
        .object [("s", .string "x"), ("n", .integer 9223372036854775808)]])]

/-- The rows of `brimming`. -/
def brimmingRows : List (List (String × Json)) :=
  [[("n", .integer 9223372036854775807)],
   [("s", .string "x"), ("n", .integer 9223372036854775808)]]

theorem isDocument_brimming : IsDocument ["n", "s"] brimmingRows brimming :=
  .object ⟨.value rfl (by simp), .value rfl (by simp)⟩

/-- What `brimming` is read as. -/
def brimmingTable : Table where
  columns := ["n", "s"]
  rows := [[.integer 9223372036854775807, .null],
    [.float (Float.ofInt 9223372036854775808), .text "x"]]

theorem decoder_brimming :
    decoder { origin := .value } brimming = .ok brimmingTable := by
  have hparts : partsDecoder { origin := .value } brimming =
      .ok (some brimmingTable.columns, some [[("n", .integer 9223372036854775807)],
        [("s", .text "x"), ("n", .float (Float.ofInt 9223372036854775808))]]) := rfl
  rw [decoder, decoder_of_parts hparts, ofParts_of_rowsOf rfl]
  rfl

theorem isScalar_brimming : ∀ row ∈ brimmingRows, ∀ column ∈ ["n", "s"], ∀ value,
    given? row column = some value → IsScalar value := by
  intro row hrow column hcolumn value hvalue
  simp only [brimmingRows, List.mem_cons, List.not_mem_nil, or_false] at hrow hcolumn
  rcases hrow with rfl | rfl <;> rcases hcolumn with rfl | rfl <;> cases hvalue
  · exact .integer (by decide) (by decide)
  · exact .integer (by decide) (by decide)
  · exact .string "x"

/-- The first row comes back with a null for what it left out, and the second with a double. -/
theorem scalars_returned_brimming :
    ∃ table, decoder { origin := .value } brimming = .ok table ∧
      IsDocument ["n", "s"] brimmingRows brimming ∧
      table.toJson = .object
        [("columns", .array [.string "n", .string "s"]),
         ("rows", .array
           [.object [("n", .integer 9223372036854775807), ("s", .null)],
            .object [("n", .float (Float.ofInt 9223372036854775808)), ("s", .string "x")]]),
         ("rowCount", .integer 2)] := by
  refine ⟨_, decoder_brimming, isDocument_brimming, ?_⟩
  exact (scalars_returned decoder_brimming).2 ["n", "s"] brimmingRows isDocument_brimming
    isScalar_brimming

/-- An integer that 64 bits with a sign cannot hold is not written as it was read. -/
theorem not_returned_when_great :
    ¬ ∀ (order : KeyOrder) (scope : Scope) (json : Json) (table : Table) (columns : List String)
        (rows : List (List (String × Json))),
      decoderIn order scope json = .ok table → IsDocument columns rows json →
      (∀ row ∈ rows, ∀ column ∈ columns, ∀ value, given? row column = some value →
        IsScalar value) →
      table.toJson = .object
        [("columns", .array (columns.map .string)),
         ("rows", .array (rows.map fun row =>
           .object (columns.map fun column => (column, (given? row column).getD .null)))),
         ("rowCount", .integer rows.length)] := by
  intro hclaim
  have hwritten := hclaim _ _ _ _ _ _ decoder_brimming isDocument_brimming isScalar_brimming
  simp only [toJson, brimmingTable, brimmingRows, List.map_cons, List.map_nil, rowJson,
    List.zipWith_cons_cons, Cell.toJson] at hwritten
  -- a double or null stands in the second row, and not the integer
  split at hwritten <;> simp [given?, List.lookup] at hwritten

end ReportDesk.Table
