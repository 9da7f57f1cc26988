import ReportDesk.Proofs.Json.Decoding
import ReportDesk.Proofs.Table.Shape

/-! # Tables through JSON

    A table comes back from its JSON with all columns and rows in their order, and with all cells
    but those that JSON has no form for: dates and times come back as the texts they are written
    as, and doubles that are no finite number as no value.

    Rows are objects, so what carries this is the shape of tables: with distinct column names an
    object gives each cell back, in whatever order its members are met. They are met in another
    order than they were written when a document is decoded from memory, where objects are sorted.
-/

namespace ReportDesk

/-! ### Cells -/

namespace Cell

/-- The cell that comes back where a cell was written. -/
def carried : Cell → Cell
  | .float x => if Decimal.isFinite x then .float x else .null
  | .date d => .text d.text
  | .timestamp t => .text (t.date.text ++ "T" ++ t.timeText)
  | cell => cell

theorem ofJson_toJson (cell : Cell) : ofJson cell.toJson = cell.carried := by
  cases cell with
  | integer n =>
    have hfits : Decimal.fitsSigned n.toInt = true := by
      have hlow := n.le_toInt
      have hhigh := n.toInt_lt
      unfold Decimal.fitsSigned Decimal.signedLimit
      rw [Bool.and_eq_true]
      exact ⟨decide_eq_true (by omega), decide_eq_true (by omega)⟩
    simp [toJson, ofJson, carried, hfits]
  | float x =>
    simp only [toJson, carried]
    split <;> rfl
  | _ => rfl

/-- A cell is written as a value without parts. -/
theorem settle_toJson (cell : Cell) (depth : Nat) : cell.toJson.settle depth = .ok cell.toJson := by
  cases cell with
  | float x =>
    simp only [toJson]
    split <;> rfl
  | _ => rfl

theorem isMalformed_toJson (cell : Cell) : cell.toJson.isMalformed = false := by
  cases cell with
  | float x =>
    simp only [toJson]
    split <;> rfl
  | _ => rfl

end Cell

namespace Table

open Json (Decoder Record Scope)

/-- The table that comes back where a table was written. -/
def carried (table : Table) : Table where
  columns := table.columns
  rows := table.rows.map fun row => row.map Cell.carried
  nodup := table.nodup
  width := by simpa using table.width

/-! ### Rows by key -/

theorem lastOf_eq_none {members : List (String × Cell)} {key : String}
    (h : key ∉ members.map Prod.fst) : lastOf key members = none := by
  induction members with
  | nil => rfl
  | cons member rest ih =>
    rw [List.map_cons, List.mem_cons, not_or] at h
    simp [lastOf, ih h.2, Ne.symm h.1]

/-- Of members with distinct keys each is found by its key. -/
theorem lastOf_eq_some {members : List (String × Cell)} {key : String} {cell : Cell}
    (hkeys : (members.map Prod.fst).Nodup) (h : (key, cell) ∈ members) :
    lastOf key members = some cell := by
  induction members with
  | nil => simp at h
  | cons member rest ih =>
    rw [List.map_cons, List.nodup_cons] at hkeys
    rcases List.mem_cons.mp h with rfl | h
    · simp [lastOf, lastOf_eq_none hkeys.1]
    · simp [lastOf, ih hkeys.2 h]

/-- A row is found in members that give its cells by column, in any order. -/
theorem cellsOf_of_perm {columns : List String} {row : List Cell} {members : List (String × Cell)}
    (hnodup : columns.Nodup) (hwidth : row.length = columns.length)
    (h : members.Perm (columns.zip row)) : cellsOf columns members = row := by
  have hkeys : (members.map Prod.fst).Nodup := by
    rw [(h.map Prod.fst).nodup_iff, List.map_fst_zip (by omega)]
    exact hnodup
  apply List.ext_getElem
  · simp [cellsOf, hwidth]
  · intro i hi hrow
    have hcolumn : i < columns.length := by omega
    have hmem : (columns[i], row[i]) ∈ members :=
      h.mem_iff.mpr (List.mem_iff_getElem.mpr ⟨i, by simp; omega, by simp⟩)
    simp [cellsOf, lastOf_eq_some hkeys hmem]

/-- All rows are found in objects that give their cells by column, in any order. -/
theorem rowsOf_of_perm {order : KeyOrder} {columns : List String} {rows : List (List Cell)}
    {keyed : List (List (String × Cell))} (hnodup : columns.Nodup)
    (hwidth : ∀ row ∈ rows, row.length = columns.length)
    (h : List.Forall₂ (fun row members => members.Perm (columns.zip row)) rows keyed) (i : Nat) :
    rowsOf order columns i keyed = .ok rows := by
  induction h generalizing i with
  | nil => rfl
  | @cons row members rows keyed hperm hrest ih =>
    have hknown : (order.arrange i members).find? (fun member => !columns.contains member.1) =
        none := by
      refine List.find?_eq_none.mpr fun member hmember => ?_
      have hzip : (member.1, member.2) ∈ columns.zip row :=
        ((order.perm i members).trans hperm).mem_iff.mp hmember
      simpa using (List.of_mem_zip hzip).1
    have hothers := ih (fun other ho => hwidth other (by simp [ho])) (i + 1)
    rw [rowsOf, hknown, hothers, cellsOf_of_perm hnodup (hwidth row (by simp)) hperm]
    rfl

/-! ### Rows as objects -/

/-- An object that gives the cells of a row by column, in some order. -/
def Holds (columns : List String) (row : List Cell) (json : Json) : Prop :=
  ∃ members, json = .object members ∧
    members.Perm (List.zipWith (fun column cell => (column, cell.toJson)) columns row)

theorem holds_rowJson (columns : List String) (row : List Cell) :
    Holds columns row (rowJson columns row) :=
  ⟨_, rfl, .refl _⟩

section

variable {columns : List String} {row : List Cell} {json : Json}

/-- A value in an object that holds a row is that of one of its cells. -/
theorem exists_cell_of_mem {members : List (String × Json)}
    (h : members.Perm (List.zipWith (fun column cell => (column, cell.toJson)) columns row)) :
    ∀ m ∈ members, ∃ cell : Cell, m.2 = cell.toJson := by
  intro m hm
  have hzip := h.mem_iff.mp hm
  rw [← List.map_uncurry_zip_eq_zipWith] at hzip
  obtain ⟨⟨column, cell⟩, -, rfl⟩ := List.mem_map.mp hzip
  exact ⟨cell, rfl⟩

theorem Holds.isMalformed (h : Holds columns row json) : json.isMalformed = false := by
  obtain ⟨members, rfl, hperm⟩ := h
  refine Json.anyMemberMalformed_eq_false fun m hm => ?_
  obtain ⟨cell, hcell⟩ := exists_cell_of_mem hperm m hm
  rw [hcell, cell.isMalformed_toJson]

/-- The members of an object that holds a row are the cells of the row, as they come back. -/
theorem Holds.members (h : Holds columns row json) (scope : Scope) :
    ∃ keyed, Decoder.members cellDecoder scope json = .ok keyed ∧
      keyed.Perm (columns.zip (row.map Cell.carried)) := by
  obtain ⟨members, rfl, hperm⟩ := h
  have hcells : ∀ m ∈ members, cellDecoder scope.inside m.2 = .ok (Cell.ofJson m.2) := by
    intro m hm
    obtain ⟨cell, hcell⟩ := exists_cell_of_mem hperm m hm
    simp [cellDecoder, Decoder.untyped, hcell, cell.settle_toJson, Except.map]
  refine ⟨_, Json.memberValues_eq hcells, ?_⟩
  have hmapped := hperm.map fun m => (m.1, Cell.ofJson m.2)
  have hzip : (List.zipWith (fun column cell => (column, cell.toJson)) columns row).map
      (fun m => (m.1, Cell.ofJson m.2)) = columns.zip (row.map Cell.carried) := by
    simp [List.map_zipWith, List.zip, Cell.ofJson_toJson, List.zipWith_map_right]
  rwa [hzip] at hmapped

/-- Settling an object that holds a row sorts its members. -/
theorem exists_settle_rowJson (hnodup : columns.Nodup) (hwidth : row.length = columns.length)
    {depth : Nat} (hdepth : depth < Json.maxDepth) :
    ∃ settled, (rowJson columns row).settle depth = .ok settled ∧ Holds columns row settled := by
  have hself : ∀ m ∈ List.zipWith (fun column cell => (column, cell.toJson)) columns row,
      m.2.settle (depth + 1) = .ok m.2 := by
    intro m hm
    obtain ⟨cell, hcell⟩ := exists_cell_of_mem (.refl _) m hm
    rw [hcell, cell.settle_toJson]
  have hfst : (List.zipWith (fun column (cell : Cell) => (column, cell.toJson)) columns row).map
      Prod.fst = columns := by
    rw [← List.map_uncurry_zip_eq_zipWith, List.map_map]
    exact List.map_fst_zip (by omega)
  have hkeys : (([] ++ List.zipWith (fun column (cell : Cell) => (column, cell.toJson)) columns
      row).map Prod.fst).Nodup := by
    rwa [List.nil_append, hfst]
  obtain ⟨sorted, hsorted, hperm⟩ := Json.exists_settleMembers_perm hself hkeys
  have hnot : ¬ depth ≥ Json.maxDepth := by omega
  have hsettle : (rowJson columns row).settle depth = .ok (.object sorted) := by
    simp [rowJson, Json.settle, hnot, hsorted, Except.map]
  exact ⟨.object sorted, hsettle, sorted, rfl, hperm⟩

end

/-! ### Tables -/

section

variable {order : KeyOrder} {table : Table} {rowJsons : List Json}

/-- The members that tell a table are its columns and its rows; others are passed over. -/
theorem decoder_of_members {members : List (String × Json)} {i j : Nat}
    (hcolumns : Record.occurrences ["columns"] 0 members =
      [(i, "columns", .array (table.columns.map .string))])
    (hrows : Record.occurrences ["rows"] 0 members = [(j, "rows", .array rowJsons)])
    (hholds : List.Forall₂ (Holds table.columns) table.rows rowJsons)
    (hwhole : ∀ m ∈ members, m.2.isMalformed = false) (scope : Scope) :
    decoderIn order scope (.object members) = .ok table.carried := by
  -- the rows are read as members, with the cells that come back
  have heach := hholds.imp fun row json hrow => hrow.members scope.inside.inside
  obtain ⟨keyed, hkeyed, hperm⟩ := Json.exists_elements heach 0
  have hparts : partsDecoder scope (.object members) = .ok (some table.columns, some keyed) := by
    refine Decoder.record_object ?_ hwhole
    rw [Record.orNull_of_occurrence rfl hcolumns (by simp) (Json.elements_string _ _ _),
      Record.orNull_of_occurrence rfl hrows (by simp) hkeyed]
    simp
  have hcarried : rowsOf order table.carried.columns 0 keyed = .ok table.carried.rows :=
    rowsOf_of_perm table.nodup table.carried.width (List.forall₂_map_left_iff.mpr hperm) 0
  have htable : ofParts order (some table.columns) (some keyed) = .ok table.carried :=
    ofParts_of_rowsOf hcarried
  simp [decoderIn, hparts, htable]

/-- No part of a written table hides a fault. -/
theorem anyMalformed_parts (columns : List String)
    (hholds : List.Forall₂ (Holds columns) table.rows rowJsons) :
    Json.anyMalformed (columns.map .string) = false ∧ Json.anyMalformed rowJsons = false := by
  refine ⟨Json.anyMalformed_eq_false ?_, Json.anyMalformed_eq_false ?_⟩
  · intro item hitem
    obtain ⟨text, -, rfl⟩ := List.mem_map.mp hitem
    rfl
  · intro item hitem
    obtain ⟨i, hi, rfl⟩ := List.mem_iff_getElem.mp hitem
    exact (hholds.get (by rw [hholds.length_eq]; exact hi) hi).isMalformed

/-- A table that is decoded as it was written. -/
theorem decoderIn_toJson (order : KeyOrder) (table : Table) (scope : Scope) :
    decoderIn order scope table.toJson = .ok table.carried := by
  have hholds : List.Forall₂ (Holds table.columns) table.rows
      (table.rows.map (rowJson table.columns)) := by
    rw [List.forall₂_map_right_iff, List.forall₂_same]
    exact fun row _ => holds_rowJson table.columns row
  obtain ⟨hcolumns, hrows⟩ := anyMalformed_parts table.columns hholds
  refine decoder_of_members (i := 0) (j := 1) rfl rfl hholds ?_ scope
  simp [hcolumns, hrows, Json.isMalformed]

/-- A table in memory: its members are sorted, and those of each row. -/
theorem exists_settle_toJson (table : Table) :
    ∃ rowJsons, List.Forall₂ (Holds table.columns) table.rows rowJsons ∧
      table.toJson.settle 0 = .ok (.object
        [("columns", .array (table.columns.map .string)),
         ("rowCount", .integer table.rows.length), ("rows", .array rowJsons)]) := by
  have heach : ∀ row ∈ table.rows, ∃ settled,
      (rowJson table.columns row).settle 2 = .ok settled ∧ Holds table.columns row settled :=
    fun row hrow => exists_settle_rowJson table.nodup (table.width row hrow) (by decide)
  obtain ⟨rowJsons, hrows, hholds⟩ := Json.exists_settleItems heach
  have hcolumns : Json.settleItems 2 (table.columns.map .string) =
      .ok (table.columns.map .string) := by
    refine Json.settleItems_of_settled fun item hitem => ?_
    obtain ⟨text, -, rfl⟩ := List.mem_map.mp hitem
    rfl
  refine ⟨rowJsons, hholds, ?_⟩
  have hfirst : ¬ "rows" < "columns" := by decide
  have hsecond : ¬ "rowCount" < "columns" := by decide
  have hthird : "rowCount" < "rows" := by decide
  simp [toJson, Json.settle, Json.settleMembers, Json.maxDepth, hcolumns, hrows, Except.map,
    Json.insertMember, hfirst, hsecond, hthird]

theorem decodeValue_toJson (order : KeyOrder) (table : Table) :
    Json.decodeValue (decoderIn order) table.toJson = .ok table.carried := by
  obtain ⟨rowJsons, hholds, hsettle⟩ := exists_settle_toJson table
  obtain ⟨hcolumns, hrows⟩ := anyMalformed_parts table.columns hholds
  simp only [Json.decodeValue, hsettle]
  refine decoder_of_members (i := 0) (j := 2) rfl rfl hholds ?_ _
  simp [hcolumns, hrows, Json.isMalformed]

end

/-- Whatever was done to a table, it comes back from its JSON with its columns, its rows and their
    cells in order, dates and times as texts and doubles that are no finite number as no value:
    from the document itself, at any place in another, from the document in memory, and from any
    text that reads as the document. In what order keys are met does not matter. -/
theorem decode_toJson_afterAll (operations : List Operation) (order : KeyOrder) :
    let table := afterAll operations
    (∀ scope, decoderIn order scope table.toJson = .ok table.carried) ∧
    Json.decodeValue (decoderIn order) table.toJson = .ok table.carried ∧
    ∀ text, Json.readText text = (table.toJson, false) →
      Json.decodeText (decoderIn order) text = .ok table.carried := by
  intro table
  refine ⟨decoderIn_toJson order table, decodeValue_toJson order table, fun text htext => ?_⟩
  simp [Json.decodeText, htext, decoderIn_toJson]

/-- A table with a date, and with names that need escapes or are empty. -/
def scribbled : Table where
  columns := ["a\"]", ""]
  rows := [[.null, .date { year := 2024, month := 2, day := 29 }]]

/-- What is written of `scribbled` reads as the same document again, and comes back with the date
    as a text. -/
theorem decodeText_scribbled :
    afterAll [.ofRows scribbled.columns scribbled.rows] = scribbled ∧
    Json.readText scribbled.toJson.compact = (scribbled.toJson, false) ∧
    Json.decodeText decoder scribbled.toJson.compact =
      .ok { columns := ["a\"]", ""], rows := [[.null, .text "2024-02-29"]] } := by
  have htable : afterAll [.ofRows scribbled.columns scribbled.rows] = scribbled :=
    afterAll_ofRows scribbled
  have htext : Json.readText scribbled.toJson.compact = (scribbled.toJson, false) := by cbv
  have hdate : scribbled.carried =
      { columns := ["a\"]", ""], rows := [[.null, .text "2024-02-29"]] } := by cbv
  have hback := (decode_toJson_afterAll [.ofRows scribbled.columns scribbled.rows] .asWritten).2.2
  rw [htable, hdate] at hback
  exact ⟨htable, htext, hback _ htext⟩

end Table

end ReportDesk
