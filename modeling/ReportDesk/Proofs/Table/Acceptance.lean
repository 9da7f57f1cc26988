import ReportDesk.Proofs.Json.Faults
import ReportDesk.Proofs.Table.RoundTrip

/-! # Which documents are tables

    A document that tells a table is an object with columns and rows. What is made of it is settled
    by these two alone, and in this order: both have to be there, the columns have to differ, and no
    row may have a key that is not a column. Then the document is a table, with a cell for every
    column in every row: the value that the row gives for the column, the last one if it gives
    several, and no value if it gives none.

    Values are looked at before any of this, since rows are read with their cells. If one of them
    cannot be read, or the document stops being JSON anywhere else, it is the text that is at fault.
-/

namespace ReportDesk.Table

open Json (Decoder Gives Reading Record Scope)

/-! ### What a document says -/

/-- The parts of a table that the members of an object tell, none where a part is null or not
    there. Other members may be there too. -/
structure Tells (members : List (String × Json)) (columns : Option (List String))
    (rows : Option (List (List (String × Json)))) : Prop where
  /-- The names of the columns, as strings. -/
  columns : Gives members "columns" (columns.map fun names => .array (names.map .string))
  /-- The rows, as objects. -/
  rows : Gives members "rows" (rows.map fun rows => .array (rows.map .object))

theorem eq_of_map_string_eq {texts others : List String}
    (h : Json.array (texts.map .string) = .array (others.map .string)) : texts = others :=
  List.map_injective_iff.mpr (fun _ _ => Json.string.inj) (Json.array.inj h)

theorem eq_of_map_object_eq {rows others : List (List (String × Json))}
    (h : Json.array (rows.map .object) = .array (others.map .object)) : rows = others :=
  List.map_injective_iff.mpr (fun _ _ => Json.object.inj) (Json.array.inj h)

/-- An object tells one list of columns and one of rows. -/
theorem Tells.unique {members : List (String × Json)} {columns names : Option (List String)}
    {rows given : Option (List (List (String × Json)))} (h : Tells members columns rows)
    (h' : Tells members names given) : columns = names ∧ rows = given :=
  ⟨Option.map_injective (fun _ _ => eq_of_map_string_eq) (h.columns.unique h'.columns),
    Option.map_injective (fun _ _ => eq_of_map_object_eq) (h.rows.unique h'.rows)⟩

/-- The value that a row gives for a key, the last one if there are several. -/
def given? (row : List (String × Json)) (key : String) : Option Json :=
  row.reverse.lookup key

/-- Whether a value becomes a cell when `depth` arrays and objects are around it: it is read as an
    untyped value, and the cell is made of that. -/
def Becomes (depth : Nat) (json : Json) (cell : Cell) : Prop :=
  ∃ value, json.settle depth = .ok value ∧ cell = .ofJson value

/-- The cell of a column in a row, when `depth` arrays and objects are around its values. -/
inductive Fills (depth : Nat) (row : List (String × Json)) (column : String) : Cell → Prop where
  /-- The row does not give a value. -/
  | missing : given? row column = none → Fills depth row column .null
  /-- The row gives a value. -/
  | given {json : Json} {cell : Cell} : given? row column = some json → Becomes depth json cell →
      Fills depth row column cell

/-- Whether all keys of a row are columns. -/
def IsKnown (columns : List String) (row : List (String × Json)) : Prop :=
  ∀ member ∈ row, member.1 ∈ columns

/-- What is to be made of columns and rows. -/
inductive Verdict (depth : Nat) : Option (List String) →
    Option (List (List (String × Json))) → Except TableError Table → Prop where
  /-- There are no columns. -/
  | noColumns {rows : Option (List (List (String × Json)))} :
      Verdict depth none rows (.error (.missingField "columns"))
  /-- There are columns and no rows. -/
  | noRows {columns : List String} :
      Verdict depth (some columns) none (.error (.missingField "rows"))
  /-- A column repeats an earlier one, and is the first to do so. -/
  | repeated {front back : List String} {name : String} {rows : List (List (String × Json))} :
      front.Nodup → name ∈ front →
      Verdict depth (some (front ++ name :: back)) (some rows) (.error (.duplicateColumn name))
  /-- The columns differ, and a row, the first of its kind, has a key that is none of them. -/
  | foreign {columns : List String} {before after : List (List (String × Json))}
      {row : List (String × Json)} {member : String × Json} :
      columns.Nodup → (∀ earlier ∈ before, IsKnown columns earlier) →
      member ∈ row → member.1 ∉ columns →
      Verdict depth (some columns) (some (before ++ row :: after))
        (.error (.unknownKey before.length member.1))
  /-- All keys are columns of a table, and so the columns differ. Its rows are those that are given,
      with a cell for each column. -/
  | table {table : Table} {rows : List (List (String × Json))} :
      (∀ row ∈ rows, IsKnown table.columns row) →
      List.Forall₂ (fun row => List.Forall₂ (Fills depth row) table.columns) rows table.rows →
      Verdict depth (some table.columns) (some rows) (.ok table)

/-- Whether all values in rows can be read when `depth` arrays and objects are around them. -/
def AreReadable (depth : Nat) (rows : Option (List (List (String × Json)))) : Prop :=
  ∀ row ∈ rows.getD [], ∀ member ∈ row, ∃ value, member.2.settle depth = .ok value

/-- How an outcome is told by the decoder of tables. -/
def told (outcome : Except TableError Table) : Except Json.Failure Table :=
  outcome.mapError fun error => { cause := .refused error.message }

/-! ### Rows by key -/

/-- Members that have been read with their cells. -/
def AreRead (depth : Nat) : List (String × Json) → List (String × Cell) → Prop :=
  List.Forall₂ fun member cell => member.1 = cell.1 ∧ Becomes depth member.2 cell.2

section

variable {depth : Nat} {row : List (String × Json)} {keyed : List (String × Cell)}

theorem given?_cons (key : String) (json : Json) (row : List (String × Json)) (column : String) :
    given? ((key, json) :: row) column =
      (given? row column).or (if column = key then some json else none) := by
  unfold given?
  rw [List.reverse_cons, List.lookup_append]
  by_cases h : column = key
  · simp [List.lookup, h]
  · have hne : (column == key) = false := by simpa using h
    simp [List.lookup, h, hne]

/-- The last value of a key is what its last cell was read from. -/
theorem rel_given?_lastOf (h : AreRead depth row keyed) (column : String) :
    Option.Rel (Becomes depth) (given? row column) (lastOf column keyed) := by
  induction h with
  | nil => exact .none
  | @cons member cell row keyed hmember _ ih =>
    obtain ⟨key, json⟩ := member
    obtain ⟨other, found⟩ := cell
    obtain ⟨rfl, hread⟩ := hmember
    rw [given?_cons, lastOf]
    generalize given? row column = later at ih
    generalize lastOf column keyed = laterCell at ih
    cases ih with
    | some hlater => exact .some hlater
    | none =>
      by_cases hkey : key = column
      · simpa [hkey] using Option.Rel.some (show Becomes depth json found from hread)
      · simp [hkey, Ne.symm hkey]

/-- The cells of a row are those that its values become. -/
theorem fills_cellsOf (h : AreRead depth row keyed) (columns : List String) :
    List.Forall₂ (Fills depth row) columns (cellsOf columns keyed) := by
  unfold cellsOf
  rw [List.forall₂_map_right_iff, List.forall₂_same]
  intro column _
  have hrel := rel_given?_lastOf h column
  generalize hgiven : given? row column = json at hrel
  generalize lastOf column keyed = cell at hrel
  cases hrel with
  | none => exact .missing hgiven
  | some hread => exact .given hgiven hread

theorem keys_eq (h : AreRead depth row keyed) : row.map Prod.fst = keyed.map Prod.fst := by
  induction h with
  | nil => rfl
  | cons hmember _ ih => simp [hmember.1, ih]

theorem isKnown_iff {columns : List String} :
    IsKnown columns row ↔ ∀ key ∈ row.map Prod.fst, key ∈ columns := by
  simp only [IsKnown, List.forall_mem_map]

/-- A row is searched for a key that is not a column, its members being met in some order. -/
theorem isKnown_of_find?_eq_none {columns : List String} {met : List (String × Cell)}
    (h : AreRead depth row keyed) (hmet : met.Perm keyed)
    (hnone : met.find? (fun member => !columns.contains member.1) = none) :
    IsKnown columns row := by
  rw [isKnown_iff, keys_eq h, List.forall_mem_map]
  intro member hmember
  simpa using List.find?_eq_none.mp hnone member (hmet.mem_iff.mpr hmember)

theorem exists_foreign_of_find?_eq_some {columns : List String} {met : List (String × Cell)}
    {cell : String × Cell} (h : AreRead depth row keyed) (hmet : met.Perm keyed)
    (hsome : met.find? (fun member => !columns.contains member.1) = some cell) :
    ∃ member ∈ row, member.1 = cell.1 ∧ member.1 ∉ columns := by
  have hforeign : cell.1 ∉ columns := by simpa using List.find?_some hsome
  have hkey : cell.1 ∈ row.map Prod.fst := by
    rw [keys_eq h]
    exact List.mem_map_of_mem (hmet.mem_iff.mp (List.mem_of_find?_eq_some hsome))
  obtain ⟨member, hmember, hsame⟩ := List.mem_map.mp hkey
  exact ⟨member, hmember, hsame, hsame ▸ hforeign⟩

end

/-! ### The outcome for columns and rows -/

section

variable {order : KeyOrder} {depth : Nat} {columns : List String}
  {rows : List (List (String × Json))} {keyed : List (List (String × Cell))}

/-- Rows are read one after another: up to the end if all their keys are columns, and else up to the
    first with a key that is not. -/
theorem rowsOf_of_areRead (h : List.Forall₂ (AreRead depth) rows keyed) (i : Nat) :
    (∃ cells, rowsOf order columns i keyed = .ok cells ∧ (∀ row ∈ rows, IsKnown columns row) ∧
      List.Forall₂ (fun row => List.Forall₂ (Fills depth row) columns) rows cells) ∨
    ∃ before row after, ∃ member ∈ row, rows = before ++ row :: after ∧
      (∀ earlier ∈ before, IsKnown columns earlier) ∧ member.1 ∉ columns ∧
      rowsOf order columns i keyed = .error (.unknownKey (i + before.length) member.1) := by
  -- by induction on the rows: one row is searched for a foreign key, and the number goes up by one
  induction h generalizing i with
  | nil => exact .inl ⟨[], rfl, by simp, .nil⟩
  | @cons row members rows keyed hrow _ ih =>
    cases hfind : (order.arrange i members).find? fun member => !columns.contains member.1 with
    | some cell =>
      obtain ⟨member, hmember, hkey, hforeign⟩ :=
        exists_foreign_of_find?_eq_some hrow (order.perm i members) hfind
      refine .inr ⟨[], row, rows, member, hmember, rfl, by simp, hforeign, ?_⟩
      rw [rowsOf, hfind, hkey]
      rfl
    | none =>
      have hknown : IsKnown columns row :=
        isKnown_of_find?_eq_none hrow (order.perm i members) hfind
      rcases ih (i + 1) with ⟨cells, hcells, hothers, hfills⟩ |
        ⟨before, other, after, member, hmember, hrows, hbefore, hforeign, herror⟩
      · have hall : rowsOf order columns i (members :: keyed) =
            .ok (cellsOf columns members :: cells) := by
          rw [rowsOf, hfind, hcells]
          rfl
        exact .inl ⟨_, hall, List.forall_mem_cons.mpr ⟨hknown, hothers⟩,
          .cons (fills_cellsOf hrow columns) hfills⟩
      · have hplace : i + (row :: before).length = i + 1 + before.length := by
          rw [List.length_cons]
          omega
        refine .inr ⟨row :: before, other, after, member, hmember, by simp [hrows],
          List.forall_mem_cons.mpr ⟨hknown, hbefore⟩, hforeign, ?_⟩
        rw [rowsOf, hfind, herror, hplace]
        rfl

/-- What is made of columns and of rows that have been read. -/
theorem verdict_ofParts {columns : Option (List String)}
    {rows : Option (List (List (String × Json)))} {keyed : Option (List (List (String × Cell)))}
    (h : Option.Rel (List.Forall₂ (AreRead depth)) rows keyed) :
    Verdict depth columns rows (ofParts order columns keyed) := by
  cases columns with
  | none => exact .noColumns
  | some columns =>
    cases h with
    | none => exact .noRows
    | @some rows keyed hrows =>
      by_cases hnodup : columns.Nodup
      · rcases rowsOf_of_areRead hrows 0 with ⟨cells, hcells, hknown, hfills⟩ |
          ⟨before, row, after, member, hmember, rfl, hbefore, hforeign, herror⟩
        · let table : Table :=
            { columns := columns, rows := cells, nodup := hnodup, width := width_of_rowsOf hcells }
          have htable : ofParts order (some table.columns) (some keyed) = .ok table :=
            ofParts_of_rowsOf hcells
          rw [htable]
          show Verdict depth (some table.columns) (some rows) (.ok table)
          exact .table hknown hfills
        · rw [ofParts_of_error hnodup herror, Nat.zero_add]
          exact .foreign hnodup hbefore hmember hforeign
      · obtain ⟨front, name, back, rfl, hfront, hname, herror⟩ := ofColumns_of_not_nodup hnodup
        have houtcome : ofParts order (some (front ++ name :: back)) (some keyed) =
            .error (.duplicateColumn name) := by
          simp only [ofParts, herror]
          rfl
        rw [houtcome]
        exact .repeated hfront hname

end

/-! ### Documents -/

section

variable {scope : Scope}

theorem cellDecoder_eq_ok_iff {json : Json} {cell : Cell} :
    cellDecoder scope json = .ok cell ↔ Becomes scope.depth json cell := by
  unfold cellDecoder Becomes
  constructor
  · intro h
    obtain ⟨value, hvalue, rfl⟩ := Outcome.map_eq_ok h
    exact ⟨value, Json.untyped_eq_ok_iff.mp hvalue, rfl⟩
  · rintro ⟨value, hvalue, rfl⟩
    rw [Json.untyped_eq_ok_iff.mpr hvalue]
    rfl

theorem admits_cellDecoder (json : Json) : cellDecoder.Admits scope json :=
  fun failure h => Decoder.admits_untyped json failure (Outcome.map_eq_error h)

theorem row_eq_ok_iff {json : Json} {keyed : List (String × Cell)} :
    Decoder.members cellDecoder scope json = .ok keyed ↔
      ∃ row, json = .object row ∧ AreRead (scope.depth + 1) row keyed := by
  rw [Json.members_eq_ok_iff]
  simp only [cellDecoder_eq_ok_iff]
  rfl

theorem rows_eq_ok_iff {json : Json} {keyed : List (List (String × Cell))} :
    Decoder.list (.members cellDecoder) scope json = .ok keyed ↔
      ∃ rows : List (List (String × Json)), json = .array (rows.map .object) ∧
        List.Forall₂ (AreRead (scope.depth + 2)) rows keyed := by
  rw [Json.list_eq_ok_iff]
  simp only [row_eq_ok_iff]
  constructor
  · rintro ⟨items, rfl, h⟩
    induction h with
    | nil => exact ⟨[], rfl, .nil⟩
    | cons hitem _ ih =>
      obtain ⟨row, rfl, hrow⟩ := hitem
      obtain ⟨rows, hrows, hothers⟩ := ih
      have hitems := Json.array.inj hrows
      exact ⟨row :: rows, by rw [hitems, List.map_cons], .cons hrow hothers⟩
  · rintro ⟨rows, rfl, h⟩
    refine ⟨_, rfl, ?_⟩
    rw [List.forall₂_map_left_iff]
    exact h.imp fun row members hrow => ⟨row, rfl, hrow⟩

/-- The parts of a table are read from the members that tell them. -/
theorem partsDecoder_object_eq_ok_iff {members : List (String × Json)}
    {columns : Option (List String)} {keyed : Option (List (List (String × Cell)))} :
    partsDecoder scope (.object members) = .ok (columns, keyed) ↔
      (∃ rows, Tells members columns rows ∧
        Option.Rel (List.Forall₂ (AreRead (scope.depth + 3))) rows keyed) ∧
      ∀ m ∈ members, m.2.isMalformed = false := by
  unfold partsDecoder
  rw [Decoder.record_object_eq_ok_iff, Reading.pair_eq_done_iff,
    Record.orNull_byKey_eq_done_iff rfl, Record.orNull_byKey_eq_done_iff rfl]
  simp only [Json.list_string_eq_ok_iff, rows_eq_ok_iff]
  refine and_congr_left fun _ => ?_
  -- what remains is that parts and the JSON that tells them determine each other, also as none
  constructor
  · rintro ⟨⟨columnsJson, hcolumns, hnames⟩, rowsJson, hrows, hread⟩
    obtain rfl : columnsJson = columns.map fun names => .array (names.map .string) := by
      cases hnames with
      | none => rfl
      | some hnames => rw [hnames, Option.map_some]
    cases hread with
    | none => exact ⟨none, ⟨hcolumns, hrows⟩, .none⟩
    | some hread =>
      obtain ⟨rows, rfl, hread⟩ := hread
      exact ⟨some rows, ⟨hcolumns, hrows⟩, .some hread⟩
  · rintro ⟨rows, htells, hread⟩
    refine ⟨⟨_, htells.columns, ?_⟩, _, htells.rows, ?_⟩
    · cases columns with
      | none => exact .none
      | some names => exact .some rfl
    · cases hread with
      | none => exact .none
      | some hread => exact .some ⟨_, rfl, hread⟩

/-- What is made of the parts of a table is what the decoder tells. -/
theorem decoder_of_parts {order : KeyOrder} {json : Json} {columns : Option (List String)}
    {keyed : Option (List (List (String × Cell)))}
    (h : partsDecoder scope json = .ok (columns, keyed)) :
    decoderIn order scope json = told (ofParts order columns keyed) := by
  simp only [decoderIn, h]
  cases ofParts order columns keyed <;> rfl

end

/-! ### What is decided by columns and rows -/

/-- A list is related to another just when each of its elements is related to something. -/
theorem exists_forall₂_iff {α β : Type} {R : α → β → Prop} {as : List α} :
    (∃ bs, List.Forall₂ R as bs) ↔ ∀ a ∈ as, ∃ b, R a b := by
  induction as with
  | nil => simp
  | cons a rest ih =>
    rw [List.forall_mem_cons, ← ih]
    constructor
    · rintro ⟨_, _ | ⟨hfirst, hrest⟩⟩
      exact ⟨⟨_, hfirst⟩, _, hrest⟩
    · rintro ⟨⟨b, hb⟩, bs, hbs⟩
      exact ⟨b :: bs, .cons hb hbs⟩

theorem exists_areRead_iff {depth : Nat} {row : List (String × Json)} :
    (∃ keyed, AreRead depth row keyed) ↔
      ∀ member ∈ row, ∃ value, member.2.settle depth = .ok value := by
  unfold AreRead Becomes
  rw [exists_forall₂_iff]
  refine forall₂_congr fun member _ => ?_
  constructor
  · rintro ⟨_, -, value, hvalue, -⟩
    exact ⟨value, hvalue⟩
  · rintro ⟨value, hvalue⟩
    exact ⟨(member.1, .ofJson value), rfl, value, hvalue, rfl⟩

/-- Rows are read just when their values can be. -/
theorem exists_rel_areRead_iff {depth : Nat} {rows : Option (List (List (String × Json)))} :
    (∃ keyed, Option.Rel (List.Forall₂ (AreRead depth)) rows keyed) ↔ AreReadable depth rows := by
  cases rows with
  | none => exact ⟨fun _ => by simp [AreReadable], fun _ => ⟨none, .none⟩⟩
  | some rows =>
    constructor
    · rintro ⟨_, hkeyed⟩
      cases hkeyed with
      | some hrows =>
        exact fun row hrow => exists_areRead_iff.mp (exists_forall₂_iff.mp ⟨_, hrows⟩ row hrow)
    · intro hreadable
      obtain ⟨keyed, hkeyed⟩ := exists_forall₂_iff.mpr
        fun row hrow => exists_areRead_iff.mpr (hreadable row hrow)
      exact ⟨some keyed, .some hkeyed⟩

/-- A document that tells columns and rows is the fault of its text, if of anything. -/
theorem admits_partsDecoder {scope : Scope} {members : List (String × Json)}
    {columns : Option (List String)} {rows : Option (List (List (String × Json)))}
    (h : Tells members columns rows) : partsDecoder.Admits scope (.object members) := by
  refine Decoder.admits_record (.pair (Record.isAdmitted_orNull rfl h.columns ?_)
    (Record.isAdmitted_orNull rfl h.rows ?_))
  · intro item hitem
    obtain ⟨names, -, rfl⟩ := Option.map_eq_some_iff.mp hitem
    refine Decoder.admits_list (List.forall_mem_map.mpr ?_)
    exact fun name _ => Decoder.admits_string name
  · intro item hitem
    obtain ⟨given, -, rfl⟩ := Option.map_eq_some_iff.mp hitem
    refine Decoder.admits_list (List.forall_mem_map.mpr ?_)
    refine fun row _ => Decoder.admits_members ?_
    exact fun member _ => admits_cellDecoder member.2

/-- A table is made just when there are columns, which differ, and rows, without foreign keys. -/
theorem Verdict.exists_table_iff {depth : Nat} {columns : Option (List String)}
    {rows : Option (List (List (String × Json)))} {outcome : Except TableError Table}
    (h : Verdict depth columns rows outcome) :
    (∃ table, outcome = .ok table) ↔ ∃ names given, columns = some names ∧ rows = some given ∧
      names.Nodup ∧ ∀ row ∈ given, IsKnown names row := by
  cases h with
  | noColumns => simp
  | noRows => simp
  | @repeated front back name rows hfront hname =>
    have hrepeat : ¬ (front ++ name :: back).Nodup := by
      intro hnodup
      exact List.disjoint_of_nodup_append hnodup hname (by simp)
    simp [hrepeat]
  | @foreign names before after row member hnodup hbefore hmember hforeign =>
    have hunknown : ¬ ∀ other ∈ before ++ row :: after, IsKnown names other := by
      intro hknown
      exact hforeign (hknown row (by simp) member hmember)
    simp only [reduceCtorEq, exists_false, false_iff]
    rintro ⟨_, _, hnames, hgiven, -, hknown⟩
    cases hnames
    cases hgiven
    exact hunknown hknown
  | @table table given hknown hcells =>
    exact ⟨fun _ => ⟨table.columns, given, rfl, rfl, table.nodup, hknown⟩, fun _ => ⟨table, rfl⟩⟩

/-- What is made of an object is settled by the columns and the rows that it tells, whatever else is
    in it and in whatever order: the first that applies of no columns, no rows, a column that
    repeats an earlier one, and a row with a key that is not a column; and else a table with these
    columns, a row for each object and in it a cell for each column. Which key of a row is reported
    depends on the order in which its keys are met. Only if a value in the rows cannot be read, or
    the object is not JSON to its end, there is nothing to be settled, and the text is at fault. -/
theorem outcome_of_parts (order : KeyOrder) (scope : Scope) (columns : Option (List String))
    (rows : Option (List (List (String × Json)))) :
    (AreReadable (scope.depth + 3) rows →
      ∃ outcome, Verdict (scope.depth + 3) columns rows outcome ∧
        ((∃ table, outcome = .ok table) ↔ ∃ names given, columns = some names ∧
          rows = some given ∧ names.Nodup ∧ ∀ row ∈ given, IsKnown names row) ∧
        ∀ members, Tells members columns rows → (∀ m ∈ members, m.2.isMalformed = false) →
          decoderIn order scope (.object members) = told outcome) ∧
    ∀ members, Tells members columns rows →
      ¬ (AreReadable (scope.depth + 3) rows ∧ ∀ m ∈ members, m.2.isMalformed = false) →
      ∃ failure, decoderIn order scope (.object members) = .error failure ∧ failure.IsFault := by
  constructor
  · intro hreadable
    obtain ⟨keyed, hkeyed⟩ := exists_rel_areRead_iff.mpr hreadable
    have hverdict : Verdict (scope.depth + 3) columns rows (ofParts order columns keyed) :=
      verdict_ofParts hkeyed
    refine ⟨ofParts order columns keyed, hverdict, hverdict.exists_table_iff, ?_⟩
    intro members htells hwhole
    exact decoder_of_parts (partsDecoder_object_eq_ok_iff.mpr ⟨⟨rows, htells, hkeyed⟩, hwhole⟩)
  · intro members htells hfaulty
    cases hparts : partsDecoder scope (.object members) with
    | error failure =>
      refine ⟨failure, ?_, admits_partsDecoder htells failure hparts⟩
      rw [decoderIn, hparts]
    -- what has been read are the rows that are told, so their values can be read
    | ok parts =>
      obtain ⟨⟨given, hgiven, hkeyed⟩, hwhole⟩ := partsDecoder_object_eq_ok_iff.mp hparts
      obtain ⟨-, rfl⟩ := htells.unique hgiven
      exact absurd ⟨exists_rel_areRead_iff.mp ⟨_, hkeyed⟩, hwhole⟩ hfaulty

/-- Keys that are met from the last to the first. -/
def KeyOrder.reversed : KeyOrder where
  arrange _ members := members.reverse
  perm _ members := members.reverse_perm

/-- Columns after the rows, a number of rows that is wrong, a key given twice in the first row, one
    left out in both, and two in the second that are not columns. -/
def jumbled : List (String × Json) :=
  [("rowCount", .integer 99),
   ("rows", .array
     [.object [("B", .integer 1), ("B", .array [.null])],
      .object [("A", .bool true), ("C", .string "x"), ("D", .null)]]),
   ("columns", .array [.string "A", .string "B"])]

/-- A row with a number that is too great to be read. -/
def overflowing : List (String × Json) :=
  [("columns", .array [.string "A"]),
   ("rows", .array [.object [("A", .broken .numberOutOfRange)]])]

/-- Of the first the second row is reported, with one of the keys that are not columns, the one that
    is met first; of the second the text. -/
theorem outcome_of_parts_jumbled :
    let scope : Scope := { origin := .text }
    let rows : List (List (String × Json)) :=
      [[("B", .integer 1), ("B", .array [.null])],
       [("A", .bool true), ("C", .string "x"), ("D", .null)]]
    Tells jumbled (some ["A", "B"]) (some rows) ∧
    (∃ outcome, Verdict 3 (some ["A", "B"]) (some rows) outcome ∧
      (¬ ∃ table, outcome = .ok table) ∧
      decoderIn .reversed scope (.object jumbled) = told outcome) ∧
    decoderIn .reversed scope (.object jumbled) = told (.error (.unknownKey 1 "D")) ∧
    decoderIn .asWritten scope (.object jumbled) = told (.error (.unknownKey 1 "C")) ∧
    ∃ failure, decoderIn .reversed scope (.object overflowing) = .error failure ∧
      failure.IsFault := by
  intro scope rows
  have htells : Tells jumbled (some ["A", "B"]) (some rows) :=
    ⟨.value rfl (by simp), .value rfl (by simp)⟩
  have hreadable : AreReadable 3 (some rows) := by
    simp only [AreReadable, Option.getD_some, rows, List.forall_mem_cons, List.not_mem_nil,
      false_implies, implies_true, and_true]
    exact ⟨⟨⟨_, rfl⟩, ⟨_, rfl⟩⟩, ⟨_, rfl⟩, ⟨_, rfl⟩, ⟨_, rfl⟩⟩
  have hwhole : ∀ m ∈ jumbled, m.2.isMalformed = false := by decide
  obtain ⟨outcome, hverdict, htable, hdecoder⟩ :=
    (outcome_of_parts .reversed scope (some ["A", "B"]) (some rows)).1 hreadable
  have hparts : partsDecoder scope (.object jumbled) =
      .ok (some ["A", "B"], some [[("B", .integer 1), ("B", .text "[null]")],
        [("A", .boolean true), ("C", .text "x"), ("D", .null)]]) := by cbv
  refine ⟨htells, ⟨outcome, hverdict, ?_, hdecoder jumbled htells hwhole⟩, ?_, ?_, ?_⟩
  · intro hmade
    obtain ⟨names, given, hnames, hgiven, -, hknown⟩ := htable.mp hmade
    cases hnames
    cases hgiven
    have hsecond : [("A", .bool true), ("C", .string "x"), ("D", .null)] ∈ rows := by simp [rows]
    have hcolumn : "C" ∈ ["A", "B"] := hknown _ hsecond ("C", .string "x") (by simp)
    exact absurd hcolumn (by decide)
  · rw [decoder_of_parts hparts, ofParts_of_error (by decide) rfl]
  · rw [decoder_of_parts hparts, ofParts_of_error (by decide) rfl]
  · have hoverflowing :
        Tells overflowing (some ["A"]) (some [[("A", .broken .numberOutOfRange)]]) :=
      ⟨.value rfl (by simp), .value rfl (by simp)⟩
    refine (outcome_of_parts .reversed scope _ _).2 overflowing hoverflowing ?_
    rintro ⟨hvalues, -⟩
    obtain ⟨value, hvalue⟩ := hvalues [("A", .broken .numberOutOfRange)] (by simp)
      ("A", .broken .numberOutOfRange) (by simp)
    cases hvalue

end ReportDesk.Table
