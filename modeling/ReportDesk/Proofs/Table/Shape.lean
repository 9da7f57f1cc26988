import ReportDesk.Proofs.Outcome
import ReportDesk.Table.Wire

/-! # The shape of result tables

    A table has distinct column names and one cell for each of them in every row. It carries the
    proof of this with it, so what there is to be proved is that each operation makes a table with
    the columns and rows that it should, or adds to one, or is refused and changes nothing. Since
    names are distinct a name stands for one column at most, and looking a cell up by row and name
    finds the cell in that place.

    Rows that are given to a new table are looked at only once its column names are known to be
    distinct. This is why a row of the wrong width is not always what is reported.
-/

namespace ReportDesk

open Outcome (bind_eq_ok)

/-! ### Operations -/

namespace Table

/-- A way to make a table, or to add to the one that is there. -/
inductive Operation where
  /-- A table without rows. -/
  | ofColumns (columns : List String)
  /-- A table without rows whose columns are named after labels that may repeat. -/
  | ofLabels (labels : List String)
  /-- A table with rows. -/
  | ofRows (columns : List String) (rows : List (List Cell))
  /-- A table that is read from a JSON document. -/
  | decode (order : KeyOrder) (scope : Json.Scope) (json : Json)
  /-- A row at the end of the table that is there. -/
  | push (row : List Cell)

/-- Why an operation is refused. -/
inductive Refusal where
  /-- By a rule for tables. -/
  | table (error : TableError)
  /-- The document does not decode. -/
  | document (failure : Json.Failure)

/-- Puts a table that has been made in the place of the one that is there. -/
def replace {ε : Type} (wrap : ε → Refusal) : Except ε Table → EStateM Refusal Table Unit
  | .ok made => set made
  | .error error => throw (wrap error)

/-- What an operation does to the table that is there. -/
def Operation.run : Operation → EStateM Refusal Table Unit
  | .ofColumns columns => replace .table (Table.ofColumns columns)
  | .ofLabels labels => set (Table.ofLabels labels)
  | .ofRows columns rows => replace .table (Table.ofRows columns rows)
  | .decode order scope json => replace .document (decoderIn order scope json)
  | .push row => (add row).adaptExcept .table

/-- The table that is there after an operation, whether it was refused or not. -/
def after (table : Table) (operation : Operation) : Table :=
  match operation.run table with
  | .ok () left => left
  | .error _ left => left

/-- The table that is there after several operations, the first of which meets a table without
    columns and rows. -/
def afterAll (operations : List Operation) : Table :=
  operations.foldl after default

/-! ### Distinct columns -/

/-- The name that is reported is there a second time, and no name before it is. -/
theorem firstRepeat?_eq_some {seen : Std.HashSet String} {names : List String} {name : String}
    (h : firstRepeat? seen names = some name) :
    ∃ front back, names = front ++ name :: back ∧ firstRepeat? seen front = none ∧
      (name ∈ seen ∨ name ∈ front) := by
  induction names generalizing seen with
  | nil => cases h
  | cons first rest ih =>
    simp only [firstRepeat?] at h
    split at h
    · next hseen =>
      cases h
      exact ⟨[], rest, rfl, rfl, .inl (by simpa using hseen)⟩
    · next hseen =>
      obtain ⟨front, back, hrest, hfront, hmem⟩ := ih h
      refine ⟨first :: front, back, by simp [hrest], by simp [firstRepeat?, hseen, hfront], ?_⟩
      simp only [Std.HashSet.mem_insert, beq_iff_eq] at hmem
      simp only [List.mem_cons]
      grind

theorem ofColumns_of_nodup {columns : List String} (h : columns.Nodup) :
    ofColumns columns = .ok { columns := columns, nodup := h } := by
  have hnone : firstRepeat? ∅ columns = none :=
    (firstRepeat?_eq_none_iff ∅ columns).mpr (by simp [h])
  unfold ofColumns
  split
  · next hsome => simp [hnone] at hsome
  · rfl

/-- Names that repeat are refused, with the first that repeats one before it. -/
theorem ofColumns_of_not_nodup {columns : List String} (h : ¬ columns.Nodup) :
    ∃ front name back, columns = front ++ name :: back ∧ front.Nodup ∧ name ∈ front ∧
      ofColumns columns = .error (.duplicateColumn name) := by
  unfold ofColumns
  split
  · next name hsome =>
    obtain ⟨front, back, hcolumns, hfront, hmem⟩ := firstRepeat?_eq_some hsome
    exact ⟨front, name, back, hcolumns, nodup_of_firstRepeat? hfront, by simpa using hmem, rfl⟩
  · next hnone => exact absurd (nodup_of_firstRepeat? hnone) h

/-! ### Rows -/

section

variable {table made : Table} {row : List Cell} {rows : List (List Cell)}

theorem add_of_width (h : row.length = table.columns.length) :
    add row table = .ok () (table.extended row h) := by
  simp [add, h, bind, EStateM.bind, get, getThe, MonadStateOf.get, EStateM.get, set, EStateM.set]

/-- A row that does not fit is refused, and the table is left as it is. -/
theorem add_of_misfit (h : row.length ≠ table.columns.length) :
    add row table = .error (.rowWidth table.rows.length table.columns.length row.length) table := by
  simp [add, h, bind, EStateM.bind, get, getThe, MonadStateOf.get, EStateM.get, throw, throwThe,
    MonadExceptOf.throw, EStateM.throw]

theorem push_of_width (h : row.length = table.columns.length) :
    table.push row = .ok (table.extended row h) := by
  rw [push, add_of_width h]

theorem push_of_misfit (h : row.length ≠ table.columns.length) :
    table.push row =
      .error (.rowWidth table.rows.length table.columns.length row.length) := by
  rw [push, add_of_misfit h]

/-- The row that is reported is the first that does not have the width. -/
theorem firstMisfit?_append_cons {width : Nat} {front back : List (List Cell)}
    (hfront : ∀ earlier ∈ front, earlier.length = width) (hrow : row.length ≠ width) (i : Nat) :
    firstMisfit? width i (front ++ row :: back) = some (i + front.length, row.length) := by
  induction front generalizing i with
  | nil => simp [firstMisfit?, hrow]
  | cons first front ih =>
    have hfirst : first.length = width := hfront first (by simp)
    have hlater := ih (fun earlier h => hfront earlier (by simp [h])) (i + 1)
    simp only [List.cons_append, firstMisfit?, hfirst, if_true, hlater, List.length_cons]
    grind

theorem pushAll_of_misfit {i found : Nat}
    (h : firstMisfit? table.columns.length table.rows.length rows = some (i, found)) :
    table.pushAll rows = .error (.rowWidth i table.columns.length found) := by
  unfold pushAll
  split
  · next hsome =>
    rw [h] at hsome
    cases hsome
    rfl
  · next hnone => simp [h] at hnone

/-- The table that is made has the columns of the one before, and the rows behind those of it. -/
theorem pushAll_eq_ok_iff :
    table.pushAll rows = .ok made ↔
      made.columns = table.columns ∧ made.rows = table.rows ++ rows := by
  unfold pushAll
  split
  · next i found hsome =>
    -- a table with all these rows would have one that is too short or too long
    simp only [reduceCtorEq, false_iff]
    rintro ⟨hcolumns, hrows⟩
    have hnone : firstMisfit? table.columns.length table.rows.length rows = none := by
      rw [firstMisfit?_eq_none_iff, ← hcolumns]
      exact fun row hrow => made.width row (by simp [hrows, hrow])
    simp [hnone] at hsome
  · rw [Except.ok.injEq, Table.ext_iff, eq_comm, @eq_comm _ _ made.rows]

theorem exists_pushAll (h : ∀ row ∈ rows, row.length = table.columns.length) :
    ∃ made, table.pushAll rows = .ok made ∧ made.columns = table.columns ∧
      made.rows = table.rows ++ rows := by
  cases hmade : table.pushAll rows with
  | ok made => exact ⟨made, rfl, pushAll_eq_ok_iff.mp hmade⟩
  | error error =>
    have hnone := (firstMisfit?_eq_none_iff _ table.rows.length rows).mpr h
    unfold pushAll at hmade
    split at hmade
    · next hsome => simp [hnone] at hsome
    · cases hmade

/-- Rows are added as if one was added after another. -/
theorem pushAll_cons (table : Table) (row : List Cell) (rows : List (List Cell)) :
    table.pushAll (row :: rows) = table.push row >>= fun made => made.pushAll rows := by
  by_cases hrow : row.length = table.columns.length
  · rw [push_of_width hrow]
    show _ = (table.extended row hrow).pushAll rows
    cases hmisfit : firstMisfit? table.columns.length (table.rows.length + 1) rows with
    | some place =>
      have hsame : firstMisfit? table.columns.length table.rows.length (row :: rows) =
          some place := by simp [firstMisfit?, hrow, hmisfit]
      have hlater : firstMisfit? (table.extended row hrow).columns.length
          (table.extended row hrow).rows.length rows = some place := by simpa using hmisfit
      rw [pushAll_of_misfit hsame, pushAll_of_misfit hlater]
      rfl
    | none =>
      have hwidth : ∀ other ∈ rows, other.length = (table.extended row hrow).columns.length :=
        (firstMisfit?_eq_none_iff _ _ _).mp hmisfit
      obtain ⟨made, hmade, hcolumns, hrows⟩ := exists_pushAll hwidth
      rw [hmade, pushAll_eq_ok_iff]
      exact ⟨hcolumns, by simpa using hrows⟩
  · have hmisfit : firstMisfit? table.columns.length table.rows.length (row :: rows) =
        some (table.rows.length, row.length) := by simp [firstMisfit?, hrow]
    rw [push_of_misfit hrow, pushAll_of_misfit hmisfit]
    rfl

theorem pushAll_eq_foldlM (table : Table) (rows : List (List Cell)) :
    table.pushAll rows = rows.foldlM push table := by
  induction rows generalizing table with
  | nil => exact pushAll_eq_ok_iff.mpr ⟨rfl, by simp⟩
  | cons row rest ih =>
    rw [pushAll_cons, List.foldlM_cons]
    congr 1
    funext made
    exact ih made

end

section

variable {columns : List String}

/-- A table with rows is an empty one to which they are added, one after another. -/
theorem ofRows_eq (columns : List String) (rows : List (List Cell)) :
    ofRows columns rows = ofColumns columns >>= fun empty => rows.foldlM push empty := by
  simp only [ofRows, pushAll_eq_foldlM]

/-- Rows are not looked at while column names repeat. -/
theorem ofRows_of_not_nodup (h : ¬ columns.Nodup) (rows : List (List Cell)) :
    ∃ front name back, columns = front ++ name :: back ∧ front.Nodup ∧ name ∈ front ∧
      ofRows columns rows = .error (.duplicateColumn name) := by
  obtain ⟨front, name, back, hcolumns, hfront, hname, herror⟩ := ofColumns_of_not_nodup h
  refine ⟨front, name, back, hcolumns, hfront, hname, ?_⟩
  rw [ofRows, herror]
  rfl

theorem ofRows_of_nodup (h : columns.Nodup) (rows : List (List Cell)) :
    ofRows columns rows = pushAll { columns := columns, nodup := h } rows := by
  rw [ofRows, ofColumns_of_nodup h]
  rfl

/-- Rows that all have the width are kept in their order. -/
theorem ofRows_of_width (h : columns.Nodup) {rows : List (List Cell)}
    (hwidth : ∀ row ∈ rows, row.length = columns.length) :
    ∃ made, ofRows columns rows = .ok made ∧ made.columns = columns ∧ made.rows = rows := by
  rw [ofRows_of_nodup h]
  exact exists_pushAll hwidth

/-- The first row that does not have the width is reported with its place. -/
theorem ofRows_of_misfit (h : columns.Nodup) {front back : List (List Cell)} {row : List Cell}
    (hfront : ∀ earlier ∈ front, earlier.length = columns.length)
    (hrow : row.length ≠ columns.length) :
    ofRows columns (front ++ row :: back) =
      .error (.rowWidth front.length columns.length row.length) := by
  have hmisfit : firstMisfit? columns.length 0 (front ++ row :: back) =
      some (0 + front.length, row.length) := firstMisfit?_append_cons hfront hrow 0
  rw [ofRows_of_nodup h, pushAll_of_misfit hmisfit, Nat.zero_add]

/-- A table that is there is made of its own columns and rows. -/
theorem ofRows_self (table : Table) : ofRows table.columns table.rows = .ok table := by
  rw [ofRows_of_nodup table.nodup]
  exact pushAll_eq_ok_iff.mpr ⟨rfl, rfl⟩

end

theorem afterAll_ofRows (table : Table) :
    afterAll [.ofRows table.columns table.rows] = table := by
  simp only [afterAll, List.foldl_cons, List.foldl_nil, after, Operation.run, ofRows_self]
  rfl

/-! ### Documents -/

section

variable {order : KeyOrder} {columns : List String} {keyed : List (List (String × Cell))}

/-- A table is made of columns and of the rows that are found for them. -/
theorem ofParts_of_rowsOf {table : Table}
    (hrows : rowsOf order table.columns 0 keyed = .ok table.rows) :
    ofParts order (some table.columns) (some keyed) = .ok table := by
  simp only [ofParts, ofColumns_of_nodup table.nodup, bind, Except.bind]
  split
  · next herror => simp [hrows] at herror
  · next cells hcells =>
    rw [hrows] at hcells
    exact congrArg Except.ok (Table.ext rfl (Except.ok.inj hcells).symm)

theorem ofParts_of_error (h : columns.Nodup) {error : TableError}
    (hrows : rowsOf order columns 0 keyed = .error error) :
    ofParts order (some columns) (some keyed) = .error error := by
  simp only [ofParts, ofColumns_of_nodup h, bind, Except.bind]
  split
  · next herror =>
    rw [hrows] at herror
    exact congrArg Except.error (Except.error.inj herror).symm
  · next hcells => simp [hrows] at hcells

end

/-! ### Operations that are refused -/

/-- An operation that is refused leaves the table as it is. -/
theorem Operation.left_of_refused {table left : Table} {operation : Operation} {refusal : Refusal}
    (h : operation.run table = .error refusal left) : left = table := by
  have hreplace : ∀ {ε : Type} {wrap : ε → Refusal} {made : Except ε Table},
      replace wrap made table = .error refusal left → left = table := by
    intro ε wrap made hmade
    cases made with
    | ok made => cases hmade
    | error error =>
      cases hmade
      rfl
  cases operation with
  | ofColumns columns => exact hreplace h
  | ofLabels labels => cases h
  | ofRows columns rows => exact hreplace h
  | decode order scope json => exact hreplace h
  | push row =>
    simp only [run, EStateM.adaptExcept] at h
    by_cases hrow : row.length = table.columns.length
    · simp [add_of_width hrow] at h
    · rw [add_of_misfit hrow] at h
      cases h
      rfl

/-! ### Looking cells up -/

/-- A name that is in the table stands for its own column. -/
theorem get?_getElem {table : Table} {row i : Nat} (hrow : row < table.rows.length)
    (hi : i < table.columns.length) :
    table.get? row table.columns[i] = table.rows[row][i]? := by
  have hfirst : table.columns.idxOf? table.columns[i] = some i := by
    refine List.idxOf?_eq_some_iff.mpr ⟨hi, rfl, ?_⟩
    intro j hj heq
    have := (table.nodup.getElem_inj_iff).mp heq
    omega
  simp [get?, hfirst, List.getElem?_eq_getElem hrow]

/-- There is no cell beyond the rows, and none for a name that is not there. -/
theorem get?_eq_none {table : Table} {row : Nat} {name : String}
    (h : table.rows.length ≤ row ∨ name ∉ table.columns) : table.get? row name = none := by
  unfold get?
  rcases h with hrow | hname
  · simp [List.getElem?_eq_none hrow]
  · simp [List.idxOf?_eq_none_iff.mpr hname]

/-! ### All together -/

/-- Whatever was done to a table, its column names are distinct and each row has one cell for each
    of them, an operation that is refused leaves it as it is, and looking up a cell finds the one
    in that row and column, or none where there is no such row or column. A row that fits is added
    at the end. A new table with rows is an empty one to which they are added one after another: it
    keeps them all, or is refused: for a column name that repeats an earlier one, else for the first
    row that does not have one cell for each column. -/
theorem shape_afterAll (operations : List Operation) :
    let table := afterAll operations
    (table.columns.Nodup ∧ ∀ row ∈ table.rows, row.length = table.columns.length) ∧
    (∀ operation refusal left, operation.run table = .error refusal left →
      left = table ∧ afterAll (operations ++ [operation]) = table) ∧
    (∀ row i (hrow : row < table.rows.length) (hi : i < table.columns.length),
      ∃ cell, table.rows[row][i]? = some cell ∧ table.get? row table.columns[i] = some cell) ∧
    (∀ row name, table.rows.length ≤ row ∨ name ∉ table.columns → table.get? row name = none) ∧
    (∀ row, row.length = table.columns.length → ∃ made, table.push row = .ok made ∧
      made.columns = table.columns ∧ made.rows = table.rows ++ [row]) ∧
    ∀ columns rows,
      ofRows columns rows = (ofColumns columns >>= fun empty => rows.foldlM push empty) ∧
      (¬ columns.Nodup → ∃ front name back, columns = front ++ name :: back ∧ front.Nodup ∧
        name ∈ front ∧ ofRows columns rows = .error (.duplicateColumn name)) ∧
      (columns.Nodup → (∀ row ∈ rows, row.length = columns.length) →
        ∃ made, ofRows columns rows = .ok made ∧ made.columns = columns ∧ made.rows = rows) ∧
      (columns.Nodup → ∀ front row back, rows = front ++ row :: back →
        (∀ earlier ∈ front, earlier.length = columns.length) → row.length ≠ columns.length →
        ofRows columns rows = .error (.rowWidth front.length columns.length row.length)) := by
  intro table
  refine ⟨⟨table.nodup, table.width⟩, ?_, ?_, fun row name h => get?_eq_none h, ?_, ?_⟩
  · intro operation refusal left hrefused
    have hleft : left = table := Operation.left_of_refused hrefused
    have hstep : afterAll (operations ++ [operation]) = table.after operation := by
      simp [afterAll, table]
    refine ⟨hleft, ?_⟩
    rw [hstep, after, hrefused]
    exact hleft
  · intro row i hrow hi
    have hwidth : i < table.rows[row].length := by
      rw [table.width _ (List.getElem_mem hrow)]
      exact hi
    refine ⟨table.rows[row][i], List.getElem?_eq_getElem hwidth, ?_⟩
    rw [get?_getElem hrow hi, List.getElem?_eq_getElem hwidth]
  · intro row hrow
    exact ⟨table.extended row hrow, push_of_width hrow, rfl, rfl⟩
  · intro columns rows
    refine ⟨ofRows_eq columns rows, fun h => ofRows_of_not_nodup h rows,
      fun h hwidth => ofRows_of_width h hwidth, ?_⟩
    intro h front row back hrows hfront hrow
    rw [hrows]
    exact ofRows_of_misfit h hfront hrow

/-- A table with one cell: it is found, a row that is too short is refused and changes nothing, and
    such a row is reported with its place when it is given to a new table. -/
theorem shape_afterAll_single :
    let operations : List Operation := [.ofRows ["A"] [[.boolean true]]]
    afterAll (operations ++ [.push []]) = afterAll operations ∧
    (afterAll operations).get? 0 "A" = some (.boolean true) ∧
    (afterAll operations).get? 1 "A" = none ∧
    ofRows ["A"] [[.boolean true], []] = .error (.rowWidth 1 1 0) := by
  intro operations
  let table : Table := { columns := ["A"], rows := [[.boolean true]] }
  have htable : afterAll operations = table := afterAll_ofRows table
  obtain ⟨-, hrefused, hcell, hnone, -, hnew⟩ := shape_afterAll operations
  refine ⟨(hrefused (.push []) (.table (.rowWidth 1 1 0)) table ?_).2, ?_, ?_, ?_⟩
  · rw [htable]
    rfl
  · obtain ⟨cell, hplace, hfound⟩ := hcell 0 0 (by simp [htable, table]) (by simp [htable, table])
    simp only [htable, table] at hplace hfound ⊢
    rw [← hplace] at hfound
    exact hfound
  · exact hnone 1 "A" (.inl (by simp [htable, table]))
  · exact (hnew ["A"] _).2.2.2 (by decide) [[.boolean true]] [] [] rfl (by simp) (by simp)

/-- With a column name that repeats, it is not the width of a row that is reported. -/
theorem not_rowWidth_of_repeated :
    ¬ ∀ (columns : List String) (front : List (List Cell)) (row : List Cell)
        (back : List (List Cell)),
      (∀ earlier ∈ front, earlier.length = columns.length) → row.length ≠ columns.length →
      ofRows columns (front ++ row :: back) =
        .error (.rowWidth front.length columns.length row.length) := by
  intro hclaim
  have hwidth := hclaim ["A", "A"] [] [.text "x"] [] (by simp) (by simp)
  have hrepeat : ¬ ["A", "A"].Nodup := by simp
  obtain ⟨front, name, back, -, -, -, herror⟩ :=
    ofRows_of_not_nodup hrepeat ([] ++ [.text "x"] :: [])
  rw [herror] at hwidth
  cases hwidth

end Table

end ReportDesk
