import Mathlib
import ReportDesk.Export.Layout

/-! # Rows and the pages they stand on

    The pages of a plan take the rows in order, each page those that follow the rows of the page
    before. So no row is left out and none stands on two pages, whatever the heights of rows and
    pages are.
-/

namespace ReportDesk

/-- The rows of a table from one number up to before another. -/
def Table.rowsIn (table : Table) (range : Nat × Nat) : List (List Cell) :=
  (table.rows.drop range.1).take (range.2 - range.1)

namespace Export

/-- The numbers of the rows on a page. -/
def rowNumbers (range : Nat × Nat) : List Nat :=
  List.range' range.1 (range.2 - range.1)

/-- Pages that begin with row `start`, when rows up to before row `i` are placed and some are to
    come, have all rows from `start` on. -/
theorem flatMap_rowNumbers_paginate (body : Float32) {start i : Nat} (h : start ≤ i)
    (used : Float32) (lines : List Nat) :
    (paginate body start i used lines).flatMap rowNumbers =
      List.range' start (i - start + lines.length) := by
  induction lines generalizing start i used with
  | nil => simp [paginate, rowNumbers]
  | cons first rest ih =>
    unfold paginate
    split
    · -- the page ends before row `i`, which is the first of the next one
      have hsplit : i - start + (first :: rest).length =
          (i - start) + (i + 1 - i + rest.length) := by
        simp only [List.length_cons]
        omega
      have hjoin :=
        List.range'_append_1 (s := start) (m := i - start) (n := i + 1 - i + rest.length)
      rw [Nat.add_sub_cancel' h] at hjoin
      rw [List.flatMap_cons, ih (Nat.le_succ i), hsplit, ← hjoin, rowNumbers]
    · rw [ih (Nat.le_succ_of_le h)]
      congr 1
      simp only [List.length_cons]
      omega

variable (table : Table) (setup : PageSetup)

/-- Every row of a table stands on one page, in order. -/
theorem flatMap_rowNumbers_plan :
    (plan table setup).pages.flatMap rowNumbers = List.range table.rows.length := by
  have hpages : (plan table setup).pages.flatMap rowNumbers = List.range' 0 table.rows.length := by
    simp [plan, flatMap_rowNumbers_paginate]
  rw [hpages, List.range_eq_range']

/-- The rows between two numbers, looked up one by one. -/
theorem rowsIn_eq_filterMap (range : Nat × Nat) :
    table.rowsIn range = (rowNumbers range).filterMap (table.rows[·]?) := by
  obtain ⟨first, last⟩ := range
  simp only [Table.rowsIn, rowNumbers]
  generalize last - first = n
  induction n generalizing first with
  | zero => simp
  | succ n ih =>
    rw [List.range'_succ, List.filterMap_cons, ← ih (first + 1)]
    cases hrow : table.rows[first]? with
    | none =>
      have hend : table.rows.length ≤ first := List.getElem?_eq_none_iff.mp hrow
      simp [List.drop_eq_nil_of_le hend, List.drop_eq_nil_of_le (Nat.le_succ_of_le hend)]
    | some row =>
      obtain ⟨hlt, rfl⟩ := List.getElem?_eq_some_iff.mp hrow
      rw [List.drop_eq_getElem_cons hlt, List.take_succ_cons]

/-- The rows of the pages, one page after the other, are the rows of the table. -/
theorem flatMap_rowsIn_plan : (plan table setup).pages.flatMap table.rowsIn = table.rows := by
  have hall : (List.range table.rows.length).filterMap (table.rows[·]?) = table.rows := by
    have hrows := rowsIn_eq_filterMap table (0, table.rows.length)
    simpa [Table.rowsIn, rowNumbers, ← List.range_eq_range'] using hrows.symm
  calc (plan table setup).pages.flatMap table.rowsIn
      = ((plan table setup).pages.flatMap rowNumbers).filterMap (table.rows[·]?) := by
        rw [List.filterMap_flatMap]
        simp only [← rowsIn_eq_filterMap]
    _ = table.rows := by rw [flatMap_rowNumbers_plan, hall]

end Export

end ReportDesk
