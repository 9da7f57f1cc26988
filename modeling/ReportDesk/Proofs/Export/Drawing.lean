import Mathlib
import ReportDesk.Export.Document
import ReportDesk.Proofs.Export.Lines
import ReportDesk.Proofs.Export.Pagination
import ReportDesk.Proofs.Text.Trimming

/-! # What pages show

    The lines on the pages of a table, in the order in which they are drawn. A page shows the title,
    the names of the columns, the rows that stand on it and its number, and nothing else; each text
    is broken into lines, of which those without characters are not drawn. Since every row stands
    on one page, and lines lose nothing but blanks, the pages show the whole table once.
-/

namespace ReportDesk.Export

open Text (ink)

/-! ### Lines -/

/-- The line that an operation writes, if it writes one. -/
def DrawOp.line? : DrawOp → Option String
  | .text _ _ _ _ line => some line
  | .color _ _ _ => none
  | .rectangle _ _ _ _ => none
  | .fill => none

/-- The lines that operations write, in order. -/
def linesOf (ops : List DrawOp) : List String :=
  ops.filterMap DrawOp.line?

/-- The lines on a page, in the order in which they are written. -/
def Page.lines (page : Page) : List String :=
  linesOf page.ops

@[simp]
theorem linesOf_append (front back : List DrawOp) :
    linesOf (front ++ back) = linesOf front ++ linesOf back :=
  List.filterMap_append

/-- The lines that a row is drawn with, cell by cell. -/
def drawnRow (width : Nat) (row : List Cell) : List String :=
  row.flatMap fun cell => drawnLines width cell.display

/-! ### Parts of a page -/

section

variable (layout : Layout) (font : Font)

theorem linesOf_drawLines (x baseline : Float32) (n : Nat) (lines : List String) :
    linesOf (drawLines font x baseline n lines) = lines.filter fun line => !line.isEmpty := by
  induction lines generalizing n with
  | nil => rfl
  | cons line rest ih =>
    unfold drawLines
    dsimp only
    split
    · next hempty => rw [ih, List.filter_cons_of_neg (by simp [hempty])]
    · next hempty =>
      rw [List.filter_cons_of_pos (by simpa using hempty), ← ih (n + 1)]
      rfl

theorem linesOf_drawRow (top : Float32) (c : Nat) (texts : List String) :
    linesOf (drawRow layout font top c texts) = texts.flatMap (drawnLines layout.lineChars) := by
  induction texts generalizing c with
  | nil => rfl
  | cons text rest ih =>
    rw [drawRow, linesOf_append, linesOf_drawLines, ih, List.flatMap_cons]
    rfl

theorem linesOf_drawRows (top : Float32) (rows : List (List String × Nat)) :
    linesOf (drawRows layout top rows) =
      rows.flatMap fun row => row.1.flatMap (drawnLines layout.lineChars) := by
  induction rows generalizing top with
  | nil => rfl
  | cons row rest ih => rw [drawRows, linesOf_append, linesOf_drawRow, ih, List.flatMap_cons]

theorem linesOf_drawTitle (title : Option String) :
    linesOf (title.map (drawTitle layout)).toList = title.toList := by
  cases title <;> rfl

variable (table : Table)

theorem linesOf_drawHeader :
    linesOf (drawHeader table layout) = table.columns.flatMap (drawnLines layout.lineChars) := by
  rw [drawHeader, linesOf_append, linesOf_drawRow]
  rfl

end

/-! ### Pages -/

section

variable (table : Table) (setup : PageSetup)

/-- The rows that a page draws are those of its range: the numbers of their lines, which go along
    with them, are as many as there are rows. -/
theorem map_fst_pageRows (range : Nat × Nat) :
    (pageRows table (plan table setup) range.1 range.2).map Prod.fst =
      (table.rowsIn range).map fun row => row.map Cell.display := by
  have hzip : ((table.rows.map fun row => row.map Cell.display).zip
      (plan table setup).rowLines).map Prod.fst =
        table.rows.map fun row => row.map Cell.display :=
    List.map_fst_zip (by simp [plan])
  rw [pageRows, List.map_take, List.map_drop, hzip, Table.rowsIn, List.map_take, List.map_drop]

theorem linesOf_body (top : Float32) (range : Nat × Nat) :
    linesOf (drawRows (plan table setup) top (pageRows table (plan table setup) range.1 range.2)) =
      (table.rowsIn range).flatMap (drawnRow (plan table setup).lineChars) := by
  rw [linesOf_drawRows]
  calc (pageRows table (plan table setup) range.1 range.2).flatMap
        (fun row => row.1.flatMap (drawnLines (plan table setup).lineChars))
      = ((pageRows table (plan table setup) range.1 range.2).map Prod.fst).flatMap
          (fun texts => texts.flatMap (drawnLines (plan table setup).lineChars)) := by
        rw [List.flatMap_map]
    _ = (table.rowsIn range).flatMap (drawnRow (plan table setup).lineChars) := by
        rw [map_fst_pageRows, List.flatMap_map]
        simp only [List.flatMap_map]
        rfl

theorem lines_drawPage (title : Option String) (number : Nat) (range : Nat × Nat) :
    (drawPage table (plan table setup) title number range).lines =
      title.toList ++ table.columns.flatMap (drawnLines (plan table setup).lineChars) ++
        (table.rowsIn range).flatMap (drawnRow (plan table setup).lineChars) ++
        ["Page " ++ toString number ++ " of " ++ toString (plan table setup).pages.length] := by
  simp only [Page.lines, drawPage, linesOf_append, linesOf_drawTitle, linesOf_drawHeader,
    linesOf_body]
  rfl

end

theorem length_drawPages (table : Table) (layout : Layout) (title : Option String) (number : Nat)
    (ranges : List (Nat × Nat)) :
    (drawPages table layout title number ranges).length = ranges.length := by
  induction ranges generalizing number with
  | nil => rfl
  | cons range rest ih => simp [drawPages, ih]

theorem getElem?_drawPages (table : Table) (layout : Layout) (title : Option String)
    (number k : Nat) (ranges : List (Nat × Nat)) :
    (drawPages table layout title number ranges)[k]? =
      ranges[k]?.map (drawPage table layout title (number + k)) := by
  induction ranges generalizing number k with
  | nil => rfl
  | cons range rest ih =>
    cases k with
    | zero => rfl
    | succ k =>
      rw [drawPages, List.getElem?_cons_succ, List.getElem?_cons_succ, ih]
      rw [show number + 1 + k = number + (k + 1) by omega]

/-- A table with at least one column becomes a document of pages, as many as are planned. In this
    order, page `k` shows what there is of the title without the blanks around it, the names of the
    columns, the rows that are planned for it, and its number. The rows of all pages are the rows of
    the table, each once and in order; and from the lines of a text nothing is missing but blanks,
    so that an empty cell has none. -/
theorem lines_of_document (table : Table) (hcolumns : table.columns ≠ [])
    (title fileName : Option String) (setup : PageSetup) (stamp : String) :
    let layout := plan table setup
    ∃ drawn pages, document .pdf title table fileName setup stamp = .ok drawn ∧
      drawn.content = .pages pages ∧ pages.length = layout.pages.length ∧
      (∀ k range, layout.pages[k]? = some range → ∃ page, pages[k]? = some page ∧
        page.lines =
          (Text.remaining title).toList ++ table.columns.flatMap (drawnLines layout.lineChars) ++
            (table.rowsIn range).flatMap (drawnRow layout.lineChars) ++
            ["Page " ++ toString (k + 1) ++ " of " ++ toString pages.length]) ∧
      layout.pages.flatMap rowNumbers = List.range table.rows.length ∧
      layout.pages.flatMap table.rowsIn = table.rows ∧
      (∀ text, ink ((drawnLines layout.lineChars text).flatMap String.toList) =
        ink text.toList) ∧
      ∀ cell : Cell, cell.isNull = true → drawnLines layout.lineChars cell.display = [] := by
  intro layout
  have hdocument : document .pdf title table fileName setup stamp =
      .ok { format := .pdf, fileName := Format.pdf.fileName fileName stamp
            content := .pages (pages table (Text.remaining title) setup) } := by
    have hsome : table.columns.isEmpty = false := by simpa using hcolumns
    simp [document, content, hsome, shownTitle, Text.filter_trim_eq_remaining]
  have hlength : (pages table (Text.remaining title) setup).length = layout.pages.length :=
    length_drawPages _ _ _ _ _
  refine ⟨_, pages table (Text.remaining title) setup, hdocument, rfl, hlength, ?_, ?_, ?_, ?_, ?_⟩
  · intro k range hrange
    refine ⟨drawPage table layout (Text.remaining title) (1 + k) range, ?_, ?_⟩
    · have hpage := getElem?_drawPages table layout (Text.remaining title) 1 k layout.pages
      rw [hrange] at hpage
      exact hpage
    · rw [lines_drawPage, hlength, Nat.add_comm 1 k]
  · exact flatMap_rowNumbers_plan table setup
  · exact flatMap_rowsIn_plan table setup
  · exact ink_drawnLines layout.lineChars
  · intro cell hnull
    cases cell with
    | null => rfl
    | _ => cases hnull

/-- A text that is too wide for a column beside one without a value, and below them a row that does
    not fit on the same page. -/
def spread : Table where
  columns := ["A", "B", "C", "D"]
  rows :=
    [[.text "a", .null, .text "the first words stand here and the last word below", .boolean true],
     [.text (String.ofList (List.intersperse '\n' (List.replicate 42 'y'))), .null, .null, .null]]

theorem pages_spread : (plan spread {}).pages = [(0, 1), (1, 2)] := by
  have hrows : (plan spread {}).rowLines = [2, 42] := by decide +kernel
  have hheader : (plan spread {}).headerLines = 1 := by decide +kernel
  have hbody : (plan spread {}).bodyHeight = bodyHeight 210 (plan spread {}).headerLines := rfl
  have hpages : (plan spread {}).pages =
      paginate (plan spread {}).bodyHeight 0 0 0 (plan spread {}).rowLines := rfl
  rw [hpages, hrows, hbody, hheader]
  decide +kernel

/-- Both pages show the title without the blank before it and the names of the columns. The first
    has the row with a text in two lines, and the second the row with a text in many. -/
theorem lines_of_document_spread :
    spread.columns ≠ [] ∧
      ∃ drawn pages, document .pdf (some " T") spread none {} "now" = .ok drawn ∧
        drawn.content = .pages pages ∧
        pages.map Page.lines =
          [["T", "A", "B", "C", "D", "a", "the first words stand here and the last word", "below",
            "true", "Page 1 of 2"],
           ["T", "A", "B", "C", "D"] ++ List.replicate 42 "y" ++ ["Page 2 of 2"]] := by
  have hcolumns : spread.columns ≠ [] := by decide
  have hplan := pages_spread
  have htitle : Text.remaining (some " T") = some "T" := by decide +kernel
  have hwidth : (plan spread {}).lineChars = 46 := by decide +kernel
  obtain ⟨drawn, pages, hdocument, hcontent, hlength, hpages, -⟩ :=
    lines_of_document spread hcolumns (some " T") none {} "now"
  refine ⟨hcolumns, drawn, pages, hdocument, hcontent, ?_⟩
  obtain ⟨first, hfirst, hfirstLines⟩ := hpages 0 (0, 1) (by simp [hplan])
  obtain ⟨second, hsecond, hsecondLines⟩ := hpages 1 (1, 2) (by simp [hplan])
  rw [hplan] at hlength
  obtain ⟨_, _, rfl⟩ := List.length_eq_two.mp hlength
  cases hfirst
  cases hsecond
  have htwo : [first, second].length = 2 := rfl
  rw [List.map_cons, List.map_singleton, hfirstLines, hsecondLines, htitle, hwidth, htwo]
  decide +kernel

end ReportDesk.Export
