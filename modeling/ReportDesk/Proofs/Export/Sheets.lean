import Mathlib
import ReportDesk.Export.Document
import ReportDesk.Proofs.Outcome
import ReportDesk.Proofs.Text.Trimming

/-! # What sheets and word-processing documents show

    A table is put into a sheet by places and into a word-processing document by rows. The sheet has
    the title in its first row, the names of the columns in the first row or, below a title, in the
    third one, and the rows after that, where a cell without text leaves its place empty. No place
    is used twice, since the cells are written row by row and from left to right. So both documents
    are read back to the same names and the same texts, up to the line breaks that the second one
    drops.
-/

namespace ReportDesk.Export

/-! ### Places -/

/-- Whether a sheet has a cell in a place, with a text or, when it is blank, with none. -/
def Sheet.Holds (sheet : Sheet) (row column : Nat) (text : Option String) : Prop :=
  ∃ cell ∈ sheet.cells, cell.row = row ∧ cell.column = column ∧ cell.text = text

/-- The row of a sheet in which the names of the columns stand. -/
def headerRow (title : Option String) : Nat :=
  if title.isSome then 2 else 0

/-- What a sheet of a table holds, place by place. -/
inductive IsShown (table : Table) (title : Option String) : Nat → Nat → Option String → Prop
  /-- The title is in the first place of all. -/
  | title {text : String} (htitle : title = some text) : IsShown table title 0 0 (some text)
  /-- The places beside it are blank, as far as there are columns. -/
  | beside {column : Nat} (htitle : title.isSome) (hfirst : 0 < column)
      (hlast : column < table.columns.length) : IsShown table title 0 column none
  /-- The names of the columns stand in one row, where an empty one leaves a blank. -/
  | name {column : Nat} {name : String} (hname : table.columns[column]? = some name) :
      IsShown table title (headerRow title) column (if name = "" then none else some name)
  /-- The rows follow, where an empty text leaves nothing. -/
  | cell {i column : Nat} {row : List Cell} {cell : Cell} (hrow : table.rows[i]? = some row)
      (hcell : row[column]? = some cell) (htext : cell.display ≠ "") :
      IsShown table title (headerRow title + 1 + i) column (some cell.display)

/-! ### Reading -/

/-- The text in a place of a sheet, empty if there is none. -/
def Sheet.textAt (sheet : Sheet) (row column : Nat) : String :=
  match sheet.cells.find? fun cell => cell.row == row && cell.column == column with
  | some cell => cell.text.getD ""
  | none => ""

/-- The texts of a sheet in `height` rows from row `top` on, in the first `width` columns. -/
def Sheet.grid (sheet : Sheet) (top height width : Nat) : List (List String) :=
  (List.range height).map fun i => (List.range width).map fun j => sheet.textAt (top + i) j

/-- The texts in the table of a word-processing document. -/
def WordDocument.grid (document : WordDocument) : List (List String) :=
  document.rows.map fun row => row.map (·.text)

/-- The texts of a table: the names of the columns, then the rows. -/
def gridOf (table : Table) : List (List String) :=
  table.columns :: table.rows.map fun row => row.map Cell.display

/-! ### Cells -/

namespace Sheet

/-- Whether one cell stands before another one, row by row and from left to right. -/
def Before (first second : SheetCell) : Prop :=
  first.row < second.row ∨ first.row = second.row ∧ first.column < second.column

theorem pairwise_zipIdx {α : Type} (as : List α) (n : Nat) :
    (as.zipIdx n).Pairwise fun first second => first.2 < second.2 := by
  have hnumbers : ((as.zipIdx n).map Prod.snd).Pairwise (· < ·) := by
    rw [List.zipIdx_map_snd]
    exact List.pairwise_lt_range'
  exact List.pairwise_map.mp hnumbers

/-- A formatted cell with a name, blank if the name is empty. -/
def headerCell (row style column : Nat) (name : String) : SheetCell :=
  { row := row, column := column, style := style, text := if name = "" then none else some name }

theorem headerCells_eq (row style first : Nat) (names : List String) :
    headerCells row style first names =
      (names.zipIdx first).map fun name => headerCell row style name.2 name.1 := by
  induction names generalizing first with
  | nil => rfl
  | cons name rest ih =>
    rw [headerCells, ih, List.zipIdx_cons, List.map_cons]
    simp [headerCell]

/-- A plain cell with a text, if the text is not empty. -/
def plainCell? (row column : Nat) (text : String) : Option SheetCell :=
  if text = "" then none else some { row := row, column := column, style := 0, text := some text }

theorem plainCells_eq (row first : Nat) (texts : List String) :
    plainCells row first texts =
      (texts.zipIdx first).filterMap fun text => plainCell? row text.2 text.1 := by
  induction texts generalizing first with
  | nil => rfl
  | cons text rest ih =>
    rw [plainCells, ih, List.zipIdx_cons, List.filterMap_cons]
    by_cases htext : text = ""
    · simp [plainCell?, htext]
    · simp [plainCell?, htext]

theorem bodyCells_eq (first : Nat) (rows : List (List String)) :
    bodyCells first rows = rows.zipIdx.flatMap fun row => plainCells (first + row.2) 0 row.1 := by
  -- with the rows numbered from `first` on, the induction goes through
  have hnumbered : ∀ first, bodyCells first rows =
      (rows.zipIdx first).flatMap fun row => plainCells row.2 0 row.1 := by
    induction rows with
    | nil => exact fun _ => rfl
    | cons row rest ih =>
      intro first
      rw [bodyCells, ih, List.zipIdx_cons, List.flatMap_cons]
  rw [hnumbered, List.zipIdx_eq_map_add, List.flatMap_map]

/-! ### What stands where -/

theorem mem_titleCells_iff {title : String} {width : Nat} {cell : SheetCell} :
    cell ∈ titleCells title width ↔ ∃ column < width,
      { row := 0, column := column, style := 1,
        text := if column = 0 then some title else none } = cell := by
  simp [titleCells]

theorem mem_headerCells_iff {row style : Nat} {names : List String} {cell : SheetCell} :
    cell ∈ headerCells row style 0 names ↔
      ∃ name column, names[column]? = some name ∧ headerCell row style column name = cell := by
  simp only [headerCells_eq, List.mem_map, Prod.exists, List.mem_zipIdx_iff_getElem?]

theorem mem_plainCells_iff {row : Nat} {texts : List String} {cell : SheetCell} :
    cell ∈ plainCells row 0 texts ↔
      ∃ text column, texts[column]? = some text ∧ plainCell? row column text = some cell := by
  simp only [plainCells_eq, List.mem_filterMap, Prod.exists, List.mem_zipIdx_iff_getElem?]

theorem mem_bodyCells_iff {first : Nat} {rows : List (List String)} {cell : SheetCell} :
    cell ∈ bodyCells first rows ↔
      ∃ texts i, rows[i]? = some texts ∧ cell ∈ plainCells (first + i) 0 texts := by
  simp only [bodyCells_eq, List.mem_flatMap, Prod.exists, List.mem_zipIdx_iff_getElem?]

theorem row_of_mem_headerCells {row style : Nat} {names : List String} {cell : SheetCell}
    (h : cell ∈ headerCells row style 0 names) : cell.row = row := by
  obtain ⟨name, column, -, rfl⟩ := mem_headerCells_iff.mp h
  rfl

theorem row_of_mem_plainCells {row : Nat} {texts : List String} {cell : SheetCell}
    (h : cell ∈ plainCells row 0 texts) : cell.row = row := by
  obtain ⟨text, column, -, hcell⟩ := mem_plainCells_iff.mp h
  unfold plainCell? at hcell
  split at hcell
  · cases hcell
  · cases hcell
    rfl

theorem le_row_of_mem_bodyCells {first : Nat} {rows : List (List String)} {cell : SheetCell}
    (h : cell ∈ bodyCells first rows) : first ≤ cell.row := by
  obtain ⟨texts, i, -, hcell⟩ := mem_bodyCells_iff.mp h
  rw [row_of_mem_plainCells hcell]
  exact Nat.le_add_right first i

/-! ### The order of cells -/

theorem pairwise_titleCells (title : String) (width : Nat) :
    (titleCells title width).Pairwise Before := by
  rw [titleCells, List.pairwise_map]
  exact List.pairwise_lt_range.imp fun h => .inr ⟨rfl, h⟩

theorem pairwise_headerCells (row style : Nat) (names : List String) :
    (headerCells row style 0 names).Pairwise Before := by
  rw [headerCells_eq, List.pairwise_map]
  exact (pairwise_zipIdx names 0).imp fun h => .inr ⟨rfl, h⟩

theorem pairwise_plainCells (row : Nat) (texts : List String) :
    (plainCells row 0 texts).Pairwise Before := by
  rw [plainCells_eq, List.pairwise_filterMap]
  refine (pairwise_zipIdx texts 0).imp fun {first second} h cell hcell cell' hcell' => ?_
  unfold plainCell? at hcell hcell'
  split at hcell
  · cases hcell
  · split at hcell'
    · cases hcell'
    · cases hcell
      cases hcell'
      exact .inr ⟨rfl, h⟩

theorem pairwise_bodyCells (first : Nat) (rows : List (List String)) :
    (bodyCells first rows).Pairwise Before := by
  rw [bodyCells_eq, List.pairwise_flatMap]
  refine ⟨fun row _ => pairwise_plainCells _ _, ?_⟩
  refine (pairwise_zipIdx rows 0).imp fun {upper lower} h cell hcell cell' hcell' => ?_
  have hrow := row_of_mem_plainCells hcell
  have hrow' := row_of_mem_plainCells hcell'
  exact .inl (by omega)

/-- Parts of a sheet that stand in different rows are in order when each of them is. -/
theorem pairwise_append {upper lower : List SheetCell} (row : Nat)
    (hupper : upper.Pairwise Before) (hlower : lower.Pairwise Before)
    (habove : ∀ cell ∈ upper, cell.row < row) (hbelow : ∀ cell ∈ lower, row ≤ cell.row) :
    (upper ++ lower).Pairwise Before := by
  refine List.pairwise_append.mpr ⟨hupper, hlower, fun cell hcell cell' hcell' => .inl ?_⟩
  exact (habove cell hcell).trans_le (hbelow cell' hcell')

/-- Cells that are in order have a place each. -/
theorem nodup_places {cells : List SheetCell} (h : cells.Pairwise Before) :
    (cells.map fun cell => (cell.row, cell.column)).Nodup := by
  rw [List.Nodup, List.pairwise_map]
  refine h.imp fun {first second} hbefore hsame => ?_
  obtain ⟨hrow, hcolumn⟩ := Prod.mk.inj hsame
  rcases hbefore with hlt | ⟨-, hlt⟩
  · omega
  · omega

end Sheet

/-! ### The cells of a table -/

/-- The cells of the title, if there is one. -/
def topCells (title : Option String) (width : Nat) : List SheetCell :=
  match title with
  | some text => Sheet.titleCells text width
  | none => []

/-- The number of the format of the names of the columns. -/
def headerStyle (title : Option String) : Nat :=
  if title.isSome then 2 else 1

/-- All cells of a table. -/
def tableCells (table : Table) (title : Option String) : List SheetCell :=
  topCells title table.columns.length ++
    Sheet.headerCells (headerRow title) (headerStyle title) 0 table.columns ++
    Sheet.bodyCells (headerRow title + 1) (table.rows.map fun row => row.map Cell.display)

variable {table : Table} {title : Option String}

theorem Sheet.ofTable_eq_ok {sheet : Sheet} (h : Sheet.ofTable table title = .ok sheet) :
    sheet.cells = tableCells table title ∧
      sheet.merges = if title.isSome ∧ 1 < table.columns.length
        then [((0, 0), (0, table.columns.length - 1))] else [] := by
  unfold Sheet.ofTable at h
  cases title with
  | none =>
    obtain ⟨-, -, h⟩ := Outcome.bind_eq_ok h
    cases h
    exact ⟨rfl, by simp⟩
  | some text =>
    dsimp only at h
    split at h
    · cases h
    · obtain ⟨-, -, h⟩ := Outcome.bind_eq_ok h
      cases h
      exact ⟨rfl, by simp⟩

/-- The cells of a table are in order. -/
theorem pairwise_tableCells (table : Table) (title : Option String) :
    (tableCells table title).Pairwise Sheet.Before := by
  -- the title is above `headerRow`, and the names of the columns are above the rows
  refine Sheet.pairwise_append (headerRow title + 1) (Sheet.pairwise_append (headerRow title) ?_
    (Sheet.pairwise_headerCells _ _ _) ?_ ?_) (Sheet.pairwise_bodyCells _ _) ?_ ?_
  · cases title with
    | none => exact .nil
    | some text => exact Sheet.pairwise_titleCells _ _
  · intro cell hcell
    cases title with
    | none => cases hcell
    | some text =>
      obtain ⟨column, -, rfl⟩ := Sheet.mem_titleCells_iff.mp hcell
      exact Nat.two_pos
  · exact fun cell hcell => (Sheet.row_of_mem_headerCells hcell).ge
  · intro cell hcell
    refine Nat.lt_succ_of_le ?_
    rcases List.mem_append.mp hcell with hcell | hcell
    · cases title with
      | none => cases hcell
      | some text =>
        obtain ⟨column, -, rfl⟩ := Sheet.mem_titleCells_iff.mp hcell
        exact Nat.zero_le _
    · exact (Sheet.row_of_mem_headerCells hcell).le
  · exact fun cell hcell => Sheet.le_row_of_mem_bodyCells hcell

/-- The cells of a table hold what is shown of it, and nothing else. -/
theorem exists_tableCells_iff (hcolumns : table.columns ≠ []) {row column : Nat}
    {text : Option String} :
    (∃ cell ∈ tableCells table title, cell.row = row ∧ cell.column = column ∧ cell.text = text) ↔
      IsShown table title row column text := by
  constructor
  · -- a cell is one of the title, of the names or of the rows
    rintro ⟨cell, hcell, rfl, rfl, rfl⟩
    rcases List.mem_append.mp hcell with hcell | hbody
    · rcases List.mem_append.mp hcell with htop | hheader
      · cases title with
        | none => cases htop
        | some text =>
          obtain ⟨column, hcolumn, rfl⟩ := Sheet.mem_titleCells_iff.mp htop
          by_cases hfirst : column = 0
          · subst hfirst
            exact .title rfl
          · simp only [hfirst, if_false]
            exact .beside rfl (Nat.pos_of_ne_zero hfirst) hcolumn
      · obtain ⟨name, column, hname, rfl⟩ := Sheet.mem_headerCells_iff.mp hheader
        exact .name hname
    · obtain ⟨texts, i, htexts, hplain⟩ := Sheet.mem_bodyCells_iff.mp hbody
      obtain ⟨text, column, htext, hcell⟩ := Sheet.mem_plainCells_iff.mp hplain
      rw [List.getElem?_map, Option.map_eq_some_iff] at htexts
      obtain ⟨row, hrow, rfl⟩ := htexts
      rw [List.getElem?_map, Option.map_eq_some_iff] at htext
      obtain ⟨value, hvalue, rfl⟩ := htext
      unfold Sheet.plainCell? at hcell
      split at hcell
      · cases hcell
      · next hdisplay =>
        cases hcell
        exact .cell hrow hvalue hdisplay
  · intro h
    cases h with
    | @title text htitle =>
      subst htitle
      have hwidth : 0 < table.columns.length := List.length_pos_iff.mpr hcolumns
      have hmem : _ ∈ topCells (some text) table.columns.length :=
        Sheet.mem_titleCells_iff.mpr ⟨0, hwidth, rfl⟩
      exact ⟨_, List.mem_append_left _ (List.mem_append_left _ hmem), rfl, rfl, rfl⟩
    | beside htitle hfirst hlast =>
      obtain ⟨shown, rfl⟩ := Option.isSome_iff_exists.mp htitle
      have hmem : _ ∈ topCells (some shown) table.columns.length :=
        Sheet.mem_titleCells_iff.mpr ⟨column, hlast, rfl⟩
      exact ⟨_, List.mem_append_left _ (List.mem_append_left _ hmem), rfl, rfl, if_neg hfirst.ne'⟩
    | @name _ name hname =>
      have hmem : _ ∈ Sheet.headerCells (headerRow title) (headerStyle title) 0 table.columns :=
        Sheet.mem_headerCells_iff.mpr ⟨name, column, hname, rfl⟩
      exact ⟨_, List.mem_append_left _ (List.mem_append_right _ hmem), rfl, rfl, rfl⟩
    | @cell i _ row cell hrow hcell htext =>
      have htexts : (table.rows.map fun row => row.map Cell.display)[i]? =
          some (row.map Cell.display) := by rw [List.getElem?_map, hrow]; rfl
      have hdisplay : (row.map Cell.display)[column]? = some cell.display := by
        rw [List.getElem?_map, hcell]; rfl
      refine ⟨_, List.mem_append_right _ (Sheet.mem_bodyCells_iff.mpr ⟨_, i, htexts,
        Sheet.mem_plainCells_iff.mpr ⟨_, column, hdisplay, if_neg htext⟩⟩), rfl, rfl, rfl⟩

/-- A sheet with the cells of a table holds what is shown of it. -/
theorem Sheet.holds_iff {sheet : Sheet} (hcolumns : table.columns ≠ [])
    (hcells : sheet.cells = tableCells table title) {row column : Nat} {text : Option String} :
    sheet.Holds row column text ↔ IsShown table title row column text := by
  rw [← exists_tableCells_iff hcolumns, ← hcells]
  rfl

/-! ### Reading back -/

section

variable {sheet : Sheet} {row column : Nat}

/-- The text in a place is that of its cell, when no place is used twice. -/
theorem Sheet.textAt_of_holds
    (hnodup : (sheet.cells.map fun cell => (cell.row, cell.column)).Nodup) {text : Option String}
    (h : sheet.Holds row column text) : sheet.textAt row column = text.getD "" := by
  obtain ⟨cell, hcell, rfl, rfl, rfl⟩ := h
  have hfind : sheet.cells.find?
      (fun other => other.row == cell.row && other.column == cell.column) = some cell := by
    have hsome : (sheet.cells.find? fun other =>
        other.row == cell.row && other.column == cell.column).isSome :=
      List.find?_isSome.mpr ⟨cell, hcell, by simp⟩
    obtain ⟨found, hfound⟩ := Option.isSome_iff_exists.mp hsome
    have hplace : (found.row, found.column) = (cell.row, cell.column) := by
      simpa using List.find?_some hfound
    rw [hfound, List.inj_on_of_nodup_map hnodup (List.mem_of_find?_eq_some hfound) hcell hplace]
  rw [textAt, hfind]

/-- There is no text where there is no cell. -/
theorem Sheet.textAt_of_not_holds (h : ∀ text, ¬ sheet.Holds row column text) :
    sheet.textAt row column = "" := by
  have hnone : sheet.cells.find? (fun cell => cell.row == row && cell.column == column) = none := by
    rw [List.find?_eq_none]
    intro cell hcell hplace
    obtain ⟨rfl, rfl⟩ : cell.row = row ∧ cell.column = column := by simpa using hplace
    exact h cell.text ⟨cell, hcell, rfl, rfl, rfl⟩
  rw [textAt, hnone]

end

/-- Below the names of the columns, nothing is shown but cells with a text. -/
theorem IsShown.display_ne_empty {i column : Nat} {text : Option String} {row : List Cell}
    {cell : Cell} (h : IsShown table title (headerRow title + 1 + i) column text)
    (hrow : table.rows[i]? = some row) (hcell : row[column]? = some cell) : cell.display ≠ "" := by
  generalize hplace : headerRow title + 1 + i = place at h
  cases h with
  | title => omega
  | beside => omega
  | name => omega
  | @cell i' _ row' cell' hrow' hcell' hdisplay =>
    obtain rfl : i = i' := by omega
    obtain rfl : row' = row := by rw [hrow] at hrow'; exact (Option.some.inj hrow').symm
    obtain rfl : cell' = cell := by rw [hcell] at hcell'; exact (Option.some.inj hcell').symm
    exact hdisplay

/-- The first place of all shows the title and nothing else, if there is a title. -/
theorem IsShown.eq_title {shown : String} {row column : Nat} {text : Option String}
    (h : IsShown table (some shown) row column text) (hrow : row = 0) (hcolumn : column = 0) :
    text = some shown := by
  cases h with
  | title htitle => exact htitle.symm
  | beside _ hfirst => omega
  | name => simp [headerRow] at hrow
  | cell => omega

/-- A list is told by its elements in order. -/
theorem map_range_eq {α β : Type} {f : Nat → β} {g : α → β} (as : List α)
    (h : ∀ i a, as[i]? = some a → f i = g a) : (List.range as.length).map f = as.map g := by
  refine List.ext_getElem (by simp) fun i hi hi' => ?_
  have hlt : i < as.length := by simpa using hi
  simpa using h i as[i] (List.getElem?_eq_getElem hlt)

section

variable {sheet : Sheet}

/-- A sheet that holds what is shown of a table, in a place each, is read back to the texts of the
    table. -/
theorem Sheet.grid_eq (hnodup : (sheet.cells.map fun cell => (cell.row, cell.column)).Nodup)
    (hholds : ∀ row column text,
      sheet.Holds row column text ↔ IsShown table title row column text) :
    sheet.grid (headerRow title) (table.rows.length + 1) table.columns.length = gridOf table := by
  have hname : ∀ (j : Nat) (name : String), table.columns[j]? = some name →
      sheet.textAt (headerRow title) j = name := by
    intro j name hname
    rw [textAt_of_holds hnodup ((hholds _ _ _).mpr (.name hname))]
    by_cases hempty : name = ""
    · simp [hempty]
    · simp [hempty]
  have hcell : ∀ (i j : Nat) (row : List Cell) (cell : Cell), table.rows[i]? = some row →
      row[j]? = some cell → sheet.textAt (headerRow title + 1 + i) j = cell.display := by
    intro i j row cell hrow hcell
    by_cases hempty : cell.display = ""
    · -- the place is empty, and is read as an empty text
      rw [hempty]
      refine textAt_of_not_holds fun text htext => ?_
      exact ((hholds _ _ _).mp htext).display_ne_empty hrow hcell hempty
    · exact textAt_of_holds hnodup ((hholds _ _ _).mpr (.cell hrow hcell hempty))
  rw [grid, gridOf, List.range_succ_eq_map, List.map_cons, List.map_map]
  have hheader : (List.range table.columns.length).map
      (fun j => sheet.textAt (headerRow title + 0) j) = table.columns := by
    exact (map_range_eq table.columns hname).trans (List.map_id _)
  rw [hheader]
  congr 1
  refine map_range_eq table.rows fun i row hrow => ?_
  have hwidth : row.length = table.columns.length := table.width row (List.mem_of_getElem? hrow)
  rw [← hwidth]
  refine map_range_eq row fun j cell hcell' => ?_
  have hplace : headerRow title + (i + 1) = headerRow title + 1 + i := by omega
  rw [hplace]
  exact hcell i j row cell hrow hcell'

end

/-! ### Documents -/

section

variable {format : Format} {given fileName : Option String} {setup : PageSetup} {stamp : String}

theorem document_eq_ok {made : Document}
    (h : document format given table fileName setup stamp = .ok made) :
    table.columns ≠ [] ∧ content format (Text.remaining given) table setup = .ok made.content := by
  unfold document at h
  split at h
  · cases h
  · next hcolumns =>
    obtain ⟨-, -, h⟩ := Outcome.bind_eq_ok h
    obtain ⟨shown, hshown, h⟩ := Outcome.bind_eq_ok h
    cases h
    rw [shownTitle, Text.filter_trim_eq_remaining] at hshown
    exact ⟨by simpa using hcolumns, hshown⟩

/-- A table is put into a sheet under the title without the blanks around it. -/
theorem document_sheet {made : Document}
    (h : document .xlsx given table fileName setup stamp = .ok made) :
    ∃ sheet, made.content = .sheet sheet ∧
      Sheet.ofTable table (Text.remaining given) = .ok sheet := by
  obtain ⟨sheet, hsheet, hcontent⟩ := Outcome.map_eq_ok (document_eq_ok h).2
  exact ⟨sheet, hcontent.symm, hsheet⟩

theorem document_word (hcolumns : table.columns ≠ []) :
    document .docx given table fileName setup stamp =
      .ok { format := .docx, fileName := Format.docx.fileName fileName stamp
            content := .word (WordDocument.ofTable table (Text.remaining given)) } := by
  have hsome : table.columns.isEmpty = false := by simpa using hcolumns
  simp [document, content, hsome, shownTitle, Text.filter_trim_eq_remaining]

end

theorem WordDocument.grid_ofTable (table : Table) (title : Option String) :
    (ofTable table title).grid = (gridOf table).map fun texts => texts.map withoutBreaks := by
  simp [grid, ofTable, gridOf, Function.comp_def]

theorem WordDocument.length_of_mem {row : List WordCell}
    (h : row ∈ (ofTable table title).rows) : row.length = table.columns.length := by
  rcases List.mem_cons.mp h with rfl | h
  · exact List.length_map _
  · obtain ⟨cells, hcells, rfl⟩ := List.mem_map.mp h
    rw [List.length_map]
    exact table.width cells hcells

/-- When a table becomes a sheet it becomes a word-processing document too, and both show the same.
    The sheet holds what there is of the title without the blanks around it, in its first place and
    merged over all columns if there are two or more; the names of the columns in the row
    `headerRow`; and below that the rows, with a cell where a text is not empty and nowhere else. No
    place is used twice. The document has a row with the names of the columns and then the rows,
    with one cell for each column, where line breaks are dropped. So both are read back to the names
    and texts of the table. -/
theorem sheet_and_document_agree {table : Table} {title fileName : Option String}
    {setup : PageSetup} {stamp : String} {made : Document}
    (hmade : document .xlsx title table fileName setup stamp = .ok made) :
    let shown := Text.remaining title
    ∃ sheet written word, made.content = .sheet sheet ∧
      document .docx title table fileName setup stamp = .ok written ∧ written.content = .word word ∧
      (∀ row column text, sheet.Holds row column text ↔
        IsShown table shown row column text) ∧
      (sheet.cells.map fun cell => (cell.row, cell.column)).Nodup ∧
      sheet.merges = (if shown.isSome ∧ 1 < table.columns.length
        then [((0, 0), (0, table.columns.length - 1))] else []) ∧
      (∀ i column row cell, table.rows[i]? = some row → row[column]? = some cell →
        ((∃ text, sheet.Holds (headerRow shown + 1 + i) column text) ↔
          cell.display ≠ "")) ∧
      (∀ row ∈ word.rows, row.length = table.columns.length) ∧
      sheet.grid (headerRow shown) (table.rows.length + 1) table.columns.length =
        gridOf table ∧
      word.grid = (gridOf table).map fun texts => texts.map WordDocument.withoutBreaks := by
  intro shown
  have hcolumns := (document_eq_ok hmade).1
  obtain ⟨sheet, hcontent, hsheet⟩ := document_sheet hmade
  obtain ⟨hcells, hmerges⟩ := Sheet.ofTable_eq_ok hsheet
  have hholds : ∀ row column text, sheet.Holds row column text ↔
      IsShown table shown row column text := fun _ _ _ =>
    Sheet.holds_iff hcolumns hcells
  have hnodup : (sheet.cells.map fun cell => (cell.row, cell.column)).Nodup := by
    rw [hcells]
    exact Sheet.nodup_places (pairwise_tableCells _ _)
  refine ⟨sheet, _, WordDocument.ofTable table shown, hcontent,
    document_word hcolumns, rfl, hholds, hnodup, hmerges, ?_, ?_, ?_, ?_⟩
  · intro i column row cell hrow hcell
    constructor
    · rintro ⟨text, htext⟩
      exact ((hholds _ _ _).mp htext).display_ne_empty hrow hcell
    · exact fun hdisplay => ⟨_, (hholds _ _ _).mpr (.cell hrow hcell hdisplay)⟩
  · exact fun row hrow => WordDocument.length_of_mem hrow
  · exact Sheet.grid_eq hnodup hholds
  · exact WordDocument.grid_ofTable _ _

/-- A title with a blank before it, a text with a line break, and a cell without a value. -/
theorem sheet_and_document_agree_broken :
    let table : Table := { columns := ["A", "B"], rows := [[.text "x\ny", .null]] }
    ∃ made sheet written word,
      document .xlsx (some " T") table none {} "now" = .ok made ∧ made.content = .sheet sheet ∧
      document .docx (some " T") table none {} "now" = .ok written ∧ written.content = .word word ∧
      sheet.Holds 0 0 (some "T") ∧ sheet.merges = [((0, 0), (0, 1))] ∧
      sheet.grid 2 2 2 = [["A", "B"], ["x\ny", ""]] ∧ word.grid = [["A", "B"], ["xy", ""]] := by
  intro table
  have htitle : Text.remaining (some " T") = some "T" := by decide +kernel
  have hmade : ∃ made, document .xlsx (some " T") table none {} "now" = .ok made := ⟨_, rfl⟩
  obtain ⟨made, hmade⟩ := hmade
  obtain ⟨sheet, written, word, hsheet, hwritten, hword, hholds, -, hmerges, -, -, hgrid, hwords⟩ :=
    sheet_and_document_agree hmade
  rw [htitle] at hholds hmerges hgrid
  refine ⟨made, sheet, written, word, hmade, hsheet, hwritten, hword,
    (hholds _ _ _).mpr (.title rfl), hmerges, hgrid, ?_⟩
  rw [hwords]
  decide

/-- A title with a blank before it does not stand in the sheet as it was given. -/
theorem title_without_blanks :
    let table : Table := { columns := ["A"] }
    ∃ made sheet, Text.HasInk " T" ∧
      document .xlsx (some " T") table none {} "now" = .ok made ∧ made.content = .sheet sheet ∧
      ¬ sheet.Holds 0 0 (some " T") := by
  intro table
  have htitle : Text.remaining (some " T") = some "T" := by decide +kernel
  have hcolumns : table.columns ≠ [] := List.cons_ne_nil _ _
  have hmade : ∃ made, document .xlsx (some " T") table none {} "now" = .ok made := ⟨_, rfl⟩
  obtain ⟨made, hmade⟩ := hmade
  obtain ⟨sheet, hcontent, hsheet⟩ := document_sheet hmade
  obtain ⟨hcells, -⟩ := Sheet.ofTable_eq_ok hsheet
  refine ⟨made, sheet, by decide, hmade, hcontent, ?_⟩
  rw [Sheet.holds_iff hcolumns hcells, htitle]
  exact fun hshown => absurd (hshown.eq_title rfl rfl) (by decide)

end ReportDesk.Export
