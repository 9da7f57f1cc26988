import ReportDesk.Export.Format
import ReportDesk.Export.Wrap
import ReportDesk.Table.Basic

/-! # Page layout

    How a table is laid out on pages, before anything is drawn: how wide a column is, how many lines
    each row takes, and which rows stand on which page. Rows are never split; a page takes rows as
    long as they fit, and at least one. Lengths are in millimetres, in single precision, added up
    in row order.
-/

namespace ReportDesk.Export

/-! ### Measures -/

/-- The blank border of a page. -/
def margin : Float32 := 12
/-- The band of the title below the border. -/
def titleBand : Float32 := 14
/-- The band of the page number above the lower border. -/
def footerBand : Float32 := 10
/-- The distance of two lines of a cell. -/
def lineHeight : Float32 := 3.7
/-- What a row is higher than its lines. -/
def rowPadding : Float32 := 2.8
/-- The space at either side of a cell. -/
def cellPadding : Float32 := 1.5
/-- The size of the title in points. -/
def titleSize : Float32 := 14
/-- The size of all other text in points. -/
def textSize : Float32 := 8
/-- How wide a character is taken to be, in units of its size. -/
def glyphWidth : Float32 := 0.5
/-- A point in millimetres. -/
def pointLength : Float32 := 0.352778

/-- The greater of two lengths. -/
def longer (x y : Float32) : Float32 :=
  if x < y then y else x

/-- The height of a row of so many lines. -/
def rowHeight (lines : Nat) : Float32 :=
  Float32.ofNat (max lines 1) * lineHeight + rowPadding

/-- How many characters fit into a line of a cell. -/
def charsPerLine (columnWidth : Float32) : Nat :=
  let usable := longer (columnWidth - 2 * cellPadding) 0
  max (usable / (textSize * glyphWidth * pointLength)).toUInt64.toNat 1

/-! ### The plan -/

/-- The layout of a table. -/
structure Layout where
  /-- The width of a page. -/
  pageWidth : Float32
  /-- The height of a page. -/
  pageHeight : Float32
  /-- The width of a column. -/
  columnWidth : Float32
  /-- How many characters fit into a line of a cell. -/
  lineChars : Nat
  /-- How many lines the header takes. -/
  headerLines : Nat
  /-- How many lines each row takes. -/
  rowLines : List Nat
  /-- The rows of each page, from the first up to before the second number. -/
  pages : List (Nat × Nat)

/-- How many lines the highest of some texts takes. -/
def lineCount (texts : List String) (width : Nat) : Nat :=
  ((texts.map fun text => (wrap text width).length).max?).getD 1

/-- The height that a page has for rows, under a header of so many lines. -/
def bodyHeight (pageHeight : Float32) (headerLines : Nat) : Float32 :=
  pageHeight - 2 * margin - titleBand - footerBand - rowHeight headerLines

/-- The height that a page has for rows. -/
def Layout.bodyHeight (layout : Layout) : Float32 :=
  Export.bodyHeight layout.pageHeight layout.headerLines

/-- The pages of rows with these numbers of lines, the first being row `i`. The current page began
    with row `start`, and its rows so far have the height `used`. -/
def paginate (body : Float32) (start i : Nat) (used : Float32) : List Nat → List (Nat × Nat)
  | [] => [(start, i)]
  | lines :: rest =>
    if start < i && used + rowHeight lines > body then
      (start, i) :: paginate body i (i + 1) (0 + rowHeight lines) rest
    else paginate body start (i + 1) (used + rowHeight lines) rest

/-- The layout of a table on pages. -/
def plan (table : Table) (setup : PageSetup) : Layout :=
  let (width, height) := setup.millimetres
  let columnWidth := (width - 2 * margin) / Float32.ofNat (max table.columns.length 1)
  let lineChars := charsPerLine columnWidth
  let headerLines := lineCount table.columns lineChars
  let rowLines := table.rows.map fun row => lineCount (row.map Cell.display) lineChars
  { pageWidth := width
    pageHeight := height
    columnWidth := columnWidth
    lineChars := lineChars
    headerLines := headerLines
    rowLines := rowLines
    pages := paginate (bodyHeight height headerLines) 0 0 0 rowLines }

end ReportDesk.Export
