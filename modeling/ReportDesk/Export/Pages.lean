import ReportDesk.Decimal.Fixed
import ReportDesk.Export.Layout
import ReportDesk.Text.Windows1252

/-! # Tables on pages

    The drawing of a table as the operations of each page, in order: the title in the middle, the
    shaded header, the rows of the page, the number of the page. A text is drawn line by line at the
    left of its cell, and a line without characters is not drawn.
-/

namespace ReportDesk.Export

/-! ### Drawing operations -/

/-- A standard font. -/
inductive Font where
  | regular | bold
  deriving DecidableEq, Repr

/-- The name of a font. -/
def Font.name : Font → String
  | .regular => "Helvetica"
  | .bold => "Helvetica-Bold"

/-- An operation on a page. Lengths are in millimetres from the lower left corner. -/
inductive DrawOp where
  /-- Writes a line, beginning at a point. -/
  | text (font : Font) (size x y : Float32) (line : String)
  /-- Sets the colour to fill with. -/
  | color (red green blue : Float32)
  /-- Adds a rectangle between its left, lower, right and upper edges. -/
  | rectangle (left low right high : Float32)
  /-- Fills what was added. -/
  | fill

/-- A drawn page. -/
structure Page where
  /-- Its width in millimetres. -/
  width : Float32
  /-- Its height in millimetres. -/
  height : Float32
  /-- What is drawn, in order. -/
  ops : List DrawOp

/-! ### Drawing -/

/-- How wide a text is taken to be. -/
def textWidth (text : String) (size : Float32) : Float32 :=
  Float32.ofNat text.length * size * glyphWidth * pointLength

/-- The left end of a text in the middle of a page. -/
def centered (layout : Layout) (text : String) (size : Float32) : Float32 :=
  (layout.pageWidth - textWidth text size) / 2

/-- The lines of a cell, the first being number `n`. -/
def drawLines (font : Font) (x baseline : Float32) : Nat → List String → List DrawOp
  | _, [] => []
  | n, line :: rest =>
    let below := drawLines font x baseline (n + 1) rest
    if line.isEmpty then below
    else .text font textSize x (baseline - lineHeight * Float32.ofNat n) line :: below

/-- The cells of a row, the first being number `c`, whose upper edge is at `top`. -/
def drawRow (layout : Layout) (font : Font) (top : Float32) : Nat → List String → List DrawOp
  | _, [] => []
  | c, text :: rest =>
    let baseline := top - rowPadding / 2 - textSize * pointLength
    let x := margin + layout.columnWidth * Float32.ofNat c + cellPadding
    drawLines font x baseline 0 (wrap text layout.lineChars) ++
      drawRow layout font top (c + 1) rest

/-- Rows one below the other, each with its number of lines, from `top` down. -/
def drawRows (layout : Layout) (top : Float32) : List (List String × Nat) → List DrawOp
  | [] => []
  | (texts, lines) :: rest =>
    drawRow layout .regular top 0 texts ++ drawRows layout (top - rowHeight lines) rest

/-- The rows from number `first` up to before `last`, each with its number of lines. -/
def pageRows (table : Table) (layout : Layout) (first last : Nat) : List (List String × Nat) :=
  let rows := List.zip (table.rows.map fun row => row.map Cell.display) layout.rowLines
  (rows.drop first).take (last - first)

/-- The title at the top of a page. -/
def drawTitle (layout : Layout) (title : String) : DrawOp :=
  .text .bold titleSize (longer (centered layout title titleSize) margin)
    (layout.pageHeight - margin - 8) title

/-- The shaded header below the band of the title. -/
def drawHeader (table : Table) (layout : Layout) : List DrawOp :=
  let top := layout.pageHeight - margin - titleBand
  let right := margin + layout.columnWidth * Float32.ofNat (max table.columns.length 1)
  [.color 0.85 0.85 0.85, .rectangle margin (top - rowHeight layout.headerLines) right top, .fill,
    .color 0 0 0] ++ drawRow layout .bold top 0 table.columns

/-- The number of a page at its foot. -/
def drawFooter (layout : Layout) (number total : Nat) : DrawOp :=
  let text := "Page " ++ toString number ++ " of " ++ toString total
  .text .regular textSize (centered layout text textSize) margin text

/-- The page with a number and the rows of a range. -/
def drawPage (table : Table) (layout : Layout) (title : Option String) (number : Nat)
    (rows : Nat × Nat) : Page :=
  let top := layout.pageHeight - margin - titleBand - rowHeight layout.headerLines
  { width := layout.pageWidth
    height := layout.pageHeight
    ops :=
      (title.map (drawTitle layout)).toList ++ drawHeader table layout ++
        drawRows layout top (pageRows table layout rows.1 rows.2) ++
        [drawFooter layout number layout.pages.length] }

/-- The pages with the rows of ranges, numbered from `number`. -/
def drawPages (table : Table) (layout : Layout) (title : Option String) :
    Nat → List (Nat × Nat) → List Page
  | _, [] => []
  | number, rows :: rest =>
    drawPage table layout title number rows :: drawPages table layout title (number + 1) rest

/-- The pages of a table. -/
def pages (table : Table) (title : Option String) (setup : PageSetup) : List Page :=
  let layout := plan table setup
  drawPages table layout title 1 layout.pages

/-! ### In points -/

/-- A length in points. -/
def toPoints (length : Float32) : Float32 :=
  length * 2.834646

end ReportDesk.Export
