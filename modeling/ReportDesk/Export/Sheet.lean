import ReportDesk.Export.Format
import ReportDesk.Table.Basic

/-! # Tables as sheets

    A table in a spreadsheet: the title in the first row, over all columns, then after an empty row
    the header and the rows. Without a title the header is the first row. A cell without text is
    not written, except that a formatted one is.
-/

namespace ReportDesk.Export

/-- A written cell of a sheet. -/
structure SheetCell where
  /-- Its row, from 0. -/
  row : Nat
  /-- Its column, from 0. -/
  column : Nat
  /-- The number of its format, 0 being plain. -/
  style : Nat
  /-- Its text; a blank cell has none. -/
  text : Option String
  deriving DecidableEq, Repr

/-- A sheet. -/
structure Sheet where
  /-- Its name. -/
  name : String
  /-- Its cells, row by row. -/
  cells : List SheetCell
  /-- The merged ranges: first and last row, first and last column. -/
  merges : List ((Nat × Nat) × (Nat × Nat)) := []
  deriving DecidableEq, Repr

namespace Sheet

/-- How many columns a sheet has. -/
def maxColumns : Nat := 16384
/-- How many rows a sheet has. -/
def maxRows : Nat := 1048576
/-- How many characters fit into a cell. -/
def maxText : Nat := 32767
/-- How many columns can be counted. -/
def countable : Nat := 65536

/-- The letters of a column from 0: A to Z, then AA and so on. -/
def columnLetters : Nat → Nat → List Char
  | 0, _ => []
  | fuel + 1, column =>
    let letter := Char.ofNat ('A'.toNat + column % 26)
    (if column < 26 then [] else columnLetters fuel (column / 26 - 1)) ++ [letter]

/-- The name of a place in a sheet. -/
def reference (row column : Nat) : String :=
  String.ofList (columnLetters 8 column) ++ toString (row + 1)

/-- The cells of the title. -/
def titleCells (title : String) (width : Nat) : List SheetCell :=
  (List.range width).map fun column =>
    { row := 0, column := column, style := 1, text := if column = 0 then some title else none }

/-- The cells of a formatted row, the first being in `column`; an empty text leaves a blank. -/
def headerCells (row style : Nat) : Nat → List String → List SheetCell
  | _, [] => []
  | column, name :: rest =>
    let text := if name.isEmpty then none else some name
    { row := row, column := column, style := style, text := text } ::
      headerCells row style (column + 1) rest

/-- The cells of a plain row, the first being in `column`; an empty text leaves nothing. -/
def plainCells (row : Nat) : Nat → List String → List SheetCell
  | _, [] => []
  | column, text :: rest =>
    let others := plainCells row (column + 1) rest
    if text.isEmpty then others
    else { row := row, column := column, style := 0, text := some text } :: others

/-- The cells of plain rows, the first being number `row`. -/
def bodyCells : Nat → List (List String) → List SheetCell
  | _, [] => []
  | row, texts :: rest => plainCells row 0 texts ++ bodyCells (row + 1) rest

/-- Whether every cell lies in the sheet and has a text that fits. -/
def check (cells : List SheetCell) : Except Error Unit :=
  if cells.any fun cell => cell.column ≥ maxColumns || cell.row ≥ maxRows then .error .beyondSheet
  else if cells.any fun cell => (cell.text.getD "").length > maxText then .error .longText
  else .ok ()

/-- The sheet of a table with at least one column. -/
def ofTable (table : Table) (title : Option String) : Except Error Sheet := do
  let width := table.columns.length
  let texts := table.rows.map fun row => row.map Cell.display
  match title with
  | none =>
    let cells := headerCells 0 1 0 table.columns ++ bodyCells 1 texts
    check cells
    return { name := "Report", cells := cells }
  | some title =>
    if width > countable then
      .error (.tooLarge .xlsx ("column index " ++ toString (width - 1) ++ " out of range"))
    let cells := titleCells title width ++ headerCells 2 2 0 table.columns ++ bodyCells 3 texts
    check cells
    let merges := if width > 1 then [((0, 0), (0, width - 1))] else []
    return { name := "Report", cells := cells, merges := merges }

/-! ### Stored text -/

/-- Four hexadecimal digits between `_x` and `_`, as they stand for a character in a stored text. -/
def escapedCode (c : Char) : List Char :=
  let ds := (Nat.toDigits 16 c.toNat).map Char.toUpper
  ['_', 'x'] ++ List.replicate (4 - ds.length) '0' ++ ds ++ ['_']

/-- Whether a character is a hexadecimal digit. -/
def isHexDigit (c : Char) : Bool :=
  c.isDigit || ('a' ≤ c && c ≤ 'f') || ('A' ≤ c && c ≤ 'F')

/-- Whether a text begins like a code of a character. -/
def beginsCode : List Char → Bool
  | '_' :: 'x' :: a :: b :: c :: d :: '_' :: _ =>
    isHexDigit a && isHexDigit b && isHexDigit c && isHexDigit d
  | _ => false

/-- Whether a character is stored as its code. -/
def isStoredAsCode (c : Char) : Bool :=
  (c < ' ' && c != '\t' && c != '\n') || c.toNat == 0xFFFE || c.toNat == 0xFFFF

/-- A text as a sheet stores it: control characters as codes, and the mark that begins what looks
    like a code as a code too. `skip` characters belong to such a look-alike and stay. -/
def storedChars : Nat → List Char → List Char
  | _, [] => []
  | skip, c :: rest =>
    if skip = 0 && beginsCode (c :: rest) then escapedCode c ++ storedChars 6 rest
    else if isStoredAsCode c then escapedCode c ++ storedChars (skip - 1) rest
    else c :: storedChars (skip - 1) rest

/-- A text as a sheet stores it. -/
def stored (text : String) : String :=
  String.ofList (storedChars 0 text.toList)

end Sheet

end ReportDesk.Export
