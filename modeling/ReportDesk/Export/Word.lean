import ReportDesk.Table.Basic

/-! # Tables in word-processing documents

    A table in a document of text: the title as a centred paragraph, then the table with its header
    row shaded. Every cell is written, also an empty one. Line breaks are not kept.
-/

namespace ReportDesk.Export

/-- A paragraph. -/
structure Paragraph where
  /-- Its text. -/
  text : String
  /-- Whether it is bold. -/
  bold : Bool
  /-- Whether it stands in the middle. -/
  centered : Bool
  /-- Its size in half points. -/
  size : Nat
  deriving DecidableEq, Repr

/-- A cell of a table. -/
structure WordCell where
  /-- Its text. -/
  text : String
  /-- Whether it is bold. -/
  bold : Bool := false
  /-- The colour behind it. -/
  fill : Option String := none
  deriving DecidableEq, Repr

/-- A document with a table. -/
structure WordDocument where
  /-- What stands before the table. -/
  paragraphs : List Paragraph
  /-- The rows of the table. -/
  rows : List (List WordCell)
  deriving DecidableEq, Repr

namespace WordDocument

/-- A text without line breaks. -/
def withoutBreaks (text : String) : String :=
  String.ofList (text.toList.filter fun c => c != '\n' && c != '\r')

/-- The title of a document. -/
def titleParagraph (title : String) : Paragraph :=
  { text := withoutBreaks title, bold := true, centered := true, size := 28 }

/-- The document of a table. -/
def ofTable (table : Table) (title : Option String) : WordDocument :=
  { paragraphs := (title.map titleParagraph).toList
    rows :=
      (table.columns.map fun name =>
        { text := withoutBreaks name, bold := true, fill := some "D9D9D9" }) ::
      table.rows.map fun row => row.map fun cell => { text := withoutBreaks cell.display } }

end WordDocument

end ReportDesk.Export
