import ReportDesk.Text.Blank
import ReportDesk.Text.Case

/-! # Document formats

    The kinds of documents a table can become, the names they go by, and the names of their files.
-/

namespace ReportDesk.Export

/-- A kind of document. -/
inductive Format where
  /-- A spreadsheet. -/
  | xlsx
  /-- Pages. -/
  | pdf
  /-- A word-processing document. -/
  | docx
  deriving DecidableEq, Repr

/-- Why there is no document. -/
inductive Error where
  /-- The name of no format. -/
  | unknownFormat (name : String)
  /-- The table has no columns. -/
  | noColumns
  /-- More rows or columns than a sheet has. -/
  | beyondSheet
  /-- A text that is too long for the cell of a sheet. -/
  | longText
  /-- More columns than can be counted. -/
  | tooLarge (format : Format) (detail : String)
  deriving DecidableEq, Repr

namespace Format

/-- The end of the names of a format's files, and its own name. -/
def extension : Format → String
  | .xlsx => "xlsx"
  | .pdf => "pdf"
  | .docx => "docx"

/-- The media type of a format. -/
def mimeType : Format → String
  | .xlsx => "application/vnd.openxmlformats-officedocument.spreadsheetml.sheet"
  | .pdf => "application/pdf"
  | .docx => "application/vnd.openxmlformats-officedocument.wordprocessingml.document"

/-- The names of the formats. -/
def names : List (String × Format) :=
  [("xlsx", .xlsx), ("excel", .xlsx), ("pdf", .pdf), ("docx", .docx), ("word", .docx)]

/-- Reads the name of a format, ignoring blanks around it and ASCII case. -/
def parse (name : String) : Except Error Format :=
  match names.lookup (Text.foldAscii (Text.trim name)) with
  | some format => .ok format
  | none => .error (.unknownFormat name)

/-- Whether a name ends like those of a format's files, ignoring ASCII case. -/
def endsName (format : Format) (name : String) : Bool :=
  ('.' :: format.extension.toList).isSuffixOf (Text.foldAscii name).toList

/-- The name of a document's file: the given one without blanks around it, with the format's ending
    unless it has that; if none is given, one made from `stamp`. -/
def fileName (format : Format) (name : Option String) (stamp : String) : String :=
  match (name.map Text.trim).filter (fun name => !name.isEmpty) with
  | some name => if format.endsName name then name else name ++ "." ++ format.extension
  | none => "Report_" ++ stamp ++ "." ++ format.extension

end Format

/-- An error in words. -/
def Error.message : Error → String
  | .unknownFormat name => "unknown export format: " ++ name
  | .noColumns => "cannot export a result with no columns"
  | .beyondSheet =>
    "spreadsheet writer failed: Row or column exceeds Excel's allowed limits (1,048,576 x 16,384)."
  | .longText =>
    "spreadsheet writer failed: String exceeds Excel's limit of 32,767 characters."
  | .tooLarge format detail => "result too large for " ++ format.extension ++ ": " ++ detail

/-! ### Pages -/

/-- The size of a page. -/
inductive PageSize where
  | a4 | letter
  deriving DecidableEq, Repr

/-- Which side of a page is up. -/
inductive Orientation where
  | landscape | portrait
  deriving DecidableEq, Repr

/-- The pages of a document. -/
structure PageSetup where
  /-- Their size. -/
  size : PageSize := .a4
  /-- Which side is up. -/
  orientation : Orientation := .landscape
  deriving DecidableEq, Repr

/-- Width and height of an upright page in millimetres. -/
def PageSize.millimetres : PageSize → Float32 × Float32
  | .a4 => (210, 297)
  | .letter => (215.9, 279.4)

/-- Width and height of the pages in millimetres. -/
def PageSetup.millimetres (setup : PageSetup) : Float32 × Float32 :=
  let (width, height) := setup.size.millimetres
  match setup.orientation with
  | .portrait => (width, height)
  | .landscape => (height, width)

end ReportDesk.Export
