import ReportDesk.Export.Pages
import ReportDesk.Export.Sheet
import ReportDesk.Export.Word

/-! # Documents

    A table as a document of any format, with the name of its file.
-/

namespace ReportDesk.Export

/-- What a document holds. -/
inductive Content where
  | sheet (sheet : Sheet)
  | pages (pages : List Page)
  | word (document : WordDocument)

/-- A document. -/
structure Document where
  /-- Its format. -/
  format : Format
  /-- The name of its file. -/
  fileName : String
  /-- What it holds. -/
  content : Content

/-- A title without blanks around it, if anything is left of it. -/
def shownTitle (title : Option String) : Option String :=
  (title.map Text.trim).filter fun title => !title.isEmpty

/-- What a table looks like in a format. -/
def content (format : Format) (title : Option String) (table : Table) (setup : PageSetup) :
    Except Error Content :=
  match format with
  | .xlsx => (Sheet.ofTable table title).map .sheet
  | .pdf => .ok (.pages (pages table title setup))
  | .docx => .ok (.word (WordDocument.ofTable table title))

/-- The document of a table. `stamp` is the time in the name of a file that is given none. -/
def document (format : Format) (title : Option String) (table : Table) (fileName : Option String)
    (setup : PageSetup) (stamp : String) : Except Error Document := do
  if table.columns.isEmpty then .error .noColumns
  let content ← content format (shownTitle title) table setup
  return { format := format, fileName := format.fileName fileName stamp, content := content }

end ReportDesk.Export
