/-! # Guard modes

    How closely a statement is looked at before it is run.
-/

namespace ReportDesk.Guard

/-- How a statement is checked. -/
inductive Mode where
  /-- By its first word and the words in its text. -/
  | denylist
  /-- Also by its structure. -/
  | parsed
  deriving DecidableEq, Repr

/-- The name of a mode. -/
def Mode.name : Mode → String
  | .denylist => "denylist"
  | .parsed => "parsed"

end ReportDesk.Guard
