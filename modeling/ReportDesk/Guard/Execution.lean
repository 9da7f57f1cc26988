import ReportDesk.Database.Basic
import ReportDesk.Guard.Grammar.Statements
import ReportDesk.Guard.ReadOnly

/-! # Guarded execution

    A statement is checked before it is run, and given up when its time is over. It comes back with
    all its rows, or not at all.
-/

namespace ReportDesk.Guard

/-- Why a statement came to nothing. -/
inductive Failure where
  /-- It was not run. -/
  | rejected (reason : Rejection)
  /-- The database failed. -/
  | execution (error : DatabaseError)
  /-- Its time was over. -/
  | timeout (secs : Nat)
  deriving DecidableEq, Repr

/-- A failure in words. -/
def Failure.message : Failure → String
  | .rejected reason => "statement rejected: " ++ reason.message
  | .execution error => "statement failed: " ++ error.message
  | .timeout secs => "statement exceeded the " ++ toString secs ++ " second timeout"

/-- An error of the database as a failure of the statement. -/
def Failure.ofDatabase : DatabaseError → Failure
  | .timeout secs => .timeout secs
  | error => .execution error

/-- Whether a statement only reads, as far as a mode looks. -/
def check (sql : String) (mode : Mode) : Except Rejection Unit :=
  checkBy Grammar.parse sql mode

/-- How long a statement may take, and how closely it is looked at. -/
structure Limits where
  /-- The time in milliseconds. -/
  millis : Nat
  /-- How it is checked. -/
  mode : Mode
  /-- What finds its structure. -/
  parse : Parser := Grammar.parse

variable {σ : Type}

/-- Checks a statement and runs it. -/
def execute (db : Database σ) (limits : Limits) (sql : String) : Action σ Failure Table := do
  match checkBy limits.parse sql limits.mode with
  | .error reason => throw (.rejected reason)
  | .ok () =>
    match ← db.execute sql limits.millis with
    | .inTime (.ok table) => return table
    | .inTime (.error error) => throw (Failure.ofDatabase error)
    | .late _ => throw (.timeout (limits.millis / 1000))

end ReportDesk.Guard
