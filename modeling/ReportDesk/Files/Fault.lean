/-! # File faults

    Why a file is not read, written or started, in the words of the operating system.
-/

namespace ReportDesk.Files

/-- Why a file cannot be used. -/
inductive Fault where
  /-- There is nothing at its path. -/
  | notFound
  /-- It may not be used like this. -/
  | notPermitted
  /-- A part of its path is a file and not a directory. -/
  | notDirectory
  /-- It is a directory. -/
  | isDirectory
  /-- Its bytes do not make a text. -/
  | notText
  deriving DecidableEq, Repr

/-- A fault in words. -/
def Fault.message : Fault → String
  | .notFound => "No such file or directory (os error 2)"
  | .notPermitted => "Permission denied (os error 13)"
  | .notDirectory => "Not a directory (os error 20)"
  | .isDirectory => "Is a directory (os error 21)"
  | .notText => "stream did not contain valid UTF-8"

/-- Whether a fault says that nothing is there. -/
def Fault.isAbsence : Fault → Bool
  | .notFound | .notDirectory => true
  | _ => false

end ReportDesk.Files
