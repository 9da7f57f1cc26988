import ReportDesk.CommandLine.Run
import ReportDesk.Embedded.Database

/-! # The program

    Reads the files that the command line may need, runs, prints, and ends with the run's status.
    Databases and workers are not reached from here, so that only what needs neither succeeds.
-/

namespace ReportDesk.CommandLine

/-- The text of a file, or why there is none. -/
def readText (path : String) : IO (Except Files.Fault String) := do
  try
    return .ok (← IO.FS.readFile path)
  catch
    | .noFileOrDirectory .. => return .error .notFound
    | .permissionDenied .. => return .error .notPermitted
    | .inappropriateType _ code _ =>
      return .error (if code = 20 then .notDirectory else .isDirectory)
    | _ => return .error .notText

/-- The variables of the environment, as the system shows them to a process. -/
def readEnvironment : IO Environment := do
  match ← readText "/proc/self/environ" with
  | .error _ => return {}
  | .ok text =>
    let entries := (Text.pieces '\x00' text.toList).filterMap (Text.cutAt '=')
    return ⟨entries.map fun (name, value) => (String.ofList name, String.ofList value)⟩

/-- The files that words on the command line may need. -/
def neededFiles (env : Environment) (words : List String) : List String :=
  match Request.parse words with
  | .ok (.order order) =>
    let report := match order.command with
      | .sql file _ | .run file _ => [file]
      | _ => []
    order.config.toList ++ (env.get? "TABULA_CONFIG").toList ++ Settings.usualFiles env ++
      Settings.workerCandidates ++ report
  | _ => []

/-- What is outside when some files have been read. -/
def surroundings (env : Environment) (files : List (String × Except Files.Fault String)) :
    Surroundings Unit :=
  let read (path : String) : Except Files.Fault String :=
    (files.lookup path).getD (.error .notFound)
  { host :=
      { env := env
        isThere := fun path => (read path).toBool
        openFile := fun path => Embedded.databaseAt path .nothing
        startWorker := fun _ _ _ => .error Files.Fault.notPermitted.message }
    read := read
    accept := fun _ => .error .notPermitted
    stamp := ""
    size := fun _ => "0" }

end ReportDesk.CommandLine

open ReportDesk.CommandLine in
/-- Runs the program. -/
def main (words : List String) : IO UInt32 := do
  let env ← readEnvironment
  let files ← (neededFiles env words).mapM fun path => return (path, ← readText path)
  let ending := outcome (surroundings env files) () words
  IO.print ending.output
  IO.eprint ending.report
  return UInt32.ofNat ending.status
