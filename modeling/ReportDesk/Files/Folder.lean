import ReportDesk.Files.Fault
import ReportDesk.Files.Path

/-! # Folders

    A directory in which a program runs, as the files below it. A directory is there when there is a
    file below it. A path is followed part by part, and nothing outside is found.
-/

namespace ReportDesk.Files

/-- The place of a file: the names on the way to it. -/
abbrev Place := List String

/-- A directory whose files hold values of type `α`. -/
structure Folder (α : Type) where
  /-- The files by place. -/
  files : List (Place × α) := []

/-- What is at a place. -/
inductive Entry (α : Type) where
  | file (content : α)
  | directory

namespace Folder

variable {α : Type} (folder : Folder α)

/-- The place that a path's parts name by themselves. -/
def placeOf (path : String) : Place :=
  (parts path).filter fun part => !isIdle part

/-- The folder of files that are given by path. -/
def ofFiles (files : List (String × α)) : Folder α :=
  { files := files.map fun (path, content) => (placeOf path, content) }

/-- What is at a place. -/
def entry? (place : Place) : Option (Entry α) :=
  match folder.files.lookup place with
  | some content => some (.file content)
  | none =>
    if place.isEmpty || folder.files.any fun file => place.isPrefixOf file.1 then some .directory
    else none

/-- The place that is reached from another by following parts of a path. All that is passed
    through has to be a directory; the last part need not be there. -/
def follow (place : Place) : List String → Except Fault Place
  | [] => .ok place
  | part :: rest =>
    match folder.entry? place with
    | none => .error .notFound
    | some (.file _) => .error .notDirectory
    | some .directory =>
      if isIdle part then follow place rest
      else if part = ".." then
        if place.isEmpty then .error .notFound else follow place.dropLast rest
      else follow (place ++ [part]) rest

/-- The place of a path. -/
def reach (path : String) : Except Fault Place :=
  if path.isEmpty || path.startsWith "/" then .error .notFound else folder.follow [] (parts path)

/-- What is at a path. -/
def get (path : String) : Except Fault (Entry α) := do
  let place ← folder.reach path
  match folder.entry? place with
  | some entry => .ok entry
  | none => .error .notFound

/-- What the file at a path holds. -/
def read (path : String) : Except Fault α := do
  match ← folder.get path with
  | .file content => .ok content
  | .directory => .error .isDirectory

/-- Whether there is something at a path. -/
def isThere (path : String) : Bool :=
  (folder.get path).toBool

/-- Whether a file can be written at a path. -/
def accept (path : String) : Except Fault Unit := do
  let place ← folder.reach path
  match folder.entry? place with
  | some .directory => .error .isDirectory
  | _ => .ok ()

/-- Why the program at a path does not start: no file of a folder may be run. A path without a
    slash names a program that is looked for elsewhere. -/
def startFault (path : String) : Fault :=
  if !path.toList.contains '/' then .notFound
  else
    match folder.get path with
    | .ok _ => .notPermitted
    | .error fault => fault

end Folder

end ReportDesk.Files
