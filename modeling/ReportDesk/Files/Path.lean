import ReportDesk.Text.Pieces

/-! # Paths of files

    A path is a text with slashes. Its last part names a file, what stands before it a directory. A
    part that is empty or a single dot, other than the first, says nothing and is passed over.
-/

namespace ReportDesk.Files

/-- The parts of a path, empty ones included. -/
def parts (path : String) : List String :=
  (Text.pieces '/' path.toList).map String.ofList

/-- Whether a part of a path says nothing. -/
def isIdle (part : String) : Bool :=
  part.isEmpty || part == "."

/-- Parts in reverse without the idle ones in front, the last of them kept. -/
def dropIdle : List String → List String
  | part :: before :: rest =>
    if isIdle part then dropIdle (before :: rest) else part :: before :: rest
  | few => few

/-- A path in reverse parts: what is in front is the last part. -/
def reversedParts (path : String) : List String :=
  dropIdle (parts path).reverse

/-- The name of the file that a path ends in. -/
def fileName? (path : String) : Option String :=
  match reversedParts path with
  | part :: _ => if isIdle part || part == ".." then none else some part
  | [] => none

/-- The path of the directory that a path's last part is in. The root is in none. -/
def parent? (path : String) : Option String :=
  match reversedParts path with
  | [] | [""] => none
  | _ :: before =>
    let text := "/".intercalate (dropIdle before).reverse
    some (if text.isEmpty && path.startsWith "/" then "/" else text)

/-- The path of a name in a directory. -/
def join (directory name : String) : String :=
  if directory.isEmpty || directory.endsWith "/" then directory ++ name
  else directory ++ "/" ++ name

end ReportDesk.Files
