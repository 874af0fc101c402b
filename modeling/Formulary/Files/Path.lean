import Formulary.Text.Split

/-!
# Paths

A path is a text whose parts stand between slashes. It keeps the way it was written, since messages
and reports show it; only its last part and the extension of that part are ever taken out.
-/

namespace Formulary.Path

/-- The path starts at the root. -/
def isAbsolute (path : String) : Bool :=
  path.toList.head? = some '/'

/-- The parts of a path; two slashes in a row have an empty part between them. -/
def parts (path : String) : List (List Char) :=
  Text.segments '/' path.toList

/-- A path as seen from a directory. An absolute path stays as it is. -/
def join (directory path : String) : String :=
  if isAbsolute path then path
  else if directory.isEmpty || directory.toList.getLast? = some '/' then directory ++ path
  else directory ++ "/" ++ path

/-- A part that leads nowhere else. -/
def isHere (part : List Char) : Bool :=
  part = [] || part = ['.']

/-- A part that leads to the directory above. -/
def isUp (part : List Char) : Bool :=
  part = ['.', '.']

/-- The last part that leads anywhere, if it is a name. -/
def fileName? (path : String) : Option (List Char) :=
  ((parts path).filter (!isHere ·)).getLast?.filter (!isUp ·)

/-- The text after the last point of the file name, unless the name has no other characters in
front of that point. -/
def extension? (path : String) : Option String := do
  let name ← fileName? path
  let (after, before) ← Text.splitFirst? '.' name.reverse
  if before.isEmpty then none else some (String.ofList after.reverse)

end Formulary.Path
