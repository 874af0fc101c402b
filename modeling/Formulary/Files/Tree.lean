import Formulary.Files.Path

/-!
# File trees and workspaces

`FileTree.look` says what stands at an absolute path of a tree of files. Every part of a path but the
last must lead to a directory, also one that a later `..` leaves again. A `Workspace` is what a command
sees of the files: the directory it works in, and what stands at a path as seen from there.
-/

namespace Formulary

/-- What stands at a path. -/
inductive FileEntry where
  | missing
  | directory
  /-- A file with a text. -/
  | text (s : String)
  /-- A file with bytes that are no text. -/
  | binary
deriving DecidableEq, Repr, Inhabited

namespace FileEntry

/-- A file, whatever its contents. -/
def isFile : FileEntry → Bool
  | .text _ => true
  | .binary => true
  | _ => false

end FileEntry

/-- Files and directories by their parts from the root. Directories on the way to an entry need no
entry of their own. -/
structure FileTree where
  entries : List (List (List Char) × FileEntry) := []

namespace FileTree

/-- The tree with an entry added at an absolute path. -/
def add (t : FileTree) (path : String) (entry : FileEntry) : FileTree :=
  ⟨((Path.parts path).filter (!Path.isHere ·), entry) :: t.entries⟩

/-- What stands at a place given by its names from the root. -/
def entryAt (t : FileTree) (place : List (List Char)) : FileEntry :=
  match t.entries.find? (·.1 == place) with
  | some (_, entry) => entry
  | none =>
    if place.isEmpty || t.entries.any (fun (p, _) => place.isPrefixOf p) then .directory
    else .missing

/-- Where one more part of a path leads from a directory. -/
def enter? (t : FileTree) (place : List (List Char)) (part : List Char) :
    Option (List (List Char)) :=
  if t.entryAt place ≠ .directory then none
  else if Path.isHere part then some place
  else if Path.isUp part then some place.dropLast
  else some (place ++ [part])

/-- What stands at an absolute path. -/
def look (t : FileTree) (path : String) : FileEntry :=
  match (Path.parts path).foldlM t.enter? [] with
  | some place => t.entryAt place
  | none => .missing

end FileTree

/-- A working directory, and what stands at paths as seen from it. -/
structure Workspace where
  directory : String
  look : String → FileEntry

namespace Workspace

/-- The workspace of a directory in a tree. -/
def ofTree (directory : String) (tree : FileTree) : Workspace where
  directory := directory
  look path := tree.look (Path.join directory path)

/-- The workspace of a directory where a list says what stands at paths, as they are written, and
nothing else is there. -/
def ofList (directory : String) (entries : List (String × FileEntry)) : Workspace where
  directory := directory
  look path := ((entries.find? (·.1 == path)).map (·.2)).getD .missing

/-- The absolute form of a path. -/
def full (w : Workspace) (path : String) : String :=
  Path.join w.directory path

/-- A file stands at the path. -/
def isFile (w : Workspace) (path : String) : Bool :=
  (w.look path).isFile

end Workspace

end Formulary
