import PasteQueue.CommandLine.System
import PasteQueue.Config.File
import PasteQueue.Text.Utf

/-!
A folder of files that is held in memory and lies somewhere in a system, and what paths lead to from
it.
-/

namespace PasteQueue.CommandLine

/-- Names on the way from the root of the system. -/
abbrev Way := List (List Char)

namespace Way

/-- The names of a path. Those that stay where they are count for nothing. -/
def ofPath (path : String) : Way :=
  (path.toList.splitOn '/').filter fun name => !name.isEmpty && name ≠ ['.']

def path (way : Way) : String := "/".intercalate (way.map String.ofList)

end Way

/-- Files by the names on the way to them from the root of the folder. Folders are there as far as
files need them. -/
structure Folder where
  root : Way
  files : List (Way × ByteArray)

namespace Folder

def ofFiles (root : String) (files : List (String × String)) : Folder :=
  ⟨.ofPath root, files.map fun file => (.ofPath file.1, file.2.toUTF8)⟩

inductive Place
  | folder (way : Way)
  | file (bytes : ByteArray)
  /-- Something that cannot be read as a text or passed through. -/
  | blocked
  | nothing

def lookup (folder : Folder) (way : Way) : Place :=
  match folder.files.find? fun file => folder.root ++ file.1 = way with
  | some file => .file file.2
  | none =>
    if way.isPrefixOf folder.root ||
        folder.files.any fun file => way.isPrefixOf (folder.root ++ file.1) then .folder way
    else
      match System.find? way.path with
      | some .folder => .folder way
      | some (.link path) => .folder (.ofPath path)
      | some .file => .blocked
      | some .empty => .file .empty
      | none => .nothing

def longestName : Nat := 255

def longestPath : Nat := 4095

def enter (folder : Folder) (place : Place) (name : List Char) : Place :=
  match place, name with
  | .file _, _ | .blocked, _ => .blocked
  | .nothing, _ => .nothing
  | .folder way, [] | .folder way, ['.'] => .folder way
  | .folder way, ['.', '.'] => .folder way.dropLast
  | .folder way, name =>
    if longestName < (Text.utf8 name).length then .blocked else folder.lookup (way ++ [name])

/-- A path that does not begin with a slash begins in the folder. -/
def placeOf (folder : Folder) (path : List Char) : Place :=
  (path.splitOn '/').foldl folder.enter (.folder (if path.head? = some '/' then [] else folder.root))

/-- The empty path leads nowhere. -/
def find (folder : Folder) (path : String) : Config.Found :=
  if path.isEmpty then .nothing
  else if longestPath < (Text.utf8 path.toList).length then .unreadable
  else
    match folder.placeOf path.toList with
    | .file bytes => .file bytes
    | .nothing => .nothing
    | _ => .unreadable

end Folder

end PasteQueue.CommandLine
