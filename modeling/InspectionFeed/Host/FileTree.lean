/-
A finite tree of files and directories, and looking up paths in it the way a
host does: name by name from the left, two dots leading back to the
directory above. Each step needs a directory to stand in, so a path that ends
with a separator or a dot names a directory only.
-/
import InspectionFeed.Host.Basic

namespace InspectionFeed

/-- Files and directories by the names on the way from the root. -/
structure FileTree where
  /-- What stands where. The directories on the way to an entry need no entries. -/
  entries : List (List String × Host.Look)

namespace FileTree

/-- The longest name, in bytes. -/
def nameLimit : Nat := 255

/-- The length from which on a path is too long, in bytes. -/
def pathLimit : Nat := 4096

/-- What stands at a place. -/
def at? (t : FileTree) (place : List String) : Option Host.Look :=
  match t.entries.lookup place with
  | some look => some look
  | none =>
    if place.isEmpty || t.entries.any fun e => place.isPrefixOf e.1 then some .directory else none

/-- Walks on from a place. -/
def walk (t : FileTree) (place : List String) : List String → Host.Look
  | [] => (t.at? place).getD (.absent .noEntry)
  | name :: names =>
    match t.at? place with
    | none => .absent .noEntry
    | some .directory =>
      if name = "" ∨ name = "." then t.walk place names
      else if name = ".." then t.walk place.dropLast names
      else if nameLimit < name.utf8ByteSize then .absent .nameTooLong
      else t.walk (place ++ [name]) names
    | some _ => .absent .notDirectory

/-- What stands at a path, for a program that runs in a directory. -/
def look (t : FileTree) (directory : List String) (path : String) : Host.Look :=
  let names := (Path.components path.toList).map String.ofList
  if !Host.isNameable path then .absent .unnameable
  else if path = "" then .absent .noEntry
  else if pathLimit ≤ path.utf8ByteSize then .absent .nameTooLong
  else t.walk (if path.toList.head? = some '/' then [] else directory) names

/-- A host whose files are those of a tree. -/
def host (t : FileTree) (directory : List String) : Host where
  directory := ⟨1, directory⟩
  look := t.look directory

end FileTree

end InspectionFeed
