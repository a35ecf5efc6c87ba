/-
Paths of files on the host: their normal form, name, stem and parent.

The normal form drops empty components and single dots, keeps double dots,
and writes the empty path as a dot. Nothing is folded, so a path through a
link stays as it was written.
-/
import InspectionFeed.Path.Anchor

namespace InspectionFeed

/-- A path of the host, in normal form. -/
structure HostPath where
  /-- How many separators it starts with: two, one, or none. -/
  root : Nat
  /-- Its components, none of them empty or a single dot. -/
  parts : List String
  deriving Repr, DecidableEq

namespace HostPath

/-- Reads a path. -/
def ofString (path : String) : HostPath where
  root := Path.rootSlashes path.toList
  parts := ((Path.components path.toList).filter fun c => c ≠ [] ∧ c ≠ ['.']).map String.ofList

def text (p : HostPath) : String :=
  let s := .ofList (List.replicate p.root '/') ++ "/".intercalate p.parts
  if s = "" then "." else s

/-- The last component, empty for a root and the empty path. -/
def name (p : HostPath) : String := p.parts.getLast?.getD ""

/-- The name without what follows its last point. A point at either end does not count. -/
def stem (p : HostPath) : String :=
  let cs := p.name.toList
  let extension := cs.reverse.takeWhile (· ≠ '.')
  let stem := (cs.take (cs.length - extension.length - 1))
  if extension = [] ∨ stem = [] then p.name else .ofList stem

/-- The path without its last component. -/
def parent (p : HostPath) : HostPath := { p with parts := p.parts.dropLast }

/-- A path below a directory. -/
def child (p : HostPath) (name : String) : HostPath := { p with parts := p.parts ++ [name] }

/-- The path made absolute by its text alone: below a directory, unless it starts at a root. -/
def absoluteIn (p : HostPath) (directory : HostPath) : HostPath :=
  if p.root = 0 then { directory with parts := directory.parts ++ p.parts } else p

end HostPath

end InspectionFeed
