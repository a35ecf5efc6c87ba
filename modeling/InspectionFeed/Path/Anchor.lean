/-
Joining and folding paths by their text, with one separator, as a host
resolves them without looking at links: a dot stands for the directory
itself, two dots for the one above, and above the root is the root. A path
that starts with exactly two separators keeps both.
-/
import InspectionFeed.Path.Separators

namespace InspectionFeed.Path

/-- How many separators a path keeps at its start. -/
def rootSlashes : List Char → Nat
  | '/' :: '/' :: '/' :: _ => 1
  | '/' :: '/' :: _ => 2
  | '/' :: _ => 1
  | _ => 0

/-- Joins a path to a base; a path that starts at the root replaces it. -/
def join (base path : List Char) : List Char :=
  if path.head? = some '/' then path
  else if base = [] ∨ base.getLast? = some '/' then base ++ path
  else base ++ '/' :: path

/-- Folds one component into those before it, the last one first. Below the root nothing is
above. -/
def foldComponent (rooted : Bool) (above : List (List Char)) (component : List Char) :
    List (List Char) :=
  if component = [] ∨ component = ['.'] then above
  else if component = ['.', '.'] then
    match above with
    | [] => if rooted then [] else [component]
    | last :: rest => if last = ['.', '.'] then component :: above else rest
  else component :: above

/-- The components that are left after folding. -/
def foldComponents (rooted : Bool) (cs : List (List Char)) : List (List Char) :=
  (cs.foldl (foldComponent rooted) []).reverse

/-- The folded form of a path. -/
def fold (path : List Char) : List Char :=
  let root := rootSlashes path
  let folded := List.replicate root '/' ++
    joinComponents (foldComponents (root ≠ 0) (components path))
  if folded = [] then ['.'] else folded

/-- A path made absolute: joined to an absolute base and folded. -/
def absoluteFrom (base path : String) : String :=
  .ofList (fold (join base.toList path.toList))

/-- A base directory for reports: kept as it is, with separators forward, when it is absolute on
some platform; otherwise made absolute from `base`. -/
def anchor (base path : String) : String :=
  if isAbsolute (forward path) then forward path else absoluteFrom base (forward path)

end InspectionFeed.Path
