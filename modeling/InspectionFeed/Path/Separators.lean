/-
Paths as texts, the way analysis engines report them: with either separator
and from any platform. Nothing here looks at a file system, so a report
renders the same wherever it is made.

A path is absolute if it starts at a root, names a share, or starts with a
drive letter and a root. Components are what stands between separators.
-/

namespace InspectionFeed.Path

/-- A character of a path with the separators turned forward. -/
def forwardChar (c : Char) : Char := if c = '\\' then '/' else c

/-- A path with the separators turned forward. -/
def forward (path : String) : String := .ofList (path.toList.map forwardChar)

/-- An ASCII letter, as drives have. -/
def isDriveLetter (c : Char) : Bool := c.isAlpha

/-- The characters start at a root or a drive's root; separators are forward. -/
def startsAtRoot : List Char → Bool
  | '/' :: _ => true
  | c :: ':' :: '/' :: _ => isDriveLetter c
  | _ => false

/-- The path is absolute on some platform. -/
def isAbsolute (path : String) : Bool := startsAtRoot (forward path).toList

/-- The characters between separators. Two separators in a row, or one at an end, give an empty
component. -/
def components : List Char → List (List Char)
  | [] => [[]]
  | c :: cs =>
    if c = '/' then [] :: components cs
    else match components cs with
      | [] => [[c]]
      | w :: ws => (c :: w) :: ws

/-- Components with a separator between each two. -/
def joinComponents : List (List Char) → List Char
  | [] => []
  | [w] => w
  | w :: ws => w ++ '/' :: joinComponents ws

end InspectionFeed.Path
