/-
How alike two texts are, and which of some names a misspelt word may mean.

Two texts match in their longest common block, and on both sides of it again
in the same way; of blocks of the same length the one that comes first counts.
The likeness is the share of the matched characters among all characters of
both texts. Names are meant where it is at least three fifths.
-/
import InspectionFeed.Text.Quoted

namespace InspectionFeed.Text

/-! ## Matching -/

/-- The length of the longest common beginning. -/
def commonStart : List Char → List Char → Nat
  | a :: as, b :: bs => if a = b then commonStart as bs + 1 else 0
  | _, _ => 0

/-- A block of characters that two texts share. -/
structure CommonBlock where
  first : Nat
  second : Nat
  size : Nat
  deriving Repr, DecidableEq

/-- The longer of two blocks, the first one of two that are equally long. -/
def CommonBlock.longer (a b : CommonBlock) : CommonBlock := if a.size < b.size then b else a

/-- The longest block that starts at a given place in the first text; `j` is the place in the
second text. -/
def longestFrom (i : Nat) (as : List Char) : Nat → List Char → CommonBlock
  | j, [] => ⟨i, j, 0⟩
  | j, b :: bs => .longer ⟨i, j, commonStart as (b :: bs)⟩ (longestFrom i as (j + 1) bs)

/-- The longest block; `i` is the place in the first text. -/
def longestBlock (bs : List Char) : Nat → List Char → CommonBlock
  | i, [] => ⟨i, 0, 0⟩
  | i, a :: as => .longer (longestFrom i (a :: as) 0 bs) (longestBlock bs (i + 1) as)

/-- The number of characters that match, in at most `fuel` rounds of searching. -/
def matchedWithin : Nat → List Char → List Char → Nat
  | 0, _, _ => 0
  | fuel + 1, as, bs =>
    let block := longestBlock bs 0 as
    if block.size = 0 then 0
    else block.size + matchedWithin fuel (as.take block.first) (bs.take block.second) +
      matchedWithin fuel (as.drop (block.first + block.size)) (bs.drop (block.second + block.size))

/-- The number of characters that match. -/
def matched (as bs : List Char) : Nat := matchedWithin (as.length + 1) as bs

/-! ## Names -/

/-- A name, with how alike it is to a word. -/
structure Likeness where
  name : String
  /-- The characters that match, counted in both texts. -/
  shared : Nat
  total : Nat
  deriving Repr, DecidableEq

namespace Likeness

/-- How alike a name is to a word. Where one of the two is too short for them to be alike, nothing
is matched. -/
def of (word name : String) : Likeness :=
  let total := name.length + word.length
  let possible := 2 * min name.length word.length
  ⟨name, if 5 * possible < 3 * total then 0 else 2 * matched name.toList word.toList, total⟩

/-- The name may be meant. -/
def isClose (l : Likeness) : Bool := 3 * l.total ≤ 5 * l.shared

/-- The first is at least as alike as the second; of two equally alike the later name counts. -/
def atLeast (l m : Likeness) : Bool :=
  m.shared * l.total < l.shared * m.total ||
    (m.shared * l.total == l.shared * m.total && decide (m.name ≤ l.name))

end Likeness

/-- The most names that are given for a word. -/
def suggestionLimit : Nat := 3

/-- The names that a word may mean, sorted. -/
def closeNames (word : String) (names : List String) : List String :=
  let close := (names.map (Likeness.of word)).filter Likeness.isClose
  let best := (close.mergeSort Likeness.atLeast).take suggestionLimit
  (best.map Likeness.name).mergeSort fun a b => decide (a ≤ b)

/-- The question whether one of some names is meant, after a sentence. -/
def suggestion : List String → String
  | [] => ""
  | [name] => " Did you mean " ++ quoted name ++ "?"
  | names => " (Did you mean one of: " ++ ", ".intercalate (names.map quoted) ++ "?)"

end InspectionFeed.Text
