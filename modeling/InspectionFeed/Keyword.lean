/-
Vocabularies of keywords. A keyword has a stable key, a name, and perhaps
aliases; each of these spells it. Spellings are compared in a normal form
without white space around them, in lower case, with the hyphen and the
space written as the underscore.

A text names the first keyword in the order of the vocabulary that it
spells, so an earlier keyword hides a later one with a spelling in common.
-/
import InspectionFeed.Text.Blank
import InspectionFeed.Text.Case

namespace InspectionFeed

structure Keyword where
  name : String
  key : String
  aliases : List String
  deriving Repr, DecidableEq

namespace Keyword

/-- A separator inside a spelling, as the underscore. -/
def joinerChar (c : Char) : Char := if c = '-' ∨ c = ' ' then '_' else c

/-- The normal form of a spelling. -/
def normalForm (spelling : String) : String :=
  .ofList ((Text.lower (Text.trim spelling)).toList.map joinerChar)

def spellings (k : Keyword) : List String := k.key :: k.name :: k.aliases

/-- The text spells the keyword. -/
def isSpelledBy (k : Keyword) (text : String) : Bool :=
  k.spellings.any fun s => normalForm s == normalForm text

/-- The keyword of a vocabulary that a text names. -/
def find? (vocabulary : List Keyword) (text : String) : Option Keyword :=
  vocabulary.find? (·.isSpelledBy text)

/-- A vocabulary without the keywords whose key an earlier one has. -/
def distinct : List Keyword → List Keyword
  | [] => []
  | k :: ks => k :: (distinct ks).filter fun other => other.key != k.key

end Keyword

end InspectionFeed
