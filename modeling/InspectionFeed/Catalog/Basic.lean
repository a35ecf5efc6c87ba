/-
Catalogs and providers. A catalog is a named list of descriptions of kinds
of findings. A provider is anything with a name that can describe kinds: a
catalog, or a source that also says other things while it describes.
-/
import InspectionFeed.Diagnostic.Basic

namespace InspectionFeed

/-- A catalog of kinds of findings. -/
structure Catalog where
  name : String
  /-- The kinds, in order. -/
  descriptions : List Description
  deriving Repr, DecidableEq

/-- What a provider sends when it is asked for its kinds. -/
inductive Sent
  /-- A text beside the matter. -/
  | text (s : String)
  | description (d : Description)
  deriving Repr, DecidableEq

/-- The description that was sent, if it was one. -/
def Sent.description? : Sent → Option Description
  | .text _ => none
  | .description d => some d

/-- A source of descriptions. -/
inductive Provider
  | catalog (c : Catalog)
  /-- Any other source: its name and what it sends. -/
  | source (name : String) (sent : List Sent)
  deriving Repr, DecidableEq

namespace Provider

/-- The name of a provider. -/
def name : Provider → String
  | .catalog c => c.name
  | .source name _ => name

/-- What a provider sends, in order. -/
def sent : Provider → List Sent
  | .catalog c => c.descriptions.map .description
  | .source _ sent => sent

/-- The descriptions among what a provider sends. -/
def descriptions (p : Provider) : List Description := p.sent.filterMap Sent.description?

/-- The number of kinds, known for catalogs only. -/
def kindCount? : Provider → Option Nat
  | .catalog c => some c.descriptions.length
  | .source .. => none

end Provider

/-- The findings of the preprocessor, which belong to no check. -/
def Catalog.preprocessor : Catalog where
  name := "preprocessor"
  descriptions :=
    [.make "missingInclude" .information "Include file: \"\" not found." "" 0,
      .make "missingIncludeSystem" .information
        ("Include file: <> not found. Please note: Cppcheck does not need standard " ++
          "library headers to get proper results.") "" 0,
      .make "preprocessorErrorDirective" .error "#error message" "" 0]

end InspectionFeed
