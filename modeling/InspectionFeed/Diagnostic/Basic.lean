/-
Findings of an analyser, and descriptions of the kinds of findings it can
make.

A finding has a short and a detailed text; where no detailed text is given
it is the short one. The types carry that as an invariant, so an empty
detailed text means that the short one is empty as well.
-/
import InspectionFeed.Severity

namespace InspectionFeed

/-- One place in a file. Line and column count from 1; 0 means unknown. -/
structure Location where
  file : String
  line : Int
  column : Int
  deriving Repr, DecidableEq

/-- The detailed text, defaulting to the short one. -/
def detailedText (short verbose : String) : String := if verbose = "" then short else verbose

theorem detailedText_eq_empty {short verbose : String} (h : detailedText short verbose = "") :
    short = "" := by
  unfold detailedText at h
  split at h
  · exact h
  · contradiction

@[simp] theorem detailedText_of_default {short verbose : String} (h : verbose = "" → short = "") :
    detailedText short verbose = verbose := by
  unfold detailedText
  split
  · rename_i e; rw [h e, e]
  · rfl

/-- A finding. -/
structure Diagnostic where
  kind : String
  short : String
  verbose : String
  severity : Severity
  inconclusive : Bool
  /-- The number of its weakness class; 0 means none. -/
  cwe : Int
  /-- The places it concerns, the primary one first. -/
  frames : List Location
  /-- The file it concerns when it has no place. -/
  file0 : String
  /-- The detailed text defaults to the short one. -/
  short_of_verbose : verbose = "" → short = ""
  deriving Repr, DecidableEq

namespace Diagnostic

/-- The finding with these parts; an empty detailed text becomes the short one. -/
def make (kind short verbose : String) (severity : Severity) (inconclusive : Bool) (cwe : Int)
    (frames : List Location) (file0 : String) : Diagnostic where
  kind := kind
  short := short
  verbose := detailedText short verbose
  severity := severity
  inconclusive := inconclusive
  cwe := cwe
  frames := frames
  file0 := file0
  short_of_verbose := detailedText_eq_empty

/-- The primary place. -/
def primary? (d : Diagnostic) : Option Location := d.frames.head?

/-- The text to show. -/
def text (d : Diagnostic) (detailed : Bool) : String := if detailed then d.verbose else d.short

end Diagnostic

/-- A kind of finding, without places. -/
structure Description where
  kind : String
  severity : Severity
  short : String
  verbose : String
  /-- The number of its weakness class; 0 means none. -/
  cwe : Int
  /-- The detailed text defaults to the short one. -/
  short_of_verbose : verbose = "" → short = ""
  deriving Repr, DecidableEq

namespace Description

/-- The kind with these parts; an empty detailed text becomes the short one. -/
def make (kind : String) (severity : Severity) (short verbose : String) (cwe : Int) :
    Description where
  kind := kind
  severity := severity
  short := short
  verbose := detailedText short verbose
  cwe := cwe
  short_of_verbose := detailedText_eq_empty

/-- The text to show. -/
def text (d : Description) (detailed : Bool) : String := if detailed then d.verbose else d.short

end Description

/-- The kind of a finding. -/
def Diagnostic.describe (d : Diagnostic) : Description :=
  .make d.kind d.severity d.short d.verbose d.cwe

end InspectionFeed
