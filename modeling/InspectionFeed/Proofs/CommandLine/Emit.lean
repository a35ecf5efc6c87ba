/-
How a run ends at a line that is no record. Reading tells the number of the
line, and the run ends as runs on faulty data do, unless the line goes beyond
what the reader of JSON takes: a whole number with too many digits, or values
nested too deep. Such a line ends the run too, but with a fault that tells no
line and is not foreseen. So does a line before it whose report cannot be
encoded.
-/
import InspectionFeed.Host.FileTree
import InspectionFeed.Proofs.CommandLine.Encoding
import InspectionFeed.Proofs.Json.LongNumber
import InspectionFeed.Proofs.Text.Ascii

namespace InspectionFeed.CommandLine

/-- The lines that a conversion with these settings reports, on an output that takes every text. -/
def report (settings : Settings) (lines : List String) : List String :=
  ((Conversion.start (.new settings .empty)).pushAll lines).reporter.stream.lines

variable {bytes : List UInt8} {fault : ReadFault}

/-! ## The fault of a run -/

section LongNumber

variable {ds : List Char}

theorem isBlank_of_isDigit {c : Char} (h : c.isDigit = true) : Text.isBlank c = false := by
  obtain ⟨hlow, hhigh⟩ := Char.isDigit_iff_toNat.1 h
  have h0 : '0'.toNat = 48 := rfl
  have h9 : '9'.toNat = 57 := rfl
  simp only [Text.isBlank, Bool.or_eq_false_iff, Bool.and_eq_false_iff, beq_eq_false_iff_ne,
    decide_eq_false_iff_not]
  omega

end LongNumber

/-! ## Lines that are told -/

/-- Half of a surrogate pair in a message ends a run before it gets to a list. -/
example :
    (runEmit (FileTree.host ⟨[]⟩ [])
      ⟨"tcinspect", ["emit", "--no-config"], none, Text.asciiBytes
        "\x7b\"kind\": \"message\", \"text\": \"\\ud800\"\x7d\n[]".toList⟩
      ⟨[.noConfig], []⟩).fault = some (.input "<stdin>" (.unencodable ⟨25, 1, 0xD800⟩)) := by
  decide +kernel

end InspectionFeed.CommandLine
