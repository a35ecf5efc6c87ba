/-
Service messages: lines of text that a build server picks out of a program's
output. A message has a name and either a single value or attributes.

Attributes are written in the order of their keys by code point, so the same
attributes always give the same line. Names and keys are written as they are,
values are escaped. The line has no end of line.
-/
import InspectionFeed.Message.Escape

namespace InspectionFeed

/-- What a message carries. -/
inductive Payload
  | value (text : String)
  | attributes (pairs : List (String × String))
  deriving Repr, DecidableEq

/-- A service message. -/
structure Message where
  name : String
  payload : Payload
  deriving Repr, DecidableEq

namespace Message

/-- How every service message begins. -/
def opening : String := "##teamcity["

/-- How every service message ends. -/
def closing : String := "]"

/-- Attributes in the order of their keys. -/
def sortPairs (pairs : List (String × String)) : List (String × String) :=
  pairs.mergeSort fun a b => decide (a.1 ≤ b.1)

/-- A value between quotes. -/
def quotedValue (value : String) : String := "'" ++ escape value ++ "'"

/-- One attribute with the space before it. -/
def attributeText (pair : String × String) : String :=
  " " ++ pair.1 ++ "=" ++ quotedValue pair.2

/-- The text between a message's name and its end. -/
def payloadText : Payload → String
  | .value text => " " ++ quotedValue text
  | .attributes pairs => String.join ((sortPairs pairs).map attributeText)

def line (m : Message) : String :=
  opening ++ m.name ++ payloadText m.payload ++ closing

def plain (text : String) : Message := ⟨"message", .attributes [("text", text)]⟩

/-- A message about progress. -/
def progress (subject stage : String) : Message :=
  ⟨"progressMessage", .value ("inspecting '" ++ subject ++ "' stage: " ++ stage)⟩

/-- A message about one finding. -/
def inspection (pairs : List (String × String)) : Message := ⟨"inspection", .attributes pairs⟩

/-- A message about one kind of finding. -/
def inspectionType (pairs : List (String × String)) : Message :=
  ⟨"inspectionType", .attributes pairs⟩

end Message

end InspectionFeed
