/-
A console for what users read. A console with colours passes styled text on;
one without removes all control sequences from what it prints, and styles
nothing.

A colour may be asked for by its name, by its number in the palette of 256, or
by the three parts of a mixture, each from 0 to 255.
-/
import InspectionFeed.Text.Ansi
import InspectionFeed.Text.Colour
import InspectionFeed.Value.Literal

namespace InspectionFeed

/-- How a text is styled. -/
structure Style where
  colour : Option Text.Colour
  bold : Option Bool
  deriving Repr, DecidableEq

namespace Style

/-- The codes that switch a style on. -/
def codes (s : Style) : List (List Nat) :=
  (s.colour.map Text.Colour.codes).toList ++
    (s.bold.map fun b => [if b then Text.Ansi.bold else Text.Ansi.endWeight]).toList

/-- A text in a style. All styling ends with the text. -/
def apply (s : Style) (text : String) : String :=
  String.join (s.codes.map Text.Ansi.sequence) ++ text ++ Text.Ansi.sequence [Text.Ansi.reset]

/-- A part of a colour, if the value is one. -/
def part? : Value → Option Nat
  | .int i => if 0 ≤ i ∧ i ≤ 255 then some i.toNat else none
  | _ => none

/-- The colour that a value asks for. -/
def colour? : Value → Option Text.Colour
  | .str name => Text.Colour.ofName? name
  | .list [red, green, blue] => do
    return .mixed (← part? red) (← part? green) (← part? blue)
  | v => (part? v).map .indexed

/-- The complaint about a value that is no colour. -/
def unknownMessage (v : Value) : String := "Unknown color " ++ v.literal

/-- The style with a colour that is asked for. A value that is no colour is the failure, but null
asks for none. -/
def ofRequest (colour : Value) (bold : Option Bool) : Except Value Style :=
  match colour with
  | .null => .ok ⟨none, bold⟩
  | v =>
    match colour? v with
    | some c => .ok ⟨some c, bold⟩
    | none => .error v

/-- The style of warnings. -/
def warning : Style := ⟨some (.named .yellow false), none⟩

/-- The style of errors. -/
def error : Style := ⟨some (.named .red true), none⟩

end Style

structure Console where
  coloured : Bool
  deriving Repr, DecidableEq

namespace Console

/-- What a console writes for a text, which may end its line. -/
def print (c : Console) (text : String) (ending : Bool) : String :=
  (if c.coloured then text else Text.stripAnsi text) ++ if ending then "\n" else ""

/-- What a console writes for a warning. -/
def warn (c : Console) (text : String) (ending : Bool) : String :=
  c.print (Style.warning.apply text) ending

/-- What a console writes for an error. -/
def error (c : Console) (text : String) (ending : Bool) : String :=
  c.print (Style.error.apply text) ending

/-- A text as this console shows it in a style that is asked for. Without colours the request is
not looked at, and any value will do. -/
def styled (c : Console) (colour : Value) (bold : Option Bool) (text : String) :
    Except Value String :=
  if c.coloured then (Style.ofRequest colour bold).map (·.apply text) else .ok text

end Console

end InspectionFeed
