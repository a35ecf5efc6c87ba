/-
How a log line is laid out and painted. The plain layout has the name of the
level and the text; the detailed one, for thresholds below that of general
information, also has the place in the program. Levels without a name are
shown by number. A painted line has the colour of the highest level that is
not above its own.
-/
import InspectionFeed.Log.Event
import InspectionFeed.Text.Paint

namespace InspectionFeed.Log

/-! ## Layouts -/

/-- A place in a program. -/
structure Place where
  file : String
  line : Nat
  function : String
  deriving Repr, DecidableEq

/-- The two layouts. -/
inductive Layout
  | plain
  | detailed
  deriving Repr, DecidableEq

/-- The layout under a threshold. -/
def Layout.under (threshold : Int) : Layout :=
  if threshold < Level.info.number then .detailed else .plain

/-- The pattern that stands for a layout. -/
def Layout.pattern : Layout → String
  | .plain => "[%(levelname)s] %(message)s"
  | .detailed => "[%(levelname)s] [%(filename)s:%(lineno)d] [%(funcName)s] %(message)s"

/-- The name of the number below all levels. -/
def unsetName : String := "NOTSET"

/-- The name of a level that is given by number. -/
def nameOfNumber (n : Int) : String :=
  if n = 0 then unsetName
  else match Level.all.find? (fun l => decide ((l.number : Int) = n)) with
    | some l => l.name
    | none => "Level " ++ toString n

/-- A log line at a place. -/
def Layout.render (l : Layout) (place : Place) (number : Int) (text : String) : String :=
  "[" ++ nameOfNumber number ++ "] " ++
    (match l with
      | .plain => ""
      | .detailed => "[" ++ place.file ++ ":" ++ toString place.line ++ "] [" ++
        place.function ++ "] ") ++ text

/-- A log line in the plain layout. -/
def Event.line (e : Event) : String := "[" ++ e.level.name ++ "] " ++ e.text

/-! ## Paint -/

/-- The paint for a line of a level. -/
def paintOf (number : Int) : List Text.Paint :=
  let colour (hue : Text.Hue) (bright : Bool) : List Text.Paint :=
    (Text.Colour.named hue bright).codes.map (⟨·, Text.Ansi.endColour⟩)
  if Level.critical.number ≤ number then colour .red true
  else if Level.error.number ≤ number then colour .red false
  else if Level.warning.number ≤ number then colour .yellow false
  else if Level.info.number ≤ number then colour .green false
  else if Level.debug.number ≤ number then colour .black true
  else if Level.trace.number ≤ number then colour .blue false
  else ⟨Text.Ansi.faint, Text.Ansi.endWeight⟩ :: colour .red false

/-- A line of a level with its colour. -/
def paint (number : Int) (line : String) : String := Text.Paint.apply (paintOf number) line

end InspectionFeed.Log
