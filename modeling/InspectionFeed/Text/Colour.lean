/-
Colours on a terminal, and the control sequences that switch a style on and
off.
-/

namespace InspectionFeed.Text

/-- The eight colours of a terminal. -/
inductive Hue
  | black
  | red
  | green
  | yellow
  | blue
  | magenta
  | cyan
  | white
  deriving Repr, DecidableEq

namespace Hue

/-- All eight, in the order of their numbers. -/
def all : List Hue := [.black, .red, .green, .yellow, .blue, .magenta, .cyan, .white]

/-- The number of a colour among the eight. -/
def number : Hue → Nat
  | .black => 0
  | .red => 1
  | .green => 2
  | .yellow => 3
  | .blue => 4
  | .magenta => 5
  | .cyan => 6
  | .white => 7

def name : Hue → String
  | .black => "black"
  | .red => "red"
  | .green => "green"
  | .yellow => "yellow"
  | .blue => "blue"
  | .magenta => "magenta"
  | .cyan => "cyan"
  | .white => "white"

end Hue

inductive Colour
  | named (hue : Hue) (bright : Bool)
  /-- The one that the terminal has of itself. -/
  | usual
  | indexed (n : Nat)
  | mixed (red green blue : Nat)
  deriving Repr, DecidableEq

namespace Ansi

/-- The sequence that carries codes. -/
def sequence (codes : List Nat) : String := "\x1b[" ++ ";".intercalate (codes.map toString) ++ "m"

/-- The code that ends all styling. -/
def reset : Nat := 0

/-- The code for bold text. -/
def bold : Nat := 1

/-- The code for faint text. -/
def faint : Nat := 2

/-- The code that ends bold and faint text. -/
def endWeight : Nat := 22

/-- The code that ends any colour. -/
def endColour : Nat := 39

/-- The code for a colour that is given by further codes. -/
def chosenColour : Nat := 38

end Ansi

namespace Colour

/-- The codes that switch a colour on. -/
def codes : Colour → List Nat
  | .named hue bright => [(if bright then 90 else 30) + hue.number]
  | .usual => [Ansi.endColour]
  | .indexed n => [Ansi.chosenColour, 5, n]
  | .mixed red green blue => [Ansi.chosenColour, 2, red, green, blue]

/-- The colours that have names. -/
def all : List (String × Colour) :=
  Hue.all.map (fun hue => (hue.name, .named hue false)) ++ [("reset", .usual)] ++
    Hue.all.map fun hue => ("bright_" ++ hue.name, .named hue true)

def ofName? (name : String) : Option Colour := all.lookup name

end Colour

end InspectionFeed.Text
