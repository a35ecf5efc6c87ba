/-
Reading the arguments of a command.

An argument that starts with a dash and is longer than one is an option: a
long one, perhaps with its value after an equals sign, or several short ones
in one. What is no long option and starts with one dash only is read as short
ones. Two dashes alone end the options. A command may let options and other
arguments mix; otherwise the first other argument ends the options too.

`α` is what an option says.
-/
import InspectionFeed.Text.Likeness

namespace InspectionFeed.CommandLine

/-- An option that may be given. -/
inductive Switch (α : Type)
  /-- Says something by being there. It may have a short form. -/
  | flag (long : String) (short : Option Char) (meaning : α)
  | value (long : String) (meaning : String → α)

namespace Switch

variable {α : Type}

/-- The long form. -/
def long : Switch α → String
  | .flag name _ _ => name
  | .value name _ => name

/-- What an option says by its short form, if it has this one. -/
def ofShort? (c : Char) : Switch α → Option α
  | .flag _ (some d) meaning => if c = d then some meaning else none
  | _ => none

end Switch

/-- Why arguments cannot be read. -/
inductive ArgumentFault
  /-- There is no such option. Those of a similar long form may be meant. -/
  | unknown (name : String) (similar : List String)
  | valueMissing (name : String)
  /-- An option has a value and takes none. -/
  | valueUnwanted (name : String)
  deriving Repr, DecidableEq

/-- Arguments that were read. -/
structure Arguments (α : Type) where
  /-- What the options say, in order. -/
  said : List α
  /-- The other arguments, in order. -/
  others : List String
  deriving Repr, DecidableEq

/-- What one argument says, or that it needs the next one as its value. -/
inductive Saying (α : Type)
  | complete (said : List α)
  | wants (name : String) (meaning : String → α)

variable {α : Type}

def isOption : List Char → Bool
  | '-' :: _ :: _ => true
  | _ => false

/-- An argument cut at its first equals sign. -/
def splitValue (cs : List Char) : String × Option String :=
  (.ofList (cs.takeWhile (· ≠ '=')),
    match cs.dropWhile (· ≠ '=') with
    | [] => none
    | _ :: value => some (.ofList value))

/-- What a sequence of short options says. -/
def readShorts (switches : List (Switch α)) (cs : List Char) : Except ArgumentFault (List α) :=
  cs.mapM fun c =>
    match switches.findSome? (Switch.ofShort? c) with
    | some meaning => .ok meaning
    | none => .error (.unknown (.ofList ['-', c]) [])

/-- What an option says. -/
def readOption (switches : List (Switch α)) (cs : List Char) :
    Except ArgumentFault (Saying α) :=
  let (name, value) := splitValue cs
  match switches.find? (·.long = name), value with
  | some (.flag _ _ meaning), none => .ok (.complete [meaning])
  | some (.flag _ _ _), some _ => .error (.valueUnwanted name)
  | some (.value _ meaning), some value => .ok (.complete [meaning value])
  | some (.value _ meaning), none => .ok (.wants name meaning)
  | none, _ =>
    match cs with
    | '-' :: '-' :: _ =>
      .error (.unknown name (Text.closeNames name (switches.map Switch.long)))
    | _ => (readShorts switches cs.tail).map .complete

namespace Arguments

/-- Puts what an option says in front. -/
def say (said : List α) (a : Arguments α) : Arguments α := { a with said := said ++ a.said }

/-- Puts another argument in front. -/
def also (other : String) (a : Arguments α) : Arguments α := { a with others := other :: a.others }

def read (switches : List (Switch α)) (mixed : Bool) :
    List String → Except ArgumentFault (Arguments α)
  | [] => .ok ⟨[], []⟩
  | arg :: rest =>
    if arg = "--" then .ok ⟨[], rest⟩
    else if isOption arg.toList then
      match readOption switches arg.toList with
      | .error fault => .error fault
      | .ok (.complete said) => (read switches mixed rest).map (say said)
      | .ok (.wants name meaning) =>
        match rest with
        | [] => .error (.valueMissing name)
        | value :: rest => (read switches mixed rest).map (say [meaning value])
    else if mixed then (read switches mixed rest).map (also arg)
    else .ok ⟨[], arg :: rest⟩

end Arguments

end InspectionFeed.CommandLine
