/-
Reading service messages back. A value ends at the first quote that no mark
escapes, and a mark must be followed by one of the six codes. A message is
accepted only if nothing follows its end.
-/
import InspectionFeed.Message.Basic

namespace InspectionFeed.Message

/-- The value that an escaped text stands for, if it is well escaped: no reserved character
stands alone, and each mark has a code. -/
def unescapeChars? : List Char → Option (List Char)
  | [] => some []
  | [c] => if (escapeCode? c).isSome then none else some [c]
  | c :: d :: cs =>
    if c = escapeMark then
      match unescapeCode? d with
      | some x => (unescapeChars? cs).map (x :: ·)
      | none => none
    else if (escapeCode? c).isSome then none
    else (unescapeChars? (d :: cs)).map (c :: ·)

/-- The value that an escaped text stands for. -/
def unescape? (text : String) : Option String :=
  (unescapeChars? text.toList).map String.ofList

/-- A value up to its closing quote, with what follows the quote. -/
def valueAndRest? : List Char → Option (List Char × List Char)
  | [] => none
  | ['\''] => some ([], [])
  | [_] => none
  | c :: d :: cs =>
    if c = '\'' then some ([], d :: cs)
    else if c = escapeMark then
      match unescapeCode? d with
      | some x => (valueAndRest? cs).map fun (v, rest) => (x :: v, rest)
      | none => none
    else if (escapeCode? c).isSome then none
    else (valueAndRest? (d :: cs)).map fun (v, rest) => (c :: v, rest)

/-- A character of names and keys. -/
def isNameChar (c : Char) : Bool := c.isAlphanum || c == '_'

/-- Attributes up to the end of the message, `fuel` of them at most. -/
def attributesFrom? : Nat → List Char → Option (List (String × String))
  | 0, _ => none
  | fuel + 1, cs =>
    match cs with
    | [']'] => some []
    | ' ' :: cs =>
      match cs.dropWhile isNameChar with
      | '=' :: '\'' :: rest =>
        match valueAndRest? rest with
        | some (v, rest) =>
          (attributesFrom? fuel rest).map
            ((.ofList (cs.takeWhile isNameChar), .ofList v) :: ·)
        | none => none
      | _ => none
    | _ => none

/-- What a message carries, from the character after its name on. -/
def payloadFrom? (cs : List Char) : Option Payload :=
  match cs with
  | ' ' :: '\'' :: rest =>
    match valueAndRest? rest with
    | some (v, [']']) => some (.value (.ofList v))
    | _ => none
  | cs => (attributesFrom? (cs.length + 1) cs).map .attributes

/-- The message that a line stands for, its attributes in the order in which they stand. -/
def decode? (text : String) : Option Message :=
  match opening.toList.isPrefixOf? text.toList with
  | some rest =>
    (payloadFrom? (rest.dropWhile isNameChar)).map
      fun payload => ⟨.ofList (rest.takeWhile isNameChar), payload⟩
  | none => none

/-- The messages that the lines of a text stand for, if each line has its end and is one. -/
def decodeAll? (text : String) : Option (List Message) :=
  let pieces := text.toList.splitOn '\n'
  if pieces.getLast? = some [] then pieces.dropLast.mapM fun cs => decode? (.ofList cs)
  else none

end InspectionFeed.Message
