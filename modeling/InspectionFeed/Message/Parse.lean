/-
A second reader of service messages, which goes by glyphs. A line is cut into
glyphs from the left: an escape mark and the character behind it are one
glyph, any other character is one by itself. A quote or a bracket delimits
something only where it is a glyph by itself.

The quotes that are glyphs cut a line into frames and values in turn. A frame
holds what stands around values: the name, a key, the end. Names and keys may
be of any characters that delimit nothing.
-/
import InspectionFeed.Message.Basic

namespace InspectionFeed.Message

/-- A character that delimits something outside of values: the space, the equals sign, and those
that are reserved in values. -/
def isDelimiter (c : Char) : Bool := c == ' ' || c == '=' || (escapeCode? c).isSome

/-! ## Glyphs -/

/-- A piece of a line that is read as one. -/
inductive Glyph
  /-- A character by itself. -/
  | bare (c : Char)
  /-- An escape mark and the code behind it. -/
  | escaped (code : Char)
  deriving Repr, DecidableEq

namespace Glyph

/-- The characters that a glyph is written with. -/
def chars : Glyph → List Char
  | .bare c => [c]
  | .escaped code => [escapeMark, code]

/-- The character that a glyph stands for in a value. No reserved character stands by itself
there. -/
def valueChar? : Glyph → Option Char
  | .bare c => if (escapeCode? c).isSome then none else some c
  | .escaped code => unescapeCode? code

/-- A glyph of names and keys. -/
def isNamePart : Glyph → Bool
  | .bare c => !isDelimiter c
  | .escaped _ => false

end Glyph

/-- Cuts a line into glyphs, from the left. -/
def glyphs : List Char → List Glyph
  | [] => []
  | [c] => [.bare c]
  | c :: d :: cs =>
    if c = escapeMark then .escaped d :: glyphs cs else .bare c :: glyphs (d :: cs)

/-! ## Frames and values -/

/-- The name or key that glyphs begin with. -/
def nameOf (gs : List Glyph) : String :=
  .ofList ((gs.takeWhile Glyph.isNamePart).flatMap Glyph.chars)

/-- The glyphs behind the name or key that they begin with. -/
def afterName (gs : List Glyph) : List Glyph := gs.dropWhile Glyph.isNamePart

/-- The value that glyphs stand for. -/
def value? (gs : List Glyph) : Option String := (gs.mapM Glyph.valueChar?).map .ofList

/-- The key of a frame in front of a value. -/
def key? : List Glyph → Option String
  | .bare ' ' :: gs => if afterName gs = [.bare '='] then some (nameOf gs) else none
  | _ => none

/-- Attributes from frames and values in turn, up to the frame that is the end. -/
def attributes? : List (List Glyph) → Option (List (String × String))
  | [] => none
  | [frame] => if frame = [.bare ']'] then some [] else none
  | frame :: value :: rest => do
    let key ← key? frame
    let value ← value? value
    let pairs ← attributes? rest
    return (key, value) :: pairs

/-- What a message carries, from frames and values in turn. -/
def payload? : List (List Glyph) → Option Payload
  | [[.bare ' '], value, [.bare ']']] => (value? value).map .value
  | pieces => (attributes? pieces).map .attributes

/-- The message that a line stands for. -/
def parse? (line : String) : Option Message :=
  match opening.toList.isPrefixOf? line.toList with
  | none => none
  | some rest =>
    match (glyphs rest).splitOn (.bare '\'') with
    | [] => none
    | frame :: pieces =>
      (payload? (afterName frame :: pieces)).map fun payload => ⟨nameOf frame, payload⟩

end InspectionFeed.Message
