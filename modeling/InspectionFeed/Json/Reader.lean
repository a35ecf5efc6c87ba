/-
Reading one JSON text.

The reader accepts the words for a number that is none and for the infinite
numbers, keeps the last of several values for one key, and joins the two
halves of a character written as a surrogate pair; half of a pair is kept as
it is. Between tokens only space, tab, line feed and carriage return may stand,
and inside a string no control character.

What it refuses, it refuses with the first mistake from the left. A whole
number with too many digits is refused where it stands, before anything
behind it is looked at, and so is a list or a table that is nested too deep.
-/
import InspectionFeed.Text.Digit
import InspectionFeed.Text.Hex
import InspectionFeed.Text.Surrogate
import InspectionFeed.Value.Basic

namespace InspectionFeed.Json

/-- A mistake in the form of a text. -/
inductive Mistake
  | byteOrderMark
  | valueExpected
  | keyExpected
  | colonExpected
  | commaExpected
  | unterminatedString
  | controlCharacter
  | unknownEscape
  | badCodePoint
  | extraData
  deriving Repr, DecidableEq

/-- The wording of a mistake. -/
def Mistake.message : Mistake → String
  | .byteOrderMark => "Unexpected UTF-8 BOM (decode using utf-8-sig)"
  | .valueExpected => "Expecting value"
  | .keyExpected => "Expecting property name enclosed in double quotes"
  | .colonExpected => "Expecting ':' delimiter"
  | .commaExpected => "Expecting ',' delimiter"
  | .unterminatedString => "Unterminated string starting at"
  | .controlCharacter => "Invalid control character at"
  | .unknownEscape => "Invalid \\escape"
  | .badCodePoint => "Invalid \\uXXXX escape"
  | .extraData => "Extra data"

/-- What values are nested in. -/
inductive Nesting
  | list
  | table
  deriving Repr, DecidableEq

/-- The complaint about a list or table that is nested too deep. -/
def Nesting.tooDeepMessage (n : Nesting) : String :=
  "maximum recursion depth exceeded while decoding a JSON " ++
    (match n with
      | .list => "array"
      | .table => "object") ++ " from a unicode string"

/-- Why a text is not read. -/
inductive Fault
  | malformed (mistake : Mistake)
  | longNumber (digits : Nat)
  | tooDeep (nesting : Nesting)
  deriving Repr, DecidableEq

/-- What a step of the reader gives: a result and the characters behind it. -/
abbrev Step (α : Type) := Except Fault (α × List Char)

/-- Refuses the text. -/
def refuse {α : Type} (m : Mistake) : Except Fault α := .error (.malformed m)

/-- White space between tokens. -/
def isSpace (c : Char) : Bool :=
  c == ' ' || c == '\t' || c == '\n' || c == '\r'

/-- The characters from the next token on. -/
def skipSpace (cs : List Char) : List Char := cs.dropWhile isSpace

/-! ## Strings -/

/-- The value of four hex digits. -/
def hexQuad? (a b c d : Char) : Option Nat := do
  let high := (← Text.hexValue? a) * 16 + (← Text.hexValue? b)
  let low := (← Text.hexValue? c) * 16 + (← Text.hexValue? d)
  return high * 256 + low

/-- The code unit is the first half of a surrogate pair. -/
def isHighSurrogate (n : Nat) : Bool := 0xD800 ≤ n && n ≤ 0xDBFF

/-- The code unit is the second half of a surrogate pair. -/
def isLowSurrogate (n : Nat) : Bool := 0xDC00 ≤ n && n ≤ 0xDFFF

/-- The character of a code unit, for half of a pair the one that stands for it. -/
def unitChar (n : Nat) : Char :=
  if isHighSurrogate n || isLowSurrogate n then Text.halfChar n else .ofNat n

/-- The character of an escape by code point, after its letter. A character must follow the
digits. A second escape is looked at when the first is the first half of a pair. -/
def codePointEscape : List Char → Step Char
  | a :: b :: c :: d :: next :: rest =>
    match hexQuad? a b c d with
    | none => refuse .badCodePoint
    | some high =>
      match isHighSurrogate high, next :: rest with
      | true, '\\' :: 'u' :: a' :: b' :: c' :: d' :: next' :: rest' =>
        match hexQuad? a' b' c' d' with
        | none => refuse .badCodePoint
        | some low =>
          if isLowSurrogate low then
            .ok (.ofNat (0x10000 + (high - 0xD800) * 0x400 + (low - 0xDC00)), next' :: rest')
          else .ok (unitChar high, next :: rest)
      | _, _ => .ok (unitChar high, next :: rest)
  | _ => refuse .badCodePoint

/-- The character of an escape, after the backslash. -/
def escapeSequence : List Char → Step Char
  | [] => refuse .unterminatedString
  | 'u' :: cs => codePointEscape cs
  | '"' :: cs => .ok ('"', cs)
  | '\\' :: cs => .ok ('\\', cs)
  | '/' :: cs => .ok ('/', cs)
  | 'b' :: cs => .ok ('\x08', cs)
  | 'f' :: cs => .ok ('\x0c', cs)
  | 'n' :: cs => .ok ('\n', cs)
  | 'r' :: cs => .ok ('\r', cs)
  | 't' :: cs => .ok ('\t', cs)
  | _ => refuse .unknownEscape

/-- The rest of a string, after at most `fuel` more items; `read` holds what came before, last
character first. -/
def stringFrom : Nat → List Char → List Char → Step String
  | 0, _, _ => refuse .unterminatedString
  | _ + 1, _, [] => refuse .unterminatedString
  | _ + 1, read, '"' :: cs => .ok (.ofList read.reverse, cs)
  | fuel + 1, read, '\\' :: cs =>
    match escapeSequence cs with
    | .error f => .error f
    | .ok (c, rest) => stringFrom fuel (c :: read) rest
  | fuel + 1, read, c :: cs =>
    if c.toNat < 32 then refuse .controlCharacter else stringFrom fuel (c :: read) cs

/-- A string, after its opening quote. -/
def string (cs : List Char) : Step String := stringFrom (cs.length + 1) [] cs

/-! ## Numbers -/

/-- The digits of a number's whole part: a zero alone, or digits that start with another. -/
def wholeDigits : List Char → Option (List Char × List Char)
  | '0' :: cs => some (['0'], cs)
  | c :: cs => if c.isDigit then some (c :: cs.takeWhile Char.isDigit, cs.dropWhile Char.isDigit)
    else none
  | [] => none

/-- The digits of a fraction. A point without a digit is left where it is. -/
def fractionDigits : List Char → List Char × List Char
  | '.' :: d :: cs =>
    if d.isDigit then (d :: cs.takeWhile Char.isDigit, cs.dropWhile Char.isDigit)
    else ([], '.' :: d :: cs)
  | cs => ([], cs)

/-- The number that ASCII digits stand for. -/
def digitsValue (ds : List Char) : Nat := Text.ofDigitValues (ds.map (·.toNat - 48))

/-- An exponent. Its letter is left where it is when no digit follows. -/
def exponentPart (cs : List Char) : Option Int × List Char :=
  match cs with
  | e :: rest =>
    if e == 'e' || e == 'E' then
      let (negative, digits) := match rest with
        | '-' :: ds => (true, ds)
        | '+' :: ds => (false, ds)
        | ds => (false, ds)
      let ds := digits.takeWhile Char.isDigit
      if ds.isEmpty then (none, cs)
      else
        let n : Int := digitsValue ds
        (some (if negative then -n else n), digits.dropWhile Char.isDigit)
    else (none, cs)
  | [] => (none, cs)

/-- A number whose sign has been read. -/
def unsignedNumber (negative : Bool) (cs : List Char) : Step Value :=
  match wholeDigits cs with
  | none => refuse .valueExpected
  | some (whole, rest) =>
    let (fraction, rest) := fractionDigits rest
    let (exponent, rest) := exponentPart rest
    if fraction.isEmpty && exponent.isNone then
      if Text.numeralLimit < whole.length then .error (.longNumber whole.length)
      else
        let n : Int := digitsValue whole
        .ok (.int (if negative then -n else n), rest)
    else
      let shift : Int := exponent.getD 0 - fraction.length
      .ok (.float (.ofDecimal negative (digitsValue (whole ++ fraction)) shift), rest)

/-! ## Values -/

/-- The characters after a word, if the text begins with it. -/
def afterWord? (word : String) (cs : List Char) : Option (List Char) :=
  word.toList.isPrefixOf? cs

/-- A value that is a word or a number. -/
def atom (cs : List Char) : Step Value :=
  match afterWord? "null" cs, afterWord? "true" cs, afterWord? "false" cs,
    afterWord? "NaN" cs, afterWord? "Infinity" cs, afterWord? "-Infinity" cs with
  | some rest, _, _, _, _, _ => .ok (.null, rest)
  | _, some rest, _, _, _, _ => .ok (.bool true, rest)
  | _, _, some rest, _, _, _ => .ok (.bool false, rest)
  | _, _, _, some rest, _, _ => .ok (.float .nan, rest)
  | _, _, _, _, some rest, _ => .ok (.float (.infinite false), rest)
  | _, _, _, _, _, some rest => .ok (.float (.infinite true), rest)
  | _, _, _, _, _, _ =>
    match cs with
    | '-' :: rest => unsignedNumber true rest
    | _ => unsignedNumber false cs

/-- How deep lists and tables may be nested. -/
def nestingLimit : Nat := 985

mutual

/-- A value that starts at the first character, with room for so many levels of nesting. Each
value, entry and item takes one unit of fuel; a text has no more of them than characters. -/
def value : Nat → Nat → List Char → Step Value
  | 0, _, _ => refuse .valueExpected
  | fuel + 1, room, cs =>
    match cs, room with
    | '"' :: rest, _ => (string rest).map fun (s, rest) => (.str s, rest)
    | '\x7b' :: rest, room + 1 =>
      match skipSpace rest with
      | '\x7d' :: rest => .ok (.dict [], rest)
      | rest => entries fuel room [] rest
    | '[' :: rest, room + 1 =>
      match skipSpace rest with
      | ']' :: rest => .ok (.list [], rest)
      | rest => items fuel room [] rest
    | '\x7b' :: _, 0 => .error (.tooDeep .table)
    | '[' :: _, 0 => .error (.tooDeep .list)
    | cs, _ => atom cs

/-- The entries of a table from a key on. -/
def entries : Nat → Nat → Table → List Char → Step Value
  | 0, _, _, _ => refuse .keyExpected
  | fuel + 1, room, table, cs =>
    match cs with
    | '"' :: rest =>
      match string rest with
      | .error f => .error f
      | .ok (key, rest) =>
        match skipSpace rest with
        | ':' :: rest =>
          match value fuel room (skipSpace rest) with
          | .error f => .error f
          | .ok (v, rest) =>
            let table := table.insert key v
            match skipSpace rest with
            | '\x7d' :: rest => .ok (.dict table, rest)
            | ',' :: rest => entries fuel room table (skipSpace rest)
            | _ => refuse .commaExpected
        | _ => refuse .colonExpected
    | _ => refuse .keyExpected

/-- The items of a list from a value on; `read` holds those before, last one first. -/
def items : Nat → Nat → List Value → List Char → Step Value
  | 0, _, _, _ => refuse .valueExpected
  | fuel + 1, room, read, cs =>
    match value fuel room cs with
    | .error f => .error f
    | .ok (v, rest) =>
      match skipSpace rest with
      | ']' :: rest => .ok (.list (v :: read).reverse, rest)
      | ',' :: rest => items fuel room (v :: read) (skipSpace rest)
      | _ => refuse .commaExpected

end

/-- Reads a text that holds one value. -/
def read (text : String) : Except Fault Value :=
  let cs := text.toList
  if cs.head? = some '\ufeff' then refuse .byteOrderMark
  else
    match value (cs.length + 1) nestingLimit (skipSpace cs) with
    | .error f => .error f
    | .ok (v, rest) => if (skipSpace rest).isEmpty then .ok v else refuse .extraData

end InspectionFeed.Json
