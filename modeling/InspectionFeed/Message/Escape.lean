/-
Escaping of the values of service messages. Six characters are reserved: the
quote, line feed, carriage return, both brackets, and the escape mark itself.
Each is written as the mark and a letter or itself, so an escaped value holds
no line end and no bare quote or bracket.

Escaping is not idempotent: a value is escaped exactly once.
-/

namespace InspectionFeed.Message

/-- The mark that starts an escape. -/
def escapeMark : Char := '|'

/-- What follows the mark for a reserved character. -/
def escapeCode? : Char → Option Char
  | '\'' => some '\''
  | '\n' => some 'n'
  | '\r' => some 'r'
  | '[' => some '['
  | ']' => some ']'
  | '|' => some '|'
  | _ => none

/-- The reserved character that a code stands for. -/
def unescapeCode? : Char → Option Char
  | '\'' => some '\''
  | 'n' => some '\n'
  | 'r' => some '\r'
  | '[' => some '['
  | ']' => some ']'
  | '|' => some '|'
  | _ => none

/-- One character of a value, escaped. -/
def escapeChar (c : Char) : List Char :=
  match escapeCode? c with
  | some code => [escapeMark, code]
  | none => [c]

/-- The characters of a value, escaped. -/
def escapeChars (cs : List Char) : List Char := cs.flatMap escapeChar

/-- A value, escaped. -/
def escape (value : String) : String := .ofList (escapeChars value.toList)

end InspectionFeed.Message
