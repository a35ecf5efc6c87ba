/-
The quoted form of a text, for messages that show a value: single quotes,
or double quotes when the text holds a single quote and no double quote.
Inside, the backslash and the quote in use are escaped, tab, line feed and
carriage return have letters, and any other character that is not shown as
it is becomes its code point in lower-case hex, in the shortest of three
widths. So does half of a surrogate pair.
-/
import InspectionFeed.Text.Printable
import InspectionFeed.Text.Surrogate

namespace InspectionFeed.Text

/-- One character inside quotes of the given kind. -/
def quotedChar (quote c : Char) : List Char :=
  if c = quote ∨ c = '\\' then ['\\', c]
  else if c = '\t' then ['\\', 't']
  else if c = '\n' then ['\\', 'n']
  else if c = '\r' then ['\\', 'r']
  else if isPrintable c then [c]
  else if isHalf c then halfEscape (halfUnit c)
  else if c.toNat < 0x100 then '\\' :: 'x' :: hexDigits 2 c.toNat
  else if c.toNat < 0x10000 then '\\' :: 'u' :: hexDigits 4 c.toNat
  else '\\' :: 'U' :: hexDigits 8 c.toNat

/-- The quote for a text: double only where it saves an escape. -/
def quoteFor (cs : List Char) : Char :=
  if '\'' ∈ cs ∧ '"' ∉ cs then '"' else '\''

/-- The quoted form of a text. -/
def quoted (s : String) : String :=
  let q := quoteFor s.toList
  .ofList (q :: s.toList.flatMap (quotedChar q) ++ [q])

end InspectionFeed.Text
