/-
The dynamic values that documents hold: what a JSON line or a TOML file says
before anyone has asked what it means. Whole numbers are unbounded and never
the same as numbers with a fraction, and true and false are no numbers.

A table keeps its entries in the order in which their keys first appeared.
Setting a key again keeps its place and replaces its value.
-/
import InspectionFeed.Decimal.Binary64
import InspectionFeed.Value.Calendar

namespace InspectionFeed

/-- A value of a document. -/
inductive Value
  | null
  | bool (b : Bool)
  | int (i : Int)
  | float (x : Decimal.Binary64)
  | str (s : String)
  | list (items : List Value)
  | dict (entries : List (String × Value))
  | date (d : Date)
  | time (t : TimeOfDay)
  /-- A day and a time, perhaps with an offset from UTC. -/
  | datetime (d : Date) (t : TimeOfDay) (offset : Option UtcOffset)
  deriving Repr, Inhabited

/-- The entries of a table. -/
abbrev Table := List (String × Value)

namespace Table

/-- The value at a key. -/
def get? (t : Table) (key : String) : Option Value :=
  List.lookup key t

/-- The value at a key, where a null counts as none. -/
def present? (t : Table) (key : String) : Option Value :=
  match t.get? key with
  | some .null => none
  | v => v

/-- Sets the value at a key. -/
def insert (t : Table) (key : String) (value : Value) : Table :=
  if t.any (·.1 == key) then t.map fun e => if e.1 == key then (key, value) else e
  else t ++ [(key, value)]

/-- The keys, in order. -/
def keys (t : Table) : List String :=
  List.map Prod.fst t

end Table

/-- The name of a value's kind in complaints about its type. -/
def Value.kindName : Value → String
  | .null => "NoneType"
  | .bool _ => "bool"
  | .int _ => "int"
  | .float _ => "float"
  | .str _ => "str"
  | .list _ => "list"
  | .dict _ => "dict"
  | .date _ => "date"
  | .time _ => "time"
  | .datetime .. => "datetime"

end InspectionFeed
