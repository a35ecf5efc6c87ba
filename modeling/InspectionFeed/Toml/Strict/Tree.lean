/-
The tables of a TOML document while it is read strictly. A table remembers how it
came about, because that decides how it may grow:

- a table that exists only because a header named one below it may still get
  a header of its own;
- a table with a header of its own never gets a second one;
- a table that a dotted key made may grow by dotted keys and by headers of
  tables below it, but gets no header itself, and dotted keys never reach
  into a table with a header;
- an array of tables grows by headers of its own kind, and everything said
  about it concerns its last table;
- a value is final, also if it is a list or a table written in one line.

Each operation gives nothing when the document breaks these rules.
-/
import InspectionFeed.Value.Basic

namespace InspectionFeed.Toml.Strict

/-- How a table came about. -/
inductive Origin
  /-- A header named a table below it. -/
  | implied
  /-- It has a header. -/
  | header
  /-- A dotted key named it. -/
  | dotted
  deriving Repr, DecidableEq

/-- A part of a document. -/
inductive Node
  | leaf (v : Value)
  | table (origin : Origin) (entries : List (String × Node))
  /-- An array of tables: the last one, and those before it, newest first. -/
  | tables (last : List (String × Node)) (before : List (List (String × Node)))

/-- The entries of a table under construction. -/
abbrev Entries := List (String × Node)

/-- Sets the entry of a key to what `f` makes of it. -/
def alter? (key : String) (f : Option Node → Option Node) : Entries → Option Entries
  | [] => (f none).map fun n => [(key, n)]
  | (k, n) :: es =>
    if k = key then (f (some n)).map fun n => (k, n) :: es
    else (alter? key f es).map ((k, n) :: ·)

/-- Changes the table below a header's path, making tables on the way. -/
def below? (path : List String) (f : Entries → Option Entries) (es : Entries) : Option Entries :=
  match path with
  | [] => f es
  | key :: path =>
    es |> alter? key fun
      | none => (below? path f []).map (.table .implied)
      | some (.table origin es) => (below? path f es).map (.table origin)
      | some (.tables last before) => (below? path f last).map fun last => .tables last before
      | some (.leaf _) => none

/-- Gives a table its header. -/
def openTable? (parents : List String) (key : String) : Entries → Option Entries :=
  below? parents <| alter? key fun
    | none => some (.table .header [])
    | some (.table .implied es) => some (.table .header es)
    | some _ => none

/-- Adds a table to an array of tables. -/
def openElement? (parents : List String) (key : String) : Entries → Option Entries :=
  below? parents <| alter? key fun
    | none => some (.tables [] [])
    | some (.tables last before) => some (.tables [] (last :: before))
    | some _ => none

/-- Sets the value at a dotted key. -/
def assign? (key : String) (more : List String) (v : Value) (es : Entries) : Option Entries :=
  match more with
  | [] =>
    es |> alter? key fun
      | none => some (.leaf v)
      | some _ => none
  | next :: more =>
    es |> alter? key fun
      | none => (assign? next more v []).map (.table .dotted)
      | some (.table .header _) => none
      | some (.table _ es) => (assign? next more v es).map (.table .dotted)
      | some _ => none

mutual

/-- The value that a part of a document stands for. -/
def Node.value : Node → Value
  | .leaf v => v
  | .table _ es => .dict (entryValues es)
  | .tables last before => .list ((tableValues before).reverse ++ [.dict (entryValues last)])

def entryValues : List (String × Node) → List (String × Value)
  | [] => []
  | (k, n) :: es => (k, n.value) :: entryValues es

def tableValues : List (List (String × Node)) → List Value
  | [] => []
  | es :: rest => .dict (entryValues es) :: tableValues rest

end

end InspectionFeed.Toml.Strict
