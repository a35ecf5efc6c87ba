/-
The tables of a TOML document while it is read leniently.

A table may come in pieces: each header of it or of something below it, and
each dotted key, adds a piece in the place where it stands, and reading goes
on after other entries in between. The pieces of one key are joined when
somebody asks for the table; what they say together has to be free of
contradictions, and this is checked when a piece is added behind another.

A table is implied when only a longer key or header has named it. Only an
implied table gets a header after it has been named, and not if a dotted key
named it. What stands below an array of tables belongs to its last table.

Every operation fails with the key that is said twice.
-/
import InspectionFeed.Toml.Lenient.Fault
import InspectionFeed.Value.Basic

namespace InspectionFeed.Toml.Lenient

/-- A key as it is written: one word of a key that may have several. -/
structure Label where
  key : String
  /-- Another word follows, in an entry. -/
  dotted : Bool
  deriving Repr, DecidableEq

/-- One piece of what stands at a key. -/
inductive Part
  | leaf (v : Value)
  /-- A table, implied or not; it may count as a table of an array. -/
  | block (implied element : Bool) (entries : List (Label × Part))
  /-- An array of tables: those before the last, and the last. -/
  | array (before : List (List (Label × Part))) (last : List (Label × Part))

/-- The entries of a table, in the order in which they are written. -/
abbrev Body := List (Label × Part)

namespace Part

/-- The entries of a piece of a table. -/
def entries : Part → Body
  | .block _ _ es => es
  | _ => []

/-- The part is a piece of a table. -/
def isBlock : Part → Bool
  | .block .. => true
  | _ => false

mutual

/-- How deep tables are nested in a part. -/
def height : Part → Nat
  | .leaf _ => 0
  | .block _ _ es => heightOfEntries es + 1
  | .array before last => max (heightOfTables before) (heightOfEntries last) + 1

/-- How deep tables are nested in entries. -/
def heightOfEntries : List (Label × Part) → Nat
  | [] => 0
  | (_, p) :: es => max p.height (heightOfEntries es)

/-- How deep tables are nested in tables. -/
def heightOfTables : List (List (Label × Part)) → Nat
  | [] => 0
  | es :: rest => max (heightOfEntries es) (heightOfTables rest)

end

end Part

/-! ## Pieces of a key -/

/-- All pieces of a key. -/
def pieces (key : String) (b : Body) : Body := b.filter (·.1.key = key)

/-- The last piece of a key. -/
def last? (key : String) (b : Body) : Option (Label × Part) := (pieces key b).getLast?

/-- The keys, in the order of their first pieces. -/
def keysOf (b : Body) : List String := (b.map (·.1.key)).eraseDups

/-- The key of the last piece of a table. -/
def lastTableKey? (b : Body) : Option String := (b.filter (·.2.isBlock)).getLast?.map (·.1.key)

/-- Puts a part in the place of the first piece of a key. -/
def setFirst (key : String) (p : Part) : Body → Body
  | [] => []
  | (l, old) :: es => if l.key = key then (l, p) :: es else (l, old) :: setFirst key p es

/-- Puts a part in the place of the last piece of a key. -/
def setLast (key : String) (p : Part) (b : Body) : Body := (setFirst key p b.reverse).reverse

/-- Puts a part in the place of all pieces of a key. -/
def setAll (key : String) (p : Part) : Body → Body
  | [] => []
  | (l, old) :: es =>
    if l.key = key then (l, p) :: es.filter (·.1.key ≠ key) else (l, old) :: setAll key p es

/-- Puts a piece behind the others. Only tables come in pieces; an array of tables behind
another one makes it longer. -/
def push (l : Label) (p : Part) (b : Body) : Except Fault Body :=
  match last? l.key b, p with
  | none, p => .ok (b ++ [(l, p)])
  | some (_, .block ..), p => .ok (b ++ [(l, p)])
  | some (_, .array before last), .array more newest =>
    .ok (setLast l.key (.array (before ++ last :: more) newest) b)
  | some _, _ => .error (.repeated l.key)

/-- The table that pieces of it are together. -/
def join (ps : Body) : Except Fault Body :=
  (ps.flatMap (·.2.entries)).foldlM (fun b (l, p) => push l p b) []

/-- Checks that a key's pieces can be joined. -/
def settle (key : String) (b : Body) : Except Fault Unit :=
  match pieces key b with
  | [] | [_] => .ok ()
  | ps => (join ps).map fun _ => ()

/-! ## Adding a part -/

/-- How a part goes with what stands at its key already. -/
inductive Fit
  /-- It is a piece of its own. -/
  | piece
  /-- Its entries go into a table, of which a part is made again. -/
  | into (table : Body) (rebuild : Body → Part)
  /-- A longer array takes the place of the last piece. -/
  | longer (array : Part)
  /-- An array takes the place of all pieces. -/
  | only (array : Part)
  | refused (fault : Fault)

/-- How a table goes behind a table. Two implied ones become one where no other table stands
between them, `merged`. A header completes an implied table, unless a dotted key has named it.
After its header a table may still be implied by longer headers, but not by dotted keys. -/
def fitBehind (l old : Label) (wasImplied implied adjacent : Bool) (merged : Fit) : Fit :=
  match wasImplied, implied with
  | true, true => if l.dotted || old.dotted || !adjacent then .piece else merged
  | true, false => if old.dotted then .refused .redefined else .piece
  | false, true => if l.dotted then .refused (.repeated l.key) else .piece
  | false, false => .refused (.repeated l.key)

/-- How a part goes with the pieces of its key. -/
def fit (l : Label) (p : Part) (b : Body) : Fit :=
  match last? l.key b, p with
  | none, _ => .piece
  | some (_, .array before last), .array more newest =>
    .longer (.array (before ++ last :: more) newest)
  | some (_, .array before last), .block implied element es =>
    if element then .longer (.array (before ++ [last]) es)
    else if implied && !l.dotted then .into last (.array before)
    else .refused (.repeated l.key)
  | some (old, .block wasImplied wasElement current), .block implied element es =>
    if element then .only (.array [current] es)
    else fitBehind l old wasImplied implied (lastTableKey? b == some l.key)
      (.into current (.block wasImplied wasElement))
  | some _, _ => .refused (.repeated l.key)

mutual

/-- Adds a part. A piece behind others is checked if `checked`. The fuel is used up by tables in
tables. -/
def addWithin : Nat → Bool → Label → Part → Body → Except Fault Body
  | 0, _, _, _, _ => .error .malformed
  | fuel + 1, checked, l, p, b => do
    settle l.key b
    match fit l p b with
    | .piece =>
      if checked then checkWithin fuel l.key (b ++ [(l, p)])
      return b ++ [(l, p)]
    | .into table rebuild =>
      let table ← addAllWithin fuel p.entries table
      return setLast l.key (rebuild table) b
    | .longer array => return setLast l.key array b
    | .only array => return setAll l.key array b
    | .refused fault => .error fault

/-- Adds parts one after another. -/
def addAllWithin : Nat → Body → Body → Except Fault Body
  | 0, _, _ => .error .malformed
  | fuel + 1, es, b =>
    es.foldlM (fun b (l, p) => do
      let b ← addWithin fuel true l p b
      settle l.key b
      return b) b

/-- Checks that the pieces of a key do not contradict each other. -/
def checkWithin : Nat → String → Body → Except Fault Unit
  | 0, _, _ => .error .malformed
  | fuel + 1, key, b =>
    match pieces key b with
    | [] | [_] => .ok ()
    | ps => do
      let t ← (ps.flatMap (·.2.entries)).foldlM (fun b (l, p) => addWithin fuel false l p b) []
      (keysOf t).forM fun key => checkWithin fuel key t

end

/-- As much fuel as tables of this height can use up. -/
def fuelFor (height : Nat) : Nat := 4 * height + 4

/-- Adds a part. A piece behind others is checked if `checked`. -/
def add (checked : Bool) (l : Label) (p : Part) (b : Body) : Except Fault Body :=
  addWithin (fuelFor (p.height + Part.heightOfEntries b)) checked l p b

/-- Adds a part and asks for what its key then is. -/
def addSettled (checked : Bool) (l : Label) (p : Part) (b : Body) : Except Fault Body := do
  let b ← add checked l p b
  settle l.key b
  return b

/-- Checks all keys. -/
def checkAll (b : Body) : Except Fault Unit :=
  (keysOf b).forM fun key => checkWithin (fuelFor (Part.heightOfEntries b)) key b

/-! ## Entries -/

/-- What stands at the first word of a key whose other words lead to a value. -/
def below (v : Value) : List String → Part
  | [] => .leaf v
  | key :: more => .block true false [(⟨key, !more.isEmpty⟩, below v more)]

/-- Adds an entry. -/
def write (key : Key) (v : Value) (b : Body) : Except Fault Body :=
  add true ⟨key.first, !key.more.isEmpty⟩ (below v key.more) b

/-! ## Values -/

/-- The table that a single piece, or several, of a key stand for. -/
def whole : Body → Except Fault Body
  | [(_, p)] => .ok p.entries
  | ps => join ps

/-- The value that the pieces of a key stand for, for tables of less than this height. -/
def valueWithin : Nat → Body → Except Fault Value
  | 0, _ => .error .malformed
  | fuel + 1, ps =>
    let table (b : Body) : Except Fault Value :=
      ((keysOf b).mapM fun key => (valueWithin fuel (pieces key b)).map (key, ·)).map .dict
    match ps with
    | [(_, .leaf v)] => .ok v
    | [(_, .array before last)] => ((before ++ [last]).mapM table).map .list
    | ps => do table (← whole ps)

/-- The table that entries stand for. -/
def tableOf (b : Body) : Except Fault Table :=
  (keysOf b).mapM fun key =>
    (valueWithin (Part.heightOfEntries b + 1) (pieces key b)).map (key, ·)

end InspectionFeed.Toml.Lenient
