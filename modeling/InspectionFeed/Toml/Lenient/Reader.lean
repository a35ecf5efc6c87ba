/-
The lenient reading of a TOML document, by version 1.1 of the format, from
text whose line ends are line feeds.

The tables of a document are read from its lines. The header of a table is
followed by its entries, and these by the headers of the tables below it;
headers of an array of tables that stand one after another, with nothing but
what is below them in between, make one array. What comes later about a table
is another piece of it.

A contradiction between the entries and tables of the document itself makes
it malformed. One inside a table is a fault of its own.
-/
import InspectionFeed.Toml.Lenient.Line

namespace InspectionFeed.Toml.Lenient

/-- The entries up to the next header, and the lines from there on. -/
def leading : List Line → List (Key × Value) × List Line
  | .entry key v :: lines =>
    let (es, rest) := leading lines
    ((key, v) :: es, rest)
  | lines => ([], lines)

/-- A path leads to somewhere below another one. -/
def isBelow (path parent : List String) : Bool :=
  parent.isPrefixOf path && parent.length < path.length

/-- The entries of an implied table on the way to one with a header. -/
def leadTo (element : Bool) (b : Body) : List String → Body
  | [] => b
  | [key] => [(⟨key, false⟩, if element then .array [] b else .block false false b)]
  | key :: more => [(⟨key, false⟩, .block true false (leadTo element b more))]

/-- Adds an entry to a table that has a header. -/
def writeSettled (key : Key) (v : Value) (b : Body) : Except Fault Body := do
  let b ← write key v b
  settle key.first b
  return b

/-- What is reached when there are no more lines. -/
def reachEnd (fault : Option Fault) : Except Fault Unit :=
  match fault with
  | some f => .error f
  | none => .ok ()

mutual

/-- The table at a path, from the line after its header on. `opened` are the paths of the arrays
that are being read, the innermost first; `fault` is why reading stops after the last line, if
the document goes on. Each table takes a few units of fuel. -/
def tableAt (fault : Option Fault) : Nat → List (List String) → List String → List Line →
    Except Fault (Body × List Line)
  | 0, _, _, _ => .error .malformed
  | fuel + 1, opened, path, lines => do
    let (entries, rest) := leading lines
    let b ← entries.foldlM (fun b (key, v) => writeSettled key v b) []
    if rest.isEmpty then reachEnd fault
    let (b, rest) ← tablesBelow fault fuel opened path b rest
    checkAll b
    return (b, rest)

/-- Adds the tables below a path to the table that is there. -/
def tablesBelow (fault : Option Fault) : Nat → List (List String) → List String → Body →
    List Line → Except Fault (Body × List Line)
  | 0, _, _, _, _ => .error .malformed
  | fuel + 1, opened, path, b, lines =>
    match lines with
    | .header element key :: rest =>
      if isBelow key.parts path then do
        let (name, p, rest) ← partAt fault fuel opened path.length element key.parts rest
        let b ← addSettled false ⟨name, false⟩ p b
        tablesBelow fault fuel opened path b rest
      else .ok (b, lines)
    | _ => .ok (b, lines)

/-- What a header adds to the table so many words up its path: the word behind these, and what
stands there. A table that the header only implies counts as a table of an array if it has the
name of an array that is being read. -/
def partAt (fault : Option Fault) : Nat → List (List String) → Nat → Bool → List String →
    List Line → Except Fault (String × Part × List Line)
  | 0, _, _, _, _, _ => .error .malformed
  | fuel + 1, opened, above, element, path, lines => do
    let (b, rest) ← tableAt fault fuel opened path lines
    match path.drop above with
    | [] => .error .malformed
    | [name] =>
      if element then
        let (before, last, rest) ← siblings fault fuel opened path [] b rest
        return (name, .array before last, rest)
      else return (name, .block false false b, rest)
    | name :: more =>
      return (name, .block true (element && opened.contains [name]) (leadTo element b more), rest)

/-- The tables of an array that follow directly: those before the last, and the last. -/
def siblings (fault : Option Fault) : Nat → List (List String) → List String → List Body →
    Body → List Line → Except Fault (List Body × Body × List Line)
  | 0, _, _, _, _, _ => .error .malformed
  | fuel + 1, opened, path, before, last, lines =>
    match lines with
    | .header true key :: rest =>
      if key.parts = path then do
        let (b, rest) ← tableAt fault fuel (path :: opened) path rest
        siblings fault fuel opened path (before ++ [last]) b rest
      else .ok (before, last, lines)
    | _ => .ok (before, last, lines)

end

/-- Adds all tables to the document, at most `fuel` of them. -/
def tables (fault : Option Fault) : Nat → Body → List Line → Except Fault Body
  | 0, _, _ => .error .malformed
  | fuel + 1, b, lines =>
    match lines with
    | .header element key :: rest => do
      let (name, p, rest) ← partAt fault (4 * rest.length + 4) [] 0 element key.parts rest
      let b ← (add true ⟨name, false⟩ p b).mapError fun _ => .malformed
      tables fault fuel b rest
    | _ => .ok b

/-- The entries of a document whose lines have been read. -/
def bodyOf (s : Lines) : Except Fault Body := do
  let (entries, rest) := leading s.lines
  let b ← (entries.foldlM (fun b (key, v) => write key v b) []).mapError fun _ => Fault.malformed
  if rest.isEmpty then reachEnd s.fault
  tables s.fault (rest.length + 1) b rest

/-- Reads a document. -/
def read (cs : List Char) : Except Fault Table := do
  tableOf (← bodyOf (linesOf cs))

end InspectionFeed.Toml.Lenient
