/-
Building a registry from catalog files, in order, and perhaps the built-in
catalog after them. The first file that is no catalog, or whose name is
taken, ends the building.
-/
import InspectionFeed.Catalog.Table
import InspectionFeed.Registry
import InspectionFeed.Toml.Document

namespace InspectionFeed

/-- Reads a catalog from a file. Without a name of its own it has that of the file. -/
def Catalog.ofFile (h : Host) (path : HostPath) :
    Logged (Document.Fault ⊕ Catalog.Fault) Catalog := do
  let t ← (Document.load h path).mapError .inl
  let c ← (Catalog.ofTable t path.stem).mapError .inr
  .emit [⟨.debug, "Loaded catalog " ++ c.name ++ " with " ++ toString c.descriptions.length ++
    " entries from " ++ path.text⟩]
  return c

namespace Registry

/-- Why a registry cannot be built. -/
inductive Fault
  | document (fault : Document.Fault)
  | catalog (fault : Catalog.Fault)
  | taken (name : String)
  deriving Repr, DecidableEq

/-- The wording of a fault. -/
def Fault.message : Fault → String
  | .document fault => fault.message
  | .catalog fault => fault.message
  | .taken name => takenMessage name

/-- Registers a provider, with the log line about it. -/
def add (r : Registry) (p : Provider) (replacing : Bool) : Logged String Registry := do
  let r ← .lift (r.register p replacing)
  .emit [registeredEvent p.name]
  return r

/-- Removes the provider of a name, with the log line about it, and tells whether there was one. -/
def remove {ε : Type} (r : Registry) (name : String) : Logged ε (Registry × Bool) := do
  let there := r.contains name
  .emit (if there then [unregisteredEvent name] else [])
  return (r.unregister name, there)

/-- Registers providers in order, with the log lines. -/
def addAll (r : Registry) : List Provider → Logged String Registry
  | [] => return r
  | p :: ps => do (← r.add p false).addAll ps

/-- Registers the catalogs of files in order. -/
def addFiles (h : Host) (r : Registry) : List HostPath → Logged Fault Registry
  | [] => return r
  | path :: paths => do
    let c ← (Catalog.ofFile h path).mapError fun
      | .inl fault => .document fault
      | .inr fault => .catalog fault
    addFiles h (← (r.add (.catalog c) false).mapError .taken) paths

/-- The registry of catalog files, with the built-in catalog at the end if wanted. -/
def load (h : Host) (paths : List HostPath) (builtin : Bool) : Logged Fault Registry := do
  let r ← addFiles h empty paths
  if builtin then (r.add (.catalog .preprocessor) false).mapError .taken else return r

end Registry

end InspectionFeed
