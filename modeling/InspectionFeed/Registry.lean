/-
A registry of providers, in the order of their registration and with no two
of one name. A provider is looked up by its own name, so the registry needs
no keys beside the providers.

Registering a name again is refused unless the new provider is to replace
the old one, in whose place it then stands. A provider that was removed and
comes back stands at the end.
-/
import InspectionFeed.Catalog.Basic
import InspectionFeed.Log.Event

namespace InspectionFeed

/-- An ordered collection of providers with distinct names. -/
structure Registry where
  /-- The providers, in order. -/
  providers : List Provider
  /-- No two have one name. -/
  distinct : (providers.map Provider.name).Nodup
  deriving Repr

namespace Registry

/-- No providers. -/
def empty : Registry := ⟨[], by simp⟩

/-- The names, in order. -/
def names (r : Registry) : List String := r.providers.map Provider.name

/-- The number of providers. -/
def size (r : Registry) : Nat := r.providers.length

/-- There is a provider of this name. -/
def contains (r : Registry) (name : String) : Bool := r.names.contains name

/-- The provider of a name. -/
def get? (r : Registry) (name : String) : Option Provider :=
  r.providers.find? (·.name == name)

/-- Names with the number of kinds, where it is known. -/
def summary (r : Registry) : List (String × Option Nat) :=
  r.providers.map fun p => (p.name, p.kindCount?)

/-- The complaint about a name that is taken. -/
def takenMessage (name : String) : String :=
  "Diagnostic provider '" ++ name ++ "' is already registered"

/-- The log line of a registration. -/
def registeredEvent (name : String) : Log.Event :=
  ⟨.debug, "Registered diagnostic provider " ++ name⟩

/-- The log line of a removal. -/
def unregisteredEvent (name : String) : Log.Event :=
  ⟨.debug, "Unregistered diagnostic provider " ++ name⟩

/-- The provider, if it has the same name as the new one, replaced by it. -/
def swap (new old : Provider) : Provider := if old.name = new.name then new else old

theorem map_name_swap (new : Provider) (ps : List Provider) :
    (ps.map (swap new)).map Provider.name = ps.map Provider.name := by
  rw [List.map_map]
  refine List.map_congr_left fun p _ => ?_
  simp only [Function.comp, swap]
  split
  · rename_i h; exact h.symm
  · rfl

/-- The registry with a provider in the place of the one of its name. -/
def replace (r : Registry) (p : Provider) : Registry :=
  ⟨r.providers.map (swap p), by rw [map_name_swap]; exact r.distinct⟩

/-- The registry with a provider of a new name at its end. -/
def append (r : Registry) (p : Provider) (fresh : p.name ∉ r.names) : Registry :=
  ⟨r.providers ++ [p], by
    rw [List.map_append, List.nodup_append]
    refine ⟨r.distinct, by simp, ?_⟩
    intro a ha b hb
    simp only [List.map_cons, List.map_nil, List.mem_singleton] at hb
    subst hb
    exact fun e => fresh (e ▸ ha)⟩

/-- Registers a provider. A name that is taken is refused, and is the failure, unless the
provider replaces the one that has it. -/
def register (r : Registry) (p : Provider) (replacing : Bool) : Except String Registry :=
  if h : p.name ∈ r.names then
    if replacing then .ok (r.replace p) else .error p.name
  else .ok (r.append p h)

/-- Removes the provider of a name, if there is one. -/
def unregister (r : Registry) (name : String) : Registry :=
  ⟨r.providers.filter (·.name != name), r.distinct.sublist (List.filter_sublist.map _)⟩

/-- Registers providers in order. -/
def registerAll (r : Registry) : List Provider → Except String Registry
  | [] => .ok r
  | p :: ps => do (← r.register p false).registerAll ps

/-- The registry of a list of providers. -/
def ofList (ps : List Provider) : Except String Registry := empty.registerAll ps

end Registry

end InspectionFeed
