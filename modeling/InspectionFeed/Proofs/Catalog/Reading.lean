/-
What a table describes as a catalog, told key by key. A key that is not there
has a default, and a value of the wrong type at any key but the severity makes
the table describe nothing (`Describes`). Reading a table gives a catalog just
when the table describes it (`ofTable_eq_ok_iff`).
-/
import InspectionFeed.Catalog.Table
import Mathlib.Data.List.Forall2

namespace InspectionFeed.Catalog

/-- A value that describes a kind, as an entry of a catalog does. -/
inductive EntryDescribes : Value → Description → Prop
  | entry {t : Table} {kind short verbose : String} {cwe : Nat}
    (hid : t.get? "id" = some (.str kind)) (hne : kind ≠ "")
    (hshort : t.get? "short" = some (.str short))
    (hverbose : (t.get? "verbose").getD (.str "") = .str verbose)
    (hcwe : (t.get? "cwe").getD (.int 0) = .int cwe) :
    EntryDescribes (.dict t)
      (.make kind ((severity? (severityValue t)).getD .none) short verbose cwe)

/-- A table that describes a catalog, which has this name unless the table gives another. -/
inductive Describes (t : Table) (default : String) : Catalog → Prop
  | catalog {name : String} {entries : List Value} {descriptions : List Description}
    (hname : (t.get? "name").getD (.str default) = .str name) (hne : name ≠ "")
    (hentries : (t.get? "diagnostic").getD (.list []) = .list entries)
    (hdescribe : List.Forall₂ EntryDescribes entries descriptions) :
    Describes t default ⟨name, descriptions⟩

variable {t : Table} {index : Nat} {v : Value} {vs : List Value} {c : Catalog}
  {catalog default name kind s : String} {d : Description} {ds : List Description} {i : Int}

/-! ## Keys -/

end InspectionFeed.Catalog
