/-
Which tables are catalogs, and why the others are none. A table is looked at
in order: its name, its list of entries, then the entries one by one, and in
each of them the keys one by one. The first thing that is wrong ends the
reading, and it tells the number of its entry (`EntryFails`, `Fails`). What
stands behind that entry is not looked at.

A severity that is not known is nothing wrong. It gives one warning for each
entry that has one, among the entries that were read.
-/
import InspectionFeed.Proofs.Catalog.Reading

namespace InspectionFeed.Catalog

/-- What an entry with this number is warned of: a severity that is there but names none. -/
def warning? (index : Nat) : Value → Option Log.Event
  | .dict t =>
    match Table.get? t "id", Table.get? t "severity" with
    | some (.str kind), some v =>
      if (severity? v).isSome then none
      else some ⟨.warning, "catalog entry " ++ toString index ++ " (" ++ kind ++ ")" ++
        ": unknown severity " ++ v.literal ++ ", using 'none'"⟩
    | _, _ => none
  | _ => none

/-- What entries are warned of, the first of them having this number. -/
def warnings (index : Nat) (vs : List Value) : List Log.Event :=
  (vs.zipIdx index).filterMap fun (v, i) => warning? i v

/-- The entries of a table. -/
def entries (t : Table) : List Value :=
  match t.get? "diagnostic" with
  | some (.list vs) => vs
  | _ => []

variable {t : Table} {index : Nat} {v : Value} {vs before after : List Value} {c : Catalog}
  {catalog default kind s short verbose : String} {cwe : Int} {fault : EntryFault}
  {d : Description} {ds : List Description} {f : Fault}

/-! ## Entries -/

theorem entries_eq (h : (t.get? "diagnostic").getD (.list []) = .list vs) : entries t = vs := by
  unfold entries
  rcases Option.getD_eq_iff.1 h with ht | ⟨ht, hdefault⟩
  · rw [ht]
  · rw [ht]
    exact Value.list.inj hdefault

/-- An unknown severity, then an entry with two faults, then one that is not looked at. -/
example :
    let t : Table := [("diagnostic", .list
      [.dict [("id", .str "leak"), ("short", .str "Leak"), ("severity", .str "fatal")],
        .dict [("cwe", .bool true), ("verbose", .null), ("short", .str ""), ("id", .str "null")],
        .dict [("id", .str "unused"), ("short", .str ""), ("severity", .int 1)]])]
    (ofTable t "memory").events =
        [⟨.warning, "catalog entry 1 (leak): unknown severity 'fatal', using 'none'"⟩] ∧
      (ofTable t "memory").result = .error (.entry 2 "null" .verbose) := by
  decide +kernel

end InspectionFeed.Catalog
