/-
What a registry holds, as an ordered list of entries: names, each with the
provider that has it. A change does to the entries what its rule says
(`Step`). A new name goes to the end, a replacement stands where the old
provider stood, a refused registration changes nothing, and a removed entry
leaves no gap, so the same name comes back at the end.

A registry goes with such a list through any number of changes, and whatever
it is asked on the way, it answers from the list (`Tells`).
-/
import InspectionFeed.Proofs.Registry.Building
import InspectionFeed.Registry.Load

namespace InspectionFeed

namespace Registry

/-- Names with providers, in order. -/
abbrev Entries := List (String × Provider)

def Entries.keys (es : Entries) : List String := es.map Prod.fst

/-- Providers under their own names. -/
def entriesOf (ps : List Provider) : Entries := ps.map fun p => (p.name, p)

/-- What the registry holds. -/
def entries (r : Registry) : Entries := entriesOf r.providers

inductive Change
  | register (p : Provider) (replacing : Bool)
  | unregister (name : String)
  deriving DecidableEq

/-- What a change gives back. -/
inductive Answer
  | registered
  /-- The name is refused, since it is taken. -/
  | taken (name : String)
  | removed (there : Bool)
  deriving DecidableEq

/-- Makes a change. -/
def change (r : Registry) : Change → Registry × Answer
  | .register p replacing =>
    match (r.add p replacing).result with
    | .ok r' => (r', .registered)
    | .error name => (r, .taken name)
  | .unregister name =>
    match (r.remove name : Logged Empty (Registry × Bool)).result with
    | .ok (r', there) => (r', .removed there)

/-- Makes changes in order. -/
def changeAll (r : Registry) : List Change → Registry × List Answer
  | [] => (r, [])
  | c :: cs =>
    let (r', answer) := r.change c
    let (r'', answers) := r'.changeAll cs
    (r'', answer :: answers)

/-- What a change does to a list of entries, and what it gives back. -/
inductive Step : Entries → Change → Answer → Entries → Prop
  | append {es : Entries} {p : Provider} {replacing : Bool} (fresh : p.name ∉ es.keys) :
    Step es (.register p replacing) .registered (es ++ [(p.name, p)])
  | replace {before after : Entries} {p old : Provider} :
    Step (before ++ (p.name, old) :: after) (.register p true) .registered
      (before ++ (p.name, p) :: after)
  | refuse {es : Entries} {p : Provider} (known : p.name ∈ es.keys) :
    Step es (.register p false) (.taken p.name) es
  | remove {before after : Entries} {name : String} {p : Provider} :
    Step (before ++ (name, p) :: after) (.unregister name) (.removed true) (before ++ after)
  | miss {es : Entries} {name : String} (unknown : name ∉ es.keys) :
    Step es (.unregister name) (.removed false) es

/-- What changes made in order do. -/
inductive Run : Entries → List Change → List Answer → Entries → Prop
  | nil {es : Entries} : Run es [] [] es
  | cons {es es' es'' : Entries} {c : Change} {cs : List Change} {answer : Answer}
      {answers : List Answer} (first : Step es c answer es') (rest : Run es' cs answers es'') :
    Run es (c :: cs) (answer :: answers) es''

/-- All that the registry can be asked is answered from the entries. -/
structure Tells (r : Registry) (es : Entries) : Prop where
  nodup_keys : es.keys.Nodup
  own_name : ∀ name p, (name, p) ∈ es → p.name = name
  names_eq : r.names = es.keys
  providers_eq : r.providers = es.map Prod.snd
  size_eq : r.size = es.length
  contains_iff : ∀ name, r.contains name = true ↔ name ∈ es.keys
  get?_iff : ∀ name p, r.get? name = some p ↔ (name, p) ∈ es
  get?_none_iff : ∀ name, r.get? name = none ↔ name ∉ es.keys
  summary_eq : r.summary = es.map fun (name, p) =>
    (name, match p with
      | .catalog c => some c.descriptions.length
      | .source .. => none)

variable {r : Registry} {p old : Provider} {ps before after : List Provider} {name : String}

/-! ## Entries -/

theorem keys_entriesOf (ps : List Provider) : (entriesOf ps).keys = ps.map Provider.name := by
  simp [entriesOf, Entries.keys, Function.comp_def]

theorem keys_entries (r : Registry) : r.entries.keys = r.names := keys_entriesOf r.providers

theorem map_snd_entriesOf (ps : List Provider) : (entriesOf ps).map Prod.snd = ps := by
  simp [entriesOf, Function.comp_def]

/-- Where an entry stands in a list of providers' entries, there stands its provider, under its
own name. -/
theorem entriesOf_eq_append_cons {es es' : Entries}
    (h : entriesOf ps = es ++ (name, p) :: es') :
    ∃ before after, ps = before ++ p :: after ∧ p.name = name ∧ entriesOf before = es ∧
      entriesOf after = es' := by
  obtain ⟨before, rest, rfl, hbefore, hrest⟩ := List.map_eq_append_iff.1 h
  obtain ⟨q, after, rfl, hq, hafter⟩ := List.map_eq_cons_iff.1 hrest
  obtain ⟨rfl, rfl⟩ := Prod.mk.inj hq
  exact ⟨before, after, rfl, rfl, hbefore, hafter⟩

/-! ## One provider among others -/

theorem map_swap_of_ne (h : ∀ q ∈ ps, q.name ≠ p.name) : ps.map (swap p) = ps := by
  refine (List.map_congr_left fun q hq => ?_).trans ps.map_id
  rw [swap, if_neg (h q hq), id]

theorem map_swap (h : ((before ++ old :: after).map Provider.name).Nodup)
    (hname : old.name = p.name) :
    (before ++ old :: after).map (swap p) = before ++ p :: after := by
  have hne := name_ne_of_nodup h
  rw [hname] at hne
  rw [List.map_append, List.map_cons,
    map_swap_of_ne fun q hq => hne q (List.mem_append_left _ hq),
    map_swap_of_ne fun q hq => hne q (List.mem_append_right _ hq), swap, if_pos hname]

theorem filter_name_ne (h : ((before ++ old :: after).map Provider.name).Nodup) :
    (before ++ old :: after).filter (·.name != old.name) = before ++ after := by
  have hne := name_ne_of_nodup h
  have hkept : (before ++ after).filter (·.name != old.name) = before ++ after :=
    List.filter_eq_self.2 fun q hq => bne_iff_ne.2 (hne q hq)
  rw [List.filter_append, List.filter_cons_of_neg (by simp), ← List.filter_append, hkept]

/-! ## One change -/

theorem change_fresh (h : p.name ∉ r.names) (replacing : Bool) :
    r.change (.register p replacing) = (r.append p h, .registered) := by
  simp only [change, add, register, dif_neg h]
  rfl

theorem change_replace (h : p.name ∈ r.names) :
    r.change (.register p true) = (r.replace p, .registered) := by
  simp only [change, add, register, dif_pos h]
  rfl

theorem change_taken (h : p.name ∈ r.names) :
    r.change (.register p false) = (r, .taken p.name) := by
  simp only [change, add, register, dif_pos h]
  rfl

theorem change_unregister (r : Registry) (name : String) :
    r.change (.unregister name) = (r.unregister name, .removed (r.contains name)) := rfl

theorem contains_iff : r.contains name = true ↔ name ∈ r.names := List.contains_iff_mem

theorem entries_append (h : p.name ∉ r.names) :
    (r.append p h).entries = r.entries ++ [(p.name, p)] := List.map_append

/-- Some provider has a name that is known. -/
theorem exists_of_mem_names (h : name ∈ r.names) :
    ∃ before p after, r.providers = before ++ p :: after ∧ p.name = name := by
  obtain ⟨p, hp, rfl⟩ := List.mem_map.1 h
  obtain ⟨before, after, hr⟩ := List.append_of_mem hp
  exact ⟨before, p, after, hr, rfl⟩

theorem entries_replace (hr : r.providers = before ++ old :: after) (hname : old.name = p.name) :
    (r.replace p).entries = entriesOf before ++ (p.name, p) :: entriesOf after := by
  have hd := r.distinct
  rw [hr] at hd
  show entriesOf (r.providers.map (swap p)) = _
  rw [hr, map_swap hd hname, entriesOf, List.map_append, List.map_cons]
  rfl

theorem entries_unregister (hr : r.providers = before ++ old :: after) :
    (r.unregister old.name).entries = entriesOf before ++ entriesOf after := by
  have hd := r.distinct
  rw [hr] at hd
  show entriesOf (r.providers.filter (·.name != old.name)) = _
  rw [hr, filter_name_ne hd, entriesOf, List.map_append]
  rfl

theorem entries_unregister_of_notMem (h : name ∉ r.names) :
    (r.unregister name).entries = r.entries := by
  have hall : ∀ q ∈ r.providers, (q.name != name) = true := by
    intro q hq
    rw [bne_iff_ne]
    rintro rfl
    exact h (List.mem_map_of_mem hq)
  show entriesOf (r.providers.filter (·.name != name)) = _
  rw [List.filter_eq_self.2 hall]
  rfl

theorem entries_eq (hr : r.providers = before ++ p :: after) :
    r.entries = entriesOf before ++ (p.name, p) :: entriesOf after := by
  rw [entries, hr, entriesOf, List.map_append, List.map_cons]
  rfl

/-- A change of the registry is a step of its entries. -/
theorem step_change (r : Registry) (c : Change) :
    Step r.entries c (r.change c).2 (r.change c).1.entries := by
  cases c with
  | register p replacing =>
    by_cases h : p.name ∈ r.names
    · cases replacing with
      | true =>
        obtain ⟨before, old, after, hr, hname⟩ := exists_of_mem_names h
        rw [change_replace h, entries_replace hr hname, entries_eq hr, hname]
        exact .replace
      | false =>
        rw [change_taken h]
        exact .refuse (r.keys_entries ▸ h)
    · rw [change_fresh h, entries_append h]
      exact .append (r.keys_entries ▸ h)
  | unregister name =>
    rw [change_unregister]
    by_cases h : name ∈ r.names
    · obtain ⟨before, p, after, hr, rfl⟩ := exists_of_mem_names h
      rw [contains_iff.2 h, entries_unregister hr, entries_eq hr]
      exact .remove
    · have hc : r.contains name = false := Bool.eq_false_iff.2 (mt contains_iff.1 h)
      rw [hc, entries_unregister_of_notMem h]
      exact .miss (r.keys_entries ▸ h)

/-- The rules leave no choice: what a step does to the entries, the change does. -/
theorem eq_of_step {c : Change} {answer : Answer} {es : Entries}
    (h : Step r.entries c answer es) :
    (r.change c).2 = answer ∧ (r.change c).1.entries = es := by
  generalize hes : r.entries = es₀ at h
  cases h with
  | append fresh =>
    rw [← hes, keys_entries] at fresh
    rw [change_fresh fresh, entries_append fresh, hes]
    exact ⟨rfl, rfl⟩
  | replace =>
    obtain ⟨before, after, hr, hname, rfl, rfl⟩ := entriesOf_eq_append_cons hes
    rw [change_replace (hname ▸ mem_names hr), entries_replace hr hname]
    exact ⟨rfl, rfl⟩
  | refuse known =>
    rw [← hes, keys_entries] at known
    rw [change_taken known]
    exact ⟨rfl, hes⟩
  | remove =>
    obtain ⟨before, after, hr, rfl, rfl, rfl⟩ := entriesOf_eq_append_cons hes
    rw [change_unregister, entries_unregister hr, contains_iff.2 (mem_names hr)]
    exact ⟨rfl, rfl⟩
  | miss unknown =>
    rw [← hes, keys_entries] at unknown
    have hc := Bool.eq_false_iff.2 (mt contains_iff.1 unknown)
    rw [change_unregister, hc, entries_unregister_of_notMem unknown]
    exact ⟨rfl, hes⟩

/-! ## Changes in order -/

theorem run_changeAll (cs : List Change) (r : Registry) :
    Run r.entries cs (r.changeAll cs).2 (r.changeAll cs).1.entries := by
  induction cs generalizing r with
  | nil => exact .nil
  | cons c cs ih => exact .cons (step_change r c) (ih (r.change c).1)

theorem eq_of_run {cs : List Change} {answers : List Answer} {es : Entries}
    (h : Run r.entries cs answers es) :
    (r.changeAll cs).2 = answers ∧ (r.changeAll cs).1.entries = es := by
  induction cs generalizing r answers es with
  | nil =>
    cases h
    exact ⟨rfl, rfl⟩
  | cons c cs ih =>
    cases h with
    | cons first rest =>
      obtain ⟨hanswer, hes⟩ := eq_of_step first
      rw [← hes] at rest
      obtain ⟨hanswers, hes'⟩ := ih rest
      subst hanswer hanswers
      exact ⟨rfl, hes'⟩

/-! ## Questions -/

theorem get?_iff : r.get? name = some p ↔ p ∈ r.providers ∧ p.name = name := by
  constructor
  · intro h
    exact ⟨List.mem_of_find?_eq_some h, by simpa using List.find?_some h⟩
  · rintro ⟨hp, rfl⟩
    cases hf : r.get? p.name with
    | none => exact absurd (List.find?_eq_none.1 hf p hp) (by simp)
    | some q =>
      -- Names are distinct, so the one that was found is the one that was meant.
      have hq : q ∈ r.providers := List.mem_of_find?_eq_some hf
      have hname : q.name = p.name := by simpa using List.find?_some hf
      rw [List.inj_on_of_nodup_map r.distinct hq hp hname]

theorem tells_entries (r : Registry) : Tells r r.entries where
  nodup_keys := r.keys_entries ▸ r.distinct
  own_name name p h := by
    obtain ⟨q, -, hq⟩ := List.mem_map.1 h
    obtain ⟨rfl, rfl⟩ := Prod.mk.inj hq
    rfl
  names_eq := r.keys_entries.symm
  providers_eq := (map_snd_entriesOf r.providers).symm
  size_eq := (List.length_map _).symm
  contains_iff name := by rw [contains_iff, keys_entries]
  get?_iff name p := by
    rw [get?_iff, entries, entriesOf, List.mem_map]
    constructor
    · rintro ⟨hp, rfl⟩
      exact ⟨p, hp, rfl⟩
    · rintro ⟨q, hq, he⟩
      obtain ⟨rfl, rfl⟩ := Prod.mk.inj he
      exact ⟨hq, rfl⟩
  get?_none_iff name := by
    rw [keys_entries, names, List.mem_map, get?, List.find?_eq_none]
    simp
  summary_eq := by
    rw [entries, entriesOf, List.map_map]
    refine List.map_congr_left fun p _ => ?_
    cases p <;> rfl

/-- **A registry is an ordered list of entries**, whatever is done to it. It is built from
providers just when their names are distinct, and holds them in order; otherwise the first whose
name an earlier one has is refused. Changes made to it, however many, do to its entries what their
rules say and answer what these say, and nothing else would follow the rules. At each point all
that the registry can be asked is answered from its entries. -/
theorem refines_entries (ps : List Provider) :
    ((∃ r, ofList ps = .ok r) ↔ (ps.map Provider.name).Nodup) ∧
      (∀ name, ofList ps = .error name ↔
        ∃ before p after, ps = before ++ p :: after ∧ (before.map Provider.name).Nodup ∧
          p.name ∈ before.map Provider.name ∧ p.name = name) ∧
      ∀ r, ofList ps = .ok r → r.entries = entriesOf ps ∧
        ∀ cs : List Change,
          (∀ answers es, Run (entriesOf ps) cs answers es ↔
            (r.changeAll cs).2 = answers ∧ (r.changeAll cs).1.entries = es) ∧
          Tells (r.changeAll cs).1 (r.changeAll cs).1.entries := by
  refine ⟨exists_ofList_iff, fun name => ofList_eq_error_iff, fun r hr => ?_⟩
  have hentries : r.entries = entriesOf ps := by rw [entries, providers_of_ofList hr]
  refine ⟨hentries, fun cs => ⟨fun answers es => ?_, tells_entries _⟩⟩
  rw [← hentries]
  constructor
  · exact eq_of_run
  · rintro ⟨rfl, rfl⟩
    exact run_changeAll cs r

/-- A provider that was replaced and removed comes back at the end. -/
theorem removed_comes_back :
    let a : Provider := .catalog ⟨"a", []⟩
    let b : Provider := .source "b" []
    let other : Provider := .source "a" [.text "hello"]
    let cs : List Change :=
      [.register other false, .register other true, .unregister "a", .unregister "a",
        .register a false]
    ∃ r, ofList [a, b] = .ok r ∧
      Run (entriesOf [a, b]) cs [.taken "a", .registered, .removed true, .removed false, .registered]
        [("b", b), ("a", a)] ∧
      Tells (r.changeAll cs).1 [("b", b), ("a", a)] := by
  intro a b other cs
  let r : Registry := ⟨[a, b], by decide⟩
  have hr : ofList [a, b] = .ok r := rfl
  obtain ⟨-, -, hholds⟩ := refines_entries [a, b]
  obtain ⟨hrun, htells⟩ := (hholds r hr).2 cs
  have hes : (r.changeAll cs).1.entries = [("b", b), ("a", a)] := by decide
  rw [hes] at htells
  exact ⟨r, hr, (hrun _ _).2 ⟨by decide, hes⟩, htells⟩

end Registry

end InspectionFeed
