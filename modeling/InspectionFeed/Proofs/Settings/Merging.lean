/-
Layers of settings are a monoid: merging is associative, and the layer that says
nothing changes none. Settings that are thawed are the same when they are frozen
again, but a frozen layer is not the same when it is thawed, since freezing turns
what is unset into defaults. All that later layers can tell of a layer below them
is the settings it gives, though (`freeze_merge_congr`), so below is where layers
may be frozen.

So layers give the same settings in whatever groups they are loaded, with settings
built from the lower ones at any time (`Loading.freeze_layer`), and files do so too
(`map_freeze_addBatches`).
-/
import InspectionFeed.Proofs.Settings.Layering

namespace InspectionFeed

namespace Layer

variable {a b : Layer}

theorem merge_assoc (a b c : Layer) : (a.merge b).merge c = a.merge (b.merge c) := by
  simp only [merge, Option.or_assoc, List.append_assoc]

theorem empty_merge (a : Layer) : empty.merge a = a := by simp [merge, empty]

theorem merge_empty (a : Layer) : a.merge empty = a := by simp [merge, empty]

instance : Std.Associative merge := ⟨merge_assoc⟩

instance : Std.LawfulIdentity merge empty where
  left_id := empty_merge
  right_id := merge_empty

/-! ## Freezing -/

theorem freeze_thaw (s : Settings) : s.thaw.freeze = s := rfl

/-- Layers that give the same settings do so below any other layer. -/
theorem freeze_merge_congr (h : a.freeze = b.freeze) (above : Layer) :
    (a.merge above).freeze = (b.merge above).freeze := by
  obtain ⟨hverbose, hbases, hfiles⟩ := Settings.mk.inj h
  simp only [freeze, merge, Option.getD_or, hverbose, hbases, hfiles]

/-- Settings may be built from a layer before others are put over it. -/
theorem freeze_merge_thaw (below above : Layer) :
    (below.freeze.thaw.merge above).freeze = (below.merge above).freeze :=
  freeze_merge_congr (freeze_thaw _) above

/-- Layers put one over another, the first one lowest. -/
def stack (ls : List Layer) : Layer := ls.foldl merge empty

theorem stack_append (ls ms : List Layer) : stack (ls ++ ms) = (stack ls).merge (stack ms) := by
  rw [stack, List.foldl_append, ← stack]
  -- The second fold goes on from the first one, as from a layer over nothing.
  conv_lhs => rw [← merge_empty (stack ls)]
  exact List.foldl_assoc

/-! ## Plans -/

/-- Layers put together in groups, of whatever sizes and in whatever nesting. -/
inductive Grouping
  | none
  | one (l : Layer)
  | merged (below above : Grouping)
  deriving Repr, DecidableEq

namespace Grouping

/-- The layers of a grouping, the lowest one first. -/
def layers : Grouping → List Layer
  | none => []
  | one l => [l]
  | merged below above => below.layers ++ above.layers

/-- The layer that a grouping comes to. -/
def layer : Grouping → Layer
  | none => empty
  | one l => l
  | merged below above => below.layer.merge above.layer

theorem layer_eq_stack (g : Grouping) : g.layer = stack g.layers := by
  induction g with
  | none => rfl
  | one l => exact (empty_merge l).symm
  | merged below above ihb iha => rw [layer, ihb, iha, layers, stack_append]

end Grouping

/-- A way to load layers from the lowest one up: groups are put over what is loaded already, and
what is loaded may be frozen and thawed in between. -/
inductive Loading
  | group (g : Grouping)
  | merged (below : Loading) (above : Grouping)
  | frozen (below : Loading)
  deriving Repr, DecidableEq

namespace Loading

/-- The layers that are loaded, the lowest one first. -/
def layers : Loading → List Layer
  | group g => g.layers
  | merged below above => below.layers ++ above.layers
  | frozen below => below.layers

/-- The layer that a loading comes to. -/
def layer : Loading → Layer
  | group g => g.layer
  | merged below above => below.layer.merge above.layer
  | frozen below => below.layer.freeze.thaw

/-- However layers are loaded, they give the settings of all of them put one over another. -/
theorem freeze_layer (p : Loading) : p.layer.freeze = (stack p.layers).freeze := by
  induction p with
  | group g => exact congrArg freeze g.layer_eq_stack
  | merged below above ih =>
    -- Only the lower part may have been frozen, and it still gives the same settings.
    rw [layer, layers, stack_append, above.layer_eq_stack]
    exact freeze_merge_congr ih _
  | frozen below ih => rw [layer, freeze_thaw, ih, layers]

end Loading

end Layer

/-! ## Files -/

namespace Settings

/-- Files that are loaded batch by batch, with settings built from each batch before the next one
is loaded. -/
def addBatches (h : Host) (below : Layer) : List (List HostPath) → Except Fault Layer
  | [] => .ok below
  | files :: batches =>
    (addFiles h below files).result >>= fun l => addBatches h l.freeze.thaw batches

theorem result_addFiles_append (h : Host) (below : Layer) (files more : List HostPath) :
    (addFiles h below (files ++ more)).result =
      (addFiles h below files).result >>= fun l => (addFiles h l more).result := by
  induction files generalizing below with
  | nil => rfl
  | cons path files ih =>
    rw [List.cons_append]
    cases hl : (Layer.ofFile h path).result with
    | error fault => rw [result_addFiles_cons_error hl, result_addFiles_cons_error hl]; rfl
    | ok l => rw [result_addFiles_cons hl, result_addFiles_cons hl, ih]

/-- Files over layers that give the same settings fail alike or give the same settings. -/
theorem map_freeze_addFiles_congr {a b : Layer} (hab : a.freeze = b.freeze) (h : Host)
    (files : List HostPath) :
    (addFiles h a files).result.map Layer.freeze =
      (addFiles h b files).result.map Layer.freeze := by
  induction files generalizing a b with
  | nil => exact congrArg Except.ok hab
  | cons path files ih =>
    cases hl : (Layer.ofFile h path).result with
    | error fault => rw [result_addFiles_cons_error hl, result_addFiles_cons_error hl]
    | ok l =>
      rw [result_addFiles_cons hl, result_addFiles_cons hl]
      cases l with
      | none => exact ih hab
      | some above => exact ih (Layer.freeze_merge_congr hab above)

/-- Files in batches give the settings of all of them at once, or fail as they do. -/
theorem map_freeze_addBatches (h : Host) (below : Layer) (batches : List (List HostPath)) :
    (addBatches h below batches).map Layer.freeze =
      (addFiles h below batches.flatten).result.map Layer.freeze := by
  induction batches generalizing below with
  | nil => rfl
  | cons files batches ih =>
    rw [addBatches, List.flatten_cons, result_addFiles_append]
    cases (addFiles h below files).result with
    | error fault => rfl
    | ok l => exact (ih _).trans (map_freeze_addFiles_congr (Layer.freeze_thaw _) h _)

end Settings

/-! ## The laws -/

/-- **Layers are a monoid that freezing respects.** Merging is associative and the empty layer is
its identity on both sides, settings that are thawed freeze to themselves, and a layer may be
frozen and thawed before another one is put over it. So layers give the same settings in whatever
groups they are loaded and however often settings are built in between, and so do files. -/
theorem Layer.merge_lawful :
    (∀ a b c : Layer, a.merge (b.merge c) = (a.merge b).merge c) ∧
      (∀ a : Layer, Layer.empty.merge a = a ∧ a.merge .empty = a) ∧
      (∀ s : Settings, s.thaw.freeze = s) ∧
      (∀ a b : Layer, (a.merge b).freeze = (a.freeze.thaw.merge b).freeze) ∧
      (∀ p : Layer.Loading, p.layer.freeze = (Layer.stack p.layers).freeze) ∧
      ∀ (h : Host) (below : Layer) (batches : List (List HostPath)),
        (Settings.addBatches h below batches).map Layer.freeze =
          (Settings.addFiles h below batches.flatten).result.map Layer.freeze := by
  refine ⟨fun a b c => (Layer.merge_assoc a b c).symm,
    fun a => ⟨Layer.empty_merge a, Layer.merge_empty a⟩, Layer.freeze_thaw, fun a b => ?_,
    Layer.Loading.freeze_layer, Settings.map_freeze_addBatches⟩
  exact (Layer.freeze_merge_thaw a b).symm

/-- Only what stands below may be frozen. Above, its defaults would hide what it leaves open. -/
example :
    let below : Layer := ⟨some true, some ["/a"], []⟩
    (below.merge Layer.empty.freeze.thaw).freeze = ⟨false, [], []⟩ ∧
      (below.merge .empty).freeze = ⟨true, ["/a"], []⟩ := by
  decide

end InspectionFeed
