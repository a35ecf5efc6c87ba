/-
How much room it takes to read a document strictly. Reading needs a certain room:
with less it stops where the nesting is too deep, and with as much or more it comes
to one and the same end (`settles_read`). What carries the file is `Settles.bind`:
of two parts read one after the other the larger need counts.
-/
import InspectionFeed.Toml.Strict.Reader
import Mathlib.Logic.Basic

namespace InspectionFeed.Toml.Strict

/-- There is a room that the reading needs. With less it is too deep, and with more nothing
changes. -/
def Settles {α : Type} (f : Nat → Except Fault α) : Prop :=
  ∃ needed x, x ≠ .error .tooDeep ∧
    ∀ room, f room = if room < needed then .error .tooDeep else x

variable {α β : Type} {f : Nat → Except Fault α} {g : α → Nat → Except Fault β}

theorem Settles.congr {f' : Nat → Except Fault α} (h : ∀ room, f' room = f room)
    (hf : Settles f) : Settles f' :=
  funext h ▸ hf

theorem Settles.const {x : Except Fault α} (hx : x ≠ .error .tooDeep) : Settles fun _ => x :=
  ⟨0, x, hx, fun _ => (if_neg (Nat.not_lt_zero _)).symm⟩

theorem Settles.ok (a : α) : Settles fun _ => .ok a := .const nofun

theorem Settles.malformed : Settles (α := α) fun _ => .error .malformed := .const nofun

theorem Settles.orMalformed (a : Option α) : Settles fun _ => orMalformed a := by
  cases a with
  | none => exact .malformed
  | some a => exact .ok a

theorem Settles.bind (hf : Settles f) (hg : ∀ a, Settles (g a)) :
    Settles fun room => f room >>= (g · room) := by
  obtain ⟨needed, x, hx, hf⟩ := hf
  cases x with
  | error fault =>
    refine ⟨needed, .error fault, fun h => hx (by cases h; rfl), fun room => ?_⟩
    simp only [hf room]
    split <;> rfl
  | ok a =>
    obtain ⟨needed', y, hy, hg⟩ := hg a
    refine ⟨max needed needed', y, hy, fun room => ?_⟩
    simp only [hf room]
    by_cases hroom : room < needed
    · rw [if_pos hroom, if_pos (by omega)]
      rfl
    · rw [if_neg hroom]
      show g a room = _
      rw [hg room]
      exact if_congr (by omega) rfl rfl

theorem Settles.map (k : α → β) (hf : Settles f) : Settles fun room => (f room).map k :=
  hf.bind fun a => .ok (k a)

/-- What is nested takes the calls that lead to it as well. -/
theorem Settles.nested (calls : Nat) (hf : Settles f) :
    Settles fun room => if room < calls then .error .tooDeep else f (room - calls) := by
  obtain ⟨needed, x, hx, hf⟩ := hf
  refine ⟨calls + needed, x, hx, fun room => ?_⟩
  dsimp only
  by_cases hroom : room < calls
  · rw [if_pos hroom, if_pos (by omega)]
  · rw [if_neg hroom, hf]
    exact if_congr (by omega) rfl rfl

theorem settles_value_items_inlineEntries (fuel : Nat) :
    (∀ cs, Settles (value fuel · cs)) ∧ (∀ read cs, Settles (items fuel · read cs)) ∧
      ∀ es cs, Settles (inlineEntries fuel · es cs) := by
  induction fuel with
  | zero =>
    simp only [value, items, inlineEntries]
    exact ⟨fun _ => .malformed, fun _ _ => .malformed, fun _ _ => .malformed⟩
  | succ fuel ih =>
    obtain ⟨hvalue, hitems, hentries⟩ := ih
    refine ⟨fun cs => ?_, fun read cs => ?_, fun es cs => ?_⟩
    · unfold value
      split
      · exact (Settles.orMalformed _).map _
      · exact (Settles.orMalformed _).map _
      · exact .ok _
      · exact .ok _
      · exact (hitems _ _).nested _
      next rest =>
        -- Whether the table is empty does not depend on the room.
        cases skipSpace rest with
        | nil => exact (hentries _ _).nested _
        | cons c cs =>
          by_cases hc : c = '\x7d'
          · subst hc
            exact (Settles.ok _).nested _
          · refine Settles.congr (fun room => congrArg _ ?_)
              ((hentries [] (c :: cs)).nested tableCalls)
            split
            next heq => exact absurd (List.cons.inj heq).1 hc
            next => rfl
      · exact .orMalformed _
    · unfold items
      refine (Settles.orMalformed _).bind fun rest => ?_
      split
      · exact .ok _
      · refine (hvalue _).bind fun (v, rest) => ?_
        refine (Settles.orMalformed _).bind fun rest => ?_
        split
        · exact hitems _ _
        · exact .ok _
        · exact .malformed
    · unfold inlineEntries
      refine (Settles.orMalformed _).bind fun (⟨key, more⟩, rest) => ?_
      refine (Settles.orMalformed _).bind fun rest => ?_
      refine (hvalue _).bind fun (v, rest) => ?_
      refine (Settles.orMalformed _).bind fun es => ?_
      split
      · exact hentries _ _
      · exact .ok _
      · exact .malformed

theorem settles_entry (cs : List Char) (d : Draft) : Settles (entry · cs d) := by
  unfold entry
  refine (Settles.orMalformed _).bind fun (⟨key, more⟩, rest) => ?_
  refine (Settles.orMalformed _).bind fun rest => ?_
  refine ((settles_value_items_inlineEntries _).1 _).bind fun (v, rest) => ?_
  refine (Settles.orMalformed _).bind fun entries => ?_
  exact (Settles.orMalformed _).bind fun rest => .ok _

theorem settles_document (fuel : Nat) (d : Draft) (cs : List Char) :
    Settles (document · fuel d cs) := by
  induction fuel generalizing d cs with
  | zero => exact .malformed
  | succ fuel ih =>
    unfold document
    split
    · exact .ok _
    · exact ih _ _
    · exact (Settles.orMalformed _).bind fun rest => ih _ _
    · exact (Settles.orMalformed _).bind fun (d, rest) => ih _ _
    · exact (Settles.orMalformed _).bind fun (d, rest) => ih _ _
    · exact (settles_entry _ _).bind fun (d, rest) => ih _ _

theorem settles_read (cs : List Char) : Settles (read · cs) :=
  (settles_document _ _ _).map _

/-! ## Nested lists -/

/-- A list that holds nothing but another, so many times, and in the end nothing. -/
def nested : Nat → Value
  | 0 => .list []
  | n + 1 => .list [nested n]

theorem value_nested (n : Nat) : ∀ {fuel : Nat}, 2 * n + 2 ≤ fuel →
    ∀ (room : Nat) (rest : List Char),
    value fuel room (List.replicate (n + 1) '[' ++ (List.replicate (n + 1) ']' ++ rest)) =
      if room < listCalls * (n + 1) then .error .tooDeep else .ok (nested n, rest) := by
  induction n with
  | zero =>
    intro fuel hfuel room rest
    obtain ⟨fuel, rfl⟩ : ∃ k, fuel = k + 2 := ⟨fuel - 2, by omega⟩
    show (if room < listCalls then _ else Except.ok (Value.list [], rest)) = _
    rfl
  | succ n ih =>
    intro fuel hfuel room rest
    obtain ⟨fuel, rfl⟩ : ∃ k, fuel = k + 2 := ⟨fuel - 2, by omega⟩
    have hclose : List.replicate (n + 2) ']' ++ rest =
        List.replicate (n + 1) ']' ++ (']' :: rest) := by
      rw [List.replicate_succ', List.append_assoc]
      rfl
    have hinner := ih (by omega : 2 * n + 2 ≤ fuel) (room - listCalls) (']' :: rest)
    rw [hclose]
    show (if room < listCalls then _ else
      value fuel (room - listCalls) (List.replicate (n + 1) '[' ++ _) >>= _) = _
    rw [hinner]
    unfold listCalls
    by_cases h₁ : room < 2
    · rw [if_pos h₁, if_pos (by omega)]
    · rw [if_neg h₁]
      by_cases h₂ : room - 2 < 2 * (n + 1)
      · rw [if_pos h₂, if_pos (by omega)]
        rfl
      · rw [if_neg h₂, if_neg (by omega)]
        rfl

/-- An entry with a list nested so deep. -/
theorem entry_nested (n room : Nat) (rest : List Char) :
    entry room ('x' :: '=' :: (List.replicate (n + 1) '[' ++
        (List.replicate (n + 1) ']' ++ '\n' :: rest))) ⟨[], []⟩ =
      if room < listCalls * (n + 1) then .error .tooDeep
      else .ok (⟨[], [("x", .leaf (nested n))]⟩, rest) := by
  have hkey : ∀ cs, key? ('x' :: '=' :: cs) = some (⟨"x", []⟩, '=' :: cs) := fun _ => rfl
  have hexpect : ∀ cs, expect? '=' ('=' :: cs) = some cs := fun _ => rfl
  have hspace : ∀ cs, skipSpace (List.replicate (n + 1) '[' ++ cs) =
    List.replicate (n + 1) '[' ++ cs := fun _ => rfl
  unfold entry
  simp only [hkey, hexpect, hspace, orMalformed, bind, Except.bind]
  rw [value_nested n (by simp; omega)]
  by_cases hroom : room < listCalls * (n + 1)
  · simp only [if_pos hroom]
  · simp only [if_neg hroom]
    rfl

/-- A document that begins with a list nested so deep. -/
theorem read_nested (n room : Nat) (rest : List Char) :
    let cs := 'x' :: '=' :: (List.replicate (n + 1) '[' ++
        (List.replicate (n + 1) ']' ++ '\n' :: rest))
    read room cs =
      if room < listCalls * (n + 1) then .error .tooDeep
      else (document room (cs.length + 1) ⟨[], [("x", .leaf (nested n))]⟩ rest).map fun d =>
        entryValues d.entries := by
  intro cs
  have hstep : read room cs = (entry room cs ⟨[], []⟩ >>= fun p =>
      document room (cs.length + 1) p.1 p.2).map fun d => entryValues d.entries := rfl
  rw [hstep, entry_nested]
  split <;> rfl

end InspectionFeed.Toml.Strict
