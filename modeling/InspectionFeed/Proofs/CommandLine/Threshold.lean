/-
How the environment bears on a run. A run takes the threshold that the text in
the environment stands for, else the one of its switches; digits that write no
number it can read end it before its command is looked at (`start_fails_iff`).

The library's own threshold is the same, but for zero, which is taken there for
no threshold at all (`thresholds_agree_iff`).
-/
import InspectionFeed.CommandLine.Run
import InspectionFeed.Host.FileTree
import InspectionFeed.Proofs.Log.Threshold

namespace InspectionFeed.CommandLine

/-- A run that settles its threshold: its own arguments say `said` and do not ask for help, and the
command, if there is one, is known. -/
def Settles (i : Invocation) (said : List Use) : Prop :=
  ∃ others, Topic.program.readArguments i.args = .ok ⟨said, others⟩ ∧ .help ∉ said ∧
    ∀ name ∈ others.head?, (Command.ofName? name).isSome = true

/-- Both more and fewer log lines are asked for. -/
def Contradictory (said : List Use) : Prop := .more ∈ said ∧ .fewer ∈ said

instance (said : List Use) : Decidable (Contradictory said) := inferInstanceAs (Decidable (_ ∧ _))

/-- The run takes the threshold given, or where there is none the one that its switches ask for. -/
def Takes (i : Invocation) (said : List Use) (given : Option Nat) : Prop :=
  ∃ level event, Log.levelOfCounts? (said.count .more) (said.count .fewer) = some level ∧
    settleThreshold i said = .ok (given.getD level.number, event)

variable {i : Invocation} {said : List Use} {given : Option Nat}
  {fault : Text.NumeralFault}

/-! ## Settling the threshold -/

theorem exists_level (hsaid : ¬ Contradictory said) :
    ∃ level, Log.levelOfCounts? (said.count .more) (said.count .fewer) = some level := by
  refine Log.exists_levelOfCounts? fun ⟨hmore, hfewer⟩ => hsaid ⟨?_, ?_⟩
  · exact List.count_pos_iff.1 (Int.natCast_pos.1 hmore)
  · exact List.count_pos_iff.1 (Int.natCast_pos.1 hfewer)

theorem takes_of_ok (hsaid : ¬ Contradictory said)
    (hg : Log.thresholdOfVariable i.environment = .ok given) : Takes i said given := by
  obtain ⟨level, hlevel⟩ := exists_level hsaid
  exact ⟨level, _, hlevel, by rw [settleThreshold, hlevel, hg]⟩

theorem settleThreshold_of_error (hsaid : ¬ Contradictory said)
    (hf : Log.thresholdOfVariable i.environment = .error fault) :
    settleThreshold i said = .error (.threshold fault) := by
  obtain ⟨level, hlevel⟩ := exists_level hsaid
  rw [settleThreshold, hlevel, hf]

/-- Whatever a run does, it settles its threshold first. -/
theorem exists_run_eq (hi : Settles i said) (h : Host) : ∃ work, run h i = runWith i said work := by
  obtain ⟨others, hread, hhelp, hname⟩ := hi
  rw [run, hread]
  dsimp only
  rw [if_neg hhelp]
  cases others with
  | nil => exact ⟨_, rfl⟩
  | cons name args =>
    obtain ⟨c, hc⟩ := Option.isSome_iff_exists.1 (hname name rfl)
    have hcommand : command i name args = .ok c := by rw [command, hc]
    dsimp only
    rw [hcommand]
    exact ⟨_, rfl⟩

theorem run_of_threshold_error (hi : Settles i said) (hsaid : ¬ Contradictory said)
    (hf : Log.thresholdOfVariable i.environment = .error fault) (h : Host) :
    run h i = .fail (.threshold fault) := by
  obtain ⟨work, hwork⟩ := exists_run_eq hi h
  rw [hwork, runWith, settleThreshold_of_error hsaid hf]

/-! ## What the environment does to a run -/

/-- **When the environment ends a run.** A text in it is given a meaning, or it is digits that
cannot be read. With a meaning the run takes the threshold that it stands for, if any; without one
every run ends there, with a fault that is not foreseen and nothing written. With no text at all
the switches have their way. -/
theorem start_fails_iff (text : String) :
    (∀ given, Log.thresholdOfText text = .ok given ↔ Log.StandsFor (Log.wordOf text) given) ∧
    ((∃ fault, Log.thresholdOfText text = .error fault) ↔ Text.Unreadable (Log.wordOf text)) ∧
    ∀ (i : Invocation) (said : List Use), ¬ Contradictory said →
      (i.environment = none → Takes i said none) ∧
      (i.environment = some text →
        (∀ given, Log.StandsFor (Log.wordOf text) given → Takes i said given) ∧
        (Text.Unreadable (Log.wordOf text) →
          ∃ fault, settleThreshold i said = .error (.threshold fault) ∧
            (Fault.threshold fault).code? = none ∧
            ∀ h, Settles i said → run h i = .fail (.threshold fault))) := by
  refine ⟨fun given => Log.thresholdOfText_eq_ok_iff, Log.exists_thresholdOfText_error_iff,
    fun i said hsaid => ⟨fun henv => ?_, fun henv => ⟨fun given hgiven => ?_, fun hu => ?_⟩⟩⟩
  · apply takes_of_ok hsaid
    rw [henv, Log.thresholdOfVariable]
  · apply takes_of_ok hsaid
    rw [henv, Log.thresholdOfVariable, Log.thresholdOfText_of_standsFor hgiven]
  · obtain ⟨fault, hfault⟩ := Log.exists_thresholdOfText_error_iff.2 hu
    have hvariable : Log.thresholdOfVariable i.environment = .error fault := by
      rw [henv, Log.thresholdOfVariable, hfault]
    exact ⟨fault, settleThreshold_of_error hsaid hvariable, rfl,
      fun h hi => run_of_threshold_error hi hsaid hvariable h⟩

/-- A name in small letters, one of them without its dot, is taken over the switches; a number in
digits of two scripts and with zeros in front is the number. -/
theorem start_with_odd_texts :
    let named : Invocation := ⟨"tcinspect", ["-q", "version"], some " \u0131nfo\u3000", []⟩
    let counted : Invocation := ⟨"tcinspect", ["-q", "version"], some "0\u0661\uff15", []⟩
    Takes named [.fewer] (some 20) ∧ Takes counted [.fewer] (some 15) := by
  intro named counted
  have hsaid : ¬ Contradictory [Use.fewer] := by decide
  have hinfo : Log.wordOf " \u0131nfo\u3000" = "INFO" := by decide +kernel
  have hfifteen : Log.wordOf "0\u0661\uff15" = "0\u0661\uff15" := by decide +kernel
  obtain ⟨-, -, hnamed⟩ := start_fails_iff " \u0131nfo\u3000"
  obtain ⟨-, -, hcounted⟩ := start_fails_iff "0\u0661\uff15"
  refine ⟨((hnamed named _ hsaid).2 rfl).1 _ ?_, ((hcounted counted _ hsaid).2 rfl).1 _ ?_⟩
  · rw [hinfo]
    exact .named (by decide)
  · rw [hfifteen]
    exact .number ⟨[0, 1, 5], by decide, by decide, by decide⟩ (by decide)

/-- The digit two as a superscript is no decimal digit, and with it in the environment not even the
version is shown. -/
theorem superscript_ends_run :
    let host := FileTree.host ⟨[]⟩ []
    let i : Invocation := ⟨"tcinspect", ["version"], some "\u00b2", []⟩
    Log.thresholdOfText "\u00b2" = .error (.notDecimal "\u00b2") ∧
      run host i = .fail (.threshold (.notDecimal "\u00b2")) ∧
      run host { i with environment := none } = .write (versionText ++ "\n") := by
  decide +kernel

/-! ## The library's own threshold -/

/-- **When the two thresholds agree.** A threshold from the environment is the one of the run
whatever its switches are, and it is the library's own just when it is not zero. Zero shows all log
lines in the run, and only critical ones in the library. Where the environment gives none, each has
its own. -/
theorem thresholds_agree_iff (hsaid : ¬ Contradictory said)
    (hg : Log.thresholdOfVariable i.environment = .ok given) :
    Takes i said given ∧
    (given = none → Log.threshold none i.environment = .ok Log.Level.critical.number) ∧
    (∀ n, given = some n → (Log.threshold none i.environment = .ok n ↔ n ≠ 0)) ∧
    (given = some 0 → Log.threshold none i.environment = .ok Log.Level.critical.number ∧
      ∀ events, Log.shown 0 events = events ∧
        Log.shown Log.Level.critical.number events =
          events.filter fun e => e.level = .critical) := by
  refine ⟨takes_of_ok hsaid hg, fun hnone => ?_, fun n hn => ?_, fun hzero => ⟨?_, ?_⟩⟩
  · exact Log.threshold_of_zero hg (by rw [hnone]; rfl)
  · subst hn
    refine ⟨?_, Log.threshold_of_some hg⟩
    rintro hthreshold rfl
    rw [Log.threshold_of_zero hg rfl] at hthreshold
    cases hthreshold
  · exact Log.threshold_of_zero hg (by rw [hzero]; rfl)
  · exact fun events => ⟨Log.shown_zero events, Log.shown_critical events⟩

/-- The lightest level by name is the threshold of both, over a switch for fewer lines. -/
theorem thresholds_agree_on_trace :
    let i : Invocation := ⟨"tcinspect", ["-q", "version"], some "Trace", []⟩
    Log.thresholdOfVariable i.environment = .ok (some 5) ∧
      Takes i [.fewer] (some 5) ∧ Log.threshold none i.environment = .ok 5 := by
  intro i
  have hg : Log.thresholdOfVariable i.environment = .ok (some 5) := by decide +kernel
  have hsaid : ¬ Contradictory [Use.fewer] := by decide
  obtain ⟨htakes, -, hagrees, -⟩ := thresholds_agree_iff hsaid hg
  exact ⟨hg, htakes, (hagrees 5 rfl).2 (by decide)⟩

/-- With zero in the environment the run shows every line, and the library only critical ones. -/
theorem zero_disagrees :
    let i : Invocation := ⟨"tcinspect", ["version"], some "0", []⟩
    Log.thresholdOfVariable i.environment = .ok (some 0) ∧
      (settleThreshold i []).map Prod.fst = .ok 0 ∧
      Log.threshold none i.environment = .ok 50 := by
  decide +kernel

end InspectionFeed.CommandLine
