import QueryTemplate.Log.Setup

/-! What setting up leaves of a logger, once or again and again, with levels that are known and
others that are not. -/
namespace QueryTemplate

namespace LoggingSettings

/-- The level that settings ask for, in any case, if there is one. -/
def level? (s : LoggingSettings) : Option Level :=
  Level.ofName? (String.ofList (Text.upper s.level.toList))

/-- The logger that settings with a known level ask for. -/
def logger (s : LoggingSettings) : Logger :=
  { handlers := [LogLayout.ofName s.format], level := s.level?.getD 0, propagate := false }

end LoggingSettings

namespace Logger

variable {s : LoggingSettings}

theorem setUp_of_known (h : s.level?.isSome) (l : Logger) : l.setUp s = (s.logger, .ok ()) := by
  obtain ⟨level, hlevel⟩ := Option.isSome_iff_exists.mp h
  have hname : Level.ofName? (String.ofList (Text.upper s.level.toList)) = some level := hlevel
  simp [setUp, setLevel, LoggingSettings.logger, hname, hlevel]

/-- The handlers are replaced before the level is looked at. -/
theorem setUp_of_unknown (h : s.level? = none) (l : Logger) :
    l.setUp s = ({ l with handlers := [LogLayout.ofName s.format] },
      .error ⟨String.ofList (Text.upper s.level.toList)⟩) := by
  have hname : Level.ofName? (String.ofList (Text.upper s.level.toList)) = none := h
  simp [setUp, setLevel, hname]

/-- A logger after it was set up with these settings, one after the other. -/
def after (l : Logger) (calls : List LoggingSettings) : Logger :=
  calls.foldl (fun l s => (l.setUp s).1) l

theorem setUp_fst (l : Logger) (s : LoggingSettings) :
    (l.setUp s).1 =
      { handlers := [LogLayout.ofName s.format]
        level := s.level?.getD l.level
        propagate := l.propagate && s.level?.isNone } := by
  cases h : s.level? with
  | none => simp [setUp_of_unknown h]
  | some level =>
    have hknown : s.level?.isSome := by simp [h]
    simp [setUp_of_known hknown, LoggingSettings.logger, h]

/-- The last call decides on the handlers, the last that does not fail on all else. -/
theorem after_eq (l : Logger) (calls : List LoggingSettings) :
    l.after calls =
      { handlers := (calls.map fun s => [LogLayout.ofName s.format]).getLastD l.handlers
        level := (calls.filterMap LoggingSettings.level?).getLastD l.level
        propagate := l.propagate && calls.all (·.level?.isNone) } := by
  induction calls generalizing l with
  | nil => simp [after]
  | cons s rest ih =>
    have hlevel : ((s :: rest).filterMap LoggingSettings.level?).getLastD l.level =
        (rest.filterMap LoggingSettings.level?).getLastD (s.level?.getD l.level) := by
      cases h : s.level? with
      | none => simp [h]
      | some level => rw [List.filterMap_cons_some h, List.getLastD_cons, Option.getD_some]
    calc l.after (s :: rest) = (l.setUp s).1.after rest := rfl
      _ = _ := by
        rw [ih, setUp_fst, hlevel, List.map_cons, List.getLastD_cons, List.all_cons,
          Bool.and_assoc]

/-- Whatever was set up before, a known level gives one handler of the layout asked for, the level,
and no propagation. An unknown level is reported, and level and propagation stay; but the handlers
are replaced all the same, so the logger is as it was only if it had just such a handler. -/
theorem setUp_after (l : Logger) (earlier : List LoggingSettings) (s : LoggingSettings) :
    let found := l.after earlier
    let outcome := found.setUp s
    let handlers := [LogLayout.ofName s.format]
    found = { handlers := (earlier.map fun s => [LogLayout.ofName s.format]).getLastD l.handlers
              level := (earlier.filterMap LoggingSettings.level?).getLastD l.level
              propagate := l.propagate && earlier.all (·.level?.isNone) } ∧
    (∀ level, s.level? = some level →
      outcome = ({ handlers, level, propagate := false }, .ok ())) ∧
    (s.level? = none →
      outcome = ({ found with handlers },
        .error ⟨String.ofList (Text.upper s.level.toList)⟩) ∧
      (outcome.1 = found ↔ found.handlers = handlers)) := by
  intro found outcome handlers
  refine ⟨after_eq l earlier, fun level h => ?_, fun h => ?_⟩
  · have hknown : s.level?.isSome := by simp [h]
    have houtcome : outcome = (s.logger, .ok ()) := setUp_of_known hknown found
    simp [houtcome, LoggingSettings.logger, h, handlers]
  · have houtcome : outcome = ({ found with handlers },
        .error ⟨String.ofList (Text.upper s.level.toList)⟩) := setUp_of_unknown h found
    refine ⟨houtcome, ?_⟩
    rw [houtcome]
    constructor
    · intro hsame
      exact (congrArg Logger.handlers hsame).symm
    · intro hhandlers
      simp [← hhandlers]

/-- A level that is unknown between two that are known. -/
theorem setUp_after_failure :
    let earlier : List LoggingSettings := [⟨"warning", "readable"⟩, ⟨"loud", "json"⟩]
    let s : LoggingSettings := ⟨"Info", "Rich"⟩
    s.level? = some 20 ∧
      ({} : Logger).after earlier =
        { handlers := [.json], level := 30, propagate := false } ∧
      (({} : Logger).after earlier).setUp s =
        ({ handlers := [.columns], level := 20, propagate := false }, .ok ()) := by
  intro earlier s
  have hlevel : s.level? = some 20 := by decide +kernel
  obtain ⟨hfound, hknown, -⟩ := setUp_after {} earlier s
  refine ⟨hlevel, hfound.trans (by decide +kernel), (hknown 20 hlevel).trans ?_⟩
  have hlayout : LogLayout.ofName s.format = .columns := by decide +kernel
  rw [hlayout]

/-- A new logger whose set up fails has a handler that it did not have. -/
theorem setUp_not_undone :
    let s : LoggingSettings := ⟨"loud", "json"⟩
    s.level? = none ∧ ({} : Logger).handlers = [] ∧
      ({} : Logger).setUp s = ({ handlers := [.json] }, .error ⟨"LOUD"⟩) := by
  intro s
  have hlevel : s.level? = none := by decide +kernel
  have hlayout : LogLayout.ofName s.format = .json := by decide +kernel
  have hname : String.ofList (Text.upper s.level.toList) = "LOUD" := by decide +kernel
  refine ⟨hlevel, rfl, ?_⟩
  rw [setUp_of_unknown hlevel, hlayout, hname]

end Logger
end QueryTemplate
