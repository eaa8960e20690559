import Serrano.LocEng.Engine

/-! # Sessions across a modem restart

When the modem comes back up in the middle of a session, the fix is started
again with the criteria in the adapter. Ending a session invalidates their
mode, and the restart ends the session before it starts it again, so that the
criteria of the client come back with an invalid mode.
-/

namespace Serrano.LocEng

/-! ## The criteria of the client -/

def EngineMsg.given? : EngineMsg → Option LocPosMode
  | .positionMode mode => some mode
  | _ => none

/-- The criteria last given to `LocEngAdapter::setPositionMode`. -/
def lastGiven (history : List Processed) : Option LocPosMode :=
  (history.filterMap (·.msg.given?)).getLast?

theorem lastGiven_append_singleton (history : List Processed) (entry : Processed) :
    lastGiven (history ++ [entry]) = entry.msg.given?.or (lastGiven history) := by
  unfold lastGiven
  rw [List.filterMap_append]
  cases hgiven : entry.msg.given? <;> simp [hgiven]

/-- The criteria that the handlers of an entry start fixes with. -/
def Processed.startedWith (entry : Processed) : List LocPosMode :=
  entry.events.filterMap fun
    | .locApi (.startFix fixCriteria) => some fixCriteria
    | _ => none

def EngineMsg.isEngineUp : EngineMsg → Bool
  | .engineUp _ => true
  | _ => false

/-- Every fix that a restart of the modem resumes has the criteria last given. -/
def ResumedAsGiven (run : EngineRun) : Prop :=
  ∀ before entry after, run.history = before ++ entry :: after → entry.msg.isEngineUp = true →
    ∀ fixCriteria ∈ entry.startedWith, ∀ given ∈ lastGiven before, fixCriteria = given

/-- The modem comes up between sessions, or the last given mode is invalid. -/
def NothingToResume (run : EngineRun) : EngineMsg → Prop
  | .engineUp _ => run.engine.adapter.mNavigating = true →
      ∀ given ∈ lastGiven run.history, given.mode = .invalid
  | _ => True

instance (run : EngineRun) : (msg : EngineMsg) → Decidable (NothingToResume run msg)
  | .engineUp _ => inferInstanceAs (Decidable (_ = _ → ∀ given ∈ lastGiven run.history, _))
  | .positionMode _ | .startFix _ | .stopFix | .reportPosition _ | .reportSv .. | .reportStatus _
  | .reportNmea _ | .reportGpsMeasurement _ | .delAidData _ | .requestNi .. | .engineDown
  | .gpsMeasurementInit _ | .gpsMeasurementClose => inferInstanceAs (Decidable True)

/-! ## What is kept of them -/

/-- The adapter holds the criteria last given, up to an invalidated mode. -/
def RemembersGiven (run : EngineRun) : Prop :=
  ∀ given ∈ lastGiven run.history,
    run.engine.adapter.mFixCriteria = given ∨
      run.engine.adapter.mFixCriteria = EngineData.invalidated given

namespace EngineData

theorem invalidated_invalidated (mode : LocPosMode) :
    invalidated (invalidated mode) = invalidated mode := rfl

theorem invalidated_eq_self_iff {mode : LocPosMode} :
    invalidated mode = mode ↔ mode.mode = .invalid := by
  constructor
  · exact fun heq => heq ▸ rfl
  · intro hmode
    ext1
    all_goals first | exact hmode.symm | rfl

theorem mFixCriteria_locEngReportStatus (e : EngineData) (status : GpsStatusValue) :
    (e.locEngReportStatus status).adapter.mFixCriteria = e.adapter.mFixCriteria := by
  unfold locEngReportStatus informStatus locInformGpsStatus
  dsimp only
  split
  · split <;> rfl
  · rfl

theorem mFixCriteria_updateAidingDataForDeletion (e : EngineData) :
    e.updateAidingDataForDeletion.adapter.mFixCriteria = e.adapter.mFixCriteria := by
  unfold updateAidingDataForDeletion
  split <;> rfl

/-- A message gives new criteria, or keeps them up to an invalidated mode. -/
theorem mFixCriteria_after (e : EngineData) (msg : EngineMsg) :
    (∃ mode, msg.given? = some mode ∧ (e.after msg).adapter.mFixCriteria = mode) ∨
    (msg.given? = none ∧ ((e.after msg).adapter.mFixCriteria = e.adapter.mFixCriteria ∨
      (e.after msg).adapter.mFixCriteria = invalidated e.adapter.mFixCriteria)) := by
  by_cases hplain : msg.plain = true
  · refine .inr ⟨?_, (effect_proc e.cleared hplain).criteria⟩
    cases msg <;> first | rfl | cases hplain
  cases msg with
  | positionMode mode => exact .inl ⟨mode, rfl, rfl⟩
  | reportStatus status =>
      refine .inr ⟨rfl, .inl ?_⟩
      exact (mFixCriteria_updateAidingDataForDeletion _).trans
        (mFixCriteria_locEngReportStatus e.cleared status)
  | delAidData type => exact .inr ⟨rfl, .inl (mFixCriteria_updateAidingDataForDeletion _)⟩
  | engineDown => exact .inr ⟨rfl, .inl (mFixCriteria_locEngReportStatus e.cleared _)⟩
  | reportNmea nmea =>
      refine .inr ⟨rfl, .inl ?_⟩
      simp only [after, proc, reportNmea]
      split <;> rfl
  | requestNi notifyFlags ignored =>
      refine .inr ⟨rfl, .inl ?_⟩
      simp only [after, proc, locEngMuteOneSession]
      split <;> rfl
  | startFix _ | stopFix | reportPosition _ | reportSv _ _ | reportGpsMeasurement _ | engineUp _
  | gpsMeasurementInit _ | gpsMeasurementClose => exact absurd rfl hplain

/-- A restart in mid-session starts the fix with an invalid mode. -/
theorem startedWith_engineUp (e : EngineData) (answer : LocApiAdapterErr) :
    (Processed.mk (.engineUp answer) (e.after (.engineUp answer)).events).startedWith =
      if e.adapter.mNavigating then [invalidated e.adapter.mFixCriteria] else [] := by
  simp only [after, proc, locEngHandleEngineUp]
  cases hnavigating : e.adapter.mNavigating with
  | false => simp [cleared, hnavigating, Processed.startedWith]
  | true =>
      cases answer <;>
        simp [cleared, hnavigating, Processed.startedWith, setInSession, locEngStartHandler,
          startFix, locApi, invalidated]

end EngineData

theorem remembersGiven_step {run : EngineRun} (msg : EngineMsg) (hrun : RemembersGiven run) :
    RemembersGiven ⟨run.engine.after msg,
      run.history ++ [⟨msg, (run.engine.after msg).events⟩]⟩ := by
  intro given hgiven
  rw [lastGiven_append_singleton] at hgiven
  rcases run.engine.mFixCriteria_after msg with ⟨mode, hmsg, hmode⟩ | ⟨hmsg, hkept⟩
  · rw [hmsg] at hgiven
    obtain rfl : mode = given := by simpa using hgiven
    exact .inl hmode
  · rw [hmsg] at hgiven
    rcases hrun given (by simpa using hgiven) with hheld | hheld <;>
      rcases hkept with hkept | hkept <;> rw [hheld] at hkept
    · exact .inl hkept
    · exact .inr hkept
    · exact .inr hkept
    · exact .inr (hkept.trans (EngineData.invalidated_invalidated given))

/-! ## Runs -/

theorem resumedAsGiven_step {run : EngineRun} {msg : EngineMsg} (hgiven : RemembersGiven run)
    (hrun : ResumedAsGiven run) (hmsg : NothingToResume run msg) :
    ResumedAsGiven ⟨run.engine.after msg,
      run.history ++ [⟨msg, (run.engine.after msg).events⟩]⟩ := by
  intro before entry after hhistory hup fixCriteria hstarted given hlast
  rcases concat_eq_append_cons.mp hhistory with ⟨rfl, rfl, -⟩ | ⟨rest, -, hbefore⟩
  · cases msg with
    | engineUp answer =>
        rw [EngineData.startedWith_engineUp] at hstarted
        split at hstarted
        next hnavigating =>
          have hinvalid := hmsg hnavigating given hlast
          have hsame : EngineData.invalidated given = given :=
            EngineData.invalidated_eq_self_iff.mpr hinvalid
          rw [List.mem_singleton.mp hstarted]
          -- Invalidating once more changes nothing, however often that was done.
          rcases hgiven given hlast with hheld | hheld
          · rw [hheld, hsame]
          · rw [hheld, EngineData.invalidated_invalidated, hsame]
        next => cases hstarted
    | _ => cases hup
  · exact hrun before entry rest hbefore hup fixCriteria hstarted given hlast

/-- Criteria with a valid mode do not survive the restart. -/
theorem resumedAsGiven_broken {conf : EngineConf} {run : EngineRun} {msg : EngineMsg}
    (hmsg : ¬ NothingToResume run msg) :
    ∃ next, (engineSystem conf).step run msg = some next ∧ ¬ ResumedAsGiven next := by
  refine ⟨_, rfl, fun hkept => ?_⟩
  cases msg with
  | engineUp answer =>
      rw [NothingToResume, Classical.not_imp] at hmsg
      obtain ⟨hnavigating, hmode⟩ := hmsg
      push Not at hmode
      obtain ⟨given, hlast, hvalid⟩ := hmode
      have hstarted := run.engine.startedWith_engineUp answer
      rw [if_pos hnavigating] at hstarted
      -- What was started has an invalid mode, and would have to be what was given.
      have hsame := hkept run.history _ [] rfl rfl _ (hstarted ▸ List.mem_singleton_self _)
        given hlast
      apply hvalid
      rw [← hsame]
      rfl
  | _ => exact hmsg trivial

/-- In every run, the modem restarts resume sessions with the criteria last
given exactly when the modem comes up between sessions, or those criteria have
an invalid mode. -/
theorem resumedAsGiven_iff (conf : EngineConf) (msgs : List EngineMsg) :
    (engineSystem conf).Throughout ResumedAsGiven (engineSystem conf).init msgs ↔
      (engineSystem conf).Guarded NothingToResume (engineSystem conf).init msgs := by
  apply Transition.System.throughout_iff_guarded
    (fun run => RemembersGiven run ∧ ResumedAsGiven run)
  · exact fun run hrun => hrun.2
  · intro run msg next hrun hmsg hstep
    obtain rfl := engineSystem_step hstep
    exact ⟨remembersGiven_step msg hrun.1, resumedAsGiven_step hrun.1 hrun.2 hmsg⟩
  · exact fun run msg _ => resumedAsGiven_broken
  · refine ⟨fun given hlast => (by cases hlast), fun before entry after hhistory => ?_⟩
    simp [engineSystem] at hhistory

/-- Default constructor of `LocPosMode`. -/
def LocPosMode.default : LocPosMode where
  mode := .msBased
  recurrence := gpsPositionRecurrencePeriodic
  minInterval := 1000
  preferredAccuracy := 50
  preferredTime := 120000
  credentials := Vector.replicate 14 0
  provider := Vector.replicate 8 0

/-- The modem restarts in the middle of a session in MS-based mode. -/
theorem restart_forgets_mode :
    ¬ (engineSystem defaultConf).Throughout ResumedAsGiven (engineSystem defaultConf).init
      [.positionMode .default, .startFix .success, .engineDown, .engineUp .success] := by
  intro hall
  have hkept := hall.of_runFrom rfl
  have hsame := hkept
    [⟨.positionMode .default, [.locApi (.setPositionMode .default)]⟩,
      ⟨.startFix .success, [.locApi (.startFix .default), .locApi (.setInSession true)]⟩,
      ⟨.engineDown, [.callback .none (.status gpsStatusEngineOff)]⟩] _ []
    rfl rfl (EngineData.invalidated .default) List.mem_cons_self .default rfl
  exact absurd hsame (by decide)

end Serrano.LocEng
