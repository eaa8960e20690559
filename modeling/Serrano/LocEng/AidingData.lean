import Serrano.LocEng.Engine

/-! # Deferred deletion of aiding data

Aiding data can only be deleted while the engine is off, so a request that
comes while it is on is recorded for later. A requested bit is outstanding
until it is passed to the modem after its request. The record holds one mask
only: it is the outstanding one as long as no request drops bits of the record.
-/

namespace Serrano.LocEng

/-! ## Outstanding requests -/

inductive Deletion
  | requested (mask : GpsAidingData)
  | passed (mask : GpsAidingData)
  deriving DecidableEq

/-- The bit was requested, and not passed since. -/
def Outstanding (deletions : List Deletion) (bit : Nat) : Prop :=
  ∃ before mask after, deletions = before ++ .requested mask :: after ∧
    mask.getLsbD bit = true ∧ ∀ passed, .passed passed ∈ after → passed.getLsbD bit = false

theorem not_outstanding_nil (bit : Nat) : ¬ Outstanding [] bit := by
  rintro ⟨before, mask, after, heq, -⟩
  simp at heq

theorem outstanding_requested (deletions : List Deletion) (mask : GpsAidingData) (bit : Nat) :
    Outstanding (deletions ++ [.requested mask]) bit ↔
      Outstanding deletions bit ∨ mask.getLsbD bit = true := by
  constructor
  · rintro ⟨before, mask', after, heq, hbit, hpassed⟩
    rcases concat_eq_append_cons.mp heq with ⟨-, hlast, -⟩ | ⟨rest, rfl, hinit⟩
    · cases hlast
      exact .inr hbit
    · refine .inl ⟨before, mask', rest, hinit, hbit, fun passed hmem => ?_⟩
      exact hpassed passed (List.mem_append_left _ hmem)
  · rintro (⟨before, mask', after, rfl, hbit, hpassed⟩ | hbit)
    · refine ⟨before, mask', after ++ [.requested mask], by simp, hbit, fun passed hmem => ?_⟩
      exact hpassed passed (by simpa using hmem)
    · exact ⟨deletions, mask, [], rfl, hbit, by simp⟩

theorem outstanding_passed (deletions : List Deletion) (mask : GpsAidingData) (bit : Nat) :
    Outstanding (deletions ++ [.passed mask]) bit ↔
      Outstanding deletions bit ∧ mask.getLsbD bit = false := by
  constructor
  · rintro ⟨before, mask', after, heq, hbit, hpassed⟩
    rcases concat_eq_append_cons.mp heq with ⟨-, hlast, -⟩ | ⟨rest, rfl, hinit⟩
    · cases hlast
    · refine ⟨⟨before, mask', rest, hinit, hbit, fun passed hmem => ?_⟩, ?_⟩
      · exact hpassed passed (List.mem_append_left _ hmem)
      · exact hpassed mask (by simp)
  · rintro ⟨⟨before, mask', after, rfl, hbit, hpassed⟩, hmask⟩
    refine ⟨before, mask', after ++ [.passed mask], by simp, hbit, fun passed hmem => ?_⟩
    rcases List.mem_append.mp hmem with hmem | hmem
    · exact hpassed passed hmem
    · have heq : passed = mask := by simpa using hmem
      exact heq ▸ hmask

/-! ## What the engine passes -/

def EngineEvent.passed? : EngineEvent → Option Deletion
  | .locApi (.deleteAidingData f) => some (.passed f)
  | _ => none

def EngineMsg.requested? : EngineMsg → Option Deletion
  | .delAidData type => some (.requested type)
  | _ => none

def passedIn (events : List EngineEvent) : List Deletion := events.filterMap (·.passed?)

theorem passedIn_append (first second : List EngineEvent) :
    passedIn (first ++ second) = passedIn first ++ passedIn second := List.filterMap_append

/-- The requests and the calls to `adapter->deleteAidingData`, in their order. -/
def deletions (history : List Processed) : List Deletion :=
  history.flatMap fun entry => entry.msg.requested?.toList ++ passedIn entry.events

theorem deletions_append_singleton (history : List Processed) (entry : Processed) :
    deletions (history ++ [entry]) = deletions history ++
      (entry.msg.requested?.toList ++ passedIn entry.events) := by
  simp [deletions]

namespace EngineData

/-- What a handler leaves of the record when it passes nothing to the modem. -/
def KeepsAiding (e e' : EngineData) : Prop :=
  e'.aidingDataForDeletion = e.aidingDataForDeletion ∧ passedIn e'.events = []

theorem passed_eq_nil {events : List EngineEvent} (hnone : ∀ event ∈ events, ¬ event.deletes) :
    passedIn events = [] := by
  rw [passedIn, List.filterMap_eq_nil_iff]
  intro event hmem
  have hevent := hnone event hmem
  match event with
  | .callback _ _ | .locApi (.startFix _) | .locApi .stopFix | .locApi (.setPositionMode _)
  | .locApi (.setInSession _) => rfl
  | .locApi (.deleteAidingData _) => exact absurd trivial hevent

theorem Effect.keepsAiding {e e' : EngineData} (heffect : Effect e.cleared e') :
    KeepsAiding e e' :=
  ⟨heffect.aiding, passed_eq_nil fun event hmem => (heffect.events_after event hmem).1⟩

theorem keepsAiding_locEngReportStatus (e : EngineData) (status : GpsStatusValue) :
    KeepsAiding e (e.cleared.locEngReportStatus status) := by
  let muted : EngineData := { e with muteSessionState := muteAfter e.muteSessionState status }
  have hkeeps : KeepsAiding muted (muted.cleared.informStatus status) :=
    (effect_informStatus muted.cleared status).keepsAiding
  exact ⟨hkeeps.1, hkeeps.2⟩

end EngineData

/-- The messages after which deferred deletions are looked at. -/
def EngineMsg.updatesAiding : EngineMsg → Bool
  | .delAidData _ | .reportStatus _ => true
  | _ => false

theorem EngineData.keepsAiding_after (e : EngineData) {msg : EngineMsg}
    (hmsg : msg.updatesAiding = false) : KeepsAiding e (e.after msg) := by
  by_cases hplain : msg.plain = true
  · exact (effect_proc _ hplain).keepsAiding
  cases msg with
  | positionMode mode => exact ⟨rfl, rfl⟩
  | reportNmea nmea =>
      simp only [after, proc, reportNmea]
      split <;> exact ⟨rfl, rfl⟩
  | requestNi notifyFlags ignored =>
      simp only [after, proc, locEngMuteOneSession]
      split <;> exact ⟨rfl, rfl⟩
  | engineDown => exact keepsAiding_locEngReportStatus e gpsStatusEngineOff
  | delAidData _ | reportStatus _ => cases hmsg
  | startFix _ | stopFix | reportPosition _ | reportSv _ _ | reportGpsMeasurement _ | engineUp _
  | gpsMeasurementInit _ | gpsMeasurementClose => exact absurd rfl hplain

/-! ## Updating the record -/

namespace EngineData

theorem updateAidingDataForDeletion_cases (e : EngineData) :
    (e.engineStatus ≠ gpsStatusEngineOn ∧
      e.updateAidingDataForDeletion.aidingDataForDeletion = 0 ∧
      passedIn e.updateAidingDataForDeletion.events =
        passedIn e.events ++ [.passed e.aidingDataForDeletion]) ∨
    ((e.engineStatus ≠ gpsStatusEngineOn → e.aidingDataForDeletion = 0) ∧
      e.updateAidingDataForDeletion = e) := by
  unfold updateAidingDataForDeletion
  split
  next hdelete => exact .inl ⟨hdelete.1, rfl, passedIn_append _ _⟩
  next hkeep =>
    refine .inr ⟨fun hoff => ?_, rfl⟩
    by_contra hdata
    exact hkeep ⟨hoff, hdata⟩

/-- `update_aiding_data_for_deletion` passes what is outstanding, or keeps it. -/
theorem updateAidingDataForDeletion_records {e : EngineData} {before : List Deletion}
    (hpassed : passedIn e.events = [])
    (hrecord : ∀ bit, Outstanding before bit ↔ e.aidingDataForDeletion.getLsbD bit = true) :
    let e' := e.updateAidingDataForDeletion
    (∀ bit, Outstanding (before ++ passedIn e'.events) bit ↔
      e'.aidingDataForDeletion.getLsbD bit = true) ∧
    (e'.engineStatus ≠ gpsStatusEngineOn → e'.aidingDataForDeletion = 0) := by
  dsimp only
  rcases e.updateAidingDataForDeletion_cases with ⟨-, hzero, hevents⟩ | ⟨hzero, heq⟩
  · rw [hzero, hevents, hpassed, List.nil_append]
    refine ⟨fun bit => ?_, fun _ => rfl⟩
    rw [outstanding_passed, hrecord]
    simp
  · rw [heq, hpassed, List.append_nil]
    exact ⟨hrecord, hzero⟩

/-- A bit that is not in the record is not passed. -/
theorem updateAidingDataForDeletion_leaves {e : EngineData} {before : List Deletion} {bit : Nat}
    (hpassed : passedIn e.events = []) (hout : Outstanding before bit)
    (hbit : e.aidingDataForDeletion.getLsbD bit = false) :
    let e' := e.updateAidingDataForDeletion
    Outstanding (before ++ passedIn e'.events) bit ∧
      e'.aidingDataForDeletion.getLsbD bit = false := by
  dsimp only
  rcases e.updateAidingDataForDeletion_cases with ⟨-, hzero, hevents⟩ | ⟨-, heq⟩
  · rw [hzero, hevents, hpassed, List.nil_append, outstanding_passed]
    exact ⟨⟨hout, hbit⟩, by simp⟩
  · rw [heq, hpassed, List.append_nil]
    exact ⟨hout, hbit⟩

end EngineData

/-! ## Runs -/

/-- The recorded mask is what is outstanding. -/
def RecordsOutstanding (run : EngineRun) : Prop :=
  ∀ bit, Outstanding (deletions run.history) bit ↔
    run.engine.aidingDataForDeletion.getLsbD bit = true

/-- After a message that looks at deferred deletions, nothing is outstanding
unless the engine is on, and then it is recorded. -/
def NothingLost (run : EngineRun) : Prop :=
  ∀ last ∈ run.history.getLast?, last.msg.updatesAiding = true →
    (run.engine.engineStatus ≠ gpsStatusEngineOn →
      ∀ bit, ¬ Outstanding (deletions run.history) bit) ∧
    (run.engine.engineStatus = gpsStatusEngineOn →
      ∀ bit, Outstanding (deletions run.history) bit →
        run.engine.aidingDataForDeletion.getLsbD bit = true)

/-- A deletion request contains the bits that are recorded already. -/
def CoversRecord (run : EngineRun) : EngineMsg → Prop
  | .delAidData type => run.engine.aidingDataForDeletion &&& ~~~type = 0
  | _ => True

instance (run : EngineRun) : (msg : EngineMsg) → Decidable (CoversRecord run msg)
  | .delAidData _ => inferInstanceAs (Decidable (_ = _))
  | .positionMode _ | .startFix _ | .stopFix | .reportPosition _ | .reportSv .. | .reportStatus _
  | .reportNmea _ | .reportGpsMeasurement _ | .requestNi .. | .engineDown | .engineUp _
  | .gpsMeasurementInit _ | .gpsMeasurementClose => inferInstanceAs (Decidable True)

theorem and_not_eq_zero_iff {data type : GpsAidingData} :
    data &&& ~~~type = 0 ↔ ∀ bit, data.getLsbD bit = true → type.getLsbD bit = true := by
  constructor
  · intro hzero bit hdata
    have hbit := congrArg (fun mask => mask.getLsbD bit) hzero
    have hlt : bit < 16 := BitVec.lt_of_getLsbD hdata
    simpa [hdata, hlt] using hbit
  · intro hsub
    apply BitVec.eq_of_getLsbD_eq
    intro bit hlt
    have hbit := hsub bit
    cases hdata : data.getLsbD bit <;> simp_all

theorem deletions_after (run : EngineRun) (msg : EngineMsg) :
    deletions (run.history ++ [⟨msg, (run.engine.after msg).events⟩]) =
      (deletions run.history ++ msg.requested?.toList) ++
        passedIn (run.engine.after msg).events := by
  rw [deletions_append_singleton, List.append_assoc]

theorem recordsOutstanding_step {conf : EngineConf} {run next : EngineRun} {msg : EngineMsg}
    (hrun : RecordsOutstanding run) (hcovers : CoversRecord run msg)
    (hstep : (engineSystem conf).step run msg = some next) :
    RecordsOutstanding next ∧ NothingLost next := by
  obtain rfl := engineSystem_step hstep
  -- the two messages that update the record end it in the same way
  have hupdated : ∀ e : EngineData, passedIn e.events = [] →
      run.engine.after msg = e.updateAidingDataForDeletion →
      (∀ bit, Outstanding (deletions run.history ++ msg.requested?.toList) bit ↔
        e.aidingDataForDeletion.getLsbD bit = true) →
      RecordsOutstanding ⟨run.engine.after msg,
        run.history ++ [⟨msg, (run.engine.after msg).events⟩]⟩ ∧
      NothingLost ⟨run.engine.after msg,
        run.history ++ [⟨msg, (run.engine.after msg).events⟩]⟩ := by
    intro e hpassed hafter hrecord
    obtain ⟨hnext, hzero⟩ := EngineData.updateAidingDataForDeletion_records hpassed hrecord
    rw [← hafter] at hnext hzero
    rw [← deletions_after] at hnext
    refine ⟨hnext, fun _ _ _ => ⟨fun hoff bit hout => ?_, fun _ bit => (hnext bit).mp⟩⟩
    have hbit := (hnext bit).mp hout
    rw [hzero hoff] at hbit
    simp at hbit
  cases hupdates : msg.updatesAiding with
  | false =>
      obtain ⟨hdata, hpassed⟩ := run.engine.keepsAiding_after hupdates
      have hrequested : msg.requested? = none := by
        cases msg with
        | delAidData _ => cases hupdates
        | _ => rfl
      refine ⟨fun bit => ?_, fun last hlast hmsg => ?_⟩
      · rw [deletions_after, hrequested, hpassed, Option.toList_none, List.append_nil,
          List.append_nil, hdata]
        exact hrun bit
      · rw [List.getLast?_concat, Option.mem_some_iff] at hlast
        rw [← hlast, hupdates] at hmsg
        cases hmsg
  | true =>
      cases msg with
      | reportStatus status =>
          obtain ⟨hdata, hpassed⟩ := run.engine.keepsAiding_locEngReportStatus status
          refine hupdated _ hpassed rfl fun bit => ?_
          rw [hdata]
          simpa [EngineMsg.requested?] using hrun bit
      | delAidData type =>
          refine hupdated { run.engine.cleared with aidingDataForDeletion := type } rfl rfl ?_
          intro bit
          have hsub := and_not_eq_zero_iff.mp hcovers bit
          rw [show EngineMsg.requested? (.delAidData type) = some (.requested type) from rfl,
            Option.toList_some, outstanding_requested, hrun bit]
          exact ⟨fun h => h.elim hsub id, .inr⟩
      | _ => cases hupdates

/-- A request that leaves out a recorded bit loses it. -/
theorem nothingLost_broken {conf : EngineConf} {run : EngineRun} {msg : EngineMsg}
    (hrun : RecordsOutstanding run) (hcovers : ¬ CoversRecord run msg) :
    ∃ next, (engineSystem conf).step run msg = some next ∧ ¬ NothingLost next := by
  refine ⟨_, rfl, fun hkept => ?_⟩
  cases msg with
  | delAidData type =>
      rw [CoversRecord, and_not_eq_zero_iff] at hcovers
      push Not at hcovers
      obtain ⟨bit, hdata, htype⟩ := hcovers
      have hout : Outstanding (deletions run.history ++ [.requested type]) bit :=
        (outstanding_requested _ _ _).mpr (.inl ((hrun bit).mpr hdata))
      obtain ⟨hlost, hgone⟩ := EngineData.updateAidingDataForDeletion_leaves
        (e := { run.engine.cleared with aidingDataForDeletion := type }) rfl hout
        (eq_false_of_ne_true htype)
      have hdeletions := deletions_after run (.delAidData type)
      obtain ⟨hoff, hon⟩ := hkept _ (by rw [List.getLast?_concat]; rfl) rfl
      rw [hdeletions] at hoff hon
      -- With the engine on, the bit would have to be recorded; off, to be passed.
      by_cases hstatus : (run.engine.after (.delAidData type)).engineStatus = gpsStatusEngineOn
      · exact Bool.false_ne_true (hgone.symm.trans (hon hstatus bit hlost))
      · exact hoff hstatus bit hlost
  | _ => exact hcovers trivial

/-- In every run, no requested deletion is lost exactly when every request
contains the bits that are recorded for deletion when it is processed. -/
theorem nothingLost_iff (conf : EngineConf) (msgs : List EngineMsg) :
    (engineSystem conf).Throughout NothingLost (engineSystem conf).init msgs ↔
      (engineSystem conf).Guarded CoversRecord (engineSystem conf).init msgs := by
  apply Transition.System.throughout_iff_guarded
    (fun run => RecordsOutstanding run ∧ NothingLost run)
  · exact fun run hrun => hrun.2
  · exact fun run msg next hrun hcovers hstep => recordsOutstanding_step hrun.1 hcovers hstep
  · exact fun run msg hrun hcovers => nothingLost_broken hrun.1 hcovers
  · refine ⟨fun bit => ?_, fun last hlast => by cases hlast⟩
    exact iff_of_false (not_outstanding_nil bit) (by simp [engineSystem, locEngInit])

/-- While the engine is on, the second of two requests replaces the first. -/
theorem second_request_forgets_first :
    ¬ (engineSystem defaultConf).Throughout NothingLost (engineSystem defaultConf).init
      [.reportStatus gpsStatusEngineOn, .delAidData 1, .delAidData 2] := by
  intro hall
  have hkept := hall.of_runFrom rfl
  have hrecorded := (hkept _ rfl rfl).2 (by decide) 0
    ⟨[], 1, [.requested 2], by decide, by decide, by simp⟩
  exact absurd hrecorded (by decide)

end Serrano.LocEng
