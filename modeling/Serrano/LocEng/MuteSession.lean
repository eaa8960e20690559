import Serrano.LocEng.Engine

/-! # Muted sessions

A network-initiated request with privacy override mutes one session: from the
next session begin or engine on until session end or engine off the framework
is told no position. Every report asks for the mute state, except the NMEA
text that comes from the modem.
-/

namespace Serrano.LocEng

/-- Whatever was told in a muted session bears no position. -/
def MutedSessionsDiscreet (run : EngineRun) : Prop :=
  ∀ entry ∈ run.history, ∀ event ∈ entry.events, event.Discreet

/-- No NMEA text of the modem is processed in a muted session, or nobody listens. -/
def NoModemNmea (run : EngineRun) : EngineMsg → Prop
  | .reportNmea _ => run.engine.muteSessionState = .inSession → run.engine.nmeaCb = false
  | _ => True

instance (run : EngineRun) : (msg : EngineMsg) → Decidable (NoModemNmea run msg)
  | .reportNmea _ => inferInstanceAs (Decidable (_ = _ → _ = _))
  | .positionMode _ | .startFix _ | .stopFix | .reportPosition _ | .reportSv .. | .reportStatus _
  | .reportGpsMeasurement _ | .delAidData _ | .requestNi .. | .engineDown | .engineUp _
  | .gpsMeasurementInit _ | .gpsMeasurementClose => inferInstanceAs (Decidable True)

namespace EngineData

theorem discreet_locEngReportStatus (e : EngineData) (status : GpsStatusValue) :
    ∀ event ∈ (e.cleared.locEngReportStatus status).events, event.Discreet := by
  -- The mute state changes before the status is told.
  let muted : EngineData := { e with muteSessionState := muteAfter e.muteSessionState status }
  intro event hmem
  have hevents : (e.cleared.locEngReportStatus status).events =
      (muted.cleared.informStatus status).events := rfl
  exact ((effect_informStatus muted.cleared status).events_after event (hevents ▸ hmem)).2

theorem discreet_updateAidingDataForDeletion {e : EngineData}
    (hdiscreet : ∀ event ∈ e.events, event.Discreet) :
    ∀ event ∈ e.updateAidingDataForDeletion.events, event.Discreet := by
  unfold updateAidingDataForDeletion
  split
  · intro event hmem
    rcases List.mem_append.mp hmem with hmem | hmem
    · exact hdiscreet event hmem
    · obtain rfl := List.mem_singleton.mp hmem
      trivial
  · exact hdiscreet

/-- One message tells nothing about the position in a muted session, except
NMEA text of the modem. -/
theorem discreet_after {run : EngineRun} {msg : EngineMsg} (hmsg : NoModemNmea run msg) :
    ∀ event ∈ (run.engine.after msg).events, event.Discreet := by
  by_cases hplain : msg.plain = true
  · exact fun event hmem => ((effect_proc _ hplain).events_after event hmem).2
  cases msg with
  | positionMode mode =>
      intro event hmem
      obtain rfl := List.mem_singleton.mp hmem
      trivial
  | reportStatus status =>
      exact discreet_updateAidingDataForDeletion (discreet_locEngReportStatus run.engine status)
  | reportNmea nmea =>
      intro event hmem
      simp only [after, proc, reportNmea] at hmem
      split at hmem
      next hcb =>
        obtain rfl := List.mem_singleton.mp hmem
        intro hmuted
        exact absurd hcb (by simp [cleared, hmsg hmuted])
      next => cases hmem
  | delAidData type => exact discreet_updateAidingDataForDeletion (by simp [cleared])
  | requestNi notifyFlags ignored =>
      intro event hmem
      simp only [after, proc, locEngMuteOneSession] at hmem
      split at hmem <;> cases hmem
  | engineDown => exact discreet_locEngReportStatus run.engine gpsStatusEngineOff
  | startFix _ | stopFix | reportPosition _ | reportSv _ _ | reportGpsMeasurement _ | engineUp _
  | gpsMeasurementInit _ | gpsMeasurementClose => exact absurd rfl hplain

end EngineData

theorem mutedSessionsDiscreet_step {conf : EngineConf} {run next : EngineRun} {msg : EngineMsg}
    (hrun : MutedSessionsDiscreet run) (hmsg : NoModemNmea run msg)
    (hstep : (engineSystem conf).step run msg = some next) : MutedSessionsDiscreet next := by
  obtain rfl := engineSystem_step hstep
  intro entry hentry
  rcases List.mem_append.mp hentry with hentry | hentry
  · exact hrun entry hentry
  · obtain rfl := List.mem_singleton.mp hentry
    exact EngineData.discreet_after hmsg

/-- NMEA text of the modem reaches the framework in a muted session. -/
theorem mutedSessionsDiscreet_broken {conf : EngineConf} {run : EngineRun} {msg : EngineMsg}
    (hmsg : ¬ NoModemNmea run msg) :
    ∃ next, (engineSystem conf).step run msg = some next ∧ ¬ MutedSessionsDiscreet next := by
  refine ⟨_, rfl, fun hkept => ?_⟩
  cases msg with
  | reportNmea nmea =>
      rw [NoModemNmea, Classical.not_imp, Bool.not_eq_false] at hmsg
      obtain ⟨hmuted, hcb⟩ := hmsg
      have hevents : (run.engine.after (.reportNmea nmea)).events =
          [.callback run.engine.muteSessionState (.nmea nmea)] := by
        simp [EngineData.after, EngineData.proc, EngineData.reportNmea, EngineData.callback,
          EngineData.cleared, hcb]
      have htold := hkept _ List.mem_concat_self
        (.callback run.engine.muteSessionState (.nmea nmea))
      rw [hevents] at htold
      exact Bool.false_ne_true (htold List.mem_cons_self hmuted).symm
  | _ => exact hmsg trivial

/-- In every run, no position reaches the framework in a muted session exactly
when the modem reports no NMEA text in one. -/
theorem mutedSessionsDiscreet_iff (conf : EngineConf) (msgs : List EngineMsg) :
    (engineSystem conf).Throughout MutedSessionsDiscreet (engineSystem conf).init msgs ↔
      (engineSystem conf).Guarded NoModemNmea (engineSystem conf).init msgs := by
  apply Transition.System.throughout_iff_guarded MutedSessionsDiscreet
  · exact fun run hrun => hrun
  · exact fun run msg next => mutedSessionsDiscreet_step
  · exact fun run msg _ => mutedSessionsDiscreet_broken
  · exact fun entry hentry => by cases hentry

/-- The modem reports NMEA text while a request with privacy override is served. -/
theorem modem_nmea_in_muted_session :
    ¬ (engineSystem defaultConf).Throughout MutedSessionsDiscreet
      (engineSystem defaultConf).init
      [.requestNi gpsNiPrivacyOverride false, .reportStatus gpsStatusEngineOn,
        .reportNmea "$GPGGA"] := by
  intro hall
  have hkept := hall.of_runFrom rfl
  have htold := hkept _ List.mem_concat_self (.callback .inSession (.nmea "$GPGGA"))
    List.mem_cons_self
  exact absurd (htold rfl) (by decide)

end Serrano.LocEng
