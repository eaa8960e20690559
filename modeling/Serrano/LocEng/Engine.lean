import Serrano.Foundation.Transition
import Mathlib.Data.List.Basic
import Mathlib.Data.Rat.Init

/-! # Tracking sessions, engine status and reports

The part of `loc_eng_data_s_type` that position modes, fixes, status reports,
aiding data and muting depend on, with the handlers of the messages that touch
it. What a handler calls, in the modem layer and in the framework, is recorded
together with the message.
-/

namespace Serrano.LocEng

/-! ## Values of the interface -/

inductive LocPositionMode
  | invalid
  | standalone
  | msBased
  | msAssisted
  | reserved1
  | reserved2
  | reserved3
  | reserved4
  | reserved5
  deriving DecidableEq, Repr

abbrev GpsPositionRecurrence := UInt32

def gpsPositionRecurrencePeriodic : GpsPositionRecurrence := 0
def gpsPositionRecurrenceSingle : GpsPositionRecurrence := 1

@[ext]
structure LocPosMode where
  mode : LocPositionMode
  recurrence : GpsPositionRecurrence
  minInterval : UInt32
  preferredAccuracy : UInt32
  preferredTime : UInt32
  credentials : Vector UInt8 14
  provider : Vector UInt8 8
  deriving DecidableEq

abbrev GpsStatusValue := UInt16

def gpsStatusNone : GpsStatusValue := 0
def gpsStatusSessionBegin : GpsStatusValue := 1
def gpsStatusSessionEnd : GpsStatusValue := 2
def gpsStatusEngineOn : GpsStatusValue := 3
def gpsStatusEngineOff : GpsStatusValue := 4

/-- A bit mask of kinds of aiding data. -/
abbrev GpsAidingData := BitVec 16

abbrev GpsNiNotifyFlags := UInt32

def gpsNiPrivacyOverride : GpsNiNotifyFlags := 4

inductive LocMuteSession
  | none
  | wait
  | inSession
  deriving DecidableEq, Repr

inductive LocSessStatus
  | success
  | intermediate
  | failure
  deriving DecidableEq, Repr

/-- `enum loc_api_adapter_err` -/
inductive LocApiAdapterErr
  | success
  | generalFailure
  | unsupported
  | invalidHandle
  | invalidParameter
  | engineBusy
  | phoneOffline
  | timeout
  | serviceNotPresent
  | internal
  | failure
  | unknown
  deriving DecidableEq, Repr

@[match_pattern]
abbrev LocApiAdapterErr.engineDown : LocApiAdapterErr := .phoneOffline

/-- The accuracy is a finite `float`; what is only passed on are bytes. -/
structure UlpLocation where
  flags : UInt16
  accuracy : Rat
  passedOn : List UInt8
  deriving DecidableEq

def gpsLocationHasAccuracy : UInt16 := 0x0010

abbrev LocPosTechMask := UInt32

def locPosTechMaskSatellite : LocPosTechMask := 0x00000001
def locPosTechMaskSensors : LocPosTechMask := 0x00000008
def locPosTechMaskHybrid : LocPosTechMask := 0x00000080

/-- What `loc_eng_nmea_generate_pos` formats depends on the date and the
position; `nmea` is its text with and without `generate_nmea`, whatever it is. -/
structure PositionReport where
  location : UlpLocation
  status : LocSessStatus
  techMask : LocPosTechMask
  nmea : Bool → List String

inductive EngineMsg
  | positionMode (mode : LocPosMode)
  /-- `answer` is what `mLocApi->startFix` will return, when it is called. -/
  | startFix (answer : LocApiAdapterErr)
  | stopFix
  | reportPosition (report : PositionReport)
  | reportSv (svStatus : List UInt8) (nmea : List String)
  | reportStatus (status : GpsStatusValue)
  | reportNmea (nmea : String)
  | reportGpsMeasurement (gpsData : List UInt8)
  | delAidData (type : GpsAidingData)
  /-- `ignored` when NI is not initialized or a session of it is in use. -/
  | requestNi (notifyFlags : GpsNiNotifyFlags) (ignored : Bool)
  | engineDown
  | engineUp (answer : LocApiAdapterErr)
  /-- No message: `loc_eng_gps_measurement_init` and `_close` of the client. -/
  | gpsMeasurementInit (callback : Bool)
  | gpsMeasurementClose

/-! ## Calls that handlers make -/

inductive LocApiCall
  | startFix (fixCriteria : LocPosMode)
  | stopFix
  | setPositionMode (fixCriteria : LocPosMode)
  | setInSession (inSession : Bool)
  | deleteAidingData (f : GpsAidingData)
  deriving DecidableEq

inductive FrameworkCallback
  | location (location : Option UlpLocation)
  | svStatus (svStatus : List UInt8)
  | nmea (nmea : String)
  | gpsMeasurement (gpsData : List UInt8)
  | status (status : GpsStatusValue)
  deriving DecidableEq

/-- A callback is recorded with the mute state in which it is invoked. -/
inductive EngineEvent
  | locApi (call : LocApiCall)
  | callback (muteSessionState : LocMuteSession) (callback : FrameworkCallback)
  deriving DecidableEq

structure LocEngAdapter where
  mFixCriteria : LocPosMode
  mNavigating : Bool
  deriving DecidableEq

/-- The callbacks are present or null pointers; `events` are the calls of the
message being processed. -/
structure EngineData where
  adapter : LocEngAdapter
  locationCb : Bool
  svStatusCb : Bool
  statusCb : Bool
  nmeaCb : Bool
  gpsMeasurementCb : Bool
  intermediateFix : UInt8
  accuracyThres : UInt32
  engineStatus : GpsStatusValue
  fixSessionStatus : GpsStatusValue
  aidingDataForDeletion : GpsAidingData
  muteSessionState : LocMuteSession
  generateNmea : Bool
  events : List EngineEvent
  deriving DecidableEq

namespace EngineData

def locApi (e : EngineData) (call : LocApiCall) : EngineData :=
  { e with events := e.events ++ [.locApi call] }

def callback (e : EngineData) (cb : FrameworkCallback) : EngineData :=
  { e with events := e.events ++ [.callback e.muteSessionState cb] }

/-! ## The adapter -/

/-- A null pointer sends the stored criteria once more. -/
def setPositionMode (e : EngineData) (posMode : Option LocPosMode) : EngineData :=
  let mFixCriteria := posMode.getD e.adapter.mFixCriteria
  { e with adapter.mFixCriteria := mFixCriteria }.locApi (.setPositionMode mFixCriteria)

def startFix (e : EngineData) : EngineData := e.locApi (.startFix e.adapter.mFixCriteria)

def stopFix (e : EngineData) : EngineData := e.locApi .stopFix

def setInSession (e : EngineData) (inSession : Bool) : EngineData :=
  let e := { e with adapter.mNavigating := inSession }.locApi (.setInSession inSession)
  if inSession then e else { e with adapter.mFixCriteria.mode := .invalid }

/-! ## Fixes -/

def locEngStartHandler (e : EngineData) (answer : LocApiAdapterErr) : EngineData :=
  if e.adapter.mNavigating then e
  else
    match answer with
    | .success | .engineDown | .internal => e.startFix.setInSession true
    | _ => e.startFix

def locEngStopHandler (e : EngineData) : EngineData :=
  if e.adapter.mNavigating then e.stopFix.setInSession false else e

/-! ## Status reports and aiding data -/

def updateAidingDataForDeletion (e : EngineData) : EngineData :=
  if e.engineStatus ≠ gpsStatusEngineOn ∧ e.aidingDataForDeletion ≠ 0 then
    { e.locApi (.deleteAidingData e.aidingDataForDeletion) with aidingDataForDeletion := 0 }
  else e

def locEngMuteOneSession (e : EngineData) : EngineData := { e with muteSessionState := .wait }

/-- The mute state after a status report, by the first two statements of
`loc_eng_report_status`. -/
def muteAfter (mute : LocMuteSession) (status : GpsStatusValue) : LocMuteSession :=
  let mute :=
    if (status = gpsStatusSessionBegin ∨ status = gpsStatusEngineOn) ∧ mute = .wait
    then .inSession else mute
  if mute = .inSession ∧ (status = gpsStatusSessionEnd ∨ status = gpsStatusEngineOff)
  then .none else mute

def locInformGpsStatus (e : EngineData) (status : GpsStatusValue) : EngineData :=
  if e.statusCb then e.callback (.status status) else e

/-- Session end is not told while the client navigates, session begin only then. -/
def informStatus (e : EngineData) (status : GpsStatusValue) : EngineData :=
  if status ≠ gpsStatusNone ∧
      ¬ (status = gpsStatusSessionEnd ∧ e.adapter.mNavigating) ∧
      ¬ (status = gpsStatusSessionBegin ∧ ¬ e.adapter.mNavigating) ∧
      e.muteSessionState ≠ .inSession
  then e.locInformGpsStatus status else e

def locEngReportStatus (e : EngineData) (status : GpsStatusValue) : EngineData :=
  let e := { e with muteSessionState := muteAfter e.muteSessionState status }.informStatus status
  { e with
    engineStatus :=
      if status = gpsStatusEngineOn ∨ status = gpsStatusEngineOff then status else e.engineStatus
    fixSessionStatus :=
      if status = gpsStatusSessionBegin ∨ status = gpsStatusSessionEnd then status
      else e.fixSessionStatus }

/-! ## Position, satellite, NMEA and measurement reports -/

/-- `loc_eng_nmea_send` -/
def locEngNmeaSend (e : EngineData) (sentence : String) : EngineData :=
  if e.nmeaCb then e.callback (.nmea sentence) else e

def nmeaSendAll (e : EngineData) (sentences : List String) : EngineData :=
  sentences.foldl locEngNmeaSend e

/-- A final satellite, sensor or hybrid fix, or an accepted intermediate one
that is not too inaccurate. -/
def acceptable (e : EngineData) (report : PositionReport) : Bool :=
  (report.status = .success ∧
    (locPosTechMaskSatellite ||| locPosTechMaskSensors ||| locPosTechMaskHybrid) &&&
      report.techMask ≠ 0) ∨
  (e.intermediateFix = 1 ∧
    ¬ (report.location.flags &&& gpsLocationHasAccuracy ≠ 0 ∧ e.accuracyThres ≠ 0 ∧
      (e.accuracyThres.toNat : Rat) < report.location.accuracy))

/-- Whether the framework is told about the position, and the telling. -/
def reportFix (e : EngineData) (report : PositionReport) : Bool × EngineData :=
  if ¬ e.locationCb then (false, e)
  else if report.status = .failure then (true, e.callback (.location none))
  else if e.acceptable report then (true, e.callback (.location (some report.location)))
  else (false, e)

/-- A single shot that was reported is over. -/
def endSingleShot (e : EngineData) (reported : Bool) (status : LocSessStatus) : EngineData :=
  if reported ∧ e.adapter.mFixCriteria.recurrence = gpsPositionRecurrenceSingle then
    (if status = .intermediate then e.stopFix else e).setInSession false
  else e

/-- `LocEngReportPosition::proc` -/
def reportPosition (e : EngineData) (report : PositionReport) : EngineData :=
  if e.muteSessionState = .inSession then e
  else
    let (reported, e) := e.reportFix report
    let e := e.endSingleShot reported report.status
    if e.generateNmea ∧ e.adapter.mNavigating then
      e.nmeaSendAll (report.nmea (reported && report.status ≠ .failure))
    else e

/-- `LocEngReportSv::proc` -/
def reportSv (e : EngineData) (svStatus : List UInt8) (nmea : List String) : EngineData :=
  if e.muteSessionState = .inSession then e
  else
    let e := if e.svStatusCb then e.callback (.svStatus svStatus) else e
    if e.generateNmea then e.nmeaSendAll nmea else e

/-- `LocEngReportNmea::proc`; unlike the other reports it asks for no mute state. -/
def reportNmea (e : EngineData) (nmea : String) : EngineData :=
  if e.nmeaCb then e.callback (.nmea nmea) else e

/-- `LocEngReportGpsMeasurement::proc` -/
def reportGpsMeasurement (e : EngineData) (gpsData : List UInt8) : EngineData :=
  if e.muteSessionState ≠ .inSession ∧ e.gpsMeasurementCb then
    e.callback (.gpsMeasurement gpsData)
  else e

/-! ## Modem restart -/

def locEngHandleEngineDown (e : EngineData) : EngineData :=
  e.locEngReportStatus gpsStatusEngineOff

/-- "If we crashed in the middle of navigating, we restart." -/
def locEngHandleEngineUp (e : EngineData) (answer : LocApiAdapterErr) : EngineData :=
  if e.adapter.mNavigating then (e.setInSession false).locEngStartHandler answer else e

/-! ## Messages -/

def proc (e : EngineData) : EngineMsg → EngineData
  | .positionMode mode => e.setPositionMode (some mode)
  | .startFix answer => e.locEngStartHandler answer
  | .stopFix => e.locEngStopHandler
  | .reportPosition report => e.reportPosition report
  | .reportSv svStatus nmea => e.reportSv svStatus nmea
  | .reportStatus status => (e.locEngReportStatus status).updateAidingDataForDeletion
  | .reportNmea nmea => e.reportNmea nmea
  | .reportGpsMeasurement gpsData => e.reportGpsMeasurement gpsData
  | .delAidData type =>
      -- The new mask takes the place of the old one.
      { e with aidingDataForDeletion := type }.updateAidingDataForDeletion
  | .requestNi notifyFlags ignored =>
      if ¬ ignored ∧ notifyFlags = gpsNiPrivacyOverride then e.locEngMuteOneSession else e
  | .engineDown => e.locEngHandleEngineDown
  | .engineUp answer => e.locEngHandleEngineUp answer
  | .gpsMeasurementInit callback =>
      if e.gpsMeasurementCb then e else { e with gpsMeasurementCb := callback }
  | .gpsMeasurementClose => { e with gpsMeasurementCb := false }

end EngineData

/-- What `loc_eng_init` takes from the callbacks and the configuration. -/
structure EngineConf where
  locationCb : Bool
  svStatusCb : Bool
  statusCb : Bool
  nmeaCb : Bool
  intermediatePos : UInt32
  accuracyThres : UInt32
  generateNmea : Bool

/-- `loc_default_parameters`, with every callback and NMEA reports asked for. -/
def defaultConf : EngineConf where
  locationCb := true
  svStatusCb := true
  statusCb := true
  nmeaCb := true
  intermediatePos := 0
  accuracyThres := 0
  generateNmea := true

/-- `loc_eng_init` with the constructor of the adapter. -/
def locEngInit (conf : EngineConf) : EngineData where
  adapter.mFixCriteria := {
    mode := .invalid
    recurrence := 0
    minInterval := 0
    preferredAccuracy := 0
    preferredTime := 0
    credentials := Vector.replicate 14 0
    provider := Vector.replicate 8 0 }
  adapter.mNavigating := false
  locationCb := conf.locationCb
  svStatusCb := conf.svStatusCb
  statusCb := conf.statusCb
  nmeaCb := conf.nmeaCb
  gpsMeasurementCb := false
  intermediateFix := conf.intermediatePos.toUInt8
  accuracyThres := conf.accuracyThres
  engineStatus := gpsStatusNone
  fixSessionStatus := gpsStatusNone
  aidingDataForDeletion := 0
  muteSessionState := .none
  generateNmea := conf.generateNmea
  events := []

/-! ## Runs -/

/-- A message that was processed and the calls its handler made. -/
structure Processed where
  msg : EngineMsg
  events : List EngineEvent

/-- The engine between two messages and everything processed so far. -/
structure EngineRun where
  engine : EngineData
  history : List Processed

/-- A handler starts with no calls made. -/
def EngineData.cleared (e : EngineData) : EngineData := { e with events := [] }

def EngineData.after (e : EngineData) (msg : EngineMsg) : EngineData := e.cleared.proc msg

/-- The message task takes any message next. -/
def engineSystem (conf : EngineConf) : Transition.System EngineRun EngineMsg where
  init := ⟨locEngInit conf, []⟩
  step run msg :=
    let engine := run.engine.after msg
    some ⟨engine, run.history ++ [⟨msg, engine.events⟩]⟩

theorem engineSystem_step {conf : EngineConf} {run next : EngineRun} {msg : EngineMsg}
    (hstep : (engineSystem conf).step run msg = some next) :
    next = ⟨run.engine.after msg, run.history ++ [⟨msg, (run.engine.after msg).events⟩]⟩ :=
  (Option.some.inj hstep).symm

/-- An element of a list that ends in `last` is that one, or stands before it. -/
theorem concat_eq_append_cons {α : Type*} {xs before after : List α} {last x : α} :
    xs ++ [last] = before ++ x :: after ↔
      (xs = before ∧ last = x ∧ after = []) ∨
        ∃ rest, after = rest ++ [last] ∧ xs = before ++ x :: rest := by
  rcases List.eq_nil_or_concat after with rfl | ⟨rest, last', rfl⟩
  · constructor
    · intro heq
      obtain ⟨hinit, hlast⟩ := List.append_inj' heq rfl
      exact .inl ⟨hinit, List.singleton_inj.mp hlast, rfl⟩
    · rintro (⟨rfl, rfl, -⟩ | ⟨rest, hnil, -⟩)
      · rfl
      · simp at hnil
  · rw [List.concat_eq_append, ← List.cons_append, ← List.append_assoc]
    constructor
    · intro heq
      obtain ⟨hinit, hlast⟩ := List.append_inj' heq rfl
      exact .inr ⟨rest, by rw [hlast], hinit⟩
    · rintro (⟨-, -, hnil⟩ | ⟨rest', hrest, rfl⟩)
      · simp at hnil
      · obtain ⟨rfl, hlast⟩ := List.append_inj' hrest rfl
        rw [hlast]

/-! ## What a handler can do -/

/-- The callbacks that tell the framework about the position. -/
def FrameworkCallback.positionBearing : FrameworkCallback → Bool
  | .location _ | .svStatus _ | .nmea _ | .gpsMeasurement _ => true
  | .status _ => false

/-- No position-bearing callback in a muted session. -/
def EngineEvent.Discreet : EngineEvent → Prop
  | .locApi _ => True
  | .callback mute cb => mute = .inSession → cb.positionBearing = false

def EngineEvent.deletes : EngineEvent → Prop
  | .locApi (.deleteAidingData _) => True
  | _ => False

namespace EngineData

def invalidated (mode : LocPosMode) : LocPosMode := { mode with mode := .invalid }

/-- What the handlers of fixes, reports and restarts have in common: they keep
the mute state and the aiding data, delete nothing, tell nothing in a muted
session, and change the fix criteria at most by invalidating the mode. -/
structure Effect (e e' : EngineData) : Prop where
  aiding : e'.aidingDataForDeletion = e.aidingDataForDeletion
  mute : e'.muteSessionState = e.muteSessionState
  criteria : e'.adapter.mFixCriteria = e.adapter.mFixCriteria ∨
    e'.adapter.mFixCriteria = invalidated e.adapter.mFixCriteria
  events : ∃ events, e'.events = e.events ++ events ∧
    ∀ event ∈ events, ¬ event.deletes ∧ event.Discreet

theorem Effect.refl (e : EngineData) : Effect e e := ⟨rfl, rfl, .inl rfl, [], by simp⟩

theorem Effect.trans {e e' e'' : EngineData} (first : Effect e e') (second : Effect e' e'') :
    Effect e e'' := by
  obtain ⟨events, hevents, hall⟩ := first.events
  obtain ⟨events', hevents', hall'⟩ := second.events
  refine ⟨second.aiding.trans first.aiding, second.mute.trans first.mute, ?_,
    events ++ events', by rw [hevents', hevents, List.append_assoc], ?_⟩
  · rcases first.criteria with hfirst | hfirst <;> rcases second.criteria with hsecond | hsecond
    · exact .inl (hsecond.trans hfirst)
    · exact .inr (hfirst ▸ hsecond)
    · exact .inr (hsecond.trans hfirst)
    · exact .inr (by rw [hsecond, hfirst]; rfl)
  · intro event hmem
    exact (List.mem_append.mp hmem).elim (hall event) (hall' event)

theorem effect_locApi (e : EngineData) {call : LocApiCall}
    (hcall : ¬ (EngineEvent.locApi call).deletes) : Effect e (e.locApi call) :=
  ⟨rfl, rfl, .inl rfl, [.locApi call], rfl, by simp [hcall, EngineEvent.Discreet]⟩

theorem effect_callback (e : EngineData) {cb : FrameworkCallback}
    (hcb : e.muteSessionState = .inSession → cb.positionBearing = false) :
    Effect e (e.callback cb) :=
  ⟨rfl, rfl, .inl rfl, [.callback e.muteSessionState cb], rfl,
    by simpa [EngineEvent.deletes, EngineEvent.Discreet] using hcb⟩

theorem effect_startFix (e : EngineData) : Effect e e.startFix := effect_locApi e id

theorem effect_stopFix (e : EngineData) : Effect e e.stopFix := effect_locApi e id

theorem effect_setInSession (e : EngineData) (inSession : Bool) :
    Effect e (e.setInSession inSession) := by
  have hcall : ∃ events, (e.setInSession inSession).events = e.events ++ events ∧
      ∀ event ∈ events, ¬ event.deletes ∧ event.Discreet := by
    refine ⟨[.locApi (.setInSession inSession)], ?_, by simp [EngineEvent.deletes,
      EngineEvent.Discreet]⟩
    cases inSession <;> rfl
  cases inSession with
  | true => exact ⟨rfl, rfl, .inl rfl, hcall⟩
  | false => exact ⟨rfl, rfl, .inr rfl, hcall⟩

theorem effect_locEngStartHandler (e : EngineData) (answer : LocApiAdapterErr) :
    Effect e (e.locEngStartHandler answer) := by
  have hstarted := (effect_startFix e).trans (effect_setInSession _ true)
  unfold locEngStartHandler
  split
  · exact .refl e
  · cases answer
    all_goals first | exact hstarted | exact effect_startFix e

theorem effect_locEngStopHandler (e : EngineData) : Effect e e.locEngStopHandler := by
  unfold locEngStopHandler
  split
  · exact (effect_stopFix e).trans (effect_setInSession _ false)
  · exact .refl e

theorem effect_informStatus (e : EngineData) (status : GpsStatusValue) :
    Effect e (e.informStatus status) := by
  unfold informStatus locInformGpsStatus
  split
  · split
    · exact effect_callback e fun _ => rfl
    · exact .refl e
  · exact .refl e

/-- Outside a muted session the generated sentences may be sent. -/
theorem effect_nmeaSendAll {e : EngineData} (hmute : e.muteSessionState ≠ .inSession)
    (sentences : List String) : Effect e (e.nmeaSendAll sentences) := by
  induction sentences generalizing e with
  | nil => exact .refl e
  | cons sentence rest ih =>
      have hsend : Effect e (e.locEngNmeaSend sentence) := by
        unfold locEngNmeaSend
        split
        · exact effect_callback e fun h => absurd h hmute
        · exact .refl e
      exact hsend.trans (ih (hsend.mute ▸ hmute))

theorem effect_reportFix {e : EngineData} (hmute : e.muteSessionState ≠ .inSession)
    (report : PositionReport) : Effect e (e.reportFix report).2 := by
  unfold reportFix
  split
  · exact .refl e
  · split
    · exact effect_callback e fun h => absurd h hmute
    · split
      · exact effect_callback e fun h => absurd h hmute
      · exact .refl e

theorem effect_endSingleShot (e : EngineData) (reported : Bool) (status : LocSessStatus) :
    Effect e (e.endSingleShot reported status) := by
  unfold endSingleShot
  split
  · split
    · exact (effect_stopFix e).trans (effect_setInSession _ false)
    · exact effect_setInSession e false
  · exact .refl e

theorem effect_reportPosition (e : EngineData) (report : PositionReport) :
    Effect e (e.reportPosition report) := by
  unfold reportPosition
  split
  · exact .refl e
  next hmute =>
    have hended := (effect_reportFix hmute report).trans
      (effect_endSingleShot _ (e.reportFix report).1 report.status)
    dsimp only
    split
    · exact hended.trans (effect_nmeaSendAll (hended.mute ▸ hmute) _)
    · exact hended

theorem effect_reportSv (e : EngineData) (svStatus : List UInt8) (nmea : List String) :
    Effect e (e.reportSv svStatus nmea) := by
  unfold reportSv
  split
  · exact .refl e
  next hmute =>
    have htold : Effect e (if e.svStatusCb then e.callback (.svStatus svStatus) else e) := by
      split
      · exact effect_callback e fun h => absurd h hmute
      · exact .refl e
    dsimp only
    generalize (if e.svStatusCb then e.callback (.svStatus svStatus) else e) = told at htold
    split
    · exact htold.trans (effect_nmeaSendAll (htold.mute ▸ hmute) nmea)
    · exact htold

theorem effect_reportGpsMeasurement (e : EngineData) (gpsData : List UInt8) :
    Effect e (e.reportGpsMeasurement gpsData) := by
  unfold reportGpsMeasurement
  split
  next hmute => exact effect_callback e fun h => absurd h hmute.1
  next => exact .refl e

theorem effect_locEngHandleEngineUp (e : EngineData) (answer : LocApiAdapterErr) :
    Effect e (e.locEngHandleEngineUp answer) := by
  unfold locEngHandleEngineUp
  split
  · exact (effect_setInSession e false).trans (effect_locEngStartHandler _ answer)
  · exact .refl e

end EngineData

/-- The messages whose handlers do no more than an `Effect`, in every state. -/
def EngineMsg.plain : EngineMsg → Bool
  | .startFix _ | .stopFix | .reportPosition _ | .reportSv _ _ | .reportGpsMeasurement _
  | .engineUp _ | .gpsMeasurementInit _ | .gpsMeasurementClose => true
  | .positionMode _ | .reportStatus _ | .reportNmea _ | .delAidData _ | .requestNi _ _
  | .engineDown => false

namespace EngineData

theorem effect_proc (e : EngineData) {msg : EngineMsg} (hplain : msg.plain = true) :
    Effect e (e.proc msg) := by
  cases msg with
  | startFix answer => exact effect_locEngStartHandler e answer
  | stopFix => exact effect_locEngStopHandler e
  | reportPosition report => exact effect_reportPosition e report
  | reportSv svStatus nmea => exact effect_reportSv e svStatus nmea
  | reportGpsMeasurement gpsData => exact effect_reportGpsMeasurement e gpsData
  | engineUp answer => exact effect_locEngHandleEngineUp e answer
  | gpsMeasurementInit callback =>
      simp only [proc]
      split
      · exact .refl e
      · exact ⟨rfl, rfl, .inl rfl, [], by simp⟩
  | gpsMeasurementClose => exact ⟨rfl, rfl, .inl rfl, [], by simp [proc]⟩
  | positionMode _ | reportStatus _ | reportNmea _ | delAidData _ | requestNi _ _ | engineDown =>
      cases hplain

/-- The calls of a message are those its handler adds to none. -/
theorem Effect.events_after {e e' : EngineData} (heffect : Effect e.cleared e') :
    ∀ event ∈ e'.events, ¬ event.deletes ∧ event.Discreet := by
  obtain ⟨events, hevents, hall⟩ := heffect.events
  rw [hevents]
  exact hall

end EngineData

end Serrano.LocEng
