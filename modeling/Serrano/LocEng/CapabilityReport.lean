import Serrano.LocEng.ModemMirror

/-! # The capabilities that the framework is told

The modem is asked whether it supports measurements before the framework is told the
capabilities. A configuration update restores them, and masks them again. So the
framework is told the same value whenever it is told one.
-/

namespace Serrano.LocEng.ModemConfig

/-- The question about the constellation comes before the capabilities are told. -/
def Asked : List Msg → Prop
  | [] => True
  | .gnssConstellationConfig :: _ => True
  | .setCapabilities :: _ => False
  | _ :: rest => Asked rest

/-- The modem answers the question in one way. -/
def Action.Answers (measurements : Bool) : Action → Prop
  | .process answer _ => answer = measurements
  | _ => True

/-- The capabilities that the framework is told. -/
def reported (measurements : Bool) (capabilities : UInt32) : UInt32 :=
  if measurements then capabilities ||| gpsCapabilityMeasurements else capabilities

/-- The masked capabilities do not change, except that the answer is added. -/
structure Hal.Reports (measurements : Bool) (gps_conf : GpsConf) (s : Hal) : Prop where
  either : s.gps_conf.CAPABILITIES = gps_conf.CAPABILITIES ∨
    s.gps_conf.CAPABILITIES = reported measurements gps_conf.CAPABILITIES
  asked : s.gps_conf.CAPABILITIES = reported measurements gps_conf.CAPABILITIES ∨ Asked s.queue
  told : ∀ capabilities ∈ s.told, capabilities = reported measurements gps_conf.CAPABILITIES

theorem asked_append {first second : List Msg} (hfirst : Asked first) (hsecond : Asked second) :
    Asked (first ++ second) := by
  induction first with
  | nil => exact hsecond
  | cons msg rest ih =>
      cases msg with
      | gnssConstellationConfig => trivial
      | setCapabilities => cases hfirst
      | _ => exact ih hfirst

theorem asked_of_not_mem {msgs : List Msg} (hmem : .setCapabilities ∉ msgs) : Asked msgs := by
  induction msgs with
  | nil => trivial
  | cons msg rest ih =>
      rw [List.mem_cons, not_or] at hmem
      cases msg with
      | gnssConstellationConfig => trivial
      | setCapabilities => exact absurd rfl hmem.1
      | _ => exact ih hmem.2

theorem or_and_distrib (a b c : UInt32) : (a ||| b) &&& c = a &&& c ||| b &&& c := by
  apply UInt32.toBitVec_inj.mp
  ext i hi
  simp [Bool.and_or_distrib_right]

theorem mask_mask (sGnssType : GnssTarget) (gps_conf : GpsConf) :
    sGnssType.mask (sGnssType.mask gps_conf) = sGnssType.mask gps_conf := by
  unfold GnssTarget.mask
  split
  · simp only [UInt32.and_assoc, UInt32.and_self]
  · rfl

theorem mask_of_masked {sGnssType : GnssTarget} {gps_conf conf : GpsConf} {measurements : Bool}
    (hmasked : sGnssType.mask gps_conf = gps_conf)
    (hconf : conf.CAPABILITIES = gps_conf.CAPABILITIES ∨
      conf.CAPABILITIES = reported measurements gps_conf.CAPABILITIES) :
    (sGnssType.mask conf).CAPABILITIES = conf.CAPABILITIES := by
  have hcapabilities := congrArg GpsConf.CAPABILITIES hmasked
  unfold GnssTarget.mask at *
  split
  next hstandalone =>
    rw [if_pos hstandalone] at hcapabilities
    dsimp only at hcapabilities ⊢
    have hbit : gpsCapabilityMeasurements &&& ~~~(gpsCapabilityMsa ||| gpsCapabilityMsb) =
      gpsCapabilityMeasurements := by decide
    rcases hconf with hconf | hconf <;> rw [hconf]
    · exact hcapabilities
    · unfold reported
      split
      · rw [or_and_distrib, hcapabilities, hbit]
      · exact hcapabilities
  next => rfl

theorem reported_standalone {sGnssType : GnssTarget} (hstandalone : sGnssType.standalone = true)
    (measurements : Bool) (gps_conf : GpsConf) :
    reported measurements (sGnssType.mask gps_conf).CAPABILITIES &&&
      (gpsCapabilityMsa ||| gpsCapabilityMsb) = 0 := by
  have hmasked : (sGnssType.mask gps_conf).CAPABILITIES &&&
      (gpsCapabilityMsa ||| gpsCapabilityMsb) = 0 := by
    rw [GnssTarget.mask, if_pos hstandalone]
    simp only [UInt32.and_assoc]
    simp
  have hbit : gpsCapabilityMeasurements &&& (gpsCapabilityMsa ||| gpsCapabilityMsb) = 0 := by
    decide
  unfold reported
  split
  · rw [or_and_distrib, hmasked, hbit]
    rfl
  · exact hmasked

/-! ## Steps -/

section Steps

variable {narrow : UInt64 → UInt32} {sap_conf : SapConf} {atof : List Char → UInt64}
  {sGnssType : GnssTarget} {measurements : Bool} {gps_conf : GpsConf} {s next : Hal}

/-- A step that sends other messages keeps the report. -/
theorem Hal.Reports.send (hs : s.Reports measurements gps_conf) {sent : List Msg}
    (hcapabilities : next.gps_conf.CAPABILITIES = s.gps_conf.CAPABILITIES)
    (hqueue : next.queue = s.queue ++ sent) (htold : next.told = s.told) (hsent : Asked sent) :
    next.Reports measurements gps_conf where
  either := by rw [hcapabilities]; exact hs.either
  asked := by
    rw [hcapabilities, hqueue]
    exact hs.asked.imp_right fun hqueue => asked_append hqueue hsent
  told := by rw [htold]; exact hs.told

theorem asked_setServer (type : LocServerType) (hostname : List Char) (port : Int32)
    (resolved : Option UInt32) : Asked (locEngSetServer type hostname port resolved) := by
  cases type <;> simp only [locEngSetServer]
  case supl => split <;> [skip; split] <;> trivial
  all_goals split <;> trivial

theorem asked_agpsReinit (s : Hal) (resolved : Option UInt32) : Asked (s.agpsReinit resolved) := by
  unfold Hal.agpsReinit
  apply asked_append
  · split
    · exact asked_setServer _ _ _ _
    · trivial
  · split
    · exact asked_setServer _ _ _ _
    · trivial

theorem asked_availability (s : Hal) (available : Int32) (apn : Option (List Char)) :
    Asked (s.availability available apn) := by
  unfold Hal.availability
  split
  · cases apn <;> trivial
  · trivial

theorem asked_config (msgs : List ConfigMsg) : Asked (msgs.map .config) :=
  asked_of_not_mem (by simp)

theorem reports_init (hs : s.Reports measurements gps_conf) (valid : Bool) :
    (s.locEngInit valid).Reports measurements gps_conf := by
  unfold Hal.locEngInit
  split
  · exact hs
  split
  · exact hs
  · exact hs.send rfl rfl rfl trivial

theorem reports_agpsInit (hs : s.Reports measurements gps_conf) (callbacks : Option Bool)
    (resolved : Option UInt32) :
    (s.locEngAgpsInit callbacks resolved).Reports measurements gps_conf := by
  unfold Hal.locEngAgpsInit
  split
  · exact hs
  split
  · exact hs
  cases callbacks with
  | none => exact hs
  | some status_cb =>
      dsimp only
      split
      · exact hs.send rfl rfl rfl (asked_agpsReinit _ resolved)
      · exact hs.send rfl (List.append_nil _).symm rfl trivial

theorem reports_setServer (hs : s.Reports measurements gps_conf) (type : LocServerType)
    (hostname : List Char) (port : Int32) (resolved : Option UInt32) :
    (s.locEngSetServerProxy type hostname port resolved).Reports measurements gps_conf := by
  have hsent := asked_setServer type hostname port resolved
  unfold Hal.locEngSetServerProxy
  cases type <;> dsimp only <;> split
  all_goals first
    | exact hs.send rfl rfl rfl hsent
    | exact hs.send rfl (List.append_nil _).symm rfl trivial

theorem asked_reinit (gps_conf : GpsConf) (agpsStatus : UInt32) (rest : List Msg) :
    Asked (locEngReinit narrow sap_conf gps_conf agpsStatus ++ rest) := trivial

/-- After the answer, the capabilities are the ones that are told. -/
theorem answered {capabilities masked : UInt32}
    (heither : capabilities = masked ∨ capabilities = reported measurements masked) :
    (if measurements then capabilities ||| gpsCapabilityMeasurements else capabilities) =
      reported measurements masked := by
  unfold reported at *
  cases measurements with
  | false => simpa using heither
  | true =>
      rcases heither with rfl | rfl
      · rfl
      · simp [UInt32.or_assoc]

theorem reports_process (hs : s.Reports measurements gps_conf) {resolved : Option UInt32}
    (hnext : s.process narrow sap_conf measurements resolved = some next) :
    next.Reports measurements gps_conf := by
  unfold Hal.process at hnext
  split at hnext
  case h_1 => cases hnext
  next msg rest hqueue =>
    cases hnext
    have hasked := hs.asked
    rw [hqueue] at hasked
    cases msg with
    | setCapabilities =>
        have hreported := hasked.resolve_right id
        refine ⟨.inr hreported, .inl hreported, fun capabilities hmem => ?_⟩
        rcases List.mem_cons.mp hmem with rfl | hmem
        · exact hreported
        · exact hs.told capabilities hmem
    | gnssConstellationConfig =>
        have hreported := answered hs.either
        cases measurements <;> exact ⟨.inr hreported, .inl hreported, hs.told⟩
    | init =>
        exact ⟨hs.either, hasked.imp_right fun hrest => asked_append hrest (asked_reinit _ _ _),
          hs.told⟩
    | engineUp =>
        exact ⟨hs.either, hasked.imp_right fun hrest => asked_append hrest (asked_reinit _ _ _),
          hs.told⟩
    | _ => exact ⟨hs.either, hasked, hs.told⟩

theorem reports_configurationUpdate (hmasked : sGnssType.mask gps_conf = gps_conf)
    (hs : s.Reports measurements gps_conf) {data : ConfigData}
    (hnext : s.configurationUpdate atof sGnssType data = some next) :
    next.Reports measurements gps_conf := by
  obtain ⟨updated, rfl⟩ := configurationUpdate_cases hnext
  refine hs.send ?_ rfl rfl (asked_config _)
  have heither : (s.gps_conf.restored updated).CAPABILITIES = gps_conf.CAPABILITIES ∨
      (s.gps_conf.restored updated).CAPABILITIES =
        reported measurements gps_conf.CAPABILITIES := hs.either
  exact mask_of_masked hmasked heither

theorem step_reports {action : Action} (hmasked : sGnssType.mask gps_conf = gps_conf)
    (hs : s.Reports measurements gps_conf) (hanswers : action.Answers measurements)
    (hnext : s.step narrow sap_conf atof sGnssType action = some next) :
    next.Reports measurements gps_conf := by
  cases action with
  | init valid => cases hnext; exact reports_init hs valid
  | agpsInit callbacks resolved => cases hnext; exact reports_agpsInit hs callbacks resolved
  | setServer type hostname port resolved =>
      cases hnext
      exact reports_setServer hs type hostname port resolved
  | updateNetworkAvailability available apn =>
      cases hnext
      rw [updateNetworkAvailability_eq]
      exact hs.send rfl rfl rfl (asked_availability s available apn)
  | configurationUpdate data => exact reports_configurationUpdate hmasked hs hnext
  | process answer resolved =>
      obtain rfl : answer = measurements := hanswers
      exact reports_process hs hnext
  | modemDown => cases hnext; exact hs.send rfl (List.append_nil _).symm rfl trivial
  | modemUp =>
      simp only [Hal.step] at hnext
      split at hnext
      · cases hnext
        refine hs.send rfl rfl rfl ?_
        split <;> trivial
      · cases hnext

end Steps

variable {narrow : UInt64 → UInt32} {sap_conf : SapConf} {atof : List Char → UInt64}
  {sGnssType : GnssTarget} {opened gps_conf : GpsConf} {modem : Option Modem}

/-- Every time the framework is told capabilities, they are the configured ones, masked
for the target, with the modem's answer about measurements. Updates, and restarts of
the modem, make no difference. -/
theorem told_capabilities {measurements : Bool} {actions : List Action} {s : Hal}
    (hopen : getGpsInterface sGnssType opened = some gps_conf)
    (hanswers : ∀ action ∈ actions, action.Answers measurements)
    (hrun : (system narrow sap_conf atof sGnssType gps_conf modem).run actions = some s) :
    ∀ capabilities ∈ s.told,
      capabilities = reported measurements (sGnssType.mask opened).CAPABILITIES ∧
        (sGnssType.standalone = true →
          capabilities &&& (gpsCapabilityMsa ||| gpsCapabilityMsb) = 0) := by
  unfold getGpsInterface at hopen
  split at hopen
  next => cases hopen
  next =>
  cases hopen
  have hmasked := mask_mask sGnssType opened
  have hinit : (initial (sGnssType.mask opened) modem).Reports measurements
      (sGnssType.mask opened) := ⟨.inl rfl, .inr trivial, by simp [initial]⟩
  have hstep : ∀ (state : Hal) (action : Action) (next : Hal),
      state.Reports measurements (sGnssType.mask opened) → action.Answers measurements →
      (system narrow sap_conf atof sGnssType (sGnssType.mask opened) modem).step state action =
        some next → next.Reports measurements (sGnssType.mask opened) :=
    fun _ _ _ hs hanswer hnext => step_reports hmasked hs hanswer hnext
  have hreports := Transition.System.guarded_invariant
    (fun _ action => action.Answers measurements) hstep hinit
    (Transition.System.guarded_of_forall_mem (fun action hmem _ => hanswers action hmem) _) hrun
  intro capabilities hmem
  have htold := hreports.told capabilities hmem
  refine ⟨htold, fun hstandalone => ?_⟩
  rw [htold]
  exact reported_standalone hstandalone measurements opened

/-- A text that names the capabilities. -/
def capabilitiesText : ConfigData where
  config_data := some "CAPABILITIES=6".toList
  length := 14
  allocated := true

/-- The carrier names the assisted modes for a target without them, before the modem
answers. -/
def capabilitiesNamed : List Action :=
  [.init true, .configurationUpdate capabilitiesText] ++ processes 10

theorem told_capabilities_named :
    ∃ s, (system (fun _ => 0) noSensors (fun _ => 0) .gss
        (GnssTarget.mask .gss carrierDefaults) (some .started)).run capabilitiesNamed = some s ∧
      s.told.length = 1 ∧ ∀ capabilities ∈ s.told, capabilities = 0x41 := by
  have hanswers : ∀ action ∈ capabilitiesNamed, action.Answers true := by
    intro action hmem
    simp only [capabilitiesNamed, processes, List.mem_append, List.mem_cons, List.mem_replicate,
      List.not_mem_nil, or_false] at hmem
    rcases hmem with (rfl | rfl) | ⟨-, rfl⟩ <;> trivial
  have hrun : (system (fun _ => 0) noSensors (fun _ => 0) .gss
      (GnssTarget.mask .gss carrierDefaults) (some .started)).run capabilitiesNamed = some _ := rfl
  have hopen : getGpsInterface .gss carrierDefaults = some (GnssTarget.mask .gss carrierDefaults) :=
    rfl
  refine ⟨_, hrun, rfl, fun capabilities hmem => ?_⟩
  rw [(told_capabilities hopen hanswers hrun capabilities hmem).1]
  decide

end Serrano.LocEng.ModemConfig
