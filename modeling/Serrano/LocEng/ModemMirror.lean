import Serrano.Foundation.Replica
import Serrano.LocEng.ModemConfig

/-! # The modem mirrors the configuration

What the modem was told about one part of the configuration is a replica of that
part behind the message queue. The functions that change the part send a message
about it, and the messages of a restart tell everything once more.
-/

namespace Serrano.LocEng.ModemConfig

open Replica

/-- The parts that the modem is told about one by one. -/
inductive Key
  | suplVersion
  | lppConfig
  | aGlonassProtocol
  | sensorControl
  | sensorProperties
  | sensorPerfControl
  | xtraVersionCheck
  | dataEnabled
  | serverUrl
  deriving DecidableEq

/-- The value of a part. -/
inductive Part
  | number (value : UInt32)
  | sensorControl (config : Int32 × Int32)
  | sensorProperties (properties : SensorProperties)
  | sensorPerfControl (config : SensorPerfControl)
  | check (check : XtraVersionCheck)
  | enabled (enabled : Bool)
  | url (url : List Char)

namespace Key

/-- What a message says about a part. The first message of a session does not make
the engine set the server. -/
def note : Key → Msg → Note Part
  | serverUrl, .init => .other
  | _, .init | _, .engineUp => .refresh
  | suplVersion, .config (.suplVer mSuplVer) => .assign (.number mSuplVer.toUInt32)
  | lppConfig, .config (.lppConfig mLppConfig) => .assign (.number mLppConfig.toUInt32)
  | aGlonassProtocol, .config (.aGlonassProtocol protocol) => .assign (.number protocol)
  | sensorControl, .sensorControlConfig config => .assign (.sensorControl config)
  | sensorProperties, .sensorProperties properties => .assign (.sensorProperties properties)
  | sensorPerfControl, .sensorPerfControlConfig config => .assign (.sensorPerfControl config)
  | xtraVersionCheck, .setXtraVersionCheck check => .assign (.check (setXtraVersionCheck check))
  | dataEnabled, .enableData _ enable => .assign (.enabled (enable != 0))
  | serverUrl, .setServerUrl url => .assign (.url url)
  | _, _ => .other

/-- What the modem has of a part. -/
def get (m : Modem) : Key → Option Part
  | suplVersion => m.suplVersion.map .number
  | lppConfig => m.lppConfig.map .number
  | aGlonassProtocol => m.aGlonassProtocol.map .number
  | sensorControl => m.sensorControl.map .sensorControl
  | sensorProperties => m.sensorProperties.map .sensorProperties
  | sensorPerfControl => m.sensorPerfControl.map .sensorPerfControl
  | xtraVersionCheck => m.xtraVersionCheck.map .check
  | dataEnabled => m.enableData.map fun enable => .enabled (enable != 0)
  | serverUrl => m.serverUrl.map .url

end Key

/-- The text for a server, if it fits. -/
def fittingUrl (hostname : List Char) (port : Int32) : Option (List Char) :=
  if isNone hostname then some []
  else if (serverUrl hostname port).length < maxUrlLen then some (serverUrl hostname port)
  else none

section Mirror

variable (narrow : UInt64 → UInt32) (sap_conf : SapConf)

/-- What the engine wants the modem to have of a part. -/
def Hal.wanted (s : Hal) (key : Key) : Option Part :=
  if s.adapter then
    match key with
    | .suplVersion => some (.number s.gps_conf.SUPL_VER)
    | .lppConfig => some (.number s.gps_conf.LPP_PROFILE)
    | .aGlonassProtocol => some (.number s.gps_conf.A_GLONASS_POS_PROTOCOL_SELECT)
    | .sensorControl => some (.sensorControl sap_conf.sensorControl)
    | .sensorProperties =>
        if sap_conf.anyValid then
          some (.sensorProperties (sap_conf.sensorProperties narrow))
        else none
    | .sensorPerfControl => some (.sensorPerfControl sap_conf.sensorPerfControl)
    | .xtraVersionCheck => some (.check (setXtraVersionCheck s.gps_conf.XTRA_VERSION_CHECK.toInt32))
    | .dataEnabled => some (.enabled (s.agpsStatus != 0))
    | .serverUrl =>
        if s.agps_status_cb then
          s.supl_host.bind fun host => (fittingUrl host.1 host.2).map .url
        else none
  else none

/-- Whether positions of the network can be had. -/
def assisted (gps_conf : GpsConf) : Bool :=
  gps_conf.CAPABILITIES &&& gpsCapabilityMsa != 0 ||
    gps_conf.CAPABILITIES &&& gpsCapabilityMsb != 0

/-- The calls that do not leave a part behind: data that comes and goes with the
name of an access point, hosts that fit the buffer, and an initialisation that sets
the server. -/
def Key.Kept : Key → Hal → Action → Prop
  | dataEnabled, s, .updateNetworkAvailability available apn =>
      s.adapter = true → apn = none → ((available.toUInt32 != 0) = (s.agpsStatus != 0))
  | serverUrl, _, .setServer _ hostname _ _ => hostname.length < hostBufSize
  | serverUrl, s, .agpsInit (some true) _ => s.agps_status_cb = true ∨ assisted s.gps_conf
  | _, _, _ => True

/-- The modem settles on what the engine wants. -/
def Hal.Mirrored (key : Key) (s : Hal) : Prop :=
  ∀ m, s.modem = some m →
    Consistent (s.wanted narrow sap_conf key) (s.queue.map key.note) (key.get m)

/-- A message does in the modem what it says. -/
theorem Key.get_told (key : Key) (m : Modem) (msg : Msg) :
    key.get (m.told msg) =
      match key.note msg with
      | .assign value => some value
      | .refresh | .other => key.get m := by
  cases msg with
  | config msg => cases key <;> cases msg <;> rfl
  | enableData apn enable => cases key <;> cases apn <;> rfl
  | _ => cases key <;> rfl

/-! ## What the messages say together -/

theorem note_setServer_of_ne {key : Key} (hkey : key ≠ .serverUrl) (type : LocServerType)
    (hostname : List Char) (port : Int32) (resolved : Option UInt32) :
    ∀ note ∈ (locEngSetServer type hostname port resolved).map key.note, note = .other := by
  have hurl : ∀ url, key.note (.setServerUrl url) = .other := fun url => by
    cases key <;> first | rfl | exact absurd rfl hkey
  have hip : ∀ ip port type, key.note (.setServerIpv4 ip port type) = .other :=
    fun ip port type => by cases key <;> rfl
  cases type <;> simp only [locEngSetServer]
  case supl => split <;> [skip; split] <;> simp [hurl]
  all_goals split <;> simp [hip]

theorem note_setServer_of_ip {type : LocServerType} (htype : type ≠ .supl)
    (hostname : List Char) (port : Int32) (resolved : Option UInt32) :
    ∀ note ∈ (locEngSetServer type hostname port resolved).map Key.serverUrl.note,
      note = .other := by
  cases type <;> simp only [locEngSetServer]
  case supl => exact absurd rfl htype
  all_goals split <;> simp [Key.note]

theorem note_setServer_supl (hostname : List Char) (port : Int32) (resolved : Option UInt32) :
    (locEngSetServer .supl hostname port resolved).map Key.serverUrl.note =
      (fittingUrl hostname port).toList.map fun url => .assign (.url url) := by
  simp only [locEngSetServer, fittingUrl]
  split <;> [skip; split] <;> rfl

theorem informs_setServer_supl (before : Option Part) (hostname : List Char)
    (port : Int32) (resolved : Option UInt32) :
    Informs before ((fittingUrl hostname port).map .url)
      ((locEngSetServer .supl hostname port resolved).map Key.serverUrl.note) := by
  rw [note_setServer_supl]
  cases fittingUrl hostname port with
  | none => exact informs_none
  | some url => exact informs_assign [] [] (by simp) (by simp)

variable {narrow sap_conf} {s : Hal}

theorem note_agpsReinit_of_ne {key : Key} (hkey : key ≠ .serverUrl) (resolved : Option UInt32) :
    ∀ note ∈ (s.agpsReinit resolved).map key.note, note = .other := by
  intro note hmem
  simp only [Hal.agpsReinit, List.map_append, List.mem_append] at hmem
  rcases hmem with hmem | hmem
  · split at hmem
    next hostname port _ => exact note_setServer_of_ne hkey .supl hostname port resolved note hmem
    next => simp at hmem
  · split at hmem
    next hostname port _ =>
      exact note_setServer_of_ne hkey .cdmaPde hostname port resolved note hmem
    next => simp at hmem

theorem informs_agpsReinit (before : Option Part) (resolved : Option UInt32) :
    Informs before (s.supl_host.bind fun host => (fittingUrl host.1 host.2).map .url)
      ((s.agpsReinit resolved).map Key.serverUrl.note) := by
  rw [Hal.agpsReinit, List.map_append]
  apply Informs.append_other
  · cases s.supl_host with
    | none => exact informs_none
    | some host => exact informs_setServer_supl before host.1 host.2 resolved
  · cases s.c2k_host with
    | none => simp
    | some host => exact note_setServer_of_ip (by simp) host.1 host.2 resolved

theorem note_reinit_serverUrl (gps_conf : GpsConf) (agpsStatus : UInt32) :
    ∀ note ∈ (locEngReinit narrow sap_conf gps_conf agpsStatus).map Key.serverUrl.note,
      note = .other := by
  unfold locEngReinit
  cases sap_conf.anyValid <;> simp [Key.note]

/-- The messages of a restart tell every part but the server. -/
theorem informs_reinit {key : Key} (hkey : key ≠ .serverUrl) (before : Option Part) :
    Informs before (s.wanted narrow sap_conf key)
      ((locEngReinit narrow sap_conf s.gps_conf s.agpsStatus).map key.note) := by
  intro value hvalue replica _
  unfold Hal.wanted at hvalue
  split at hvalue
  case isFalse => cases hvalue
  unfold locEngReinit
  cases key <;> cases hvalid : sap_conf.anyValid <;>
    simp_all [Hal.wanted, Key.note, settles]
  all_goals
    subst hvalue
    by_cases hzero : s.agpsStatus = 0 <;> simp [hzero]

/-! ## Each step keeps the mirror -/

/-- The step appends messages that make up for what it changes. -/
def Tells (narrow : UInt64 → UInt32) (sap_conf : SapConf) (key : Key) (s next : Hal) : Prop :=
  ∃ sent, next.queue = s.queue ++ sent ∧ next.modem = s.modem ∧
    Informs (s.wanted narrow sap_conf key) (next.wanted narrow sap_conf key) (sent.map key.note)

theorem Tells.mirrored {key : Key} {next : Hal} (htells : Tells narrow sap_conf key s next)
    (hs : s.Mirrored narrow sap_conf key) : next.Mirrored narrow sap_conf key := by
  obtain ⟨sent, hqueue, hmodem, hinforms⟩ := htells
  intro m hm
  rw [hqueue, List.map_append]
  exact (hs m (hmodem ▸ hm)).send hinforms

theorem Tells.refl (key : Key) (s : Hal) : Tells narrow sap_conf key s s :=
  ⟨[], by simp, rfl, informs_same (by simp)⟩

theorem tells_init (key : Key) (valid : Bool) :
    Tells narrow sap_conf key s (s.locEngInit valid) := by
  unfold Hal.locEngInit
  split
  · exact Tells.refl key s
  split
  · exact Tells.refl key s
  · refine ⟨[.init], rfl, rfl, ?_⟩
    cases key
    case serverUrl => simp [Hal.wanted, informs_none]
    all_goals exact informs_refresh

theorem wanted_of_ne_serverUrl {key : Key} (hkey : key ≠ .serverUrl) {next : Hal}
    (hadapter : next.adapter = s.adapter) (hconf : next.gps_conf = s.gps_conf)
    (hstatus : next.agpsStatus = s.agpsStatus) :
    next.wanted narrow sap_conf key = s.wanted narrow sap_conf key := by
  unfold Hal.wanted
  rw [hadapter, hconf, hstatus]
  cases key <;> first | rfl | exact absurd rfl hkey

/-- A step that is about the servers does not touch another part. -/
theorem tells_of_ne_serverUrl {key : Key} (hkey : key ≠ .serverUrl) {next : Hal} {sent : List Msg}
    (hqueue : next.queue = s.queue ++ sent) (hmodem : next.modem = s.modem)
    (hadapter : next.adapter = s.adapter) (hconf : next.gps_conf = s.gps_conf)
    (hstatus : next.agpsStatus = s.agpsStatus)
    (hsent : ∀ note ∈ sent.map key.note, note = .other) : Tells narrow sap_conf key s next := by
  refine ⟨sent, hqueue, hmodem, ?_⟩
  rw [wanted_of_ne_serverUrl hkey hadapter hconf hstatus]
  exact informs_same hsent

theorem assisted_iff (gps_conf : GpsConf) :
    assisted gps_conf = true ↔ gps_conf.CAPABILITIES &&& gpsCapabilityMsa ≠ 0 ∨
      gps_conf.CAPABILITIES &&& gpsCapabilityMsb ≠ 0 := by
  simp [assisted]

theorem tells_agpsInit {key : Key} {callbacks : Option Bool} {resolved : Option UInt32}
    (hkept : key.Kept s (.agpsInit callbacks resolved)) :
    Tells narrow sap_conf key s (s.locEngAgpsInit callbacks resolved) := by
  unfold Hal.locEngAgpsInit
  split
  · exact Tells.refl key s
  split
  · exact Tells.refl key s
  next hcb =>
  cases callbacks with
  | none => exact Tells.refl key s
  | some status_cb =>
      by_cases hkey : key = .serverUrl
      · subst hkey
        dsimp only
        split
        · refine ⟨_, rfl, rfl, ?_⟩
          cases status_cb with
          | false => simp [Hal.wanted, Hal.send, informs_none]
          | true =>
              simp only [Hal.wanted, Hal.send, if_true]
              split
              · exact informs_agpsReinit _ resolved
              · exact informs_none
        next hnot =>
          refine ⟨[], by simp, rfl, ?_⟩
          cases status_cb with
          | false => simp [Hal.wanted, informs_none]
          | true =>
              have hassisted := (hkept.resolve_left hcb)
              exact absurd ((assisted_iff s.gps_conf).mp hassisted) hnot
      · dsimp only
        split
        · exact tells_of_ne_serverUrl hkey rfl rfl rfl rfl rfl
            (note_agpsReinit_of_ne hkey resolved)
        · exact tells_of_ne_serverUrl hkey (List.append_nil _).symm rfl rfl rfl rfl (by simp)

theorem tells_setServer {key : Key} {type : LocServerType} {hostname : List Char} {port : Int32}
    {resolved : Option UInt32} (hkept : key.Kept s (.setServer type hostname port resolved)) :
    Tells narrow sap_conf key s (s.locEngSetServerProxy type hostname port resolved) := by
  unfold Hal.locEngSetServerProxy
  by_cases hkey : key = .serverUrl
  · subst hkey
    cases hadapter : s.adapter with
    | false =>
        refine ⟨[], ?_, ?_, ?_⟩ <;> cases type <;> simp [hadapter, Hal.wanted, informs_none]
    | true =>
        refine ⟨locEngSetServer type hostname port resolved, ?_, ?_, ?_⟩
        · cases type <;> simp [hadapter, Hal.send]
        · cases type <;> simp [hadapter, Hal.send]
        · by_cases htype : type = .supl
          · subst htype
            have htake : hostname.take (hostBufSize - 1) = hostname :=
              List.take_of_length_le (Nat.le_sub_one_of_lt hkept)
            cases hcb : s.agps_status_cb with
            | false => simp [Hal.wanted, Hal.send, hcb, informs_none]
            | true =>
                simpa [Hal.wanted, Hal.send, Hal.buffer, hadapter, hcb, htake] using
                  informs_setServer_supl _ hostname port resolved
          · have hother := note_setServer_of_ip htype hostname port resolved
            cases type
            case supl => exact absurd rfl htype
            all_goals simpa [hadapter, Hal.wanted, Hal.send] using informs_same hother
  · have hother := note_setServer_of_ne hkey type hostname port resolved
    cases hadapter : s.adapter with
    | false =>
        have hnil : ∀ note ∈ ([] : List Msg).map key.note, note = .other := by simp
        refine tells_of_ne_serverUrl hkey ?_ ?_ ?_ ?_ ?_ hnil <;> cases type <;> simp [hadapter]
    | true =>
        refine tells_of_ne_serverUrl hkey ?_ ?_ ?_ ?_ ?_ hother <;> cases type <;>
          simp [hadapter, Hal.send]

theorem toUInt32_bne_zero (value : Int32) : (value.toUInt32 != 0) = (value != 0) := by
  rw [Bool.eq_iff_iff, bne_iff_ne, bne_iff_ne]
  refine not_congr ⟨fun hzero => ?_, fun hzero => hzero ▸ rfl⟩
  simpa using congrArg UInt32.toInt32 hzero

theorem note_enableData_of_ne {key : Key} (hkey : key ≠ .dataEnabled)
    (apn : Option (List Char)) (enable : Int32) : key.note (.enableData apn enable) = .other := by
  cases key <;> first | rfl | exact absurd rfl hkey

/-- The messages of `loc_eng_agps_ril_update_network_availability`. -/
def Hal.availability (s : Hal) (available : Int32) (apn : Option (List Char)) : List Msg :=
  if s.adapter then apn.toList.map fun apn => .enableData (some (apn.take maxApnLen)) available
  else []

theorem updateNetworkAvailability_eq (s : Hal) (available : Int32) (apn : Option (List Char)) :
    s.updateNetworkAvailability available apn =
      ({ s with agpsStatus := available.toUInt32 } : Hal).send (s.availability available apn) := by
  unfold Hal.updateNetworkAvailability Hal.availability Hal.send
  cases hadapter : s.adapter <;> cases apn <;> simp

theorem tells_updateNetworkAvailability {key : Key} {available : Int32} {apn : Option (List Char)}
    (hkept : key.Kept s (.updateNetworkAvailability available apn)) :
    Tells narrow sap_conf key s (s.updateNetworkAvailability available apn) := by
  rw [updateNetworkAvailability_eq]
  refine ⟨s.availability available apn, rfl, rfl, ?_⟩
  by_cases hkey : key = .dataEnabled
  · subst hkey
    unfold Hal.wanted Hal.availability Hal.send
    cases hadapter : s.adapter with
    | false => exact informs_none
    | true =>
        cases apn with
        | none =>
            have hsame := hkept hadapter rfl
            simpa [hsame] using informs_same (by simp)
        | some apn =>
            simp only [if_true, toUInt32_bne_zero]
            exact informs_assign [] [] (by simp) (by simp)
  · have hwanted : (({ s with agpsStatus := available.toUInt32 } : Hal).send
        (s.availability available apn)).wanted narrow sap_conf key =
          s.wanted narrow sap_conf key := by
      cases key <;> first | rfl | exact absurd rfl hkey
    rw [hwanted]
    apply informs_same
    unfold Hal.availability
    split
    · cases apn <;> simp [note_enableData_of_ne hkey]
    · simp

/-! ## A configuration update -/

theorem configurationUpdate_cases {atof : List Char → UInt64} {sGnssType : GnssTarget}
    {data : ConfigData} {next : Hal}
    (hnext : s.configurationUpdate atof sGnssType data = some next) :
    ∃ updated, next = ({ s with
        gps_conf := sGnssType.mask (s.gps_conf.restored updated) } : Hal).send
          ((if s.adapter then changes s.gps_conf updated else []).map .config) := by
  unfold Hal.configurationUpdate at hnext
  cases htext : data.text with
  | none =>
      refine ⟨s.gps_conf, ?_⟩
      simp only [locEngConfigurationUpdate, htext, Option.bind_eq_bind, Option.bind_some,
        Option.some.injEq] at hnext
      rw [← hnext]
      simp [changes, GpsConf.restored]
  | some conf_data =>
      simp only [locEngConfigurationUpdate, htext, Option.bind_eq_bind,
        Option.bind_eq_some_iff] at hnext
      obtain ⟨_, ⟨updated, hupdated, hpair⟩, hnext⟩ := hnext
      refine ⟨updated, ?_⟩
      cases hpair
      cases hnext
      rfl

theorem note_change {key : Key} {msg : ConfigMsg} (hother : key.note (.config msg) = .other)
    (changed : Prop) [Decidable changed] :
    ∀ note ∈ (if changed then [msg] else []).map (key.note ∘ .config), note = .other := by
  split <;> simp [hother]

theorem informs_change {key : Key} {msg : ConfigMsg} {old new : UInt32}
    (hassign : key.note (.config msg) = .assign (.number new)) :
    Informs (some (.number old)) (some (.number new))
      ((if old ≠ new then [msg] else []).map (key.note ∘ .config)) := by
  split
  next => simpa [hassign] using informs_assign [] [] (by simp) (by simp)
  next hsame =>
    obtain rfl := not_not.mp hsame
    exact informs_same (by simp)

/-- What the capabilities are masked to does not concern a part. -/
theorem wanted_mask (s : Hal) (key : Key) (sGnssType : GnssTarget) (gps_conf : GpsConf) :
    ({ s with gps_conf := sGnssType.mask gps_conf } : Hal).wanted narrow sap_conf key =
      ({ s with gps_conf := gps_conf } : Hal).wanted narrow sap_conf key := by
  unfold GnssTarget.mask
  split
  · cases key <;> rfl
  · rfl

/-- The messages about the changes tell the parts that have changed. -/
theorem informs_changes (key : Key) (updated : GpsConf) (hadapter : s.adapter = true) :
    Informs (s.wanted narrow sap_conf key)
      (({ s with gps_conf := s.gps_conf.restored updated } : Hal).wanted narrow sap_conf key)
      ((changes s.gps_conf updated).map (key.note ∘ .config)) := by
  simp only [changes, List.map_append]
  cases key with
  | suplVersion =>
      simp only [Hal.wanted, hadapter, if_true, GpsConf.restored]
      refine (((informs_change ?_).append_other ?_).append_other ?_).append_other ?_
      · simp [Key.note]
      all_goals exact note_change rfl _
  | lppConfig =>
      simp only [Hal.wanted, hadapter, if_true, GpsConf.restored]
      refine (((informs_change ?_).other_append ?_).append_other ?_).append_other ?_
      · simp [Key.note]
      all_goals exact note_change rfl _
  | aGlonassProtocol =>
      simp only [Hal.wanted, hadapter, if_true, GpsConf.restored]
      refine ((informs_change ?_).other_append ?_).append_other ?_
      · simp [Key.note]
      · simp only [List.mem_append]
        rintro note (hmem | hmem) <;> exact note_change rfl _ note hmem
      · exact note_change rfl _
  | _ =>
      apply informs_same
      simp only [List.mem_append]
      rintro note (((hmem | hmem) | hmem) | hmem) <;> exact note_change rfl _ note hmem

theorem tells_configurationUpdate {key : Key} {atof : List Char → UInt64}
    {sGnssType : GnssTarget} {data : ConfigData} {next : Hal}
    (hnext : s.configurationUpdate atof sGnssType data = some next) :
    Tells narrow sap_conf key s next := by
  obtain ⟨updated, rfl⟩ := configurationUpdate_cases hnext
  refine ⟨_, rfl, rfl, ?_⟩
  rw [List.map_map]
  by_cases hadapter : s.adapter = true
  · rw [if_pos hadapter]
    have hinforms : Informs (s.wanted narrow sap_conf key) _ _ :=
      informs_changes key updated hadapter
    rw [← wanted_mask s key sGnssType (s.gps_conf.restored updated)] at hinforms
    exact hinforms
  · have hnone : ({ s with gps_conf := sGnssType.mask (s.gps_conf.restored updated) } :
        Hal).wanted narrow sap_conf key = none := if_neg hadapter
    exact hnone ▸ informs_none

/-! ## The message thread -/

theorem wanted_handle (key : Key) (measurements : Bool) (resolved : Option UInt32) (msg : Msg) :
    (s.handle narrow sap_conf measurements resolved msg).wanted narrow sap_conf key =
      s.wanted narrow sap_conf key := by
  cases msg with
  | gnssConstellationConfig =>
      simp only [Hal.handle]
      split
      · cases key <;> rfl
      · rfl
  | _ => rfl

/-- The messages that a handler sends. -/
def Hal.answers (narrow : UInt64 → UInt32) (sap_conf : SapConf) (s : Hal)
    (resolved : Option UInt32) : Msg → List Msg
  | .init => locEngReinit narrow sap_conf s.gps_conf s.agpsStatus ++ [.setCapabilities]
  | .engineUp =>
      locEngReinit narrow sap_conf s.gps_conf s.agpsStatus ++
        if s.agps_status_cb then s.agpsReinit resolved else []
  | _ => []

theorem handle_queue (measurements : Bool) (resolved : Option UInt32) (msg : Msg) :
    (s.handle narrow sap_conf measurements resolved msg).queue =
      s.queue ++ s.answers narrow sap_conf resolved msg := by
  cases msg with
  | gnssConstellationConfig => simp only [Hal.handle]; split <;> simp [Hal.answers]
  | _ => simp [Hal.handle, Hal.answers, Hal.send]

theorem handle_modem (measurements : Bool) (resolved : Option UInt32) (msg : Msg) :
    (s.handle narrow sap_conf measurements resolved msg).modem = s.modem := by
  cases msg with
  | gnssConstellationConfig => simp only [Hal.handle]; split <;> rfl
  | _ => rfl

theorem informs_answers {key : Key} {resolved : Option UInt32} {msg : Msg}
    (hrefresh : key.note msg = .refresh) :
    Informs none (s.wanted narrow sap_conf key)
      ((s.answers narrow sap_conf resolved msg).map key.note) := by
  by_cases hkey : key = .serverUrl
  · subst hkey
    cases msg with
    | engineUp =>
        simp only [Hal.answers, List.map_append]
        refine Informs.other_append ?_ (note_reinit_serverUrl s.gps_conf s.agpsStatus)
        simp only [Hal.wanted]
        split
        · split
          · exact informs_agpsReinit none resolved
          · exact informs_none
        · exact informs_none
    | config msg => cases msg <;> cases hrefresh
    | _ => cases hrefresh
  · have hreinit : Informs none (s.wanted narrow sap_conf key) _ := informs_reinit hkey none
    cases msg with
    | init =>
        simp only [Hal.answers, List.map_append]
        refine hreinit.append_other ?_
        cases key <;> simp [Key.note]
    | engineUp =>
        simp only [Hal.answers, List.map_append]
        refine hreinit.append_other ?_
        split
        · exact note_agpsReinit_of_ne hkey resolved
        · simp
    | config msg => cases key <;> cases msg <;> cases hrefresh
    | _ => cases key <;> cases hrefresh

theorem answers_of_not_refresh {key : Key} {resolved : Option UInt32} {msg : Msg}
    (hrefresh : key.note msg ≠ .refresh) :
    ∀ note ∈ (s.answers narrow sap_conf resolved msg).map key.note, note = .other := by
  cases msg with
  | init =>
      cases key
      case serverUrl =>
        simp only [Hal.answers, List.map_append, List.mem_append]
        rintro note (hmem | hmem)
        · exact note_reinit_serverUrl s.gps_conf s.agpsStatus note hmem
        · simpa [Key.note] using hmem
      all_goals exact absurd rfl hrefresh
  | engineUp => cases key <;> exact absurd rfl hrefresh
  | _ => simp [Hal.answers]

theorem process_mirrored {key : Key} {measurements : Bool} {resolved : Option UInt32} {next : Hal}
    (hs : s.Mirrored narrow sap_conf key)
    (hnext : s.process narrow sap_conf measurements resolved = some next) :
    next.Mirrored narrow sap_conf key := by
  unfold Hal.process at hnext
  split at hnext
  case h_1 => cases hnext
  next msg rest hqueue =>
    cases hnext
    intro m hm
    rw [handle_modem] at hm
    obtain ⟨m, hmodem, rfl⟩ := Option.map_eq_some_iff.mp hm
    have hconsistent := hs m hmodem
    rw [hqueue, List.map_cons] at hconsistent
    rw [wanted_handle, handle_queue, List.map_append, Key.get_told]
    cases hnote : key.note msg with
    | refresh => exact Consistent.refresh (informs_answers hnote)
    | assign value =>
        rw [hnote] at hconsistent
        refine Consistent.send hconsistent.assign (informs_same (answers_of_not_refresh ?_))
        simp [hnote]
    | other =>
        rw [hnote] at hconsistent
        refine Consistent.send hconsistent.other (informs_same (answers_of_not_refresh ?_))
        simp [hnote]

/-! ## The whole system -/

theorem step_mirrored {key : Key} {atof : List Char → UInt64} {sGnssType : GnssTarget}
    {action : Action} {next : Hal} (hs : s.Mirrored narrow sap_conf key)
    (hkept : key.Kept s action)
    (hnext : s.step narrow sap_conf atof sGnssType action = some next) :
    next.Mirrored narrow sap_conf key := by
  cases action with
  | init valid => cases hnext; exact (tells_init key valid).mirrored hs
  | agpsInit callbacks resolved => cases hnext; exact (tells_agpsInit hkept).mirrored hs
  | setServer type hostname port resolved =>
      cases hnext
      exact (tells_setServer hkept).mirrored hs
  | updateNetworkAvailability available apn =>
      cases hnext
      exact (tells_updateNetworkAvailability hkept).mirrored hs
  | configurationUpdate data => exact (tells_configurationUpdate hnext).mirrored hs
  | process measurements resolved => exact process_mirrored hs hnext
  | modemDown =>
      cases hnext
      intro m hm
      cases hm
  | modemUp =>
      simp only [Hal.step] at hnext
      split at hnext
      next =>
        cases hnext
        intro m _
        show Consistent (s.wanted narrow sap_conf key) _ _
        by_cases hadapter : s.adapter = true
        · have hrefresh : key.note .engineUp = .refresh := by cases key <;> rfl
          rw [if_pos hadapter, List.map_append, List.map_singleton, hrefresh]
          exact Consistent.refresh informs_refresh
        · have hnone : s.wanted narrow sap_conf key = none := if_neg hadapter
          exact hnone ▸ consistent_none _ _
      next => cases hnext

variable {atof : List Char → UInt64} {sGnssType : GnssTarget} {gps_conf : GpsConf}
  {modem : Option Modem} {actions : List Action}

/-- When nothing leaves the part behind and no message is pending, the modem has
what the engine wants. -/
theorem get_eq_wanted {key : Key} {m : Modem} {part : Part}
    (hguard : (system narrow sap_conf atof sGnssType gps_conf modem).Guarded key.Kept
      (initial gps_conf modem) actions)
    (hrun : (system narrow sap_conf atof sGnssType gps_conf modem).run actions = some s)
    (hqueue : s.queue = []) (hmodem : s.modem = some m)
    (hwanted : s.wanted narrow sap_conf key = some part) : key.get m = some part := by
  have hinit : (initial gps_conf modem).Mirrored narrow sap_conf key :=
    fun m _ => consistent_none _ _
  have hmirrored : s.Mirrored narrow sap_conf key :=
    Transition.System.guarded_invariant key.Kept
      (fun _ _ _ hs hkept hnext => step_mirrored hs hkept hnext) hinit hguard hrun
  have hconsistent := hmirrored m hmodem
  rw [hqueue, hwanted] at hconsistent
  exact hconsistent.drained

/-- A modem that has the configuration. -/
structure HasConfiguration (narrow : UInt64 → UInt32) (sap_conf : SapConf) (gps_conf : GpsConf)
    (m : Modem) : Prop where
  suplVersion : m.suplVersion = some gps_conf.SUPL_VER
  lppConfig : m.lppConfig = some gps_conf.LPP_PROFILE
  aGlonassProtocol : m.aGlonassProtocol = some gps_conf.A_GLONASS_POS_PROTOCOL_SELECT
  sensorControl : m.sensorControl = some sap_conf.sensorControl
  sensorProperties :
    sap_conf.anyValid = true → m.sensorProperties = some (sap_conf.sensorProperties narrow)
  sensorPerfControl : m.sensorPerfControl = some sap_conf.sensorPerfControl
  xtraVersionCheck :
    m.xtraVersionCheck = some (setXtraVersionCheck gps_conf.XTRA_VERSION_CHECK.toInt32)

/-- Whenever no message is pending, a running modem has the configuration, whatever
was updated before and how often it restarted. -/
theorem modem_has_configuration {m : Modem}
    (hrun : (system narrow sap_conf atof sGnssType gps_conf modem).run actions = some s)
    (hadapter : s.adapter = true) (hqueue : s.queue = []) (hmodem : s.modem = some m) :
    HasConfiguration narrow sap_conf s.gps_conf m := by
  have hget : ∀ (key : Key) (part : Part), key ≠ .dataEnabled → key ≠ .serverUrl →
      s.wanted narrow sap_conf key = some part → key.get m = some part := by
    intro key part hdata hserver hwanted
    refine get_eq_wanted (Transition.System.guarded_of_forall (fun state action => ?_) _ actions)
      hrun hqueue hmodem hwanted
    cases key
    case dataEnabled => exact absurd rfl hdata
    case serverUrl => exact absurd rfl hserver
    all_goals trivial
  refine ⟨?_, ?_, ?_, ?_, fun hvalid => ?_, ?_, ?_⟩
  · simpa [Key.get] using hget .suplVersion _ (by simp) (by simp) (if_pos hadapter)
  · simpa [Key.get] using hget .lppConfig _ (by simp) (by simp) (if_pos hadapter)
  · simpa [Key.get] using hget .aGlonassProtocol _ (by simp) (by simp) (if_pos hadapter)
  · simpa [Key.get] using hget .sensorControl _ (by simp) (by simp) (if_pos hadapter)
  · simpa [Key.get] using hget .sensorProperties _ (by simp) (by simp)
      ((if_pos hadapter).trans (if_pos hvalid))
  · simpa [Key.get] using hget .sensorPerfControl _ (by simp) (by simp) (if_pos hadapter)
  · simpa [Key.get] using hget .xtraVersionCheck _ (by simp) (by simp) (if_pos hadapter)

/-- No sensor property is specified. -/
def noSensors : SapConf :=
  ⟨0, 0, 0, 0, 0, 0, 0, 0, 0, 0, 0, 0, 0, 0, 0, 0, 0, 0, 0, 0, 0, 0⟩

/-- The message thread runs for a while. -/
def processes (n : Nat) : List Action := List.replicate n (.process true none)

/-- The modem restarts twice, the second time before it was told anything. -/
def restarts : List Action :=
  [.init true] ++ processes 10 ++ [.modemDown, .modemUp, .modemDown, .modemUp] ++ processes 18

theorem modem_has_configuration_restarts :
    ∃ s m, (system (fun _ => 0) noSensors (fun _ => 0) .mdm carrierDefaults (some .started)).run
        restarts = some s ∧ HasConfiguration (fun _ => 0) noSensors s.gps_conf m := by
  have hrun : (system (fun _ => 0) noSensors (fun _ => 0) .mdm carrierDefaults
      (some .started)).run restarts = some _ := rfl
  exact ⟨_, _, hrun, modem_has_configuration hrun rfl rfl rfl⟩

/-- The modem also has whether data can be used, unless the engine was told about a
network without the name of an access point in between. -/
theorem modem_has_availability {m : Modem}
    (hguard : (system narrow sap_conf atof sGnssType gps_conf modem).Guarded Key.dataEnabled.Kept
      (initial gps_conf modem) actions)
    (hrun : (system narrow sap_conf atof sGnssType gps_conf modem).run actions = some s)
    (hadapter : s.adapter = true) (hqueue : s.queue = []) (hmodem : s.modem = some m) :
    ∃ enable, m.enableData = some enable ∧ (enable ≠ 0 ↔ s.agpsStatus ≠ 0) := by
  have hget := get_eq_wanted hguard hrun hqueue hmodem (if_pos hadapter)
  obtain ⟨enable, henable, hpart⟩ := Option.map_eq_some_iff.mp hget
  refine ⟨enable, henable, ?_⟩
  rw [← bne_iff_ne, ← bne_iff_ne, Part.enabled.inj hpart]

/-- A network comes, and the modem restarts. -/
def networkComes : List Action :=
  [.init true] ++ processes 10 ++ [.updateNetworkAvailability 1 (some "internet".toList)] ++
    processes 1 ++ [.modemDown, .modemUp] ++ processes 9

theorem modem_has_availability_networkComes :
    ∃ (s : Hal) (m : Modem) (enable : Int32), (system (fun _ => 0) noSensors (fun _ => 0) .mdm
        carrierDefaults (some .started)).run networkComes = some s ∧ m.enableData = some enable ∧
      (enable ≠ 0 ↔ s.agpsStatus ≠ 0) := by
  have hrun : (system (fun _ => 0) noSensors (fun _ => 0) .mdm carrierDefaults
      (some .started)).run networkComes = some _ := rfl
  have hkept : ∀ action ∈ networkComes, ∀ state, Key.dataEnabled.Kept state action := by
    intro action hmem state
    simp only [networkComes, processes, List.mem_append, List.mem_cons, List.mem_replicate,
      List.not_mem_nil, or_false] at hmem
    rcases hmem with ((((rfl | ⟨-, rfl⟩) | rfl) | ⟨-, rfl⟩) | rfl | rfl) | ⟨-, rfl⟩
    case inl.inl.inl.inr => intro _ hnone; cases hnone
    all_goals trivial
  obtain ⟨enable, henable, hiff⟩ := modem_has_availability
    (Transition.System.guarded_of_forall_mem hkept _) hrun rfl rfl rfl
  exact ⟨_, _, enable, hrun, henable, hiff⟩

/-! ## The server -/

/-- The address buffer holds what fits it. -/
def Hal.HostFits (s : Hal) : Prop :=
  ∀ host, s.supl_host = some host → host.1.length < hostBufSize

theorem Hal.HostFits.congr {next : Hal} (hs : s.HostFits) (hhost : next.supl_host = s.supl_host) :
    next.HostFits := fun host hnext => hs host (hhost ▸ hnext)

theorem hostFits_init (hs : s.HostFits) (valid : Bool) : (s.locEngInit valid).HostFits := by
  unfold Hal.locEngInit
  split
  · exact hs
  split
  · exact hs
  · intro host hhost
    cases hhost

theorem agpsInit_supl_host (callbacks : Option Bool) (resolved : Option UInt32) :
    (s.locEngAgpsInit callbacks resolved).supl_host = s.supl_host := by
  unfold Hal.locEngAgpsInit
  split
  · rfl
  split
  · rfl
  cases callbacks with
  | none => rfl
  | some status_cb => dsimp only; split <;> rfl

theorem hostFits_setServer (hs : s.HostFits) (type : LocServerType) (hostname : List Char)
    (port : Int32) (resolved : Option UInt32) :
    (s.locEngSetServerProxy type hostname port resolved).HostFits := by
  have hbuffer : (hostname.take (hostBufSize - 1)).length < hostBufSize :=
    Nat.lt_of_le_of_lt (List.length_take_le _ _) (by decide)
  unfold Hal.locEngSetServerProxy
  cases type with
  | supl =>
      intro host hhost
      have hbuffered : Hal.buffer hostname port = some host := by
        dsimp only at hhost
        split at hhost <;> exact hhost
      cases hbuffered
      exact hbuffer
  | _ => refine hs.congr ?_; dsimp only; split <;> rfl

theorem handle_supl_host (measurements : Bool) (resolved : Option UInt32) (msg : Msg) :
    (s.handle narrow sap_conf measurements resolved msg).supl_host = s.supl_host := by
  cases msg with
  | gnssConstellationConfig => simp only [Hal.handle]; split <;> rfl
  | _ => rfl

theorem step_hostFits {action : Action} {next : Hal} (hs : s.HostFits)
    (hnext : s.step narrow sap_conf atof sGnssType action = some next) : next.HostFits := by
  cases action with
  | init valid => cases hnext; exact hostFits_init hs valid
  | agpsInit callbacks resolved =>
      cases hnext
      exact hs.congr (agpsInit_supl_host callbacks resolved)
  | setServer type hostname port resolved =>
      cases hnext
      exact hostFits_setServer hs type hostname port resolved
  | updateNetworkAvailability available apn =>
      cases hnext
      rw [updateNetworkAvailability_eq]
      exact hs
  | configurationUpdate data =>
      obtain ⟨updated, rfl⟩ := configurationUpdate_cases hnext
      exact hs
  | process measurements resolved =>
      simp only [Hal.step, Hal.process] at hnext
      split at hnext
      · cases hnext
      · cases hnext
        exact hs.congr (handle_supl_host measurements resolved _)
  | modemDown => cases hnext; exact hs
  | modemUp =>
      simp only [Hal.step] at hnext
      split at hnext
      · cases hnext; exact hs
      · cases hnext

/-- A name that fits the address buffer makes a text that fits the other one. -/
theorem fittingUrl_of_length {hostname : List Char} (hfits : hostname.length < hostBufSize)
    (port : Int32) :
    fittingUrl hostname port =
      some (if isNone hostname then [] else serverUrl hostname port) := by
  have hport : port.toUInt32.toNat < 10 ^ 10 :=
    port.toUInt32.toNat_lt.trans (by decide)
  have hdigits := DecimalText.length_digits_le (by decide) hport
  have hurl : (serverUrl hostname port).length < maxUrlLen := by
    simp only [serverUrl, List.length_append, List.length_cons, maxUrlLen]
    simp only [hostBufSize] at hfits
    omega
  unfold fittingUrl
  rw [if_pos hurl]
  split <;> rfl

/-- With AGPS initialised, the modem has the server that was set last, unless a
name did not fit or AGPS was initialised without positions of the network. -/
theorem modem_has_server {m : Modem} {hostname : List Char} {port : Int32}
    (hguard : (system narrow sap_conf atof sGnssType gps_conf modem).Guarded Key.serverUrl.Kept
      (initial gps_conf modem) actions)
    (hrun : (system narrow sap_conf atof sGnssType gps_conf modem).run actions = some s)
    (hadapter : s.adapter = true) (hcb : s.agps_status_cb = true)
    (hhost : s.supl_host = some (hostname, port)) (hqueue : s.queue = [])
    (hmodem : s.modem = some m) :
    m.serverUrl = some (if isNone hostname then [] else serverUrl hostname port) := by
  have hfits : s.HostFits := by
    have hinit : (initial gps_conf modem).HostFits := fun host hhost => by cases hhost
    have hstep : ∀ (state : Hal) (action : Action) (next : Hal), state.HostFits →
        Key.serverUrl.Kept state action →
        (system narrow sap_conf atof sGnssType gps_conf modem).step state action = some next →
        next.HostFits := fun _ _ _ hs _ hnext => step_hostFits hs hnext
    exact Transition.System.guarded_invariant Key.serverUrl.Kept hstep hinit hguard hrun
  have hwanted : s.wanted narrow sap_conf .serverUrl =
      some (.url (if isNone hostname then [] else serverUrl hostname port)) := by
    simp [Hal.wanted, hadapter, hcb, hhost, fittingUrl_of_length (hfits _ hhost)]
  have hget := get_eq_wanted hguard hrun hqueue hmodem hwanted
  simpa [Key.get] using hget

/-- The modem restarts. -/
def restartLater : List Action :=
  processes 12 ++ [.modemDown, .modemUp] ++ processes 10

/-- The server is set before AGPS is initialised. -/
def serverStays : List Action :=
  .init true :: .setServer .supl "supl.example".toList 7275 none :: .agpsInit (some true) none ::
    restartLater

theorem modem_has_server_serverStays :
    ∃ (s : Hal) (m : Modem), (system (fun _ => 0) noSensors (fun _ => 0) .mdm carrierDefaults
        (some .started)).run serverStays = some s ∧
      m.serverUrl = some "supl.example:7275".toList := by
  have hrun : (system (fun _ => 0) noSensors (fun _ => 0) .mdm carrierDefaults
      (some .started)).run serverStays = some _ := rfl
  have hlater : ∀ action ∈ restartLater, ∀ state, Key.serverUrl.Kept state action := by
    intro action hmem state
    simp only [restartLater, processes, List.mem_append, List.mem_cons, List.mem_replicate,
      List.not_mem_nil, or_false] at hmem
    rcases hmem with (⟨-, rfl⟩ | rfl | rfl) | ⟨-, rfl⟩ <;> trivial
  have hfits : "supl.example".toList.length < hostBufSize := by decide
  have hguard : (system (fun _ => 0) noSensors (fun _ => 0) .mdm carrierDefaults
      (some .started)).Guarded Key.serverUrl.Kept (initial carrierDefaults (some .started))
        serverStays := by
    refine ⟨trivial, fun next hnext => ⟨hfits, fun next' hnext' => ⟨?_, fun _ _ => ?_⟩⟩⟩
    · cases hnext
      cases hnext'
      exact .inr rfl
    · exact Transition.System.guarded_of_forall_mem hlater _
  exact ⟨_, _, hrun, modem_has_server hguard hrun rfl rfl rfl rfl rfl⟩

end Mirror

end Serrano.LocEng.ModemConfig
