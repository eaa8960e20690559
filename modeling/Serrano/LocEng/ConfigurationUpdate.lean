import Serrano.Utils.LocCfgUpdate

/-! # Configuration updates

When the carrier changes, the framework passes a text of parameters. It is parsed over
the whole of `gps_conf`, after which all but six parameters are restored from a copy.
Messages tell the adapter about the parameters that have changed. Those about a
version, a profile or a protocol carry it; the one about the mode carries nothing, and
reads `gps_conf` when it is processed.
-/

namespace Serrano.LocEng

open Utils

def maxXtraServerUrlLength : Nat := 256

/-- A string that fits its array with a terminator. -/
structure XtraServerUrl where
  chars : List Char
  fits : chars.length < maxXtraServerUrlLength

/-- `loc_gps_cfg_s_type` -/
structure GpsConf where
  INTERMEDIATE_POS : UInt32
  ACCURACY_THRES : UInt32
  SUPL_VER : UInt32
  SUPL_MODE : UInt32
  SUPL_ES : UInt32
  CAPABILITIES : UInt32
  LPP_PROFILE : UInt32
  XTRA_VERSION_CHECK : UInt32
  XTRA_SERVER_1 : XtraServerUrl
  XTRA_SERVER_2 : XtraServerUrl
  XTRA_SERVER_3 : XtraServerUrl
  USE_EMERGENCY_PDN_FOR_EMERGENCY_SUPL : UInt32
  NMEA_PROVIDER : UInt32
  GPS_LOCK : UInt32
  A_GLONASS_POS_PROTOCOL_SELECT : UInt32
  AGPS_CERT_WRITABLE_MASK : UInt32

/-- An entry that points to a member of `gps_conf` and has no flag. -/
def gpsConfEntry (param_name : String) (param_type : Char) : ConfEntry where
  param_name := param_name.toList
  param_ptr := true
  param_set := false
  param_type := param_type

/-- `gps_conf_table` -/
def gpsConfTable : ConfTable where
  entries :=
    [gpsConfEntry "GPS_LOCK" 'n', gpsConfEntry "SUPL_VER" 'n', gpsConfEntry "LPP_PROFILE" 'n',
      gpsConfEntry "A_GLONASS_POS_PROTOCOL_SELECT" 'n', gpsConfEntry "AGPS_CERT_WRITABLE_MASK" 'n',
      gpsConfEntry "SUPL_MODE" 'n', gpsConfEntry "SUPL_ES" 'n', gpsConfEntry "INTERMEDIATE_POS" 'n',
      gpsConfEntry "ACCURACY_THRES" 'n', gpsConfEntry "NMEA_PROVIDER" 'n',
      gpsConfEntry "CAPABILITIES" 'n', gpsConfEntry "XTRA_VERSION_CHECK" 'n',
      gpsConfEntry "XTRA_SERVER_1" 's', gpsConfEntry "XTRA_SERVER_2" 's',
      gpsConfEntry "XTRA_SERVER_3" 's', gpsConfEntry "USE_EMERGENCY_PDN_FOR_EMERGENCY_SUPL" 'n']
  distinct := by decide
  length_lt := by decide

/-- What an `int` that is stored in a `uint32_t` member leaves there. -/
def numberMember : ParamValue → Option UInt32
  | .number value => some value.toUInt32
  | .string _ | .float _ => none

/-- What a string that is stored in an array leaves there, unless it goes past the end. -/
def stringMember : ParamValue → Option XtraServerUrl
  | .string chars =>
      if hfits : chars.length < maxXtraServerUrlLength then some ⟨chars, hfits⟩ else none
  | .number _ | .float _ => none

namespace GpsConf

/-- The members that the entries of the table point to. -/
def params (gps_conf : GpsConf) : List ParamValue :=
  [.number gps_conf.GPS_LOCK.toInt32, .number gps_conf.SUPL_VER.toInt32,
    .number gps_conf.LPP_PROFILE.toInt32, .number gps_conf.A_GLONASS_POS_PROTOCOL_SELECT.toInt32,
    .number gps_conf.AGPS_CERT_WRITABLE_MASK.toInt32, .number gps_conf.SUPL_MODE.toInt32,
    .number gps_conf.SUPL_ES.toInt32, .number gps_conf.INTERMEDIATE_POS.toInt32,
    .number gps_conf.ACCURACY_THRES.toInt32, .number gps_conf.NMEA_PROVIDER.toInt32,
    .number gps_conf.CAPABILITIES.toInt32, .number gps_conf.XTRA_VERSION_CHECK.toInt32,
    .string gps_conf.XTRA_SERVER_1.chars, .string gps_conf.XTRA_SERVER_2.chars,
    .string gps_conf.XTRA_SERVER_3.chars,
    .number gps_conf.USE_EMERGENCY_PDN_FOR_EMERGENCY_SUPL.toInt32]

def state (gps_conf : GpsConf) : ConfState where
  param i := gps_conf.params.getD i (.number 0)
  param_set _ := 0

/-- The structure in memory; there is none if something was stored beyond a member. -/
def ofState (s : ConfState) : Option GpsConf := do
  let GPS_LOCK ← numberMember (s.param 0)
  let SUPL_VER ← numberMember (s.param 1)
  let LPP_PROFILE ← numberMember (s.param 2)
  let A_GLONASS_POS_PROTOCOL_SELECT ← numberMember (s.param 3)
  let AGPS_CERT_WRITABLE_MASK ← numberMember (s.param 4)
  let SUPL_MODE ← numberMember (s.param 5)
  let SUPL_ES ← numberMember (s.param 6)
  let INTERMEDIATE_POS ← numberMember (s.param 7)
  let ACCURACY_THRES ← numberMember (s.param 8)
  let NMEA_PROVIDER ← numberMember (s.param 9)
  let CAPABILITIES ← numberMember (s.param 10)
  let XTRA_VERSION_CHECK ← numberMember (s.param 11)
  let XTRA_SERVER_1 ← stringMember (s.param 12)
  let XTRA_SERVER_2 ← stringMember (s.param 13)
  let XTRA_SERVER_3 ← stringMember (s.param 14)
  let USE_EMERGENCY_PDN_FOR_EMERGENCY_SUPL ← numberMember (s.param 15)
  some {
    INTERMEDIATE_POS := INTERMEDIATE_POS
    ACCURACY_THRES := ACCURACY_THRES
    SUPL_VER := SUPL_VER
    SUPL_MODE := SUPL_MODE
    SUPL_ES := SUPL_ES
    CAPABILITIES := CAPABILITIES
    LPP_PROFILE := LPP_PROFILE
    XTRA_VERSION_CHECK := XTRA_VERSION_CHECK
    XTRA_SERVER_1 := XTRA_SERVER_1
    XTRA_SERVER_2 := XTRA_SERVER_2
    XTRA_SERVER_3 := XTRA_SERVER_3
    USE_EMERGENCY_PDN_FOR_EMERGENCY_SUPL := USE_EMERGENCY_PDN_FOR_EMERGENCY_SUPL
    NMEA_PROVIDER := NMEA_PROVIDER
    GPS_LOCK := GPS_LOCK
    A_GLONASS_POS_PROTOCOL_SELECT := A_GLONASS_POS_PROTOCOL_SELECT
    AGPS_CERT_WRITABLE_MASK := AGPS_CERT_WRITABLE_MASK
  }

/-- `ContextBase::getCarrierCapabilities` -/
def getCarrierCapabilities (gps_conf : GpsConf) : UInt32 :=
  let capabilities := gps_conf.CAPABILITIES
  let capabilities :=
    if gps_conf.SUPL_MODE &&& 0x2 ≠ 0x2 then capabilities &&& ~~~0x4 else capabilities
  if gps_conf.SUPL_MODE &&& 0x1 ≠ 0x1 then capabilities &&& ~~~0x2 else capabilities

end GpsConf

/-- The messages of a configuration update. -/
inductive ConfigMsg
  | suplVer (mSuplVer : Int32)
  | lppConfig (mLppConfig : Int32)
  | aGlonassProtocol (mAGlonassProtocl : UInt32)
  | suplMode
  deriving DecidableEq

/-- What the messages make of the adapter and of the ULP proxy. -/
inductive ConfigCall
  | setSUPLVersion (version : UInt32)
  | setLPPConfig (profile : UInt32)
  | setAGLONASSProtocol (aGlonassProtocol : UInt32)
  | setCapabilities (capabilities : UInt32)
  deriving DecidableEq

/-- `proc`, with what `gps_conf` is when the message is processed. -/
def ConfigMsg.proc (gps_conf : GpsConf) : ConfigMsg → ConfigCall
  | .suplVer mSuplVer => .setSUPLVersion mSuplVer.toUInt32
  | .lppConfig mLppConfig => .setLPPConfig mLppConfig.toUInt32
  | .aGlonassProtocol mAGlonassProtocl => .setAGLONASSProtocol mAGlonassProtocl
  | .suplMode => .setCapabilities gps_conf.getCarrierCapabilities

/-- The value among the members of a message. -/
def ConfigMsg.carried : ConfigMsg → Option UInt32
  | .suplVer mSuplVer => some mSuplVer.toUInt32
  | .lppConfig mLppConfig => some mLppConfig.toUInt32
  | .aGlonassProtocol mAGlonassProtocl => some mAGlonassProtocl
  | .suplMode => none

/-- The messages for the parameters that differ from the copy. -/
def changes (gps_conf_tmp gps_conf : GpsConf) : List ConfigMsg :=
  (if gps_conf_tmp.SUPL_VER ≠ gps_conf.SUPL_VER then
      [.suplVer gps_conf.SUPL_VER.toInt32] else []) ++
    (if gps_conf_tmp.LPP_PROFILE ≠ gps_conf.LPP_PROFILE then
      [.lppConfig gps_conf.LPP_PROFILE.toInt32] else []) ++
    (if gps_conf_tmp.A_GLONASS_POS_PROTOCOL_SELECT ≠ gps_conf.A_GLONASS_POS_PROTOCOL_SELECT then
      [.aGlonassProtocol gps_conf.A_GLONASS_POS_PROTOCOL_SELECT] else []) ++
    (if gps_conf_tmp.SUPL_MODE ≠ gps_conf.SUPL_MODE then [.suplMode] else [])

/-- A call of `loc_eng_configuration_update`: what `config_data` points to, unless it is
`NULL`, the length that comes with it, and whether memory for a copy of it can be allocated. -/
structure ConfigData where
  config_data : Option (List Char)
  length : Int32
  allocated : Bool

/-- The text that is parsed, if any is. -/
def ConfigData.text (data : ConfigData) : Option (List Char) :=
  match data.config_data with
  | none => none
  | some chars => if 0 < data.length then some (chars.take data.length.toNatClampNeg) else none

section

variable (atof : List Char → UInt64)

/-- `UTIL_UPDATE_CONF` with `gps_conf_table`. -/
def utilUpdateConf (conf_data : List Char) (allocated : Bool) (gps_conf : GpsConf) :
    Option GpsConf :=
  if allocated then
    GpsConf.ofState (locUpdateConf atof conf_data gpsConfTable.entries gps_conf.state).2
  else some gps_conf

/-- `gps_conf` afterwards, and the messages. -/
def locEngConfigurationUpdate (adapter : Bool) (data : ConfigData) (gps_conf : GpsConf) :
    Option (GpsConf × List ConfigMsg) :=
  match data.text with
  | none => some (gps_conf, [])
  | some conf_data => do
      let gps_conf_tmp := gps_conf
      let gps_conf ← utilUpdateConf atof conf_data data.allocated gps_conf
      let messages := if adapter then changes gps_conf_tmp gps_conf else []
      let gps_conf_tmp := { gps_conf_tmp with
        SUPL_VER := gps_conf.SUPL_VER
        LPP_PROFILE := gps_conf.LPP_PROFILE
        A_GLONASS_POS_PROTOCOL_SELECT := gps_conf.A_GLONASS_POS_PROTOCOL_SELECT
        SUPL_MODE := gps_conf.SUPL_MODE
        SUPL_ES := gps_conf.SUPL_ES
        GPS_LOCK := gps_conf.GPS_LOCK }
      some (gps_conf_tmp, messages)

end

/-- The parameters that the carrier decides about. -/
inductive CarrierParam
  | SUPL_VER
  | LPP_PROFILE
  | A_GLONASS_POS_PROTOCOL_SELECT
  | SUPL_MODE
  | SUPL_ES
  | GPS_LOCK
  deriving DecidableEq

namespace CarrierParam

def all : List CarrierParam :=
  [.SUPL_VER, .LPP_PROFILE, .A_GLONASS_POS_PROTOCOL_SELECT, .SUPL_MODE, .SUPL_ES, .GPS_LOCK]

def name : CarrierParam → String
  | .SUPL_VER => "SUPL_VER"
  | .LPP_PROFILE => "LPP_PROFILE"
  | .A_GLONASS_POS_PROTOCOL_SELECT => "A_GLONASS_POS_PROTOCOL_SELECT"
  | .SUPL_MODE => "SUPL_MODE"
  | .SUPL_ES => "SUPL_ES"
  | .GPS_LOCK => "GPS_LOCK"

def get (gps_conf : GpsConf) : CarrierParam → UInt32
  | .SUPL_VER => gps_conf.SUPL_VER
  | .LPP_PROFILE => gps_conf.LPP_PROFILE
  | .A_GLONASS_POS_PROTOCOL_SELECT => gps_conf.A_GLONASS_POS_PROTOCOL_SELECT
  | .SUPL_MODE => gps_conf.SUPL_MODE
  | .SUPL_ES => gps_conf.SUPL_ES
  | .GPS_LOCK => gps_conf.GPS_LOCK

/-- The entry of the table with the name. -/
def index (param : CarrierParam) : Nat :=
  gpsConfTable.entries.findIdx fun entry => entry.param_name = param.name.toList

/-- The message about a parameter, if there is one. -/
def message (value : UInt32) : CarrierParam → Option ConfigMsg
  | .SUPL_VER => some (.suplVer value.toInt32)
  | .LPP_PROFILE => some (.lppConfig value.toInt32)
  | .A_GLONASS_POS_PROTOCOL_SELECT => some (.aGlonassProtocol value)
  | .SUPL_MODE => some .suplMode
  | .SUPL_ES | .GPS_LOCK => none

end CarrierParam

/-- The assignments that `loc_update_conf` performs for a call. -/
def ConfigData.applied (atof : List Char → UInt64) (data : ConfigData) :
    List (Nat × ParamValue) :=
  match data.text with
  | none => []
  | some conf_data => if data.allocated then gpsConfTable.applied atof conf_data else []

/-- The value that a text assigns to a parameter, if one is applied. -/
def ConfigData.appliedTo (atof : List Char → UInt64) (data : ConfigData) (param : CarrierParam) :
    Option UInt32 :=
  (Assignments.last (data.applied atof) param.index).bind numberMember

/-- What is kept of an update: the members of `before` except those of the carrier. -/
def GpsConf.restored (before gps_conf : GpsConf) : GpsConf :=
  { before with
    SUPL_VER := gps_conf.SUPL_VER
    LPP_PROFILE := gps_conf.LPP_PROFILE
    A_GLONASS_POS_PROTOCOL_SELECT := gps_conf.A_GLONASS_POS_PROTOCOL_SELECT
    SUPL_MODE := gps_conf.SUPL_MODE
    SUPL_ES := gps_conf.SUPL_ES
    GPS_LOCK := gps_conf.GPS_LOCK }

/-- The message about a parameter that has changed. -/
def CarrierParam.announced (before gps_conf : GpsConf) (param : CarrierParam) : Option ConfigMsg :=
  if param.get before ≠ param.get gps_conf then param.message (param.get gps_conf) else none

section Update

variable {atof : List Char → UInt64}

theorem changes_eq (before gps_conf : GpsConf) :
    changes before gps_conf =
      CarrierParam.all.filterMap (CarrierParam.announced before gps_conf) := by
  have hnone : ∀ param : CarrierParam, param.message (param.get gps_conf) = none →
      param.announced before gps_conf = none := by
    intro param hmessage
    rw [CarrierParam.announced, hmessage, ite_self]
  have hone : ∀ (param : CarrierParam) (msg : ConfigMsg) (rest : List CarrierParam),
      param.message (param.get gps_conf) = some msg →
      (param :: rest).filterMap (CarrierParam.announced before gps_conf) =
        (if param.get before ≠ param.get gps_conf then [msg] else []) ++
          rest.filterMap (CarrierParam.announced before gps_conf) := by
    intro param msg rest hmessage
    rw [List.filterMap_cons, CarrierParam.announced, hmessage]
    split
    next hsame =>
      split at hsame
      next => cases hsame
      next heq => rw [if_neg heq, List.nil_append]
    next other hother =>
      split at hother
      next hne =>
        cases hother
        rw [if_pos hne, List.singleton_append]
      next => cases hother
  rw [CarrierParam.all, hone .SUPL_VER _ _ rfl, hone .LPP_PROFILE _ _ rfl,
    hone .A_GLONASS_POS_PROTOCOL_SELECT _ _ rfl, hone .SUPL_MODE _ _ rfl,
    List.filterMap_cons_none (hnone .SUPL_ES rfl), List.filterMap_cons_none (hnone .GPS_LOCK rfl),
    List.filterMap_nil, List.append_nil]
  rw [changes, List.append_assoc, List.append_assoc]
  rfl

/-- A number that is stored for a member, or the one that was there. -/
theorem numberMember_perform {gps_conf : GpsConf} {conf_data : List Char} {i : Nat} {old : UInt32}
    (htype : ∀ entry, gpsConfTable.entries[i]? = some entry → entry.param_type = 'n')
    (hold : numberMember (gps_conf.state.param i) = some old) :
    numberMember ((gpsConfTable.perform (gpsConfTable.applied atof conf_data)
        gps_conf.state).param i) =
      some (((Assignments.last (gpsConfTable.applied atof conf_data) i).bind
        numberMember).getD old) := by
  rw [ConfTable.perform_param, Assignments.perform_apply]
  cases hlast : Assignments.last (gpsConfTable.applied atof conf_data) i with
  | none => rw [Option.getD_none, hold, Option.bind_none, Option.getD_none]
  | some value =>
      obtain ⟨entry, config_value, hentry, hstored⟩ := ConfTable.stored_of_last hlast
      obtain ⟨number, rfl⟩ := ConfTable.number_of_stored (htype entry hentry) hstored
      rfl

/-- A string that is stored fits its array. -/
theorem stringMember_perform {gps_conf : GpsConf} {conf_data : List Char} {i : Nat}
    {old : XtraServerUrl}
    (htype : ∀ entry, gpsConfTable.entries[i]? = some entry → entry.param_type = 's')
    (hold : gps_conf.state.param i = .string old.chars) :
    ∃ url, stringMember ((gpsConfTable.perform (gpsConfTable.applied atof conf_data)
      gps_conf.state).param i) = some url := by
  have hfits : ∀ chars : List Char, chars.length < maxXtraServerUrlLength →
      ∃ url, stringMember (.string chars) = some url := by
    intro chars hchars
    exact ⟨⟨chars, hchars⟩, dif_pos hchars⟩
  rw [ConfTable.perform_param, Assignments.perform_apply]
  cases hlast : Assignments.last (gpsConfTable.applied atof conf_data) i with
  | none =>
      rw [Option.getD_none, hold]
      exact hfits _ old.fits
  | some value =>
      obtain ⟨entry, config_value, hentry, hstored⟩ := ConfTable.stored_of_last hlast
      obtain ⟨chars, rfl, hlength⟩ := ConfTable.string_of_stored (htype entry hentry) hstored
      exact hfits chars (Nat.lt_of_le_of_lt hlength (by decide))

/-- Everything that a text assigns stays within the members, and so do the parameters that are
not assigned. -/
theorem ofState_perform (atof : List Char → UInt64) (gps_conf : GpsConf) (conf_data : List Char) :
    ∃ updated, GpsConf.ofState (gpsConfTable.perform (gpsConfTable.applied atof conf_data)
        gps_conf.state) = some updated ∧
      ∀ param : CarrierParam, param.get updated =
        ((Assignments.last (gpsConfTable.applied atof conf_data) param.index).bind
          numberMember).getD (param.get gps_conf) := by
  have hnumber : ∀ (i : Nat) (entry : ConfEntry) (old : UInt32),
      gpsConfTable.entries[i]? = some entry → entry.param_type = 'n' →
      gps_conf.state.param i = .number old.toInt32 →
      numberMember ((gpsConfTable.perform (gpsConfTable.applied atof conf_data)
          gps_conf.state).param i) =
        some (((Assignments.last (gpsConfTable.applied atof conf_data) i).bind
          numberMember).getD old) := by
    intro i entry old hentry htype hold
    refine numberMember_perform (fun other hother => ?_) ?_
    · rw [hentry] at hother
      cases hother
      exact htype
    · rw [hold]
      rfl
  have hstring : ∀ (i : Nat) (entry : ConfEntry) (old : XtraServerUrl),
      gpsConfTable.entries[i]? = some entry → entry.param_type = 's' →
      gps_conf.state.param i = .string old.chars →
      ∃ url, stringMember ((gpsConfTable.perform (gpsConfTable.applied atof conf_data)
        gps_conf.state).param i) = some url := by
    intro i entry old hentry htype hold
    refine stringMember_perform (fun other hother => ?_) hold
    rw [hentry] at hother
    cases hother
    exact htype
  -- the members in the order of the table
  obtain ⟨first, hfirst⟩ := hstring 12 _ gps_conf.XTRA_SERVER_1 rfl rfl rfl
  obtain ⟨second, hsecond⟩ := hstring 13 _ gps_conf.XTRA_SERVER_2 rfl rfl rfl
  obtain ⟨third, hthird⟩ := hstring 14 _ gps_conf.XTRA_SERVER_3 rfl rfl rfl
  rw [GpsConf.ofState, hnumber 0 _ gps_conf.GPS_LOCK rfl rfl rfl,
    hnumber 1 _ gps_conf.SUPL_VER rfl rfl rfl, hnumber 2 _ gps_conf.LPP_PROFILE rfl rfl rfl,
    hnumber 3 _ gps_conf.A_GLONASS_POS_PROTOCOL_SELECT rfl rfl rfl,
    hnumber 4 _ gps_conf.AGPS_CERT_WRITABLE_MASK rfl rfl rfl,
    hnumber 5 _ gps_conf.SUPL_MODE rfl rfl rfl, hnumber 6 _ gps_conf.SUPL_ES rfl rfl rfl,
    hnumber 7 _ gps_conf.INTERMEDIATE_POS rfl rfl rfl,
    hnumber 8 _ gps_conf.ACCURACY_THRES rfl rfl rfl,
    hnumber 9 _ gps_conf.NMEA_PROVIDER rfl rfl rfl,
    hnumber 10 _ gps_conf.CAPABILITIES rfl rfl rfl,
    hnumber 11 _ gps_conf.XTRA_VERSION_CHECK rfl rfl rfl, hfirst, hsecond, hthird,
    hnumber 15 _ gps_conf.USE_EMERGENCY_PDN_FOR_EMERGENCY_SUPL rfl rfl rfl]
  refine ⟨_, rfl, fun param => ?_⟩
  cases param with
  | SUPL_VER | LPP_PROFILE | A_GLONASS_POS_PROTOCOL_SELECT | SUPL_MODE | SUPL_ES | GPS_LOCK => rfl

theorem utilUpdateConf_some (atof : List Char → UInt64) (gps_conf : GpsConf)
    {data : ConfigData} {conf_data : List Char} (htext : data.text = some conf_data) :
    ∃ updated, utilUpdateConf atof conf_data data.allocated gps_conf = some updated ∧
      ∀ param : CarrierParam, param.get updated =
        (data.appliedTo atof param).getD (param.get gps_conf) := by
  have happlied : data.applied atof =
      if data.allocated then gpsConfTable.applied atof conf_data else [] := by
    rw [ConfigData.applied, htext]
  rw [utilUpdateConf]
  split
  next hallocated =>
    obtain ⟨updated, hupdated, hget⟩ := ofState_perform atof gps_conf conf_data
    rw [if_pos hallocated] at happlied
    have hentries : gpsConfTable.entries ≠ [] := List.cons_ne_nil _ _
    refine ⟨updated, ?_, fun param => ?_⟩
    · rw [ConfTable.locUpdateConf_state hentries]
      exact hupdated
    · rw [ConfigData.appliedTo, happlied]
      exact hget param
  next hallocated =>
    rw [if_neg hallocated] at happlied
    refine ⟨gps_conf, rfl, fun param => ?_⟩
    rw [ConfigData.appliedTo, happlied]
    rfl

/-- The message about a parameter other than the mode carries its value, and the one about the
mode passes on what `gps_conf` is when it is processed. -/
theorem carried_of_message {param : CarrierParam} {value : UInt32} {msg : ConfigMsg}
    (hmessage : param.message value = some msg) :
    (param ≠ .SUPL_MODE → msg.carried = some value) ∧
      (param = .SUPL_MODE → msg.carried = none ∧
        ∀ later : GpsConf, msg.proc later = .setCapabilities later.getCarrierCapabilities) := by
  cases param with
  | SUPL_VER | LPP_PROFILE | A_GLONASS_POS_PROTOCOL_SELECT =>
      cases hmessage
      exact ⟨fun _ => rfl, fun hmode => by cases hmode⟩
  | SUPL_MODE =>
      -- the message reads `gps_conf` when it is processed
      cases hmessage
      exact ⟨fun hother => absurd rfl hother, fun _ => ⟨rfl, fun _ => rfl⟩⟩
  | SUPL_ES | GPS_LOCK => cases hmessage

/-- Only the parameters of the carrier may differ, as the text assigns them, and each one of
them that is announced and has changed is announced once, in order. -/
structure UpdatesCarrier (atof : List Char → UInt64) (adapter : Bool) (data : ConfigData)
    (before after : GpsConf) (messages : List ConfigMsg) : Prop where
  restored : after = before.restored after
  value : ∀ param : CarrierParam,
    param.get after = (data.appliedTo atof param).getD (param.get before)
  messages_eq : messages =
    if adapter then CarrierParam.all.filterMap (CarrierParam.announced before after) else []
  carried : ∀ (param : CarrierParam) (msg : ConfigMsg),
    param.announced before after = some msg → param ≠ .SUPL_MODE →
      msg.carried = some (param.get after)
  mode : ∀ msg : ConfigMsg, CarrierParam.announced before after .SUPL_MODE = some msg →
    msg.carried = none ∧
      ∀ later : GpsConf, msg.proc later = .setCapabilities later.getCarrierCapabilities

theorem message_of_announced {before after : GpsConf} {param : CarrierParam} {msg : ConfigMsg}
    (hannounced : param.announced before after = some msg) :
    param.message (param.get after) = some msg := by
  rw [CarrierParam.announced] at hannounced
  split at hannounced
  next => exact hannounced
  next => cases hannounced

/-- What is restored is not announced. -/
theorem announced_restored (before updated : GpsConf) :
    CarrierParam.announced before (before.restored updated) =
      CarrierParam.announced before updated := by
  funext param
  cases param with
  | SUPL_VER | LPP_PROFILE | A_GLONASS_POS_PROTOCOL_SELECT | SUPL_MODE | SUPL_ES | GPS_LOCK => rfl

theorem updatesCarrier_of_text {data : ConfigData} {conf_data : List Char}
    (htext : data.text = some conf_data) (adapter : Bool) (gps_conf : GpsConf) :
    ∃ after messages,
      locEngConfigurationUpdate atof adapter data gps_conf = some (after, messages) ∧
        UpdatesCarrier atof adapter data gps_conf after messages := by
  obtain ⟨updated, hupdated, hget⟩ := utilUpdateConf_some atof gps_conf htext
  refine ⟨gps_conf.restored updated, if adapter then changes gps_conf updated else [], ?_, ?_⟩
  · rw [locEngConfigurationUpdate, htext]
    simp only [hupdated, Option.bind_eq_bind, Option.bind_some]
    rfl
  · refine ⟨rfl, fun param => ?_, ?_, fun param msg hannounced => ?_, fun msg hannounced => ?_⟩
    · rw [← hget param]
      cases param with
      | SUPL_VER | LPP_PROFILE | A_GLONASS_POS_PROTOCOL_SELECT | SUPL_MODE | SUPL_ES
      | GPS_LOCK => rfl
    · rw [announced_restored, changes_eq]
    · exact (carried_of_message (message_of_announced hannounced)).1
    · exact (carried_of_message (message_of_announced hannounced)).2 rfl

/-- Without a text nothing is changed and nothing is sent. -/
theorem updatesCarrier_of_none {data : ConfigData} (htext : data.text = none) (adapter : Bool)
    (gps_conf : GpsConf) : UpdatesCarrier atof adapter data gps_conf gps_conf [] := by
  have happlied : data.applied atof = [] := by
    rw [ConfigData.applied, htext]
  have hannounced : CarrierParam.announced gps_conf gps_conf = fun _ => none := by
    funext param
    exact if_neg fun hne => hne rfl
  refine ⟨rfl, fun param => ?_, ?_, fun param msg hmsg => ?_, fun msg hmsg => ?_⟩
  · rw [ConfigData.appliedTo, happlied]
    rfl
  · rw [hannounced, List.filterMap_none, ite_self]
  · rw [hannounced] at hmsg
    cases hmsg
  · rw [hannounced] at hmsg
    cases hmsg

/-- Every call of `loc_eng_configuration_update` does so. -/
theorem updatesCarrier (atof : List Char → UInt64) (adapter : Bool) (data : ConfigData)
    (gps_conf : GpsConf) :
    ∃ after messages,
      locEngConfigurationUpdate atof adapter data gps_conf = some (after, messages) ∧
        UpdatesCarrier atof adapter data gps_conf after messages := by
  cases htext : data.text with
  | none =>
      refine ⟨gps_conf, [], ?_, updatesCarrier_of_none htext adapter gps_conf⟩
      rw [locEngConfigurationUpdate, htext]
  | some conf_data => exact updatesCarrier_of_text htext adapter gps_conf

/-- Before the first update. -/
def carrierDefaults : GpsConf where
  INTERMEDIATE_POS := 0
  ACCURACY_THRES := 0
  SUPL_VER := 0x10000
  SUPL_MODE := 0x3
  SUPL_ES := 0
  CAPABILITIES := 0x7
  LPP_PROFILE := 0
  XTRA_VERSION_CHECK := 0
  XTRA_SERVER_1 := ⟨[], by decide⟩
  XTRA_SERVER_2 := ⟨[], by decide⟩
  XTRA_SERVER_3 := ⟨[], by decide⟩
  USE_EMERGENCY_PDN_FOR_EMERGENCY_SUPL := 1
  NMEA_PROVIDER := 0
  GPS_LOCK := 0
  A_GLONASS_POS_PROTOCOL_SELECT := 0
  AGPS_CERT_WRITABLE_MASK := 0

/-- A text that turns off one of the two modes. -/
def suplModeText : ConfigData where
  config_data := some "SUPL_MODE=1".toList
  length := 11
  allocated := true

/-- The mode changes, and no message carries its new value. -/
theorem suplMode_not_carried :
    ¬ ∀ (atof : List Char → UInt64) (adapter : Bool) (data : ConfigData) (before after : GpsConf)
      (messages : List ConfigMsg),
      locEngConfigurationUpdate atof adapter data before = some (after, messages) →
        adapter = true → before.SUPL_MODE ≠ after.SUPL_MODE →
          ∃ msg ∈ messages, msg.carried = some after.SUPL_MODE := by
  intro hcarried
  have hrun : (locEngConfigurationUpdate (fun _ => 0) true suplModeText carrierDefaults).map
      (fun result => (result.1.SUPL_MODE, result.2)) = some (1, [.suplMode]) := by decide
  obtain ⟨⟨after, messages⟩, hresult, hvalues⟩ := Option.map_eq_some_iff.mp hrun
  obtain ⟨hmode, hmessages⟩ := Prod.ext_iff.mp hvalues
  change after.SUPL_MODE = 1 at hmode
  change messages = [.suplMode] at hmessages
  have hchanged : carrierDefaults.SUPL_MODE ≠ after.SUPL_MODE := by
    rw [hmode]
    decide
  obtain ⟨msg, hmsg, hvalue⟩ := hcarried _ _ _ _ _ _ hresult rfl hchanged
  rw [hmessages, List.mem_singleton] at hmsg
  rw [hmsg] at hvalue
  cases hvalue

end Update

end Serrano.LocEng
