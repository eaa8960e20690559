import Serrano.Foundation.DecimalText
import Serrano.Foundation.Transition
import Serrano.LocEng.ConfigurationUpdate

/-! # What the modem is told about the configuration

The interface functions change `gps_conf`, `agpsStatus` and the address buffers, and
send messages. The message thread processes the messages in order and calls the
modem, which forgets everything when it restarts and then makes the engine tell it
again. A call of an interface function is one step, and so is the handler of a
message, although two threads share `gps_conf` without a lock: a handler that reads
it while a function is changing it is not modelled.
-/

namespace Serrano.LocEng.ModemConfig

/-! ## The configuration -/

/-- `loc_sap_cfg_s_type`. A `double` is given by its bits. -/
structure SapConf where
  GYRO_BIAS_RANDOM_WALK_VALID : UInt8
  GYRO_BIAS_RANDOM_WALK : UInt64
  SENSOR_ACCEL_BATCHES_PER_SEC : UInt32
  SENSOR_ACCEL_SAMPLES_PER_BATCH : UInt32
  SENSOR_GYRO_BATCHES_PER_SEC : UInt32
  SENSOR_GYRO_SAMPLES_PER_BATCH : UInt32
  SENSOR_ACCEL_BATCHES_PER_SEC_HIGH : UInt32
  SENSOR_ACCEL_SAMPLES_PER_BATCH_HIGH : UInt32
  SENSOR_GYRO_BATCHES_PER_SEC_HIGH : UInt32
  SENSOR_GYRO_SAMPLES_PER_BATCH_HIGH : UInt32
  SENSOR_CONTROL_MODE : UInt32
  SENSOR_USAGE : UInt32
  SENSOR_ALGORITHM_CONFIG_MASK : UInt32
  ACCEL_RANDOM_WALK_SPECTRAL_DENSITY_VALID : UInt8
  ACCEL_RANDOM_WALK_SPECTRAL_DENSITY : UInt64
  ANGLE_RANDOM_WALK_SPECTRAL_DENSITY_VALID : UInt8
  ANGLE_RANDOM_WALK_SPECTRAL_DENSITY : UInt64
  RATE_RANDOM_WALK_SPECTRAL_DENSITY_VALID : UInt8
  RATE_RANDOM_WALK_SPECTRAL_DENSITY : UInt64
  VELOCITY_RANDOM_WALK_SPECTRAL_DENSITY_VALID : UInt8
  VELOCITY_RANDOM_WALK_SPECTRAL_DENSITY : UInt64
  SENSOR_PROVIDER : UInt32

/-- The arguments of `setSensorProperties`: whether each density is valid, and the
`float` it is converted to. -/
structure SensorProperties where
  gyroBiasVarianceRandomWalk : Bool × UInt32
  accelRandomWalk : Bool × UInt32
  angleRandomWalk : Bool × UInt32
  rateRandomWalk : Bool × UInt32
  velocityRandomWalk : Bool × UInt32
  deriving DecidableEq

/-- The arguments of `setSensorPerfControlConfig`. -/
structure SensorPerfControl where
  controlMode : Int32
  accelSamplesPerBatch : Int32
  accelBatchesPerSec : Int32
  gyroSamplesPerBatch : Int32
  gyroBatchesPerSec : Int32
  accelSamplesPerBatchHigh : Int32
  accelBatchesPerSecHigh : Int32
  gyroSamplesPerBatchHigh : Int32
  gyroBatchesPerSecHigh : Int32
  algorithmConfig : Int32
  deriving DecidableEq

namespace SapConf

variable (sap_conf : SapConf)

/-- Whether one of the sensor properties is specified. -/
def anyValid : Bool :=
  sap_conf.GYRO_BIAS_RANDOM_WALK_VALID != 0 ||
    sap_conf.ACCEL_RANDOM_WALK_SPECTRAL_DENSITY_VALID != 0 ||
    sap_conf.ANGLE_RANDOM_WALK_SPECTRAL_DENSITY_VALID != 0 ||
    sap_conf.RATE_RANDOM_WALK_SPECTRAL_DENSITY_VALID != 0 ||
    sap_conf.VELOCITY_RANDOM_WALK_SPECTRAL_DENSITY_VALID != 0

/-- `narrow` converts a `double` to a `float`. -/
def sensorProperties (narrow : UInt64 → UInt32) : SensorProperties where
  gyroBiasVarianceRandomWalk :=
    (sap_conf.GYRO_BIAS_RANDOM_WALK_VALID != 0, narrow sap_conf.GYRO_BIAS_RANDOM_WALK)
  accelRandomWalk :=
    (sap_conf.ACCEL_RANDOM_WALK_SPECTRAL_DENSITY_VALID != 0,
      narrow sap_conf.ACCEL_RANDOM_WALK_SPECTRAL_DENSITY)
  angleRandomWalk :=
    (sap_conf.ANGLE_RANDOM_WALK_SPECTRAL_DENSITY_VALID != 0,
      narrow sap_conf.ANGLE_RANDOM_WALK_SPECTRAL_DENSITY)
  rateRandomWalk :=
    (sap_conf.RATE_RANDOM_WALK_SPECTRAL_DENSITY_VALID != 0,
      narrow sap_conf.RATE_RANDOM_WALK_SPECTRAL_DENSITY)
  velocityRandomWalk :=
    (sap_conf.VELOCITY_RANDOM_WALK_SPECTRAL_DENSITY_VALID != 0,
      narrow sap_conf.VELOCITY_RANDOM_WALK_SPECTRAL_DENSITY)

def sensorControl : Int32 × Int32 :=
  (sap_conf.SENSOR_USAGE.toInt32, sap_conf.SENSOR_PROVIDER.toInt32)

def sensorPerfControl : SensorPerfControl where
  controlMode := sap_conf.SENSOR_CONTROL_MODE.toInt32
  accelSamplesPerBatch := sap_conf.SENSOR_ACCEL_SAMPLES_PER_BATCH.toInt32
  accelBatchesPerSec := sap_conf.SENSOR_ACCEL_BATCHES_PER_SEC.toInt32
  gyroSamplesPerBatch := sap_conf.SENSOR_GYRO_SAMPLES_PER_BATCH.toInt32
  gyroBatchesPerSec := sap_conf.SENSOR_GYRO_BATCHES_PER_SEC.toInt32
  accelSamplesPerBatchHigh := sap_conf.SENSOR_ACCEL_SAMPLES_PER_BATCH_HIGH.toInt32
  accelBatchesPerSecHigh := sap_conf.SENSOR_ACCEL_BATCHES_PER_SEC_HIGH.toInt32
  gyroSamplesPerBatchHigh := sap_conf.SENSOR_GYRO_SAMPLES_PER_BATCH_HIGH.toInt32
  gyroBatchesPerSecHigh := sap_conf.SENSOR_GYRO_BATCHES_PER_SEC_HIGH.toInt32
  algorithmConfig := sap_conf.SENSOR_ALGORITHM_CONFIG_MASK.toInt32

end SapConf

inductive GnssTarget
  | none
  | msm
  | gss
  | mdm
  | qca1530
  | auto
  | unknown
  deriving DecidableEq

def gpsCapabilityMsb : UInt32 := 0x0000002
def gpsCapabilityMsa : UInt32 := 0x0000004
def gpsCapabilityMeasurements : UInt32 := 0x0000040

/-- The targets that position by themselves only. -/
def GnssTarget.standalone : GnssTarget → Bool
  | gss | auto | qca1530 => true
  | none | msm | mdm | unknown => false

/-- What the switches over `sGnssType` do to the capabilities. -/
def GnssTarget.mask (sGnssType : GnssTarget) (gps_conf : GpsConf) : GpsConf :=
  if sGnssType.standalone then
    { gps_conf with
      CAPABILITIES := gps_conf.CAPABILITIES &&& ~~~(gpsCapabilityMsa ||| gpsCapabilityMsb) }
  else gps_conf

/-- `get_gps_interface`: the configuration afterwards, unless there is no hardware. -/
def getGpsInterface (sGnssType : GnssTarget) (gps_conf : GpsConf) : Option GpsConf :=
  if sGnssType = .none then .none else some (sGnssType.mask gps_conf)

/-! ## Messages and the modem -/

inductive LocServerType
  | cdmaPde
  | customPde
  | mpc
  | supl
  deriving DecidableEq

/-- `xtra_version_check` -/
inductive XtraVersionCheck
  | disabled
  | auto
  | xtra2
  | xtra3
  deriving DecidableEq

/-- What `LocEngAdapter::setXtraVersionCheck` hands on. -/
def setXtraVersionCheck (check : Int32) : XtraVersionCheck :=
  if check = 0 then .disabled
  else if check = 1 then .auto
  else if check = 2 then .xtra2
  else if check = 3 then .xtra3
  else .disabled

inductive Msg
  | init
  | engineUp
  | setCapabilities
  | gnssConstellationConfig
  | config (msg : ConfigMsg)
  | sensorControlConfig (config : Int32 × Int32)
  | sensorProperties (properties : SensorProperties)
  | sensorPerfControlConfig (config : SensorPerfControl)
  | enableData (apn : Option (List Char)) (enable : Int32)
  | setXtraVersionCheck (check : Int32)
  | setServerUrl (url : List Char)
  | setServerIpv4 (ip : UInt32) (port : Int32) (type : LocServerType)

/-- What the modem was last told since it started. -/
structure Modem where
  suplVersion : Option UInt32
  lppConfig : Option UInt32
  aGlonassProtocol : Option UInt32
  sensorControl : Option (Int32 × Int32)
  sensorProperties : Option SensorProperties
  sensorPerfControl : Option SensorPerfControl
  enableData : Option Int32
  apn : Option (List Char)
  xtraVersionCheck : Option XtraVersionCheck
  serverUrl : Option (List Char)
  serverIpv4 : LocServerType → Option (UInt32 × Int32)

def Modem.started : Modem :=
  ⟨none, none, none, none, none, none, none, none, none, none, fun _ => none⟩

/-- What the modem makes of a message. The ULP proxy is told about the mode. -/
def Modem.told (m : Modem) : Msg → Modem
  | .config (.suplVer mSuplVer) => { m with suplVersion := some mSuplVer.toUInt32 }
  | .config (.lppConfig mLppConfig) => { m with lppConfig := some mLppConfig.toUInt32 }
  | .config (.aGlonassProtocol protocol) => { m with aGlonassProtocol := some protocol }
  | .config .suplMode => m
  | .sensorControlConfig config => { m with sensorControl := some config }
  | .sensorProperties properties => { m with sensorProperties := some properties }
  | .sensorPerfControlConfig config => { m with sensorPerfControl := some config }
  | .enableData none enable => { m with enableData := some enable }
  | .enableData (some apn) enable => { m with enableData := some enable, apn := some apn }
  | .setXtraVersionCheck check =>
      { m with xtraVersionCheck := some (setXtraVersionCheck check) }
  | .setServerUrl url => { m with serverUrl := some url }
  | .setServerIpv4 ip port type =>
      { m with serverIpv4 := fun other =>
          if other = type then some (ip, port) else m.serverIpv4 other }
  | .init | .engineUp | .setCapabilities | .gnssConstellationConfig => m

/-! ## The engine -/

/-- The members of `loc_eng_data_s_type` and the globals that the messages come
from. An address buffer holds nothing until it is set. `told` has the capabilities
that the framework was told, the latest first. -/
structure Hal where
  gps_conf : GpsConf
  agpsStatus : UInt32
  adapter : Bool
  agps_status_cb : Bool
  supl_host : Option (List Char × Int32)
  c2k_host : Option (List Char × Int32)
  queue : List Msg
  modem : Option Modem
  told : List UInt32

def maxUrlLen : Nat := 256
def maxApnLen : Nat := 100
def hostBufSize : Nat := 101

/-- `strncasecmp` with `"NONE"` and its terminator. -/
def isNone (hostname : List Char) : Bool := hostname.map Char.toLower = "none".toList

/-- The text that `snprintf` makes of a server. -/
def serverUrl (hostname : List Char) (port : Int32) : List Char :=
  hostname ++ ':' :: DecimalText.digits port.toUInt32.toNat

/-- `loc_eng_set_server`. `resolved` is the address that the host resolves to. -/
def locEngSetServer (type : LocServerType) (hostname : List Char) (port : Int32)
    (resolved : Option UInt32) : List Msg :=
  match type with
  | .supl =>
      if isNone hostname then [.setServerUrl []]
      else if (serverUrl hostname port).length < maxUrlLen then
        [.setServerUrl (serverUrl hostname port)]
      else []
  | .cdmaPde | .customPde | .mpc =>
      match resolved with
      | some ip => [.setServerIpv4 ip port type]
      | none => []

section Engine

variable (narrow : UInt64 → UInt32) (sap_conf : SapConf)

/-- The messages of `loc_eng_reinit`. -/
def locEngReinit (gps_conf : GpsConf) (agpsStatus : UInt32) : List Msg :=
  [.gnssConstellationConfig, .config (.suplVer gps_conf.SUPL_VER.toInt32),
    .config (.lppConfig gps_conf.LPP_PROFILE.toInt32),
    .sensorControlConfig sap_conf.sensorControl,
    .config (.aGlonassProtocol gps_conf.A_GLONASS_POS_PROTOCOL_SELECT)] ++
  (if sap_conf.anyValid then [.sensorProperties (sap_conf.sensorProperties narrow)] else []) ++
  [.sensorPerfControlConfig sap_conf.sensorPerfControl,
    .enableData none (if agpsStatus ≠ 0 then 1 else 0),
    .setXtraVersionCheck gps_conf.XTRA_VERSION_CHECK.toInt32]

namespace Hal

variable (s : Hal)

def send (msgs : List Msg) : Hal := { s with queue := s.queue ++ msgs }

/-- The messages of `loc_eng_agps_reinit`. -/
def agpsReinit (resolved : Option UInt32) : List Msg :=
  (match s.supl_host with
    | some (hostname, port) => locEngSetServer .supl hostname port resolved
    | none => []) ++
  match s.c2k_host with
  | some (hostname, port) => locEngSetServer .cdmaPde hostname port resolved
  | none => []

/-- `loc_eng_init`, which clears the whole structure first. `valid` tells whether
there are callbacks. -/
def locEngInit (valid : Bool) : Hal :=
  if !valid then s
  else if s.adapter then s
  else
    { s with
      adapter := true
      agps_status_cb := false
      supl_host := none
      c2k_host := none
      queue := s.queue ++ [.init] }

/-- `loc_eng_agps_init`; the callbacks are `NULL` or hold a status callback or not. -/
def locEngAgpsInit (callbacks : Option Bool) (resolved : Option UInt32) : Hal :=
  if !s.adapter then s
  else if s.agps_status_cb then s
  else
    match callbacks with
    | none => s
    | some status_cb =>
        let s := { s with agps_status_cb := status_cb }
        if s.gps_conf.CAPABILITIES &&& gpsCapabilityMsa ≠ 0 ∨
            s.gps_conf.CAPABILITIES &&& gpsCapabilityMsb ≠ 0 then
          s.send (s.agpsReinit resolved)
        else s

/-- `strlcpy` into an address buffer. -/
def buffer (hostname : List Char) (port : Int32) : Option (List Char × Int32) :=
  some (hostname.take (hostBufSize - 1), port)

/-- `loc_eng_set_server_proxy` -/
def locEngSetServerProxy (type : LocServerType) (hostname : List Char) (port : Int32)
    (resolved : Option UInt32) : Hal :=
  let s := match type with
    | .supl => { s with supl_host := buffer hostname port }
    | .cdmaPde => { s with c2k_host := buffer hostname port }
    | .customPde | .mpc => s
  if s.adapter then s.send (locEngSetServer type hostname port resolved) else s

/-- `loc_eng_agps_ril_update_network_availability` -/
def updateNetworkAvailability (available : Int32) (apn : Option (List Char)) : Hal :=
  let s := { s with agpsStatus := available.toUInt32 }
  if !s.adapter then s
  else
    match apn with
    | some apn => s.send [.enableData (some (apn.take maxApnLen)) available]
    | none => s

/-- `loc_configuration_update` -/
def configurationUpdate (atof : List Char → UInt64) (sGnssType : GnssTarget) (data : ConfigData) :
    Option Hal := do
  let (gps_conf, messages) ← locEngConfigurationUpdate atof s.adapter data s.gps_conf
  some ({ s with gps_conf := sGnssType.mask gps_conf }.send (messages.map .config))

/-- What `proc` of a message does beside the call of the modem. `measurements` is
the modem's answer about the constellation. -/
def handle (measurements : Bool) (resolved : Option UInt32) : Msg → Hal
  | .init => s.send (locEngReinit narrow sap_conf s.gps_conf s.agpsStatus ++ [.setCapabilities])
  | .engineUp =>
      s.send (locEngReinit narrow sap_conf s.gps_conf s.agpsStatus ++
        if s.agps_status_cb then s.agpsReinit resolved else [])
  | .setCapabilities => { s with told := s.gps_conf.CAPABILITIES :: s.told }
  | .gnssConstellationConfig =>
      if measurements then
        { s with gps_conf := { s.gps_conf with
            CAPABILITIES := s.gps_conf.CAPABILITIES ||| gpsCapabilityMeasurements } }
      else s
  | _ => s

/-- The message thread takes the first message. -/
def process (measurements : Bool) (resolved : Option UInt32) : Option Hal :=
  match s.queue with
  | [] => none
  | msg :: rest =>
      some ({ s with queue := rest, modem := s.modem.map (Modem.told · msg) }.handle narrow sap_conf
        measurements resolved msg)

end Hal

/-- A call of the framework, a step of the message thread, or a fate of the modem. -/
inductive Action
  | init (valid : Bool)
  | agpsInit (callbacks : Option Bool) (resolved : Option UInt32)
  | setServer (type : LocServerType) (hostname : List Char) (port : Int32)
      (resolved : Option UInt32)
  | updateNetworkAvailability (available : Int32) (apn : Option (List Char))
  | configurationUpdate (data : ConfigData)
  | process (measurements : Bool) (resolved : Option UInt32)
  | modemDown
  | modemUp

def Hal.step (atof : List Char → UInt64) (sGnssType : GnssTarget) (s : Hal) :
    Action → Option Hal
  | .init valid => some (s.locEngInit valid)
  | .agpsInit callbacks resolved => some (s.locEngAgpsInit callbacks resolved)
  | .setServer type hostname port resolved =>
      some (s.locEngSetServerProxy type hostname port resolved)
  | .updateNetworkAvailability available apn => some (s.updateNetworkAvailability available apn)
  | .configurationUpdate data => s.configurationUpdate atof sGnssType data
  | .process measurements resolved => s.process narrow sap_conf measurements resolved
  | .modemDown => some { s with modem := none }
  | .modemUp =>
      if s.modem.isNone then
        some { s with
          modem := some .started
          queue := s.queue ++ if s.adapter then [.engineUp] else [] }
      else none

/-- Nothing is initialised, and the configuration files are read. -/
def initial (gps_conf : GpsConf) (modem : Option Modem) : Hal where
  gps_conf := gps_conf
  agpsStatus := 0
  adapter := false
  agps_status_cb := false
  supl_host := none
  c2k_host := none
  queue := []
  modem := modem
  told := []

def system (atof : List Char → UInt64) (sGnssType : GnssTarget) (gps_conf : GpsConf)
    (modem : Option Modem) : Transition.System Hal Action where
  init := initial gps_conf modem
  step := Hal.step narrow sap_conf atof sGnssType

end Engine

end Serrano.LocEng.ModemConfig
