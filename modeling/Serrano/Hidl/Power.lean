import Mathlib.Logic.Function.Basic

/-! # Power profiles

The profiles of the governor are in a table, and the current one is an index into it that
is -1 before one is selected. Every index that is used for the table is recorded. What is
read with an index outside of the table is whatever the memory holds there.
-/

namespace Serrano.Hidl

/-- `power_profile` -/
structure PowerProfile where
  boost : Int
  boostpulse_duration : Int
  go_hispeed_load : Int
  go_hispeed_load_off : Int
  hispeed_freq : Int
  hispeed_freq_off : Int
  timer_rate : Int
  timer_rate_off : Int
  above_hispeed_delay : String
  io_is_busy : Int
  min_sample_time : Int
  max_freq_hysteresis : Int
  target_loads : String
  target_loads_off : String
  limited_min_freq : Int
  limited_max_freq : Int

def powerSave : PowerProfile where
  boost := 0
  boostpulse_duration := 40000
  go_hispeed_load := 90
  go_hispeed_load_off := 110
  hispeed_freq := 702000
  hispeed_freq_off := 702000
  timer_rate := 20000
  timer_rate_off := 50000
  above_hispeed_delay := "19000 1400000:39000"
  io_is_busy := 1
  min_sample_time := 39000
  max_freq_hysteresis := 99000
  target_loads := "85 1700000:90"
  target_loads_off := "95 1728000:99"
  limited_min_freq := 384000
  limited_max_freq := 1026000

def balanced : PowerProfile :=
  { powerSave with
    hispeed_freq := 1026000
    hispeed_freq_off := 1026000
    limited_max_freq := 1728000 }

def highPerformance : PowerProfile :=
  { powerSave with
    boost := 1
    go_hispeed_load := 50
    hispeed_freq := 1134000
    hispeed_freq_off := 1134000
    target_loads := "80 1700000:90"
    target_loads_off := "90 1728000:99"
    limited_max_freq := 1728000 }

def biasPower : PowerProfile := { powerSave with limited_max_freq := 1242000 }

def profiles : List PowerProfile := [powerSave, balanced, highPerformance, biasPower]

def profilePowerSave : Int := 0

def profileMax : Int := 4

def vidEncTimerRate : Int := 30000

def vidEncIoIsBusy : Int := 0

def stateOn : List Char := "state=1".toList

def cpufreqLimitPath : String := "/sys/kernel/cpufreq_limit/"

def interactivePath : String := "/sys/devices/system/cpu/cpufreq/interactive/"

/-- What the system answers during a call: whether the governor is interactive, which files can be
written, the descriptor of the file for pulses, and whether a pulse can be written. -/
structure PowerAnswers where
  governor : Bool
  writes : String → Bool
  boostpulse : Int
  pulses : Bool

/-- The variables of the module, the contents of the files, and the indices that were used. -/
structure Power where
  boostpulse_fd : Int
  current_power_profile : Int
  settings : String → String
  accesses : List Int

/-- A request, with the data that comes with it. -/
inductive PowerHint
  | setProfile (profile : Int32)
  | interaction
  | launch
  | videoEncode (metadata : Option (List Char))
  | other (hint : UInt32)

/-- A value for a file: a text, or a member of the profile with an index. -/
inductive Setting
  | text (value : String)
  | member (read : PowerProfile → String)

def isProfileValid (profile : Int) : Prop := 0 ≤ profile ∧ profile < profileMax

instance (profile : Int) : Decidable (isProfileValid profile) :=
  inferInstanceAs (Decidable (_ ∧ _))

/-- `profiles[profile]` -/
def profileAt (outside : Int → PowerProfile) (profile : Int) : PowerProfile :=
  if isProfileValid profile then profiles.getD profile.toNat (outside profile) else outside profile

/-- The first characters of two strings are equal. -/
def strncmpEq (first second : List Char) (n : Nat) : Bool := first.take n = second.take n

section

variable (outside : Int → PowerProfile) (answers : PowerAnswers)

/-- `sysfs_write_str` and `sysfs_write_int`, with a value that may come from the table. -/
def sysfsWrite (profile : Int) (write : String × Setting) (s : Power) : Power :=
  let value :=
    match write.2 with
    | .text value => value
    | .member read => read (profileAt outside profile)
  { s with
    settings :=
      if answers.writes write.1 then Function.update s.settings write.1 value else s.settings
    accesses :=
      match write.2 with
      | .text _ => s.accesses
      | .member _ => s.accesses ++ [profile] }

/-- Writes in their order. -/
def sysfsWrites (profile : Int) (writes : List (String × Setting)) (s : Power) : Power :=
  writes.foldl (fun s write => sysfsWrite outside answers profile write s) s

/-- A member of the profile for a file of the governor. -/
def interactive (name : String) (read : PowerProfile → Int) : String × Setting :=
  (interactivePath ++ name, .member fun profile => toString (read profile))

def interactiveText (name : String) (read : PowerProfile → String) : String × Setting :=
  (interactivePath ++ name, .member read)

def cpufreqLimit (name : String) (read : PowerProfile → Int) : String × Setting :=
  (cpufreqLimitPath ++ name, .member fun profile => toString (read profile))

/-- What is written when the screen is turned on. -/
def screenOn : List (String × Setting) :=
  [interactive "hispeed_freq" (·.hispeed_freq), interactive "go_hispeed_load" (·.go_hispeed_load),
    interactive "timer_rate" (·.timer_rate), interactiveText "target_loads" (·.target_loads)]

def screenOff : List (String × Setting) :=
  [interactive "hispeed_freq" (·.hispeed_freq_off), interactive "timer_rate" (·.timer_rate_off),
    interactive "go_hispeed_load" (·.go_hispeed_load_off),
    interactiveText "target_loads" (·.target_loads_off)]

def powerSetInteractive (on : Bool) (s : Power) : Power :=
  if ¬isProfileValid s.current_power_profile then s
  else if ¬answers.governor then s
  else if on then sysfsWrites outside answers s.current_power_profile screenOn s
  else sysfsWrites outside answers s.current_power_profile screenOff s

/-- What is written for a profile. -/
def wholeProfile : List (String × Setting) :=
  [interactive "boost" (·.boost), interactive "boostpulse_duration" (·.boostpulse_duration),
    interactive "go_hispeed_load" (·.go_hispeed_load), interactive "hispeed_freq" (·.hispeed_freq),
    interactiveText "above_hispeed_delay" (·.above_hispeed_delay),
    interactive "timer_rate" (·.timer_rate), interactive "io_is_busy" (·.io_is_busy),
    interactive "min_sample_time" (·.min_sample_time),
    interactive "max_freq_hysteresis" (·.max_freq_hysteresis),
    interactiveText "target_loads" (·.target_loads),
    cpufreqLimit "limited_min_freq" (·.limited_min_freq),
    cpufreqLimit "limited_max_freq" (·.limited_max_freq)]

def setPowerProfile (profile : Int) (s : Power) : Power :=
  if ¬isProfileValid profile then s
  else if ¬answers.governor then s
  else if profile = s.current_power_profile then s
  else
    { sysfsWrites outside answers profile wholeProfile s with current_power_profile := profile }

/-- What is written while a video is encoded, and when that has ended. -/
def videoEncode (on : Bool) : List (String × Setting) :=
  if on then
    [(interactivePath ++ "timer_rate", .text (toString vidEncTimerRate)),
      (interactivePath ++ "io_is_busy", .text (toString vidEncIoIsBusy))]
  else [interactive "timer_rate" (·.timer_rate), interactive "io_is_busy" (·.io_is_busy)]

/-- `strncmp` compares the terminators as well. -/
def isOn (metadata : List Char) : Bool := strncmpEq metadata stateOn (stateOn.length + 1)

def processVideoEncodeHint (metadata : Option (List Char)) (s : Power) : Power :=
  match metadata with
  | none => s
  | some metadata =>
      -- the current profile is not checked here
      if ¬answers.governor then s
      else sysfsWrites outside answers s.current_power_profile (videoEncode (isOn metadata)) s

def boostpulseOpen (s : Power) : Power :=
  if s.boostpulse_fd < 0 then { s with boostpulse_fd := answers.boostpulse } else s

/-- A pulse, for which the file is closed if it cannot be written. -/
def boostpulse (s : Power) : Power :=
  let opened := boostpulseOpen answers s
  if 0 ≤ opened.boostpulse_fd then
    if answers.pulses then
      { opened with
        settings := Function.update opened.settings (interactivePath ++ "boostpulse") (toString 1) }
    else { opened with boostpulse_fd := -1 }
  else opened

/-- The hints of an interaction and of a launch. -/
def interactionHint (s : Power) : Power :=
  if ¬isProfileValid s.current_power_profile then s
  else
    let accessed := { s with accesses := s.accesses ++ [s.current_power_profile] }
    if (profileAt outside s.current_power_profile).boostpulse_duration = 0 then accessed
    else if ¬answers.governor then accessed
    else boostpulse answers accessed

def powerHint (hint : PowerHint) (s : Power) : Power :=
  match hint with
  | .setProfile profile => setPowerProfile outside answers profile.toInt s
  | hint =>
      -- -1 is another number than that of the profile that ignores hints
      if s.current_power_profile = profilePowerSave then s
      else
        match hint with
        | .interaction => interactionHint outside answers s
        | .launch => interactionHint outside answers s
        | .videoEncode metadata => processVideoEncodeHint outside answers metadata s
        | _ => s

end

end Serrano.Hidl
