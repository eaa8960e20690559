import Serrano.Foundation.PrintedNumber

/-! # The lights

Three lights share the indicator, and each call for one of them shows the one with the
highest priority that is lit. The files are the lines that were written to them. A light
that was not set yet has whatever state it began with, since the constructor does not
set it.
-/

namespace Serrano.Hidl

/-- The supported types, and every other one. -/
inductive LightType
  | attention
  | backlight
  | battery
  | buttons
  | notifications
  | other (type : Int32)
  deriving DecidableEq

structure LightState where
  color : UInt32
  flashOnMs : Int32
  flashOffMs : Int32
  deriving DecidableEq

inductive Status
  | success
  | lightNotSupported
  deriving DecidableEq

/-- `Light` -/
structure Light where
  mBacklight : List (List Char)
  mButtonlight : List (List Char)
  mIndicator : List (List Char)
  mAttentionState : LightState
  mBatteryState : LightState
  mNotificationState : LightState

/-- The constructor, which leaves the states of the lights as they are. -/
def Light.new (mAttentionState mBatteryState mNotificationState : LightState) : Light where
  mBacklight := []
  mButtonlight := []
  mIndicator := []
  mAttentionState := mAttentionState
  mBatteryState := mBatteryState
  mNotificationState := mNotificationState

def rgbToBrightness (state : LightState) : UInt32 :=
  let color : UInt32 := state.color &&& 0x00ffffff
  let red := (color >>> (16 : UInt32)) &&& (0xff : UInt32)
  let green := (color >>> (8 : UInt32)) &&& (0xff : UInt32)
  let blue := color &&& (0xff : UInt32)
  (77 * red + 150 * green + 29 * blue) >>> (8 : UInt32)

def isLit (state : LightState) : Bool := (state.color &&& 0x00ffffff) != 0

/-- `snprintf` into a buffer of a size, which includes the terminator. -/
def snprintf (size : Nat) (text : List Char) : List Char := text.take (size - 1)

/-- `0x%08x %d %d` -/
def blinkText (color : UInt32) (flashOnMs flashOffMs : Int32) : List Char :=
  "0x".toList ++ (Nat.toDigits 16 color.toNat).leftpad 8 '0' ++ ' ' ::
    (DecimalText.integer 0 flashOnMs.toInt ++ ' ' :: DecimalText.integer 0 flashOffMs.toInt)

def sizeofBlink : Nat := 32

def setSpeakerLightLocked (light : Light) (state : LightState) : Light :=
  let color := state.color &&& 0x00ffffff
  -- one character less than the buffer has room for
  let blink := snprintf (sizeofBlink - 1) (blinkText color state.flashOnMs state.flashOffMs)
  { light with mIndicator := light.mIndicator ++ [blink] }

def setSpeakerBatteryLightLocked (light : Light) : Light :=
  if isLit light.mNotificationState then setSpeakerLightLocked light light.mNotificationState
  else if isLit light.mAttentionState then setSpeakerLightLocked light light.mAttentionState
  else if isLit light.mBatteryState then setSpeakerLightLocked light light.mBatteryState
  else { light with mIndicator := light.mIndicator ++ ["0x00000000 0 0".toList] }

def setAttentionLight (light : Light) (state : LightState) : Light :=
  setSpeakerBatteryLightLocked { light with mAttentionState := state }

def setBacklight (light : Light) (state : LightState) : Light :=
  let brightness := rgbToBrightness state
  { light with mBacklight := light.mBacklight ++ [Nat.toDigits 10 brightness.toNat] }

def setBatteryLight (light : Light) (state : LightState) : Light :=
  setSpeakerBatteryLightLocked { light with mBatteryState := state }

def setButtonLight (light : Light) (state : LightState) : Light :=
  { light with
    mButtonlight := light.mButtonlight ++ [Nat.toDigits 10 (state.color &&& 0xff).toNat] }

def setNotificationLight (light : Light) (state : LightState) : Light :=
  setSpeakerBatteryLightLocked { light with mNotificationState := state }

/-- `setLight`, through the functions that the constructor puts into `mLights`. -/
def setLight (light : Light) (type : LightType) (state : LightState) : Status × Light :=
  match type with
  | .attention => (.success, setAttentionLight light state)
  | .backlight => (.success, setBacklight light state)
  | .battery => (.success, setBatteryLight light state)
  | .buttons => (.success, setButtonLight light state)
  | .notifications => (.success, setNotificationLight light state)
  | .other _ => (.lightNotSupported, light)

/-- The lights after a sequence of calls. -/
def setLights (light : Light) (calls : List (LightType × LightState)) : Light :=
  calls.foldl (fun light call => (setLight light call.1 call.2).2) light

end Serrano.Hidl
