import Mathlib.Data.List.Induction
import Serrano.Foundation.TextLines
import Serrano.Hidl.Light

/-! # What the indicator shows

The last line of the indicator is read back as three numbers. They are those of the light
that is to be shown as long as its times do not take up more characters than the buffer
has room for, and no light that was never set has a lit state from the beginning.
-/

namespace Serrano.Hidl

open Strtol

/-- A number with the prefix of base 16. -/
def readHex : List Char → Option Nat
  | '0' :: 'x' :: digits => natural 16 digits
  | _ => none

/-- A colour and two times. -/
structure Blink where
  color : Nat
  flashOnMs : Int
  flashOffMs : Int
  deriving DecidableEq

/-- Three numbers that are separated by spaces. -/
def readBlink (line : List Char) : Option Blink :=
  match line.splitOn ' ' with
  | [color, flashOnMs, flashOffMs] => do
      let color ← readHex color
      let flashOnMs ← numeral 10 flashOnMs
      let flashOffMs ← numeral 10 flashOffMs
      pure ⟨color, flashOnMs, flashOffMs⟩
  | _ => none

/-- The latest state that a call has set for a light. -/
def latest (type : LightType) (calls : List (LightType × LightState)) : Option LightState :=
  calls.foldl (fun state call => if call.1 = type then some call.2 else state) none

/-- The latest state of the light with the highest priority that is lit. -/
def shown (calls : List (LightType × LightState)) : Option LightState :=
  [latest .notifications calls, latest .attention calls, latest .battery calls].findSome?
    (·.filter isLit)

/-- What the indicator should show for a light, if there is one. -/
def blinkOf : Option LightState → Blink
  | some state =>
      ⟨(state.color &&& 0x00ffffff).toNat, state.flashOnMs.toInt, state.flashOffMs.toInt⟩
  | none => ⟨0, 0, 0⟩

/-- The last line, if one was written, is what the indicator should show. -/
def Shows (light : Light) (calls : List (LightType × LightState)) : Prop :=
  ∀ line, (setLights light calls).mIndicator.getLast? = some line →
    readBlink line = some (blinkOf (shown calls))

/-- Of lights with what was set last and what was there in the beginning, the first one that is
lit, if it was never set. -/
def firstUnset : List (Option LightState × LightState) → Option LightState
  | [] => none
  | (some state, _) :: rest => if isLit state then none else firstUnset rest
  | (none, start) :: rest => if isLit start then some start else firstUnset rest

/-- A light that no call has set, but which is lit and comes before all lit ones that were. -/
def intruder (light : Light) (calls : List (LightType × LightState)) : Option LightState :=
  firstUnset
    [(latest .notifications calls, light.mNotificationState),
      (latest .attention calls, light.mAttentionState),
      (latest .battery calls, light.mBatteryState)]

/-- The types whose calls write to the indicator. -/
def LightType.indicates : LightType → Bool
  | .attention => true
  | .battery => true
  | .notifications => true
  | _ => false

/-- The times of a light leave room for the other characters. -/
def LightState.Fits (state : LightState) : Prop :=
  (DecimalText.integer 0 state.flashOnMs.toInt).length +
    (DecimalText.integer 0 state.flashOffMs.toInt).length ≤ 18

instance (state : LightState) : Decidable state.Fits := inferInstanceAs (Decidable (_ ≤ _))

/-- The colour and the on time are those of a blink, and what there is room for of the off time
is read as the off time of the blink. -/
def LightState.Displays (state : LightState) (blink : Blink) : Prop :=
  (state.color &&& 0x00ffffff).toNat = blink.color ∧ state.flashOnMs.toInt = blink.flashOnMs ∧
    numeral 10 ((DecimalText.integer 0 state.flashOffMs.toInt).take
      (18 - (DecimalText.integer 0 state.flashOnMs.toInt).length)) = some blink.flashOffMs

theorem not_blank_integer (n : ℤ) : ' ' ∉ DecimalText.integer 0 n := by
  intro h
  exact absurd (DecimalText.numeral_of_mem_integer h) (by decide)

theorem not_blank_toDigits (n : ℕ) : ' ' ∉ "0x".toList ++ (Nat.toDigits 16 n).leftpad 8 '0' := by
  obtain ⟨-, hall, -⟩ := natural_eq_some
    (PrintedNumber.natural_leftpad (by decide) (by decide) 8 n : natural 16 _ = some n)
  intro h
  obtain hzero | hdigits := List.mem_append.mp h
  · exact absurd hzero (by decide)
  · have hspace := not_isSpace_of_isDigit (List.all_eq_true.mp hall ' ' hdigits)
    exact absurd hspace (by decide)

/-- Three fields, the first two of which are numbers. -/
theorem readBlink_append {color flashOnMs : List Char} {c : Nat} {on : Int}
    (hcolor : readHex color = some c) (hon : numeral 10 flashOnMs = some on)
    (hcolorBlank : ' ' ∉ color) (honBlank : ' ' ∉ flashOnMs) {flashOffMs : List Char}
    (hoffBlank : ' ' ∉ flashOffMs) :
    readBlink (color ++ ' ' :: (flashOnMs ++ ' ' :: flashOffMs)) =
      (numeral 10 flashOffMs).map (⟨c, on, ·⟩) := by
  rw [readBlink, List.splitOn_append_cons_self_of_not_mem hcolorBlank,
    List.splitOn_append_cons_self_of_not_mem honBlank, List.splitOn_eq_singleton hoffBlank]
  dsimp only
  rw [hcolor, hon]
  cases numeral 10 flashOffMs <;> rfl

theorem length_integer_toInt_le (n : Int32) : (DecimalText.integer 0 n.toInt).length ≤ 11 := by
  have hlower := n.le_toInt
  have hupper := n.toInt_lt
  exact DecimalText.length_integer_le (by decide) (by omega)

/-- The times are cut at the end of the buffer. -/
theorem snprintf_blinkText (color : UInt32) (flashOnMs flashOffMs : Int32) :
    snprintf (sizeofBlink - 1) (blinkText color flashOnMs flashOffMs) =
      "0x".toList ++ (Nat.toDigits 16 color.toNat).leftpad 8 '0' ++ ' ' ::
        (DecimalText.integer 0 flashOnMs.toInt ++ ' ' ::
          (DecimalText.integer 0 flashOffMs.toInt).take
            (18 - (DecimalText.integer 0 flashOnMs.toInt).length)) := by
  have hcolor : ((Nat.toDigits 16 color.toNat).leftpad 8 '0').length = 8 := by
    rw [List.length_leftpad]
    exact Nat.max_eq_left ((Nat.length_toDigits_le_iff (by decide) (by decide)).mpr color.toNat_lt)
  have hon := length_integer_toInt_le flashOnMs
  generalize hdigits : (Nat.toDigits 16 color.toNat).leftpad 8 '0' = digits at hcolor ⊢
  have hlength : ("0x".toList ++ digits).length = 10 := by
    rw [List.length_append, hcolor]
    rfl
  have hroom : 19 - (DecimalText.integer 0 flashOnMs.toInt).length =
      18 - (DecimalText.integer 0 flashOnMs.toInt).length + 1 := by omega
  have hsize : sizeofBlink - 1 - 1 = 30 := rfl
  rw [snprintf, blinkText, hdigits, hsize, List.take_append, hlength,
    List.take_of_length_le (by omega), List.take_succ_cons, List.take_append,
    List.take_of_length_le (by omega), hroom, List.take_succ_cons]

theorem readHex_color (color : UInt32) :
    readHex ("0x".toList ++ (Nat.toDigits 16 color.toNat).leftpad 8 '0') = some color.toNat :=
  PrintedNumber.natural_leftpad (by decide) (by decide) 8 color.toNat

/-- What a line shows. -/
theorem readBlink_eq_some_iff (state : LightState) (blink : Blink) :
    readBlink (snprintf (sizeofBlink - 1)
        (blinkText (state.color &&& 0x00ffffff) state.flashOnMs state.flashOffMs)) =
      some blink ↔ state.Displays blink := by
  have hoffBlank := not_blank_integer state.flashOffMs.toInt
  rw [snprintf_blinkText, readBlink_append (readHex_color _)
    (PrintedNumber.numeral_integer _) (not_blank_toDigits _) (not_blank_integer _)
    (fun hmem => hoffBlank (List.mem_of_mem_take hmem)), LightState.Displays]
  constructor
  · intro h
    obtain ⟨off, hoff, rfl⟩ := Option.map_eq_some_iff.mp h
    exact ⟨rfl, rfl, hoff⟩
  · rintro ⟨hcolor, hon, hoff⟩
    rw [hoff, hcolor, hon]
    rfl

/-- A light is shown as it is exactly when its times fit. -/
theorem displays_blinkOf_iff (state : LightState) :
    state.Displays (blinkOf (some state)) ↔ state.Fits := by
  have hon := length_integer_toInt_le state.flashOnMs
  rw [LightState.Fits]
  constructor
  · rintro ⟨-, -, hoff⟩
    by_contra hlong
    -- a number that has lost its end is another number, or none
    refine PrintedNumber.numeral_ne_of_lost ?_ (List.take_append_drop _ _) hoff
    exact List.ne_nil_of_length_pos (by rw [List.length_drop]; omega)
  · intro hfits
    refine ⟨rfl, rfl, ?_⟩
    rw [List.take_of_length_le (by omega), PrintedNumber.numeral_integer]
    rfl

/-- The line for what is to be shown. -/
def lineOf : Option LightState → List Char
  | some state =>
      snprintf (sizeofBlink - 1)
        (blinkText (state.color &&& 0x00ffffff) state.flashOnMs state.flashOffMs)
  | none => "0x00000000 0 0".toList

theorem readBlink_lineOf_some (state : LightState) (blink : Blink) :
    readBlink (lineOf (some state)) = some blink ↔ state.Displays blink :=
  readBlink_eq_some_iff state blink

/-- No light is read as three zeros. -/
theorem readBlink_lineOf_none : readBlink (lineOf none) = some (blinkOf none) := by
  have hcolor : readHex "0x00000000".toList = some 0 := by decide
  have hzero : numeral 10 ['0'] = some 0 := by decide
  have hread := readBlink_append hcolor hzero (by decide) (by decide)
    (by decide : ' ' ∉ ['0'])
  rw [hzero] at hread
  exact hread

/-- The line for a light shows it when its times fit. -/
theorem readBlink_lineOf (state : Option LightState) :
    readBlink (lineOf state) = some (blinkOf state) ↔
      ∀ lit, state = some lit → lit.Fits := by
  cases state with
  | none =>
      refine iff_of_true readBlink_lineOf_none fun lit h => ?_
      cases h
  | some state =>
      refine (readBlink_lineOf_some state _).trans ((displays_blinkOf_iff state).trans ?_)
      refine ⟨fun hfits lit heq => ?_, fun h => h state rfl⟩
      cases heq
      exact hfits

/-- The light with the highest priority that is lit at present. -/
def lit (light : Light) : Option LightState :=
  [light.mNotificationState, light.mAttentionState, light.mBatteryState].find? isLit

/-- The line that is appended is that of the present states. -/
theorem setSpeakerBatteryLightLocked_eq (light : Light) :
    setSpeakerBatteryLightLocked light =
      { light with mIndicator := light.mIndicator ++ [lineOf (lit light)] } := by
  rw [setSpeakerBatteryLightLocked, lit]
  simp only [List.find?_cons, List.find?_nil]
  cases isLit light.mNotificationState with
  | true => rfl
  | false =>
      cases isLit light.mAttentionState with
      | true => rfl
      | false =>
          cases isLit light.mBatteryState with
          | true => rfl
          | false => rfl

/-- A call sets the state of its own light only. -/
theorem setLight_states (light : Light) (type : LightType) (state : LightState) :
    (setLight light type state).2.mNotificationState =
        (if type = .notifications then state else light.mNotificationState) ∧
      (setLight light type state).2.mAttentionState =
        (if type = .attention then state else light.mAttentionState) ∧
      (setLight light type state).2.mBatteryState =
        (if type = .battery then state else light.mBatteryState) := by
  cases type with
  | attention =>
      rw [setLight, setAttentionLight, setSpeakerBatteryLightLocked_eq]
      exact ⟨rfl, rfl, rfl⟩
  | battery =>
      rw [setLight, setBatteryLight, setSpeakerBatteryLightLocked_eq]
      exact ⟨rfl, rfl, rfl⟩
  | notifications =>
      rw [setLight, setNotificationLight, setSpeakerBatteryLightLocked_eq]
      exact ⟨rfl, rfl, rfl⟩
  | backlight => exact ⟨rfl, rfl, rfl⟩
  | buttons => exact ⟨rfl, rfl, rfl⟩
  | other => exact ⟨rfl, rfl, rfl⟩

/-- The latest state that was set, or what was there in the beginning. -/
theorem latest_concat (type : LightType) (calls : List (LightType × LightState))
    (call : LightType × LightState) :
    latest type (calls ++ [call]) = if call.1 = type then some call.2 else latest type calls := by
  rw [latest, List.foldl_append]
  rfl

theorem setLights_states (light : Light) (calls : List (LightType × LightState)) :
    (setLights light calls).mNotificationState =
        (latest .notifications calls).getD light.mNotificationState ∧
      (setLights light calls).mAttentionState =
        (latest .attention calls).getD light.mAttentionState ∧
      (setLights light calls).mBatteryState =
        (latest .battery calls).getD light.mBatteryState := by
  have hset : ∀ (type kind : LightType) (state member : LightState) (before : Option LightState),
      (if type = kind then state else before.getD member) =
        (if type = kind then some state else before).getD member := by
    intro type kind state member before
    split <;> rfl
  induction calls using List.reverseRecOn with
  | nil => exact ⟨rfl, rfl, rfl⟩
  | append_singleton calls call ih =>
      obtain ⟨hnotification, hattention, hbattery⟩ := ih
      have hstates := setLight_states (setLights light calls) call.1 call.2
      rw [hnotification, hattention, hbattery, hset, hset, hset] at hstates
      rw [latest_concat, latest_concat, latest_concat, setLights, List.foldl_append]
      exact hstates

/-- The first light that is lit was set, or was never set. -/
theorem find?_isLit_getD (lights : List (Option LightState × LightState)) :
    (lights.map fun light => light.1.getD light.2).find? isLit =
      (firstUnset lights).or ((lights.map Prod.fst).findSome? (·.filter isLit)) := by
  induction lights with
  | nil => rfl
  | cons light rest ih =>
      obtain ⟨set, start⟩ := light
      rw [List.map_cons, List.map_cons, List.find?_cons, List.findSome?_cons]
      cases set with
      | none =>
          rw [Option.getD_none, Option.filter_none, firstUnset]
          cases isLit start with
          | true => rfl
          | false => exact ih
      | some state =>
          rw [Option.getD_some, Option.filter_some, firstUnset]
          cases isLit state with
          | true => rfl
          | false => exact ih

/-- The light that is lit is the one to be shown unless one intrudes that was never set. -/
theorem lit_setLights (light : Light) (calls : List (LightType × LightState)) :
    lit (setLights light calls) = (intruder light calls).or (shown calls) := by
  obtain ⟨hnotification, hattention, hbattery⟩ := setLights_states light calls
  rw [lit, hnotification, hattention, hbattery]
  exact find?_isLit_getD [(latest .notifications calls, light.mNotificationState),
    (latest .attention calls, light.mAttentionState),
    (latest .battery calls, light.mBatteryState)]

/-- A call for one of the three lights shows what is to be shown then, and no other one does. -/
theorem setLight_mIndicator (light : Light) (type : LightType) (state : LightState) :
    (setLight light type state).2.mIndicator =
      if type.indicates then
        light.mIndicator ++ [lineOf (lit (setLight light type state).2)]
      else light.mIndicator := by
  cases type with
  | attention => rw [setLight, setAttentionLight, setSpeakerBatteryLightLocked_eq]; rfl
  | battery => rw [setLight, setBatteryLight, setSpeakerBatteryLightLocked_eq]; rfl
  | notifications => rw [setLight, setNotificationLight, setSpeakerBatteryLightLocked_eq]; rfl
  | backlight => rfl
  | buttons => rfl
  | other => rfl

/-- The other calls do not change what is lit. -/
theorem lit_setLight {type : LightType} (h : type.indicates = false) (light : Light)
    (state : LightState) : lit (setLight light type state).2 = lit light := by
  cases type with
  | attention => cases h
  | battery => cases h
  | notifications => cases h
  | backlight => rfl
  | buttons => rfl
  | other => rfl

section

variable (attention battery notification : LightState) (calls : List (LightType × LightState))

/-- The last line, if there is one, is that of what is lit. -/
theorem getLast?_mIndicator :
    (setLights (.new attention battery notification) calls).mIndicator.getLast? =
      if calls.any (·.1.indicates) then
        some (lineOf (lit (setLights (.new attention battery notification) calls)))
      else none := by
  -- by the calls from the last one: it writes the last line, or leaves what is lit
  induction calls using List.reverseRecOn with
  | nil => rfl
  | append_singleton calls call ih =>
      rw [setLights, List.foldl_append, List.any_append, List.any_cons, List.any_nil,
        Bool.or_false]
      change (setLight (setLights _ calls) call.1 call.2).2.mIndicator.getLast? =
        if _ then some (lineOf (lit (setLight (setLights _ calls) call.1 call.2).2)) else none
      rw [setLight_mIndicator]
      cases hindicates : call.1.indicates with
      | true =>
          rw [if_pos rfl, Bool.or_true, if_pos rfl, List.getLast?_append]
          rfl
      | false => rw [if_neg Bool.false_ne_true, Bool.or_false, ih, lit_setLight hindicates]

/-- The indicator shows what it should exactly when nothing was written to it, or the times of the
light that is to be shown, if there is one, fit and no light that was never set comes before it,
or one does that happens to look the same. -/
theorem shows_iff :
    Shows (.new attention battery notification) calls ↔
      (∀ call ∈ calls, call.1.indicates = false) ∨
        (intruder (.new attention battery notification) calls = none ∧
          ∀ state, shown calls = some state → state.Fits) ∨
        ∃ state, intruder (.new attention battery notification) calls = some state ∧
          state.Displays (blinkOf (shown calls)) := by
  rw [Shows, getLast?_mIndicator, lit_setLights]
  by_cases hany : calls.any (·.1.indicates) = true
  · have hnot : ¬∀ call ∈ calls, call.1.indicates = false := by
      intro hall
      obtain ⟨call, hcall, htrue⟩ := List.any_eq_true.mp hany
      exact Bool.false_ne_true ((hall call hcall).symm.trans htrue)
    have hlast : ∀ line : List Char, (∀ text, some line = some text →
        readBlink text = some (blinkOf (shown calls))) ↔
          readBlink line = some (blinkOf (shown calls)) := fun line =>
      ⟨fun h => h line rfl, fun h text heq => Option.some.inj heq ▸ h⟩
    rw [if_pos hany, or_iff_right hnot, hlast]
    cases hintruder : intruder (.new attention battery notification) calls with
    | none =>
        rw [Option.none_or, readBlink_lineOf, and_iff_right rfl]
        refine (or_iff_left ?_).symm
        rintro ⟨state, h, -⟩
        cases h
    | some state =>
        rw [Option.some_or, readBlink_lineOf_some]
        constructor
        · exact fun h => .inr ⟨state, rfl, h⟩
        · rintro (⟨h, -⟩ | ⟨other, h, hdisplays⟩)
          · cases h
          · cases h
            exact hdisplays
  · have hall : ∀ call ∈ calls, call.1.indicates = false := fun call hcall =>
      eq_false_of_ne_true fun htrue => hany (List.any_eq_true.mpr ⟨call, hcall, htrue⟩)
    rw [if_neg hany]
    exact iff_of_true (fun _ h => absurd h (Option.some_ne_none _).symm) (.inl hall)

end

/-- A light that blinks for as long as an `int` can say. -/
def slowBlink : LightState := ⟨0xff0000, 2147483647, 2147483647⟩

def dark : LightState := ⟨0, 0, 0⟩

/-- The only call is for the battery light, which blinks slowly or is turned off while the
notification light, which was never set, is lit. -/
theorem not_shows_slowBlink_dark :
    ¬Shows (.new dark dark dark) [(.battery, slowBlink)] ∧
      ¬Shows (.new dark dark slowBlink) [(.battery, dark)] := by
  constructor
  · intro h
    have hlit : lit (setLights (.new dark dark dark) [(.battery, slowBlink)]) = some slowBlink := by
      decide
    have hshown : shown [(.battery, slowBlink)] = some slowBlink := by decide
    rw [Shows, getLast?_mIndicator, hlit, hshown] at h
    have hdisplays := (readBlink_lineOf_some slowBlink _).mp (h (lineOf (some slowBlink)) rfl)
    exact absurd ((displays_blinkOf_iff slowBlink).mp hdisplays) (by decide)
  · intro h
    have hlit : lit (setLights (.new dark dark slowBlink) [(.battery, dark)]) = some slowBlink := by
      decide
    have hshown : shown [(.battery, dark)] = none := by decide
    rw [Shows, getLast?_mIndicator, hlit, hshown] at h
    obtain ⟨hcolor, -⟩ := (readBlink_lineOf_some slowBlink _).mp (h (lineOf (some slowBlink)) rfl)
    exact absurd hcolor (by decide)

end Serrano.Hidl
