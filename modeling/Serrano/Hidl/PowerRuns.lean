import Serrano.Foundation.Transition
import Serrano.Hidl.Power

/-! # Calls of the power module

The index of the current profile is checked by each function before it is used, except by
the hint for the encoding of a video. Until a profile has been selected, the end of an
encoding reads the table with the index -1.
-/

namespace Serrano.Hidl

open Transition

inductive PowerCall
  | setInteractive (on : Bool)
  | hint (hint : PowerHint)

variable (outside : Int → PowerProfile)

def perform (s : Power) (action : PowerAnswers × PowerCall) : Power :=
  match action.2 with
  | .setInteractive on => powerSetInteractive outside action.1 on s
  | .hint hint => powerHint outside action.1 hint s

/-- The module when it has been loaded, and the calls of it. -/
def powerSystem (settings : String → String) : System Power (PowerAnswers × PowerCall) where
  init :=
    { boostpulse_fd := -1
      current_power_profile := -1
      settings := settings
      accesses := [] }
  step s action := some (perform outside s action)

/-- Every index that was used for the table is in it. -/
def InRange (s : Power) : Prop := ∀ profile ∈ s.accesses, isProfileValid profile

/-- A request for an unknown profile changes neither the current profile nor a file. -/
def KeepsUnknown (s : Power) (action : PowerAnswers × PowerCall) : Prop :=
  ∀ profile : Int32, action.2 = .hint (.setProfile profile) → ¬isProfileValid profile.toInt →
    (perform outside s action).current_power_profile = s.current_power_profile ∧
      (perform outside s action).settings = s.settings

/-- Only one string says that an encoding starts. -/
theorem isOn_iff {metadata : List Char} : isOn metadata = true ↔ metadata = stateOn := by
  rw [isOn, strncmpEq, decide_eq_true_iff, List.take_of_length_le (Nat.le_succ stateOn.length)]
  constructor
  · intro h
    have hlength := congrArg List.length h
    rw [List.length_take] at hlength
    rwa [List.take_of_length_le (by omega)] at h
  · rintro rfl
    exact List.take_of_length_le (Nat.le_succ stateOn.length)

/-- It is not the end of an encoding while no profile is selected. -/
def ProfileSelected (s : Power) (action : PowerAnswers × PowerCall) : Prop :=
  ∀ metadata, action.2 = .hint (.videoEncode (some metadata)) → isOn metadata = false →
    action.1.governor = true → s.current_power_profile ≠ -1

/-- The current profile is one of the table, or none was selected. -/
structure Sound (s : Power) : Prop where
  inRange : InRange s
  current : s.current_power_profile = -1 ∨ isProfileValid s.current_power_profile

/-- Writing uses no other index, and does not select a profile. -/
structure UsesOnly (profile : Int) (s next : Power) : Prop where
  accesses : ∀ index ∈ next.accesses, index ∈ s.accesses ∨ index = profile
  current : next.current_power_profile = s.current_power_profile

variable {outside} {answers : PowerAnswers} {profile : Int} {s : Power}

theorem UsesOnly.refl : UsesOnly profile s s := ⟨fun _ h => .inl h, rfl⟩

theorem UsesOnly.sound {next : Power} (h : UsesOnly profile s next) (hs : Sound s)
    (hprofile : isProfileValid profile) : Sound next where
  inRange := by
    intro index hindex
    obtain hold | rfl := h.accesses index hindex
    · exact hs.inRange index hold
    · exact hprofile
  current := by
    rw [h.current]
    exact hs.current

theorem usesOnly_sysfsWrite (write : String × Setting) :
    UsesOnly profile s (sysfsWrite outside answers profile write s) where
  accesses := by
    obtain ⟨path, text | member⟩ := write
    · exact fun _ h => .inl h
    · exact fun _ h => (List.mem_append.mp h).imp_right List.mem_singleton.mp
  current := rfl

theorem usesOnly_sysfsWrites (writes : List (String × Setting)) :
    UsesOnly profile s (sysfsWrites outside answers profile writes s) := by
  induction writes generalizing s with
  | nil => exact .refl
  | cons write rest ih =>
      have hwrite : UsesOnly profile s (sysfsWrite outside answers profile write s) :=
        usesOnly_sysfsWrite write
      have hrest : UsesOnly profile (sysfsWrite outside answers profile write s)
          (sysfsWrites outside answers profile (write :: rest) s) := ih
      refine ⟨fun index hindex => ?_, hrest.current.trans hwrite.current⟩
      obtain hold | rfl := hrest.accesses index hindex
      · exact hwrite.accesses index hold
      · exact .inr rfl

theorem Sound.powerSetInteractive (hs : Sound s) (on : Bool) :
    Sound (powerSetInteractive outside answers on s) := by
  rw [Hidl.powerSetInteractive]
  split
  next => exact hs
  next hvalid =>
    split
    next => exact hs
    next =>
      split
      next => exact (usesOnly_sysfsWrites screenOn).sound hs (not_not.mp hvalid)
      next => exact (usesOnly_sysfsWrites screenOff).sound hs (not_not.mp hvalid)

theorem Sound.setPowerProfile (hs : Sound s) (profile : Int) :
    Sound (setPowerProfile outside answers profile s) := by
  rw [Hidl.setPowerProfile]
  split
  next => exact hs
  next hvalid =>
    split
    next => exact hs
    next =>
      split
      next => exact hs
      next =>
        have hprofile := not_not.mp hvalid
        have hwritten : Sound (sysfsWrites outside answers profile wholeProfile s) :=
          (usesOnly_sysfsWrites wholeProfile).sound hs hprofile
        exact ⟨fun index hindex => hwritten.inRange index hindex, .inr hprofile⟩

theorem Sound.boostpulse (hs : Sound s) : Sound (boostpulse answers s) := by
  have hopen : Sound (boostpulseOpen answers s) := by
    rw [boostpulseOpen]
    split
    next => exact ⟨hs.inRange, hs.current⟩
    next => exact hs
  rw [Hidl.boostpulse]
  split
  next =>
    split
    next => exact ⟨hopen.inRange, hopen.current⟩
    next => exact ⟨hopen.inRange, hopen.current⟩
  next => exact hopen

theorem Sound.interactionHint (hs : Sound s) : Sound (interactionHint outside answers s) := by
  rw [Hidl.interactionHint]
  split
  next => exact hs
  next hvalid =>
    have haccessed : Sound { s with accesses := s.accesses ++ [s.current_power_profile] } := by
      refine ⟨fun index hindex => ?_, hs.current⟩
      obtain hold | hnew := List.mem_append.mp hindex
      · exact hs.inRange index hold
      · rw [List.mem_singleton.mp hnew]
        exact not_not.mp hvalid
    dsimp only
    split
    next => exact haccessed
    next =>
      split
      next => exact haccessed
      next => exact haccessed.boostpulse

/-- The start of an encoding does not use the table. -/
theorem accesses_videoEncode_true :
    (sysfsWrites outside answers profile (videoEncode true) s).accesses = s.accesses := rfl

/-- The end of an encoding uses the current index. -/
theorem mem_accesses_videoEncode_false :
    profile ∈ (sysfsWrites outside answers profile (videoEncode false) s).accesses :=
  List.mem_append_right _ (List.mem_singleton_self profile)

theorem Sound.processVideoEncodeHint (hs : Sound s) {metadata : Option (List Char)}
    (hselected : ∀ text, metadata = some text → isOn text = false → answers.governor = true →
      s.current_power_profile ≠ -1) :
    Sound (processVideoEncodeHint outside answers metadata s) := by
  cases metadata with
  | none => exact hs
  | some metadata =>
      rw [Hidl.processVideoEncodeHint]
      split
      next => exact hs
      next hgovernor =>
        have huses : UsesOnly s.current_power_profile s
            (sysfsWrites outside answers s.current_power_profile (videoEncode (isOn metadata)) s) :=
          usesOnly_sysfsWrites _
        cases hon : isOn metadata with
        | true =>
            -- what is written at the start of an encoding is constant
            refine ⟨?_, ?_⟩
            · rw [InRange, accesses_videoEncode_true]
              exact hs.inRange
            · rw [hon] at huses
              rw [huses.current]
              exact hs.current
        | false =>
            -- at its end the members of the current profile are written
            rw [hon] at huses
            have hne := hselected metadata rfl hon (not_not.mp hgovernor)
            exact huses.sound hs (hs.current.resolve_left hne)

/-- Every call that meets the condition keeps the indices in the table. -/
theorem Sound.perform (hs : Sound s) {action : PowerAnswers × PowerCall}
    (hselected : ProfileSelected s action) : Sound (perform outside s action) := by
  obtain ⟨answers, on | hint⟩ := action
  · exact hs.powerSetInteractive on
  · rw [Hidl.perform]
    dsimp only
    rw [powerHint.eq_def]
    split
    next profile => exact hs.setPowerProfile profile.toInt
    next =>
      split
      next => exact hs
      next =>
        split
        next => exact hs.interactionHint
        next => exact hs.interactionHint
        next metadata =>
          refine hs.processVideoEncodeHint fun text htext hon hgovernor => ?_
          subst htext
          exact hselected text rfl hon hgovernor
        next => exact hs

/-- The end of an encoding while no profile is selected. -/
theorem not_inRange_of_not_selected {action : PowerAnswers × PowerCall}
    (h : ¬ProfileSelected s action) : ¬InRange (perform outside s action) := by
  obtain ⟨answers, call⟩ := action
  rw [ProfileSelected] at h
  push Not at h
  obtain ⟨metadata, hcall, hoff, hgovernor, hcurrent⟩ := h
  have hperform : perform outside s (answers, call) =
      sysfsWrites outside answers s.current_power_profile (videoEncode false) s := by
    dsimp only at hcall
    rw [perform, hcall]
    dsimp only
    rw [powerHint.eq_def]
    dsimp only
    rw [if_neg (by rw [hcurrent]; decide), processVideoEncodeHint, if_neg (not_not.mpr hgovernor),
      hoff]
  intro hrange
  rw [hperform] at hrange
  have hvalid := hrange _ mem_accesses_videoEncode_false
  rw [hcurrent] at hvalid
  exact absurd hvalid (by decide)

theorem keepsUnknown (s : Power) (action : PowerAnswers × PowerCall) :
    KeepsUnknown outside s action := by
  intro profile hcall hunknown
  have hperform : perform outside s action = s := by
    rw [perform, hcall]
    exact if_pos hunknown
  rw [hperform]
  exact ⟨rfl, rfl⟩

theorem sound_init (settings : String → String) : Sound (powerSystem outside settings).init where
  inRange := fun _ hindex => absurd hindex List.not_mem_nil
  current := .inl rfl

variable (outside) in
/-- Every index that is used in a run is in the table, and unknown profiles change nothing. -/
def KeepsProfiles (settings : String → String) (actions : List (PowerAnswers × PowerCall)) :
    Prop :=
  (powerSystem outside settings).Throughout InRange (powerSystem outside settings).init actions ∧
    (powerSystem outside settings).Guarded (KeepsUnknown outside)
      (powerSystem outside settings).init actions

/-- A run keeps to the table exactly when no encoding ends before a profile is selected. -/
theorem keepsProfiles_iff (settings : String → String)
    (actions : List (PowerAnswers × PowerCall)) :
    KeepsProfiles outside settings actions ↔
      (powerSystem outside settings).Guarded ProfileSelected
        (powerSystem outside settings).init actions := by
  have hunknown : (powerSystem outside settings).Guarded (KeepsUnknown outside)
      (powerSystem outside settings).init actions :=
    System.guarded_of_forall keepsUnknown _ _
  rw [KeepsProfiles, and_iff_left hunknown]
  refine System.throughout_iff_guarded Sound (fun _ h => h.inRange) ?_ ?_ (sound_init settings)
    actions
  · intro s action next hs hselected hstep
    injection hstep with hstep
    exact hstep ▸ hs.perform hselected
  · intro s action _ hselected
    exact ⟨_, rfl, not_inRange_of_not_selected hselected⟩

/-- A governor that is interactive. -/
def interactiveAnswers : PowerAnswers where
  governor := true
  writes := fun _ => true
  boostpulse := 3
  pulses := true

theorem not_keepsProfiles_videoEnd :
    ¬KeepsProfiles (fun _ => powerSave) (fun _ => "")
      [(interactiveAnswers, .hint (.videoEncode (some "state=0".toList)))] := by
  intro h
  refine not_inRange_of_not_selected ?_ (h.1.2 _ rfl)
  intro hselected
  exact hselected "state=0".toList rfl (by decide) rfl rfl

end Serrano.Hidl
