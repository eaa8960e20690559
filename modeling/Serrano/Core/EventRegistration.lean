import Serrano.Core.LocApiBase
import Serrano.Foundation.Transition

/-! # What the modem reports and who hears it

The adapters come and go and change their masks on any thread. Each change sends a
message, and the message thread opens the modem with the mask that the adapters have
by then; only the removal of the last adapter closes the modem at once. A modem that
restarts has forgotten its mask. What it reports is told to all adapters, or to the
first one that handles it.
-/

namespace Serrano.Core

variable {Adapter : Type*}

namespace LocApiBase

variable (s : LocApiBase Adapter)

/-- The adapters that the loop of `TO_ALL_ADAPTERS` calls from an index on. -/
def toAllFrom (i : Nat) : List Adapter :=
  if hi : i < maxAdapters then
    match s.mLocAdapters ⟨i, hi⟩ with
    | none => []
    | some adapter => adapter :: toAllFrom (i + 1)
  else []
termination_by maxAdapters - i

/-- The adapters that the loop of `TO_1ST_HANDLING_ADAPTER` calls from an index on. -/
def toFirstHandlingFrom (handles : Adapter → Bool) (i : Nat) : List Adapter :=
  if hi : i < maxAdapters then
    match s.mLocAdapters ⟨i, hi⟩ with
    | none => []
    | some adapter =>
        if handles adapter then [adapter] else adapter :: toFirstHandlingFrom handles (i + 1)
  else []
termination_by maxAdapters - i

/-- The loop of `isInSession` from an index on. -/
def isInSessionFrom (isInSession : Adapter → Bool) (i : Nat) : Bool :=
  if hi : i < maxAdapters then
    match s.mLocAdapters ⟨i, hi⟩ with
    | none => false
    | some adapter => if isInSession adapter then true else isInSessionFrom isInSession (i + 1)
  else false
termination_by maxAdapters - i

end LocApiBase

/-- `LocOpenMsg` and `LocSsrMsg` -/
inductive LocApiMsg
  | locOpenMsg
  | locSsrMsg
  deriving DecidableEq

/-- The members, the masks of the adapters, the messages, and what the modem was opened
with, while it runs. -/
structure Registration (Adapter : Type*) where
  api : LocApiBase Adapter
  mEvtMask : Adapter → BitVec 32
  queue : List LocApiMsg
  running : Bool
  registered : Option (BitVec 32)

/-- The constructor and the destructor of an adapter, a change of its mask, what the
modem does, and a step of the message thread. -/
inductive RegistrationAction (Adapter : Type*)
  | construct (adapter : Adapter) (mask : BitVec 32)
  | destruct (adapter : Adapter)
  | updateEvtMask (adapter : Adapter) (event : BitVec 32) (isEnabled : Bool)
  | engineDown
  | engineUp
  | process

namespace Registration

variable (s : Registration Adapter)

def getEvtMask : BitVec 32 := s.api.getEvtMask s.mEvtMask

/-- An adapter is in the array. -/
def Added (adapter : Adapter) : Prop := ∃ i, s.api.mLocAdapters i = some adapter

/-- What a call does besides changing the array. -/
def after (s : Registration Adapter) : LocApiEvent → Registration Adapter
  | .locOpenMsg => { s with queue := s.queue ++ [.locOpenMsg] }
  | .close => { s with registered := none }

def afterCall (result : LocApiBase Adapter × List LocApiEvent) : Registration Adapter :=
  result.2.foldl after { s with api := result.1 }

/-- `open`, which a modem that does not run does not hear. -/
def «open» : Registration Adapter :=
  if s.running then { s with registered := some s.getEvtMask } else s

def close : Registration Adapter := { s with registered := none }

variable [DecidableEq Adapter]

/-- An adapter is not constructed while it is in the array. -/
def step : RegistrationAction Adapter → Option (Registration Adapter)
  | .construct adapter mask =>
      if adapter ∈ s.api.toAllFrom 0 then none
      else
        let s := { s with mEvtMask := Function.update s.mEvtMask adapter mask }
        some (s.afterCall (s.api.addAdapter (some adapter)))
  | .destruct adapter => some (s.afterCall (s.api.removeAdapter (some adapter)))
  | .updateEvtMask adapter event isEnabled =>
      let mask := if isEnabled then s.mEvtMask adapter ||| event
        else s.mEvtMask adapter &&& ~~~ event
      some { s with
        mEvtMask := Function.update s.mEvtMask adapter mask
        queue := s.queue ++ [.locOpenMsg] }
  | .engineDown => some { s with running := false, registered := none }
  | .engineUp => some { s with running := true, queue := s.queue ++ [.locSsrMsg] }
  | .process =>
      match s.queue with
      | [] => none
      | .locOpenMsg :: rest => some { s with queue := rest }.«open»
      | .locSsrMsg :: rest => some { s with queue := rest }.close.«open»

/-- No adapter was added yet. -/
def new (excludedMask : BitVec 32) (mEvtMask : Adapter → BitVec 32) : Registration Adapter where
  api := .new excludedMask
  mEvtMask := mEvtMask
  queue := []
  running := true
  registered := none

def system (excludedMask : BitVec 32) (mEvtMask : Adapter → BitVec 32) :
    Transition.System (Registration Adapter) (RegistrationAction Adapter) where
  init := new excludedMask mEvtMask
  step s action := s.step action

end Registration

/-! ## The loops over the adapters -/

namespace LocApiBase

variable {s : LocApiBase Adapter} {adapters : List Adapter}

theorem toAllFrom_eq (hs : s.Holds adapters) (i : Nat) : s.toAllFrom i = adapters.drop i := by
  fun_induction toAllFrom s i with
  | case1 i hi hnone =>
      rw [hs.slots, List.getElem?_eq_none_iff] at hnone
      exact (List.drop_eq_nil_of_le hnone).symm
  | case2 i hi adapter hsome ih =>
      rw [hs.slots, List.getElem?_eq_some_iff] at hsome
      obtain ⟨hlt, rfl⟩ := hsome
      rw [ih, List.drop_eq_getElem_cons hlt]
  | case3 i hi =>
      have hfits := hs.fits
      exact (List.drop_eq_nil_of_le (by omega)).symm

/-- The loop calls those that do not handle it and the first one that does. -/
theorem toFirstHandlingFrom_eq (hs : s.Holds adapters) (handles : Adapter → Bool) (i : Nat) :
    s.toFirstHandlingFrom handles i =
      (adapters.drop i).takeWhile (fun adapter => !handles adapter) ++
        ((adapters.drop i).find? handles).toList := by
  fun_induction toFirstHandlingFrom s handles i with
  | case1 i hi hnone =>
      rw [hs.slots, List.getElem?_eq_none_iff] at hnone
      rw [List.drop_eq_nil_of_le hnone]
      rfl
  | case2 i hi adapter hsome hhandles =>
      rw [hs.slots, List.getElem?_eq_some_iff] at hsome
      obtain ⟨hlt, rfl⟩ := hsome
      rw [List.drop_eq_getElem_cons hlt, List.takeWhile_cons_of_neg (by simp [hhandles]),
        List.find?_cons_of_pos hhandles]
      rfl
  | case3 i hi adapter hsome hhandles ih =>
      rw [hs.slots, List.getElem?_eq_some_iff] at hsome
      obtain ⟨hlt, rfl⟩ := hsome
      rw [ih, List.drop_eq_getElem_cons hlt, List.takeWhile_cons_of_pos (by simp [hhandles]),
        List.find?_cons_of_neg hhandles]
      rfl
  | case4 i hi =>
      have hfits := hs.fits
      rw [List.drop_eq_nil_of_le (by omega)]
      rfl

theorem isInSessionFrom_eq (hs : s.Holds adapters) (isInSession : Adapter → Bool) (i : Nat) :
    s.isInSessionFrom isInSession i = (adapters.drop i).any isInSession := by
  fun_induction isInSessionFrom s isInSession i with
  | case1 i hi hnone =>
      rw [hs.slots, List.getElem?_eq_none_iff] at hnone
      rw [List.drop_eq_nil_of_le hnone]
      rfl
  | case2 i hi adapter hsome hsession =>
      rw [hs.slots, List.getElem?_eq_some_iff] at hsome
      obtain ⟨hlt, rfl⟩ := hsome
      rw [List.drop_eq_getElem_cons hlt, List.any_cons, hsession, Bool.true_or]
  | case3 i hi adapter hsome hsession ih =>
      rw [hs.slots, List.getElem?_eq_some_iff] at hsome
      obtain ⟨hlt, rfl⟩ := hsome
      rw [ih, List.drop_eq_getElem_cons hlt, List.any_cons, Bool.eq_false_of_not_eq_true hsession,
        Bool.false_or]
  | case4 i hi =>
      have hfits := hs.fits
      rw [List.drop_eq_nil_of_le (by omega)]
      rfl

/-- The scan only asks the adapters in the array. -/
theorem evtMaskFrom_congr {evtMask other : Adapter → BitVec 32}
    (hsame : ∀ i adapter, s.mLocAdapters i = some adapter → evtMask adapter = other adapter)
    (mask : BitVec 32) (i : Nat) : s.evtMaskFrom evtMask mask i = s.evtMaskFrom other mask i := by
  fun_induction evtMaskFrom s evtMask mask i with
  | case1 mask i hi hnone => rw [evtMaskFrom, dif_pos hi, hnone]
  | case2 mask i hi adapter hsome ih =>
      rw [ih, hsame _ adapter hsome]
      conv_rhs => rw [evtMaskFrom, dif_pos hi, hsome]
  | case3 mask i hi => rw [evtMaskFrom, dif_neg hi]

/-- There is no room for another adapter in a full array. -/
theorem addAdapterFrom_full [DecidableEq Adapter] (hs : s.Holds adapters)
    (hfull : adapters.length = maxAdapters) (adapter : Adapter) (i : Nat) :
    s.addAdapterFrom (some adapter) i = (s, []) := by
  fun_induction addAdapterFrom s (some adapter) i with
  | case1 | case4 => rfl
  | case2 i hi hother hnone =>
      rw [hs.slots, List.getElem?_eq_none_iff] at hnone
      omega
  | case3 i hi hother hsome ih => exact ih

theorem Holds.added_iff (hs : s.Holds adapters) (adapter : Adapter) :
    (∃ i, s.mLocAdapters i = some adapter) ↔ adapter ∈ adapters := by
  constructor
  · rintro ⟨i, hslot⟩
    rw [hs.slots] at hslot
    exact List.mem_of_getElem? hslot
  · intro hmem
    obtain ⟨i, hi, rfl⟩ := List.mem_iff_getElem.mp hmem
    have hfits := hs.fits
    exact ⟨⟨i, by omega⟩, by rw [hs.slots, List.getElem?_eq_getElem hi]⟩

end LocApiBase

/-! ## The registration -/

namespace Registration

open LocApiBase

variable {excludedMask : BitVec 32} {s next : Registration Adapter}

/-- The modem was opened with the mask of the adapters, or there are none. -/
structure Settled (s : Registration Adapter) : Prop where
  closed : s.registered = none → ∀ adapter, ¬ s.Added adapter
  opened : ∀ mask ∈ s.registered, mask = s.getEvtMask

/-- The array is well formed, and what is not settled is on its way to the message
thread. -/
structure Kept (excludedMask : BitVec 32) (s : Registration Adapter) : Prop where
  holds : ∃ adapters, s.api.Holds adapters
  excluded : s.api.mExcludedMask = excludedMask
  settled : s.running = true → s.queue = [] → s.Settled

theorem kept_new (mEvtMask : Adapter → BitVec 32) :
    (new excludedMask mEvtMask).Kept excludedMask where
  holds := ⟨[], holds_new excludedMask⟩
  excluded := rfl
  settled _ _ :=
    { closed := by rintro - adapter ⟨i, ⟨⟩⟩
      opened := by rintro mask ⟨⟩ }

/-- A message is on its way. -/
theorem Kept.of_queue (hholds : ∃ adapters, next.api.Holds adapters)
    (hexcluded : next.api.mExcludedMask = excludedMask) (hqueue : next.queue ≠ []) :
    next.Kept excludedMask :=
  ⟨hholds, hexcluded, fun _ hempty => absurd hempty hqueue⟩

theorem kept_open (hholds : ∃ adapters, s.api.Holds adapters)
    (hexcluded : s.api.mExcludedMask = excludedMask) : s.«open».Kept excludedMask := by
  unfold «open»
  split
  next =>
    refine ⟨hholds, hexcluded, fun _ _ => ⟨fun hnone => (by cases hnone), ?_⟩⟩
    rintro _ ⟨⟩
    rfl
  next hstopped => exact ⟨hholds, hexcluded, fun hrunning => absurd hrunning hstopped⟩

variable [DecidableEq Adapter]

theorem kept_construct {adapter : Adapter} {mask : BitVec 32} (hs : s.Kept excludedMask)
    (hnext : s.step (.construct adapter mask) = some next) : next.Kept excludedMask := by
  obtain ⟨adapters, hholds⟩ := hs.holds
  simp only [step, toAllFrom_eq hholds, List.drop_zero] at hnext
  split at hnext
  case isTrue => cases hnext
  next hnew =>
  cases hnext
  by_cases hroom : adapters.length < maxAdapters
  · rw [addAdapter, addAdapterFrom_some hholds hroom adapter (Nat.zero_le _) (by simp), if_neg hnew]
    exact Kept.of_queue ⟨_, hholds.setLast hroom hnew⟩ hs.excluded (by simp [afterCall, after])
  · have hfull : adapters.length = maxAdapters :=
      Nat.le_antisymm hholds.fits (Nat.le_of_not_lt hroom)
    rw [addAdapter, addAdapterFrom_full hholds hfull]
    refine ⟨⟨adapters, hholds⟩, hs.excluded, fun hrunning hempty => ?_⟩
    obtain ⟨hclosed, hopened⟩ := hs.settled hrunning hempty
    have hother : ∀ i other, s.api.mLocAdapters i = some other →
        Function.update s.mEvtMask adapter mask other = s.mEvtMask other := by
      intro i other hslot
      refine Function.update_of_ne ?_ _ _
      rintro rfl
      exact hnew ((hholds.added_iff other).mp ⟨i, hslot⟩)
    refine ⟨hclosed, fun m hm => (hopened m hm).trans ?_⟩
    rw [getEvtMask, LocApiBase.getEvtMask, ← evtMaskFrom_congr hother]
    rfl

theorem kept_destruct {adapter : Adapter} (hs : s.Kept excludedMask)
    (hnext : s.step (.destruct adapter) = some next) : next.Kept excludedMask := by
  obtain ⟨adapters, hholds⟩ := hs.holds
  cases hnext
  have hexcluded : (s.api.removeAdapter (some adapter)).1.mExcludedMask = excludedMask :=
    (excluded_removeAdapterFrom (some adapter) 0).trans hs.excluded
  by_cases hmem : adapter ∈ adapters
  · obtain ⟨rest, hrest, hperm, hevents⟩ :=
      removeAdapterFrom_some hholds hmem (Nat.zero_le _) (by simp)
    rw [afterCall, removeAdapter, hevents]
    split
    next hone =>
      -- The last adapter is gone, and the modem is closed.
      have hnil : rest = [] := by
        rw [List.eq_nil_iff_length_eq_zero, hperm.length_eq, List.length_erase_of_mem hmem, hone]
      refine ⟨⟨rest, hrest⟩, hexcluded, fun _ _ => ⟨fun _ other hadded => ?_, ?_⟩⟩
      · have hother := (hrest.added_iff other).mp hadded
        rw [hnil] at hother
        cases hother
      · rintro mask ⟨⟩
    next => exact Kept.of_queue ⟨rest, hrest⟩ hexcluded (by simp [after])
  · have habsent : ∀ a ∈ some adapter, a ∉ adapters := by
      rintro a ⟨⟩
      exact hmem
    rw [afterCall, removeAdapter, removeAdapterFrom_absent hholds habsent]
    exact ⟨⟨adapters, hholds⟩, hs.excluded, hs.settled⟩

theorem kept_step {action : RegistrationAction Adapter} (hs : s.Kept excludedMask)
    (hnext : s.step action = some next) : next.Kept excludedMask := by
  cases action with
  | construct adapter mask => exact kept_construct hs hnext
  | destruct adapter => exact kept_destruct hs hnext
  | updateEvtMask adapter event isEnabled =>
      cases hnext
      exact Kept.of_queue hs.holds hs.excluded (by simp)
  | engineDown =>
      cases hnext
      exact ⟨hs.holds, hs.excluded, fun hrunning => by cases hrunning⟩
  | engineUp =>
      cases hnext
      exact Kept.of_queue hs.holds hs.excluded (by simp)
  | process =>
      simp only [step] at hnext
      split at hnext
      · cases hnext
      · cases hnext
        exact kept_open hs.holds hs.excluded
      · cases hnext
        exact kept_open hs.holds hs.excluded

theorem kept_of_reachable {mEvtMask : Adapter → BitVec 32}
    (hreach : (system excludedMask mEvtMask).Reachable s) : s.Kept excludedMask := by
  have hstep : ∀ (state : Registration Adapter) (action : RegistrationAction Adapter)
      (next : Registration Adapter), state.Kept excludedMask →
      (system excludedMask mEvtMask).step state action = some next → next.Kept excludedMask :=
    fun _ _ _ hs hnext => kept_step hs hnext
  exact hreach.invariant (kept_new mEvtMask) hstep

omit [DecidableEq Adapter] in
theorem getEvtMask_getLsbD (hs : s.Kept excludedMask) (bit : Nat) :
    s.getEvtMask.getLsbD bit = true ↔
      (∃ adapter, s.Added adapter ∧ (s.mEvtMask adapter).getLsbD bit = true) ∧
        excludedMask.getLsbD bit = false := by
  obtain ⟨adapters, hholds⟩ := hs.holds
  have hscan := evtMaskFrom_getLsbD hholds s.mEvtMask 0 0 bit
  have hzero : (0 : BitVec 32).getLsbD bit = false := BitVec.getLsbD_zero
  rw [hzero, Bool.false_or, List.drop_zero] at hscan
  rw [getEvtMask, LocApiBase.getEvtMask, BitVec.getLsbD_and, hscan, hs.excluded,
    Bool.and_eq_true, List.any_eq_true, BitVec.getLsbD_not]
  have hadded : ∀ adapter, s.Added adapter ↔ adapter ∈ adapters := hholds.added_iff
  simp only [hadded]
  constructor
  · rintro ⟨hsome, hnot⟩
    rw [Bool.and_eq_true, Bool.not_eq_true'] at hnot
    exact ⟨hsome, hnot.2⟩
  · rintro ⟨⟨adapter, hmem, hbit⟩, hnot⟩
    refine ⟨⟨adapter, hmem, hbit⟩, ?_⟩
    rw [hnot, Bool.and_eq_true, decide_eq_true_eq]
    exact ⟨BitVec.lt_of_getLsbD hbit, rfl⟩

/-- Whenever a modem runs and no message is pending, it reports exactly the events that
some adapter asks for and that are not excluded; it is closed only without adapters. -/
theorem registered_events {mEvtMask : Adapter → BitVec 32}
    (hreach : (system excludedMask mEvtMask).Reachable s) (hrunning : s.running = true)
    (hqueue : s.queue = []) :
    (s.registered = none → ∀ adapter, ¬ s.Added adapter) ∧
      ∀ mask ∈ s.registered, ∀ bit, mask.getLsbD bit = true ↔
        (∃ adapter, s.Added adapter ∧ (s.mEvtMask adapter).getLsbD bit = true) ∧
          excludedMask.getLsbD bit = false := by
  have hkept := kept_of_reachable hreach
  obtain ⟨hclosed, hopened⟩ := hkept.settled hrunning hqueue
  refine ⟨hclosed, fun mask hmask bit => ?_⟩
  rw [hopened mask hmask]
  exact getEvtMask_getLsbD hkept bit

/-- An adapter was constructed. -/
def constructed : Registration Nat where
  api := (LocApiBase.new 0b100#32).setAdapter ⟨0, by decide⟩ (some 1)
  mEvtMask := Function.update (fun _ => 0#32) 1 0b110#32
  queue := [.locOpenMsg]
  running := true
  registered := none

theorem step_construct :
    (new 0b100#32 fun _ : Nat => 0#32).step (.construct 1 0b110#32) = some constructed := by
  have hholds : LocApiBase.Holds (.new 0b100#32) ([] : List Nat) := holds_new _
  have hadd := addAdapterFrom_some hholds (by decide) 1 (Nat.zero_le _) (by simp)
  have hcall : (LocApiBase.new 0b100#32).addAdapter (some 1) =
      ((LocApiBase.new 0b100#32).setAdapter ⟨0, by decide⟩ (some 1), [.locOpenMsg]) := hadd
  rw [step, if_neg (by rw [new, toAllFrom_eq hholds]; simp)]
  simp only [new, hcall]
  rfl

theorem run_construct :
    (system 0b100#32 fun _ : Nat => 0#32).run [.construct 1 0b110#32, .process] =
      some { constructed with queue := [] }.«open» := by
  rw [Transition.System.run, Transition.System.runFrom_cons]
  exact (congrArg (Option.bind · _) step_construct).trans rfl

theorem registered_events_constructed :
    ∃ s, (system 0b100#32 fun _ : Nat => 0#32).run [.construct 1 0b110#32, .process] = some s ∧
      ∀ mask ∈ s.registered, ∀ bit, mask.getLsbD bit = true ↔
        (∃ adapter, s.Added adapter ∧ (s.mEvtMask adapter).getLsbD bit = true) ∧
          (0b100#32).getLsbD bit = false := by
  exact ⟨_, run_construct, (registered_events ⟨_, run_construct⟩ rfl rfl).2⟩

/-- In every state, an event for all adapters is told to each of them once; one for the
first that handles it is told to those before it in the same order, to it, and to no
other; and a session is one of an adapter in the array. -/
theorem events_delivered {mEvtMask : Adapter → BitVec 32}
    (hreach : (system excludedMask mEvtMask).Reachable s) :
    ((s.api.toAllFrom 0).Nodup ∧ ∀ adapter, adapter ∈ s.api.toAllFrom 0 ↔ s.Added adapter) ∧
      (∀ handles, s.api.toFirstHandlingFrom handles 0 =
        (s.api.toAllFrom 0).takeWhile (fun adapter => !handles adapter) ++
          ((s.api.toAllFrom 0).find? handles).toList) ∧
      ∀ isInSession, s.api.isInSessionFrom isInSession 0 = true ↔
        ∃ adapter, s.Added adapter ∧ isInSession adapter = true := by
  obtain ⟨adapters, hholds⟩ := (kept_of_reachable hreach).holds
  have hadded : ∀ adapter, s.Added adapter ↔ adapter ∈ adapters := hholds.added_iff
  rw [toAllFrom_eq hholds, List.drop_zero]
  refine ⟨⟨hholds.nodup, fun adapter => (hadded adapter).symm⟩, fun handles => ?_,
    fun isInSession => ?_⟩
  · rw [toFirstHandlingFrom_eq hholds, List.drop_zero]
  · rw [isInSessionFrom_eq hholds, List.drop_zero, List.any_eq_true]
    simp only [hadded]

theorem events_delivered_constructed :
    ∃ s, (system 0b100#32 fun _ : Nat => 0#32).run [.construct 1 0b110#32, .process] = some s ∧
      (s.api.toAllFrom 0).Nodup ∧ ∀ adapter, adapter ∈ s.api.toAllFrom 0 ↔ s.Added adapter :=
  ⟨_, run_construct, (events_delivered ⟨_, run_construct⟩).1⟩

end Registration

end Serrano.Core
