import Mathlib.Data.Finset.Card
import Mathlib.Data.List.Nodup

/-! # The adapters of a `LocApiBase`

`LocApiBase` keeps its adapters in an array of fixed size. Events are fanned out
to the entries before the first null, so the entries have to be a prefix of the
array. `removeAdapter` moves the last entry into the hole it makes. Pointers are
optional values, and a null adapter may be passed to either call.
-/

namespace Serrano.Core

/-- `MAX_ADAPTERS`. -/
def maxAdapters : Nat := 10

/-- What the calls do besides changing the array. -/
inductive LocApiEvent
  | locOpenMsg
  | close
  deriving DecidableEq

/-- The members that the calls use. -/
structure LocApiBase (Adapter : Type*) where
  mLocAdapters : Fin maxAdapters → Option Adapter
  mExcludedMask : BitVec 32

namespace LocApiBase

variable {Adapter : Type*}

/-- The constructor. -/
def new (excludedMask : BitVec 32) : LocApiBase Adapter where
  mLocAdapters _ := none
  mExcludedMask := excludedMask

variable (s : LocApiBase Adapter)

def setAdapter (i : Fin maxAdapters) (adapter : Option Adapter) : LocApiBase Adapter :=
  { s with mLocAdapters := Function.update s.mLocAdapters i adapter }

@[simp] theorem setAdapter_self (i : Fin maxAdapters) (adapter : Option Adapter) :
    (s.setAdapter i adapter).mLocAdapters i = adapter := Function.update_self _ _ _

theorem setAdapter_of_ne {i j : Fin maxAdapters} (hne : j ≠ i) (adapter : Option Adapter) :
    (s.setAdapter i adapter).mLocAdapters j = s.mLocAdapters j := Function.update_of_ne hne _ _

/-- `while (++i < MAX_ADAPTERS && mLocAdapters[i] != NULL);`, where it leaves `i`. -/
def skipAdapters (i : Nat) : Nat :=
  if hi : i + 1 < maxAdapters then
    if s.mLocAdapters ⟨i + 1, hi⟩ = none then i + 1 else skipAdapters (i + 1)
  else i + 1
termination_by maxAdapters - i

theorem lt_skipAdapters (i : Nat) : i < s.skipAdapters i := by
  fun_induction skipAdapters s i with
  | case1 | case3 => omega
  | case2 i hi hnone ih => omega

theorem skipAdapters_le {i : Nat} (hi : i < maxAdapters) : s.skipAdapters i ≤ maxAdapters := by
  fun_induction skipAdapters s i with
  | case1 i hnext hnone => omega
  | case2 i hnext hnone ih => exact ih hnext
  | case3 i hnext => omega

/-- One removal at an index: where it leaves `i`, and whether the array is empty. -/
def removeAt (i : Fin maxAdapters) : LocApiBase Adapter × Fin maxAdapters :=
  let s := s.setAdapter i none
  let last : Fin maxAdapters := ⟨s.skipAdapters i - 1,
    by have := s.lt_skipAdapters i; have := s.skipAdapters_le i.isLt; omega⟩
  ((s.setAdapter i (s.mLocAdapters last)).setAdapter last none, last)

/-- The loop of `getEvtMask` from an index on. The adapters answer for their
own masks, which may change at any time. -/
def evtMaskFrom (getEvtMask : Adapter → BitVec 32) (mask : BitVec 32) (i : Nat) : BitVec 32 :=
  if hi : i < maxAdapters then
    match s.mLocAdapters ⟨i, hi⟩ with
    | none => mask
    | some adapter => evtMaskFrom getEvtMask (mask ||| getEvtMask adapter) (i + 1)
  else mask
termination_by maxAdapters - i

def getEvtMask (adapterMask : Adapter → BitVec 32) : BitVec 32 :=
  s.evtMaskFrom adapterMask 0 0 &&& ~~~ s.mExcludedMask

section Identity

variable [DecidableEq Adapter]

/-- The loop of `addAdapter` from an index on. -/
def addAdapterFrom (adapter : Option Adapter) (i : Nat) :
    LocApiBase Adapter × List LocApiEvent :=
  if hi : i < maxAdapters then
    if s.mLocAdapters ⟨i, hi⟩ = adapter then (s, [])
    else if s.mLocAdapters ⟨i, hi⟩ = none then (s.setAdapter ⟨i, hi⟩ adapter, [.locOpenMsg])
    else addAdapterFrom adapter (i + 1)
  else (s, [])
termination_by maxAdapters - i

def addAdapter (adapter : Option Adapter) : LocApiBase Adapter × List LocApiEvent :=
  s.addAdapterFrom adapter 0

/-- The loop of `removeAdapter` from an index on. -/
def removeAdapterFrom (s : LocApiBase Adapter) (adapter : Option Adapter) (i : Nat) :
    LocApiBase Adapter × List LocApiEvent :=
  if hi : i < maxAdapters then
    if s.mLocAdapters ⟨i, hi⟩ = none then (s, [])
    else if s.mLocAdapters ⟨i, hi⟩ = adapter then
      let last := (s.removeAt ⟨i, hi⟩).2
      let (rest, events) := removeAdapterFrom (s.removeAt ⟨i, hi⟩).1 adapter (last + 1)
      (rest, (if last.val = 0 then .close else .locOpenMsg) :: events)
    else removeAdapterFrom s adapter (i + 1)
  else (s, [])
termination_by maxAdapters - i
decreasing_by
  · have := (s.setAdapter ⟨i, hi⟩ none).lt_skipAdapters i
    simp only [removeAt]
    omega
  · omega

def removeAdapter (adapter : Option Adapter) : LocApiBase Adapter × List LocApiEvent :=
  s.removeAdapterFrom adapter 0

end Identity

/-! ## What the array holds -/

/-- The array is a list without duplicates followed by nulls. -/
structure Holds (s : LocApiBase Adapter) (adapters : List Adapter) : Prop where
  nodup : adapters.Nodup
  fits : adapters.length ≤ maxAdapters
  slots : ∀ i : Fin maxAdapters, s.mLocAdapters i = adapters[i.val]?

section Calls

variable {s} {adapters : List Adapter}

theorem holds_new (excludedMask : BitVec 32) :
    (new excludedMask : LocApiBase Adapter).Holds [] :=
  ⟨List.nodup_nil, Nat.zero_le _, fun _ => rfl⟩

theorem Holds.setLast (hs : s.Holds adapters) (hroom : adapters.length < maxAdapters)
    {adapter : Adapter} (hnew : adapter ∉ adapters) :
    (s.setAdapter ⟨adapters.length, hroom⟩ (some adapter)).Holds (adapters ++ [adapter]) where
  nodup := by
    rw [List.nodup_append_comm]
    exact List.nodup_cons.mpr ⟨hnew, hs.nodup⟩
  fits := by
    rw [List.length_append, List.length_singleton]
    exact hroom
  slots i := by
    by_cases hi : i = ⟨adapters.length, hroom⟩
    · subst hi
      simp
    · have hne : i.val ≠ adapters.length := fun heq => hi (Fin.ext heq)
      rw [setAdapter_of_ne _ hi, hs.slots, List.getElem?_append]
      split_ifs with hlt
      · rfl
      · rw [List.getElem?_eq_none (by omega), List.getElem?_eq_none]
        simp only [List.length_singleton]
        omega

/-- Past the hole, the entries still are those of the list. -/
theorem skipAdapters_eq (hfits : adapters.length ≤ maxAdapters) {i : Nat}
    (hslots : ∀ j : Fin maxAdapters, i < j.val → s.mLocAdapters j = adapters[j.val]?)
    (hlt : i < adapters.length) : s.skipAdapters i = adapters.length := by
  fun_induction skipAdapters s i with
  | case1 i hnext hnone =>
      simp only [hslots ⟨i + 1, hnext⟩ (Nat.lt_succ_self i), List.getElem?_eq_none_iff] at hnone
      omega
  | case2 i hnext hsome ih =>
      simp only [hslots ⟨i + 1, hnext⟩ (Nat.lt_succ_self i), List.getElem?_eq_none_iff] at hsome
      exact ih (fun j hj => hslots j (by omega)) (by omega)
  | case3 i hnext => omega

/-- The list with its last entry moved into a hole. -/
def fillHole (adapters : List Adapter) (i : Nat) : List Adapter :=
  match adapters.getLast? with
  | none => []
  | some last => (adapters.set i last).dropLast

theorem fillHole_concat (adapters : List Adapter) (last : Adapter) (i : Nat) :
    fillHole (adapters ++ [last]) i =
      if i < adapters.length then adapters.set i last else adapters := by
  simp only [fillHole, List.getLast?_append, List.getLast?_singleton, Option.some_or]
  split_ifs with hi
  · rw [List.set_append_left _ _ hi, List.dropLast_concat]
  · rw [List.set_append_right _ _ (by omega)]
    cases hsub : i - adapters.length with
    | zero => simp
    | succ => simp

theorem fillHole_perm {i : Nat} (hi : i < adapters.length) :
    (fillHole adapters i).Perm (adapters.eraseIdx i) := by
  induction adapters using List.reverseRecOn with
  | nil => simp at hi
  | append_singleton front last =>
      rw [fillHole_concat]
      rw [List.length_append, List.length_singleton] at hi
      split_ifs with hfront
      · rw [List.eraseIdx_append_of_lt_length hfront]
        exact (List.set_perm_cons_eraseIdx hfront last).trans (List.perm_append_singleton _ _).symm
      · obtain rfl : i = front.length := by omega
        rw [List.eraseIdx_append_of_length_le le_rfl, Nat.sub_self]
        simp

theorem fillHole_getElem? {i : Nat} (hi : i < adapters.length) (j : Nat) :
    (fillHole adapters i)[j]? =
      if j + 1 < adapters.length then
        if j = i then adapters[adapters.length - 1]? else adapters[j]?
      else none := by
  induction adapters using List.reverseRecOn with
  | nil => simp at hi
  | append_singleton front last =>
      rw [fillHole_concat]
      simp only [List.length_append, List.length_singleton, Nat.add_lt_add_iff_right]
      grind

/-- A removal moves the last entry into the hole. -/
theorem removeAt_eq (hs : s.Holds adapters) {i : Fin maxAdapters} (hi : i.val < adapters.length) :
    (s.removeAt i).2.val = adapters.length - 1 ∧
      (s.removeAt i).1.Holds (fillHole adapters i) := by
  have hskip : (s.setAdapter i none).skipAdapters i = adapters.length := by
    refine skipAdapters_eq hs.fits (fun j hj => ?_) hi
    rw [setAdapter_of_ne _ (fun heq => by simp [heq] at hj), hs.slots]
  have hperm := fillHole_perm hi
  refine ⟨by simp only [removeAt, hskip], ?_, ?_, ?_⟩
  · exact hperm.nodup_iff.mpr (hs.nodup.sublist (List.eraseIdx_sublist _ _))
  · rw [hperm.length_eq, List.length_eraseIdx_of_lt hi]
    exact Nat.le_trans (Nat.sub_le _ _) hs.fits
  · intro j
    simp only [removeAt, hskip]
    rw [fillHole_getElem? hi]
    by_cases hlast : j.val = adapters.length - 1
    · rw [show j = ⟨adapters.length - 1, by omega⟩ from Fin.ext hlast, setAdapter_self,
        if_neg (by simp only; omega)]
    · rw [setAdapter_of_ne _ (fun heq => hlast (congrArg Fin.val heq))]
      by_cases hhole : j = i
      · subst hhole
        rw [setAdapter_self, setAdapter_of_ne _ (fun heq => hlast (congrArg Fin.val heq).symm),
          hs.slots, if_pos (by omega), if_pos rfl]
      · have hne : j.val ≠ i.val := fun heq => hhole (Fin.ext heq)
        rw [setAdapter_of_ne _ hhole, setAdapter_of_ne _ hhole, hs.slots, if_neg hne]
        split_ifs with hlt
        · rfl
        · rw [List.getElem?_eq_none (by omega)]

/-- The scan ors the masks of the rest of the list. -/
theorem evtMaskFrom_getLsbD (hs : s.Holds adapters) (evtMask : Adapter → BitVec 32)
    (mask : BitVec 32) (i bit : Nat) :
    (s.evtMaskFrom evtMask mask i).getLsbD bit =
      (mask.getLsbD bit || (adapters.drop i).any fun adapter => (evtMask adapter).getLsbD bit) := by
  fun_induction evtMaskFrom s evtMask mask i with
  | case1 mask i hi hnone =>
      rw [hs.slots, List.getElem?_eq_none_iff] at hnone
      simp [List.drop_eq_nil_of_le hnone]
  | case2 mask i hi adapter hsome ih =>
      rw [hs.slots, List.getElem?_eq_some_iff] at hsome
      obtain ⟨hlt, rfl⟩ := hsome
      rw [ih, List.drop_eq_getElem_cons hlt, List.any_cons, BitVec.getLsbD_or, Bool.or_assoc]
  | case3 mask i hi =>
      have hfits := hs.fits
      simp [List.drop_eq_nil_of_le (show adapters.length ≤ i by omega)]

variable [DecidableEq Adapter]

theorem addAdapterFrom_none (i : Nat) :
    s.addAdapterFrom none i = (s, []) := by
  fun_induction addAdapterFrom s none i with
  | case1 | case4 => rfl
  | case2 i hi hother hnone => exact absurd hnone hother
  | case3 i hi hother hsome ih => exact ih

/-- `addAdapter` stops at the adapter itself or at the first null. -/
theorem addAdapterFrom_some (hs : s.Holds adapters) (hroom : adapters.length < maxAdapters)
    (adapter : Adapter) {i : Nat} (hle : i ≤ adapters.length) (hpast : adapter ∉ adapters.take i) :
    s.addAdapterFrom (some adapter) i =
      if adapter ∈ adapters then (s, [])
      else (s.setAdapter ⟨adapters.length, hroom⟩ (some adapter), [.locOpenMsg]) := by
  fun_induction addAdapterFrom s (some adapter) i with
  | case1 i hi hfound =>
      rw [hs.slots] at hfound
      rw [if_pos (List.mem_of_getElem? hfound)]
  | case2 i hi hother hnone =>
      rw [hs.slots, List.getElem?_eq_none_iff] at hnone
      obtain rfl : i = adapters.length := Nat.le_antisymm hle hnone
      rw [List.take_length] at hpast
      rw [if_neg hpast]
  | case3 i hi hother hsome ih =>
      rw [hs.slots] at hother hsome
      have hlt : i < adapters.length := by simpa using hsome
      apply ih hlt
      rw [List.take_succ_eq_append_getElem hlt, List.mem_append, List.mem_singleton, not_or]
      refine ⟨hpast, fun heq => hother ?_⟩
      rw [heq, List.getElem?_eq_getElem hlt]
  | case4 i hi => omega

/-- Without the adapter, the loop changes nothing. -/
theorem removeAdapterFrom_absent (hs : s.Holds adapters) {adapter : Option Adapter}
    (habsent : ∀ a ∈ adapter, a ∉ adapters) (i : Nat) :
    s.removeAdapterFrom adapter i = (s, []) := by
  induction hlength : maxAdapters - i generalizing i with
  | zero =>
      rw [removeAdapterFrom, dif_neg (by omega)]
  | succ n ih =>
      rw [removeAdapterFrom]
      have hi : i < maxAdapters := by omega
      have hother : s.mLocAdapters ⟨i, hi⟩ ≠ none → s.mLocAdapters ⟨i, hi⟩ ≠ adapter := by
        intro hsome hfound
        obtain ⟨a, hslot⟩ := Option.ne_none_iff_exists'.mp hsome
        rw [hslot] at hfound
        rw [hs.slots] at hslot
        exact habsent a hfound.symm (List.mem_of_getElem? hslot)
      rw [dif_pos hi]
      split_ifs with hnone hfound
      · rfl
      · exact absurd hfound (hother hnone)
      · exact ih (i + 1) (by omega)

/-- `removeAdapter` goes on to the adapter, takes it out, and stops at the null
it leaves. -/
theorem removeAdapterFrom_some (hs : s.Holds adapters) {adapter : Adapter}
    (hmem : adapter ∈ adapters) {i : Nat} (hle : i ≤ adapters.length)
    (hpast : adapter ∉ adapters.take i) :
    ∃ rest, (s.removeAdapterFrom (some adapter) i).1.Holds rest ∧
      rest.Perm (adapters.erase adapter) ∧ (s.removeAdapterFrom (some adapter) i).2 =
        [if adapters.length = 1 then .close else .locOpenMsg] := by
  have hlt : i < adapters.length := by
    rcases Nat.lt_or_eq_of_le hle with hlt | rfl
    · exact hlt
    · rw [List.take_length] at hpast
      exact absurd hmem hpast
  have hi : i < maxAdapters := Nat.lt_of_lt_of_le hlt hs.fits
  have hslot : s.mLocAdapters ⟨i, hi⟩ = some adapters[i] := by
    rw [hs.slots]
    exact List.getElem?_eq_getElem hlt
  rw [removeAdapterFrom, dif_pos hi, if_neg (by rw [hslot]; exact Option.some_ne_none _)]
  by_cases hfound : adapters[i] = adapter
  · rw [if_pos (by rw [hslot, hfound])]
    obtain ⟨hlast, hholds⟩ := removeAt_eq hs (i := ⟨i, hi⟩) hlt
    have hperm : (fillHole adapters i).Perm (adapters.erase adapter) := by
      rw [← hfound, hs.nodup.erase_getElem i hlt]
      exact fillHole_perm hlt
    have habsent : ∀ a ∈ some adapter, a ∉ fillHole adapters i := by
      rintro a ha hin
      obtain rfl : adapter = a := Option.some.inj ha
      exact hs.nodup.not_mem_erase (hperm.mem_iff.mp hin)
    simp only [removeAdapterFrom_absent hholds habsent]
    refine ⟨fillHole adapters i, hholds, hperm, ?_⟩
    rw [hlast]
    congr 1
    exact if_congr (by omega) rfl rfl
  · rw [if_neg (by rw [hslot]; exact fun heq => hfound (Option.some.inj heq))]
    apply removeAdapterFrom_some hs hmem hlt
    rw [List.take_succ_eq_append_getElem hlt, List.mem_append, List.mem_singleton, not_or]
    exact ⟨hpast, fun heq => hfound heq.symm⟩
termination_by adapters.length - i

end Calls

end LocApiBase

/-! ## Sequences of calls -/

/-- A call of `addAdapter` or of `removeAdapter`. -/
inductive AdapterCall (Adapter : Type*)
  | addAdapter (adapter : Option Adapter)
  | removeAdapter (adapter : Option Adapter)
  deriving DecidableEq

namespace AdapterCall

variable {Adapter : Type*} [DecidableEq Adapter]

/-- The adapters that are to be held after a call. -/
def after (held : Finset Adapter) : AdapterCall Adapter → Finset Adapter
  | addAdapter none | removeAdapter none => held
  | addAdapter (some adapter) => insert adapter held
  | removeAdapter (some adapter) => held.erase adapter

/-- The adapters added and not since removed. -/
def added (calls : List (AdapterCall Adapter)) : Finset Adapter := calls.foldl after ∅

/-- For each call, whether it takes away the last adapter. -/
def empties (held : Finset Adapter) : List (AdapterCall Adapter) → List Bool
  | [] => []
  | call :: rest =>
      decide (held.Nonempty ∧ call.after held = ∅) :: empties (call.after held) rest

end AdapterCall

namespace LocApiBase

variable {Adapter : Type*} [DecidableEq Adapter] (s : LocApiBase Adapter)

def call : AdapterCall Adapter → LocApiBase Adapter × List LocApiEvent
  | .addAdapter adapter => s.addAdapter adapter
  | .removeAdapter adapter => s.removeAdapter adapter

/-- The state after the calls. -/
def calls (calls : List (AdapterCall Adapter)) : LocApiBase Adapter :=
  calls.foldl (fun s call => (s.call call).1) s

/-- What each of the calls does besides. -/
def trace : LocApiBase Adapter → List (AdapterCall Adapter) → List (List LocApiEvent)
  | _, [] => []
  | s, call :: rest => (s.call call).2 :: trace (s.call call).1 rest

variable {s}

/-- One call keeps the array a prefix without holes or duplicates. -/
theorem call_holds {adapters : List Adapter} (hs : s.Holds adapters)
    (hfew : adapters.toFinset.card < maxAdapters) (call : AdapterCall Adapter) :
    ∃ rest, (s.call call).1.Holds rest ∧ rest.toFinset = call.after adapters.toFinset ∧
      (s.call call).2.count .close =
        (decide (adapters.toFinset.Nonempty ∧ call.after adapters.toFinset = ∅)).toNat := by
  have hcard : adapters.toFinset.card = adapters.length := List.toFinset_card_of_nodup hs.nodup
  have hkept : (decide (adapters.toFinset.Nonempty ∧ adapters.toFinset = ∅)).toNat = 0 := by
    rw [decide_eq_false fun hboth => hboth.1.ne_empty hboth.2]
    rfl
  match call with
  | .addAdapter none =>
      refine ⟨adapters, ?_, rfl, ?_⟩
      · rw [LocApiBase.call, addAdapter, addAdapterFrom_none]
        exact hs
      · rw [LocApiBase.call, addAdapter, addAdapterFrom_none]
        exact hkept.symm
  | .addAdapter (some adapter) =>
      have hnonempty : ¬ (insert adapter adapters.toFinset = ∅) := Finset.insert_ne_empty _ _
      rw [LocApiBase.call, addAdapter,
        addAdapterFrom_some hs (hcard ▸ hfew) adapter (Nat.zero_le _) (by simp)]
      simp only [AdapterCall.after, hnonempty, and_false, decide_false, Bool.toNat_false]
      split_ifs with hmem
      · refine ⟨adapters, hs, ?_, rfl⟩
        rw [Finset.insert_eq_of_mem (List.mem_toFinset.mpr hmem)]
      · refine ⟨adapters ++ [adapter], hs.setLast (hcard ▸ hfew) hmem, ?_, rfl⟩
        rw [List.toFinset_append, Finset.union_comm]
        rfl
  | .removeAdapter none =>
      have habsent : ∀ a ∈ (none : Option Adapter), a ∉ adapters := fun _ hnone => by cases hnone
      refine ⟨adapters, ?_, rfl, ?_⟩
      · rw [LocApiBase.call, removeAdapter, removeAdapterFrom_absent hs habsent]
        exact hs
      · rw [LocApiBase.call, removeAdapter, removeAdapterFrom_absent hs habsent]
        exact hkept.symm
  | .removeAdapter (some adapter) =>
      simp only [LocApiBase.call, removeAdapter, AdapterCall.after]
      by_cases hmem : adapter ∈ adapters
      · obtain ⟨rest, hholds, hperm, hevents⟩ :=
          removeAdapterFrom_some hs hmem (Nat.zero_le _) (by simp)
        have hset : rest.toFinset = adapters.toFinset.erase adapter := by
          ext other
          rw [List.mem_toFinset, hperm.mem_iff, hs.nodup.mem_erase_iff, Finset.mem_erase,
            List.mem_toFinset]
        refine ⟨rest, hholds, hset, ?_⟩
        -- The array is empty afterwards exactly when there was one entry.
        have hsize : rest.length = adapters.length - 1 := by
          rw [hperm.length_eq, List.length_erase_of_mem hmem]
        have hpos : 0 < adapters.length := List.length_pos_of_mem hmem
        have hnonempty : adapters.toFinset.Nonempty := ⟨adapter, List.mem_toFinset.mpr hmem⟩
        have hempty : adapters.toFinset.erase adapter = ∅ ↔ adapters.length = 1 := by
          rw [← hset, List.toFinset_eq_empty_iff, List.eq_nil_iff_length_eq_zero, hsize]
          omega
        rw [hevents]
        simp only [hnonempty, true_and, hempty]
        split_ifs with hone <;> simp [hone]
      · have habsent : ∀ a ∈ some adapter, a ∉ adapters := by
          rintro a ha
          obtain rfl : adapter = a := Option.some.inj ha
          exact hmem
        have hsame : adapters.toFinset.erase adapter = adapters.toFinset :=
          Finset.erase_eq_of_notMem fun hin => hmem (List.mem_toFinset.mp hin)
        simp only [removeAdapterFrom_absent hs habsent, hsame]
        exact ⟨adapters, hs, rfl, hkept.symm⟩

theorem calls_holds {adapters : List Adapter} (hs : s.Holds adapters)
    (sequence : List (AdapterCall Adapter))
    (hfew : ∀ before, before <+: sequence →
      (before.foldl AdapterCall.after adapters.toFinset).card < maxAdapters) :
    (∃ rest, (s.calls sequence).Holds rest ∧
      rest.toFinset = sequence.foldl AdapterCall.after adapters.toFinset) ∧
      (s.trace sequence).map (List.count .close) =
        (AdapterCall.empties adapters.toFinset sequence).map Bool.toNat := by
  induction sequence generalizing s adapters with
  | nil => exact ⟨⟨adapters, hs, rfl⟩, rfl⟩
  | cons call sequence ih =>
      obtain ⟨rest, hholds, hset, hclose⟩ := call_holds hs (hfew [] (List.nil_prefix)) call
      have hrest := ih hholds (fun before hbefore => by
        rw [hset]
        exact hfew (call :: before) ((List.prefix_cons_inj call).mpr hbefore))
      rw [hset] at hrest
      refine ⟨hrest.1, ?_⟩
      simp only [trace, AdapterCall.empties, List.map_cons, hclose, hrest.2]

theorem excluded_addAdapterFrom (adapter : Option Adapter) (i : Nat) :
    (s.addAdapterFrom adapter i).1.mExcludedMask = s.mExcludedMask := by
  fun_induction addAdapterFrom s adapter i with
  | case1 | case2 | case4 => rfl
  | case3 i hi hother hsome ih => exact ih

theorem excluded_removeAdapterFrom (adapter : Option Adapter) (i : Nat) :
    (s.removeAdapterFrom adapter i).1.mExcludedMask = s.mExcludedMask := by
  fun_induction removeAdapterFrom s adapter i with
  | case1 | case4 => rfl
  | case2 s i hi hsome hfound last rest events hrest ih =>
      rw [hrest] at ih
      exact ih
  | case3 s i hi hsome hother ih => exact ih

theorem excluded_calls (sequence : List (AdapterCall Adapter)) :
    (s.calls sequence).mExcludedMask = s.mExcludedMask := by
  induction sequence generalizing s with
  | nil => rfl
  | cons call sequence ih =>
      rw [calls, List.foldl_cons]
      apply ih.trans
      cases call with
      | addAdapter adapter => exact excluded_addAdapterFrom adapter 0
      | removeAdapter adapter => exact excluded_removeAdapterFrom adapter 0

/-- While there is room, the array is a prefix that holds the adapters added and
not since removed, `close` is called by the removals that empty it, and the
event mask is the union of the masks of these adapters without the excluded one. -/
theorem adapters_tracked (excludedMask : BitVec 32) (sequence : List (AdapterCall Adapter))
    (hfew : ∀ before, before <+: sequence → (AdapterCall.added before).card < maxAdapters) :
    (∃ adapters, ((new excludedMask).calls sequence).Holds adapters ∧
      adapters.toFinset = AdapterCall.added sequence) ∧
      ((new excludedMask).trace sequence).map (List.count .close) =
        (AdapterCall.empties ∅ sequence).map Bool.toNat ∧
      ∀ (evtMask : Adapter → BitVec 32) (bit : Nat),
        (((new excludedMask).calls sequence).getEvtMask evtMask).getLsbD bit =
          (decide (∃ adapter ∈ AdapterCall.added sequence, (evtMask adapter).getLsbD bit = true) &&
            (~~~ excludedMask).getLsbD bit) := by
  obtain ⟨⟨adapters, hholds, hset⟩, hclose⟩ := calls_holds (holds_new excludedMask) sequence hfew
  refine ⟨⟨adapters, hholds, hset⟩, hclose, fun evtMask bit => ?_⟩
  have hadded : AdapterCall.added sequence = adapters.toFinset := hset.symm
  rw [getEvtMask, BitVec.getLsbD_and, evtMaskFrom_getLsbD hholds, excluded_calls, hadded]
  congr 1
  have hzero : (0 : BitVec 32).getLsbD bit = false := BitVec.getLsbD_zero
  rw [hzero, Bool.false_or, List.drop_zero, Bool.eq_iff_iff, List.any_eq_true, decide_eq_true_eq]
  simp only [List.mem_toFinset]

/-- The middle one of three adapters is removed, and one that is not held. -/
theorem adapters_tracked_removed :
    let sequence : List (AdapterCall Nat) := [.addAdapter (some 1), .addAdapter (some 2),
      .addAdapter (some 3), .removeAdapter (some 2), .removeAdapter (some 2)]
    (∃ adapters, ((new 0#32).calls sequence).Holds adapters ∧
      adapters.toFinset = AdapterCall.added sequence) ∧
      ((new 0#32).trace sequence).map (List.count .close) =
        (AdapterCall.empties ∅ sequence).map Bool.toNat ∧
      ∀ (evtMask : Nat → BitVec 32) (bit : Nat),
        (((new 0#32).calls sequence).getEvtMask evtMask).getLsbD bit =
          (decide (∃ adapter ∈ AdapterCall.added sequence, (evtMask adapter).getLsbD bit = true) &&
            (~~~ 0#32).getLsbD bit) :=
  adapters_tracked 0#32 _ (by simp only [← List.mem_inits]; decide)

end LocApiBase

end Serrano.Core
