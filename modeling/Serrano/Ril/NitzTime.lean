import Mathlib.Data.Fintype.Basic
import Mathlib.Data.List.Forall2
import Mathlib.Logic.Function.Basic
import Serrano.Foundation.Transition

/-! # The network time

Network time is not polled. When no client is connected, a copy of the last
indication is kept for the next one, in one variable for all slots, while the time
of its receipt is kept for each slot. The copy is stored with no lock. Every access
to the copy that holds no lock is one step, and so is every critical section under
the lock of a slot.
-/

namespace Serrano.Ril

/-- The arguments of `nitzTimeReceived`. -/
structure NitzIndication where
  nitzTime : List UInt8
  receivedTime : Int
  deriving DecidableEq

/-- An event as the client should be told of it, with whether a client was alive on
the slot, or what a client was told. -/
inductive NitzEntry
  | received (slotId : Nat) (event : NitzIndication) (connected : Bool)
  | delivered (slotId : Nat) (indication : NitzIndication)

namespace NitzEntry

def receivedOn (slotId : Nat) : NitzEntry → Option NitzIndication
  | .received slot event _ => if slot = slotId then some event else none
  | .delivered .. => none

def deliveredOn (slotId : Nat) : NitzEntry → Option NitzIndication
  | .received .. => none
  | .delivered slot indication => if slot = slotId then some indication else none

/-- What is still to be delivered on a slot. -/
def update (slotId : Nat) (missing : Option NitzIndication) :
    NitzEntry → Option NitzIndication
  | .received slot event connected =>
      if slot = slotId then if connected then none else some event else missing
  | .delivered slot indication =>
      if slot = slotId ∧ missing = some indication then none else missing

end NitzEntry

def receivedOn (history : List NitzEntry) (slotId : Nat) : List NitzIndication :=
  history.filterMap (NitzEntry.receivedOn slotId)

def deliveredOn (history : List NitzEntry) (slotId : Nat) : List NitzIndication :=
  history.filterMap (NitzEntry.deliveredOn slotId)

/-- The last event of a slot, if no client was there when it arrived and none was told
of it since. -/
def missing (history : List NitzEntry) (slotId : Nat) : Option NitzIndication :=
  history.foldl (NitzEntry.update slotId) none

/-- Each delivery on the slot is of an event of the slot, and none is of an older event
than the one before it. -/
def InOrder (history : List NitzEntry) (slotId : Nat) : Prop :=
  ∃ origins : List Nat, origins.Pairwise (· ≤ ·) ∧
    List.Forall₂ (fun origin indication => (receivedOn history slotId)[origin]? = some indication)
      origins (deliveredOn history slotId)

/-- Up to a comma, counted from 1 on. -/
def upToComma : Nat → List UInt8 → List UInt8
  | 0, _ => []
  | _, [] => []
  | count + 1, char :: rest =>
      if char = 44 then if count = 0 then [] else char :: upToComma count rest
      else char :: upToComma (count + 1) rest

/-- The string that is cut out of a response. The search for a comma does not begin
before the second character. -/
def nitzTime (response : List UInt8) : List UInt8 :=
  match response.takeWhile (· ≠ 0) with
  | [] => []
  | char :: rest => char :: upToComma 3 rest

/-- The next thing to do in storing a copy. -/
inductive StorePoint
  | schedule
  | check
  | free
  | clear
  | calloc
  | checkCalloc
  | setSize
  | copy
  deriving DecidableEq

/-- Where a thread is: in `RIL_onUnsolicitedResponse` after the indication, in
`onNewCommandConnect`, or in `checkReturnStatus` after a callback that failed. -/
inductive NitzPoint
  | idle
  | storing (point : StorePoint) (slotId : Nat) (data : List UInt8)
  | connected (slotId : Nat)
  | checkAgain (slotId : Nat)
  | resending (slotId : Nat)
  | failed (slotId : Nat) (counter : Int) (resend : Bool)
  | reacquire

/-- The slot whose client is being connected. -/
def NitzPoint.connects : NitzPoint → Option Nat
  | .connected slotId | .checkAgain slotId | .resending slotId => some slotId
  | .idle | .storing .. | .failed .. | .reacquire => none

def NitzPoint.stores : NitzPoint → Bool
  | .storing .. => true
  | .idle | .connected _ | .checkAgain _ | .resending _ | .failed .. | .reacquire => false

/-- The variables, the buffers that are allocated, the clients that are dead, and the
threads. `storedOn` is the slot of the last event that was stored, which nothing
reads. An access to a buffer that is not allocated, or outside of one, leaves the
rest `undefined`. -/
structure NitzState (Thread : Type) where
  s_lastNITZTimeData : Option Nat
  s_lastNITZTimeDataSize : Nat
  memory : Nat → Option (List UInt8)
  nitzTimeReceived : Nat → Int
  mRadioIndication : Nat → Option Nat
  mCounterRadio : Nat → Int
  dead : Nat → Bool
  threads : Thread → NitzPoint
  storedOn : Nat
  undefined : Bool
  history : List NitzEntry

/-- The steps of a thread, of a client, and of other callbacks that fail. `sent` is
what is found in the buffer of the string when the indication is sent, which is
after it was freed. -/
inductive NitzAction
  | onUnsolicitedResponse (slotId : Nat) (data : List UInt8) (elapsedRealtime : Int)
      (sent : List UInt8)
  | scheduleTimeout (allocated : Bool)
  | callocData (address : Option Nat)
  | store
  | setResponseFunctions (slotId : Nat) (radioIndication : Option Nat)
  | look
  | resend (sent : List UInt8)
  | clearCallbacks
  | freeAfterFailure
  | die (client : Nat)
  | checkReturnStatus (slotId : Nat)

/-- How `nitzTimeReceivedInd` ends: with -1, with 0, or with a client that is dead. -/
inductive NitzOutcome
  | notConnected
  | returned
  | clientDead

namespace NitzState

variable {Thread : Type} [DecidableEq Thread] (s : NitzState Thread) (thread : Thread)

def goTo (point : NitzPoint) : NitzState Thread :=
  { s with threads := Function.update s.threads thread point }

def record (entries : List NitzEntry) : NitzState Thread :=
  { s with history := s.history ++ entries }

/-- A client is alive on the slot. -/
def hasClient (slotId : Nat) : Bool :=
  (s.mRadioIndication slotId).any fun client => !s.dead client

/-- `nitzTimeReceivedInd`; no bytes stand for a null pointer too. -/
def nitzTimeReceivedInd (slotId : Nat) (response sent : List UInt8) :
    NitzOutcome × NitzState Thread :=
  match s.mRadioIndication slotId with
  | none => (.notConnected, s)
  | some client =>
      if response = [] then (.returned, s)
      else if s.dead client then (.clientDead, s)
      else (.returned, s.record [.delivered slotId ⟨sent, s.nitzTimeReceived slotId⟩])

/-- What `RIL_onUnsolicitedResponse` does under the write lock, and that it keeps a copy
when it gets -1. -/
def onUnsolicitedResponse (slotId : Nat) (data : List UInt8) (elapsedRealtime : Int)
    (sent : List UInt8) : NitzState Thread :=
  let stamped := { s with
    nitzTimeReceived := Function.update s.nitzTimeReceived slotId elapsedRealtime }.record
      [.received slotId ⟨nitzTime data, elapsedRealtime⟩ (s.hasClient slotId)]
  match stamped.nitzTimeReceivedInd slotId data sent with
  | (.notConnected, s) => s.goTo thread (.storing .schedule slotId data)
  | (.returned, s) => s
  | (.clientDead, s) => s.goTo thread (.failed slotId (s.mCounterRadio slotId) false)

/-- `free(s_lastNITZTimeData)` -/
def freeLast : NitzState Thread :=
  match s.s_lastNITZTimeData with
  | none => s
  | some address =>
      if s.memory address = none then { s with undefined := true }
      else { s with memory := Function.update s.memory address none }

def clearLast : NitzState Thread := { s with s_lastNITZTimeData := none }

/-- `calloc(datalen, 1)`, which never answers with an address that is in use. -/
def callocLast (datalen : Nat) : Option Nat → Option (NitzState Thread)
  | none => some s.clearLast
  | some address =>
      if s.memory address = none then
        some { s with
          memory := Function.update s.memory address (some (List.replicate datalen 0))
          s_lastNITZTimeData := some address }
      else none

/-- `memcpy(s_lastNITZTimeData, data, datalen)` -/
def copyLast (slotId : Nat) (data : List UInt8) : NitzState Thread :=
  match s.s_lastNITZTimeData.bind fun address =>
      (s.memory address).map fun bytes => (address, bytes) with
  | none => { s with undefined := true }
  | some (address, bytes) =>
      if data.length ≤ bytes.length then
        { s with
          memory := Function.update s.memory address (some (data ++ bytes.drop data.length))
          storedOn := slotId }
      else { s with undefined := true }

/-- A step of storing a copy that needs no answer. -/
def storeStep (slotId : Nat) (data : List UInt8) : StorePoint → Option (NitzState Thread)
  | .check =>
      some (s.goTo thread
        (.storing (if s.s_lastNITZTimeData.isSome then .free else .calloc) slotId data))
  | .free => some (s.freeLast.goTo thread (.storing .clear slotId data))
  | .clear => some (s.clearLast.goTo thread (.storing .calloc slotId data))
  | .checkCalloc =>
      some (s.goTo thread
        (if s.s_lastNITZTimeData.isSome then .storing .setSize slotId data else .idle))
  | .setSize =>
      some ({ s with s_lastNITZTimeDataSize := data.length }.goTo thread
        (.storing .copy slotId data))
  | .copy => some ((s.copyLast slotId data).goTo thread .idle)
  | .schedule | .calloc => none

/-- The bytes that are passed on when the copy is sent. -/
def lastData : Option (List UInt8) :=
  match s.s_lastNITZTimeData with
  | none => some []
  | some address =>
      (s.memory address).bind fun bytes =>
        if s.s_lastNITZTimeDataSize ≤ bytes.length then
          some (bytes.take s.s_lastNITZTimeDataSize)
        else none

/-- What `resendLastNITZTimeData` does under the read lock. -/
def resend (slotId : Nat) (sent : List UInt8) : NitzState Thread :=
  if s.mRadioIndication slotId = none then s.goTo thread .idle
  else
    match s.lastData with
    | none => { s with undefined := true }
    | some response =>
        match s.nitzTimeReceivedInd slotId response sent with
        | (.notConnected, s) => s.goTo thread .idle
        | (.returned, s) => s.freeLast.clearLast.goTo thread .idle
        | (.clientDead, s) => s.goTo thread (.failed slotId (s.mCounterRadio slotId) true)

def setIndication (slotId : Nat) (radioIndication : Option Nat) : NitzState Thread :=
  { s with
    mRadioIndication := Function.update s.mRadioIndication slotId radioIndication
    mCounterRadio := Function.update s.mCounterRadio slotId (s.mCounterRadio slotId + 1) }

/-- A step of a thread at the point where it is. -/
def stepAt (k : Int) : NitzPoint → NitzAction → Option (NitzState Thread)
  | .idle, .onUnsolicitedResponse slotId data elapsedRealtime sent =>
      some (s.onUnsolicitedResponse thread slotId data elapsedRealtime sent)
  | .idle, .setResponseFunctions slotId radioIndication =>
      some ((s.setIndication slotId radioIndication).goTo thread (.connected slotId))
  | .storing .schedule slotId data, .scheduleTimeout allocated =>
      some (s.goTo thread
        (if k < 13 ∧ allocated = false then .idle else .storing .check slotId data))
  | .storing .calloc slotId data, .callocData address =>
      (s.callocLast data.length address).map fun s =>
        s.goTo thread (.storing .checkCalloc slotId data)
  | .storing point slotId data, .store => s.storeStep thread slotId data point
  | .connected slotId, .look =>
      some (s.goTo thread (if s.s_lastNITZTimeData.isSome then .checkAgain slotId else .idle))
  | .checkAgain slotId, .look =>
      some (s.goTo thread (if s.s_lastNITZTimeData.isSome then .resending slotId else .idle))
  | .resending slotId, .resend sent => some (s.resend thread slotId sent)
  | .failed slotId counter resend, .clearCallbacks =>
      some ((if counter = s.mCounterRadio slotId then s.setIndication slotId none else s).goTo
        thread (if resend then .reacquire else .idle))
  | .reacquire, .freeAfterFailure => some (s.freeLast.clearLast.goTo thread .idle)
  | _, _ => none

/-- The version of the vendor library is `k`. -/
def step (k : Int) : Thread × NitzAction → Option (NitzState Thread)
  | (thread, action) =>
      if s.undefined then none
      else
        match action with
        | .die client => some { s with dead := Function.update s.dead client true }
        | .checkReturnStatus slotId =>
            if (s.mRadioIndication slotId).any s.dead then some (s.setIndication slotId none)
            else none
        | action => s.stepAt thread k (s.threads thread) action

def initial : NitzState Thread where
  s_lastNITZTimeData := none
  s_lastNITZTimeDataSize := 0
  memory _ := none
  nitzTimeReceived _ := 0
  mRadioIndication _ := none
  mCounterRadio _ := 0
  dead _ := false
  threads _ := .idle
  storedOn := 0
  undefined := false
  history := []

/-- Any number of threads, any number of slots and clients. -/
def system (Thread : Type) [DecidableEq Thread] (k : Int) :
    Transition.System (NitzState Thread) (Thread × NitzAction) where
  init := initial
  step s := s.step k

/-- What a client may rely on. An event that was missed has been delivered once a
client is alive on the slot and is not just being connected. -/
structure Timely : Prop where
  defined : s.undefined = false
  inOrder : ∀ slotId, InOrder s.history slotId
  delivered : ∀ slotId, s.hasClient slotId = true →
    (∀ thread, (s.threads thread).connects ≠ some slotId) → missing s.history slotId = none

/-- No copy is being stored. -/
def Stored : Prop := ∀ thread, (s.threads thread).stores = false

/-- A step that does not meet another slot's copy, a copy that is being stored, a dead
client, a failed allocation or a string that was overwritten. -/
def Undisturbed (k : Int) : Thread × NitzAction → Prop
  | (_, .onUnsolicitedResponse slotId data _ sent) =>
      s.Stored ∧ data ≠ [] ∧
        if s.mRadioIndication slotId = none then
          s.s_lastNITZTimeData ≠ none → s.storedOn = slotId
        else
          s.hasClient slotId = true ∧ sent = Ril.nitzTime data ∧
            (s.s_lastNITZTimeData ≠ none → s.storedOn ≠ slotId)
  | (_, .scheduleTimeout allocated) => 13 ≤ k ∨ allocated = true
  | (_, .callocData address) => address ≠ none
  | (_, .look) => s.Stored
  | (thread, .resend sent) =>
      s.Stored ∧ ∀ slotId ∈ (s.threads thread).connects,
        s.s_lastNITZTimeData ≠ none → s.mRadioIndication slotId ≠ none →
          s.storedOn = slotId ∧ s.hasClient slotId = true ∧
            s.lastData.map Ril.nitzTime = some sent
  | (_, .store) | (_, .setResponseFunctions ..) | (_, .clearCallbacks)
  | (_, .freeAfterFailure) | (_, .die _) | (_, .checkReturnStatus _) => True

instance decidableStored [Fintype Thread] : Decidable s.Stored :=
  inferInstanceAs (Decidable (∀ thread, (s.threads thread).stores = false))

instance decidableUndisturbed [Fintype Thread] (k : Int) :
    (action : Thread × NitzAction) → Decidable (s.Undisturbed k action)
  | (_, .onUnsolicitedResponse ..) => inferInstanceAs (Decidable (_ ∧ _ ∧ ite _ _ _))
  | (_, .scheduleTimeout _) => inferInstanceAs (Decidable (_ ∨ _))
  | (_, .callocData _) => inferInstanceAs (Decidable (_ ≠ _))
  | (_, .look) => inferInstanceAs (Decidable s.Stored)
  | (_, .resend _) => inferInstanceAs (Decidable (_ ∧ ∀ slotId ∈ _, _ → _ → _ ∧ _ ∧ _))
  | (_, .store) | (_, .setResponseFunctions ..) | (_, .clearCallbacks)
  | (_, .freeAfterFailure) | (_, .die _) | (_, .checkReturnStatus _) => .isTrue trivial

end NitzState

end Serrano.Ril
