import Serrano.Ril.RequestInfo

/-! # The locks along the paths to a client's callback

Every function of libril that can reach `checkReturnStatus` is given by what it
does to the locks and the callbacks of the client, in order. What the client
does, and which branches are taken, are arguments. A request that the vendor
library gets may be answered before its handler returns, so that calls nest.
-/

namespace Serrano.Ril

inductive Lock
  | radioServiceRwlock
  | radioServiceRwlock2
  | radioServiceRwlock3
  | radioServiceRwlock4
  | s_pendingRequestsMutex (hook : PendingHook)
  | s_wakeLockCountMutex
  | listMutex
  deriving DecidableEq

/-- How a lock is held; a mutex is held exclusively. -/
inductive LockMode
  | read
  | exclusive
  deriving DecidableEq

/-- The locks that the thread holds, the latest first. -/
abbrev Held : Type := List (Lock × LockMode)

inductive LockOp
  | acquire (lock : Lock) (mode : LockMode)
  | release (lock : Lock)
  | readCallbacks (slotId : Nat)
  | writeCallbacks (slotId : Nat)
  deriving DecidableEq

/-- What a call through a pointer of the client comes to. When the client is dead,
another thread may have replaced the pointers meanwhile. -/
inductive ClientCallback
  | null
  | alive
  | dead (replaced : Bool)
  deriving DecidableEq

/-- `radio::getRadioServiceRwlock`. Slots count from 0 and the locks from 1, so
that the first two slots share a lock. -/
def getRadioServiceRwlock (simCount slotId : Nat) : Lock :=
  if 2 ≤ simCount ∧ slotId = 2 then .radioServiceRwlock2
  else if 3 ≤ simCount ∧ slotId = 3 then .radioServiceRwlock3
  else if 4 ≤ simCount ∧ slotId = 4 then .radioServiceRwlock4
  else .radioServiceRwlock

section Functions

variable (k : Platform) (slotId : Nat)

def rwlock : Lock := getRadioServiceRwlock k.simCount slotId

def withLock (lock : Lock) (mode : LockMode) (body : List LockOp) : List LockOp :=
  .acquire lock mode :: body ++ [.release lock]

def checkReturnStatus : ClientCallback → List LockOp
  | .null | .alive => []
  | .dead replaced =>
      [.release (rwlock k slotId), .acquire (rwlock k slotId) .exclusive] ++
        (if replaced then [] else [.writeCallbacks slotId]) ++
        [.release (rwlock k slotId), .acquire (rwlock k slotId) .read]

/-- A response or indication function. -/
def responseFunction (callback : ClientCallback) : List LockOp :=
  .readCallbacks slotId :: checkReturnStatus k slotId callback

/-- `sendErrorResponse`, which calls the response function of the request. -/
def sendErrorResponse (callback : ClientCallback) : List LockOp :=
  responseFunction k slotId callback

def addRequestToList : List LockOp :=
  withLock (.s_pendingRequestsMutex (pendingHook k.simCount slotId)) .exclusive []

def checkAndDequeueRequestInfoIfAck : List LockOp :=
  withLock (.s_pendingRequestsMutex (pendingHook k.simCount slotId)) .exclusive []

/-- `internalRequestTimedCallback` adds a timer if it could be allocated. -/
def internalRequestTimedCallback (timer : Bool) : List LockOp :=
  if timer then withLock .listMutex .exclusive [] else []

def grabPartialWakeLock (timer : Bool) : List LockOp :=
  if 13 ≤ k.version then
    withLock .s_wakeLockCountMutex .exclusive (internalRequestTimedCallback timer)
  else []

def releaseWakeLock : List LockOp :=
  if 13 ≤ k.version then withLock .s_wakeLockCountMutex .exclusive [] else []

def onRequestAck (pending : Bool) (callback : ClientCallback) : List LockOp :=
  checkAndDequeueRequestInfoIfAck k slotId ++
    if pending then withLock (rwlock k slotId) .read (responseFunction k slotId callback) else []

def onRequestComplete (pending acked timer : Bool) (callback : ClientCallback) : List LockOp :=
  checkAndDequeueRequestInfoIfAck k slotId ++
    if pending then
      (if 13 ≤ k.version ∧ acked then grabPartialWakeLock k timer else []) ++
        withLock (rwlock k slotId) .read (responseFunction k slotId callback)
    else []

/-- `RIL_onUnsolicitedResponse` with a code that is supported. `wakePartial` is
the wake type of the code, and `nitz` whether it is
`RIL_UNSOL_NITZ_TIME_RECEIVED`, which is stamped under the write lock. There may be
no indication function for the code. -/
def onUnsolicitedResponse (wakePartial nitz timer : Bool) (callback : Option ClientCallback) :
    List LockOp :=
  (if wakePartial then grabPartialWakeLock k timer else []) ++
    withLock (rwlock k slotId) (if nitz then .exclusive else .read)
      (match callback with
        | none => []
        | some callback => responseFunction k slotId callback) ++
    if k.version < 13 ∧ wakePartial then
      internalRequestTimedCallback timer ++ if timer then [] else releaseWakeLock k
    else []

/-- `resendLastNITZTimeData` -/
def resendLastNITZTimeData (callback : ClientCallback) : List LockOp :=
  withLock (rwlock k slotId) .read (responseFunction k slotId callback)

/-- `onNewCommandConnect`; `nitz` is there when a NITZ event was kept. -/
def onNewCommandConnect (connected stateChanged : ClientCallback) (timers : Bool × Bool)
    (nitz : Option ClientCallback) : List LockOp :=
  onUnsolicitedResponse k slotId true false timers.1 (some connected) ++
    onUnsolicitedResponse k slotId true false timers.2 (some stateChanged) ++
    match nitz with
    | none => []
    | some callback => resendLastNITZTimeData k slotId callback

/-- `RadioImpl::setResponseFunctions` -/
def setResponseFunctions (connected stateChanged : ClientCallback) (timers : Bool × Bool)
    (nitz : Option ClientCallback) : List LockOp :=
  withLock (rwlock k slotId) .exclusive [.writeCallbacks slotId] ++
    onNewCommandConnect k slotId connected stateChanged timers nitz

/-- `OemHookImpl::setResponseFunctions` -/
def setOemHookResponseFunctions : List LockOp :=
  withLock (rwlock k slotId) .exclusive [.writeCallbacks slotId]

end Functions

/-- A call from outside in which the vendor library is not called. A request that is
not added to a list is ignored, and so is an unsolicited response that comes before
`RIL_register` or has no supported code. A request has failed when an error
response is sent for it instead of dispatching it. -/
inductive Entry
  | onRequestAck (slotId : Nat) (pending : Bool) (callback : ClientCallback)
  | onRequestComplete (slotId : Nat) (pending acked timer : Bool) (callback : ClientCallback)
  | onUnsolicitedResponse (slotId : Nat) (wakePartial nitz timer : Bool)
      (callback : Option ClientCallback)
  | setResponseFunctions (slotId : Nat) (connected stateChanged : ClientCallback)
      (timers : Bool × Bool) (nitz : Option ClientCallback)
  | setOemHookResponseFunctions (slotId : Nat)
  | responseAcknowledgement
  | ignored
  | failedRequest (slotId : Nat) (callback : ClientCallback)

def Entry.ops (k : Platform) : Entry → List LockOp
  | onRequestAck slotId pending callback => Ril.onRequestAck k slotId pending callback
  | onRequestComplete slotId pending acked timer callback =>
      Ril.onRequestComplete k slotId pending acked timer callback
  | onUnsolicitedResponse slotId wakePartial nitz timer callback =>
      Ril.onUnsolicitedResponse k slotId wakePartial nitz timer callback
  | setResponseFunctions slotId connected stateChanged timers nitz =>
      Ril.setResponseFunctions k slotId connected stateChanged timers nitz
  | setOemHookResponseFunctions slotId => Ril.setOemHookResponseFunctions k slotId
  | responseAcknowledgement => releaseWakeLock k
  | ignored => []
  | failedRequest slotId callback =>
      addRequestToList k slotId ++ sendErrorResponse k slotId callback

/-- The calls a thread makes, one after the other. A dispatched request has the
calls that the vendor library makes in its handler nested. -/
inductive ThreadPath
  | done
  | entry (entry : Entry) (next : ThreadPath)
  | dispatch (slotId : Nat) (onRequest next : ThreadPath)

/-- A read of the callbacks wants the lock of the slot, a write wants it
exclusively, and only what is held can be released; `none` is a violation. -/
def LockOp.exec (k : Platform) (held : Held) : LockOp → Option Held
  | acquire lock mode => some ((lock, mode) :: held)
  | release lock =>
      if (held.map Prod.fst).contains lock then some (held.eraseP fun hold => hold.1 = lock)
      else none
  | readCallbacks slotId =>
      if (held.map Prod.fst).contains (rwlock k slotId) then some held else none
  | writeCallbacks slotId => if (rwlock k slotId, .exclusive) ∈ held then some held else none

def execute (k : Platform) (held : Held) (ops : List LockOp) : Option Held :=
  ops.foldlM (LockOp.exec k) held

namespace ThreadPath

/-- No call of the path violates the locks, and each returns with the locks that
were held when it was made. -/
def Disciplined (k : Platform) (held : Held) : ThreadPath → Prop
  | .done => True
  | .entry call next => execute k held (call.ops k) = some held ∧ next.Disciplined k held
  | .dispatch slotId onRequest next =>
      execute k held (addRequestToList k slotId) = some held ∧
        onRequest.Disciplined k held ∧ next.Disciplined k held

/-- No request of the path is answered by `sendErrorResponse`. -/
def NoErrorResponse : ThreadPath → Prop
  | .done => True
  | .entry (.failedRequest _ _) _ => False
  | .entry _ next => next.NoErrorResponse
  | .dispatch _ onRequest next => onRequest.NoErrorResponse ∧ next.NoErrorResponse

end ThreadPath

section Execution

variable {k : Platform} {slotId : Nat} {held : Held} {lock : Lock} {mode : LockMode}

@[simp] theorem execute_nil : execute k held [] = some held := rfl

theorem execute_cons {op : LockOp} {rest : List LockOp} :
    execute k held (op :: rest) = (op.exec k held).bind fun held => execute k held rest := rfl

theorem execute_append {first second : List LockOp} :
    execute k held (first ++ second) =
      (execute k held first).bind fun held => execute k held second := by
  induction first generalizing held with
  | nil => rfl
  | cons op rest ih =>
      rw [List.cons_append, execute_cons, execute_cons]
      cases op.exec k held with
      | none => rfl
      | some next => exact ih

@[simp] theorem exec_acquire :
    (LockOp.acquire lock mode).exec k held = some ((lock, mode) :: held) := rfl

@[simp] theorem exec_release_head :
    (LockOp.release lock).exec k ((lock, mode) :: held) = some held := by
  simp [LockOp.exec]

/-- Two balanced pieces, one after the other. -/
theorem execute_append_balanced {first second : List LockOp}
    (hfirst : execute k held first = some held) (hsecond : execute k held second = some held) :
    execute k held (first ++ second) = some held := by
  rw [execute_append, hfirst, Option.bind_some, hsecond]

/-- A body that returns with the lock held is balanced by the release, in
whichever mode it left the lock. -/
theorem execute_withLock {body : List LockOp} {left : LockMode}
    (hbody : execute k ((lock, mode) :: held) body = some ((lock, left) :: held)) :
    execute k held (withLock lock mode body) = some held := by
  rw [withLock, List.cons_append, execute_cons, exec_acquire, Option.bind_some, execute_append,
    hbody, Option.bind_some, execute_cons, exec_release_head]
  rfl

theorem exec_writeCallbacks (held : Held) :
    (LockOp.writeCallbacks slotId).exec k ((rwlock k slotId, .exclusive) :: held) =
      some ((rwlock k slotId, .exclusive) :: held) := by
  simp [LockOp.exec]

theorem exec_readCallbacks (held : Held) (mode : LockMode) :
    (LockOp.readCallbacks slotId).exec k ((rwlock k slotId, mode) :: held) =
      some ((rwlock k slotId, mode) :: held) := by
  simp [LockOp.exec]

/-- With the lock of the slot held, it is held again after `checkReturnStatus`,
though maybe only for reading. -/
theorem execute_checkReturnStatus (callback : ClientCallback) :
    ∃ left, execute k ((rwlock k slotId, mode) :: held) (checkReturnStatus k slotId callback) =
      some ((rwlock k slotId, left) :: held) := by
  cases callback with
  | null => exact ⟨mode, rfl⟩
  | alive => exact ⟨mode, rfl⟩
  | dead replaced =>
      have hreset : execute k ((rwlock k slotId, .exclusive) :: held)
          (if replaced then [] else [.writeCallbacks slotId]) =
            some ((rwlock k slotId, .exclusive) :: held) := by
        split_ifs
        · rfl
        · rw [execute_cons, exec_writeCallbacks, Option.bind_some, execute_nil]
      refine ⟨.read, ?_⟩
      rw [checkReturnStatus, List.append_assoc, execute_append, execute_cons, exec_release_head,
        Option.bind_some, execute_cons, exec_acquire, Option.bind_some, execute_nil,
        Option.bind_some, execute_append, hreset, Option.bind_some, execute_cons,
        exec_release_head, Option.bind_some, execute_cons, exec_acquire, Option.bind_some,
        execute_nil]

theorem execute_responseFunction (callback : ClientCallback) :
    ∃ left, execute k ((rwlock k slotId, mode) :: held) (responseFunction k slotId callback) =
      some ((rwlock k slotId, left) :: held) := by
  rw [responseFunction, execute_cons, exec_readCallbacks, Option.bind_some]
  exact execute_checkReturnStatus callback

theorem execute_locked_response (mode : LockMode) (callback : ClientCallback) :
    execute k held (withLock (rwlock k slotId) mode (responseFunction k slotId callback)) =
      some held := by
  obtain ⟨left, hbody⟩ := execute_responseFunction callback
  exact execute_withLock hbody

theorem execute_mutex : execute k held (withLock lock mode []) = some held :=
  execute_withLock execute_nil

theorem execute_internalRequestTimedCallback (timer : Bool) :
    execute k held (internalRequestTimedCallback timer) = some held := by
  cases timer
  · rfl
  · exact execute_mutex

theorem execute_grabPartialWakeLock (timer : Bool) :
    execute k held (grabPartialWakeLock k timer) = some held := by
  rw [grabPartialWakeLock]
  split_ifs
  · exact execute_withLock (execute_internalRequestTimedCallback timer)
  · rfl

theorem execute_releaseWakeLock : execute k held (releaseWakeLock k) = some held := by
  rw [releaseWakeLock]
  split_ifs
  · exact execute_mutex
  · rfl

theorem execute_onRequestAck (pending : Bool) (callback : ClientCallback) :
    execute k held (onRequestAck k slotId pending callback) = some held := by
  refine execute_append_balanced execute_mutex ?_
  split_ifs
  · exact execute_locked_response .read callback
  · rfl

theorem execute_onRequestComplete (pending acked timer : Bool) (callback : ClientCallback) :
    execute k held (onRequestComplete k slotId pending acked timer callback) = some held := by
  refine execute_append_balanced execute_mutex ?_
  split_ifs
  · exact execute_append_balanced (execute_grabPartialWakeLock timer)
      (execute_locked_response .read callback)
  · exact execute_locked_response .read callback
  · rfl

theorem execute_onUnsolicitedResponse (wakePartial nitz timer : Bool)
    (callback : Option ClientCallback) :
    execute k held (onUnsolicitedResponse k slotId wakePartial nitz timer callback) = some held := by
  refine execute_append_balanced (execute_append_balanced ?_ ?_) ?_
  · split_ifs
    · exact execute_grabPartialWakeLock timer
    · rfl
  · cases callback with
    | none => exact execute_mutex
    | some callback => exact execute_locked_response _ callback
  · split_ifs
    · exact execute_append_balanced (execute_internalRequestTimedCallback _) execute_nil
    · exact execute_append_balanced (execute_internalRequestTimedCallback _)
        execute_releaseWakeLock
    · rfl

theorem execute_onNewCommandConnect (connected stateChanged : ClientCallback)
    (timers : Bool × Bool) (nitz : Option ClientCallback) :
    execute k held (onNewCommandConnect k slotId connected stateChanged timers nitz) =
      some held := by
  refine execute_append_balanced (execute_append_balanced (execute_onUnsolicitedResponse ..)
    (execute_onUnsolicitedResponse ..)) ?_
  cases nitz with
  | none => rfl
  | some callback => exact execute_locked_response .read callback

theorem execute_setCallbacks :
    execute k held (withLock (rwlock k slotId) .exclusive [.writeCallbacks slotId]) =
      some held := by
  have hwrite : execute k ((rwlock k slotId, .exclusive) :: held) [.writeCallbacks slotId] =
      some ((rwlock k slotId, .exclusive) :: held) := by
    rw [execute_cons, exec_writeCallbacks, Option.bind_some, execute_nil]
  exact execute_withLock hwrite

/-- Without the lock of the slot, `sendErrorResponse` reads the pointers of the
client unlocked, whatever the client does. -/
theorem execute_failedRequest (callback : ClientCallback) :
    execute k [] ((Entry.failedRequest slotId callback).ops k) = none := by
  rw [Entry.ops, execute_append, addRequestToList, execute_mutex, Option.bind_some,
    sendErrorResponse, responseFunction, execute_cons]
  rfl

/-- Every other call is balanced, whatever is held when it is made. -/
theorem execute_entry {call : Entry}
    (hcall : ∀ slotId callback, call ≠ .failedRequest slotId callback) :
    execute k held (call.ops k) = some held := by
  cases call with
  | onRequestAck slotId pending callback => exact execute_onRequestAck pending callback
  | onRequestComplete slotId pending acked timer callback =>
      exact execute_onRequestComplete pending acked timer callback
  | onUnsolicitedResponse slotId wakePartial nitz timer callback =>
      exact execute_onUnsolicitedResponse wakePartial nitz timer callback
  | setResponseFunctions slotId connected stateChanged timers nitz =>
      exact execute_append_balanced execute_setCallbacks
        (execute_onNewCommandConnect connected stateChanged timers nitz)
  | setOemHookResponseFunctions slotId => exact execute_setCallbacks
  | responseAcknowledgement => exact execute_releaseWakeLock
  | ignored => rfl
  | failedRequest slotId callback => exact absurd rfl (hcall slotId callback)

end Execution

namespace ThreadPath

/-- A thread keeps to the locks of libril exactly on the paths without an error
response. -/
theorem disciplined_iff (k : Platform) (path : ThreadPath) :
    path.Disciplined k [] ↔ path.NoErrorResponse := by
  induction path with
  | done => exact Iff.rfl
  | entry call next ih =>
      by_cases hcall : ∃ slotId callback, call = .failedRequest slotId callback
      · obtain ⟨slotId, callback, rfl⟩ := hcall
        rw [Disciplined, execute_failedRequest, NoErrorResponse]
        exact ⟨fun hpath => absurd hpath.1 (Option.some_ne_none _).symm, False.elim⟩
      · push Not at hcall
        rw [Disciplined, NoErrorResponse, ih, execute_entry hcall]
        · exact ⟨And.right, And.intro rfl⟩
        · exact hcall
  | dispatch slotId onRequest next ihRequest ihNext =>
      rw [Disciplined, NoErrorResponse, ihRequest, ihNext, addRequestToList, execute_mutex]
      exact ⟨And.right, And.intro rfl⟩

/-- A request whose string could not be copied is answered while its client is dead:
the pointers are read without the lock of the slot, which is then released without
being held. -/
theorem not_disciplined_errorResponse :
    ∃ k : Platform, ¬ (entry (.failedRequest 0 (.dead false)) done).Disciplined k [] ∧
      execute k [] (checkReturnStatus k 0 (.dead false)) = none := by
  let k : Platform := ⟨1, by decide, by decide, 15, 144, fun _ => true⟩
  have hfailed : execute k [] ((Entry.failedRequest 0 (.dead false)).ops k) = none :=
    execute_failedRequest (.dead false)
  refine ⟨k, fun hpath => ?_, rfl⟩
  rw [Disciplined, hfailed] at hpath
  exact Option.some_ne_none _ hpath.1.symm

end ThreadPath

end Serrano.Ril
