import Mathlib.Algebra.Group.Nat.Defs
import Serrano.Timer.LocTimer

/-! # The C interface to timers

`loc_timer_start` answers a handle that points to a `LocTimerWrapper`, a client
of the timer service. The wrapper deletes itself after its callback, and
`loc_timer_stop` deletes it through the handle; both go through `destroy`, which
is one step under the mutex. A call of either function takes more than one step,
as does `timeOutCallback`, and others may come in between. Clients call from
their own threads and from inside the callback.
-/

namespace Serrano.Timer

/-- The members of a wrapper. Its destructor leaves `mCb` and `mMe` null. -/
structure LocTimerWrapper where
  mCb : Option Nat
  mCallerData : Nat
  mMe : Option Nat
  deriving DecidableEq

/-- Whoever calls `loc_timer_start` and `loc_timer_stop`. -/
inductive Caller
  | thread (number : Nat)
  | callback
  deriving DecidableEq

/-- Where a caller stands: `loc_timer_start` has yet to answer its handle, or
`loc_timer_stop` has yet to call `destroy` or to forget the handle. -/
inductive Call
  | idle
  | answer (slot : Nat) (handle : Option Nat)
  | destroy (slot wrapper : Nat)
  | forget (slot wrapper : Nat)
  deriving DecidableEq

/-- Where the message task stands in `timeOutCallback`. -/
inductive TimeOutCallback
  | load
  | invoke (cb callerData : Nat)
  | running
  | destroy
  deriving DecidableEq

/-- What happens to the wrappers, by their addresses. -/
inductive WrapperEvent
  | read (wrapper : Nat)
  | deleted (wrapper : Nat)
  | calledBack (wrapper cb callerData : Nat)
  | stopReturned (wrapper : Nat)
  deriving DecidableEq

/-- The service, the wrappers, the slots in which clients keep their
handles, and where everybody stands. Nothing reads the log. -/
structure WrapperService where
  service : TimerService
  wrappers : Nat → Option LocTimerWrapper
  allocated : Nat
  handles : Nat → Option Nat
  calls : Caller → Call
  timeOut : TimeOutCallback
  log : List WrapperEvent

/-- What may happen next. `msgTask` is the next step of the message task, and
`proceed` the next one of a call. -/
inductive WrapperAction
  | tick (time : TimeSpec)
  | epollWait (events : List Bool)
  | pollTask
  | msgTask
  | callbackReturns
  | start (caller : Caller) (slot : Nat) (cb_func : Option Nat) (caller_data msec : Nat)
      (wake_on_expire : Bool)
  | stop (caller : Caller) (slot : Nat)
  | proceed (caller : Caller)
  deriving DecidableEq

/-- The liveness test of `destroy`: `NULL != mCb && this == mMe`. -/
def LocTimerWrapper.alive (members : LocTimerWrapper) (this : Nat) : Bool :=
  members.mCb.isSome && members.mMe = some this

namespace WrapperService

variable (s : WrapperService)

def record (event : WrapperEvent) : WrapperService := { s with log := s.log ++ [event] }

def setMembers (wrapper : Nat) (members : LocTimerWrapper) : WrapperService :=
  { s with wrappers := Function.update s.wrappers wrapper (some members) }

/-- The wrapper passes the liveness test. -/
def Alive (wrapper : Nat) : Prop := (s.wrappers wrapper).any (·.alive wrapper) = true

instance (wrapper : Nat) : Decidable (s.Alive wrapper) :=
  inferInstanceAs (Decidable (_ = true))

/-- A step of the service. -/
def serve (action : TimerAction) : Option WrapperService :=
  (s.service.step action).map fun service => { s with service := service }

/-- `destroy`: test the members, and delete a wrapper that passes. The
destructor clears the members and stops the timer. -/
def destroy (wrapper : Nat) : Option WrapperService :=
  let s := s.record (.read wrapper)
  match s.wrappers wrapper with
  | none => some s
  | some members =>
      if members.alive wrapper then
        ((s.record (.deleted wrapper)).setMembers wrapper
          { members with mCb := none, mMe := none }).serve (.stop wrapper)
      else some s

/-- `timeOutCallback`: load the members, call back unless `mCb` is null, wait
for the callback to return, and `destroy`. -/
def timeOutCallback (wrapper : Nat) : Option WrapperService :=
  match s.timeOut with
  | .load =>
      match s.wrappers wrapper with
      | some { mCb := some cb, mCallerData := callerData, .. } =>
          some { s.record (.read wrapper) with timeOut := .invoke cb callerData }
      | _ => some { s.record (.read wrapper) with timeOut := .destroy }
  | .invoke cb callerData =>
      some { s.record (.calledBack wrapper cb callerData) with timeOut := .running }
  | .running => none
  | .destroy => do
      -- The expiry goes on when `timeOutCallback` returns.
      let s ← s.destroy wrapper
      { s with timeOut := .load }.serve .msgTask

/-- The next step of the message task. It touches a wrapper when it stops it
and when it calls it back. -/
def msgTaskStep : Option WrapperService :=
  match s.service.msgTask with
  | .stop _ _ _ client => (s.record (.read client)).serve .msgTask
  | .timeOut _ _ client _ => s.timeOutCallback client
  | _ => s.serve .msgTask

/-- A caller can make a call when it is not in one; the callback has to run. -/
def ready (caller : Caller) : Bool :=
  s.calls caller = .idle && (caller ≠ .callback || s.timeOut = .running)

/-- Where the caller stands from now on. -/
def goOn (caller : Caller) (call : Call) : WrapperService :=
  { s with calls := Function.update s.calls caller call }

/-- `loc_timer_start` up to its answer: construct a wrapper and start it, with
`msec` cut down to an `unsigned int`. -/
def loc_timer_start (caller : Caller) (slot : Nat) (cb_func : Option Nat)
    (caller_data msec : Nat) (wake_on_expire : Bool) : Option WrapperService :=
  match cb_func with
  | none => some (s.goOn caller (.answer slot none))
  | some _ =>
      { ((s.record (.read s.allocated)).goOn caller (.answer slot (some s.allocated))).setMembers
          s.allocated { mCb := cb_func, mCallerData := caller_data, mMe := some s.allocated } with
        allocated := s.allocated + 1 }.serve
          (.start s.allocated (msec % 2 ^ 32) wake_on_expire)

/-- `loc_timer_stop` up to its call of `destroy`. -/
def loc_timer_stop (caller : Caller) (slot : Nat) : WrapperService :=
  match s.handles slot with
  | none => s
  | some wrapper => s.goOn caller (.destroy slot wrapper)

/-- The next step of a call. -/
def proceed (caller : Caller) : Option WrapperService :=
  match s.calls caller with
  | .idle => none
  | .answer slot handle =>
      some { s.goOn caller .idle with handles := Function.update s.handles slot handle }
  | .destroy slot wrapper => do
      let s ← s.destroy wrapper
      s.goOn caller (.forget slot wrapper)
  | .forget slot wrapper =>
      some { (s.goOn caller .idle).record (.stopReturned wrapper) with
        handles := Function.update s.handles slot none }

def step : WrapperAction → Option WrapperService
  | .tick time => s.serve (.tick time)
  | .epollWait events => s.serve (.epollWait events)
  | .pollTask => s.serve .pollTask
  | .msgTask => s.msgTaskStep
  | .callbackReturns =>
      if s.timeOut = .running ∧ s.calls .callback = .idle then
        some { s with timeOut := .destroy }
      else none
  | .start caller slot cb_func caller_data msec wake_on_expire =>
      if s.ready caller then
        s.loc_timer_start caller slot cb_func caller_data msec wake_on_expire
      else none
  | .stop caller slot =>
      if s.ready caller then some (s.loc_timer_stop caller slot) else none
  | .proceed caller => s.proceed caller

/-- No wrapper was made yet. -/
def initial (now : TimeSpec) : WrapperService where
  service := .initial now
  wrappers _ := none
  allocated := 0
  handles _ := none
  calls _ := .idle
  timeOut := .load
  log := []

/-- The interleavings of the clients, the message task and the polling thread. -/
def system (now : TimeSpec) : Transition.System WrapperService WrapperAction where
  init := initial now
  step := step

end WrapperService

end Serrano.Timer
