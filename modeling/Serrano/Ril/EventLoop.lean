import Mathlib.Data.List.Sort
import Serrano.Foundation.Transition
import Serrano.Ril.Timeval

/-! # The timers of the event loop

Threads add timers under the mutex and write a byte to the wake-up pipe later. The
loop reads the first timer without the mutex, reads the clock, and enters `select`,
whose timeout counts from there; each of these is a step, and so is each read that
drains the pipe. Time passes in between.
-/

namespace Serrano.Ril

/-- `struct ril_event` of a timer, with the number it was added under. -/
structure Timer where
  event : Nat
  timeout : Timeval
  deriving DecidableEq

/-- An entry of `pending_list`. -/
inductive PendingEvent
  | timer (ev : Timer)
  | s_wakeupfd_event
  deriving DecidableEq

def PendingEvent.timer? : PendingEvent → Option Timer
  | timer ev => some ev
  | s_wakeupfd_event => none

@[simp] theorem PendingEvent.timer?_timer (ev : Timer) : (timer ev).timer? = some ev := rfl

@[simp] theorem PendingEvent.timer?_s_wakeupfd_event : s_wakeupfd_event.timer? = none := rfl

/-- A timer whose callback was called, and the time of the call. -/
structure Firing where
  ev : Timer
  now : Timeval
  deriving DecidableEq

/-- Where the loop is. A timeout is kept with the clock reading it was computed
from, and a `select` also with the time it was entered. -/
inductive EventPoint
  | calcNextTimeout
  | firstTimer (tev : Option Timer)
  | timeout (now : Timeval) (ptv : Option Timeval)
  | select (now : Timeval) (ptv : Option Timeval) (entered : Timeval)
  | processTimeouts (readable : Bool)
  | processReadReadies (readable : Bool)
  | firePending
  | userTimerCallback (ev : Timer)
  | processWakeupCallback
  deriving DecidableEq

/-- The loop with the unread bytes of the wake-up pipe and the timers whose writers
did not write yet. -/
structure EventLoop where
  clock : Timeval
  timer_list : List Timer
  pending_list : List PendingEvent
  wakeupBytes : Nat
  writers : List Timer
  added : Nat
  point : EventPoint
  fired : List Firing
  deriving DecidableEq

/-- The next step of the loop is `loop`, unless a signal interrupts `select` or the
callback of a timer adds another one. -/
inductive EventAction
  | tick (elapsed : RelativeTime)
  | timerAdd (relativeTime : RelativeTime)
  | triggerEvLoop (ev : Timer)
  | interrupt
  | callbackTimerAdd (relativeTime : RelativeTime)
  | loop
  deriving DecidableEq

/-- The walk of `ril_timer_add` to the first timer that is not earlier. -/
def insertTimer (ev : Timer) : List Timer → List Timer
  | [] => [ev]
  | list :: rest =>
      if list.timeout.timercmp ev.timeout (fun x y => x < y) then list :: insertTimer ev rest
      else ev :: list :: rest

/-- `calcNextTimeout` once the first timer was read; `none` is `-1`. -/
def calcNextTimeout (now : Timeval) : Option Timer → Option Timeval
  | none => none
  | some tev =>
      some (if tev.timeout.timercmp now (fun x y => x > y) then tev.timeout.timersub now
        else .zero)

namespace EventLoop

variable (s : EventLoop)

/-- The timer that is added next. -/
def newTimer (tv : RelativeTime) : Timer :=
  { event := s.added, timeout := s.clock.timeradd tv.toTimeval }

/-- The critical section of `ril_timer_add`. -/
def ril_timer_add (tv : RelativeTime) : EventLoop :=
  { s with timer_list := insertTimer (s.newTimer tv) s.timer_list, added := s.added + 1 }

/-- The first half of `internalRequestTimedCallback` on another thread. -/
def timerAdd (tv : RelativeTime) : EventLoop :=
  { s.ril_timer_add tv with writers := s.newTimer tv :: s.writers }

/-- The second half of `internalRequestTimedCallback`. -/
def triggerEvLoop (ev : Timer) : Option EventLoop :=
  if ev ∈ s.writers then
    some { s with writers := s.writers.erase ev, wakeupBytes := s.wakeupBytes + 1 }
  else none

/-- Whether the timer expired. -/
def expired (ev : Timer) : Bool := s.clock.timercmp ev.timeout fun x y => x > y

def processTimeouts (readable : Bool) : EventLoop :=
  { s with
    timer_list := s.timer_list.dropWhile s.expired
    pending_list := s.pending_list ++ (s.timer_list.takeWhile s.expired).map .timer
    point := .processReadReadies readable }

/-- Only the wake-up pipe is watched. -/
def processReadReadies (readable : Bool) : EventLoop :=
  { s with
    pending_list := s.pending_list ++ if readable then [.s_wakeupfd_event] else []
    point := .firePending }

def firePending : EventLoop :=
  match s.pending_list with
  | [] => { s with point := .calcNextTimeout }
  | .timer ev :: rest =>
      { s with
        pending_list := rest
        fired := s.fired ++ [⟨ev, s.clock⟩]
        point := .userTimerCallback ev }
  | .s_wakeupfd_event :: rest =>
      { s with pending_list := rest, point := .processWakeupCallback }

/-- One `read` of `processWakeupCallback`. -/
def processWakeupCallback : EventLoop :=
  if s.wakeupBytes = 0 then { s with point := .firePending }
  else { s with wakeupBytes := s.wakeupBytes - 16 }

/-- `select` returns when there is something to read, or after its timeout. -/
def select (ptv : Option Timeval) (entered : Timeval) : Option EventLoop :=
  if 0 < s.wakeupBytes then some { s with point := .processTimeouts true }
  else if ∃ tv ∈ ptv, entered.toUs + tv.toUs ≤ s.clock.toUs then
    some { s with point := .processTimeouts false }
  else none

def loop : Option EventLoop :=
  match s.point with
  | .calcNextTimeout => some { s with point := .firstTimer s.timer_list.head? }
  | .firstTimer tev => some { s with point := .timeout s.clock (calcNextTimeout s.clock tev) }
  | .timeout now ptv => some { s with point := .select now ptv s.clock }
  | .select _ ptv entered => s.select ptv entered
  | .processTimeouts readable => some (s.processTimeouts readable)
  | .processReadReadies readable => some (s.processReadReadies readable)
  | .firePending => some s.firePending
  | .userTimerCallback _ => some { s with point := .firePending }
  | .processWakeupCallback => some s.processWakeupCallback

/-- `select` was interrupted and the loop continues. -/
def interrupt : Option EventLoop :=
  match s.point with
  | .select .. => some { s with point := .calcNextTimeout }
  | _ => none

/-- A timer that a callback adds needs no byte in the pipe. -/
def callbackTimerAdd (tv : RelativeTime) : Option EventLoop :=
  match s.point with
  | .userTimerCallback _ => some (s.ril_timer_add tv)
  | _ => none

def step : EventAction → Option EventLoop
  | .tick elapsed => some { s with clock := s.clock.timeradd elapsed.toTimeval }
  | .timerAdd tv => some (s.timerAdd tv)
  | .triggerEvLoop ev => s.triggerEvLoop ev
  | .interrupt => s.interrupt
  | .callbackTimerAdd tv => s.callbackTimerAdd tv
  | .loop => s.loop

def initial (clock : Timeval) (wakeupBytes : Nat) : EventLoop where
  clock := clock
  timer_list := []
  pending_list := []
  wakeupBytes := wakeupBytes
  writers := []
  added := 0
  point := .calcNextTimeout
  fired := []

def system (clock : Timeval) (wakeupBytes : Nat) : Transition.System EventLoop EventAction where
  init := initial clock wakeupBytes
  step := step

end EventLoop

end Serrano.Ril
