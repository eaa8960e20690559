import Mathlib.Logic.Function.Basic
import Serrano.Foundation.Transition
import Serrano.Timer.TimeSpec
import Serrano.Utils.LocHeapRefinement

/-! # The timer service

Any number of `LocTimer` clients, the two containers of software timers and of
alarms, the message task that does all heap management, and the polling thread
that waits for the two timer fds. `start` and `stop` are one step each, taken
under the lock of the timer; the two threads advance by one access to what they
share with each other at a time. Clients, delegates and containers are told
apart by numbers and, for the containers, by `wakeOnExpire`.
-/

namespace Serrano.Timer

/-- The kernel's side of a container: the `it_value` of its timer fd, `none`
when disarmed, and whether the fd is in the epoll set. -/
structure TimerFd where
  itValue : Option TimeSpec
  polled : Bool
  deriving DecidableEq

/-- A heap of timers and the fd that should be armed for the soonest of them. -/
structure LocTimerContainer where
  heap : SortedHeap LocTimerDelegate.ranking
  mDevFd : TimerFd

/-- The members of a delegate that change. -/
structure DelegateLinks where
  mClient : Option Nat
  mContainer : Option Bool
  deriving DecidableEq

/-- The messages of the timer message task. -/
inductive LocMsg
  | timerPush (mTimerContainer : Bool) (mTimer : LocTimerDelegate)
  | timerRemove (mTimerContainer : Bool) (mTimer : LocTimerDelegate)
  | timerExpire (mTimerContainer : Bool)
  deriving DecidableEq

/-- The container a message is for. -/
def LocMsg.container : LocMsg → Bool
  | .timerPush mTimerContainer _ | .timerRemove mTimerContainer _
  | .timerExpire mTimerContainer => mTimerContainer

/-- Where the message task stands in `proc`. A `doomed` timer is deleted at
the end of the message. -/
inductive MsgTask
  | receive
  | updateSoonestTime (container : Bool) (priorTop doomed : Option LocTimerDelegate)
  | setTime (container : Bool) (delay : Option TimeSpec) (doomed : Option LocTimerDelegate)
  | delete (mTimer : LocTimerDelegate)
  | expire (container : Bool) (timerOfNow : TimeSpec) (timer : LocTimerDelegate)
  | stop (container : Bool) (timerOfNow : TimeSpec) (timer : LocTimerDelegate) (client : Nat)
  | timeOut (container : Bool) (timerOfNow : TimeSpec) (client : Nat) (stopped : LocTimerDelegate)
  | popIfOutRanks (container : Bool) (timerOfNow : TimeSpec)
  deriving DecidableEq

/-- Where the polling thread stands: the events of the last `epoll_wait` that
are still to be handled, and the rest of `expire` of a container. -/
inductive PollTask
  | run (events : List Bool)
  | removePoll (container : Bool) (events : List Bool)
  | sendMsg (container : Bool) (events : List Bool)
  deriving DecidableEq

/-- What happens to the delegates, by their addresses. -/
inductive TimerEvent
  | started (client timer : Nat) (startTime : TimeSpec) (timeOutInMs : Nat)
  | pushed (timer : Nat)
  | stopped (client timer : Nat)
  | timedOut (client timer : Nat) (time : TimeSpec)
  | deleted (timer : Nat)
  deriving DecidableEq

/-- The state of the service. `taken` keeps the fds as they were when the last
message for their container was taken from the queue; like the log, nothing
reads it. -/
structure TimerService where
  now : TimeSpec
  mTimer : Nat → Option LocTimerDelegate
  links : Nat → Option DelegateLinks
  allocated : Nat
  container : Bool → LocTimerContainer
  queue : List LocMsg
  msgTask : MsgTask
  pollTask : PollTask
  taken : Bool → TimerFd
  log : List TimerEvent

/-- What may happen next; the last two are the next step of the polling thread
and of the message task. -/
inductive TimerAction
  | tick (time : TimeSpec)
  | start (client timeOutInMs : Nat) (wakeOnExpire : Bool)
  | stop (client : Nat)
  | epollWait (events : List Bool)
  | pollTask
  | msgTask
  deriving DecidableEq

/-- The kernel reports an fd of the epoll set from the time it is armed for. -/
def TimerFd.readable (fd : TimerFd) (now : TimeSpec) : Bool :=
  fd.polled && fd.itValue.any fun time => time.toNs ≤ now.toNs

namespace TimerService

variable (s : TimerService)

def sendMsg (msg : LocMsg) : TimerService := { s with queue := s.queue ++ [msg] }

def record (event : TimerEvent) : TimerService := { s with log := s.log ++ [event] }

/-- Replace the heap of a container. -/
def setHeap (container : Bool) (heap : SortedHeap LocTimerDelegate.ranking) : TimerService :=
  { s with
    container := Function.update s.container container
      { s.container container with heap := heap } }

/-- `timerfd_settime` with an absolute time. -/
def timerfdSettime (container : Bool) (itValue : Option TimeSpec) : TimerService :=
  { s with
    container := Function.update s.container container
      { s.container container with
        mDevFd := { (s.container container).mDevFd with itValue := itValue } } }

/-- `addPoll` and `removePoll`; adding a member and removing a stranger fail
without effect. -/
def setPoll (container polled : Bool) : TimerService :=
  { s with
    container := Function.update s.container container
      { s.container container with
        mDevFd := { (s.container container).mDevFd with polled := polled } } }

def getSoonestTimer (container : Bool) : Option LocTimerDelegate :=
  (s.container container).heap.peek

/-- `LocTimer::start`: nothing when the timer runs, else a new delegate that
adds itself to its container. -/
def start (client timeOutInMs : Nat) (wakeOnExpire : Bool) : TimerService :=
  match s.mTimer client with
  | some _ => s
  | none =>
      let timer : LocTimerDelegate :=
        { address := s.allocated, mFutureTime := s.now.futureTime timeOutInMs }
      let links : DelegateLinks := { mClient := some client, mContainer := some wakeOnExpire }
      { s with
        mTimer := Function.update s.mTimer client (some timer)
        links := Function.update s.links s.allocated (some links)
        allocated := s.allocated + 1
        queue := s.queue ++ [.timerPush wakeOnExpire timer]
        log := s.log ++ [.started client s.allocated s.now timeOutInMs] }

/-- `destroyLocked`: forget the client, and remove the delegate from its
container once. -/
def destroyLocked (timer : LocTimerDelegate) : TimerService :=
  match s.links timer.address with
  | some { mContainer := some container, .. } =>
      { s with
        links := Function.update s.links timer.address
          (some { mClient := none, mContainer := none })
        queue := s.queue ++ [.timerRemove container timer] }
  | some { mContainer := none, .. } =>
      { s with
        links := Function.update s.links timer.address
          (some { mClient := none, mContainer := none }) }
  | none => s

/-- `LocTimer::stop`: it succeeds when the timer runs. The delegate it took
down is answered along. -/
def stop (client : Nat) : TimerService × Option LocTimerDelegate :=
  match s.mTimer client with
  | none => (s, none)
  | some timer =>
      let s : TimerService := { s with mTimer := Function.update s.mTimer client none }
      (s.destroyLocked timer, some timer)

theorem stop_idle {s : TimerService} {client : Nat} (hrunning : s.mTimer client = none) :
    s.stop client = (s, none) := by
  simp only [stop, hrunning]

theorem stop_running {s : TimerService} {client : Nat} {timer : LocTimerDelegate}
    (hrunning : s.mTimer client = some timer) :
    s.stop client = ((s.stop client).1, some timer) := by
  simp only [stop, hrunning]

/-- What is left of a message once the fd is up to date. -/
def afterUpdate : Option LocTimerDelegate → MsgTask
  | none => .receive
  | some mTimer => .delete mTimer

/-- `updateSoonestTime` up to its call of `timerfd_settime`. -/
def updateSoonestTime (container : Bool) (priorTop doomed : Option LocTimerDelegate) :
    TimerService :=
  let curTop := s.getSoonestTimer container
  if curTop = priorTop then
    { s with msgTask := afterUpdate doomed }
  else
    match curTop with
    | none => { s.setPoll container false with msgTask := .setTime container none doomed }
    | some timer =>
        if priorTop.all fun prior => LocTimerDelegate.ranking.outRanks timer prior then
          { s.setPoll container true with
            msgTask := .setTime container (some timer.mFutureTime) doomed }
        else
          { s with msgTask := afterUpdate doomed }

/-- Take a message off the queue. -/
def taking (msg : LocMsg) (rest : List LocMsg) : TimerService :=
  { s with
    queue := rest
    taken := Function.update s.taken msg.container (s.container msg.container).mDevFd }

/-- The first step of `proc`, up to its call of `updateSoonestTime` or of
`expire` of a timer. -/
def proc : LocMsg → TimerService
  | .timerPush container mTimer =>
      let priorTop := s.getSoonestTimer container
      let heap := (s.container container).heap.push mTimer
      { (s.record (.pushed mTimer.address)).setHeap container heap with
        msgTask := .updateSoonestTime container priorTop none }
  | .timerRemove container mTimer =>
      let priorTop := s.getSoonestTimer container
      let (heap, removed) := (s.container container).heap.remove mTimer
      { s.setHeap container heap with
        msgTask := if priorTop = removed then .updateSoonestTime container none (some mTimer)
          else .delete mTimer }
  | .timerExpire container =>
      let (heap, popped) := (s.container container).heap.pop
      { s.setHeap container heap with
        msgTask := match popped with
          | none => .updateSoonestTime container none none
          | some timer => .expire container s.now timer }

/-- `popIfOutRanks`: pop the top unless the time is earlier than it is due. -/
def popIfOutRanks (container : Bool) (timerOfNow : TimeSpec) :
    TimerService × Option LocTimerDelegate :=
  match s.getSoonestTimer container with
  | none => (s, none)
  | some top =>
      if 0 < timerOfNow.ranks top.mFutureTime then (s, none)
      else
        let (heap, popped) := (s.container container).heap.pop
        (s.setHeap container heap, popped)

/-- The loop of an expiry goes on with a top that is due, and ends otherwise. -/
theorem popIfOutRanks_cases (container : Bool) (timerOfNow : TimeSpec) :
    s.popIfOutRanks container timerOfNow = (s, none) ∨
      ∃ top, s.getSoonestTimer container = some top ∧
        top.mFutureTime.toNs ≤ timerOfNow.toNs ∧
        s.popIfOutRanks container timerOfNow =
          (s.setHeap container (s.container container).heap.pop.1, some top) := by
  unfold popIfOutRanks
  split
  case h_1 => exact .inl rfl
  case h_2 top htop =>
    split_ifs with hranks
    · exact .inl rfl
    · rw [TimeSpec.ranks_pos_iff] at hranks
      have hpopped : (s.container container).heap.pop.2 = some top :=
        (SortedHeap.pop_answer _).trans htop
      exact .inr ⟨top, htop, by omega, by rw [← hpopped]⟩

/-- The next step of the message task. The loop of an expiry reads the client
of a timer, stops that client's running timer, and calls back, in three steps;
the pop that ends it updates the fd as after any change of the top. -/
def msgTaskStep : Option TimerService :=
  match s.msgTask with
  | .receive =>
      match s.queue with
      | [] => none
      | msg :: rest => some ((s.taking msg rest).proc msg)
  | .updateSoonestTime container priorTop doomed =>
      some (s.updateSoonestTime container priorTop doomed)
  | .setTime container delay doomed =>
      some { s.timerfdSettime container delay with msgTask := afterUpdate doomed }
  | .delete mTimer =>
      some { s.record (.deleted mTimer.address) with
        links := Function.update s.links mTimer.address none, msgTask := .receive }
  | .expire container timerOfNow timer =>
      match (s.links timer.address).bind DelegateLinks.mClient with
      | none => some { s with msgTask := .popIfOutRanks container timerOfNow }
      | some client => some { s with msgTask := .stop container timerOfNow timer client }
  | .stop container timerOfNow _ client =>
      match s.stop client with
      | (s, none) => some { s with msgTask := .popIfOutRanks container timerOfNow }
      | (s, some stopped) =>
          some { s with msgTask := .timeOut container timerOfNow client stopped }
  | .timeOut container timerOfNow client stopped =>
      some { s.record (.timedOut client stopped.address s.now) with
        msgTask := .popIfOutRanks container timerOfNow }
  | .popIfOutRanks container timerOfNow =>
      match s.popIfOutRanks container timerOfNow with
      | (s, none) => some { s with msgTask := .updateSoonestTime container none none }
      | (s, some timer) => some { s with msgTask := .expire container timerOfNow timer }

/-- What a step of the message task does, by where the task stands. -/
inductive MsgTaskStep (s : TimerService) : TimerService → Prop
  | receive (msg : LocMsg) (rest : List LocMsg) (hmsgTask : s.msgTask = .receive)
      (hqueue : s.queue = msg :: rest) :
      MsgTaskStep s ((s.taking msg rest).proc msg)
  | updateSoonestTime (container : Bool) (priorTop doomed : Option LocTimerDelegate)
      (hmsgTask : s.msgTask = .updateSoonestTime container priorTop doomed) :
      MsgTaskStep s (s.updateSoonestTime container priorTop doomed)
  | setTime (container : Bool) (delay : Option TimeSpec) (doomed : Option LocTimerDelegate)
      (hmsgTask : s.msgTask = .setTime container delay doomed) :
      MsgTaskStep s { s.timerfdSettime container delay with msgTask := afterUpdate doomed }
  | delete (mTimer : LocTimerDelegate) (hmsgTask : s.msgTask = .delete mTimer) :
      MsgTaskStep s { s.record (.deleted mTimer.address) with
        links := Function.update s.links mTimer.address none, msgTask := .receive }
  | expireReleased (container : Bool) (timerOfNow : TimeSpec) (timer : LocTimerDelegate)
      (hmsgTask : s.msgTask = .expire container timerOfNow timer)
      (hclient : (s.links timer.address).bind DelegateLinks.mClient = none) :
      MsgTaskStep s { s with msgTask := .popIfOutRanks container timerOfNow }
  | expire (container : Bool) (timerOfNow : TimeSpec) (timer : LocTimerDelegate) (client : Nat)
      (hmsgTask : s.msgTask = .expire container timerOfNow timer)
      (hclient : (s.links timer.address).bind DelegateLinks.mClient = some client) :
      MsgTaskStep s { s with msgTask := .stop container timerOfNow timer client }
  | stopIdle (container : Bool) (timerOfNow : TimeSpec) (timer : LocTimerDelegate) (client : Nat)
      (hmsgTask : s.msgTask = .stop container timerOfNow timer client)
      (hrunning : s.mTimer client = none) :
      MsgTaskStep s { s with msgTask := .popIfOutRanks container timerOfNow }
  | stop (container : Bool) (timerOfNow : TimeSpec) (timer : LocTimerDelegate) (client : Nat)
      (stopped : LocTimerDelegate) (hmsgTask : s.msgTask = .stop container timerOfNow timer client)
      (hrunning : s.mTimer client = some stopped) :
      MsgTaskStep s { (s.stop client).1 with
        msgTask := .timeOut container timerOfNow client stopped }
  | timeOut (container : Bool) (timerOfNow : TimeSpec) (client : Nat) (stopped : LocTimerDelegate)
      (hmsgTask : s.msgTask = .timeOut container timerOfNow client stopped) :
      MsgTaskStep s { s.record (.timedOut client stopped.address s.now) with
        msgTask := .popIfOutRanks container timerOfNow }
  | popNone (container : Bool) (timerOfNow : TimeSpec)
      (hmsgTask : s.msgTask = .popIfOutRanks container timerOfNow) :
      MsgTaskStep s { s with msgTask := .updateSoonestTime container none none }
  | pop (container : Bool) (timerOfNow : TimeSpec) (top : LocTimerDelegate)
      (hmsgTask : s.msgTask = .popIfOutRanks container timerOfNow)
      (htop : s.getSoonestTimer container = some top)
      (hdue : top.mFutureTime.toNs ≤ timerOfNow.toNs) :
      MsgTaskStep s { s.setHeap container (s.container container).heap.pop.1 with
        msgTask := .expire container timerOfNow top }

/-- The invariants split a step of the message task here and nowhere else. -/
theorem msgTaskStep_cases {s s' : TimerService} (hstep : s.msgTaskStep = some s') :
    s.MsgTaskStep s' := by
  cases hmsgTask : s.msgTask with
  | receive =>
      cases hqueue : s.queue with
      | nil => simp [msgTaskStep, hmsgTask, hqueue] at hstep
      | cons msg rest =>
          simp only [msgTaskStep, hmsgTask, hqueue, Option.some.injEq] at hstep
          subst hstep
          exact .receive msg rest hmsgTask hqueue
  | updateSoonestTime container priorTop doomed =>
      simp only [msgTaskStep, hmsgTask, Option.some.injEq] at hstep
      subst hstep
      exact .updateSoonestTime container priorTop doomed hmsgTask
  | setTime container delay doomed =>
      simp only [msgTaskStep, hmsgTask, Option.some.injEq] at hstep
      subst hstep
      exact .setTime container delay doomed hmsgTask
  | delete mTimer =>
      simp only [msgTaskStep, hmsgTask, Option.some.injEq] at hstep
      subst hstep
      exact .delete mTimer hmsgTask
  | expire container timerOfNow timer =>
      simp only [msgTaskStep, hmsgTask] at hstep
      split at hstep
      case h_1 hclient =>
        obtain rfl := Option.some.inj hstep
        exact .expireReleased container timerOfNow timer hmsgTask hclient
      case h_2 client hclient =>
        obtain rfl := Option.some.inj hstep
        exact .expire container timerOfNow timer client hmsgTask hclient
  | stop container timerOfNow timer client =>
      cases hrunning : s.mTimer client with
      | none =>
          simp only [msgTaskStep, hmsgTask, stop_idle hrunning, Option.some.injEq] at hstep
          subst hstep
          exact .stopIdle container timerOfNow timer client hmsgTask hrunning
      | some stopped =>
          rw [msgTaskStep, hmsgTask] at hstep
          simp only at hstep
          rw [stop_running hrunning] at hstep
          obtain rfl := Option.some.inj hstep
          exact .stop container timerOfNow timer client stopped hmsgTask hrunning
  | timeOut container timerOfNow client stopped =>
      simp only [msgTaskStep, hmsgTask, Option.some.injEq] at hstep
      subst hstep
      exact .timeOut container timerOfNow client stopped hmsgTask
  | popIfOutRanks container timerOfNow =>
      obtain hpop | ⟨top, htop, hdue, hpop⟩ := s.popIfOutRanks_cases container timerOfNow
      · simp only [msgTaskStep, hmsgTask, hpop, Option.some.injEq] at hstep
        subst hstep
        exact .popNone container timerOfNow hmsgTask
      · simp only [msgTaskStep, hmsgTask, hpop, Option.some.injEq] at hstep
        subst hstep
        exact .pop container timerOfNow top hmsgTask htop hdue

/-- The next step of the polling thread through `expire` of the containers
whose events it holds. -/
def pollTaskStep : Option TimerService :=
  match s.pollTask with
  | .run [] => none
  | .run (container :: events) =>
      some { s.timerfdSettime container none with pollTask := .removePoll container events }
  | .removePoll container events =>
      some { s.setPoll container false with pollTask := .sendMsg container events }
  | .sendMsg container events =>
      some { s.sendMsg (.timerExpire container) with pollTask := .run events }

/-- One step of a client, of the clock, of the kernel or of one of the threads. -/
def step : TimerAction → Option TimerService
  | .tick time => if s.now.toNs ≤ time.toNs then some { s with now := time } else none
  | .start client timeOutInMs wakeOnExpire => some (s.start client timeOutInMs wakeOnExpire)
  | .stop client =>
      match s.stop client with
      | (s, none) => some s
      | (s, some timer) => some (s.record (.stopped client timer.address))
  | .epollWait events =>
      if s.pollTask = .run [] ∧ events ≠ [] ∧ events.Nodup ∧
          events.all fun container => (s.container container).mDevFd.readable s.now then
        some { s with pollTask := .run events }
      else none
  | .pollTask => s.pollTaskStep
  | .msgTask => s.msgTaskStep

/-- What a step does. A `stop` of a client with no running timer changes
nothing, and the polling thread has three kinds of step. -/
inductive Step (s : TimerService) : TimerAction → TimerService → Prop
  | tick (time : TimeSpec) (htime : s.now.toNs ≤ time.toNs) :
      Step s (.tick time) { s with now := time }
  | start (client timeOutInMs : Nat) (wakeOnExpire : Bool) :
      Step s (.start client timeOutInMs wakeOnExpire) (s.start client timeOutInMs wakeOnExpire)
  | stopIdle (client : Nat) (hrunning : s.mTimer client = none) : Step s (.stop client) s
  | stop (client : Nat) (timer : LocTimerDelegate) (hrunning : s.mTimer client = some timer) :
      Step s (.stop client) ((s.stop client).1.record (.stopped client timer.address))
  | epollWait (events : List Bool) (hwaits : s.pollTask = .run []) (hevents : events.Nodup)
      (hready : ∀ container ∈ events, (s.container container).mDevFd.readable s.now = true) :
      Step s (.epollWait events) { s with pollTask := .run events }
  | timerfdSettime (container : Bool) (events : List Bool)
      (hpollTask : s.pollTask = .run (container :: events)) :
      Step s .pollTask
        { s.timerfdSettime container none with pollTask := .removePoll container events }
  | removePoll (container : Bool) (events : List Bool)
      (hpollTask : s.pollTask = .removePoll container events) :
      Step s .pollTask { s.setPoll container false with pollTask := .sendMsg container events }
  | sendMsg (container : Bool) (events : List Bool)
      (hpollTask : s.pollTask = .sendMsg container events) :
      Step s .pollTask { s.sendMsg (.timerExpire container) with pollTask := .run events }
  | msgTask (s' : TimerService) (hstep : s.msgTaskStep = some s') : Step s .msgTask s'

theorem step_cases {s s' : TimerService} {action : TimerAction} (hstep : s.step action = some s') :
    s.Step action s' := by
  cases action with
  | tick time =>
      simp only [step] at hstep
      split_ifs at hstep with htime
      obtain rfl := Option.some.inj hstep
      exact .tick time htime
  | start client timeOutInMs wakeOnExpire =>
      obtain rfl := Option.some.inj hstep
      exact .start client timeOutInMs wakeOnExpire
  | stop client =>
      rw [step] at hstep
      cases hrunning : s.mTimer client with
      | none =>
          rw [stop_idle hrunning] at hstep
          obtain rfl := Option.some.inj hstep
          exact .stopIdle client hrunning
      | some timer =>
          rw [stop_running hrunning] at hstep
          obtain rfl := Option.some.inj hstep
          exact .stop client timer hrunning
  | epollWait events =>
      simp only [step] at hstep
      split_ifs at hstep with hready
      obtain rfl := Option.some.inj hstep
      exact .epollWait events hready.1 hready.2.2.1 (List.all_eq_true.mp hready.2.2.2)
  | pollTask =>
      simp only [step, pollTaskStep] at hstep
      split at hstep
      case h_1 => cases hstep
      case h_2 container events hpollTask =>
        obtain rfl := Option.some.inj hstep
        exact .timerfdSettime container events hpollTask
      case h_3 container events hpollTask =>
        obtain rfl := Option.some.inj hstep
        exact .removePoll container events hpollTask
      case h_4 container events hpollTask =>
        obtain rfl := Option.some.inj hstep
        exact .sendMsg container events hpollTask
  | msgTask => exact .msgTask s' hstep

/-- No timer was ever started. -/
def initial (now : TimeSpec) : TimerService where
  now := now
  mTimer _ := none
  links _ := none
  allocated := 0
  container _ := { heap := .new, mDevFd := { itValue := none, polled := false } }
  queue := []
  msgTask := .receive
  pollTask := .run []
  taken _ := { itValue := none, polled := false }
  log := []

/-- The interleavings of everything that goes on from the first use at a time. -/
def system (now : TimeSpec) : Transition.System TimerService TimerAction where
  init := initial now
  step := step

/-- One second after the clock started. -/
def uptime : TimeSpec where
  tv_sec := 1
  tv_nsec := 0
  normal := by decide
  running := by decide

end TimerService

end Serrano.Timer
