import Mathlib.Logic.Function.Basic
import Serrano.Foundation.Transition

/-! # Client threads and the threads that they spawn

A `LocThread` hands a runnable to a spawned thread. Between them stands a delegate
that both of them hold, and whose `mRunnable` is the way to the runnable, the sign
that the thread is to go on, and the sign that it has been created. One client calls
`start`, `stop` and in the end the destructor; every spawned thread is in `threadMain`.
-/

namespace Serrano.Utils

/-- A delegate, how often it was deleted, and whether it was read or written after
that. The runnable that `mRunnable` is or is not null for is always that of the thread. -/
structure LocThreadDelegate where
  mRunnable : Bool
  mJoinable : Bool
  mRefCount : Int
  deletions : Nat
  usedDeleted : Bool
  deriving DecidableEq

/-- Steps of `destroy`: the check of the count, the locked decrement, the deletion. -/
inductive DestroyPoint
  | test
  | decrement
  | delete
  deriving DecidableEq

/-- Steps of `threadMain`. -/
inductive ThreadPoint
  | begin
  | testPrerun
  | prerun
  | testRun
  | run
  | testPostrun
  | postrun
  | clear
  | deleteRunnable
  | destroy (point : DestroyPoint)
  | ended
  deriving DecidableEq

/-- A delegate with its thread, which is missing when it could not be created, and what
became of the runnable. -/
structure Spawned where
  delegate : LocThreadDelegate
  thread : Option ThreadPoint
  runnableDeletions : Nat
  ranDeleted : Bool
  deriving DecidableEq

namespace LocThreadDelegate

/-- The members are read or written. -/
def access (d : LocThreadDelegate) : LocThreadDelegate :=
  { d with usedDeleted := d.usedDeleted || 0 < d.deletions }

end LocThreadDelegate

/-- A step of `destroy`, with what is left of it. -/
def DestroyPoint.step (d : LocThreadDelegate) :
    DestroyPoint → LocThreadDelegate × Option DestroyPoint
  | test => (d.access, if d.mRefCount > 0 then some decrement else none)
  | decrement =>
      ({ d.access with mRefCount := d.mRefCount - 1 },
        if d.mRefCount = 1 then some delete else none)
  | delete => ({ d.access with deletions := d.deletions + 1 }, none)

namespace Spawned

/-- The constructor, whose thread is created or not. -/
def new (joinable created : Bool) : Spawned where
  delegate :=
    if created then ⟨true, joinable, 2, 0, false⟩ else ⟨false, false, 1, 0, false⟩
  thread := if created then some .begin else none
  runnableDeletions := 0
  ranDeleted := false

/-- The thread goes on after it has looked at the delegate. -/
def look (sp : Spawned) (next : ThreadPoint) : Spawned :=
  { sp with delegate := sp.delegate.access, thread := some next }

/-- The thread goes on after it has called the runnable. -/
def call (sp : Spawned) (next : ThreadPoint) : Spawned :=
  { sp with ranDeleted := sp.ranDeleted || 0 < sp.runnableDeletions, thread := some next }

/-- `threadMain`, where `run` returns `again`. -/
def threadMain (sp : Spawned) (again : Bool) : Option Spawned :=
  match sp.thread with
  | none | some .ended => none
  | some .begin =>
      some (sp.look (if sp.delegate.mRunnable then .testPrerun else .destroy .test))
  | some .testPrerun => some (sp.look (if sp.delegate.mRunnable then .prerun else .testRun))
  | some .prerun => some (sp.call .testRun)
  | some .testRun => some (sp.look (if sp.delegate.mRunnable then .run else .testPostrun))
  | some .run => some (sp.call (if again then .testRun else .testPostrun))
  | some .testPostrun => some (sp.look (if sp.delegate.mRunnable then .postrun else .clear))
  | some .postrun => some (sp.call .clear)
  | some .clear =>
      some { sp with
        delegate := { sp.delegate.access with mRunnable := false }
        thread := some .deleteRunnable }
  | some .deleteRunnable =>
      some { sp.call (.destroy .test) with runnableDeletions := sp.runnableDeletions + 1 }
  | some (.destroy point) =>
      some { sp with
        delegate := (point.step sp.delegate).1
        thread := some ((point.step sp.delegate).2.elim .ended .destroy) }

end Spawned

/-- The methods of a `LocThread`. -/
inductive LocThreadMethod
  | start
  | stop
  | destructor
  deriving DecidableEq

/-- Where the client is, and which thread it is about. -/
inductive ClientPoint
  | idle
  | construct (i : Nat)
  | isRunning (i : Nat)
  | bye (i : Nat)
  | stop (i : Nat) (method : LocThreadMethod)
  | clear (i : Nat) (method : LocThreadMethod)
  | join (i : Nat) (method : LocThreadMethod)
  | joining (i : Nat) (method : LocThreadMethod)
  | destroy (point : DestroyPoint) (i : Nat) (method : LocThreadMethod)
  | returned (i : Nat) (method : LocThreadMethod) (mThread : Option Nat)
  | gone
  deriving DecidableEq

namespace ClientPoint

/-- The thread that the client is about to use. -/
def thread : ClientPoint → Option Nat
  | idle | gone => none
  | construct i | isRunning i | bye i | stop i _ | clear i _ | join i _ | joining i _
  | destroy _ i _ | returned i .. => some i

/-- A step inside the delegate; joining waits until the thread has ended. -/
def step (sp : Spawned) : ClientPoint → Option (LocThreadDelegate × ClientPoint)
  | idle | gone | returned .. => none
  | construct i => some (sp.delegate.access, isRunning i)
  | isRunning i => some (sp.delegate.access,
      if sp.delegate.mRunnable then returned i .start (some i) else destroy .test i .start)
  | bye i => some (sp.delegate.access,
      if sp.delegate.mJoinable then stop i .destructor else destroy .test i .destructor)
  | stop i method => some (sp.delegate.access,
      if sp.delegate.mRunnable then clear i method else join i method)
  | clear i method => some ({ sp.delegate.access with mRunnable := false }, join i method)
  | join i method => some ({ sp.delegate.access with mJoinable := false },
      if sp.delegate.mJoinable then joining i method else destroy .test i method)
  | joining i method =>
      if sp.thread = some .ended then some (sp.delegate, destroy .test i method) else none
  | destroy point i method => some ((point.step sp.delegate).1,
      (point.step sp.delegate).2.elim (returned i method none) (destroy · i method))

end ClientPoint

/-- What `start` returned, and whether a thread was created for the runnable. -/
structure Started where
  success : Bool
  handed : Bool
  deriving DecidableEq

structure LocThread where
  mThread : Option Nat
  client : ClientPoint
  spawned : Nat → Option Spawned
  allocated : Nat
  started : List Started

/-- The client calls a method, or goes on; or a thread goes on. -/
inductive LocThreadAction
  | start (runnable joinable created : Bool)
  | stop
  | destruct
  | client
  | thread (i : Nat) (again : Bool)
  deriving DecidableEq

namespace LocThread

def init : LocThread := ⟨none, .idle, fun _ => none, 0, []⟩

def setSpawned (s : LocThread) (i : Nat) (sp : Spawned) : LocThread :=
  { s with spawned := Function.update s.spawned i (some sp) }

/-- `start` without a delegate yet and with a runnable. -/
def create (s : LocThread) (joinable created : Bool) : LocThread :=
  { s.setSpawned s.allocated (.new joinable created) with
    client := if created then .construct s.allocated else .isRunning s.allocated
    allocated := s.allocated + 1 }

/-- A method returns, and `mThread` is assigned. -/
def finish (s : LocThread) (i : Nat) (method : LocThreadMethod) (mThread : Option Nat) :
    LocThread :=
  match method with
  | .start => { s with
      mThread := mThread
      client := .idle
      started := s.started ++
        [⟨mThread.isSome, (s.spawned i).any fun sp => sp.thread.isSome⟩] }
  | .stop => { s with mThread := none, client := .idle }
  | .destructor => { s with mThread := none, client := .gone }

def clientStep (s : LocThread) : Option LocThread :=
  match s.client with
  | .returned i method mThread => some (s.finish i method mThread)
  | point => point.thread.bind fun i => (s.spawned i).bind fun sp =>
      (point.step sp).map fun (d, next) =>
        { s.setSpawned i { sp with delegate := d } with client := next }

def step (s : LocThread) : LocThreadAction → Option LocThread
  | .start runnable joinable created =>
      if s.client ≠ .idle then none
      else if s.mThread.isSome || !runnable then
        some { s with started := s.started ++ [⟨false, false⟩] }
      else some (s.create joinable created)
  | .stop =>
      if s.client ≠ .idle then none
      else some { s with client := s.mThread.elim .idle fun i => .stop i .stop }
  | .destruct =>
      if s.client ≠ .idle then none
      else some { s with client := s.mThread.elim .gone .bye }
  | .client => s.clientStep
  | .thread i again => (s.spawned i).bind fun sp => (sp.threadMain again).map (s.setSpawned i)

def system : Transition.System LocThread LocThreadAction := ⟨init, step⟩

end LocThread

end Serrano.Utils
