import Serrano.Agps.StateMachine
import Serrano.Foundation.Lifetime

/-! # What a machine does to subscriber objects

Beside what becomes of a machine, its functions read subscriber objects, clone them
and delete the clones. The receiver of a notification is a pointer, which every
comparison follows. The object of a caller is there for the time of the call.
-/

namespace Serrano.Agps

/-- The object of the caller, or a clone by its address. -/
inductive SubscriberRef
  | caller
  | clone (addr : Nat)
  deriving DecidableEq

/-- Cloning, reading or writing, and deleting an object. -/
abbrev SubscriberOp := Lifetime.Op SubscriberRef Empty

def SubscriberObj.ref (obj : SubscriberObj) : SubscriberRef := .clone obj.addr

/-- `forMe`, `equals` or `notifyRsrcStatus` on an object. -/
def forMeOps (rcver : Option SubscriberRef) (self : SubscriberRef) : List SubscriberOp :=
  .use self :: rcver.toList.map .use

/-- `linked_list_search` as far as it gets. -/
def searchOps (rcver : Option SubscriberRef) (equal : SubscriberObj → Bool) :
    List SubscriberObj → List SubscriberOp
  | [] => []
  | obj :: rest =>
      forMeOps rcver obj.ref ++ if equal obj then [] else searchOps rcver equal rest

/-- The loop of `notifySubscribers`, which deletes what it finds. -/
def removeAllOps (rcver : Option SubscriberRef) (equal : SubscriberObj → Bool) :
    Nat → List SubscriberObj → List SubscriberOp
  | 0, _ => []
  | passes + 1, list =>
      searchOps rcver equal list ++
        match list.find? equal with
        | none => []
        | some obj => .free obj.ref :: removeAllOps rcver equal passes (list.eraseP equal)

namespace AgpsStateMachine

def findSubscriberOps (m : AgpsStateMachine) (notification : Notification)
    (rcver : Option SubscriberRef) : List SubscriberOp :=
  searchOps rcver (hasSubscriber notification) m.mSubscribers

def notifySubscribersOps (m : AgpsStateMachine) (notification : Notification)
    (rcver : Option SubscriberRef) : List SubscriberOp :=
  let equal := fun obj => (notifySubscriber notification obj m).1
  if notification.postNotifyDelete then
    removeAllOps rcver equal (m.mSubscribers.length + 1) m.mSubscribers
  else searchOps rcver equal m.mSubscribers

def hasActiveSubscribersOps (m : AgpsStateMachine) : List SubscriberOp :=
  m.findSubscriberOps (.broadcast .active) none

/-- `addSubscriber` of an object of the caller. -/
def addSubscriberOps (m : AgpsStateMachine) (subscriber : Subscriber) : List SubscriberOp :=
  m.findSubscriberOps (.receiver subscriber) (some .caller) ++
    if (m.findSubscriber (.receiver subscriber)).isNone then
      [.use .caller, .alloc (.clone m.nextAddr)]
    else []

/-- Both `sendRsrcRequest`s look for an active subscriber. The base class reads it to
request a connection, and a data call machine whenever it finds one. -/
def sendRsrcRequestOps (m : AgpsStateMachine) (action : AGpsStatusValue) : List SubscriberOp :=
  m.findSubscriberOps (.broadcast .active) none ++
    match m.findSubscriber (.broadcast .active) with
    | none => []
    | some s =>
        if m.cls = .agpsStateMachine ∧ action = .gpsReleaseAgpsDataConn then [] else [.use s.ref]

def releasedOps (m : AgpsStateMachine) : RsrcEvent → List SubscriberOp
  | .rsrcSubscribe data => m.addSubscriberOps data.sub ++
      (m.addSubscriber data.sub).sendRsrcRequestOps .gpsRequestAgpsDataConn
  | .rsrcUnsubscribe data => forMeOps (some data.ref) data.ref
  | .rsrcGranted | .rsrcReleased | .rsrcDenied => []

/-- `waitForCloseComplete`, and then `setInactive` or the notification of a receiver
that is listed itself. -/
def unsubscribedOps (m : AgpsStateMachine) (data : SubscriberObj) : List SubscriberOp :=
  .use data.ref ::
    if data.sub.waitForCloseComplete then [.use data.ref]
    else m.notifySubscribersOps (.receiver data.sub .rsrcUnsubscribe true) (some data.ref)

def releaseIfUnusedOps (m : AgpsStateMachine) : List SubscriberOp :=
  if !m.hasSubscribers then m.sendRsrcRequestOps .gpsReleaseAgpsDataConn
  else m.hasActiveSubscribersOps ++
    if !m.hasActiveSubscribers then m.sendRsrcRequestOps .gpsReleaseAgpsDataConn else []

def pendingOps (m : AgpsStateMachine) : RsrcEvent → List SubscriberOp
  | .rsrcSubscribe data => m.addSubscriberOps data.sub
  | .rsrcUnsubscribe data =>
      m.unsubscribedOps data ++ (m.unsubscribed data).releaseIfUnusedOps
  | .rsrcGranted => m.notifySubscribersOps (.broadcast .active .rsrcGranted) none
  | .rsrcReleased => []
  | .rsrcDenied => m.notifySubscribersOps (.broadcast .all .rsrcDenied true) none

def acquiredOps (m : AgpsStateMachine) : RsrcEvent → List SubscriberOp
  | .rsrcSubscribe data => forMeOps (some .caller) .caller ++
      ((m.notifyRsrcStatus data (.receiver data.sub .rsrcGranted)).2).addSubscriberOps data.sub
  | .rsrcUnsubscribe data =>
      m.unsubscribedOps data ++ (m.unsubscribed data).releaseIfUnusedOps
  | .rsrcReleased => m.notifySubscribersOps (.broadcast .all .rsrcReleased true) none
  | .rsrcGranted | .rsrcDenied => []

def closeCompleteOps (m : AgpsStateMachine) (status : AgpsRsrcStatus) : List SubscriberOp :=
  let rest := m.notifySubscribers (.broadcast .inactive status true)
  m.notifySubscribersOps (.broadcast .inactive status true) none ++
    rest.hasActiveSubscribersOps ++
    if rest.hasActiveSubscribers then rest.sendRsrcRequestOps .gpsRequestAgpsDataConn else []

def releasingOps (m : AgpsStateMachine) : RsrcEvent → List SubscriberOp
  | .rsrcSubscribe data => m.addSubscriberOps data.sub
  | .rsrcUnsubscribe data => m.unsubscribedOps data
  | .rsrcDenied => m.closeCompleteOps .rsrcDenied
  | .rsrcReleased => m.closeCompleteOps .rsrcReleased
  | .rsrcGranted => []

def dispatchOps (m : AgpsStateMachine) (event : RsrcEvent) : List SubscriberOp :=
  match m.mStatePtr with
  | .released => m.releasedOps event
  | .pending => m.pendingOps event
  | .acquired => m.acquiredOps event
  | .releasing => m.releasingOps event

def stateOnRsrcEventOps (m : AgpsStateMachine) (event : RsrcEvent) : List SubscriberOp :=
  (m.record [.onRsrcEvent m.mStatePtr event.status]).dispatchOps event

def subscribeRsrcOps (m : AgpsStateMachine) (subscriber : Subscriber) : List SubscriberOp :=
  let caller : SubscriberObj := ⟨m.nextAddr, subscriber⟩
  let m := { m.record [.subscribeRsrc subscriber] with nextAddr := m.nextAddr + 1 }
  if m.mEnforceSingleSubscriber && m.hasSubscribers then forMeOps none .caller
  else m.stateOnRsrcEventOps (.rsrcSubscribe caller)

def unsubscribeRsrcOps (m : AgpsStateMachine) (subscriber : Subscriber) : List SubscriberOp :=
  let m := m.record [.unsubscribeRsrc subscriber]
  m.findSubscriberOps (.receiver subscriber) (some .caller) ++
    match m.findSubscriber (.receiver subscriber) with
    | some s => m.stateOnRsrcEventOps (.rsrcUnsubscribe s)
    | none => []

def agpsOnRsrcEventOps (m : AgpsStateMachine) : AgpsRsrcStatus → List SubscriberOp
  | .rsrcGranted => m.stateOnRsrcEventOps .rsrcGranted
  | .rsrcReleased => m.stateOnRsrcEventOps .rsrcReleased
  | .rsrcDenied => m.stateOnRsrcEventOps .rsrcDenied
  | .rsrcSubscribe | .rsrcUnsubscribe | .rsrcStatusMax => []

def dsOnRsrcEventOps (m : AgpsStateMachine) : AgpsRsrcStatus → List SubscriberOp
  | .rsrcGranted => m.stateOnRsrcEventOps .rsrcGranted
  | .rsrcReleased =>
      let m' := m.stateOnRsrcEvent .rsrcReleased
      m.stateOnRsrcEventOps .rsrcReleased ++
        if m'.mStatePtr ≠ m.mStatePtr then [] else m'.stateOnRsrcEventOps .rsrcDenied
  | .rsrcDenied => m.stateOnRsrcEventOps .rsrcDenied
  | .rsrcSubscribe | .rsrcUnsubscribe | .rsrcStatusMax => []

def onRsrcEventOps (m : AgpsStateMachine) (event : AgpsRsrcStatus) : List SubscriberOp :=
  match m.cls with
  | .agpsStateMachine => m.agpsOnRsrcEventOps event
  | .dsStateMachine => m.dsOnRsrcEventOps event

def stepOps (m : AgpsStateMachine) : Call → List SubscriberOp
  | .subscribeRsrc request => m.subscribeRsrcOps request.subscriber
  | .unsubscribeRsrc request => m.unsubscribeRsrcOps request.subscriber
  | .onRsrcEvent event => m.onRsrcEventOps event
  | .setAPN _ | .setBearer _ | .dataCallAnswer _ => []

end AgpsStateMachine

/-- A machine and all that it has done to subscriber objects. -/
structure MachineMemory where
  machine : AgpsStateMachine
  ops : List SubscriberOp
  deriving DecidableEq

namespace MachineMemory

def step (s : MachineMemory) (call : Call) : MachineMemory :=
  ⟨s.machine.step call, s.ops ++ s.machine.stepOps call⟩

def system (initial : AgpsStateMachine) : Transition.System MachineMemory Call where
  init := ⟨initial, []⟩
  step s call := some (s.step call)

/-- Every clone in the list is there, every other one is gone or never was, and nothing
is read or deleted after that; the objects of callers are left to them. -/
structure KeepsObjects (s : MachineMemory) : Prop where
  wellUsed : ∀ addr, Lifetime.statusAfter (.clone addr) s.ops .absent ≠ none
  live : ∀ addr, Lifetime.statusAfter (.clone addr) s.ops .absent = some .live ↔
    ∃ obj ∈ s.machine.mSubscribers, obj.addr = addr
  caller : .free .caller ∉ s.ops

/-- Whoever unsubscribes without waiting for the close, and not in Released, is the only
one that is listed. -/
def Alone (s : MachineMemory) : Call → Prop
  | .unsubscribeRsrc request => ∀ data,
      s.machine.findSubscriber (.receiver request.subscriber) = some data →
      s.machine.mStatePtr ≠ .released → data.sub.waitForCloseComplete = false →
      s.machine.mSubscribers = [data]
  | .subscribeRsrc _ | .onRsrcEvent _ | .setAPN _ | .setBearer _ | .dataCallAnswer _ => True

end MachineMemory

end Serrano.Agps
