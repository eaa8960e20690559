import Serrano.Agps.Subscriber
import Serrano.Foundation.Transition
import Serrano.Utils.LinkedList
import Mathlib.Tactic.Simps.Basic

/-! # The AGPS state machine

One machine manages one network interface for its subscribers: it asks the
framework for a data connection when the first subscriber arrives, tells the
subscribers what became of it, and gives it back when nobody is left. The same
four state classes serve the base class and `DSStateMachine`, which overrides
how a connection is requested and how resource events are translated.

A machine carries the log of everything it did, newest event last. The log is
not read by any transition.
-/

namespace Serrano.Agps

open LinkedList

inductive AGpsStatusValue
  | gpsRequestAgpsDataConn
  | gpsReleaseAgpsDataConn
  deriving DecidableEq, Repr

abbrev AGpsExtType := Int
abbrev AGpsBearerType := Int

def agpsTypeInvalid : AGpsExtType := -1
def agpsTypeSupl : AGpsExtType := 1
def agpsTypeWwanAny : AGpsExtType := 3
def agpsTypeWifi : AGpsExtType := 4
def agpsTypeSuplEs : AGpsExtType := 5
def agpsApnBearerInvalid : AGpsBearerType := -1

/-- `LOC_ENG_IF_REQUEST_SENDER_ID_GPSONE_DAEMON`. -/
def senderIdGpsoneDaemon : UInt32 := 3

/-- Results reported through `loc_eng_dmn_conn_loc_api_server_data_conn`. -/
inductive DataConnStatus
  | gpsoneLocApiIfRequestSuccess
  | gpsoneLocApiIfReleaseSuccess
  | gpsoneLocApiIfFailure
  deriving DecidableEq, Repr

/-- The request handed to the framework. `ipv4Addr` is `none` where the source
leaves the field unwritten. -/
structure AGpsExtStatus where
  type : AGpsExtType
  status : AGpsStatusValue
  ipv4Addr : Option UInt32
  ssFamily : Nat
  ssid : List UInt8
  password : List UInt8
  deriving DecidableEq, Repr

inductive AgpsState
  | released
  | pending
  | acquired
  | releasing
  deriving DecidableEq, Repr

/-- What a machine is asked and what it does, in the order in which it happens.
The first five events are entries of its own functions; the others are calls it
makes. -/
inductive AgpsEvent
  | subscribeRsrc (s : Subscriber)
  | unsubscribeRsrc (s : Subscriber)
  | onRsrcEvent (state : AgpsState) (event : AgpsRsrcStatus)
  | notifyRsrcStatus (addr : Nat) (s : Subscriber) (status : AgpsRsrcStatus)
  | sendRsrcRequest (action : AGpsStatusValue)
  | requestRsrc (nifRequest : AGpsExtStatus)
  | openAndStartDataCall (connHandle : UInt32) (ret : Int)
  | stopDataCall
  | closeDataCall
  | serverDataConn (senderId : UInt32) (status : DataConnStatus)
  | atlOpenStatus (handle : UInt32) (isSucc : Bool) (apn : Option (List UInt8))
      (bearer : AGpsBearerType) (agpsType : AGpsExtType)
  | atlCloseStatus (handle : UInt32) (isSucc : Bool)
  | requestATL (connHandle : UInt32) (agpsType : AGpsExtType)
  | locTimerStart (msec : Nat)
  deriving DecidableEq, Repr

/-- An object in memory, known by its address. -/
structure SubscriberObj where
  addr : Nat
  sub : Subscriber
  deriving DecidableEq, Repr

/-- Who provides the service. `ext` holds what the data call service answers
to the next request to start a data call. -/
inductive Servicer
  | noCbParam
  | agps
  | ext (openAndStartDataCall : Int)
  deriving DecidableEq, Repr

inductive MachineClass
  | agpsStateMachine
  | dsStateMachine
  deriving DecidableEq, Repr

/-- The members of both classes. `mRetries` belongs to `DSStateMachine`;
`nextAddr` is where the next object is allocated. -/
@[ext] structure AgpsStateMachine where
  cls : MachineClass
  mSubscribers : List SubscriberObj
  mServicer : Servicer
  mStatePtr : AgpsState
  mType : AGpsExtType
  mAPN : Option (List UInt8)
  mBearer : AGpsBearerType
  mEnforceSingleSubscriber : Bool
  mRetries : UInt8
  nextAddr : Nat
  log : List AgpsEvent
  deriving DecidableEq, Repr

/-- The constructor of the base class. -/
def agpsStateMachine (servType : Servicer) (type : AGpsExtType)
    (enforceSingleSubscriber : Bool) : AgpsStateMachine where
  cls := .agpsStateMachine
  mSubscribers := []
  mServicer := servType
  mStatePtr := .released
  mType := type
  mAPN := none
  mBearer := agpsApnBearerInvalid
  mEnforceSingleSubscriber := enforceSingleSubscriber
  mRetries := 0
  nextAddr := 0
  log := []

/-- The constructor of `DSStateMachine`. -/
def dsStateMachine (servType : Servicer) : AgpsStateMachine :=
  { agpsStateMachine servType agpsTypeInvalid false with cls := .dsStateMachine }

namespace AgpsStateMachine

@[simps] def record (m : AgpsStateMachine) (events : List AgpsEvent) : AgpsStateMachine :=
  { m with log := m.log ++ events }

/-! ## Telling the clients -/

/-- The adapter calls of `DSStateMachine::informStatus`. -/
def informStatusCalls (status : AgpsRsrcStatus) (id : UInt32) : List AgpsEvent :=
  match status with
  | .rsrcUnsubscribe => [.atlCloseStatus id true]
  | .rsrcReleased => [.closeDataCall]
  | .rsrcDenied => [.requestATL id agpsTypeSupl]
  | .rsrcGranted => [.atlOpenStatus id true none agpsApnBearerInvalid agpsTypeInvalid]
  | .rsrcSubscribe | .rsrcStatusMax => []

/-- `DSStateMachine::informStatus`: a denial also resets the retry count. -/
@[simps] def informStatus (m : AgpsStateMachine) (status : AgpsRsrcStatus) (id : UInt32) :
    AgpsStateMachine :=
  { m with
    mRetries := if status = .rsrcDenied then 0 else m.mRetries
    log := m.log ++ informStatusCalls status id }

/-- The switch of `BITSubscriber::notifyRsrcStatus`; `none` is its default. -/
def bitNotifyCalls (status : AgpsRsrcStatus) : Option (List AgpsEvent) :=
  match status with
  | .rsrcUnsubscribe | .rsrcReleased =>
      some [.serverDataConn senderIdGpsoneDaemon .gpsoneLocApiIfReleaseSuccess]
  | .rsrcDenied => some [.serverDataConn senderIdGpsoneDaemon .gpsoneLocApiIfFailure]
  | .rsrcGranted => some [.serverDataConn senderIdGpsoneDaemon .gpsoneLocApiIfRequestSuccess]
  | .rsrcSubscribe | .rsrcStatusMax => none

/-- The switch of `ATLSubscriber::notifyRsrcStatus`. -/
def atlNotifyCalls (m : AgpsStateMachine) (id : UInt32) (compatibleMode : Bool)
    (status : AgpsRsrcStatus) : Option (List AgpsEvent) :=
  let type := if compatibleMode then agpsTypeInvalid else m.mType
  match status with
  | .rsrcUnsubscribe | .rsrcReleased => some [.atlCloseStatus id true]
  | .rsrcDenied => some [.atlOpenStatus id false m.mAPN m.mBearer type]
  | .rsrcGranted => some [.atlOpenStatus id true m.mAPN m.mBearer type]
  | .rsrcSubscribe | .rsrcStatusMax => none

/-- The switch of `WIFISubscriber::notifyRsrcStatus`: an unsubscribe is taken
note of and not announced. -/
def wifiNotifyCalls (senderId : UInt32) (status : AgpsRsrcStatus) : Option (List AgpsEvent) :=
  match status with
  | .rsrcUnsubscribe => some []
  | .rsrcReleased => some [.serverDataConn senderId .gpsoneLocApiIfReleaseSuccess]
  | .rsrcDenied => some [.serverDataConn senderId .gpsoneLocApiIfFailure]
  | .rsrcGranted => some [.serverDataConn senderId .gpsoneLocApiIfRequestSuccess]
  | .rsrcSubscribe | .rsrcStatusMax => none

/-- The switch of `DSSubscriber::notifyRsrcStatus`. -/
def dsNotifyCalls (id : UInt32) (status : AgpsRsrcStatus) : Option (List AgpsEvent) :=
  match status with
  | .rsrcUnsubscribe | .rsrcReleased | .rsrcDenied | .rsrcGranted =>
      some (informStatusCalls status id)
  | .rsrcSubscribe | .rsrcStatusMax => none

def notifyCalls (m : AgpsStateMachine) (s : Subscriber) (status : AgpsRsrcStatus) :
    Option (List AgpsEvent) :=
  match s.kind with
  | .bit => bitNotifyCalls status
  | .atl compatibleMode => m.atlNotifyCalls s.ID compatibleMode status
  | .wifi _ _ => wifiNotifyCalls s.ID status
  | .ds => dsNotifyCalls s.ID status

/-- The virtual `notifyRsrcStatus`: whether the notification was for this
object and of a known status, and the machine after the calls to its client. -/
def notifyRsrcStatus (m : AgpsStateMachine) (obj : SubscriberObj)
    (notification : Notification) : Bool × AgpsStateMachine :=
  if obj.sub.forMe notification then
    match m.notifyCalls obj.sub notification.rsrcStatus with
    | some calls =>
        (true, { m with
          mRetries :=
            if obj.sub.kind = .ds ∧ notification.rsrcStatus = .rsrcDenied then 0 else m.mRetries
          log := m.log ++
            .notifyRsrcStatus obj.addr obj.sub notification.rsrcStatus :: calls })
    | none => (false, m)
  else (false, m)

/-! ## The subscriber list -/

/-- The search callback that only looks. -/
def hasSubscriber (notification : Notification) (obj : SubscriberObj) : Bool :=
  obj.sub.forMe notification

/-- The search callback that notifies. -/
def notifySubscriber (notification : Notification) (obj : SubscriberObj)
    (m : AgpsStateMachine) : Bool × AgpsStateMachine :=
  let (notified, m) := m.notifyRsrcStatus obj notification
  (notified && notification.postNotifyDelete, m)

/-- With `postNotifyDelete`, search and delete until no subscriber is found.
The source keeps comparing with a receiver that the loop may have deleted; it
is compared here with the value it had. -/
def notifySubscribers (m : AgpsStateMachine) (notification : Notification) :
    AgpsStateMachine :=
  if notification.postNotifyDelete then
    let (rest, m') := removeAll (notifySubscriber notification)
      (m.mSubscribers.length + 1) m.mSubscribers m
    { m' with mSubscribers := rest }
  else
    (linkedListSearch (notifySubscriber notification) false m.mSubscribers m).2.2

def findSubscriber (m : AgpsStateMachine) (notification : Notification) :
    Option SubscriberObj :=
  linkedListFind (hasSubscriber notification) m.mSubscribers

def hasSubscribers (m : AgpsStateMachine) : Bool := !m.mSubscribers.isEmpty

def hasActiveSubscribers (m : AgpsStateMachine) : Bool :=
  (m.findSubscriber (.broadcast .active)).isSome

/-- Add a clone of the subscriber, if none that equals it is listed. -/
def addSubscriber (m : AgpsStateMachine) (subscriber : Subscriber) : AgpsStateMachine :=
  match m.findSubscriber (.receiver subscriber) with
  | some _ => m
  | none => { m with
      mSubscribers := ⟨m.nextAddr, subscriber.clone⟩ :: m.mSubscribers
      nextAddr := m.nextAddr + 1 }

/-- `linked_list_flush`: the list is emptied, nobody is told. -/
@[simps] def dropAllSubscribers (m : AgpsStateMachine) : AgpsStateMachine :=
  { m with mSubscribers := [] }

/-- `setInactive` on a listed object; a `DSSubscriber` also tells its client
that the connection is closed. -/
def setInactive (m : AgpsStateMachine) (obj : SubscriberObj) : AgpsStateMachine :=
  let m := { m with mSubscribers := m.mSubscribers.map fun listed =>
    if listed.addr = obj.addr then { listed with sub := listed.sub.setInactive } else listed }
  if obj.sub.kind = .ds then m.informStatus .rsrcUnsubscribe obj.sub.ID else m

/-! ## Requests to the service provider -/

/-- `setWifiInfo` -/
def wifiInfo (s : Subscriber) : List UInt8 × List UInt8 :=
  match s.kind with
  | .wifi ssid password => (copySsid (ssid.getD []), copySsid (password.getD []))
  | .bit | .atl _ | .ds => ([], [])

def afInet6 : Nat := 10

/-- The request for the framework, filled in from the first active subscriber. -/
def nifRequest (m : AgpsStateMachine) (action : AGpsStatusValue) (s : Option SubscriberObj) :
    AGpsExtStatus where
  type := m.mType
  status := action
  ipv4Addr := if s.isNone then some inaddrNone else none
  ssFamily := if s.isNone then 0 else afInet6
  ssid := s.elim [] fun obj => (wifiInfo obj.sub).1
  password := s.elim [] fun obj => (wifiInfo obj.sub).2

/-- `AgpsStateMachine::sendRsrcRequest`: the request goes out only if it agrees
with the list, a release with no active subscriber and a request with one. -/
def agpsSendRsrcRequest (m : AgpsStateMachine) (action : AGpsStatusValue) :
    Int × AgpsStateMachine :=
  let s := m.findSubscriber (.broadcast .active)
  if s.isNone = (action == .gpsReleaseAgpsDataConn) then
    (0, m.record [.requestRsrc (m.nifRequest action s)])
  else (0, m)

def locApiAdapterErrSuccess : Int := 0
def locApiAdapterErrUnsupported : Int := 2
def locApiAdapterErrEngineBusy : Int := 6

def maxStartDataCallRetries : UInt8 := 4
def dataCallRetryDelayMsec : Nat := 500

/-- `dataCallCb` behind the servicer: only the start of a data call can fail. -/
def requestDataCall (m : AgpsStateMachine) (action : AGpsStatusValue) (connHandle : UInt32) :
    Int × AgpsStateMachine :=
  match action with
  | .gpsRequestAgpsDataConn =>
      let ret := match m.mServicer with
        | .ext answer => answer
        | .noCbParam | .agps => 0
      (ret, m.record [.openAndStartDataCall connHandle ret])
  | .gpsReleaseAgpsDataConn => (0, m.record [.stopDataCall])

/-- The switch of `DSStateMachine::sendRsrcRequest` over the result. Starting
the retry timer yields its handle, which the source takes for a failure and
answers with -1. -/
def dataCallResult (m : AgpsStateMachine) (connHandle : UInt32) (ret : Int) :
    Int × AgpsStateMachine :=
  if ret = locApiAdapterErrEngineBusy then
    let m := { m with mRetries := m.mRetries + 1 }
    if m.mRetries > maxStartDataCallRetries then
      (ret, m.informStatus .rsrcDenied connHandle)
    else (-1, m.record [.locTimerStart dataCallRetryDelayMsec])
  else if ret = locApiAdapterErrUnsupported then (ret, m.informStatus .rsrcDenied connHandle)
  else if ret = locApiAdapterErrSuccess then (ret, m)
  else if ret = -1 then (ret, m.informStatus .rsrcDenied connHandle)
  else (ret, m)

/-- `DSStateMachine::sendRsrcRequest` -/
def dsSendRsrcRequest (m : AgpsStateMachine) (action : AGpsStatusValue) :
    Int × AgpsStateMachine :=
  let s := m.findSubscriber (.broadcast .active)
  let connHandle := s.elim 0xffffffff (·.sub.ID)
  let (ret, m) := m.requestDataCall action connHandle
  m.dataCallResult connHandle ret

/-- The virtual `sendRsrcRequest`. -/
def sendRsrcRequest (m : AgpsStateMachine) (action : AGpsStatusValue) :
    Int × AgpsStateMachine :=
  match m.cls with
  | .agpsStateMachine => (m.record [.sendRsrcRequest action]).agpsSendRsrcRequest action
  | .dsStateMachine => (m.record [.sendRsrcRequest action]).dsSendRsrcRequest action

/-! ## The states -/

/-- An event with the subscriber it is about: the object of the caller for a
subscribe, a listed object for an unsubscribe. -/
inductive RsrcEvent
  | rsrcSubscribe (data : SubscriberObj)
  | rsrcUnsubscribe (data : SubscriberObj)
  | rsrcGranted
  | rsrcReleased
  | rsrcDenied

def RsrcEvent.status : RsrcEvent → AgpsRsrcStatus
  | .rsrcSubscribe _ => .rsrcSubscribe
  | .rsrcUnsubscribe _ => .rsrcUnsubscribe
  | .rsrcGranted => .rsrcGranted
  | .rsrcReleased => .rsrcReleased
  | .rsrcDenied => .rsrcDenied

/-- `AgpsReleasedState::onRsrcEvent` -/
def releasedOnRsrcEvent (m : AgpsStateMachine) : RsrcEvent → AgpsState × AgpsStateMachine
  | .rsrcSubscribe data =>
      let (ret, m) := (m.addSubscriber data.sub).sendRsrcRequest .gpsRequestAgpsDataConn
      (if ret = 0 then .pending else .released, m)
  | .rsrcUnsubscribe data =>
      (.released, (m.notifyRsrcStatus data (.receiver data.sub .rsrcUnsubscribe)).2)
  | .rsrcGranted | .rsrcReleased | .rsrcDenied => (.released, m)

/-- The first half of an unsubscribe in the other states: wait for the close,
or notify and delete at once. -/
def unsubscribed (m : AgpsStateMachine) (data : SubscriberObj) : AgpsStateMachine :=
  if data.sub.waitForCloseComplete then m.setInactive data
  else m.notifySubscribers (.receiver data.sub .rsrcUnsubscribe true)

/-- The second half of an unsubscribe in Pending and Acquired. -/
def releaseIfUnused (m : AgpsStateMachine) (state : AgpsState) : AgpsState × AgpsStateMachine :=
  if !m.hasSubscribers then (.released, (m.sendRsrcRequest .gpsReleaseAgpsDataConn).2)
  else if !m.hasActiveSubscribers then
    (.releasing, (m.sendRsrcRequest .gpsReleaseAgpsDataConn).2)
  else (state, m)

/-- `AgpsPendingState::onRsrcEvent` -/
def pendingOnRsrcEvent (m : AgpsStateMachine) : RsrcEvent → AgpsState × AgpsStateMachine
  | .rsrcSubscribe data => (.pending, m.addSubscriber data.sub)
  | .rsrcUnsubscribe data => (m.unsubscribed data).releaseIfUnused .pending
  | .rsrcGranted => (.acquired, m.notifySubscribers (.broadcast .active .rsrcGranted))
  | .rsrcReleased => (.pending, m)
  | .rsrcDenied => (.released, m.notifySubscribers (.broadcast .all .rsrcDenied true))

/-- `AgpsAcquiredState::onRsrcEvent` -/
def acquiredOnRsrcEvent (m : AgpsStateMachine) : RsrcEvent → AgpsState × AgpsStateMachine
  | .rsrcSubscribe data =>
      (.acquired, ((m.notifyRsrcStatus data (.receiver data.sub .rsrcGranted)).2).addSubscriber
        data.sub)
  | .rsrcUnsubscribe data => (m.unsubscribed data).releaseIfUnused .acquired
  | .rsrcGranted => (.acquired, m)
  | .rsrcReleased => (.released, m.notifySubscribers (.broadcast .all .rsrcReleased true))
  | .rsrcDenied => (.acquired, m)

/-- The answer to a close in Releasing: inactive subscribers leave, and the
interface is requested again for the others. -/
def closeComplete (m : AgpsStateMachine) (status : AgpsRsrcStatus) :
    AgpsState × AgpsStateMachine :=
  let m := m.notifySubscribers (.broadcast .inactive status true)
  if m.hasActiveSubscribers then
    (.pending, (m.sendRsrcRequest .gpsRequestAgpsDataConn).2)
  else (.released, m)

/-- `AgpsReleasingState::onRsrcEvent` -/
def releasingOnRsrcEvent (m : AgpsStateMachine) : RsrcEvent → AgpsState × AgpsStateMachine
  | .rsrcSubscribe data => (.releasing, m.addSubscriber data.sub)
  | .rsrcUnsubscribe data =>
      let m := m.unsubscribed data
      (if !m.hasSubscribers then .released else .releasing, m)
  | .rsrcDenied => m.closeComplete .rsrcDenied
  | .rsrcReleased => m.closeComplete .rsrcReleased
  | .rsrcGranted => (.releasing, m)

/-- The virtual `AgpsState::onRsrcEvent`, dispatched on the current state. -/
def dispatch (m : AgpsStateMachine) (event : RsrcEvent) : AgpsState × AgpsStateMachine :=
  match m.mStatePtr with
  | .released => m.releasedOnRsrcEvent event
  | .pending => m.pendingOnRsrcEvent event
  | .acquired => m.acquiredOnRsrcEvent event
  | .releasing => m.releasingOnRsrcEvent event

@[simps] def moveTo (next : AgpsState × AgpsStateMachine) : AgpsStateMachine :=
  { next.2 with mStatePtr := next.1 }

/-- `mStatePtr = mStatePtr->onRsrcEvent(event, data)` -/
def stateOnRsrcEvent (m : AgpsStateMachine) (event : RsrcEvent) : AgpsStateMachine :=
  moveTo ((m.record [.onRsrcEvent m.mStatePtr event.status]).dispatch event)

/-! ## The interface of the machine -/

/-- The subscriber passed in is an object of the caller, at an address of its
own. -/
def subscribeRsrc (m : AgpsStateMachine) (subscriber : Subscriber) : AgpsStateMachine :=
  let caller : SubscriberObj := ⟨m.nextAddr, subscriber⟩
  let m := { m.record [.subscribeRsrc subscriber] with nextAddr := m.nextAddr + 1 }
  if m.mEnforceSingleSubscriber && m.hasSubscribers then
    (notifySubscriber (.broadcast .all .rsrcDenied true) caller m).2
  else m.stateOnRsrcEvent (.rsrcSubscribe caller)

/-- Whether a listed subscriber was found, and the machine after its event. -/
def unsubscribeRsrc (m : AgpsStateMachine) (subscriber : Subscriber) : Bool × AgpsStateMachine :=
  let m := m.record [.unsubscribeRsrc subscriber]
  match m.findSubscriber (.receiver subscriber) with
  | some s => (true, m.stateOnRsrcEvent (.rsrcUnsubscribe s))
  | none => (false, m)

/-- `AgpsStateMachine::onRsrcEvent` -/
def agpsOnRsrcEvent (m : AgpsStateMachine) : AgpsRsrcStatus → AgpsStateMachine
  | .rsrcGranted => m.stateOnRsrcEvent .rsrcGranted
  | .rsrcReleased => m.stateOnRsrcEvent .rsrcReleased
  | .rsrcDenied => m.stateOnRsrcEvent .rsrcDenied
  | .rsrcSubscribe | .rsrcUnsubscribe | .rsrcStatusMax => m

/-- `DSStateMachine::onRsrcEvent`: a close that changes no state is a denial. -/
def dsOnRsrcEvent (m : AgpsStateMachine) : AgpsRsrcStatus → AgpsStateMachine
  | .rsrcGranted => m.stateOnRsrcEvent .rsrcGranted
  | .rsrcReleased =>
      let m' := m.stateOnRsrcEvent .rsrcReleased
      if m'.mStatePtr ≠ m.mStatePtr then m' else m'.stateOnRsrcEvent .rsrcDenied
  | .rsrcDenied => m.stateOnRsrcEvent .rsrcDenied
  | .rsrcSubscribe | .rsrcUnsubscribe | .rsrcStatusMax => m

/-- The virtual `onRsrcEvent`. -/
def onRsrcEvent (m : AgpsStateMachine) (event : AgpsRsrcStatus) : AgpsStateMachine :=
  match m.cls with
  | .agpsStateMachine => m.agpsOnRsrcEvent event
  | .dsStateMachine => m.dsOnRsrcEvent event

@[simps] def setAPN (m : AgpsStateMachine) (apn : Option (List UInt8)) : AgpsStateMachine :=
  { m with mAPN := apn }

@[simps] def setBearer (m : AgpsStateMachine) (bearer : AGpsBearerType) : AgpsStateMachine :=
  { m with mBearer := bearer }

end AgpsStateMachine

/-! ## Runs -/

/-- The constructor arguments of the subscriber that a client message builds
before it calls the machine. -/
inductive Request
  | bit (ipv4 : UInt32) (ipv6 : Option (Vector UInt8 16)) (uninitialized : Vector UInt8 16)
  | atl (id : UInt32) (compatibleMode : Bool) (beyond : Vector UInt8 16)
  | wifi (ssid password : Option (List UInt8)) (senderId : UInt32) (beyond : Vector UInt8 16)
  | ds (id : UInt32) (beyond : Vector UInt8 16)

def Request.subscriber : Request → Subscriber
  | .bit ipv4 ipv6 uninitialized => bitSubscriber ipv4 ipv6 uninitialized
  | .atl id compatibleMode beyond => atlSubscriber id compatibleMode beyond
  | .wifi ssid password senderId beyond => wifiSubscriber ssid password senderId beyond
  | .ds id beyond => dsSubscriber id beyond

@[simp] theorem Request.isInactive_subscriber (request : Request) :
    request.subscriber.isInactive = false := by
  cases request <;> rfl

/-- What happens to a machine from outside. `dataCallAnswer` sets what the data
call service will answer. -/
inductive Call
  | subscribeRsrc (request : Request)
  | unsubscribeRsrc (request : Request)
  | onRsrcEvent (event : AgpsRsrcStatus)
  | setAPN (apn : Option (List UInt8))
  | setBearer (bearer : AGpsBearerType)
  | dataCallAnswer (ret : Int)

namespace AgpsStateMachine

def step (m : AgpsStateMachine) : Call → AgpsStateMachine
  | .subscribeRsrc request => m.subscribeRsrc request.subscriber
  | .unsubscribeRsrc request => (m.unsubscribeRsrc request.subscriber).2
  | .onRsrcEvent event => m.onRsrcEvent event
  | .setAPN apn => m.setAPN apn
  | .setBearer bearer => m.setBearer bearer
  | .dataCallAnswer ret => { m with mServicer := .ext ret }

/-- The runs of a machine from its construction. -/
def system (initial : AgpsStateMachine) : Transition.System AgpsStateMachine Call where
  init := initial
  step m call := some (m.step call)

/-- The machine after some calls: every call returns. -/
def afterCalls (initial : AgpsStateMachine) (calls : List Call) : AgpsStateMachine :=
  calls.foldl step initial

theorem system_run (initial : AgpsStateMachine) (calls : List Call) :
    initial.system.run calls = some (initial.afterCalls calls) := by
  suffices hfrom : ∀ m : AgpsStateMachine,
      initial.system.runFrom m calls = some (m.afterCalls calls) from hfrom initial
  intro m
  induction calls generalizing m with
  | nil => rfl
  | cons call rest ih => exact ih (m.step call)

/-- What holds of the constructed machine and is preserved by every call holds
after every sequence of calls. -/
theorem afterCalls_invariant {initial : AgpsStateMachine} (invariant : AgpsStateMachine → Prop)
    (hinit : invariant initial) (hstep : ∀ m call, invariant m → invariant (m.step call))
    (calls : List Call) : invariant (initial.afterCalls calls) := by
  have hreach : initial.system.Reachable (initial.afterCalls calls) :=
    ⟨calls, initial.system_run calls⟩
  refine hreach.invariant hinit ?_
  intro m call next hm hnext
  obtain rfl : m.step call = next := Option.some.inj hnext
  exact hstep m call hm

end AgpsStateMachine

end Serrano.Agps
