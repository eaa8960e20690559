import Serrano.Agps.StateMachine
import Serrano.Foundation.Monitor

/-! # SUPL ES data calls and their retries

The data call machine with what surrounds it: the clients that request and
release connections, the data call service, and the retry timers. A timer that
expires posts a request for the first active subscriber; the request is
processed like that of a client, some time later.

A client that released its connection, or that fell back to a normal one,
should not be served again until it asks. This fails where such a client stays
listed, or stays in the queue of retries.
-/

namespace Serrano.LocEng

open Agps AgpsStateMachine

/-- What is processed, and what the machine does in answer. -/
inductive DsEvent
  | requestSuplEs (id : UInt32)
  | retrySuplEs (id : UInt32)
  | releaseATL (id : UInt32)
  | suplEsOpened
  | suplEsClosed
  | retryCallback
  | did (event : AgpsEvent)
  deriving DecidableEq, Repr

/-- `timers` counts the retry timers that run; `retries` are the requests that
expired timers posted and that are not processed yet. -/
structure SuplEs where
  dsNif : AgpsStateMachine
  timers : Nat
  retries : List UInt32
  log : List DsEvent

inductive SuplEsAction
  | requestSuplEs (id : UInt32) (beyond : Vector UInt8 16)
  | retrySuplEs (beyond : Vector UInt8 16)
  | releaseATL (id : UInt32) (beyond : Vector UInt8 16)
  | suplEsOpened
  | suplEsClosed
  | retryCallback
  | dataCallAnswer (ret : Int)

def startsTimer : AgpsEvent → Bool
  | .locTimerStart _ => true
  | _ => false

namespace SuplEs

/-- What the machine appended to its log. -/
def did (st : SuplEs) (dsNif : AgpsStateMachine) : List AgpsEvent :=
  dsNif.log.drop st.dsNif.log.length

/-- Process one message, with the machine after it. -/
def process (st : SuplEs) (event : DsEvent) (dsNif : AgpsStateMachine) : SuplEs :=
  { st with
    dsNif := dsNif
    timers := st.timers + (st.did dsNif).countP startsTimer
    log := st.log ++ event :: (st.did dsNif).map .did }

/-- `DSStateMachine::retryCallback`; without an active subscriber only an error
is logged. -/
def retryCallback (st : SuplEs) : SuplEs :=
  { st with
    timers := st.timers - 1
    retries := st.retries ++
      (st.dsNif.findSubscriber (.broadcast .active)).toList.map (·.sub.ID)
    log := st.log ++ [.retryCallback] }

/-- The part of `LocEngReleaseATL::proc` that is reached when the other machines
know no such subscriber. -/
def releaseATL (st : SuplEs) (id : UInt32) (beyond : Vector UInt8 16) : SuplEs :=
  let (found, dsNif) := st.dsNif.unsubscribeRsrc (dsSubscriber id beyond)
  let st := st.process (.releaseATL id) dsNif
  if found then st else { st with log := st.log ++ [.did (.atlCloseStatus id false)] }

def step (st : SuplEs) : SuplEsAction → Option SuplEs
  | .requestSuplEs id beyond =>
      some (st.process (.requestSuplEs id) (st.dsNif.subscribeRsrc (dsSubscriber id beyond)))
  | .retrySuplEs beyond => match st.retries with
      | [] => none
      | id :: rest => some ({ st with retries := rest }.process (.retrySuplEs id)
          (st.dsNif.subscribeRsrc (dsSubscriber id beyond)))
  | .releaseATL id beyond => some (st.releaseATL id beyond)
  | .suplEsOpened => some (st.process .suplEsOpened (st.dsNif.onRsrcEvent .rsrcGranted))
  | .suplEsClosed => some (st.process .suplEsClosed (st.dsNif.onRsrcEvent .rsrcReleased))
  | .retryCallback => if st.timers = 0 then none else some st.retryCallback
  | .dataCallAnswer ret => some { st with dsNif := st.dsNif.step (.dataCallAnswer ret) }

def initial (answer : Int) : SuplEs := ⟨dsStateMachine (.ext answer), 0, [], []⟩

def system (answer : Int) : Transition.System SuplEs SuplEsAction where
  init := initial answer
  step := step

end SuplEs

/-! ## Clients that are finished -/

/-- The clients that were released or fell back since their last request, and
the client whose retry is processed. -/
structure Finished where
  finished : UInt32 → Bool
  retrying : Option UInt32

/-- Some more clients are finished. -/
def Finished.add (current : Finished) (ids : List UInt32) : Finished :=
  { current with finished := fun id => decide (id ∈ ids) || current.finished id }

def Finished.update (current : Finished) : DsEvent → Finished
  | .requestSuplEs id =>
      ⟨fun other => if other = id then false else current.finished other, none⟩
  | .retrySuplEs id => { current with retrying := some id }
  | .releaseATL _ | .suplEsOpened | .suplEsClosed | .retryCallback =>
      { current with retrying := none }
  | .did (.atlCloseStatus id true) => current.add [id]
  | .did (.requestATL id _) => current.add [id]
  | .did _ => current

def finishing : Monitor Finished DsEvent where
  init := ⟨fun _ => false, none⟩
  update := Finished.update

/-- No data call is started for a client that is finished, or in answer to its
retry, and its connection is not granted. -/
def leftAlone (current : Finished) : DsEvent → Prop
  | .did (.openAndStartDataCall connHandle _) =>
      current.finished connHandle = false ∧ ∀ id ∈ current.retrying, current.finished id = false
  | .did (.atlOpenStatus handle true _ _ _) => current.finished handle = false
  | _ => True

instance (current : Finished) : (event : DsEvent) → Decidable (leftAlone current event)
  | .did (.openAndStartDataCall _ _) =>
      @instDecidableAnd _ _ inferInstance (Option.decidableForallMem _)
  | .did (.atlOpenStatus _ true _ _ _) => inferInstanceAs (Decidable (_ = _))
  | .did (.atlOpenStatus _ false _ _ _) | .did (.subscribeRsrc _) | .did (.unsubscribeRsrc _)
  | .did (.onRsrcEvent _ _) | .did (.notifyRsrcStatus _ _ _) | .did (.sendRsrcRequest _)
  | .did (.requestRsrc _) | .did .stopDataCall | .did .closeDataCall
  | .did (.serverDataConn _ _) | .did (.atlCloseStatus _ _) | .did (.requestATL _ _)
  | .did (.locTimerStart _) | .requestSuplEs _ | .retrySuplEs _ | .releaseATL _
  | .suplEsOpened | .suplEsClosed | .retryCallback => .isTrue trivial

/-- Events that neither concern a finished client nor finish one. -/
def isCalm : AgpsEvent → Bool
  | .openAndStartDataCall _ _ | .atlOpenStatus _ true _ _ _ | .atlCloseStatus _ true
  | .requestATL _ _ => false
  | _ => true

namespace Finished

@[simp] theorem add_nil (current : Finished) : current.add [] = current := by
  simp [add]

theorem add_add (current : Finished) (first second : List UInt32) :
    (current.add first).add second = current.add (first ++ second) := by
  simp only [add, Finished.mk.injEq, and_true]
  funext id
  by_cases hfirst : id ∈ first <;> by_cases hsecond : id ∈ second <;> simp [hfirst, hsecond]

@[simp] theorem add_finished_eq_false (current : Finished) (ids : List UInt32) (id : UInt32) :
    (current.add ids).finished id = false ↔ id ∉ ids ∧ current.finished id = false := by
  simp [add]

@[simp] theorem update_requestSuplEs_eq_false (current : Finished) (id other : UInt32) :
    (current.update (.requestSuplEs id)).finished other = false ↔
      other = id ∨ current.finished other = false := by
  by_cases hid : other = id <;> simp [update, hid]

end Finished

end Serrano.LocEng
