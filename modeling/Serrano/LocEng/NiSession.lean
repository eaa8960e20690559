import Mathlib.Logic.Function.Basic
import Serrano.Foundation.Transition

/-! # Network-initiated requests

The modem asks the user for consent. `loc_eng_ni_request_handler` saves the
request in one of two sessions, starts a thread that waits for the response, and
notifies the framework; `loc_eng_ni_respond` hands the response of the user to
that thread, which answers the modem through a message and clears the session.
An engine restart takes the requests away again. Requests, resets and messages
are worked off by one thread; responses come from any number of callers. Each
block under the lock of a session is one step, and so is each statement outside.
Everything starts after `loc_eng_ni_init`.
-/

namespace Serrano.LocEng

abbrev GpsUserResponseType := Int

def gpsNiResponseAccept : GpsUserResponseType := 1
def gpsNiResponseNoresp : GpsUserResponseType := 3
def gpsNiResponseIgnore : GpsUserResponseType := 4

inductive GpsNiType
  | voice
  | umtsSupl
  | umtsCtrlPlane
  | emergencySupl
  deriving DecidableEq

/-- `LOC_NI_NO_RESPONSE_TIME`, in seconds. -/
def locNiNoResponseTime : Int := 20

/-- The members of `loc_eng_ni_data_s_type` that are sessions. -/
inductive NiSessionName
  | session
  | sessionEs
  deriving DecidableEq

/-- `loc_eng_ni_session_s_type`. The request that was last saved here is kept
in `serving`, which nothing reads. -/
structure NiSession where
  respTimeLeft : Int
  respRecvd : Bool
  rawRequest : Option Nat
  reqID : Int
  resp : GpsUserResponseType
  serving : Option Nat
  deriving DecidableEq

/-- The arguments of a call of `loc_eng_ni_request_handler`, which is known by
its number, and whether `pthread_create` succeeds in it. A payload has the
number of its request. -/
structure NiRequest where
  number : Nat
  ni_type : GpsNiType
  timeout : Int
  passThrough : Option Nat
  threadCreated : Bool
  deriving DecidableEq

structure LocEngInformNiResponse where
  mResponse : GpsUserResponseType
  mPayload : Nat
  deriving DecidableEq

/-- The next statement of the thread that works off the messages: in
`loc_eng_ni_request_handler`, in `loc_eng_ni_reset_on_engine_restart`, or in
`proc` and the destructor of a `LocEngInformNiResponse`. -/
inductive NiMsgTask
  | receive
  | chooseSession (request : NiRequest)
  | freePassThrough (request : NiRequest)
  | saveRequest (name : NiSessionName) (request : NiRequest)
  | saveReqID (name : NiSessionName) (request : NiRequest)
  | fillNotification (name : NiSessionName) (request : NiRequest)
  | saveTimeLeft (name : NiSessionName) (request : NiRequest) (notification_id : Int)
  | createThread (name : NiSessionName) (request : NiRequest) (notification_id : Int)
  | notify (request : NiRequest) (notification_id : Int)
  | checkRequest (name : NiSessionName)
  | freeRequest (name : NiSessionName)
  | clearRequest (name : NiSessionName)
  | wakeThread (name : NiSessionName)
  | inform (msg : LocEngInformNiResponse)
  | delete (msg : LocEngInformNiResponse)
  deriving DecidableEq

/-- The next block or statement of `ni_thread_proc`. -/
inductive NiThread
  | absent
  | start (name : NiSessionName)
  | timedwait (name : NiSessionName) (expire_time : Int)
  | clearTimeLeft (name : NiSessionName) (msg : Option LocEngInformNiResponse)
  | clearReqID (name : NiSessionName) (msg : Option LocEngInformNiResponse)
  | sendMsg (msg : Option LocEngInformNiResponse)
  deriving DecidableEq

/-- The next block or statement of `loc_eng_ni_respond`. The requests that were
notified under the id before the call, and the request that a comparison found,
are kept along. -/
inductive NiRespond
  | idle
  | checkEs (notif_id : Int) (user_response : GpsUserResponseType) (notified : List Nat)
  | checkAccept (user_response : GpsUserResponseType) (found : Nat)
  | passOver (user_response : GpsUserResponseType) (found other : Nat)
  | checkSession (notif_id : Int) (user_response : GpsUserResponseType) (notified : List Nat)
  | signal (name : NiSessionName) (user_response : GpsUserResponseType) (found : Nat)
  deriving DecidableEq

/-- How a session or the handler gets rid of a payload. -/
inductive NiDisposal
  | ignored
  | reset
  | dropped
  | handedOver
  deriving DecidableEq

/-- What happens to the requests, by their numbers. A rejection names the
requests that were notified under the rejected id before the call and that are
in a session still. -/
inductive NiEvent
  | requested (request : Nat) (timeout time : Int)
  | identified (request : Nat) (reqID : Int)
  | notified (request : Nat) (notification_id : Int)
  | responded (notif_id : Int) (user_response : GpsUserResponseType)
  | passedOver (request : Nat)
  | rejected (notif_id : Int) (active : List Nat)
  | disposed (payload : Nat) (how : NiDisposal)
  | informed (payload : Nat) (response : GpsUserResponseType) (time : Int)
  | deleted (payload : Nat)
  deriving DecidableEq

/-- `loc_eng_ni_data_s_type` and everybody who works on it. Times are in
microseconds. Nothing reads the log. -/
structure NiData where
  now : Int
  sessions : NiSessionName → NiSession
  reqIDCounter : Int
  requests : Nat
  msgTask : NiMsgTask
  threads : Nat → NiThread
  responds : Nat → NiRespond
  queue : List LocEngInformNiResponse
  log : List NiEvent

/-- What may happen next; the last three are the next step of the message
task, of the thread of a request and of a call of `loc_eng_ni_respond`. -/
inductive NiAction
  | tick (time : Int)
  | request (ni_type : GpsNiType) (timeout : Int) (passThrough threadCreated : Bool)
  | engineRestart
  | respond (caller : Nat) (notif_id : Int) (user_response : GpsUserResponseType)
  | timeOut (thread : Nat)
  | msgTask
  | niThread (thread : Nat)
  | responder (caller : Nat)
  deriving DecidableEq

/-- The seconds that the user has, with five to spare. -/
def niTimeLeft (timeout : Int) : Int :=
  5 + if timeout ≠ 0 then timeout else locNiNoResponseTime

namespace NiData

variable (s : NiData)

def record (event : NiEvent) : NiData := { s with log := s.log ++ [event] }

def setSession (name : NiSessionName) (session : NiSession) : NiData :=
  { s with sessions := Function.update s.sessions name session }

def setThread (thread : Nat) (next : NiThread) : NiData :=
  { s with threads := Function.update s.threads thread next }

def setRespond (caller : Nat) (next : NiRespond) : NiData :=
  { s with responds := Function.update s.responds caller next }

@[simp] theorem setSession_self (name : NiSessionName) (session : NiSession) :
    (s.setSession name session).sessions name = session := Function.update_self ..

@[simp] theorem setSession_of_ne {name other : NiSessionName} (hother : other ≠ name)
    (session : NiSession) : (s.setSession name session).sessions other = s.sessions other :=
  Function.update_of_ne hother ..

@[simp] theorem setThread_self (thread : Nat) (next : NiThread) :
    (s.setThread thread next).threads thread = next := Function.update_self ..

@[simp] theorem setThread_of_ne {thread other : Nat} (hother : other ≠ thread)
    (next : NiThread) : (s.setThread thread next).threads other = s.threads other :=
  Function.update_of_ne hother ..

@[simp] theorem setRespond_self (caller : Nat) (next : NiRespond) :
    (s.setRespond caller next).responds caller = next := Function.update_self ..

@[simp] theorem setRespond_of_ne {caller other : Nat} (hother : other ≠ caller)
    (next : NiRespond) : (s.setRespond caller next).responds other = s.responds other :=
  Function.update_of_ne hother ..

/-- The session that may take the request: an emergency request needs its own
session free, any other request both. -/
def sessionFor (request : NiRequest) : Option NiSessionName :=
  match request.ni_type with
  | .emergencySupl =>
      if (s.sessions .sessionEs).rawRequest ≠ none then none else some .sessionEs
  | .voice | .umtsSupl | .umtsCtrlPlane =>
      if (s.sessions .session).rawRequest ≠ none ∨ (s.sessions .sessionEs).rawRequest ≠ none then
        none
      else some .session

/-- After the emergency session a reset looks at the other one. -/
def afterReset : NiSessionName → NiMsgTask
  | .sessionEs => .checkRequest .session
  | .session => .receive

/-- The next statement of the message task. -/
def msgTaskStep : Option NiData :=
  match s.msgTask with
  | .receive =>
      match s.queue with
      | [] => none
      | msg :: rest => some { s with queue := rest, msgTask := .inform msg }
  | .chooseSession request =>
      match s.sessionFor request with
      | none => some { s with msgTask := .freePassThrough request }
      | some name => some { s with msgTask := .saveRequest name request }
  | .freePassThrough request =>
      match request.passThrough with
      | none => some { s with msgTask := .receive }
      | some payload => some { s.record (.disposed payload .ignored) with msgTask := .receive }
  | .saveRequest name request =>
      some { s.setSession name { s.sessions name with
          rawRequest := request.passThrough, serving := some request.number } with
        msgTask := .saveReqID name request }
  | .saveReqID name request =>
      some { (s.setSession name { s.sessions name with reqID := s.reqIDCounter + 1 }).record
          (.identified request.number (s.reqIDCounter + 1)) with
        reqIDCounter := s.reqIDCounter + 1
        msgTask := .fillNotification name request }
  | .fillNotification name request =>
      some { s with msgTask := .saveTimeLeft name request (s.sessions name).reqID }
  | .saveTimeLeft name request notification_id =>
      some { s.setSession name { s.sessions name with
          respTimeLeft := niTimeLeft request.timeout } with
        msgTask := .createThread name request notification_id }
  | .createThread name request notification_id =>
      if request.threadCreated then
        some { s.setThread request.number (.start name) with
          msgTask := .notify request notification_id }
      else some { s with msgTask := .notify request notification_id }
  | .notify request notification_id =>
      some { s.record (.notified request.number notification_id) with msgTask := .receive }
  | .checkRequest name =>
      if (s.sessions name).rawRequest ≠ none then some { s with msgTask := .freeRequest name }
      else some { s with msgTask := afterReset name }
  | .freeRequest name =>
      -- The session goes on pointing to the freed payload.
      match (s.sessions name).rawRequest with
      | none => some { s with msgTask := .clearRequest name }
      | some payload =>
          some { s.record (.disposed payload .reset) with msgTask := .clearRequest name }
  | .clearRequest name =>
      some { s.setSession name { s.sessions name with rawRequest := none } with
        msgTask := .wakeThread name }
  | .wakeThread name =>
      some { s.setSession name { s.sessions name with respRecvd := true } with
        msgTask := afterReset name }
  | .inform msg =>
      some { s.record (.informed msg.mPayload msg.mResponse s.now) with msgTask := .delete msg }
  | .delete msg => some { s.record (.deleted msg.mPayload) with msgTask := .receive }

/-- The rest of the block of `ni_thread_proc` after its loop: take the request
out of the session, and make a message of it unless it is to be ignored. -/
def takeRequest (thread : Nat) (name : NiSessionName) : NiData :=
  let session := s.sessions name
  let s := s.setSession name { session with respRecvd := false, rawRequest := none }
  match session.rawRequest with
  | none => s.setThread thread (.clearTimeLeft name none)
  | some payload =>
      if session.resp ≠ gpsNiResponseIgnore then
        (s.record (.disposed payload .handedOver)).setThread thread
          (.clearTimeLeft name (some ⟨session.resp, payload⟩))
      else (s.record (.disposed payload .dropped)).setThread thread (.clearTimeLeft name none)

/-- The next step of a thread. A wake-up without a response goes on waiting. -/
def niThreadStep (thread : Nat) : Option NiData :=
  match s.threads thread with
  | .absent => none
  | .start name =>
      if (s.sessions name).respRecvd then some (s.takeRequest thread name)
      else some (s.setThread thread
        (.timedwait name (s.now + 1000000 * (s.sessions name).respTimeLeft)))
  | .timedwait name _ =>
      if (s.sessions name).respRecvd then some (s.takeRequest thread name) else some s
  | .clearTimeLeft name msg =>
      some ((s.setSession name { s.sessions name with respTimeLeft := 0 }).setThread thread
        (.clearReqID name msg))
  | .clearReqID name msg =>
      some ((s.setSession name { s.sessions name with reqID := 0 }).setThread thread
        (.sendMsg msg))
  | .sendMsg msg => some { s.setThread thread .absent with queue := s.queue ++ msg.toList }

/-- `pthread_cond_timedwait` answers `ETIMEDOUT`. -/
def timeOutStep (thread : Nat) : Option NiData :=
  match s.threads thread with
  | .timedwait name expire_time =>
      if expire_time ≤ s.now then
        some ((s.setSession name { s.sessions name with resp := gpsNiResponseNoresp }).takeRequest
          thread name)
      else none
  | .absent | .start _ | .clearTimeLeft .. | .clearReqID .. | .sendMsg _ => none

/-- The request is in a session. -/
def holds (request : Nat) : Bool :=
  (s.sessions .session).rawRequest = some request ||
    (s.sessions .sessionEs).rawRequest = some request

/-- The requests that were notified under the id. -/
def notifiedAs (notif_id : Int) : List Nat :=
  s.log.filterMap fun
    | .notified request notification_id => if notification_id = notif_id then some request else none
    | _ => none

/-- The block of `loc_eng_ni_respond` under the lock of the session. -/
def signal (name : NiSessionName) (resp : GpsUserResponseType) : NiData :=
  s.setSession name { s.sessions name with resp := resp, respRecvd := true }

/-- The next step of a call of `loc_eng_ni_respond`. -/
def respondStep (caller : Nat) : Option NiData :=
  match s.responds caller with
  | .idle => none
  | .checkEs notif_id user_response notified =>
      match (s.sessions .sessionEs).rawRequest with
      | none => some (s.setRespond caller (.checkSession notif_id user_response notified))
      | some found =>
          if notif_id = (s.sessions .sessionEs).reqID then
            some (s.setRespond caller (.checkAccept user_response found))
          else some (s.setRespond caller (.checkSession notif_id user_response notified))
  | .checkAccept user_response found =>
      -- An accepted emergency request has the other one ignored.
      match (s.sessions .session).rawRequest with
      | none => some (s.setRespond caller (.signal .sessionEs user_response found))
      | some other =>
          if user_response = gpsNiResponseAccept then
            some (s.setRespond caller (.passOver user_response found other))
          else some (s.setRespond caller (.signal .sessionEs user_response found))
  | .passOver user_response found other =>
      some (((s.signal .session gpsNiResponseIgnore).record (.passedOver other)).setRespond caller
        (.signal .sessionEs user_response found))
  | .checkSession notif_id user_response notified =>
      match (s.sessions .session).rawRequest with
      | none =>
          some ((s.record (.rejected notif_id (notified.filter s.holds))).setRespond caller .idle)
      | some found =>
          if notif_id = (s.sessions .session).reqID then
            some (s.setRespond caller (.signal .session user_response found))
          else
            some ((s.record (.rejected notif_id (notified.filter s.holds))).setRespond caller .idle)
  | .signal name user_response _ => some ((s.signal name user_response).setRespond caller .idle)

def step : NiAction → Option NiData
  | .tick time => if s.now ≤ time then some { s with now := time } else none
  | .request ni_type timeout passThrough threadCreated =>
      if s.msgTask = .receive then
        some { s.record (.requested s.requests timeout s.now) with
          requests := s.requests + 1
          msgTask := .chooseSession
            { number := s.requests, ni_type := ni_type, timeout := timeout
              passThrough := if passThrough then some s.requests else none
              threadCreated := threadCreated } }
      else none
  | .engineRestart =>
      if s.msgTask = .receive then some { s with msgTask := .checkRequest .sessionEs } else none
  | .respond caller notif_id user_response =>
      if s.responds caller = .idle then
        some ((s.record (.responded notif_id user_response)).setRespond caller
          (.checkEs notif_id user_response (s.notifiedAs notif_id)))
      else none
  | .timeOut thread => s.timeOutStep thread
  | .msgTask => s.msgTaskStep
  | .niThread thread => s.niThreadStep thread
  | .responder caller => s.respondStep caller

/-- `loc_eng_ni_init` has just set `ni_notify_cb`. -/
def initial : NiData where
  now := 0
  sessions _ :=
    { respTimeLeft := 0, respRecvd := false, rawRequest := none, reqID := 0, resp := 0
      serving := none }
  reqIDCounter := 0
  requests := 0
  msgTask := .receive
  threads _ := .absent
  responds _ := .idle
  queue := []
  log := []

/-- The interleavings of requests, responses, restarts, threads and messages. -/
def system : Transition.System NiData NiAction where
  init := initial
  step := step

end NiData

end Serrano.LocEng
