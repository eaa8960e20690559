import Serrano.LocEng.NiSession

/-! # The order of requests in a session

A session is used by one request after another, while the thread of an earlier
one, a response to it, or the reset that took it away may still be at work on
the session. A run is undisturbed when none of them touches the session of a later
request, and none leaves `respRecvd` set for it. What holds then at each place
is invariant, and the parts of it that a step does not touch stay as they are.
-/

namespace Serrano.LocEng

/-- The user gave the response for the id of the request. -/
def Told (log : List NiEvent) (request : Nat) (resp : GpsUserResponseType) : Prop :=
  ∃ reqID, .identified request reqID ∈ log ∧ .responded reqID resp ∈ log

/-- The request was to be answered by the time, with five seconds to spare. -/
def Overdue (log : List NiEvent) (request : Nat) (time : Int) : Prop :=
  ∃ timeout start, .requested request timeout start ∈ log ∧
    start + 1000000 * niTimeLeft timeout ≤ time

/-- The response to a request is the one of its user, or none in time. -/
def Answered (log : List NiEvent) (request : Nat) (resp : GpsUserResponseType) (time : Int) :
    Prop :=
  Told log request resp ∨ resp = gpsNiResponseNoresp ∧ Overdue log request time

/-- The request is to be ignored: its user or an accepted emergency says so. -/
def Ignored (log : List NiEvent) (request : Nat) : Prop :=
  Told log request gpsNiResponseIgnore ∨ .passedOver request ∈ log

/-- The modem gets the answer to the request it is given for, a request is
ignored when it is to be, the framework is told the id of the request, and no
rejected response is for a request that is active. -/
def Proper (log : List NiEvent) : NiEvent → Prop
  | .informed request response time => Answered log request response time
  | .disposed request .dropped => Ignored log request
  | .notified request notification_id => .identified request notification_id ∈ log
  | .rejected _ active => active = []
  | .requested .. | .identified .. | .responded .. | .passedOver _ | .disposed _ .ignored
  | .disposed _ .reset | .disposed _ .handedOver | .deleted _ => True

/-- Every event is proper, and every request has an id of its own. -/
structure AnswersOwn (log : List NiEvent) : Prop where
  proper : ∀ event ∈ log, Proper log event
  own : ∀ request other reqID, .identified request reqID ∈ log →
    .identified other reqID ∈ log → request = other

/-! ## Logs grow -/

section Logs

variable {log log' : List NiEvent} {request : Nat} {resp : GpsUserResponseType} {time time' : Int}

theorem Told.mono (htold : Told log request resp) (hlog : log ⊆ log') : Told log' request resp := by
  obtain ⟨reqID, hidentified, hresponded⟩ := htold
  exact ⟨reqID, hlog hidentified, hlog hresponded⟩

theorem Overdue.mono (hoverdue : Overdue log request time) (hlog : log ⊆ log')
    (htime : time ≤ time') : Overdue log' request time' := by
  obtain ⟨timeout, start, hrequested, hdue⟩ := hoverdue
  exact ⟨timeout, start, hlog hrequested, Int.le_trans hdue htime⟩

theorem Answered.mono (hanswered : Answered log request resp time) (hlog : log ⊆ log')
    (htime : time ≤ time') : Answered log' request resp time' := by
  rcases hanswered with htold | ⟨hresp, hoverdue⟩
  · exact .inl (htold.mono hlog)
  · exact .inr ⟨hresp, hoverdue.mono hlog htime⟩

theorem Ignored.mono (hignored : Ignored log request) (hlog : log ⊆ log') :
    Ignored log' request := by
  rcases hignored with htold | hpassed
  · exact .inl (htold.mono hlog)
  · exact .inr (hlog hpassed)

theorem Proper.mono {event : NiEvent} (hevent : Proper log event) (hlog : log ⊆ log') :
    Proper log' event := by
  cases event with
  | informed => exact Answered.mono hevent hlog (Int.le_refl _)
  | notified => exact hlog hevent
  | disposed payload how =>
      cases how with
      | dropped => exact Ignored.mono hevent hlog
      | ignored | reset | handedOver => trivial
  | rejected => exact hevent
  | requested | identified | responded | passedOver | deleted => trivial

/-- A log grows by a proper event. A new id is new. -/
theorem AnswersOwn.concat (hlog : AnswersOwn log) {event : NiEvent}
    (hproper : Proper (log ++ [event]) event)
    (hown : ∀ request reqID, event = .identified request reqID →
      ∀ other, .identified other reqID ∉ log) : AnswersOwn (log ++ [event]) := by
  constructor
  · intro other hmem
    rcases List.mem_append.mp hmem with hold | hnew
    · exact (hlog.proper other hold).mono (List.subset_append_left _ _)
    · exact List.mem_singleton.mp hnew ▸ hproper
  · intro request other reqID hrequest hother
    rw [List.mem_append, List.mem_singleton] at hrequest hother
    rcases hrequest with hrequest | hrequest
    · rcases hother with hother | hother
      · exact hlog.own request other reqID hrequest hother
      · exact absurd hrequest (hown other reqID hother.symm request)
    · rcases hother with hother | hother
      · exact absurd hother (hown request reqID hrequest.symm other)
      · rw [← hrequest] at hother
        exact (NiEvent.identified.inj hother).1.symm

end Logs

/-- The events by which a request becomes known. -/
def NiEvent.introduces : NiEvent → Bool
  | .requested .. | .identified .. => true
  | .notified .. | .responded .. | .passedOver _ | .rejected .. | .disposed .. | .informed ..
  | .deleted _ => false

theorem NiEvent.ne_identified {event : NiEvent} (hevent : event.introduces = false)
    (request : Nat) (reqID : Int) : event ≠ .identified request reqID := by
  rintro rfl
  cases hevent

theorem NiEvent.ne_requested {event : NiEvent} (hevent : event.introduces = false)
    (request : Nat) (timeout time : Int) : event ≠ .requested request timeout time := by
  rintro rfl
  cases hevent

/-! ## Who disturbs whom -/

/-- The session that the thread is at work on. -/
def NiThread.session? : NiThread → Option NiSessionName
  | .start name | .timedwait name _ | .clearTimeLeft name _ | .clearReqID name _ => some name
  | .absent | .sendMsg _ => none

/-- The session in which a request is about to be saved. -/
def NiMsgTask.saving : NiMsgTask → Option NiSessionName
  | .saveRequest name _ => some name
  | .receive | .chooseSession _ | .freePassThrough _ | .saveReqID .. | .fillNotification ..
  | .saveTimeLeft .. | .createThread .. | .notify .. | .checkRequest _ | .freeRequest _
  | .clearRequest _ | .wakeThread _ | .inform _ | .delete _ => none

/-- The session whose request has no id yet. -/
def NiMsgTask.identifying : NiMsgTask → Option NiSessionName
  | .saveReqID name _ => some name
  | .receive | .chooseSession _ | .freePassThrough _ | .saveRequest .. | .fillNotification ..
  | .saveTimeLeft .. | .createThread .. | .notify .. | .checkRequest _ | .freeRequest _
  | .clearRequest _ | .wakeThread _ | .inform _ | .delete _ => none

/-- The session whose id a response is about to be compared with. -/
def NiRespond.compares : NiRespond → Option (NiSessionName × Int)
  | .checkEs notif_id _ _ => some (.sessionEs, notif_id)
  | .checkSession notif_id _ _ => some (.session, notif_id)
  | .idle | .checkAccept .. | .passOver .. | .signal .. => none

/-- The session that is about to be signalled, for the request found in it. -/
def NiRespond.signals : NiRespond → Option (NiSessionName × Nat)
  | .passOver _ _ other => some (.session, other)
  | .signal name _ found => some (name, found)
  | .idle | .checkEs .. | .checkAccept .. | .checkSession .. => none

namespace NiData

/-- A request finds `respRecvd` false in its session. A thread is at work on a
session while that serves its own request, and a session is signalled while it
serves the request that was found there. No response is compared with the id
that a new request finds in its session. -/
def Undisturbed (s : NiData) : NiAction → Prop
  | .msgTask => ∀ name ∈ s.msgTask.saving, (s.sessions name).respRecvd = false
  | .niThread thread | .timeOut thread => ∀ name ∈ (s.threads thread).session?,
      (s.sessions name).serving = some thread
  | .responder caller =>
      (∀ compared ∈ (s.responds caller).compares, s.msgTask.identifying = some compared.1 →
        compared.2 ≠ (s.sessions compared.1).reqID) ∧
      ∀ signalled ∈ (s.responds caller).signals,
        (s.sessions signalled.1).serving = some signalled.2
  | .tick _ | .request .. | .engineRestart | .respond .. => True

instance (s : NiData) : (action : NiAction) → Decidable (s.Undisturbed action)
  | .msgTask => inferInstanceAs (Decidable (∀ name ∈ s.msgTask.saving,
      (s.sessions name).respRecvd = false))
  | .niThread thread | .timeOut thread =>
      inferInstanceAs (Decidable (∀ name ∈ (s.threads thread).session?,
        (s.sessions name).serving = some thread))
  | .responder caller => inferInstanceAs (Decidable (
      (∀ compared ∈ (s.responds caller).compares, s.msgTask.identifying = some compared.1 →
        compared.2 ≠ (s.sessions compared.1).reqID) ∧
      ∀ signalled ∈ (s.responds caller).signals,
        (s.sessions signalled.1).serving = some signalled.2))
  | .tick _ | .request .. | .engineRestart | .respond .. => .isTrue trivial

/-! ## What holds at each place -/

variable (s : NiData)

/-- The response that a message carries is an answer by now. -/
def Sends (msg : LocEngInformNiResponse) : Prop :=
  Answered s.log msg.mPayload msg.mResponse s.now

/-- A session serves the request that it holds, whose id it has. The response
that it has received, if any, is one to this request. -/
structure SessionOk (name : NiSessionName) : Prop where
  serving : ∀ request, (s.sessions name).rawRequest = some request →
    (s.sessions name).serving = some request
  served : ∀ request, (s.sessions name).serving = some request → request < s.requests
  reqID : ∀ request, (s.sessions name).rawRequest = some request →
    s.msgTask.identifying ≠ some name → .identified request (s.sessions name).reqID ∈ s.log
  recvd : (s.sessions name).respRecvd = true → ∀ request,
    (s.sessions name).rawRequest = some request → Told s.log request (s.sessions name).resp ∨
      (s.sessions name).resp = gpsNiResponseIgnore ∧ .passedOver request ∈ s.log

/-- A thread waits until its request is overdue, and it is done with a session
once it has taken the request. -/
def ThreadOk (number : Nat) : NiThread → Prop
  | .absent => True
  | .start name => (s.sessions name).serving = some number → ∃ timeout time,
      .requested number timeout time ∈ s.log ∧
        (s.sessions name).respTimeLeft = niTimeLeft timeout
  | .timedwait _ expire_time => Overdue s.log number expire_time
  | .clearTimeLeft name msg | .clearReqID name msg =>
      ((s.sessions name).serving = some number → (s.sessions name).rawRequest = none) ∧
        ∀ held ∈ msg, s.Sends held
  | .sendMsg msg => ∀ held ∈ msg, s.Sends held

/-- The request was made and its thread not created. -/
structure Handled (request : NiRequest) : Prop where
  number : request.number < s.requests
  requested : ∃ time, .requested request.number request.timeout time ∈ s.log
  absent : s.threads request.number = .absent
  passThrough : ∀ payload, request.passThrough = some payload → payload = request.number

/-- The request has no id yet. -/
def Unidentified (request : NiRequest) : Prop :=
  ∀ reqID, .identified request.number reqID ∉ s.log

/-- What the message task knows of the request that it handles. -/
def MsgTaskOk : NiMsgTask → Prop
  | .chooseSession request | .freePassThrough request | .saveRequest _ request =>
      s.Handled request ∧ s.Unidentified request ∧
        ∀ name, (s.sessions name).serving ≠ some request.number
  | .saveReqID name request =>
      s.Handled request ∧ s.Unidentified request ∧
        (s.sessions name).serving = some request.number
  | .fillNotification name request =>
      s.Handled request ∧ (s.sessions name).serving = some request.number ∧
        .identified request.number (s.sessions name).reqID ∈ s.log
  | .saveTimeLeft name request notification_id =>
      s.Handled request ∧ (s.sessions name).serving = some request.number ∧
        .identified request.number notification_id ∈ s.log
  | .createThread name request notification_id =>
      s.Handled request ∧ (s.sessions name).serving = some request.number ∧
        .identified request.number notification_id ∈ s.log ∧
          (s.sessions name).respTimeLeft = niTimeLeft request.timeout
  | .notify request notification_id => .identified request.number notification_id ∈ s.log
  | .wakeThread name => (s.sessions name).rawRequest = none
  | .inform msg => s.Sends msg
  | .receive | .checkRequest _ | .freeRequest _ | .clearRequest _ | .delete _ => True

/-- A response is for the requests that were notified under its id, and for the
one found by this id. -/
def RespondOk : NiRespond → Prop
  | .idle => True
  | .checkEs notif_id user_response notified => .responded notif_id user_response ∈ s.log ∧
      ∀ request ∈ notified, .identified request notif_id ∈ s.log
  | .checkAccept user_response found | .passOver user_response found _
  | .signal _ user_response found => Told s.log found user_response
  | .checkSession notif_id user_response notified => .responded notif_id user_response ∈ s.log ∧
      ∀ request ∈ notified, .identified request notif_id ∈ s.log ∧
        (s.sessions .sessionEs).rawRequest ≠ some request

/-- The log is in order, and the numbers and times in it are past ones. -/
structure Recorded : Prop where
  answers : AnswersOwn s.log
  identified : ∀ request reqID, .identified request reqID ∈ s.log →
    request < s.requests ∧ reqID ≤ s.reqIDCounter
  same : ∀ request reqID reqID', .identified request reqID ∈ s.log →
    .identified request reqID' ∈ s.log → reqID = reqID'
  past : ∀ request timeout time, .requested request timeout time ∈ s.log → time ≤ s.now

/-- What undisturbed runs keep. -/
structure Orderly : Prop where
  recorded : s.Recorded
  session : ∀ name, s.SessionOk name
  apart : ∀ request, (s.sessions .session).serving = some request →
    (s.sessions .sessionEs).serving ≠ some request
  fresh : ∀ number, s.requests ≤ number → s.threads number = .absent
  thread : ∀ number, s.ThreadOk number (s.threads number)
  msgTask : s.MsgTaskOk s.msgTask
  respond : ∀ caller, s.RespondOk (s.responds caller)
  queue : ∀ msg ∈ s.queue, s.Sends msg

/-! ## What a step leaves alone -/

/-- Time goes on, and nothing is forgotten. -/
structure Later (s s' : NiData) : Prop where
  log : s.log ⊆ s'.log
  now : s.now ≤ s'.now
  requests : s.requests ≤ s'.requests

variable {s} {s' : NiData}

theorem Later.of_log (hlog : s'.log = s.log) (hnow : s.now ≤ s'.now)
    (hrequests : s.requests ≤ s'.requests) : Later s s' :=
  ⟨by rw [hlog]; exact List.Subset.refl _, hnow, hrequests⟩

theorem Later.of_concat {event : NiEvent} (hlog : s'.log = s.log ++ [event])
    (hnow : s.now ≤ s'.now) (hrequests : s.requests ≤ s'.requests) : Later s s' :=
  ⟨by rw [hlog]; exact List.subset_append_left _ _, hnow, hrequests⟩

theorem Sends.mono (hlater : Later s s') {msg : LocEngInformNiResponse} (hs : s.Sends msg) :
    s'.Sends msg := Answered.mono hs hlater.log hlater.now

theorem Recorded.still (hs : s.Recorded) (hlog : s'.log = s.log) (hnow : s.now ≤ s'.now)
    (hrequests : s.requests ≤ s'.requests) (hcounter : s.reqIDCounter ≤ s'.reqIDCounter) :
    s'.Recorded := by
  constructor
  · rw [hlog]
    exact hs.answers
  · intro request reqID hmem
    rw [hlog] at hmem
    obtain ⟨hlt, hle⟩ := hs.identified request reqID hmem
    exact ⟨Nat.lt_of_lt_of_le hlt hrequests, Int.le_trans hle hcounter⟩
  · rw [hlog]
    exact hs.same
  · intro request timeout time hmem
    rw [hlog] at hmem
    exact Int.le_trans (hs.past request timeout time hmem) hnow

/-- Nobody gets an id by a proper event of another kind. -/
theorem Recorded.concat (hs : s.Recorded) {event : NiEvent} (hlog : s'.log = s.log ++ [event])
    (hnow : s'.now = s.now) (hrequests : s.requests ≤ s'.requests)
    (hcounter : s'.reqIDCounter = s.reqIDCounter) (hproper : Proper s'.log event)
    (hidentified : ∀ request reqID, event ≠ .identified request reqID)
    (hrequested : ∀ request timeout time, event = .requested request timeout time →
      time ≤ s.now) : s'.Recorded := by
  have hold : ∀ request reqID, .identified request reqID ∈ s'.log →
      .identified request reqID ∈ s.log := by
    intro request reqID hmem
    rw [hlog, List.mem_append, List.mem_singleton] at hmem
    rcases hmem with hmem | hmem
    · exact hmem
    · exact absurd hmem.symm (hidentified request reqID)
  constructor
  · rw [hlog] at hproper ⊢
    exact hs.answers.concat hproper fun request reqID hevent =>
      absurd hevent (hidentified request reqID)
  · intro request reqID hmem
    obtain ⟨hlt, hle⟩ := hs.identified request reqID (hold request reqID hmem)
    exact ⟨Nat.lt_of_lt_of_le hlt hrequests, hcounter ▸ hle⟩
  · intro request reqID reqID' hmem hmem'
    exact hs.same request reqID reqID' (hold request reqID hmem) (hold request reqID' hmem')
  · intro request timeout time hmem
    rw [hlog, List.mem_append, List.mem_singleton] at hmem
    rw [hnow]
    rcases hmem with hmem | hmem
    · exact hs.past request timeout time hmem
    · exact hrequested request timeout time hmem.symm

/-- The handler takes the next id for a request that has none. -/
theorem Recorded.identify (hs : s.Recorded) {request : Nat} (hlt : request < s.requests)
    (hnone : ∀ reqID, .identified request reqID ∉ s.log)
    (hlog : s'.log = s.log ++ [.identified request (s.reqIDCounter + 1)])
    (hnow : s'.now = s.now) (hrequests : s'.requests = s.requests)
    (hcounter : s'.reqIDCounter = s.reqIDCounter + 1) : s'.Recorded := by
  have hmem_iff : ∀ other reqID, .identified other reqID ∈ s'.log ↔
      .identified other reqID ∈ s.log ∨ other = request ∧ reqID = s.reqIDCounter + 1 := by
    intro other reqID
    rw [hlog, List.mem_append, List.mem_singleton, NiEvent.identified.injEq]
  constructor
  · have hproper : Proper s'.log (.identified request (s.reqIDCounter + 1)) := trivial
    rw [hlog] at hproper ⊢
    apply hs.answers.concat hproper
    intro other reqID hevent holder hmem
    obtain ⟨-, rfl⟩ := NiEvent.identified.inj hevent
    have hle := (hs.identified holder _ hmem).2
    omega
  · intro other reqID hmem
    rw [hrequests, hcounter]
    rcases (hmem_iff other reqID).mp hmem with hmem | ⟨rfl, rfl⟩
    · obtain ⟨hother, hle⟩ := hs.identified other reqID hmem
      exact ⟨hother, by omega⟩
    · exact ⟨hlt, Int.le_refl _⟩
  · intro other reqID reqID' hmem hmem'
    rcases (hmem_iff other reqID).mp hmem with hmem | ⟨rfl, rfl⟩
    · rcases (hmem_iff other reqID').mp hmem' with hmem' | ⟨rfl, rfl⟩
      · exact hs.same other reqID reqID' hmem hmem'
      · exact absurd hmem (hnone reqID)
    · rcases (hmem_iff other reqID').mp hmem' with hmem' | ⟨-, rfl⟩
      · exact absurd hmem' (hnone reqID')
      · rfl
  · intro other timeout time hmem
    rw [hlog, List.mem_append, List.mem_singleton] at hmem
    rw [hnow]
    rcases hmem with hmem | hmem
    · exact hs.past other timeout time hmem
    · cases hmem

theorem SessionOk.mono (hlater : Later s s') {name : NiSessionName} (hs : s.SessionOk name)
    (hsession : s'.sessions name = s.sessions name)
    (hidentifying : s.msgTask.identifying = some name → s'.msgTask.identifying = some name) :
    s'.SessionOk name := by
  constructor
  · rw [hsession]
    exact hs.serving
  · rw [hsession]
    exact fun request hserving => Nat.lt_of_lt_of_le (hs.served request hserving) hlater.requests
  · rw [hsession]
    exact fun request hraw hnot =>
      hlater.log (hs.reqID request hraw fun hidentified => hnot (hidentifying hidentified))
  · rw [hsession]
    intro hrecvd request hraw
    rcases hs.recvd hrecvd request hraw with htold | ⟨hresp, hpassed⟩
    · exact .inl (htold.mono hlater.log)
    · exact .inr ⟨hresp, hlater.log hpassed⟩

/-- A thread depends on the session that it is at work on while that serves its
request. -/
theorem ThreadOk.mono (hlater : Later s s') {number : Nat} {thread : NiThread}
    (hs : s.ThreadOk number thread)
    (hsession : ∀ name ∈ thread.session?, (s'.sessions name).serving = some number →
      (s.sessions name).serving = some number ∧
        (s'.sessions name).respTimeLeft = (s.sessions name).respTimeLeft ∧
        ((s.sessions name).rawRequest = none → (s'.sessions name).rawRequest = none)) :
    s'.ThreadOk number thread := by
  cases thread with
  | absent => trivial
  | start name =>
      intro hserving
      obtain ⟨hserved, htimeLeft, -⟩ := hsession name rfl hserving
      obtain ⟨timeout, time, hrequested, htime⟩ := hs hserved
      exact ⟨timeout, time, hlater.log hrequested, htimeLeft.trans htime⟩
  | timedwait name expire_time => exact Overdue.mono hs hlater.log (Int.le_refl _)
  | clearTimeLeft name msg | clearReqID name msg =>
      refine ⟨fun hserving => ?_, fun held hheld => (hs.2 held hheld).mono hlater⟩
      obtain ⟨hserved, -, hnone⟩ := hsession name rfl hserving
      exact hnone (hs.1 hserved)
  | sendMsg msg => exact fun held hheld => (hs held hheld).mono hlater

/-- A response depends on the requests with an id in the emergency session. -/
theorem RespondOk.mono (hlater : Later s s') {call : NiRespond} (hs : s.RespondOk call)
    (hraw : ∀ request reqID, .identified request reqID ∈ s.log →
      (s'.sessions .sessionEs).rawRequest = some request →
        (s.sessions .sessionEs).rawRequest = some request) : s'.RespondOk call := by
  cases call with
  | idle => trivial
  | checkEs notif_id user_response notified =>
      exact ⟨hlater.log hs.1, fun request hmem => hlater.log (hs.2 request hmem)⟩
  | checkAccept | passOver | signal => exact Told.mono hs hlater.log
  | checkSession notif_id user_response notified =>
      refine ⟨hlater.log hs.1, fun request hmem => ?_⟩
      obtain ⟨hidentified, hnot⟩ := hs.2 request hmem
      exact ⟨hlater.log hidentified, fun hheld => hnot (hraw request notif_id hidentified hheld)⟩

theorem Handled.mono (hlater : Later s s') {request : NiRequest} (hs : s.Handled request)
    (hthreads : s.threads request.number = .absent → s'.threads request.number = .absent) :
    s'.Handled request := by
  obtain ⟨time, hrequested⟩ := hs.requested
  exact ⟨Nat.lt_of_lt_of_le hs.number hlater.requests, ⟨time, hlater.log hrequested⟩,
    hthreads hs.absent, hs.passThrough⟩

/-- The message task depends on the request that it handles, as long as the
thread of that request is not created. -/
theorem MsgTaskOk.mono (hlater : Later s s') {msgTask : NiMsgTask} (hs : s.MsgTaskOk msgTask)
    (hidentified : ∀ request reqID, .identified request reqID ∈ s'.log →
      .identified request reqID ∈ s.log)
    (hthreads : ∀ number, s.threads number = .absent → s'.threads number = .absent)
    (hserving : ∀ name, (s'.sessions name).serving = (s.sessions name).serving)
    (hsession : ∀ name number, (s.sessions name).serving = some number →
      s.threads number = .absent → (s'.sessions name).reqID = (s.sessions name).reqID ∧
        (s'.sessions name).respTimeLeft = (s.sessions name).respTimeLeft)
    (hraw : ∀ name, (s.sessions name).rawRequest = none → (s'.sessions name).rawRequest = none) :
    s'.MsgTaskOk msgTask := by
  have hhandled : ∀ request, s.Handled request → s'.Handled request :=
    fun request hs => hs.mono hlater (hthreads request.number)
  have hunidentified : ∀ request, s.Unidentified request → s'.Unidentified request :=
    fun request hs reqID hmem => hs reqID (hidentified request.number reqID hmem)
  cases msgTask with
  | chooseSession request | freePassThrough request | saveRequest name request =>
      obtain ⟨hrequest, hnone, hunserved⟩ := hs
      exact ⟨hhandled request hrequest, hunidentified request hnone,
        fun name => hserving name ▸ hunserved name⟩
  | saveReqID name request =>
      obtain ⟨hrequest, hnone, hserved⟩ := hs
      exact ⟨hhandled request hrequest, hunidentified request hnone, hserving name ▸ hserved⟩
  | fillNotification name request =>
      obtain ⟨hrequest, hserved, hmem⟩ := hs
      refine ⟨hhandled request hrequest, hserving name ▸ hserved, ?_⟩
      rw [(hsession name request.number hserved hrequest.absent).1]
      exact hlater.log hmem
  | saveTimeLeft name request notification_id =>
      obtain ⟨hrequest, hserved, hmem⟩ := hs
      exact ⟨hhandled request hrequest, hserving name ▸ hserved, hlater.log hmem⟩
  | createThread name request notification_id =>
      obtain ⟨hrequest, hserved, hmem, htimeLeft⟩ := hs
      refine ⟨hhandled request hrequest, hserving name ▸ hserved, hlater.log hmem, ?_⟩
      rw [(hsession name request.number hserved hrequest.absent).2]
      exact htimeLeft
  | notify request notification_id => exact hlater.log hs
  | wakeThread name => exact hraw name hs
  | inform msg => exact Sends.mono hlater hs
  | receive | checkRequest | freeRequest | clearRequest | delete => trivial

theorem MsgTaskOk.still (hlater : Later s s') {msgTask : NiMsgTask} (hs : s.MsgTaskOk msgTask)
    (hidentified : ∀ request reqID, .identified request reqID ∈ s'.log →
      .identified request reqID ∈ s.log)
    (hsessions : s'.sessions = s.sessions) (hthreads : s'.threads = s.threads) :
    s'.MsgTaskOk msgTask := by
  apply hs.mono hlater hidentified
  · rw [hthreads]
    exact fun _ => id
  all_goals
    rw [hsessions]
    simp

theorem RespondOk.still (hlater : Later s s') {call : NiRespond} (hs : s.RespondOk call)
    (hsessions : s'.sessions = s.sessions) : s'.RespondOk call := by
  apply hs.mono hlater
  rw [hsessions]
  exact fun _ _ _ => id

/-- A step that changes neither a session nor a thread. -/
theorem Orderly.next (hs : s.Orderly) (hrecorded : s'.Recorded) (hlater : Later s s')
    (hsessions : s'.sessions = s.sessions) (hthreads : s'.threads = s.threads)
    (hidentifying : s.msgTask.identifying = none ∨ s'.msgTask = s.msgTask)
    (hmsgTask : s'.MsgTaskOk s'.msgTask) (hresponds : ∀ caller, s'.RespondOk (s'.responds caller))
    (hqueue : ∀ msg ∈ s'.queue, s.Sends msg) : s'.Orderly := by
  constructor
  · exact hrecorded
  · intro name
    apply (hs.session name).mono hlater (congrFun hsessions name)
    intro hname
    rcases hidentifying with hnone | hsame
    · rw [hnone] at hname
      cases hname
    · rw [hsame, hname]
  · rw [hsessions]
    exact hs.apart
  · rw [hthreads]
    exact fun number hle => hs.fresh number (Nat.le_trans hlater.requests hle)
  · intro number
    rw [hthreads]
    apply (hs.thread number).mono hlater
    rw [hsessions]
    exact fun _ _ hserved => ⟨hserved, rfl, id⟩
  · exact hmsgTask
  · exact hresponds
  · exact fun msg hmem => (hqueue msg hmem).mono hlater

theorem Orderly.record (hs : s.Orderly) (event : NiEvent)
    (hproper : Proper (s.log ++ [event]) event) (hplain : event.introduces = false) :
    (s.record event).Orderly := by
  have hlater : Later s (s.record event) := .of_concat rfl (Int.le_refl _) (Nat.le_refl _)
  have hold : ∀ request reqID, .identified request reqID ∈ (s.record event).log →
      .identified request reqID ∈ s.log := by
    intro request reqID hmem
    rcases List.mem_append.mp hmem with hmem | hmem
    · exact hmem
    · exact absurd (List.mem_singleton.mp hmem).symm (NiEvent.ne_identified hplain request reqID)
  apply hs.next ?_ hlater rfl rfl (.inr rfl)
  · exact hs.msgTask.still hlater hold rfl rfl
  · exact fun caller => (hs.respond caller).still hlater rfl
  · exact hs.queue
  · exact hs.recorded.concat rfl rfl (Nat.le_refl _) rfl hproper (NiEvent.ne_identified hplain)
      fun request timeout time hevent =>
        absurd hevent (NiEvent.ne_requested hplain request timeout time)

end NiData

end Serrano.LocEng
