import Serrano.LocEng.NiThreads

/-! # Who answers a request

The message task saves one request after another and resets the sessions. In an
undisturbed run, every request is answered by its own user or after its own
timeout, and no response to an active one is rejected. In other runs, what is
left of one request in its session answers the next one.
-/

namespace Serrano.LocEng

namespace NiData

variable {s s' : NiData}

/-! ## The message task -/

/-- The message task changes a session that no thread is at work on for the
request that it serves, or only where that thread does not look. -/
theorem Orderly.handle (hs : s.Orderly) {name : NiSessionName} {session : NiSession}
    (hrecorded : s'.Recorded) (hlater : Later s s')
    (hsessions : s'.sessions = Function.update s.sessions name session)
    (hthreads : s'.threads = s.threads) (hresponds : s'.responds = s.responds)
    (hqueue : s'.queue = s.queue)
    (hidentifying : ∀ other, other ≠ name → s.msgTask.identifying ≠ some other)
    (hsession : s'.SessionOk name)
    (hserves : ∀ number, session.serving = some number →
      (s.sessions name).serving = some number ∨ ∀ other, (s.sessions other).serving ≠ some number)
    (hthread : ∀ number, session.serving = some number → s.threads number ≠ .absent →
      (s.sessions name).serving = some number ∧
        session.respTimeLeft = (s.sessions name).respTimeLeft ∧
        ((s.sessions name).rawRequest = none → session.rawRequest = none))
    (hrespond : ∀ request reqID, .identified request reqID ∈ s.log →
      session.rawRequest = some request → (s.sessions name).rawRequest = some request)
    (hmsgTask : s'.MsgTaskOk s'.msgTask) : s'.Orderly := by
  have hself : s'.sessions name = session := by rw [hsessions, Function.update_self]
  have hothers : ∀ other, other ≠ name → s'.sessions other = s.sessions other := by
    intro other hother
    rw [hsessions, Function.update_of_ne hother]
  constructor
  · exact hrecorded
  · intro other
    by_cases hother : other = name
    · exact hother ▸ hsession
    · exact (hs.session other).mono hlater (hothers other hother)
        fun hname => absurd hname (hidentifying other hother)
  · intro request hserved hserved'
    cases name with
    | session =>
        rw [hothers .sessionEs (by decide)] at hserved'
        rw [hself] at hserved
        rcases hserves request hserved with hold | hnew
        · exact hs.apart request hold hserved'
        · exact hnew .sessionEs hserved'
    | sessionEs =>
        rw [hothers .session (by decide)] at hserved
        rw [hself] at hserved'
        rcases hserves request hserved' with hold | hnew
        · exact hs.apart request hserved hold
        · exact hnew .session hserved
  · rw [hthreads]
    exact fun number hle => hs.fresh number (Nat.le_trans hlater.requests hle)
  · intro number
    rw [hthreads]
    apply (hs.thread number).mono hlater
    intro other hat hserved
    by_cases hother : other = name
    · subst hother
      rw [hself] at hserved ⊢
      apply hthread number hserved
      intro habsent
      rw [habsent] at hat
      cases hat
    · rw [hothers other hother] at hserved ⊢
      exact ⟨hserved, rfl, id⟩
  · exact hmsgTask
  · intro caller
    rw [hresponds]
    apply (hs.respond caller).mono hlater
    intro request reqID hidentified hraw
    by_cases hname : NiSessionName.sessionEs = name
    · subst hname
      rw [hself] at hraw
      exact hrespond request reqID hidentified hraw
    · rwa [hothers .sessionEs hname] at hraw
  · rw [hqueue]
    exact fun msg hmem => (hs.queue msg hmem).mono hlater

/-- The handler saves a request in a session without a response in store. -/
theorem Orderly.saveRequest (hs : s.Orderly) {name : NiSessionName} {request : NiRequest}
    (hmsgTask : s.msgTask = .saveRequest name request)
    (hrecvd : (s.sessions name).respRecvd = false) :
    { s.setSession name { s.sessions name with
        rawRequest := request.passThrough, serving := some request.number } with
      msgTask := .saveReqID name request }.Orderly := by
  have hok := hs.msgTask
  rw [hmsgTask] at hok
  obtain ⟨hhandled, hnone, hnew⟩ := hok
  have hlater : Later s { s.setSession name { s.sessions name with
      rawRequest := request.passThrough, serving := some request.number } with
      msgTask := .saveReqID name request } := .of_log rfl (Int.le_refl _) (Nat.le_refl _)
  have hself : (s.setSession name { s.sessions name with
      rawRequest := request.passThrough, serving := some request.number }).sessions name =
      { s.sessions name with
        rawRequest := request.passThrough, serving := some request.number } :=
    setSession_self ..
  apply hs.handle ?_ hlater rfl rfl rfl rfl
  · simp [hmsgTask, NiMsgTask.identifying]
  · constructor
    all_goals simp only [hself]
    · exact fun payload hraw => congrArg some (hhandled.passThrough payload hraw).symm
    · exact fun payload hserving => Option.some.inj hserving ▸ hhandled.number
    · exact fun _ _ hidentifying => absurd rfl hidentifying
    · rw [hrecvd]
      exact fun hset => by cases hset
  · exact fun number hserving => .inr (Option.some.inj hserving ▸ hnew)
  · intro number hserving hpresent
    exact absurd (Option.some.inj hserving ▸ hhandled.absent) hpresent
  · -- No response is for a request that has no id yet.
    intro payload reqID hidentified hraw
    obtain rfl := hhandled.passThrough payload hraw
    exact absurd hidentified (hnone reqID)
  · exact ⟨hhandled.mono hlater id, hnone, congrArg NiSession.serving hself⟩
  · exact hs.recorded.still rfl (Int.le_refl _) (Nat.le_refl _) (Int.le_refl _)

/-- The request gets its id. -/
theorem Orderly.saveReqID (hs : s.Orderly) {name : NiSessionName} {request : NiRequest}
    (hmsgTask : s.msgTask = .saveReqID name request) :
    { (s.setSession name { s.sessions name with reqID := s.reqIDCounter + 1 }).record
        (.identified request.number (s.reqIDCounter + 1)) with
      reqIDCounter := s.reqIDCounter + 1
      msgTask := .fillNotification name request }.Orderly := by
  have hok := hs.msgTask
  rw [hmsgTask] at hok
  obtain ⟨hhandled, hnone, hserving⟩ := hok
  have hlater : Later s { (s.setSession name { s.sessions name with
        reqID := s.reqIDCounter + 1 }).record (.identified request.number (s.reqIDCounter + 1)) with
      reqIDCounter := s.reqIDCounter + 1
      msgTask := .fillNotification name request } :=
    .of_concat rfl (Int.le_refl _) (Nat.le_refl _)
  have hself : (s.setSession name { s.sessions name with
      reqID := s.reqIDCounter + 1 }).sessions name =
      { s.sessions name with reqID := s.reqIDCounter + 1 } := setSession_self ..
  have hhere : .identified request.number (s.reqIDCounter + 1) ∈
      s.log ++ [.identified request.number (s.reqIDCounter + 1)] :=
    List.mem_append_right _ List.mem_cons_self
  have hsession := hs.session name
  apply hs.handle ?_ hlater rfl rfl rfl rfl
  · intro other hother
    rw [hmsgTask]
    exact fun hsome => hother (Option.some.inj hsome).symm
  · constructor
    all_goals simp only [NiData.record, hself]
    · exact hsession.serving
    · exact hsession.served
    · -- From here on the session has the id of the request that it holds.
      intro held hraw _
      have hheld := hsession.serving held hraw
      rw [hserving, Option.some.injEq] at hheld
      exact hheld ▸ hhere
    · intro hset held hraw
      rcases hsession.recvd hset held hraw with htold | ⟨hresp, hpassed⟩
      · exact .inl (htold.mono (List.subset_append_left _ _))
      · exact .inr ⟨hresp, List.mem_append_left _ hpassed⟩
  · exact fun _ hserved => .inl hserved
  · exact fun _ hserved _ => ⟨hserved, rfl, id⟩
  · exact fun _ _ _ hraw => hraw
  · refine ⟨hhandled.mono hlater id, (congrArg NiSession.serving hself).trans hserving, ?_⟩
    simp only [NiData.record, hself]
    exact hhere
  · exact hs.recorded.identify hhandled.number hnone rfl rfl rfl rfl

/-- The handler sets the time that the thread will read. -/
theorem Orderly.saveTimeLeft (hs : s.Orderly) {name : NiSessionName} {request : NiRequest}
    {notification_id : Int} (hmsgTask : s.msgTask = .saveTimeLeft name request notification_id) :
    { s.setSession name { s.sessions name with respTimeLeft := niTimeLeft request.timeout } with
      msgTask := .createThread name request notification_id }.Orderly := by
  have hok := hs.msgTask
  rw [hmsgTask] at hok
  obtain ⟨hhandled, hserving, hidentified⟩ := hok
  have hlater : Later s { s.setSession name { s.sessions name with
      respTimeLeft := niTimeLeft request.timeout } with
      msgTask := .createThread name request notification_id } :=
    .of_log rfl (Int.le_refl _) (Nat.le_refl _)
  have hself : (s.setSession name { s.sessions name with
      respTimeLeft := niTimeLeft request.timeout }).sessions name =
      { s.sessions name with respTimeLeft := niTimeLeft request.timeout } :=
    setSession_self ..
  have hsession := hs.session name
  apply hs.handle ?_ hlater rfl rfl rfl rfl
  · simp [hmsgTask, NiMsgTask.identifying]
  · constructor
    all_goals simp only [hself]
    · exact hsession.serving
    · exact hsession.served
    · exact fun held hraw _ => hsession.reqID held hraw (by simp [hmsgTask, NiMsgTask.identifying])
    · exact hsession.recvd
  · exact fun _ hserved => .inl hserved
  · -- The thread that will read it does not exist yet.
    intro number hserved hpresent
    have hsame : number = request.number := Option.some.inj (hserved.symm.trans hserving)
    exact absurd (hsame ▸ hhandled.absent) hpresent
  · exact fun _ _ _ hraw => hraw
  · exact ⟨hhandled.mono hlater id, (congrArg NiSession.serving hself).trans hserving,
      hidentified, congrArg NiSession.respTimeLeft hself⟩
  · exact hs.recorded.still rfl (Int.le_refl _) (Nat.le_refl _) (Int.le_refl _)

/-- The thread of the request is created. -/
theorem Orderly.createThread (hs : s.Orderly) {name : NiSessionName} {request : NiRequest}
    {notification_id : Int} (hmsgTask : s.msgTask = .createThread name request notification_id) :
    { s.setThread request.number (.start name) with
      msgTask := .notify request notification_id }.Orderly := by
  have hok := hs.msgTask
  rw [hmsgTask] at hok
  obtain ⟨hhandled, hserving, hidentified, htimeLeft⟩ := hok
  obtain ⟨time, hrequested⟩ := hhandled.requested
  have hlater : Later s { s.setThread request.number (.start name) with
      msgTask := .notify request notification_id } := .of_log rfl (Int.le_refl _) (Nat.le_refl _)
  constructor
  · exact hs.recorded.still rfl (Int.le_refl _) (Nat.le_refl _) (Int.le_refl _)
  · intro other
    exact (hs.session other).mono hlater rfl (by simp [hmsgTask, NiMsgTask.identifying])
  · exact hs.apart
  · intro number hle
    have hne : number ≠ request.number := Nat.ne_of_gt (Nat.lt_of_lt_of_le hhandled.number hle)
    exact (setThread_of_ne _ hne _).trans (hs.fresh number hle)
  · intro number
    dsimp only
    by_cases hnumber : number = request.number
    · rw [hnumber, setThread_self]
      exact fun _ => ⟨request.timeout, time, hrequested, htimeLeft⟩
    · rw [setThread_of_ne _ hnumber]
      exact (hs.thread number).mono hlater fun _ _ hserved => ⟨hserved, rfl, id⟩
  · exact hidentified
  · exact fun caller => (hs.respond caller).still hlater rfl
  · exact fun msg hmem => (hs.queue msg hmem).mono hlater

/-- A reset clears the session, and sets `respRecvd` in a session that is clear. -/
theorem Orderly.reset (hs : s.Orderly) {name : NiSessionName} {session : NiSession}
    {next : NiMsgTask} (hmsgTask : s.msgTask.identifying = none)
    (hserves : session.serving = (s.sessions name).serving)
    (htimeLeft : session.respTimeLeft = (s.sessions name).respTimeLeft)
    (hempty : session.rawRequest = none)
    (hnext : ∀ s' : NiData, s'.sessions name = session → s'.MsgTaskOk next) :
    { s.setSession name session with msgTask := next }.Orderly := by
  have hlater : Later s { s.setSession name session with msgTask := next } :=
    .of_log rfl (Int.le_refl _) (Nat.le_refl _)
  have hself : (s.setSession name session).sessions name = session := setSession_self ..
  apply hs.handle ?_ hlater rfl rfl rfl rfl
  · rw [hmsgTask]
    exact fun _ _ hsome => by cases hsome
  · constructor
    all_goals simp only [hself]
    · rw [hempty]
      exact fun _ hraw => by cases hraw
    · rw [hserves]
      exact (hs.session name).served
    · rw [hempty]
      exact fun _ hraw => by cases hraw
    · rw [hempty]
      exact fun _ _ hraw => by cases hraw
  · rw [hserves]
    exact fun _ hserved => .inl hserved
  · rw [hserves, htimeLeft, hempty]
    exact fun _ hserved _ => ⟨hserved, rfl, fun _ => rfl⟩
  · rw [hempty]
    exact fun _ _ _ hraw => by cases hraw
  · exact hnext _ hself
  · exact hs.recorded.still rfl (Int.le_refl _) (Nat.le_refl _) (Int.le_refl _)

theorem Orderly.advance (hs : s.Orderly) {next : NiMsgTask}
    (hidentifying : s.msgTask.identifying = none) (hnext : s.MsgTaskOk next) :
    { s with msgTask := next }.Orderly := by
  have hlater : Later s { s with msgTask := next } := .of_log rfl (Int.le_refl _) (Nat.le_refl _)
  apply hs.next ?_ hlater rfl rfl (.inl hidentifying)
  · exact hnext.still hlater (fun _ _ hmem => hmem) rfl rfl
  · exact fun caller => (hs.respond caller).still hlater rfl
  · exact hs.queue
  · exact hs.recorded.still rfl (Int.le_refl _) (Nat.le_refl _) (Int.le_refl _)

theorem msgTaskOk_afterReset (s : NiData) (name : NiSessionName) :
    s.MsgTaskOk (afterReset name) := by
  cases name <;> trivial

theorem Orderly.receive (hs : s.Orderly) (hmsgTask : s.msgTask = .receive)
    {msg : LocEngInformNiResponse} {rest : List LocEngInformNiResponse}
    (hqueue : s.queue = msg :: rest) :
    { s with queue := rest, msgTask := .inform msg }.Orderly := by
  have hlater : Later s { s with queue := rest, msgTask := .inform msg } :=
    .of_log rfl (Int.le_refl _) (Nat.le_refl _)
  have hsends : ∀ held ∈ msg :: rest, s.Sends held := hqueue ▸ hs.queue
  apply hs.next ?_ hlater rfl rfl (.inl (by rw [hmsgTask]; rfl))
  · exact hsends msg List.mem_cons_self
  · exact fun caller => (hs.respond caller).still hlater rfl
  · exact fun held hmem => hsends held (List.mem_cons_of_mem _ hmem)
  · exact hs.recorded.still rfl (Int.le_refl _) (Nat.le_refl _) (Int.le_refl _)

/-- The task goes on after an event that introduces nothing. -/
theorem Orderly.recordAdvance (hs : s.Orderly) {event : NiEvent} {next : NiMsgTask}
    (hidentifying : s.msgTask.identifying = none) (hproper : Proper (s.log ++ [event]) event)
    (hplain : event.introduces = false) (hnext : (s.record event).MsgTaskOk next) :
    { s.record event with msgTask := next }.Orderly :=
  (hs.record event hproper hplain).advance hidentifying hnext

theorem Orderly.notify (hs : s.Orderly) {request : NiRequest} {notification_id : Int}
    (hmsgTask : s.msgTask = .notify request notification_id) :
    { s.record (.notified request.number notification_id) with msgTask := .receive }.Orderly := by
  have hok := hs.msgTask
  rw [hmsgTask] at hok
  exact hs.recordAdvance (by rw [hmsgTask]; rfl) (List.mem_append_left _ hok) rfl trivial

/-- A response that was in order when it was queued still is. -/
theorem Orderly.inform (hs : s.Orderly) {msg : LocEngInformNiResponse}
    (hmsgTask : s.msgTask = .inform msg) :
    { s.record (.informed msg.mPayload msg.mResponse s.now) with
      msgTask := .delete msg }.Orderly := by
  have hok := hs.msgTask
  rw [hmsgTask] at hok
  have hanswered : Answered (s.log ++ [.informed msg.mPayload msg.mResponse s.now])
      msg.mPayload msg.mResponse s.now :=
    Answered.mono hok (List.subset_append_left _ _) (Int.le_refl _)
  exact hs.recordAdvance (by rw [hmsgTask]; rfl) hanswered rfl trivial

theorem Orderly.clearRequest (hs : s.Orderly) {name : NiSessionName}
    (hmsgTask : s.msgTask = .clearRequest name) :
    { s.setSession name { s.sessions name with rawRequest := none } with
      msgTask := .wakeThread name }.Orderly :=
  hs.reset (by rw [hmsgTask]; rfl) rfl rfl rfl fun _ hself => congrArg NiSession.rawRequest hself

theorem Orderly.wakeThread (hs : s.Orderly) {name : NiSessionName}
    (hmsgTask : s.msgTask = .wakeThread name) :
    { s.setSession name { s.sessions name with respRecvd := true } with
      msgTask := afterReset name }.Orderly := by
  have hok := hs.msgTask
  rw [hmsgTask] at hok
  refine hs.reset (by rw [hmsgTask]; rfl) rfl rfl hok ?_
  exact fun s' _ => msgTaskOk_afterReset s' name

theorem Orderly.msgTaskStep (hs : s.Orderly) (hguard : s.Undisturbed .msgTask)
    (hstep : s.msgTaskStep = some s') : s'.Orderly := by
  have hok := hs.msgTask
  cases hmsgTask : s.msgTask <;> simp only [NiData.msgTaskStep, hmsgTask] at hstep
  case receive =>
    cases hqueue : s.queue <;> rw [hqueue] at hstep <;> cases hstep
    exact hs.receive hmsgTask hqueue
  case chooseSession request =>
    rw [hmsgTask] at hok
    split at hstep
    all_goals
      cases hstep
      exact hs.advance (by rw [hmsgTask]; rfl) hok
  case freePassThrough request =>
    cases hpayload : request.passThrough <;> rw [hpayload] at hstep <;> cases hstep
    · exact hs.advance (by rw [hmsgTask]; rfl) trivial
    · exact hs.recordAdvance (by rw [hmsgTask]; rfl) trivial rfl trivial
  case saveRequest name request =>
    cases hstep
    exact hs.saveRequest hmsgTask (hguard name (by rw [hmsgTask]; rfl))
  case saveReqID name request =>
    cases hstep
    exact hs.saveReqID hmsgTask
  case fillNotification name request =>
    rw [hmsgTask] at hok
    cases hstep
    exact hs.advance (by rw [hmsgTask]; rfl) hok
  case saveTimeLeft name request notification_id =>
    cases hstep
    exact hs.saveTimeLeft hmsgTask
  case createThread name request notification_id =>
    rw [hmsgTask] at hok
    split_ifs at hstep <;> cases hstep
    · exact hs.createThread hmsgTask
    · exact hs.advance (by rw [hmsgTask]; rfl) hok.2.2.1
  case notify request notification_id =>
    cases hstep
    exact hs.notify hmsgTask
  case checkRequest name =>
    split_ifs at hstep <;> cases hstep
    · exact hs.advance (by rw [hmsgTask]; rfl) trivial
    · exact hs.advance (by rw [hmsgTask]; rfl) (msgTaskOk_afterReset s name)
  case freeRequest name =>
    cases hraw : (s.sessions name).rawRequest <;> rw [hraw] at hstep <;> cases hstep
    · exact hs.advance (by rw [hmsgTask]; rfl) trivial
    · exact hs.recordAdvance (by rw [hmsgTask]; rfl) trivial rfl trivial
  case clearRequest name =>
    cases hstep
    exact hs.clearRequest hmsgTask
  case wakeThread name =>
    cases hstep
    exact hs.wakeThread hmsgTask
  case inform msg =>
    cases hstep
    exact hs.inform hmsgTask
  case delete msg =>
    cases hstep
    exact hs.recordAdvance (by rw [hmsgTask]; rfl) trivial rfl trivial

/-! ## Runs -/

theorem Orderly.tick (hs : s.Orderly) {time : Int} (htime : s.now ≤ time) :
    { s with now := time }.Orderly := by
  have hlater : Later s { s with now := time } := .of_log rfl htime (Nat.le_refl _)
  apply hs.next ?_ hlater rfl rfl (.inr rfl)
  · exact hs.msgTask.still hlater (fun _ _ hmem => hmem) rfl rfl
  · exact fun caller => (hs.respond caller).still hlater rfl
  · exact hs.queue
  · exact hs.recorded.still rfl htime (Nat.le_refl _) (Int.le_refl _)

/-- A new request has a number that nobody knows. -/
theorem Orderly.request (hs : s.Orderly) (hidle : s.msgTask = .receive) {request : NiRequest}
    (hnumber : request.number = s.requests)
    (hpayload : ∀ payload, request.passThrough = some payload → payload = s.requests) :
    { s.record (.requested s.requests request.timeout s.now) with
      requests := s.requests + 1, msgTask := .chooseSession request }.Orderly := by
  have hlater : Later s { s.record (.requested s.requests request.timeout s.now) with
      requests := s.requests + 1, msgTask := .chooseSession request } :=
    .of_concat rfl (Int.le_refl _) (Nat.le_succ _)
  apply hs.next ?_ hlater rfl rfl (.inl (by rw [hidle]; rfl))
  · refine ⟨⟨?_, ⟨s.now, ?_⟩, ?_, ?_⟩, ?_, ?_⟩
    · exact hnumber ▸ Nat.lt_succ_self _
    · exact List.mem_append_right _ (hnumber ▸ List.mem_cons_self)
    · exact hs.fresh request.number (hnumber ▸ Nat.le_refl _)
    · exact fun payload hsome => (hpayload payload hsome).trans hnumber.symm
    · intro reqID hmem
      simp only [NiData.record, List.mem_append, List.mem_singleton, reduceCtorEq, or_false] at hmem
      have hlt := (hs.recorded.identified request.number reqID hmem).1
      omega
    · intro name hserving
      have hlt := (hs.session name).served request.number hserving
      omega
  · exact fun caller => (hs.respond caller).still hlater rfl
  · exact hs.queue
  · refine hs.recorded.concat rfl rfl (Nat.le_succ _) rfl ?_ ?_ ?_
    · trivial
    · intro number reqID hevent
      cases hevent
    · intro number timeout time hevent
      exact (NiEvent.requested.inj hevent).2.2 ▸ Int.le_refl _

theorem Orderly.step (hs : s.Orderly) {action : NiAction} (hguard : s.Undisturbed action)
    (hstep : s.step action = some s') : s'.Orderly := by
  cases action with
  | tick time =>
      simp only [NiData.step] at hstep
      split_ifs at hstep with htime
      obtain rfl := Option.some.inj hstep
      exact hs.tick htime
  | request ni_type timeout passThrough threadCreated =>
      by_cases hidle : s.msgTask = .receive
      · simp only [NiData.step, if_pos hidle, Option.some.injEq] at hstep
        subst hstep
        apply hs.request hidle rfl
        simp +contextual [eq_comm]
      · simp [NiData.step, if_neg hidle] at hstep
  | engineRestart =>
      simp only [NiData.step] at hstep
      split_ifs at hstep with hidle
      obtain rfl := Option.some.inj hstep
      exact hs.advance (by rw [hidle]; rfl) trivial
  | respond caller notif_id user_response =>
      simp only [NiData.step] at hstep
      split_ifs at hstep
      obtain rfl := Option.some.inj hstep
      exact hs.respondCall caller notif_id user_response
  | timeOut thread => exact hs.timeOutStep hguard hstep
  | msgTask => exact hs.msgTaskStep hguard hstep
  | niThread thread => exact hs.niThreadStep hguard hstep
  | responder caller => exact hs.respondStep hguard hstep

theorem orderly_initial : initial.Orderly := by
  constructor
  · constructor
    · exact ⟨(fun _ hmem => by cases hmem), (fun _ _ _ hmem => by cases hmem)⟩
    · exact fun _ _ hmem => by cases hmem
    · exact fun _ _ _ hmem => by cases hmem
    · exact fun _ _ _ hmem => by cases hmem
  · intro name
    constructor
    · exact fun _ hraw => by cases hraw
    · exact fun _ hserving => by cases hserving
    · exact fun _ hraw => by cases hraw
    · exact fun _ _ hraw => by cases hraw
  · exact fun _ hserving => by cases hserving
  · exact fun _ _ => rfl
  · exact fun _ => trivial
  · trivial
  · exact fun _ => trivial
  · exact fun _ hmem => by cases hmem

/-- In an undisturbed run every answer is the user's or comes after the timeout
of its own request, and no response to an active request is rejected. -/
theorem answersOwn_of_undisturbed (actions : List NiAction)
    (hguard : system.Guarded Undisturbed initial actions) :
    system.Throughout (fun s => AnswersOwn s.log) initial actions :=
  Transition.System.throughout_of_guarded Orderly (fun _ hs => hs.recorded.answers)
    (fun _ _ _ hs hguard hstep => hs.step hguard hstep) orderly_initial hguard

theorem answersOwn_of_accepted :
    system.Throughout (fun s => AnswersOwn s.log) initial
      ([NiAction.request .umtsSupl 20 true true] ++ List.replicate 7 NiAction.msgTask ++
        [NiAction.niThread 0, .respond 0 1 gpsNiResponseAccept] ++
        List.replicate 3 (NiAction.responder 0) ++ List.replicate 4 (NiAction.niThread 0) ++
        [NiAction.msgTask, .msgTask]) :=
  answersOwn_of_undisturbed _ (by decide)

/-- The user accepts a request, and the engine restarts before the thread has
woken up. The response is still in the session when the next request is saved
there, and the modem is told that the user accepts that one. -/
theorem accepted_for_the_next :
    ¬ system.Throughout (fun s => AnswersOwn s.log) initial
      ([NiAction.request .umtsSupl 20 true true] ++ List.replicate 7 NiAction.msgTask ++
        [NiAction.niThread 0, .respond 0 1 gpsNiResponseAccept] ++
        List.replicate 3 (NiAction.responder 0) ++ [NiAction.engineRestart] ++
        List.replicate 5 NiAction.msgTask ++ [NiAction.request .umtsSupl 20 true true] ++
        List.replicate 7 NiAction.msgTask ++ List.replicate 4 (NiAction.niThread 1) ++
        [NiAction.msgTask, .msgTask]) := by
  apply Transition.System.not_throughout_of_any fun s => decide (s.log =
    [.requested 0 20 0, .identified 0 1, .notified 0 1, .responded 1 gpsNiResponseAccept,
      .disposed 0 .reset, .requested 1 20 0, .identified 1 2, .notified 1 2,
      .disposed 1 .handedOver, .informed 1 gpsNiResponseAccept 0])
  · intro s hcheck hs
    have hlog := of_decide_eq_true hcheck
    have hanswered := hs.proper (.informed 1 gpsNiResponseAccept 0) (by simp [hlog])
    rcases hanswered with ⟨reqID, hidentified, hresponded⟩ | ⟨hresp, -⟩
    · simp [hlog] at hidentified hresponded
      omega
    · cases hresp
  · decide

end NiData

end Serrano.LocEng
