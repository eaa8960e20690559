import Serrano.LocEng.NiOwnership

/-! # What becomes of a payload

A payload passes from the request handler to a session, from there to the
thread that takes it, to the queue and to the message task, or is freed on the
way. A reset frees it before it clears the session: a thread that takes the
request in between gets hold of a freed payload.
-/

namespace Serrano.LocEng

open Monitor

namespace NiData

variable {s s' : NiData} {owner : Nat → NiPlace}

/-! ## Steps that move a payload -/

/-- A saved payload belongs to the session. -/
theorem Owned.saveRequest (hs : Owned owner s) {name : NiSessionName} {request : NiRequest}
    (hmsgTask : s.msgTask = .saveRequest name request) {payload : Nat}
    (hpayload : request.passThrough = some payload) (session : NiSession)
    (hsession : session.rawRequest = some payload) :
    Owned (Function.update owner payload (.session name))
      { s.setSession name session with msgTask := .saveReqID name request } := by
  have hfrom : s.Holds payload .handler := by
    simp [Holds, hmsgTask, NiMsgTask.unsaved, hpayload]
  apply hs.pass _ hfrom
  · rfl
  · rfl
  · rfl
  · intro other place hplace
    cases place with
    | handler => simp [Holds, NiMsgTask.unsaved] at hplace
    | session other' =>
        simp only [Holds] at hplace ⊢
        by_cases hname : other' = name
        · subst hname
          rw [setSession_self, hsession] at hplace
          exact .inl ⟨(Option.some.inj hplace.1).symm, rfl⟩
        · rw [setSession_of_ne _ hname] at hplace
          refine .inr ⟨⟨hplace.1, ?_⟩, .inl (by simp)⟩
          simp [hmsgTask]
    | thread | queue => exact .inr ⟨hplace, .inl (by simp)⟩
    | msgTask => simp [Holds, NiMsgTask.msg?] at hplace
    | gone => exact hplace.elim
  · rfl
  · exact hs.queue
  · exact fun _ _ hclear => by cases hclear

/-- The handler frees the payload of a request that it ignores. -/
theorem Owned.freePassThrough (hs : Owned owner s) {request : NiRequest}
    (hmsgTask : s.msgTask = .freePassThrough request) {payload : Nat}
    (hpayload : request.passThrough = some payload) :
    Owned (Function.update owner payload .gone)
      { s.record (.disposed payload .ignored) with msgTask := .receive } := by
  have hfrom : s.Holds payload .handler := by
    simp [Holds, hmsgTask, NiMsgTask.unsaved, hpayload]
  apply hs.dispose _ hfrom rfl rfl
  · simp [NiEvent.disposes, NiPlace.disposals]
  · simp [NiEvent.frees, NiPlace.frees]
  · intro other place hplace
    cases place with
    | handler => simp [Holds, NiMsgTask.unsaved] at hplace
    | session name => exact .inr ⟨⟨hplace.1, by simp [hmsgTask]⟩, .inl (by simp)⟩
    | thread | queue => exact .inr ⟨hplace, .inl (by simp)⟩
    | msgTask => simp [Holds, NiMsgTask.msg?] at hplace
    | gone => exact hplace.elim
  · rfl
  · rfl
  · exact fun _ _ hclear => by cases hclear

/-- A reset frees the payload and leaves it in the session. -/
theorem Owned.freeRequest (hs : Owned owner s) {name : NiSessionName}
    (hmsgTask : s.msgTask = .freeRequest name) {payload : Nat}
    (hraw : (s.sessions name).rawRequest = some payload) :
    Owned (Function.update owner payload .gone)
      { s.record (.disposed payload .reset) with msgTask := .clearRequest name } := by
  have hfrom : s.Holds payload (.session name) := ⟨hraw, by simp [hmsgTask]⟩
  apply hs.dispose _ hfrom rfl rfl
  · simp [NiEvent.disposes, NiPlace.disposals]
  · simp [NiEvent.frees, NiPlace.frees]
  · intro other place hplace
    cases place with
    | handler => simp [Holds, NiMsgTask.unsaved] at hplace
    | session other' =>
        have hother : other' ≠ name := by
          rintro rfl
          exact hplace.2 rfl
        exact .inr ⟨⟨hplace.1, by simp [hmsgTask]⟩, .inl (by simpa using hother)⟩
    | thread | queue => exact .inr ⟨hplace, .inl (by simp)⟩
    | msgTask => simp [Holds, NiMsgTask.msg?] at hplace
    | gone => exact hplace.elim
  · rfl
  · rfl
  · intro other' other hclear hother
    obtain rfl := NiMsgTask.clearRequest.inj hclear
    have hother : (s.sessions name).rawRequest = some other := hother
    rw [hraw] at hother
    exact .inl ⟨(Option.some.inj hother).symm, rfl⟩

/-- The message task takes a message off the queue. -/
theorem Owned.receive (hs : Owned owner s) (hmsgTask : s.msgTask = .receive)
    {msg : LocEngInformNiResponse} {rest : List LocEngInformNiResponse}
    (hqueue : s.queue = msg :: rest) :
    Owned (Function.update owner msg.mPayload .msgTask)
      { s with queue := rest, msgTask := .inform msg } := by
  have hfrom : s.Holds msg.mPayload .queue := ⟨msg, by simp [hqueue], rfl⟩
  have hnodup := hs.queue
  rw [hqueue, List.map_cons, List.nodup_cons] at hnodup
  apply hs.pass _ hfrom
  · rfl
  · rfl
  · rfl
  · intro other place hplace
    cases place with
    | handler => simp [Holds, NiMsgTask.unsaved] at hplace
    | session name => exact .inr ⟨⟨hplace.1, by simp [hmsgTask]⟩, .inl (by simp)⟩
    | thread => exact .inr ⟨hplace, .inl (by simp)⟩
    | queue =>
        obtain ⟨waiting, hmem, rfl⟩ := hplace
        refine .inr ⟨⟨waiting, ?_, rfl⟩, .inr ?_⟩
        · rw [hqueue]
          exact List.mem_cons_of_mem _ hmem
        · intro hsame
          exact hnodup.1 (hsame ▸ List.mem_map_of_mem hmem)
    | msgTask =>
        simp only [Holds, NiMsgTask.msg?, Option.map_some, Option.some.injEq] at hplace
        exact .inl ⟨hplace.symm, rfl⟩
    | gone => exact hplace.elim
  · rfl
  · exact hnodup.2
  · exact fun _ _ hclear => by cases hclear

/-- The destructor of a message frees its payload. -/
theorem Owned.delete (hs : Owned owner s) {msg : LocEngInformNiResponse}
    (hmsgTask : s.msgTask = .delete msg) :
    Owned (Function.update owner msg.mPayload .gone)
      { s.record (.deleted msg.mPayload) with msgTask := .receive } := by
  have hfrom : s.Holds msg.mPayload .msgTask := by
    simp [Holds, hmsgTask, NiMsgTask.msg?]
  apply hs.dispose _ hfrom rfl rfl
  · simp [NiEvent.disposes, NiPlace.disposals]
  · simp [NiEvent.frees, NiPlace.frees]
  · intro other place hplace
    cases place with
    | handler => simp [Holds, NiMsgTask.unsaved] at hplace
    | session name => exact .inr ⟨⟨hplace.1, by simp [hmsgTask]⟩, .inl (by simp)⟩
    | thread | queue => exact .inr ⟨hplace, .inl (by simp)⟩
    | msgTask => simp [Holds, NiMsgTask.msg?] at hplace
    | gone => exact hplace.elim
  · rfl
  · rfl
  · exact fun _ _ hclear => by cases hclear

/-- A thread sends the message that it holds, if any. -/
theorem Owned.sendMsg (hs : Owned owner s) {number : Nat} {msg : Option LocEngInformNiResponse}
    (hthread : s.threads number = .sendMsg msg) :
    ∃ owner', Owned owner' { s.setThread number .absent with queue := s.queue ++ msg.toList } := by
  cases msg with
  | none =>
      have habsent := hs.setThread number .absent (.inl rfl)
      have hsame : { s.setThread number .absent with
          queue := s.queue ++ (none : Option LocEngInformNiResponse).toList } =
          s.setThread number .absent := by
        rw [Option.toList_none, List.append_nil]
        rfl
      exact ⟨owner, hsame ▸ habsent⟩
  | some msg =>
      have hfrom : s.Holds msg.mPayload (.thread number) := by
        simp [Holds, hthread, NiThread.msg?]
      refine ⟨_, hs.pass .queue hfrom rfl rfl rfl ?_ rfl ?_ ?_⟩
      · intro other place hplace
        cases place with
        | thread other' =>
            simp only [Holds] at hplace ⊢
            by_cases hnumber : other' = number
            · subst hnumber
              simp [NiThread.msg?] at hplace
            · rw [setThread_of_ne _ hnumber] at hplace
              exact .inr ⟨hplace, .inl (by simpa using hnumber)⟩
        | queue =>
            obtain ⟨waiting, hmem, rfl⟩ := hplace
            rcases List.mem_append.mp hmem with hold | hnew
            · exact .inr ⟨⟨waiting, hold, rfl⟩, .inl (by simp)⟩
            · obtain rfl : waiting = msg := by simpa using hnew
              exact .inl ⟨rfl, rfl⟩
        | handler | session | msgTask => exact .inr ⟨hplace, .inl (by simp)⟩
        | gone => exact hplace.elim
      · -- A payload in the queue already would be in two places.
        have hnot : ∀ waiting ∈ s.queue, waiting.mPayload ≠ msg.mPayload := by
          intro waiting hmem hsame
          have hqueue := (hs.holds msg.mPayload .queue ⟨waiting, hmem, hsame⟩).1
          rw [(hs.holds msg.mPayload (.thread number) hfrom).1] at hqueue
          cases hqueue
        simp only [Option.toList_some, List.map_append, List.map_cons, List.map_nil]
        rw [List.nodup_append]
        refine ⟨hs.queue, List.pairwise_singleton _ _, ?_⟩
        intro waiting hmem other hother
        obtain ⟨entry, hentry, rfl⟩ := List.mem_map.mp hmem
        rw [List.mem_singleton] at hother
        exact hother ▸ hnot entry hentry
      · exact fun name other hclear hraw => ⟨hclear, hraw⟩

/-- A thread takes the payload out of the session, and keeps a message for it or none. -/
theorem Owned.takeDisposed (hs : Owned owner s) {number : Nat} {name : NiSessionName}
    {payload : Nat} (hfrom : s.Holds payload (.session name)) (next : NiPlace) {how : NiDisposal}
    {msg : Option LocEngInformNiResponse}
    (hmsg : ∀ held ∈ msg, held.mPayload = payload ∧ next = .thread number)
    (hdisposals : next.disposals = 1)
    (hfrees : (if (NiEvent.disposed payload how).frees payload then 1 else 0) = next.frees) :
    Owned (Function.update owner payload next)
      (((s.setSession name { s.sessions name with
        respRecvd := false, rawRequest := none }).record (.disposed payload how)).setThread number
          (.clearTimeLeft name msg)) := by
  have hcleaned : ∀ other held, ((s.setSession name { s.sessions name with
      respRecvd := false, rawRequest := none }).sessions other).rawRequest = some held →
        other ≠ name ∧ (s.sessions other).rawRequest = some held := by
    intro other held hheld
    by_cases hother : other = name
    · subst hother
      simp at hheld
    · exact ⟨hother, by simpa [hother] using hheld⟩
  apply hs.dispose next hfrom rfl rfl
  · rw [hdisposals]
    simp [NiEvent.disposes, NiPlace.disposals]
  · rw [← hfrees]
    exact Nat.zero_add _
  · intro other place hplace
    cases place with
    | session home =>
        obtain ⟨hname, hother⟩ := hcleaned home other hplace.1
        exact .inr ⟨⟨hother, hplace.2⟩, .inl (by simpa using hname)⟩
    | thread home =>
        by_cases hnumber : home = number
        · subst hnumber
          simp only [Holds, setThread_self, NiThread.msg?, Option.map_eq_some_iff] at hplace
          obtain ⟨held, hheld, rfl⟩ := hplace
          obtain ⟨hsame, rfl⟩ := hmsg held hheld
          exact .inl ⟨hsame, rfl⟩
        · rw [Holds, setThread_of_ne _ hnumber] at hplace
          exact .inr ⟨hplace, .inl (by simp)⟩
    | handler | queue | msgTask => exact .inr ⟨hplace, .inl (by simp)⟩
    | gone => exact hplace.elim
  · rfl
  · rfl
  · exact fun other held hclear hheld => .inr ⟨hclear, (hcleaned other held hheld).2⟩

/-- The thread takes the request out of a session that no reset is about to clear. -/
theorem Owned.takeRequest (hs : Owned owner s) {number : Nat} {name : NiSessionName}
    (hcleared : s.msgTask = .clearRequest name → (s.sessions name).rawRequest = none) :
    ∃ owner', Owned owner' (s.takeRequest number name) := by
  cases hraw : (s.sessions name).rawRequest with
  | none =>
      simp only [NiData.takeRequest, hraw]
      exact ⟨owner, (hs.setSession _ _ (.inl rfl)).setThread _ _ (.inl rfl)⟩
  | some payload =>
      have hfrom : s.Holds payload (.session name) :=
        ⟨hraw, fun hclear => by rw [hcleared hclear] at hraw; cases hraw⟩
      simp only [NiData.takeRequest, hraw]
      split_ifs with hresp
      · refine ⟨_, hs.takeDisposed hfrom (.thread number) ?_ rfl ?_⟩
        · intro held hheld
          obtain rfl := Option.some.inj hheld
          exact ⟨rfl, rfl⟩
        · simp [NiEvent.frees, NiPlace.frees]
      · refine ⟨_, hs.takeDisposed hfrom .gone ?_ rfl ?_⟩
        · exact fun _ hheld => by cases hheld
        · simp [NiEvent.frees, NiPlace.frees]

/-- After one session a reset goes on with the other one, or ends. -/
theorem Owned.resetNext (hs : Owned owner s) (name : NiSessionName)
    (hcleared : ∀ name, s.msgTask ≠ .clearRequest name) :
    Owned owner { s with msgTask := afterReset name } := by
  cases name with
  | sessionEs => exact hs.advance (.inl rfl) (.inl rfl) hcleared (by simp [afterReset])
  | session => exact hs.advance (.inl rfl) (.inl rfl) hcleared (by simp [afterReset])

/-- The payload is sent from where it is. -/
theorem Owned.inform (hs : Owned owner s) {msg : LocEngInformNiResponse}
    (hmsgTask : s.msgTask = .inform msg) :
    Owned owner { s.record (.informed msg.mPayload msg.mResponse s.now) with
      msgTask := .delete msg } := by
  have hhere : owner msg.mPayload = .msgTask :=
    (hs.holds msg.mPayload .msgTask (by simp [Holds, hmsgTask, NiMsgTask.msg?])).1
  have hinformed := hs.record (.informed msg.mPayload msg.mResponse s.now)
    fun payload => ⟨rfl, rfl, fun hsends => by
      rw [← of_decide_eq_true hsends]
      exact hhere⟩
  have hsame : some msg = s.msgTask.msg? := by rw [hmsgTask]; rfl
  exact hinformed.advance (.inl rfl) (.inr hsame) (by simp [NiData.record, hmsgTask]) (by simp)

/-- A request without a payload is saved in a session, which then holds none. -/
theorem Owned.saveEmpty (hs : Owned owner s) {name : NiSessionName} {request : NiRequest}
    (hmsgTask : s.msgTask = .saveRequest name request) (hpayload : request.passThrough = none) :
    Owned owner { s.setSession name { s.sessions name with
        rawRequest := request.passThrough, serving := some request.number } with
      msgTask := .saveReqID name request } := by
  rw [hpayload]
  have hsaved := hs.setSession name { s.sessions name with
    rawRequest := none, serving := some request.number } (.inl rfl)
  exact hsaved.advance (.inl rfl) (.inl rfl) (by simp [NiData.setSession, hmsgTask]) (by simp)

theorem Owned.saveReqID (hs : Owned owner s) {name : NiSessionName} {request : NiRequest}
    (hmsgTask : s.msgTask = .saveReqID name request) :
    Owned owner { (s.setSession name { s.sessions name with reqID := s.reqIDCounter + 1 }).record
        (.identified request.number (s.reqIDCounter + 1)) with
      reqIDCounter := s.reqIDCounter + 1
      msgTask := .fillNotification name request } := by
  have hsaved := hs.setSession name { s.sessions name with
    reqID := s.reqIDCounter + 1 } (.inr rfl)
  have hnext : Owned owner
      (NiData.record _ (.identified request.number (s.reqIDCounter + 1))) :=
    hsaved.recordIdle rfl
  have hcounted := hnext.setReqIDCounter (s.reqIDCounter + 1)
  exact hcounted.advance (.inl rfl) (.inl rfl)
    (by simp [NiData.setSession, NiData.record, hmsgTask]) (by simp)

theorem Owned.saveTimeLeft (hs : Owned owner s) {name : NiSessionName} {request : NiRequest}
    {notification_id : Int} (hmsgTask : s.msgTask = .saveTimeLeft name request notification_id) :
    Owned owner { s.setSession name { s.sessions name with
        respTimeLeft := niTimeLeft request.timeout } with
      msgTask := .createThread name request notification_id } := by
  have hsaved := hs.setSession name { s.sessions name with
    respTimeLeft := niTimeLeft request.timeout } (.inr rfl)
  exact hsaved.advance (.inl rfl) (.inl rfl) (by simp [NiData.setSession, hmsgTask]) (by simp)

theorem Owned.createThread (hs : Owned owner s) {name : NiSessionName} {request : NiRequest}
    {notification_id : Int} (hmsgTask : s.msgTask = .createThread name request notification_id) :
    Owned owner { s.setThread request.number (.start name) with
      msgTask := .notify request notification_id } := by
  have hstarted := hs.setThread request.number (.start name) (.inl rfl)
  exact hstarted.advance (.inl rfl) (.inl rfl) (by simp [NiData.setThread, hmsgTask]) (by simp)

theorem Owned.notify (hs : Owned owner s) {request : NiRequest} {notification_id : Int}
    (hmsgTask : s.msgTask = .notify request notification_id) :
    Owned owner { s.record (.notified request.number notification_id) with
      msgTask := .receive } := by
  have hnotified : Owned owner (s.record (.notified request.number notification_id)) :=
    hs.recordIdle rfl
  exact hnotified.advance (.inl rfl) (.inl rfl) (by simp [NiData.record, hmsgTask]) (by simp)

/-- A thread was faster than the reset: there is nothing left to clear. -/
theorem Owned.freeNothing (hs : Owned owner s) {name : NiSessionName}
    (hmsgTask : s.msgTask = .freeRequest name) (hraw : (s.sessions name).rawRequest = none) :
    Owned owner { s with msgTask := .clearRequest name } := by
  refine hs.goOn (.inl rfl) (.inl rfl) (by simp [hmsgTask]) ?_
  rintro other hclear
  obtain rfl := NiMsgTask.clearRequest.inj hclear
  exact hraw

/-- What the session pointed to has been freed, so it is nobody's any more. -/
theorem Owned.clearRequest (hs : Owned owner s) {name : NiSessionName}
    (hmsgTask : s.msgTask = .clearRequest name) :
    Owned owner { s.setSession name { s.sessions name with rawRequest := none } with
      msgTask := .wakeThread name } := by
  have hcleared := hs.setSession name { s.sessions name with rawRequest := none } (.inl rfl)
  refine hcleared.goOn (.inl rfl) (.inl rfl) ?_ fun _ hclear => by cases hclear
  intro other hclear
  obtain rfl := NiMsgTask.clearRequest.inj (hmsgTask.symm.trans hclear)
  simp [NiData.setSession]

theorem Owned.wakeThread (hs : Owned owner s) {name : NiSessionName}
    (hmsgTask : s.msgTask = .wakeThread name) :
    Owned owner { s.setSession name { s.sessions name with respRecvd := true } with
      msgTask := afterReset name } := by
  have hwoken := hs.setSession name { s.sessions name with respRecvd := true } (.inr rfl)
  exact hwoken.resetNext name (by simp [NiData.setSession, hmsgTask])

theorem Owned.msgTaskStep (hs : Owned owner s) (hstep : s.msgTaskStep = some s') :
    ∃ owner', Owned owner' s' := by
  cases hmsgTask : s.msgTask <;> simp only [NiData.msgTaskStep, hmsgTask] at hstep
  case receive =>
    cases hqueue : s.queue <;> rw [hqueue] at hstep <;> cases hstep
    exact ⟨_, hs.receive hmsgTask hqueue⟩
  case chooseSession request =>
    have hsame : some request = s.msgTask.unsaved := by rw [hmsgTask]; rfl
    split at hstep
    all_goals
      cases hstep
      exact ⟨owner, hs.advance (.inr hsame) (.inl rfl) (by simp [hmsgTask]) (by simp)⟩
  case freePassThrough request =>
    cases hpayload : request.passThrough <;> rw [hpayload] at hstep <;> cases hstep
    · exact ⟨owner, hs.advance (.inl rfl) (.inl rfl) (by simp [hmsgTask]) (by simp)⟩
    · exact ⟨_, hs.freePassThrough hmsgTask hpayload⟩
  case saveRequest name request =>
    cases hstep
    cases hpayload : request.passThrough with
    | none => exact ⟨owner, hpayload ▸ hs.saveEmpty hmsgTask hpayload⟩
    | some payload => exact ⟨_, hs.saveRequest hmsgTask hpayload _ rfl⟩
  case saveReqID name request =>
    cases hstep
    exact ⟨owner, hs.saveReqID hmsgTask⟩
  case fillNotification name request =>
    cases hstep
    exact ⟨owner, hs.advance (.inl rfl) (.inl rfl) (by simp [hmsgTask]) (by simp)⟩
  case saveTimeLeft name request notification_id =>
    cases hstep
    exact ⟨owner, hs.saveTimeLeft hmsgTask⟩
  case createThread name request notification_id =>
    split_ifs at hstep <;> cases hstep
    · exact ⟨owner, hs.createThread hmsgTask⟩
    · exact ⟨owner, hs.advance (.inl rfl) (.inl rfl) (by simp [hmsgTask]) (by simp)⟩
  case notify request notification_id =>
    cases hstep
    exact ⟨owner, hs.notify hmsgTask⟩
  case checkRequest name =>
    split_ifs at hstep <;> cases hstep
    · exact ⟨owner, hs.advance (.inl rfl) (.inl rfl) (by simp [hmsgTask]) (by simp)⟩
    · exact ⟨owner, hs.resetNext name (by simp [hmsgTask])⟩
  case freeRequest name =>
    cases hraw : (s.sessions name).rawRequest <;> rw [hraw] at hstep <;> cases hstep
    · exact ⟨owner, hs.freeNothing hmsgTask hraw⟩
    · exact ⟨_, hs.freeRequest hmsgTask hraw⟩
  case clearRequest name =>
    cases hstep
    exact ⟨owner, hs.clearRequest hmsgTask⟩
  case wakeThread name =>
    cases hstep
    exact ⟨owner, hs.wakeThread hmsgTask⟩
  case inform msg =>
    cases hstep
    exact ⟨owner, hs.inform hmsgTask⟩
  case delete msg =>
    cases hstep
    exact ⟨_, hs.delete hmsgTask⟩

/-! ## Runs -/

/-- The session whose request the action takes. -/
def takes (s : NiData) : NiAction → Option NiSessionName
  | .niThread thread =>
      match s.threads thread with
      | .start name | .timedwait name _ =>
          if (s.sessions name).respRecvd then some name else none
      | .absent | .clearTimeLeft .. | .clearReqID .. | .sendMsg _ => none
  | .timeOut thread =>
      match s.threads thread with
      | .timedwait name expire_time => if expire_time ≤ s.now then some name else none
      | .absent | .start _ | .clearTimeLeft .. | .clearReqID .. | .sendMsg _ => none
  | .tick _ | .request .. | .engineRestart | .respond .. | .msgTask | .responder _ => none

/-- No thread takes a request that a reset has freed and is about to clear. -/
def NotFreed (s : NiData) (action : NiAction) : Prop :=
  ∀ name ∈ s.takes action, s.msgTask = .clearRequest name → (s.sessions name).rawRequest = none

instance (s : NiData) (action : NiAction) : Decidable (s.NotFreed action) :=
  inferInstanceAs (Decidable (∀ name ∈ s.takes action,
    s.msgTask = .clearRequest name → (s.sessions name).rawRequest = none))

theorem Owned.niThreadStep (hs : Owned owner s) {number : Nat}
    (hguard : s.NotFreed (.niThread number)) (hstep : s.niThreadStep number = some s') :
    ∃ owner', Owned owner' s' := by
  unfold NiData.niThreadStep at hstep
  split at hstep
  case h_1 => cases hstep
  case h_2 name hthread =>
    split_ifs at hstep with hrecvd
    · obtain rfl := Option.some.inj hstep
      exact hs.takeRequest (hguard name (by simp [takes, hthread, hrecvd]))
    · obtain rfl := Option.some.inj hstep
      exact ⟨owner, hs.setThread _ _ (.inl rfl)⟩
  case h_3 name expire_time hthread =>
    split_ifs at hstep with hrecvd
    · obtain rfl := Option.some.inj hstep
      exact hs.takeRequest (hguard name (by simp [takes, hthread, hrecvd]))
    · obtain rfl := Option.some.inj hstep
      exact ⟨owner, hs⟩
  case h_4 name msg hthread =>
    obtain rfl := Option.some.inj hstep
    have hnext := hs.setSession name { s.sessions name with
      respTimeLeft := 0 } (.inr rfl)
    refine ⟨owner, hnext.setThread _ _ (.inr ?_)⟩
    simp [NiData.setSession, hthread, NiThread.msg?]
  case h_5 name msg hthread =>
    obtain rfl := Option.some.inj hstep
    have hnext := hs.setSession name { s.sessions name with
      reqID := 0 } (.inr rfl)
    refine ⟨owner, hnext.setThread _ _ (.inr ?_)⟩
    simp [NiData.setSession, hthread, NiThread.msg?]
  case h_6 msg hthread =>
    obtain rfl := Option.some.inj hstep
    exact hs.sendMsg hthread

theorem Owned.timeOutStep (hs : Owned owner s) {number : Nat}
    (hguard : s.NotFreed (.timeOut number)) (hstep : s.timeOutStep number = some s') :
    ∃ owner', Owned owner' s' := by
  unfold NiData.timeOutStep at hstep
  split at hstep
  case h_1 name expire_time hthread =>
    split_ifs at hstep with hexpired
    obtain rfl := Option.some.inj hstep
    have hnext := hs.setSession name { s.sessions name with
      resp := gpsNiResponseNoresp } (.inr rfl)
    apply hnext.takeRequest
    intro hclear
    have hnone := hguard name (by simp [takes, hthread, hexpired]) hclear
    simpa [NiData.setSession] using hnone
  all_goals cases hstep

theorem Owned.signal (hs : Owned owner s) (name : NiSessionName) (resp : GpsUserResponseType) :
    Owned owner (s.signal name resp) := hs.setSession _ _ (.inr rfl)

theorem Owned.respondStep (hs : Owned owner s) {caller : Nat}
    (hstep : s.respondStep caller = some s') : Owned owner s' := by
  unfold NiData.respondStep at hstep
  split at hstep
  case h_1 => cases hstep
  case h_2 =>
    split at hstep
    case h_1 =>
      obtain rfl := Option.some.inj hstep
      exact hs.setRespond _ _
    case h_2 =>
      split_ifs at hstep
      all_goals
        obtain rfl := Option.some.inj hstep
        exact hs.setRespond _ _
  case h_3 =>
    split at hstep
    case h_1 =>
      obtain rfl := Option.some.inj hstep
      exact hs.setRespond _ _
    case h_2 =>
      split_ifs at hstep
      all_goals
        obtain rfl := Option.some.inj hstep
        exact hs.setRespond _ _
  case h_4 user_response found other hcall =>
    obtain rfl := Option.some.inj hstep
    have hsignalled := hs.signal .session gpsNiResponseIgnore
    exact (hsignalled.recordIdle rfl).setRespond _ _
  case h_5 =>
    split at hstep
    case h_1 =>
      obtain rfl := Option.some.inj hstep
      exact (hs.recordIdle rfl).setRespond _ _
    case h_2 =>
      split_ifs at hstep
      · obtain rfl := Option.some.inj hstep
        exact hs.setRespond _ _
      · obtain rfl := Option.some.inj hstep
        exact (hs.recordIdle rfl).setRespond _ _
  case h_6 name user_response found hcall =>
    obtain rfl := Option.some.inj hstep
    exact (hs.signal name user_response).setRespond _ _

/-- A new request brings a new payload. -/
theorem Owned.request (hs : Owned owner s) {request : NiRequest} (hidle : s.msgTask = .receive)
    (hpayload : ∀ payload, request.passThrough = some payload → payload = s.requests)
    (timeout : Int) :
    Owned owner { s.record (.requested s.requests timeout s.now) with
      requests := s.requests + 1, msgTask := .chooseSession request } := by
  have hrecorded : Owned owner (s.record (.requested s.requests timeout s.now)) :=
    hs.recordIdle rfl
  refine ⟨?_, ?_, hs.queue, hrecorded.disposals, hrecorded.frees, hrecorded.sentAlive, ?_⟩
  · intro payload place hplace
    cases place with
    | handler =>
        -- Payloads are named by the number of their request, which is new.
        obtain rfl := hpayload payload hplace
        exact ⟨hs.fresh _ (Nat.le_refl _), Nat.lt_succ_self _⟩
    | session name =>
        obtain ⟨howner, hlt⟩ := hs.holds payload (.session name) ⟨hplace.1, by simp [hidle]⟩
        exact ⟨howner, Nat.lt_succ_of_lt hlt⟩
    | thread number =>
        obtain ⟨howner, hlt⟩ := hs.holds payload (.thread number) hplace
        exact ⟨howner, Nat.lt_succ_of_lt hlt⟩
    | queue =>
        obtain ⟨howner, hlt⟩ := hs.holds payload .queue hplace
        exact ⟨howner, Nat.lt_succ_of_lt hlt⟩
    | msgTask => simp [Holds, NiMsgTask.msg?] at hplace
    | gone => exact hplace.elim
  · exact fun payload hle => hs.fresh payload (Nat.le_of_succ_le hle)
  · exact fun _ _ hclear => by cases hclear

theorem Owned.step (hs : Owned owner s) {action : NiAction} (hguard : s.NotFreed action)
    (hstep : s.step action = some s') : ∃ owner', Owned owner' s' := by
  cases action with
  | tick time =>
      simp only [NiData.step] at hstep
      split_ifs at hstep
      obtain rfl := Option.some.inj hstep
      refine ⟨owner, hs.quiet rfl ?_ rfl rfl fun _ _ hclear hraw => ⟨hclear, hraw⟩⟩
      intro payload place hplace
      cases place <;> exact hplace
  | request ni_type timeout passThrough threadCreated =>
      by_cases hidle : s.msgTask = .receive
      · simp only [NiData.step, if_pos hidle, Option.some.injEq] at hstep
        subst hstep
        refine ⟨owner, hs.request hidle ?_ timeout⟩
        simp +contextual [eq_comm]
      · simp [NiData.step, if_neg hidle] at hstep
  | engineRestart =>
      simp only [NiData.step] at hstep
      split_ifs at hstep with hidle
      obtain rfl := Option.some.inj hstep
      exact ⟨owner, hs.advance (.inl rfl) (.inl rfl) (by simp [hidle]) (by simp)⟩
  | respond caller notif_id user_response =>
      simp only [NiData.step] at hstep
      split_ifs at hstep
      obtain rfl := Option.some.inj hstep
      exact ⟨owner, (hs.recordIdle rfl).setRespond _ _⟩
  | timeOut thread => exact hs.timeOutStep hguard hstep
  | msgTask => exact hs.msgTaskStep hstep
  | niThread thread => exact hs.niThreadStep hguard hstep
  | responder caller => exact ⟨owner, hs.respondStep hstep⟩

theorem owned_initial : Owned (fun _ => .handler) initial := by
  constructor
  · intro payload place hplace
    cases place with
    | handler => simp [Holds, initial, NiMsgTask.unsaved] at hplace
    | session name => simp [Holds, initial] at hplace
    | thread number => simp [Holds, initial, NiThread.msg?] at hplace
    | queue => simp [Holds, initial] at hplace
    | msgTask => simp [Holds, initial, NiMsgTask.msg?] at hplace
    | gone => exact hplace.elim
  · exact fun _ _ => rfl
  · exact List.Pairwise.nil
  · exact fun _ => rfl
  · exact fun _ => rfl
  · exact fun _ => neverAfter_nil
  · exact fun _ _ hclear => by cases hclear

/-- The thread that takes a freed payload disposes of it once more. -/
theorem Owned.takeFreed (hs : Owned owner s) (number : Nat) {name : NiSessionName}
    {payload : Nat} (hclear : s.msgTask = .clearRequest name)
    (hraw : (s.sessions name).rawRequest = some payload) :
    ¬ DisposedOnce (s.takeRequest number name).log := by
  intro hdisposed
  -- The reset has disposed of it once, and the thread does so again.
  have honce := hs.disposals payload
  rw [hs.dangling name payload hclear hraw] at honce
  have hcount := hdisposed.disposed payload
  have hlog : ∃ how, (s.takeRequest number name).log = s.log ++ [.disposed payload how] := by
    simp only [NiData.takeRequest, hraw]
    split_ifs
    · exact ⟨.handedOver, rfl⟩
    · exact ⟨.dropped, rfl⟩
  obtain ⟨how, hlog⟩ := hlog
  rw [hlog, List.countP_append, honce] at hcount
  simp [NiEvent.disposes, NiPlace.disposals] at hcount

/-- A step outside the guard takes a freed payload. -/
theorem Owned.step_freed (hs : Owned owner s) {action : NiAction} (hguard : ¬ s.NotFreed action) :
    ∃ s', s.step action = some s' ∧ ¬ DisposedOnce s'.log := by
  simp only [NotFreed, Option.mem_def, not_forall] at hguard
  obtain ⟨name, htakes, hclear, hraw⟩ := hguard
  obtain ⟨payload, hraw⟩ := Option.ne_none_iff_exists'.mp hraw
  cases action with
  | niThread number =>
      simp only [takes] at htakes
      split at htakes
      case h_1 other hthread =>
        split_ifs at htakes with hrecvd
        obtain rfl := Option.some.inj htakes
        refine ⟨s.takeRequest number other, ?_, hs.takeFreed number hclear hraw⟩
        simp [NiData.step, NiData.niThreadStep, hthread, hrecvd]
      case h_2 other expire_time hthread =>
        split_ifs at htakes with hrecvd
        obtain rfl := Option.some.inj htakes
        refine ⟨s.takeRequest number other, ?_, hs.takeFreed number hclear hraw⟩
        simp [NiData.step, NiData.niThreadStep, hthread, hrecvd]
      all_goals cases htakes
  | timeOut number =>
      simp only [takes] at htakes
      split at htakes
      case h_1 other expire_time hthread =>
        split_ifs at htakes with hexpired
        obtain rfl := Option.some.inj htakes
        have hnext := hs.setSession other { s.sessions other with
          resp := gpsNiResponseNoresp } (.inr rfl)
        have hheld : ((s.setSession other { s.sessions other with
            resp := gpsNiResponseNoresp }).sessions other).rawRequest = some payload := by
          simpa [NiData.setSession] using hraw
        refine ⟨_, ?_, hnext.takeFreed number hclear hheld⟩
        simp [NiData.step, NiData.timeOutStep, hthread, hexpired]
      all_goals cases htakes
  | tick | request | engineRestart | respond | msgTask | responder => cases htakes

/-- A run disposes of every payload once at most, and sends none that was freed,
exactly when no thread takes a request between the two statements by which a
reset frees it and clears it. -/
theorem disposedOnce_iff (actions : List NiAction) :
    system.Throughout (fun s => DisposedOnce s.log) initial actions ↔
      system.Guarded NotFreed initial actions := by
  apply Transition.System.throughout_iff_guarded (fun s => ∃ owner, Owned owner s)
  · rintro s ⟨owner, hs⟩
    exact hs.disposedOnce
  · rintro s action s' ⟨owner, hs⟩ hguard hstep
    exact hs.step hguard hstep
  · rintro s action ⟨owner, hs⟩ hguard
    exact hs.step_freed hguard
  · exact ⟨_, owned_initial⟩

/-- The user accepts, and the engine restarts before the thread has woken up.
The thread takes the request after the reset has freed it: the message sends the
payload and frees it again. -/
theorem accepted_during_reset :
    ¬ system.Throughout (fun s => DisposedOnce s.log) initial
      ([NiAction.request .umtsSupl 20 true true] ++ List.replicate 7 NiAction.msgTask ++
        [NiAction.niThread 0, .respond 0 1 gpsNiResponseAccept] ++
        List.replicate 3 (NiAction.responder 0) ++
        [NiAction.engineRestart, .msgTask, .msgTask, .msgTask] ++
        List.replicate 4 (NiAction.niThread 0) ++ List.replicate 5 NiAction.msgTask) := by
  apply Transition.System.not_throughout_of_any
    fun s => decide (1 < s.log.countP (·.disposes 0))
  · intro s hcheck hs
    have hdisposed := hs.disposed 0
    rw [decide_eq_true_eq] at hcheck
    omega
  · decide

end NiData

end Serrano.LocEng
