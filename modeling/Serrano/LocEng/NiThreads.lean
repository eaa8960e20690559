import Serrano.LocEng.NiOrder

/-! # Threads and responses in an undisturbed run

A thread takes the request that its session serves, with a response to this
request, and clears the session after itself. A response signals the session in
which it has found its request, and is rejected only when there is none.
-/

namespace Serrano.LocEng

namespace NiData

variable {s s' : NiData}

/-! ## Threads -/

/-- A thread is at work on the session that serves its request. -/
theorem Orderly.workOn (hs : s.Orderly) {number : Nat} {name : NiSessionName}
    (hserving : (s.sessions name).serving = some number) (hpresent : s.threads number ≠ .absent)
    {session : NiSession} {next : NiThread} (hrecorded : s'.Recorded) (hlater : Later s s')
    (hidentified : ∀ request reqID, .identified request reqID ∈ s'.log →
      .identified request reqID ∈ s.log)
    (hsessions : s'.sessions = Function.update s.sessions name session)
    (hthreads : s'.threads = Function.update s.threads number next)
    (hmsgTask : s'.msgTask = s.msgTask) (hresponds : s'.responds = s.responds)
    (hqueue : s'.queue = s.queue) (hserves : session.serving = some number)
    (hraw : session.rawRequest = none ∨ session.rawRequest = (s.sessions name).rawRequest)
    (hsession : s'.SessionOk name) (hnext : s'.ThreadOk number next) : s'.Orderly := by
  have hself : s'.sessions name = session := by rw [hsessions, Function.update_self]
  have hothers : ∀ other, other ≠ name → s'.sessions other = s.sessions other := by
    intro other hother
    rw [hsessions, Function.update_of_ne hother]
  have hstays : ∀ other, (s'.sessions other).serving = (s.sessions other).serving := by
    intro other
    by_cases hother : other = name
    · rw [hother, hself, hserves, hserving]
    · rw [hothers other hother]
  have hheld : ∀ other request, (s'.sessions other).rawRequest = some request →
      (s.sessions other).rawRequest = some request := by
    intro other request hrequest
    by_cases hother : other = name
    · rw [hother, hself] at hrequest
      rcases hraw with hnone | hsame
      · rw [hnone] at hrequest
        cases hrequest
      · rw [hother, ← hsame, hrequest]
    · rwa [hothers other hother] at hrequest
  have hcleared : ∀ other, (s.sessions other).rawRequest = none →
      (s'.sessions other).rawRequest = none := by
    intro other hnone
    rw [Option.eq_none_iff_forall_ne_some]
    intro request hrequest
    rw [hheld other request hrequest] at hnone
    cases hnone
  have hthread : ∀ other, other ≠ number → s'.threads other = s.threads other := by
    intro other hother
    rw [hthreads, Function.update_of_ne hother]
  have habsent : ∀ other, s.threads other = .absent → s'.threads other = .absent := by
    intro other hother
    rw [hthread other, hother]
    rintro rfl
    exact hpresent hother
  constructor
  · exact hrecorded
  · intro other
    by_cases hother : other = name
    · exact hother ▸ hsession
    · exact (hs.session other).mono hlater (hothers other hother) (hmsgTask ▸ id)
  · rw [hstays, hstays]
    exact hs.apart
  · exact fun other hle => habsent other (hs.fresh other (Nat.le_trans hlater.requests hle))
  · intro other
    by_cases hother : other = number
    · rw [hother, hthreads, Function.update_self]
      exact hnext
    · rw [hthread other hother]
      apply (hs.thread other).mono hlater
      intro home _ hserved
      rw [hstays] at hserved
      refine ⟨hserved, ?_, hcleared home⟩
      -- The session at work on serves another request.
      rw [hothers home]
      rintro rfl
      exact hother (Option.some.inj (hserved.symm.trans hserving))
  · rw [hmsgTask]
    apply hs.msgTask.mono hlater hidentified habsent hstays ?_ hcleared
    intro home other hserved hother
    rw [hothers home]
    · exact ⟨rfl, rfl⟩
    · rintro rfl
      rw [hserving, Option.some.injEq] at hserved
      exact hpresent (hserved ▸ hother)
  · rw [hresponds]
    exact fun caller => (hs.respond caller).mono hlater fun request _ _ => hheld .sessionEs request
  · rw [hqueue]
    exact fun msg hmem => (hs.queue msg hmem).mono hlater

/-- The session that a thread has taken the request of. -/
def taken (s : NiData) (name : NiSessionName) (resp : GpsUserResponseType) : NiData :=
  s.setSession name
    { s.sessions name with resp := resp, respRecvd := false, rawRequest := none }

theorem taken_self (s : NiData) (name : NiSessionName) (resp : GpsUserResponseType) :
    (s.taken name resp).sessions name =
      { s.sessions name with resp := resp, respRecvd := false, rawRequest := none } :=
  setSession_self ..

theorem takeRequest_cases (s : NiData) (number : Nat) (name : NiSessionName)
    (resp : GpsUserResponseType) :
    (s.setSession name { s.sessions name with resp := resp }).takeRequest number name =
      match (s.sessions name).rawRequest with
      | none => (s.taken name resp).setThread number (.clearTimeLeft name none)
      | some payload =>
          if resp ≠ gpsNiResponseIgnore then
            ((s.taken name resp).record (.disposed payload .handedOver)).setThread number
              (.clearTimeLeft name (some ⟨resp, payload⟩))
          else
            ((s.taken name resp).record (.disposed payload .dropped)).setThread number
              (.clearTimeLeft name none) := by
  cases hraw : (s.sessions name).rawRequest <;>
    simp [NiData.takeRequest, taken, NiData.setSession, hraw]

theorem SessionOk.of_taken (hlater : Later s s') {name : NiSessionName} (hs : s.SessionOk name)
    {resp : GpsUserResponseType} (hname : s'.sessions name =
      { s.sessions name with resp := resp, respRecvd := false, rawRequest := none }) :
    s'.SessionOk name := by
  constructor
  all_goals rw [hname]
  · exact fun _ hraw => by cases hraw
  · exact fun request hserved =>
      Nat.lt_of_lt_of_le (hs.served request hserved) hlater.requests
  · exact fun _ hraw => by cases hraw
  · exact fun hrecvd => by cases hrecvd

/-- The session that served the request is empty, and the payload disposed of. -/
theorem Orderly.takeDisposed (hs : s.Orderly) {number : Nat} {name : NiSessionName}
    (hserving : (s.sessions name).serving = some number) (hpresent : s.threads number ≠ .absent)
    {resp : GpsUserResponseType} {payload : Nat} {how : NiDisposal}
    (hproper : Proper (s.log ++ [.disposed payload how]) (.disposed payload how))
    {msg : Option LocEngInformNiResponse} (hmsg : ∀ held ∈ msg, s.Sends held) :
    (((s.taken name resp).record (.disposed payload how)).setThread number
      (.clearTimeLeft name msg)).Orderly := by
  have hlater : Later s (((s.taken name resp).record (.disposed payload how)).setThread number
      (.clearTimeLeft name msg)) := .of_concat rfl (Int.le_refl _) (Nat.le_refl _)
  have hself := s.taken_self name resp
  apply hs.workOn hserving hpresent ?_ hlater ?_ rfl rfl rfl rfl rfl hserving (.inl rfl)
    ((hs.session name).of_taken hlater hself)
  · refine ⟨fun _ => ?_, fun held hheld => (hmsg held hheld).mono hlater⟩
    exact congrArg NiSession.rawRequest hself
  · exact hs.recorded.concat rfl rfl (Nat.le_refl _) rfl hproper nofun nofun
  · intro request reqID hmem
    simpa [NiData.record, taken, NiData.setSession, NiData.setThread] using hmem

/-- A thread takes the request out of its session. The response that it finds
or makes up is one to the request. -/
theorem Orderly.takeRequest (hs : s.Orderly) {number : Nat} {name : NiSessionName}
    (hserving : (s.sessions name).serving = some number) (hpresent : s.threads number ≠ .absent)
    (resp : GpsUserResponseType)
    (hanswer : ∀ payload, (s.sessions name).rawRequest = some payload →
      (resp ≠ gpsNiResponseIgnore → Answered s.log payload resp s.now) ∧
        (resp = gpsNiResponseIgnore → Ignored s.log payload)) :
    ((s.setSession name { s.sessions name with resp := resp }).takeRequest
      number name).Orderly := by
  rw [takeRequest_cases]
  cases hraw : (s.sessions name).rawRequest with
  | none =>
      have hlater : Later s ((s.taken name resp).setThread number (.clearTimeLeft name none)) :=
        .of_log rfl (Int.le_refl _) (Nat.le_refl _)
      have hself := s.taken_self name resp
      apply hs.workOn hserving hpresent ?_ hlater (fun _ _ hmem => hmem) rfl rfl rfl rfl rfl
        hserving (.inl rfl) ((hs.session name).of_taken hlater hself)
      · exact ⟨fun _ => congrArg NiSession.rawRequest hself, fun _ hheld => by cases hheld⟩
      · exact hs.recorded.still rfl (Int.le_refl _) (Nat.le_refl _) (Int.le_refl _)
  | some payload =>
      obtain ⟨hanswered, hignored⟩ := hanswer payload hraw
      dsimp only
      split_ifs with hresp
      · refine hs.takeDisposed hserving hpresent ?_ ?_
        · trivial
        intro held hheld
        obtain rfl := Option.some.inj hheld
        exact hanswered hresp
      · refine hs.takeDisposed hserving hpresent ?_ fun _ hheld => by cases hheld
        exact (hignored (not_not.mp hresp)).mono (List.subset_append_left _ _)

/-- The response that was received is one to the request in the session. -/
theorem SessionOk.answers {name : NiSessionName} (hs : s.SessionOk name)
    (hrecvd : (s.sessions name).respRecvd = true) {payload : Nat}
    (hraw : (s.sessions name).rawRequest = some payload) :
    ((s.sessions name).resp ≠ gpsNiResponseIgnore →
      Answered s.log payload (s.sessions name).resp s.now) ∧
        ((s.sessions name).resp = gpsNiResponseIgnore → Ignored s.log payload) := by
  rcases hs.recvd hrecvd payload hraw with htold | ⟨hresp, hpassed⟩
  · exact ⟨fun _ => .inl htold, fun hresp => .inl (hresp ▸ htold)⟩
  · exact ⟨fun hnot => absurd hresp hnot, fun _ => .inr hpassed⟩

theorem Orderly.takeReceived (hs : s.Orderly) {number : Nat} {name : NiSessionName}
    (hserving : (s.sessions name).serving = some number) (hpresent : s.threads number ≠ .absent)
    (hrecvd : (s.sessions name).respRecvd = true) : (s.takeRequest number name).Orderly := by
  -- Taking a request with the response that is there already.
  have hsame : s.setSession name { s.sessions name with resp := (s.sessions name).resp } = s := by
    simp [NiData.setSession]
  have hnext := hs.takeRequest hserving hpresent (s.sessions name).resp
    fun payload hraw => (hs.session name).answers hrecvd hraw
  rwa [hsame] at hnext

/-- What a thread writes to its session when it has taken the request. -/
theorem Orderly.clear (hs : s.Orderly) {number : Nat} {name : NiSessionName}
    (hserving : (s.sessions name).serving = some number) (hpresent : s.threads number ≠ .absent)
    {session : NiSession} {next : NiThread}
    (hserves : session.serving = some number) (hempty : session.rawRequest = none)
    (hnext : ∀ s' : NiData, Later s s' → s'.sessions name = session → s'.ThreadOk number next) :
    ((s.setSession name session).setThread number next).Orderly := by
  have hlater : Later s ((s.setSession name session).setThread number next) :=
    .of_log rfl (Int.le_refl _) (Nat.le_refl _)
  have hself : ((s.setSession name session).setThread number next).sessions name = session :=
    setSession_self ..
  apply hs.workOn hserving hpresent ?_ hlater (fun _ _ hmem => hmem) rfl rfl rfl rfl rfl hserves
    (.inl hempty) ?_ (hnext _ hlater hself)
  · exact hs.recorded.still rfl (Int.le_refl _) (Nat.le_refl _) (Int.le_refl _)
  · constructor
    all_goals rw [hself]
    · rw [hempty]
      exact fun _ hheld => by cases hheld
    · intro request hserved
      rw [hserves, ← hserving] at hserved
      exact (hs.session name).served request hserved
    · rw [hempty]
      exact fun _ hheld => by cases hheld
    · rw [hempty]
      exact fun _ _ hheld => by cases hheld

/-- A thread starts to wait until its request is overdue. -/
theorem Orderly.wait (hs : s.Orderly) {number : Nat} {name : NiSessionName}
    (hserving : (s.sessions name).serving = some number)
    (hthread : s.threads number = .start name) :
    (s.setThread number
      (.timedwait name (s.now + 1000000 * (s.sessions name).respTimeLeft))).Orderly := by
  have hpresent : s.threads number ≠ .absent := by simp [hthread]
  have hlater : Later s (s.setThread number
      (.timedwait name (s.now + 1000000 * (s.sessions name).respTimeLeft))) :=
    .of_log rfl (Int.le_refl _) (Nat.le_refl _)
  have hok := hs.thread number
  rw [hthread] at hok
  obtain ⟨timeout, time, hrequested, htimeLeft⟩ := hok hserving
  have hpast := hs.recorded.past number timeout time hrequested
  apply hs.workOn hserving hpresent ?_ hlater (fun _ _ hmem => hmem)
    (Function.update_eq_self name s.sessions).symm rfl rfl rfl rfl hserving (.inr rfl)
    ((hs.session name).mono hlater rfl id)
  · refine ⟨timeout, time, hrequested, ?_⟩
    rw [htimeLeft]
    omega
  · exact hs.recorded.still rfl (Int.le_refl _) (Nat.le_refl _) (Int.le_refl _)

theorem Orderly.sendMsg (hs : s.Orderly) {number : Nat} {msg : Option LocEngInformNiResponse}
    (hthread : s.threads number = .sendMsg msg) :
    { s.setThread number .absent with queue := s.queue ++ msg.toList }.Orderly := by
  have hlater : Later s { s.setThread number .absent with queue := s.queue ++ msg.toList } :=
    .of_log rfl (Int.le_refl _) (Nat.le_refl _)
  have habsent : ∀ other, s.threads other = .absent →
      (s.setThread number .absent).threads other = .absent := by
    intro other hother
    by_cases hsame : other = number
    · rw [hsame, setThread_self]
    · rw [setThread_of_ne _ hsame, hother]
  constructor
  · exact hs.recorded.still rfl (Int.le_refl _) (Nat.le_refl _) (Int.le_refl _)
  · exact fun name => (hs.session name).mono hlater rfl id
  · exact hs.apart
  · exact fun other hle => habsent other (hs.fresh other hle)
  · intro other
    dsimp only
    by_cases hother : other = number
    · rw [hother, setThread_self]
      trivial
    · rw [setThread_of_ne _ hother]
      exact (hs.thread other).mono hlater fun _ _ hserved => ⟨hserved, rfl, id⟩
  · exact hs.msgTask.mono hlater (fun _ _ hmem => hmem) habsent (fun _ => rfl)
      (fun _ _ _ _ => ⟨rfl, rfl⟩) fun _ => id
  · exact fun caller => (hs.respond caller).mono hlater fun _ _ _ => id
  · intro held hmem
    rcases List.mem_append.mp hmem with hold | hnew
    · exact (hs.queue held hold).mono hlater
    · have hok := hs.thread number
      rw [hthread] at hok
      exact (hok held (by simpa using hnew)).mono hlater

theorem Orderly.niThreadStep (hs : s.Orderly) {number : Nat}
    (hguard : s.Undisturbed (.niThread number)) (hstep : s.niThreadStep number = some s') :
    s'.Orderly := by
  have hok := hs.thread number
  cases hthread : s.threads number with
  | absent => simp [NiData.niThreadStep, hthread] at hstep
  | start name =>
      have hpresent : s.threads number ≠ .absent := by simp [hthread]
      have hserving := hguard name (by rw [hthread]; rfl)
      simp only [NiData.niThreadStep, hthread] at hstep
      split_ifs at hstep with hrecvd
      · obtain rfl := Option.some.inj hstep
        exact hs.takeReceived hserving hpresent hrecvd
      · obtain rfl := Option.some.inj hstep
        exact hs.wait hserving hthread
  | timedwait name expire_time =>
      have hpresent : s.threads number ≠ .absent := by simp [hthread]
      have hserving := hguard name (by rw [hthread]; rfl)
      simp only [NiData.niThreadStep, hthread] at hstep
      split_ifs at hstep with hrecvd
      · obtain rfl := Option.some.inj hstep
        exact hs.takeReceived hserving hpresent hrecvd
      · obtain rfl := Option.some.inj hstep
        exact hs
  | clearTimeLeft name msg =>
      have hpresent : s.threads number ≠ .absent := by simp [hthread]
      have hserving := hguard name (by rw [hthread]; rfl)
      rw [hthread] at hok
      simp only [NiData.niThreadStep, hthread, Option.some.injEq] at hstep
      subst hstep
      refine hs.clear hserving hpresent ?_ ?_ ?_
      · exact hserving
      · exact hok.1 hserving
      intro s' hlater hself
      refine ⟨fun _ => ?_, fun held hheld => (hok.2 held hheld).mono hlater⟩
      rw [hself]
      exact hok.1 hserving
  | clearReqID name msg =>
      have hpresent : s.threads number ≠ .absent := by simp [hthread]
      have hserving := hguard name (by rw [hthread]; rfl)
      rw [hthread] at hok
      simp only [NiData.niThreadStep, hthread, Option.some.injEq] at hstep
      subst hstep
      refine hs.clear hserving hpresent ?_ ?_ ?_
      · exact hserving
      · exact hok.1 hserving
      · exact fun s' hlater _ held hheld => (hok.2 held hheld).mono hlater
  | sendMsg msg =>
      simp only [NiData.niThreadStep, hthread, Option.some.injEq] at hstep
      subst hstep
      exact hs.sendMsg hthread

/-- A thread that waits no longer answers in the name of its own user. -/
theorem Orderly.timeOutStep (hs : s.Orderly) {number : Nat}
    (hguard : s.Undisturbed (.timeOut number)) (hstep : s.timeOutStep number = some s') :
    s'.Orderly := by
  unfold NiData.timeOutStep at hstep
  split at hstep
  case h_1 name expire_time hthread =>
    split_ifs at hstep with hexpired
    obtain rfl := Option.some.inj hstep
    have hpresent : s.threads number ≠ .absent := by simp [hthread]
    have hserving := hguard name (by rw [hthread]; rfl)
    have hok := hs.thread number
    rw [hthread] at hok
    apply hs.takeRequest hserving hpresent
    intro payload hraw
    -- The payload of the session is the one of this very thread.
    have hsame := (hs.session name).serving payload hraw
    rw [hserving, Option.some.injEq] at hsame
    refine ⟨fun _ => .inr ⟨rfl, ?_⟩, fun hignore => by cases hignore⟩
    exact hsame ▸ Overdue.mono hok (List.Subset.refl _) hexpired
  all_goals cases hstep

/-! ## Responses -/

theorem Orderly.setRespond (hs : s.Orderly) (caller : Nat) {next : NiRespond}
    (hnext : s.RespondOk next) : (s.setRespond caller next).Orderly := by
  have hlater : Later s (s.setRespond caller next) := .of_log rfl (Int.le_refl _) (Nat.le_refl _)
  apply hs.next ?_ hlater rfl rfl (.inr rfl)
  · exact hs.msgTask.still hlater (fun _ _ hmem => hmem) rfl rfl
  · intro other
    by_cases hother : other = caller
    · rw [hother, setRespond_self]
      exact hnext.still hlater rfl
    · rw [setRespond_of_ne _ hother]
      exact (hs.respond other).still hlater rfl
  · exact hs.queue
  · exact hs.recorded.still rfl (Int.le_refl _) (Nat.le_refl _) (Int.le_refl _)

/-- A session that serves a request is signalled with a response to it. -/
theorem Orderly.signal (hs : s.Orderly) (name : NiSessionName) (resp : GpsUserResponseType)
    {found : Nat} (hserving : (s.sessions name).serving = some found)
    (hresp : Told s.log found resp ∨ resp = gpsNiResponseIgnore ∧ .passedOver found ∈ s.log) :
    (s.signal name resp).Orderly := by
  have hlater : Later s (s.signal name resp) := .of_log rfl (Int.le_refl _) (Nat.le_refl _)
  have hself : (s.signal name resp).sessions name =
      { s.sessions name with resp := resp, respRecvd := true } := setSession_self ..
  have hsame : ∀ other, ((s.signal name resp).sessions other).serving =
        (s.sessions other).serving ∧
      ((s.signal name resp).sessions other).rawRequest = (s.sessions other).rawRequest ∧
      ((s.signal name resp).sessions other).reqID = (s.sessions other).reqID ∧
      ((s.signal name resp).sessions other).respTimeLeft = (s.sessions other).respTimeLeft := by
    intro other
    by_cases hother : other = name
    · rw [hother, hself]
      exact ⟨rfl, rfl, rfl, rfl⟩
    · rw [show (s.signal name resp).sessions other = s.sessions other from
        setSession_of_ne _ hother _]
      exact ⟨rfl, rfl, rfl, rfl⟩
  have hserves : ∀ other, ((s.signal name resp).sessions other).serving =
      (s.sessions other).serving := fun other => (hsame other).1
  have hraw : ∀ other, ((s.signal name resp).sessions other).rawRequest =
      (s.sessions other).rawRequest := fun other => (hsame other).2.1
  constructor
  · exact hs.recorded.still rfl (Int.le_refl _) (Nat.le_refl _) (Int.le_refl _)
  · intro other
    by_cases hother : other = name
    · subst hother
      have hsession := hs.session other
      constructor
      · rw [hserves, hraw]
        exact hsession.serving
      · rw [hserves]
        exact hsession.served
      · rw [hraw, (hsame other).2.2.1]
        exact hsession.reqID
      · rw [hself]
        intro _ request hheld
        have hserved := hsession.serving request hheld
        rw [hserving, Option.some.injEq] at hserved
        exact hserved ▸ hresp
    · exact (hs.session other).mono hlater (setSession_of_ne _ hother _) id
  · rw [hserves, hserves]
    exact hs.apart
  · exact hs.fresh
  · intro number
    apply (hs.thread number).mono hlater
    intro other _ hserved
    rw [hserves] at hserved
    rw [hraw, (hsame other).2.2.2]
    exact ⟨hserved, rfl, id⟩
  · apply hs.msgTask.mono hlater (fun _ _ hmem => hmem) (fun _ => id) hserves
    · exact fun other _ _ _ => (hsame other).2.2
    · intro other hnone
      rw [hraw]
      exact hnone
  · intro caller
    apply (hs.respond caller).mono hlater
    rw [hraw]
    exact fun _ _ _ => id
  · exact fun msg hmem => (hs.queue msg hmem).mono hlater

/-- A request with an id is found by it in its session. -/
theorem Orderly.reqID_eq (hs : s.Orderly) {name : NiSessionName} {request : Nat} {reqID : Int}
    (hraw : (s.sessions name).rawRequest = some request)
    (hidentified : .identified request reqID ∈ s.log) : reqID = (s.sessions name).reqID := by
  by_cases hidentifying : s.msgTask.identifying = some name
  · -- The request that is about to get its id has none yet.
    have hmsgTask := hs.msgTask
    cases hcase : s.msgTask with
    | saveReqID other handled =>
        rw [hcase] at hidentifying hmsgTask
        obtain rfl := Option.some.inj hidentifying
        obtain ⟨-, hnone, hserving⟩ := hmsgTask
        rw [(hs.session other).serving request hraw, Option.some.injEq] at hserving
        exact absurd (hserving ▸ hidentified) (hnone reqID)
    | receive | chooseSession | freePassThrough | saveRequest | fillNotification | saveTimeLeft
    | createThread | notify | checkRequest | freeRequest | clearRequest | wakeThread | inform
    | delete =>
        rw [hcase] at hidentifying
        cases hidentifying
  · exact hs.recorded.same request _ _ hidentified
      ((hs.session name).reqID request hraw hidentifying)

/-- What a response finds by its id is the request that it is for. -/
theorem Orderly.told_found (hs : s.Orderly) {name : NiSessionName} {notif_id : Int}
    {resp : GpsUserResponseType} {found : Nat}
    (hcompared : s.msgTask.identifying = some name → notif_id ≠ (s.sessions name).reqID)
    (hsame : notif_id = (s.sessions name).reqID)
    (hraw : (s.sessions name).rawRequest = some found)
    (hresponded : .responded notif_id resp ∈ s.log) : Told s.log found resp := by
  refine ⟨notif_id, ?_, hresponded⟩
  rw [hsame]
  exact (hs.session name).reqID found hraw fun hidentifying => hcompared hidentifying hsame

/-- A response that finds nothing is for no request that is active. -/
theorem Orderly.reject (hs : s.Orderly) {caller : Nat} {notif_id : Int}
    {user_response : GpsUserResponseType} {notified : List Nat}
    (hcall : s.responds caller = .checkSession notif_id user_response notified)
    (hmissed : ∀ request, (s.sessions .session).rawRequest = some request →
      notif_id ≠ (s.sessions .session).reqID) :
    ((s.record (.rejected notif_id (notified.filter s.holds))).setRespond
      caller .idle).Orderly := by
  have hok := hs.respond caller
  rw [hcall] at hok
  have hnone : notified.filter s.holds = [] := by
    rw [List.filter_eq_nil_iff]
    intro request hmem hholds
    obtain ⟨hidentified, hnot⟩ := hok.2 request hmem
    rw [holds, Bool.or_eq_true, decide_eq_true_eq, decide_eq_true_eq] at hholds
    rcases hholds with hraw | hraw
    · exact hmissed request hraw (hs.reqID_eq hraw hidentified)
    · exact hnot hraw
  apply Orderly.setRespond
  · exact hs.record _ hnone rfl
  · trivial

theorem Orderly.respondStep (hs : s.Orderly) {caller : Nat}
    (hguard : s.Undisturbed (.responder caller)) (hstep : s.respondStep caller = some s') :
    s'.Orderly := by
  have hok := hs.respond caller
  cases hcall : s.responds caller with
  | idle => simp [NiData.respondStep, hcall] at hstep
  | checkEs notif_id user_response notified =>
      rw [hcall] at hok
      obtain ⟨hresponded, hnotified⟩ := hok
      have hcompared := hguard.1 (.sessionEs, notif_id) (by rw [hcall]; rfl)
      -- A miss here, for whatever reason, sends the call on to the other session.
      have hmiss : (∀ request, (s.sessions .sessionEs).rawRequest = some request →
          notif_id ≠ (s.sessions .sessionEs).reqID) →
          (s.setRespond caller (.checkSession notif_id user_response notified)).Orderly := by
        intro hmissed
        refine hs.setRespond caller ⟨hresponded, fun request hmem => ⟨hnotified request hmem, ?_⟩⟩
        exact fun hraw => hmissed request hraw (hs.reqID_eq hraw (hnotified request hmem))
      simp only [NiData.respondStep, hcall] at hstep
      split at hstep
      case h_1 hraw =>
        obtain rfl := Option.some.inj hstep
        apply hmiss
        rw [hraw]
        exact fun _ hnone => by cases hnone
      case h_2 found hraw =>
        split_ifs at hstep with hsame
        · obtain rfl := Option.some.inj hstep
          exact hs.setRespond caller (hs.told_found hcompared hsame hraw hresponded)
        · obtain rfl := Option.some.inj hstep
          exact hmiss fun _ _ => hsame
  | checkAccept user_response found =>
      rw [hcall] at hok
      simp only [NiData.respondStep, hcall] at hstep
      split at hstep
      case h_1 =>
        obtain rfl := Option.some.inj hstep
        exact hs.setRespond caller hok
      case h_2 =>
        split_ifs at hstep
        all_goals
          obtain rfl := Option.some.inj hstep
          exact hs.setRespond caller hok
  | passOver user_response found other =>
      rw [hcall] at hok
      have hserving := hguard.2 (.session, other) (by rw [hcall]; rfl)
      simp only [NiData.respondStep, hcall, Option.some.injEq] at hstep
      subst hstep
      have hpassed := hs.record (.passedOver other) trivial rfl
      have hsignalled := hpassed.signal .session gpsNiResponseIgnore hserving
        (.inr ⟨rfl, List.mem_append_right _ List.mem_cons_self⟩)
      exact hsignalled.setRespond caller (Told.mono hok (List.subset_append_left _ _))
  | checkSession notif_id user_response notified =>
      rw [hcall] at hok
      have hcompared := hguard.1 (.session, notif_id) (by rw [hcall]; rfl)
      simp only [NiData.respondStep, hcall] at hstep
      split at hstep
      case h_1 hraw =>
        obtain rfl := Option.some.inj hstep
        apply hs.reject hcall
        rw [hraw]
        exact fun _ hnone => by cases hnone
      case h_2 found hraw =>
        split_ifs at hstep with hsame
        · obtain rfl := Option.some.inj hstep
          exact hs.setRespond caller (hs.told_found hcompared hsame hraw hok.1)
        · obtain rfl := Option.some.inj hstep
          exact hs.reject hcall fun _ _ => hsame
  | signal name user_response found =>
      rw [hcall] at hok
      have hserving := hguard.2 (name, found) (by rw [hcall]; rfl)
      simp only [NiData.respondStep, hcall, Option.some.injEq] at hstep
      subst hstep
      exact (hs.signal name user_response hserving (.inl hok)).setRespond caller trivial

/-- The user responds to whatever was notified under the id. -/
theorem Orderly.respondCall (hs : s.Orderly) (caller : Nat) (notif_id : Int)
    (user_response : GpsUserResponseType) :
    ((s.record (.responded notif_id user_response)).setRespond caller
      (.checkEs notif_id user_response (s.notifiedAs notif_id))).Orderly := by
  have hresponded := hs.record (.responded notif_id user_response) trivial rfl
  apply hresponded.setRespond
  refine ⟨List.mem_append_right _ List.mem_cons_self, fun request hmem => ?_⟩
  rw [notifiedAs, List.mem_filterMap] at hmem
  obtain ⟨event, hevent, hmatch⟩ := hmem
  cases event with
  | notified other notification_id =>
      dsimp only at hmatch
      split_ifs at hmatch with hsame
      obtain rfl := Option.some.inj hmatch
      exact List.mem_append_left _ (hsame ▸ hs.recorded.answers.proper _ hevent)
  | requested | identified | responded | passedOver | rejected | disposed | informed | deleted =>
      cases hmatch

end NiData

end Serrano.LocEng
