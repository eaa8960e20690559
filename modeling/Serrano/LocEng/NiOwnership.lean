import Mathlib.Data.List.Count
import Serrano.Foundation.Monitor
import Serrano.LocEng.NiSession

/-! # Where a payload is

A payload is with the request handler, in a session, with the thread that has
taken it, in the queue or with the message task, until it is freed. The log
tells how often it was disposed of, sent and freed, and every step moves one
payload at most.
-/

namespace Serrano.LocEng

open Monitor

namespace NiEvent

/-- The payload is freed, or handed over to a message. -/
def disposes (payload : Nat) : NiEvent → Bool
  | .disposed other _ => other = payload
  | .requested .. | .identified .. | .notified .. | .responded .. | .passedOver _ | .rejected ..
  | .informed .. | .deleted _ => false

/-- The payload is freed, by the handler, a reset, a thread or a message. -/
def frees (payload : Nat) : NiEvent → Bool
  | .disposed other how => other = payload && how ≠ .handedOver
  | .deleted other => other = payload
  | .requested .. | .identified .. | .notified .. | .responded .. | .passedOver _ | .rejected ..
  | .informed .. => false

/-- The payload is sent to the modem. -/
def sends (payload : Nat) : NiEvent → Bool
  | .informed other _ _ => other = payload
  | .requested .. | .identified .. | .notified .. | .responded .. | .passedOver _ | .rejected ..
  | .disposed .. | .deleted _ => false

/-- An event that neither frees nor hands over nor sends anything. -/
def idle : NiEvent → Bool
  | .requested .. | .identified .. | .notified .. | .responded .. | .passedOver _ | .rejected .. =>
      true
  | .disposed .. | .informed .. | .deleted _ => false

theorem of_idle {event : NiEvent} (hevent : event.idle = true) (payload : Nat) :
    event.disposes payload = false ∧ event.frees payload = false ∧
      event.sends payload = false := by
  cases event with
  | requested | identified | notified | responded | passedOver | rejected => exact ⟨rfl, rfl, rfl⟩
  | disposed | informed | deleted => cases hevent

/-- The payload that is freed or handed over. -/
def concerns : NiEvent → Option Nat
  | .disposed payload _ | .deleted payload => some payload
  | .requested .. | .identified .. | .notified .. | .responded .. | .passedOver _ | .rejected ..
  | .informed .. => none

theorem of_concerns {event : NiEvent} {payload : Nat} (hevent : event.concerns = some payload)
    (other : Nat) : event.sends other = false ∧
      (other ≠ payload → event.disposes other = false ∧ event.frees other = false) := by
  cases event with
  | disposed | deleted =>
      obtain rfl := Option.some.inj hevent
      simp +contextual [sends, disposes, frees, eq_comm]
  | requested | identified | notified | responded | passedOver | rejected | informed => cases hevent

end NiEvent

/-- A payload is disposed of once at most, freed once at most, and not sent
after it was freed. -/
structure DisposedOnce (log : List NiEvent) : Prop where
  disposed : ∀ payload, log.countP (·.disposes payload) ≤ 1
  freed : ∀ payload, log.countP (·.frees payload) ≤ 1
  sentAlive : ∀ payload, NeverAfter (·.frees payload = true) (·.sends payload = true) log

/-- Where a payload is. -/
inductive NiPlace
  | handler
  | session (name : NiSessionName)
  | thread (number : Nat)
  | queue
  | msgTask
  | gone
  deriving DecidableEq

namespace NiPlace

/-- How often a payload in this place was disposed of. -/
def disposals : NiPlace → Nat
  | .handler | .session _ => 0
  | .thread _ | .queue | .msgTask | .gone => 1

/-- How often a payload in this place was freed. -/
def frees : NiPlace → Nat
  | .handler | .session _ | .thread _ | .queue | .msgTask => 0
  | .gone => 1

end NiPlace

/-- The request that is being handled and not saved yet. -/
def NiMsgTask.unsaved : NiMsgTask → Option NiRequest
  | .chooseSession request | .freePassThrough request | .saveRequest _ request => some request
  | .receive | .saveReqID .. | .fillNotification .. | .saveTimeLeft .. | .createThread ..
  | .notify .. | .checkRequest _ | .freeRequest _ | .clearRequest _ | .wakeThread _ | .inform _
  | .delete _ => none

/-- The message that is being processed. -/
def NiMsgTask.msg? : NiMsgTask → Option LocEngInformNiResponse
  | .inform msg | .delete msg => some msg
  | .receive | .chooseSession _ | .freePassThrough _ | .saveRequest .. | .saveReqID ..
  | .fillNotification .. | .saveTimeLeft .. | .createThread .. | .notify .. | .checkRequest _
  | .freeRequest _ | .clearRequest _ | .wakeThread _ => none

/-- The message that the thread has yet to send. -/
def NiThread.msg? : NiThread → Option LocEngInformNiResponse
  | .clearTimeLeft _ msg | .clearReqID _ msg | .sendMsg msg => msg
  | .absent | .start _ | .timedwait .. => none

namespace NiData

/-- The payload can be reached from the place. What a reset has freed and not
cleared yet does not count. -/
def Holds (s : NiData) (payload : Nat) : NiPlace → Prop
  | .handler => s.msgTask.unsaved.bind NiRequest.passThrough = some payload
  | .session name => (s.sessions name).rawRequest = some payload ∧ s.msgTask ≠ .clearRequest name
  | .thread number => (s.threads number).msg?.map LocEngInformNiResponse.mPayload = some payload
  | .queue => ∃ msg ∈ s.queue, msg.mPayload = payload
  | .msgTask => s.msgTask.msg?.map LocEngInformNiResponse.mPayload = some payload
  | .gone => False

/-- Every payload is in one place, and the log tells which. -/
structure Owned (owner : Nat → NiPlace) (s : NiData) : Prop where
  holds : ∀ payload place, s.Holds payload place → owner payload = place ∧ payload < s.requests
  fresh : ∀ payload, s.requests ≤ payload → owner payload = .handler
  queue : (s.queue.map LocEngInformNiResponse.mPayload).Nodup
  disposals : ∀ payload, s.log.countP (·.disposes payload) = (owner payload).disposals
  frees : ∀ payload, s.log.countP (·.frees payload) = (owner payload).frees
  sentAlive : ∀ payload, NeverAfter (·.frees payload = true) (·.sends payload = true) s.log
  dangling : ∀ name payload, s.msgTask = .clearRequest name →
    (s.sessions name).rawRequest = some payload → owner payload = .gone

variable {s s' : NiData} {owner : Nat → NiPlace}

theorem Owned.disposedOnce (hs : Owned owner s) : DisposedOnce s.log := by
  refine ⟨fun payload => ?_, fun payload => ?_, hs.sentAlive⟩
  · rw [hs.disposals]
    cases owner payload <;> simp [NiPlace.disposals]
  · rw [hs.frees]
    cases owner payload <;> simp [NiPlace.frees]

/-- Who is not moved stays where he is. -/
theorem owner_update {payload other : Nat} {place next : NiPlace} (hother : owner other = place)
    (hne : owner payload ≠ place) : Function.update owner payload next other = place := by
  rw [Function.update_of_ne, hother]
  rintro rfl
  exact hne hother

/-- A step that moves no payload. -/
theorem Owned.still (hs : Owned owner s) (new : List NiEvent) (hlog : s'.log = s.log ++ new)
    (hnew : ∀ event ∈ new, ∀ payload, event.disposes payload = false ∧
      event.frees payload = false ∧ (event.sends payload = true → owner payload = .msgTask))
    (hholds : ∀ payload place, s'.Holds payload place → s.Holds payload place)
    (hrequests : s'.requests = s.requests) (hqueue : s'.queue = s.queue)
    (hdangling : ∀ name payload, s'.msgTask = .clearRequest name →
      (s'.sessions name).rawRequest = some payload →
        s.msgTask = .clearRequest name ∧ (s.sessions name).rawRequest = some payload) :
    Owned owner s' := by
  constructor
  · intro payload place hplace
    rw [hrequests]
    exact hs.holds payload place (hholds payload place hplace)
  · intro payload hle
    rw [hrequests] at hle
    exact hs.fresh payload hle
  · rw [hqueue]
    exact hs.queue
  · intro payload
    have hnone : new.countP (·.disposes payload) = 0 := by
      rw [List.countP_eq_zero]
      intro event hmem
      simp [(hnew event hmem payload).1]
    rw [hlog, List.countP_append, hs.disposals, hnone, Nat.add_zero]
  · intro payload
    have hnone : new.countP (·.frees payload) = 0 := by
      rw [List.countP_eq_zero]
      intro event hmem
      simp [(hnew event hmem payload).2.1]
    rw [hlog, List.countP_append, hs.frees, hnone, Nat.add_zero]
  · intro payload
    have hnever : NeverAfter (·.frees payload = true) (·.sends payload = true) new := by
      apply List.pairwise_of_forall_mem_list
      intro earlier hmem later _ hfrees
      simp [(hnew earlier hmem payload).2.1] at hfrees
    rw [hlog]
    -- Only what the message task has in hand is sent, and that was never freed.
    apply (hs.sentAlive payload).append hnever
    intro event hmem hsends earlier hearlier
    have hcount := hs.frees payload
    rw [(hnew event hmem payload).2.2 hsends] at hcount
    exact List.countP_eq_zero.mp hcount earlier hearlier
  · intro name payload hclear hraw
    obtain ⟨hclear, hraw⟩ := hdangling name payload hclear hraw
    exact hs.dangling name payload hclear hraw

theorem Owned.quiet (hs : Owned owner s) (hlog : s'.log = s.log)
    (hholds : ∀ payload place, s'.Holds payload place → s.Holds payload place)
    (hrequests : s'.requests = s.requests) (hqueue : s'.queue = s.queue)
    (hdangling : ∀ name payload, s'.msgTask = .clearRequest name →
      (s'.sessions name).rawRequest = some payload →
        s.msgTask = .clearRequest name ∧ (s.sessions name).rawRequest = some payload) :
    Owned owner s' :=
  hs.still [] (by rw [hlog, List.append_nil]) (fun _ hmem => absurd hmem List.not_mem_nil)
    hholds hrequests hqueue hdangling

/-- A step that moves one payload to another place. -/
theorem Owned.move (hs : Owned owner s) {payload : Nat} {old : NiPlace} (next : NiPlace)
    (hfrom : s.Holds payload old) (new : List NiEvent) (hlog : s'.log = s.log ++ new)
    (hnew : ∀ event ∈ new, ∀ other, event.sends other = false ∧
      (other ≠ payload → event.disposes other = false ∧ event.frees other = false))
    (hdisposals : old.disposals + new.countP (·.disposes payload) = next.disposals)
    (hfrees : old.frees + new.countP (·.frees payload) = next.frees)
    (hholds : ∀ other place, s'.Holds other place → other = payload ∧ place = next ∨
      s.Holds other place ∧ (place ≠ old ∨ other ≠ payload))
    (hrequests : s'.requests = s.requests)
    (hqueue : (s'.queue.map LocEngInformNiResponse.mPayload).Nodup)
    (hdangling : ∀ name other, s'.msgTask = .clearRequest name →
      (s'.sessions name).rawRequest = some other → other = payload ∧ next = .gone ∨
        s.msgTask = .clearRequest name ∧ (s.sessions name).rawRequest = some other) :
    Owned (Function.update owner payload next) s' := by
  obtain ⟨howner, hlt⟩ := hs.holds payload old hfrom
  have hothers : ∀ other, other ≠ payload →
      new.countP (·.disposes other) = 0 ∧ new.countP (·.frees other) = 0 := by
    intro other hother
    constructor
    all_goals
      rw [List.countP_eq_zero]
      intro event hmem
      simp [(hnew event hmem other).2 hother]
  constructor
  · intro other place hplace
    rw [hrequests]
    rcases hholds other place hplace with ⟨rfl, rfl⟩ | ⟨hplace, hne⟩
    · exact ⟨Function.update_self .., hlt⟩
    · obtain ⟨hplaced, hother⟩ := hs.holds other place hplace
      refine ⟨?_, hother⟩
      rw [Function.update_of_ne, hplaced]
      rintro rfl
      rcases hne with hne | hne
      · exact hne (hplaced.symm.trans howner)
      · exact hne rfl
  · intro other hle
    rw [hrequests] at hle
    rw [Function.update_of_ne (by omega)]
    exact hs.fresh other hle
  · exact hqueue
  · intro other
    rw [hlog, List.countP_append, hs.disposals]
    by_cases hother : other = payload
    · rw [hother, Function.update_self, howner, hdisposals]
    · rw [Function.update_of_ne hother, (hothers other hother).1, Nat.add_zero]
  · intro other
    rw [hlog, List.countP_append, hs.frees]
    by_cases hother : other = payload
    · rw [hother, Function.update_self, howner, hfrees]
    · rw [Function.update_of_ne hother, (hothers other hother).2, Nat.add_zero]
  · intro other
    have hunused : ∀ event ∈ new, ¬ event.sends other = true := by
      intro event hmem
      simp [(hnew event hmem other).1]
    rw [hlog]
    apply (hs.sentAlive other).append
    · exact List.pairwise_of_forall_mem_list fun _ _ later hlater _ => hunused later hlater
    · exact fun event hmem hsends => absurd hsends (hunused event hmem)
  · intro name other hclear hraw
    rcases hdangling name other hclear hraw with ⟨rfl, rfl⟩ | ⟨hclear, hraw⟩
    · exact Function.update_self ..
    · -- A payload that is gone has no place to be moved from.
      have hgone := hs.dangling name other hclear hraw
      refine owner_update hgone ?_
      rw [howner]
      rintro rfl
      exact hfrom

/-- A payload that is freed or handed over. -/
theorem Owned.dispose (hs : Owned owner s) {payload : Nat} {old : NiPlace} (next : NiPlace)
    (hfrom : s.Holds payload old) {event : NiEvent} (hevent : event.concerns = some payload)
    (hlog : s'.log = s.log ++ [event])
    (hdisposals : old.disposals + (if event.disposes payload then 1 else 0) = next.disposals)
    (hfrees : old.frees + (if event.frees payload then 1 else 0) = next.frees)
    (hholds : ∀ other place, s'.Holds other place → other = payload ∧ place = next ∨
      s.Holds other place ∧ (place ≠ old ∨ other ≠ payload))
    (hrequests : s'.requests = s.requests) (hqueue : s'.queue = s.queue)
    (hdangling : ∀ name other, s'.msgTask = .clearRequest name →
      (s'.sessions name).rawRequest = some other → other = payload ∧ next = .gone ∨
        s.msgTask = .clearRequest name ∧ (s.sessions name).rawRequest = some other) :
    Owned (Function.update owner payload next) s' := by
  apply hs.move next hfrom [event] hlog
  · intro entry hmem other
    rw [List.mem_singleton] at hmem
    exact hmem ▸ NiEvent.of_concerns hevent other
  · rw [List.countP_singleton, hdisposals]
  · rw [List.countP_singleton, hfrees]
  · exact hholds
  · exact hrequests
  · rw [hqueue]
    exact hs.queue
  · exact hdangling

/-- A payload that changes hands without being disposed of once more. -/
theorem Owned.pass (hs : Owned owner s) {payload : Nat} {old : NiPlace} (next : NiPlace)
    (hfrom : s.Holds payload old) (hlog : s'.log = s.log)
    (hdisposals : old.disposals = next.disposals) (hfrees : old.frees = next.frees)
    (hholds : ∀ other place, s'.Holds other place → other = payload ∧ place = next ∨
      s.Holds other place ∧ (place ≠ old ∨ other ≠ payload))
    (hrequests : s'.requests = s.requests)
    (hqueue : (s'.queue.map LocEngInformNiResponse.mPayload).Nodup)
    (hdangling : ∀ name other, s'.msgTask = .clearRequest name →
      (s'.sessions name).rawRequest = some other →
        s.msgTask = .clearRequest name ∧ (s.sessions name).rawRequest = some other) :
    Owned (Function.update owner payload next) s' :=
  hs.move next hfrom [] (by rw [hlog, List.append_nil]) (fun _ hmem => absurd hmem List.not_mem_nil)
    hdisposals hfrees hholds hrequests hqueue
    fun name other hclear hraw => .inr (hdangling name other hclear hraw)

/-! ## Steps that move nothing -/

theorem Owned.record (hs : Owned owner s) (event : NiEvent) (hevent : ∀ payload,
    event.disposes payload = false ∧ event.frees payload = false ∧
      (event.sends payload = true → owner payload = .msgTask)) :
    Owned owner (s.record event) := by
  apply hs.still [event] rfl
  · intro other hother
    rw [List.mem_singleton] at hother
    exact hother ▸ hevent
  · intro payload place hplace
    cases place <;> exact hplace
  · rfl
  · rfl
  · exact fun name payload hclear hraw => ⟨hclear, hraw⟩

theorem Owned.recordIdle (hs : Owned owner s) {event : NiEvent} (hidle : event.idle = true) :
    Owned owner (s.record event) := by
  apply hs.record
  intro payload
  obtain ⟨hdisposes, hfrees, hsends⟩ := NiEvent.of_idle hidle payload
  exact ⟨hdisposes, hfrees, fun hsent => absurd hsent (by simp [hsends])⟩

/-- A session is changed, and keeps its request or loses it. -/
theorem Owned.setSession (hs : Owned owner s) (name : NiSessionName) (session : NiSession)
    (hsession : session.rawRequest = none ∨ session.rawRequest = (s.sessions name).rawRequest) :
    Owned owner (s.setSession name session) := by
  have hraw : ∀ other payload, ((s.setSession name session).sessions other).rawRequest =
      some payload → (s.sessions other).rawRequest = some payload := by
    intro other payload hpayload
    by_cases hother : other = name
    · subst hother
      rcases hsession with hnone | hsame
      · simp [hnone] at hpayload
      · simpa [hsame] using hpayload
    · simpa [hother] using hpayload
  apply hs.quiet
  · rfl
  · intro payload place hplace
    cases place with
    | session other => exact ⟨hraw other payload hplace.1, hplace.2⟩
    | handler | thread | queue | msgTask | gone => exact hplace
  · rfl
  · rfl
  · exact fun other payload hclear hpayload => ⟨hclear, hraw other payload hpayload⟩

/-- A thread goes on, and keeps its message or loses it. -/
theorem Owned.setThread (hs : Owned owner s) (number : Nat) (next : NiThread)
    (hnext : next.msg? = none ∨ next.msg? = (s.threads number).msg?) :
    Owned owner (s.setThread number next) := by
  apply hs.quiet
  · rfl
  · intro payload place hplace
    cases place with
    | thread other =>
        by_cases hother : other = number
        · subst hother
          rcases hnext with hnone | hsame
          · simp [Holds, hnone] at hplace
          · simpa [Holds, hsame] using hplace
        · simpa [Holds, hother] using hplace
    | handler | session | queue | msgTask | gone => exact hplace
  · rfl
  · rfl
  · exact fun name payload hclear hraw => ⟨hclear, hraw⟩

/-- Nobody but the responders and the clock goes on. -/
theorem Owned.setRespond (hs : Owned owner s) (caller : Nat) (next : NiRespond) :
    Owned owner (s.setRespond caller next) := by
  apply hs.quiet
  · rfl
  · intro payload place hplace
    cases place <;> exact hplace
  · rfl
  · rfl
  · exact fun name payload hclear hraw => ⟨hclear, hraw⟩

/-- The message task goes on, and keeps its request and its message or is done
with them. A reset leaves no request behind where it clears a session. -/
theorem Owned.goOn (hs : Owned owner s) {next : NiMsgTask}
    (hunsaved : next.unsaved = none ∨ next.unsaved = s.msgTask.unsaved)
    (hmsg : next.msg? = none ∨ next.msg? = s.msgTask.msg?)
    (hcleared : ∀ name, s.msgTask = .clearRequest name → (s.sessions name).rawRequest = none)
    (hclear : ∀ name, next = .clearRequest name → (s.sessions name).rawRequest = none) :
    Owned owner { s with msgTask := next } := by
  apply hs.quiet
  · rfl
  · intro payload place hplace
    cases place with
    | handler =>
        simp only [Holds] at hplace ⊢
        rcases hunsaved with hnone | hsame
        · rw [hnone] at hplace
          cases hplace
        · rwa [hsame] at hplace
    | session name =>
        -- A session that the reset has just cleared holds nothing.
        refine ⟨hplace.1, fun hclearing => ?_⟩
        have hraw := hcleared name hclearing
        rw [show (s.sessions name).rawRequest = some payload from hplace.1] at hraw
        cases hraw
    | msgTask =>
        simp only [Holds] at hplace ⊢
        rcases hmsg with hnone | hsame
        · rw [hnone] at hplace
          cases hplace
        · rwa [hsame] at hplace
    | thread | queue | gone => exact hplace
  · rfl
  · rfl
  · intro name payload hclearing hraw
    have hnone := hclear name hclearing
    rw [show (s.sessions name).rawRequest = some payload from hraw] at hnone
    cases hnone

/-- A statement of the message task that moves no payload. -/
theorem Owned.advance (hs : Owned owner s) {next : NiMsgTask}
    (hunsaved : next.unsaved = none ∨ next.unsaved = s.msgTask.unsaved)
    (hmsg : next.msg? = none ∨ next.msg? = s.msgTask.msg?)
    (hcleared : ∀ name, s.msgTask ≠ .clearRequest name)
    (hclear : ∀ name, next ≠ .clearRequest name) : Owned owner { s with msgTask := next } :=
  hs.goOn hunsaved hmsg (fun name hclearing => absurd hclearing (hcleared name))
    (fun name hclearing => absurd hclearing (hclear name))

/-- The counter has nothing to do with the payloads. -/
theorem Owned.setReqIDCounter (hs : Owned owner s) (reqIDCounter : Int) :
    Owned owner { s with reqIDCounter := reqIDCounter } := by
  apply hs.quiet
  · rfl
  · intro payload place hplace
    cases place <;> exact hplace
  · rfl
  · rfl
  · exact fun name payload hclear hraw => ⟨hclear, hraw⟩

end NiData

end Serrano.LocEng
