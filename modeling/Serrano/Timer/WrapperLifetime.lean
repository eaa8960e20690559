import Serrano.Foundation.Monitor
import Serrano.Timer.Deadlines
import Serrano.Timer.LocTimerWrapper
import Serrano.Timer.Outcomes

/-! # The lifetime of a timer handle

A wrapper is deleted by its own callback or by `loc_timer_stop`, whichever comes
first. Its members outlive neither, but both go on reading them. As long as each
stop finds its wrapper alive, and not in the hands of the message task, nobody
reads a deleted wrapper; a stop in between makes the message task read one.
-/

namespace Serrano.Timer

/-! ## What a step of the service does to the clients -/

/-- The client that is being stopped or called back. -/
def MsgTask.client? : MsgTask → Option Nat
  | .stop _ _ _ client | .timeOut _ _ client _ => some client
  | .receive | .updateSoonestTime .. | .setTime .. | .delete _ | .expire ..
  | .popIfOutRanks .. => none

namespace TimerService

variable {s s' : TimerService}

theorem mTimer_proc (s : TimerService) (msg : LocMsg) : (s.proc msg).mTimer = s.mTimer := by
  cases msg with
  | timerPush | timerRemove | timerExpire => rfl

theorem mTimer_updateSoonestTime (s : TimerService) (container : Bool)
    (priorTop doomed : Option LocTimerDelegate) :
    (s.updateSoonestTime container priorTop doomed).mTimer = s.mTimer := by
  unfold updateSoonestTime
  dsimp only
  split_ifs
  · rfl
  · split
    · rfl
    · split_ifs <;> rfl

theorem client_proc (s : TimerService) (msg : LocMsg) : (s.proc msg).msgTask.client? = none := by
  cases msg with
  | timerPush => rfl
  | timerRemove container mTimer =>
      simp only [proc]
      split_ifs <;> rfl
  | timerExpire container =>
      simp only [proc]
      split <;> rfl

theorem client_updateSoonestTime (s : TimerService) (container : Bool)
    (priorTop doomed : Option LocTimerDelegate) :
    (s.updateSoonestTime container priorTop doomed).msgTask.client? = none := by
  have hafter : (afterUpdate doomed).client? = none := by
    cases doomed <;> rfl
  unfold updateSoonestTime
  dsimp only
  split_ifs
  · exact hafter
  · split
    · rfl
    · split_ifs
      · rfl
      · exact hafter

/-- The message task starts no timer, and takes up none but the client of a
running one. -/
theorem clients_msgTaskStep (hs : s.holdings.Linked) (hstep : s.msgTaskStep = some s')
    (client : Nat) :
    (s'.mTimer client ≠ none → s.mTimer client ≠ none) ∧
      (s'.msgTask.client? = some client →
        s.msgTask.client? = some client ∨ s.mTimer client ≠ none) := by
  cases msgTaskStep_cases hstep with
  | receive msg rest hmsgTask hqueue =>
      rw [mTimer_proc, client_proc]
      exact ⟨id, fun hclient => by cases hclient⟩
  | updateSoonestTime container priorTop doomed hmsgTask =>
      rw [mTimer_updateSoonestTime, client_updateSoonestTime]
      exact ⟨id, fun hclient => by cases hclient⟩
  | setTime container delay doomed hmsgTask =>
      refine ⟨id, fun hclient => ?_⟩
      cases doomed <;> cases hclient
  | expire container timerOfNow timer found hmsgTask hfound =>
      refine ⟨id, fun hclient => .inr ?_⟩
      obtain rfl : found = client := Option.some.inj hclient
      rw [Option.bind_eq_some_iff] at hfound
      obtain ⟨links, hlinks, hmClient⟩ := hfound
      -- A delegate that knows its client is the one that client runs.
      obtain ⟨running, hrunning, -⟩ := hs.client timer.address found links.mContainer
        (by rw [← hmClient]; exact hlinks)
      intro hnone
      rw [show s.holdings.mTimer found = s.mTimer found from rfl, hnone] at hrunning
      cases hrunning
  | stop container timerOfNow timer found stopped hmsgTask hrunning =>
      obtain ⟨hquiet, -⟩ := quiet_stop s found
      refine ⟨fun hleft => ?_, fun hclient => .inl (by rw [hmsgTask]; exact hclient)⟩
      obtain ⟨running, hleft⟩ := Option.ne_none_iff_exists'.mp hleft
      rw [hquiet.mTimer client running hleft]
      exact Option.some_ne_none _
  | delete | expireReleased | stopIdle | timeOut | popNone | pop =>
      exact ⟨id, fun hclient => by cases hclient⟩

/-- What goes on beside the message task changes no client. -/
theorem clients_step {action : TimerAction}
    (haction : action = .pollTask ∨ (∃ time, action = .tick time) ∨
      ∃ events, action = .epollWait events) (hstep : s.step action = some s') :
    s'.mTimer = s.mTimer ∧ s'.msgTask = s.msgTask := by
  cases step_cases hstep with
  | tick | epollWait | timerfdSettime | removePoll | sendMsg => exact ⟨rfl, rfl⟩
  | start | stopIdle | stop | msgTask => simp at haction

theorem clients_stop (s : TimerService) (client : Nat) :
    ∃ s', s.step (.stop client) = some s' ∧ s'.msgTask = s.msgTask ∧
      s'.mTimer = Function.update s.mTimer client none := by
  obtain ⟨-, hmsgTask⟩ := quiet_stop s client
  have hmTimer : (s.stop client).1.mTimer = Function.update s.mTimer client none := by
    unfold stop
    split
    case h_1 hnone =>
      rw [← hnone, Function.update_eq_self]
    case h_2 timer hrunning =>
      obtain ⟨-, -, hmTimer, -, -⟩ := destroyLocked_frame
        { s with mTimer := Function.update s.mTimer client none } timer
      exact hmTimer
  simp only [step]
  split
  case h_1 stopped hstop =>
    rw [hstop] at hmsgTask hmTimer
    exact ⟨stopped, rfl, hmsgTask, hmTimer⟩
  case h_2 stopped timer hstop =>
    rw [hstop] at hmsgTask hmTimer
    exact ⟨_, rfl, hmsgTask, hmTimer⟩

theorem clients_start (s : TimerService) (client timeOutInMs : Nat) (wakeOnExpire : Bool) :
    (s.start client timeOutInMs wakeOnExpire).msgTask = s.msgTask ∧
      ∀ other, other ≠ client →
        (s.start client timeOutInMs wakeOnExpire).mTimer other = s.mTimer other := by
  unfold start
  split
  · exact ⟨rfl, fun _ _ => rfl⟩
  · exact ⟨rfl, fun other hother => Function.update_of_ne hother _ _⟩

end TimerService

/-! ## Lifetimes -/

/-- The event is a call of the callback of the wrapper. -/
def WrapperEvent.callsBack (wrapper : Nat) : WrapperEvent → Prop
  | .calledBack other _ _ => other = wrapper
  | .read _ | .deleted _ | .stopReturned _ => False

/-- The wrapper that the next step of a call is to `destroy`. -/
def Call.destroys : Call → Option Nat
  | .destroy _ wrapper => some wrapper
  | .idle | .answer .. | .forget .. => none

namespace WrapperService

open Monitor

/-- A wrapper is deleted once at most, none of its members is read after that,
and its callback is not made after a stop of its handle has returned. -/
structure Respected (log : List WrapperEvent) : Prop where
  deletedOnce : ∀ wrapper, log.count (.deleted wrapper) ≤ 1
  readAlive : ∀ wrapper, NeverAfter (· = .deleted wrapper) (· = .read wrapper) log
  silent : ∀ wrapper, NeverAfter (· = .stopReturned wrapper) (·.callsBack wrapper) log

/-- A stop that goes on to `destroy` does so before the wrapper was deleted, and
while the message task is neither stopping it nor in its `timeOutCallback`. -/
def StopsInTime (s : WrapperService) : WrapperAction → Prop
  | .proceed caller => ∀ wrapper ∈ (s.calls caller).destroys,
      s.Alive wrapper ∧ s.service.msgTask.client? ≠ some wrapper
  | .tick _ | .epollWait _ | .pollTask | .msgTask | .callbackReturns | .start .. | .stop .. => True

instance (s : WrapperService) : (action : WrapperAction) → Decidable (s.StopsInTime action)
  | .proceed caller => inferInstanceAs (Decidable (∀ wrapper ∈ (s.calls caller).destroys,
      s.Alive wrapper ∧ s.service.msgTask.client? ≠ some wrapper))
  | .tick _ | .epollWait _ | .pollTask | .msgTask | .callbackReturns | .start .. | .stop .. =>
      .isTrue trivial

/-- Nobody will refer to the wrapper any more. -/
def Gone (s : WrapperService) (wrapper : Nat) : Prop :=
  .deleted wrapper ∈ s.log ∨ .stopReturned wrapper ∈ s.log ∨
    ∃ caller slot, s.calls caller = .forget slot wrapper

/-- What is invariant but for the client in the hands of the message task. -/
structure Tracked (s : WrapperService) : Prop where
  account : s.service.KeepsAccount
  allocated : ∀ wrapper, s.Alive wrapper → wrapper < s.allocated
  running : ∀ wrapper, s.service.mTimer wrapper ≠ none → s.Alive wrapper
  gone : ∀ wrapper, s.Gone wrapper → wrapper < s.allocated ∧ ¬ s.Alive wrapper
  respected : Respected s.log

/-- What the guarded runs keep. -/
structure InHand (s : WrapperService) : Prop extends Tracked s where
  expiring : ∀ wrapper, s.service.msgTask.client? = some wrapper → s.Alive wrapper

variable {s s' : WrapperService}

theorem serve_eq_some {action : TimerAction} (hstep : s.serve action = some s') :
    ∃ service, s.service.step action = some service ∧ s' = { s with service := service } := by
  simp only [serve, Option.map_eq_some_iff] at hstep
  obtain ⟨service, hservice, rfl⟩ := hstep
  exact ⟨service, hservice, rfl⟩

theorem Respected.concat {log : List WrapperEvent} (hlog : Respected log) {event : WrapperEvent}
    (hused : ∀ wrapper, event = .read wrapper ∨ event = .deleted wrapper → .deleted wrapper ∉ log)
    (hcalled : ∀ wrapper, event.callsBack wrapper → .stopReturned wrapper ∉ log) :
    Respected (log ++ [event]) := by
  constructor
  · intro wrapper
    simp only [List.count_append, List.count_singleton, beq_iff_eq]
    split_ifs with hevent
    · rw [List.count_eq_zero.mpr (hused wrapper (.inr hevent))]
    · exact hlog.deletedOnce wrapper
  · intro wrapper
    apply (hlog.readAlive wrapper).concat
    rintro hread earlier hmem rfl
    exact hused wrapper (.inl hread) hmem
  · intro wrapper
    apply (hlog.silent wrapper).concat
    rintro hcalls earlier hmem rfl
    exact hcalled wrapper hcalls hmem

/-- Reading an alive wrapper, or making its callback, is harmless. -/
theorem Tracked.use (hs : s.Tracked) {wrapper : Nat} (halive : s.Alive wrapper)
    {event : WrapperEvent}
    (hevent : event = .read wrapper ∨ ∃ cb callerData, event = .calledBack wrapper cb callerData) :
    (s.record event).Tracked := by
  have hgone : ¬ s.Gone wrapper := fun hgone => (hs.gone wrapper hgone).2 halive
  refine ⟨hs.account, hs.allocated, hs.running, ?_, hs.respected.concat ?_ ?_⟩
  · intro other hother
    apply hs.gone other
    rcases hevent with rfl | ⟨cb, callerData, rfl⟩
    all_goals simpa [Gone, WrapperService.record, goOn] using hother
  · rintro other (heq | heq) hmem
    all_goals
      rcases hevent with hevent | ⟨cb, callerData, hevent⟩
      all_goals
        rw [hevent] at heq
        cases heq
    exact hgone (.inl hmem)
  · intro other hcalls hmem
    rcases hevent with rfl | ⟨cb, callerData, rfl⟩
    · cases hcalls
    · obtain rfl : wrapper = other := hcalls
      exact hgone (.inr (.inl hmem))

theorem Tracked.withService (hs : s.Tracked) {service : TimerService}
    (haccount : service.KeepsAccount)
    (hmTimer : ∀ client, service.mTimer client ≠ none → s.service.mTimer client ≠ none) :
    { s with service := service }.Tracked :=
  ⟨haccount, hs.allocated, fun client hrunning => hs.running client (hmTimer client hrunning),
    hs.gone, hs.respected⟩

theorem Tracked.withTimeOut (hs : s.Tracked) (timeOut : TimeOutCallback) :
    { s with timeOut := timeOut }.Tracked :=
  ⟨hs.account, hs.allocated, hs.running, hs.gone, hs.respected⟩

/-- A caller that has not to forget a handle may go anywhere. -/
theorem Tracked.goOn (hs : s.Tracked) (caller : Caller) (call : Call)
    (hcall : ∀ slot wrapper, call = .forget slot wrapper →
      wrapper < s.allocated ∧ ¬ s.Alive wrapper) : (s.goOn caller call).Tracked := by
  refine ⟨hs.account, hs.allocated, hs.running, ?_, hs.respected⟩
  rintro wrapper (hdeleted | hreturned | ⟨other, slot, hforget⟩)
  · exact hs.gone wrapper (.inl hdeleted)
  · exact hs.gone wrapper (.inr (.inl hreturned))
  · by_cases hother : other = caller
    · subst hother
      simp only [WrapperService.goOn, Function.update_self] at hforget
      exact hcall slot wrapper hforget
    · simp only [WrapperService.goOn, Function.update_of_ne hother] at hforget
      exact hs.gone wrapper (.inr (.inr ⟨other, slot, hforget⟩))

theorem Tracked.stopReturned (hs : s.Tracked) (wrapper : Nat)
    (hgone : wrapper < s.allocated ∧ ¬ s.Alive wrapper) :
    (s.record (.stopReturned wrapper)).Tracked := by
  refine ⟨hs.account, hs.allocated, hs.running, ?_, hs.respected.concat ?_ ?_⟩
  · intro other hother
    by_cases hsame : other = wrapper
    · exact hsame ▸ hgone
    · apply hs.gone other
      simpa [Gone, WrapperService.record, hsame] using hother
  · rintro other (heq | heq)
    all_goals cases heq
  · exact fun other hcalls => hcalls.elim

theorem alive_setMembers (s : WrapperService) (wrapper : Nat) (members : LocTimerWrapper)
    (other : Nat) : (s.setMembers wrapper members).Alive other ↔
      if other = wrapper then members.alive wrapper = true else s.Alive other := by
  split_ifs with hother
  · subst hother
    simp [Alive, setMembers]
  · simp [Alive, setMembers, Function.update_of_ne hother]

/-- Clearing the members of an alive wrapper kills it and no other. -/
theorem Tracked.deleted (hs : s.Tracked) (wrapper : Nat) (halive : s.Alive wrapper)
    (members : LocTimerWrapper) {service : TimerService} (haccount : service.KeepsAccount)
    (hmTimer : service.mTimer = Function.update s.service.mTimer wrapper none) :
    { (s.record (.deleted wrapper)).setMembers wrapper
        { members with mCb := none, mMe := none } with service := service }.Tracked ∧
      ∀ other, (s.setMembers wrapper { members with mCb := none, mMe := none }).Alive other ↔
        other ≠ wrapper ∧ s.Alive other := by
  have hdead : ∀ other, (s.setMembers wrapper
      { members with mCb := none, mMe := none }).Alive other ↔
        other ≠ wrapper ∧ s.Alive other := by
    intro other
    rw [alive_setMembers]
    split_ifs with hother
    · simp [LocTimerWrapper.alive, hother]
    · simp [hother]
  refine ⟨⟨haccount, ?_, ?_, ?_, ?_⟩, hdead⟩
  -- The deleted wrapper runs no timer any more, so that only alive ones do.
  · exact fun other hother => hs.allocated other ((hdead other).mp hother).2
  · intro other hrunning
    simp only [hmTimer] at hrunning
    have hother : other ≠ wrapper := by
      rintro rfl
      simp at hrunning
    rw [Function.update_of_ne hother] at hrunning
    exact (hdead other).mpr ⟨hother, hs.running other hrunning⟩
  · intro other hgone
    by_cases hsame : other = wrapper
    · exact ⟨hsame ▸ hs.allocated wrapper halive, fun hother => ((hdead other).mp hother).1 hsame⟩
    · have hgone : s.Gone other := by
        simpa [Gone, WrapperService.record, setMembers, hsame] using hgone
      obtain ⟨hlt, hnot⟩ := hs.gone other hgone
      exact ⟨hlt, fun hother => hnot ((hdead other).mp hother).2⟩
  · apply hs.respected.concat
    · rintro other (heq | heq) hmem
      all_goals cases heq
      exact (hs.gone wrapper (.inl hmem)).2 halive
    · exact fun other hcalls => hcalls.elim

/-- `destroy` of an alive wrapper deletes it and nothing else. -/
theorem Tracked.destroy (hs : s.Tracked) {wrapper : Nat} (halive : s.Alive wrapper)
    (hstep : s.destroy wrapper = some s') :
    s'.Tracked ∧ wrapper < s'.allocated ∧ s'.service.msgTask = s.service.msgTask ∧
      ∀ other, s'.Alive other ↔ other ≠ wrapper ∧ s.Alive other := by
  obtain ⟨members, hmembers, hpasses⟩ : ∃ members, s.wrappers wrapper = some members ∧
      members.alive wrapper = true := by
    simpa [Alive, Option.any_eq_true] using halive
  have hread := hs.use halive (.inl rfl)
  obtain ⟨service, hstop, hmsgTask, hmTimer⟩ := s.service.clients_stop wrapper
  simp only [WrapperService.destroy, show (s.record (.read wrapper)).wrappers wrapper =
    some members from hmembers, hpasses, if_true] at hstep
  obtain ⟨service', hstop', rfl⟩ := serve_eq_some hstep
  obtain rfl : service = service' := Option.some.inj (hstop.symm.trans hstop')
  obtain ⟨htracked, hdead⟩ := hread.deleted wrapper halive members
    (hs.account.step hstop) hmTimer
  exact ⟨htracked, hs.allocated wrapper halive, hmsgTask, hdead⟩

/-! ## Steps -/

/-- A step of the service that neither starts nor takes up a client. -/
theorem InHand.serve (hs : s.InHand) {action : TimerAction} (hstep : s.serve action = some s')
    (hclients : ∀ service, s.service.step action = some service → ∀ client,
      (service.mTimer client ≠ none → s.service.mTimer client ≠ none) ∧
        (service.msgTask.client? = some client →
          s.service.msgTask.client? = some client ∨ s.service.mTimer client ≠ none)) :
    s'.InHand := by
  obtain ⟨service, hservice, rfl⟩ := serve_eq_some hstep
  have hclients := hclients service hservice
  refine ⟨hs.withService (hs.account.step hservice) fun client => (hclients client).1, ?_⟩
  intro client hclient
  rcases (hclients client).2 hclient with hbefore | hrunning
  · exact hs.expiring client hbefore
  · exact hs.running client hrunning

theorem InHand.background (hs : s.InHand) {action : TimerAction}
    (haction : action = .pollTask ∨ (∃ time, action = .tick time) ∨
      ∃ events, action = .epollWait events) (hstep : s.serve action = some s') : s'.InHand := by
  apply hs.serve hstep
  intro service hservice client
  obtain ⟨hmTimer, hmsgTask⟩ := TimerService.clients_step haction hservice
  rw [hmTimer, hmsgTask]
  exact ⟨id, .inl⟩

theorem Tracked.linked (hs : s.Tracked) : s.service.holdings.Linked := by
  obtain ⟨table, hkept⟩ := hs.account.kept
  exact hkept.linked

theorem InHand.serveMsgTask (hs : s.InHand) (hstep : s.serve .msgTask = some s') : s'.InHand :=
  hs.serve hstep fun _ hservice => TimerService.clients_msgTaskStep hs.linked hservice

/-- Once its callback is done with a client, the message task lets go of it. -/
theorem Tracked.serveTimeOut (hs : s.Tracked) {container : Bool} {timerOfNow : TimeSpec}
    {client : Nat} {stopped : LocTimerDelegate}
    (hmsgTask : s.service.msgTask = .timeOut container timerOfNow client stopped)
    (hstep : s.serve .msgTask = some s') : s'.InHand := by
  obtain ⟨service, hservice, rfl⟩ := serve_eq_some hstep
  refine ⟨hs.withService (hs.account.step hservice) fun other =>
    (TimerService.clients_msgTaskStep hs.linked hservice other).1, ?_⟩
  simp only [TimerService.step, TimerService.msgTaskStep, hmsgTask, Option.some.injEq] at hservice
  subst hservice
  exact fun _ hclient => by cases hclient

theorem InHand.timeOutCallback (hs : s.InHand) {container : Bool} {timerOfNow : TimeSpec}
    {client : Nat} {stopped : LocTimerDelegate}
    (hmsgTask : s.service.msgTask = .timeOut container timerOfNow client stopped)
    (hstep : s.timeOutCallback client = some s') : s'.InHand := by
  have halive : s.Alive client := hs.expiring client (by rw [hmsgTask]; rfl)
  have hread := hs.use halive (.inl rfl)
  cases htimeOut : s.timeOut with
  | load =>
      simp only [WrapperService.timeOutCallback, htimeOut] at hstep
      split at hstep
      all_goals
        obtain rfl := Option.some.inj hstep
        exact ⟨hread.withTimeOut _, hs.expiring⟩
  | invoke cb callerData =>
      simp only [WrapperService.timeOutCallback, htimeOut, Option.some.injEq] at hstep
      subst hstep
      have hcalled := hs.use halive (.inr ⟨cb, callerData, rfl⟩)
      exact ⟨hcalled.withTimeOut _, hs.expiring⟩
  | running => simp [WrapperService.timeOutCallback, htimeOut] at hstep
  | destroy =>
      simp only [WrapperService.timeOutCallback, htimeOut, Option.bind_eq_bind,
        Option.bind_eq_some_iff] at hstep
      obtain ⟨destroyed, hdestroy, hserve⟩ := hstep
      obtain ⟨htracked, -, hsame, -⟩ := hs.destroy halive hdestroy
      exact (htracked.withTimeOut .load).serveTimeOut (hsame.trans hmsgTask) hserve

theorem InHand.msgTaskStep (hs : s.InHand) (hstep : s.msgTaskStep = some s') : s'.InHand := by
  unfold WrapperService.msgTaskStep at hstep
  split at hstep
  case h_1 container timerOfNow timer client hmsgTask =>
    have halive : s.Alive client := hs.expiring client (by rw [hmsgTask]; rfl)
    have hread : (s.record (.read client)).InHand := ⟨hs.use halive (.inl rfl), hs.expiring⟩
    exact hread.serveMsgTask hstep
  case h_2 container timerOfNow client stopped hmsgTask =>
    exact hs.timeOutCallback hmsgTask hstep
  case h_3 => exact hs.serveMsgTask hstep

/-- A new wrapper is nobody's until its handle is answered. -/
theorem InHand.loc_timer_start (hs : s.InHand) {caller : Caller} {slot : Nat}
    {cb_func : Option Nat} {caller_data msec : Nat} {wake_on_expire : Bool}
    (hstep : s.loc_timer_start caller slot cb_func caller_data msec wake_on_expire = some s') :
    s'.InHand := by
  cases cb_func with
  | none =>
      obtain rfl := Option.some.inj hstep
      exact ⟨hs.goOn caller _ (fun _ _ hcall => by cases hcall), hs.expiring⟩
  | some cb =>
      obtain ⟨service, hservice, rfl⟩ := serve_eq_some hstep
      obtain ⟨hmsgTask, hothers⟩ :=
        s.service.clients_start s.allocated (msec % 2 ^ 32) wake_on_expire
      have hcalls := hs.goOn caller (.answer slot (some s.allocated))
        fun _ _ hcall => by cases hcall
      have halive : ∀ other, (s.setMembers s.allocated
          ⟨some cb, caller_data, some s.allocated⟩).Alive other ↔
            other = s.allocated ∨ s.Alive other := by
        intro other
        rw [alive_setMembers]
        split_ifs with hother
        · simp [LocTimerWrapper.alive, hother]
        · simp [hother]
      have hstarts : s.service.step (.start s.allocated (msec % 2 ^ 32) wake_on_expire) =
          some (s.service.start s.allocated (msec % 2 ^ 32) wake_on_expire) := rfl
      have haccount := hs.account.step hstarts
      obtain rfl := Option.some.inj hservice
      refine ⟨⟨haccount, ?_, ?_, ?_, ?_⟩, ?_⟩
      · intro other hother
        rcases (halive other).mp hother with hnew | hold
        · exact hnew ▸ Nat.lt_succ_self _
        · exact (hs.allocated other hold).trans (Nat.lt_succ_self _)
      · intro other hrunning
        apply (halive other).mpr
        by_cases hnew : other = s.allocated
        · exact .inl hnew
        · change (s.service.start s.allocated (msec % 2 ^ 32) wake_on_expire).mTimer other ≠ none
            at hrunning
          rw [hothers other hnew] at hrunning
          exact .inr (hs.running other hrunning)
      · intro other hgone
        have hgone : (s.goOn caller (.answer slot (some s.allocated))).Gone other := by
          simpa [Gone, WrapperService.record, WrapperService.goOn, setMembers] using hgone
        obtain ⟨hlt, hnot⟩ := hcalls.gone other hgone
        have hlt : other < s.allocated := hlt
        refine ⟨hlt.trans (Nat.lt_succ_self _), fun hother => ?_⟩
        rcases (halive other).mp hother with hnew | hold
        · omega
        · exact hnot hold
      · apply hs.respected.concat
        · -- Nothing is known of an address that was not allocated yet.
          rintro other (heq | heq) hmem
          all_goals cases heq
          exact absurd (hs.gone s.allocated (.inl hmem)).1 (Nat.lt_irrefl _)
        · exact fun other hcalls => hcalls.elim
      · intro other hclient
        change (s.service.start s.allocated (msec % 2 ^ 32) wake_on_expire).msgTask.client? =
          some other at hclient
        rw [hmsgTask] at hclient
        exact (halive other).mpr (.inr (hs.expiring other hclient))

/-- The next step of a call that stops its handle in time. -/
theorem InHand.proceed (hs : s.InHand) {caller : Caller} (hguard : s.StopsInTime (.proceed caller))
    (hstep : s.proceed caller = some s') : s'.InHand := by
  cases hcall : s.calls caller with
  | idle => simp [WrapperService.proceed, hcall] at hstep
  | answer slot handle =>
      simp only [WrapperService.proceed, hcall, Option.some.injEq] at hstep
      subst hstep
      have hnext := hs.goOn caller .idle fun _ _ hcall => by cases hcall
      exact ⟨⟨hnext.account, hnext.allocated, hnext.running, hnext.gone, hnext.respected⟩,
        hs.expiring⟩
  | destroy slot wrapper =>
      obtain ⟨halive, hidle⟩ := hguard wrapper (by rw [hcall]; rfl)
      simp only [WrapperService.proceed, hcall, Option.bind_eq_bind,
        Option.bind_eq_some_iff] at hstep
      obtain ⟨destroyed, hdestroy, hnext⟩ := hstep
      obtain rfl := Option.some.inj hnext
      obtain ⟨htracked, hlt, hmsgTask, hothers⟩ := hs.destroy halive hdestroy
      refine ⟨htracked.goOn caller _ ?_, ?_⟩
      · intro slot' wrapper' hforget
        obtain ⟨-, rfl⟩ := Call.forget.inj hforget
        exact ⟨hlt, fun halive' => ((hothers wrapper).mp halive').1 rfl⟩
      · -- The guard: the wrapper that was deleted is not the one in hand.
        intro client hclient
        rw [show (destroyed.goOn caller (.forget slot wrapper)).service.msgTask =
          s.service.msgTask from hmsgTask] at hclient
        refine (hothers client).mpr ⟨?_, hs.expiring client hclient⟩
        rintro rfl
        exact hidle hclient
  | forget slot wrapper =>
      simp only [WrapperService.proceed, hcall, Option.some.injEq] at hstep
      subst hstep
      have hgone := hs.gone wrapper (.inr (.inr ⟨caller, slot, hcall⟩))
      have hnext := (hs.goOn caller .idle fun _ _ hcall => by cases hcall).stopReturned
        wrapper hgone
      exact ⟨⟨hnext.account, hnext.allocated, hnext.running, hnext.gone, hnext.respected⟩,
        hs.expiring⟩

theorem InHand.step (hs : s.InHand) {action : WrapperAction} (hguard : s.StopsInTime action)
    (hstep : s.step action = some s') : s'.InHand := by
  cases action with
  | tick time => exact hs.background (.inr (.inl ⟨time, rfl⟩)) hstep
  | epollWait events => exact hs.background (.inr (.inr ⟨events, rfl⟩)) hstep
  | pollTask => exact hs.background (.inl rfl) hstep
  | msgTask => exact hs.msgTaskStep hstep
  | callbackReturns =>
      simp only [WrapperService.step] at hstep
      split_ifs at hstep
      obtain rfl := Option.some.inj hstep
      exact ⟨hs.withTimeOut .destroy, hs.expiring⟩
  | start caller slot cb_func caller_data msec wake_on_expire =>
      simp only [WrapperService.step] at hstep
      split_ifs at hstep
      exact hs.loc_timer_start hstep
  | stop caller slot =>
      simp only [WrapperService.step] at hstep
      split_ifs at hstep
      obtain rfl := Option.some.inj hstep
      unfold loc_timer_stop
      split
      · exact hs
      · exact ⟨hs.goOn caller _ (fun _ _ hcall => by cases hcall), hs.expiring⟩
  | proceed caller => exact hs.proceed hguard hstep

theorem inHand_initial (now : TimeSpec) : (initial now).InHand := by
  constructor
  · constructor
    · exact TimerService.keepsAccount_initial now
    · exact fun _ halive => by cases halive
    · exact fun _ hrunning => absurd rfl hrunning
    · rintro wrapper (hmem | hmem | ⟨caller, slot, hcall⟩)
      · cases hmem
      · cases hmem
      · cases hcall
    · exact ⟨fun _ => Nat.zero_le 1, fun _ => neverAfter_nil, fun _ => neverAfter_nil⟩
  · exact fun _ hclient => by cases hclient

/-- Runs in which every stop comes in time delete a wrapper once at most, read
none that was deleted, and call nobody back whose stop has returned. -/
theorem respected_of_stopsInTime (now : TimeSpec) (actions : List WrapperAction)
    (hguard : (system now).Guarded StopsInTime (initial now) actions) :
    (system now).Throughout (fun s => Respected s.log) (initial now) actions :=
  Transition.System.throughout_of_guarded InHand (fun _ hs => hs.respected)
    (fun _ _ _ hs hguard hstep => hs.step hguard hstep) (inHand_initial now) hguard

theorem respected_of_early_stop :
    (system TimerService.uptime).Throughout (fun s => Respected s.log)
      (initial TimerService.uptime) [.start (.thread 0) 0 (some 7) 9 5000 false,
        .proceed (.thread 0), .stop (.thread 0) 0, .proceed (.thread 0), .proceed (.thread 0)] :=
  respected_of_stopsInTime _ _ (by decide)

/-- A client that stops its timer while the message task is about to invoke the
callback deletes the wrapper; the callback comes after the stop, and another
read after that. -/
theorem stop_before_callback :
    ¬ (system TimerService.uptime).Throughout (fun s => Respected s.log)
      (initial TimerService.uptime) [.start (.thread 0) 0 (some 7) 9 0 false,
        .proceed (.thread 0), .msgTask, .msgTask, .msgTask, .epollWait [false], .pollTask,
        .pollTask, .pollTask, .msgTask, .msgTask, .msgTask, .msgTask, .stop (.thread 0) 0,
        .proceed (.thread 0), .proceed (.thread 0), .msgTask, .callbackReturns, .msgTask] := by
  apply Transition.System.not_throughout_of_any fun s => decide (s.log =
    [.read 0, .read 0, .read 0, .read 0, .deleted 0, .stopReturned 0, .calledBack 0 7 9, .read 0])
  · intro s hcheck hs
    have hread := hs.readAlive 0
    rw [of_decide_eq_true hcheck] at hread
    exact absurd hread (by decide)
  · decide

end WrapperService

end Serrano.Timer
