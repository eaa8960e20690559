import Mathlib.Data.List.Count
import Serrano.Timer.LocTimer

/-! # Who holds a delegate

A delegate is held by the client that runs it, by the queue, by a heap and by
the message task, one after another or several at once. `Holdings` is what is
left of the service when everything else is forgotten, and `Handover` lists the
ways in which it changes. Every step of the service is a handover.
-/

namespace Serrano.Timer

/-- Whoever holds a delegate: clients by `mTimer`, the queue, the heaps, and the
message task, which has popped it, will delete it, or will call its client back. -/
structure Holdings where
  mTimer : Nat → Option LocTimerDelegate
  links : Nat → Option DelegateLinks
  allocated : Nat
  queue : List LocMsg
  heap : Bool → SortedHeap LocTimerDelegate.ranking
  popped : Option LocTimerDelegate
  doomed : Option LocTimerDelegate
  calling : Option LocTimerDelegate
  log : List TimerEvent

namespace MsgTask

/-- The timer that was popped and is being expired. -/
def popped : MsgTask → Option LocTimerDelegate
  | .expire _ _ timer | .stop _ _ timer _ => some timer
  | .receive | .updateSoonestTime .. | .setTime .. | .delete _ | .timeOut ..
  | .popIfOutRanks .. => none

/-- The timer that is deleted at the end of the message. -/
def doomed : MsgTask → Option LocTimerDelegate
  | .updateSoonestTime _ _ doomed | .setTime _ _ doomed => doomed
  | .delete mTimer => some mTimer
  | .receive | .expire .. | .stop .. | .timeOut .. | .popIfOutRanks .. => none

/-- The timer that was stopped for its callback. -/
def calling : MsgTask → Option LocTimerDelegate
  | .timeOut _ _ _ stopped => some stopped
  | .receive | .updateSoonestTime .. | .setTime .. | .delete _ | .expire .. | .stop ..
  | .popIfOutRanks .. => none

end MsgTask

def TimerService.holdings (s : TimerService) : Holdings where
  mTimer := s.mTimer
  links := s.links
  allocated := s.allocated
  queue := s.queue
  heap b := (s.container b).heap
  popped := s.msgTask.popped
  doomed := s.msgTask.doomed
  calling := s.msgTask.calling
  log := s.log

namespace Holdings

/-- A running timer and its delegate know each other. -/
structure Linked (h : Holdings) : Prop where
  running : ∀ client timer, h.mTimer client = some timer →
    ∃ container, h.links timer.address = some ⟨some client, some container⟩
  client : ∀ address client container, h.links address = some ⟨some client, container⟩ →
    ∃ timer, h.mTimer client = some timer ∧ timer.address = address

/-- A running timer is taken from its client and put up for removal. -/
def takeDown (h : Holdings) (client : Nat) (timer : LocTimerDelegate) (container : Bool) :
    Holdings :=
  { h with
    mTimer := Function.update h.mTimer client none
    links := Function.update h.links timer.address (some ⟨none, none⟩)
    queue := h.queue ++ [.timerRemove container timer] }

/-- What a step can do to the holdings. -/
inductive Handover : Holdings → Holdings → Prop
  | idle (h : Holdings) : Handover h h
  | sendExpire (h : Holdings) (container : Bool) :
      Handover h { h with queue := h.queue ++ [.timerExpire container] }
  | start (h : Holdings) (client : Nat) (startTime : TimeSpec) (timeOutInMs : Nat)
      (container : Bool) (hstopped : h.mTimer client = none) :
      Handover h { h with
        mTimer := Function.update h.mTimer client
          (some ⟨h.allocated, startTime.futureTime timeOutInMs⟩)
        links := Function.update h.links h.allocated (some ⟨some client, some container⟩)
        allocated := h.allocated + 1
        queue := h.queue ++
          [.timerPush container ⟨h.allocated, startTime.futureTime timeOutInMs⟩]
        log := h.log ++ [.started client h.allocated startTime timeOutInMs] }
  | stop (h : Holdings) (client : Nat) (timer : LocTimerDelegate) (container : Bool)
      (hrunning : h.mTimer client = some timer)
      (hlinks : h.links timer.address = some ⟨some client, some container⟩) :
      Handover h { h.takeDown client timer container with
        log := h.log ++ [.stopped client timer.address] }
  | expire (h : Holdings) (client : Nat) (timer : LocTimerDelegate) (container : Bool)
      (hrunning : h.mTimer client = some timer)
      (hlinks : h.links timer.address = some ⟨some client, some container⟩)
      (hidle : h.calling = none) :
      Handover h { h.takeDown client timer container with popped := none, calling := some timer }
  | callBack (h : Holdings) (client : Nat) (timer : LocTimerDelegate) (time : TimeSpec)
      (hcalling : h.calling = some timer) :
      Handover h { h with
        calling := none, log := h.log ++ [.timedOut client timer.address time] }
  | push (h : Holdings) (container : Bool) (timer : LocTimerDelegate) (rest : List LocMsg)
      (hqueue : h.queue = .timerPush container timer :: rest) :
      Handover h { h with
        queue := rest
        heap := Function.update h.heap container ((h.heap container).push timer)
        log := h.log ++ [.pushed timer.address] }
  | remove (h : Holdings) (container : Bool) (timer : LocTimerDelegate) (rest : List LocMsg)
      (hqueue : h.queue = .timerRemove container timer :: rest) (hidle : h.doomed = none) :
      Handover h { h with
        queue := rest
        heap := Function.update h.heap container ((h.heap container).remove timer).1
        doomed := some timer }
  | takeExpire (h : Holdings) (container : Bool) (rest : List LocMsg)
      (hqueue : h.queue = .timerExpire container :: rest) :
      Handover h { h with
        queue := rest
        heap := Function.update h.heap container (h.heap container).pop.1
        popped := (h.heap container).pop.2 }
  | popNext (h : Holdings) (container : Bool) :
      Handover h { h with
        heap := Function.update h.heap container (h.heap container).pop.1
        popped := (h.heap container).pop.2 }
  | release (h : Holdings) : Handover h { h with popped := none }
  | delete (h : Holdings) (timer : LocTimerDelegate) (hdoomed : h.doomed = some timer)
      (hidle : h.popped = none) :
      Handover h { h with
        links := Function.update h.links timer.address none
        doomed := none
        log := h.log ++ [.deleted timer.address] }

end Holdings

namespace TimerService

open Holdings

variable {s s' : TimerService}

theorem holdings_setHeap (s : TimerService) (container : Bool)
    (heap : SortedHeap LocTimerDelegate.ranking) :
    (s.setHeap container heap).holdings =
      { s.holdings with heap := Function.update s.holdings.heap container heap } := by
  have hheap : (fun b => ((s.setHeap container heap).container b).heap) =
      Function.update s.holdings.heap container heap := by
    funext b
    by_cases hb : b = container
    · subst hb
      simp [setHeap]
    · simp [setHeap, hb, holdings]
  simpa only [holdings, Holdings.mk.injEq, setHeap, true_and, and_true] using hheap

theorem holdings_timerfdSettime (s : TimerService) (container : Bool)
    (itValue : Option TimeSpec) : (s.timerfdSettime container itValue).holdings = s.holdings := by
  have hheap : (fun b => ((s.timerfdSettime container itValue).container b).heap) =
      s.holdings.heap := by
    funext b
    by_cases hb : b = container
    · subst hb
      simp [timerfdSettime, holdings]
    · simp [timerfdSettime, hb, holdings]
  simpa only [holdings, Holdings.mk.injEq, timerfdSettime, true_and, and_true] using hheap

theorem holdings_setPoll (s : TimerService) (container polled : Bool) :
    (s.setPoll container polled).holdings = s.holdings := by
  have hheap : (fun b => ((s.setPoll container polled).container b).heap) = s.holdings.heap := by
    funext b
    by_cases hb : b = container
    · subst hb
      simp [setPoll, holdings]
    · simp [setPoll, hb, holdings]
  simpa only [holdings, Holdings.mk.injEq, setPoll, true_and, and_true] using hheap

theorem holdings_withMsgTask (s : TimerService) (msgTask : MsgTask) :
    { s with msgTask := msgTask }.holdings =
      { s.holdings with
        popped := msgTask.popped, doomed := msgTask.doomed, calling := msgTask.calling } := rfl

theorem doomed_afterUpdate (doomed : Option LocTimerDelegate) :
    (afterUpdate doomed).doomed = doomed ∧ (afterUpdate doomed).popped = none ∧
      (afterUpdate doomed).calling = none := by
  cases doomed with
  | none => exact ⟨rfl, rfl, rfl⟩
  | some mTimer => exact ⟨rfl, rfl, rfl⟩

/-- `stop` of a linked client takes its timer down. -/
theorem holdings_stop (hs : s.holdings.Linked) {client : Nat} {timer : LocTimerDelegate}
    (hrunning : s.mTimer client = some timer) :
    ∃ container, s.links timer.address = some ⟨some client, some container⟩ ∧
      (s.stop client).1.msgTask = s.msgTask ∧
      (s.stop client).1.holdings = s.holdings.takeDown client timer container := by
  obtain ⟨container, hlinks⟩ := hs.running client timer hrunning
  have hlinks : s.links timer.address = some ⟨some client, some container⟩ := hlinks
  refine ⟨container, hlinks, ?_, ?_⟩
  · simp only [stop, hrunning, destroyLocked, hlinks]
  · simp only [stop, hrunning, destroyLocked, hlinks]
    rfl

/-- The first step of a message takes it from the queue and changes one heap. -/
theorem handover_proc {msg : LocMsg} {rest : List LocMsg} (hreceive : s.msgTask = .receive)
    (hqueue : s.queue = msg :: rest) :
    Handover s.holdings ((s.taking msg rest).proc msg).holdings := by
  have hdoomed : s.holdings.doomed = none := congrArg MsgTask.doomed hreceive
  have hpopped : s.holdings.popped = none := congrArg MsgTask.popped hreceive
  have hcalling : s.holdings.calling = none := congrArg MsgTask.calling hreceive
  have htaken : (s.taking msg rest).holdings = { s.holdings with queue := rest } := rfl
  cases msg with
  | timerPush container mTimer =>
      have hnext : ((s.taking (.timerPush container mTimer) rest).proc
          (.timerPush container mTimer)).holdings = { s.holdings with
            queue := rest
            heap := Function.update s.holdings.heap container
              ((s.holdings.heap container).push mTimer)
            log := s.holdings.log ++ [.pushed mTimer.address] } := by
        have hheap := holdings_setHeap ((s.taking (.timerPush container mTimer) rest).record
          (.pushed mTimer.address)) container ((s.container container).heap.push mTimer)
        simp only [holdings, Holdings.mk.injEq] at hheap hdoomed hpopped hcalling ⊢
        refine ⟨rfl, rfl, rfl, rfl, hheap.2.2.2.2.1, hpopped.symm, hdoomed.symm, hcalling.symm, rfl⟩
      rw [hnext]
      exact .push s.holdings container mTimer rest hqueue
  | timerRemove container mTimer =>
      have hnext : ((s.taking (.timerRemove container mTimer) rest).proc
          (.timerRemove container mTimer)).holdings = { s.holdings with
            queue := rest
            heap := Function.update s.holdings.heap container
              ((s.holdings.heap container).remove mTimer).1
            doomed := some mTimer } := by
        have hheap := holdings_setHeap (s.taking (.timerRemove container mTimer) rest) container
          ((s.container container).heap.remove mTimer).1
        simp only [holdings, Holdings.mk.injEq] at hheap hdoomed hpopped hcalling ⊢
        have hmsgTask : ∀ msgTask : MsgTask,
            msgTask = .updateSoonestTime container none (some mTimer) ∨
              msgTask = .delete mTimer →
            msgTask.popped = s.msgTask.popped ∧ msgTask.doomed = some mTimer ∧
              msgTask.calling = s.msgTask.calling := by
          rintro _ (rfl | rfl)
          all_goals exact ⟨hpopped.symm, rfl, hcalling.symm⟩
        obtain ⟨hp, hd, hc⟩ := hmsgTask _ (ite_eq_or_eq (s.getSoonestTimer container =
          ((s.container container).heap.remove mTimer).2) _ _)
        exact ⟨rfl, rfl, rfl, rfl, hheap.2.2.2.2.1, hp, hd, hc, rfl⟩
      rw [hnext]
      exact .remove s.holdings container mTimer rest hqueue hdoomed
  | timerExpire container =>
      have hnext : ((s.taking (.timerExpire container) rest).proc
          (.timerExpire container)).holdings = { s.holdings with
            queue := rest
            heap := Function.update s.holdings.heap container (s.holdings.heap container).pop.1
            popped := (s.holdings.heap container).pop.2 } := by
        have hheap := holdings_setHeap (s.taking (.timerExpire container) rest) container
          (s.container container).heap.pop.1
        simp only [holdings, Holdings.mk.injEq] at hheap hdoomed hpopped hcalling ⊢
        refine ⟨rfl, rfl, rfl, rfl, hheap.2.2.2.2.1, ?_, ?_, ?_, rfl⟩
        all_goals
          simp only [proc, taking]
          cases (s.container container).heap.pop.2 with
          | none => first | rfl | exact hdoomed.symm | exact hcalling.symm
          | some timer => first | rfl | exact hdoomed.symm | exact hcalling.symm
      rw [hnext]
      exact .takeExpire s.holdings container rest hqueue

/-- Going on to a place where the same timers are held. -/
theorem holdings_goOn {old msgTask : MsgTask} (hmsgTask : s.msgTask = old)
    (hpopped : msgTask.popped = old.popped) (hdoomed : msgTask.doomed = old.doomed)
    (hcalling : msgTask.calling = old.calling) :
    { s with msgTask := msgTask }.holdings = s.holdings := by
  simp only [holdings, hmsgTask, hpopped, hdoomed, hcalling]

theorem holdings_updateSoonestTime {container : Bool} {priorTop doomed : Option LocTimerDelegate}
    (hmsgTask : s.msgTask = .updateSoonestTime container priorTop doomed) :
    (s.updateSoonestTime container priorTop doomed).holdings = s.holdings := by
  obtain ⟨hdoomed, hpopped, hcalling⟩ := doomed_afterUpdate doomed
  have hafter : { s with msgTask := afterUpdate doomed }.holdings = s.holdings :=
    holdings_goOn hmsgTask hpopped hdoomed hcalling
  have hset : ∀ polled delay, { s.setPoll container polled with
      msgTask := .setTime container delay doomed }.holdings = s.holdings := by
    intro polled delay
    rw [← holdings_setPoll s container polled]
    have hsame : (s.setPoll container polled).msgTask =
        .updateSoonestTime container priorTop doomed := hmsgTask
    exact holdings_goOn hsame rfl rfl rfl
  unfold updateSoonestTime
  dsimp only
  split_ifs
  · exact hafter
  · split
    · exact hset false none
    · split_ifs
      · exact hset true _
      · exact hafter

/-- The expiry has done with the timer it popped. -/
theorem holdings_released {container : Bool} {timerOfNow : TimeSpec}
    (hmsgTask : (∃ timer, s.msgTask = .expire container timerOfNow timer) ∨
      ∃ timer client, s.msgTask = .stop container timerOfNow timer client) :
    { s with msgTask := .popIfOutRanks container timerOfNow }.holdings =
      { s.holdings with popped := none } := by
  obtain ⟨timer, hmsgTask⟩ | ⟨timer, client, hmsgTask⟩ := hmsgTask
  all_goals
    simp only [holdings, hmsgTask, MsgTask.popped, MsgTask.doomed, MsgTask.calling]

theorem handover_msgTaskStep (hs : s.holdings.Linked) (hstep : s.msgTaskStep = some s') :
    Handover s.holdings s'.holdings := by
  cases msgTaskStep_cases hstep with
  | receive msg rest hmsgTask hqueue => exact handover_proc hmsgTask hqueue
  | updateSoonestTime container priorTop doomed hmsgTask =>
      rw [holdings_updateSoonestTime hmsgTask]
      exact .idle _
  | setTime container delay doomed hmsgTask =>
      obtain ⟨hdoomed, hpopped, hcalling⟩ := doomed_afterUpdate doomed
      have hsame : { s.timerfdSettime container delay with
          msgTask := afterUpdate doomed }.holdings = s.holdings := by
        rw [← holdings_timerfdSettime s container delay]
        have hset : (s.timerfdSettime container delay).msgTask =
            .setTime container delay doomed := hmsgTask
        exact holdings_goOn hset hpopped hdoomed hcalling
      rw [hsame]
      exact .idle _
  | delete mTimer hmsgTask =>
      have hnext : { s.record (.deleted mTimer.address) with
          links := Function.update s.links mTimer.address none
          msgTask := .receive }.holdings = { s.holdings with
            links := Function.update s.holdings.links mTimer.address none
            doomed := none
            log := s.holdings.log ++ [.deleted mTimer.address] } := by
        simp only [holdings, record, hmsgTask, MsgTask.popped, MsgTask.doomed, MsgTask.calling]
      rw [hnext]
      exact .delete s.holdings mTimer (congrArg MsgTask.doomed hmsgTask)
        (congrArg MsgTask.popped hmsgTask)
  | expireReleased container timerOfNow timer hmsgTask hclient =>
      rw [holdings_released (.inl ⟨timer, hmsgTask⟩)]
      exact .release _
  | expire container timerOfNow timer client hmsgTask hclient =>
      -- Reading `mClient` changes nothing yet.
      have hsame : { s with msgTask := .stop container timerOfNow timer client }.holdings =
          s.holdings := holdings_goOn hmsgTask rfl rfl rfl
      rw [hsame]
      exact .idle _
  | stopIdle container timerOfNow timer client hmsgTask hrunning =>
      rw [holdings_released (.inr ⟨timer, client, hmsgTask⟩)]
      exact .release _
  | stop container timerOfNow timer client stopped hmsgTask hrunning =>
      obtain ⟨home, hlinks, hsame, hdown⟩ := holdings_stop hs hrunning
      have hnext : { (s.stop client).1 with
          msgTask := .timeOut container timerOfNow client stopped }.holdings =
          { s.holdings.takeDown client stopped home with
            popped := none, calling := some stopped } := by
        rw [← hdown, holdings_withMsgTask]
        simp only [holdings, hsame, hmsgTask, MsgTask.popped, MsgTask.doomed, MsgTask.calling]
      rw [hnext]
      exact .expire s.holdings client stopped home hrunning hlinks
        (congrArg MsgTask.calling hmsgTask)
  | timeOut container timerOfNow client stopped hmsgTask =>
      have hnext : { s.record (.timedOut client stopped.address s.now) with
          msgTask := .popIfOutRanks container timerOfNow }.holdings = { s.holdings with
            calling := none
            log := s.holdings.log ++ [.timedOut client stopped.address s.now] } := by
        simp only [holdings, record, hmsgTask, MsgTask.popped, MsgTask.doomed, MsgTask.calling]
      rw [hnext]
      exact .callBack s.holdings client stopped s.now (congrArg MsgTask.calling hmsgTask)
  | popNone container timerOfNow hmsgTask =>
      have hsame : { s with msgTask := .updateSoonestTime container none none }.holdings =
          s.holdings := holdings_goOn hmsgTask rfl rfl rfl
      rw [hsame]
      exact .idle _
  | pop container timerOfNow top hmsgTask htop hdue =>
      have hanswer : (s.holdings.heap container).pop.2 = some top :=
        (SortedHeap.pop_answer _).trans htop
      have hnext : { s.setHeap container (s.container container).heap.pop.1 with
          msgTask := .expire container timerOfNow top }.holdings = { s.holdings with
            heap := Function.update s.holdings.heap container
              (s.holdings.heap container).pop.1
            popped := (s.holdings.heap container).pop.2 } := by
        rw [holdings_withMsgTask, holdings_setHeap, hanswer]
        simp only [holdings, hmsgTask, MsgTask.popped, MsgTask.doomed, MsgTask.calling]
      rw [hnext]
      exact .popNext s.holdings container

/-- Every step of the service is a handover. -/
theorem handover_step {action : TimerAction} (hs : s.holdings.Linked)
    (hstep : s.step action = some s') : Handover s.holdings s'.holdings := by
  cases step_cases hstep with
  | start client timeOutInMs wakeOnExpire =>
      cases hrunning : s.mTimer client with
      | some timer =>
          simp only [start, hrunning]
          exact .idle _
      | none =>
          simp only [start, hrunning]
          exact .start s.holdings client s.now timeOutInMs wakeOnExpire hrunning
  | stop client stopped hrunning =>
      obtain ⟨home, hlinks, -, hdown⟩ := holdings_stop hs hrunning
      have hlog : (s.stop client).1.log = s.holdings.log := congrArg Holdings.log hdown
      have hnext : ((s.stop client).1.record (.stopped client stopped.address)).holdings =
          { s.holdings.takeDown client stopped home with
            log := s.holdings.log ++ [.stopped client stopped.address] } := by
        rw [← hdown, ← hlog]
        rfl
      rw [hnext]
      exact .stop s.holdings client stopped home hrunning hlinks
  | tick | stopIdle | epollWait => exact .idle _
  | timerfdSettime container events hpollTask =>
      exact (holdings_timerfdSettime s container none).symm ▸ .idle s.holdings
  | removePoll container events hpollTask =>
      exact (holdings_setPoll s container false).symm ▸ .idle s.holdings
  | sendMsg container events hpollTask => exact .sendExpire s.holdings container
  | msgTask s' hstep => exact handover_msgTaskStep hs hstep

end TimerService

end Serrano.Timer
