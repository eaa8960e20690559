import Mathlib.Algebra.GroupWithZero.Nat
import Serrano.Timer.Lifecycle

/-! # The message task finishes

A message pushes one timer, or removes and deletes one, or pops timers one
after another and sends one removal at most for each. Whatever the clients have
sent, the message task comes to the end of its queue when it is left alone.
-/

namespace Serrano.Timer

/-- The steps that a message needs, those for the timer it pushes included. -/
def LocMsg.work : LocMsg → Nat
  | .timerPush .. => 12
  | .timerRemove .. | .timerExpire _ => 4

/-- The steps to the end of a message, those for the removal it sends included. -/
def MsgTask.work : MsgTask → Nat
  | .receive => 0
  | .delete _ => 1
  | .setTime .. => 2
  | .updateSoonestTime .. => 3
  | .popIfOutRanks .. => 4
  | .timeOut .. => 5
  | .stop .. => 10
  | .expire .. => 11

namespace TimerService

def timersHeld (s : TimerService) : Nat :=
  (s.container false).heap.elements.card + (s.container true).heap.elements.card

/-- A bound on the steps of the message task until it waits for messages. -/
def work (s : TimerService) : Nat :=
  (s.queue.map LocMsg.work).sum + 8 * s.timersHeld + s.msgTask.work

theorem work_withMsgTask (s : TimerService) (msgTask : MsgTask) :
    { s with msgTask := msgTask }.work =
      (s.queue.map LocMsg.work).sum + 8 * s.timersHeld + msgTask.work := rfl

theorem timersHeld_setHeap (s : TimerService) (container : Bool)
    (heap : SortedHeap LocTimerDelegate.ranking) :
    (s.setHeap container heap).timersHeld + (s.container container).heap.elements.card =
      s.timersHeld + heap.elements.card := by
  cases container <;> simp [timersHeld, setHeap] <;> omega

theorem card_pop (heap : SortedHeap LocTimerDelegate.ranking) :
    (heap.pop.2 = none ∧ heap.pop.1.elements.card = heap.elements.card) ∨
      ∃ top, heap.pop.2 = some top ∧ heap.pop.1.elements.card + 1 = heap.elements.card := by
  rcases Holdings.pop_cases heap with ⟨hnone, hsame⟩ | ⟨top, htop, helements⟩
  · exact .inl ⟨hnone, by rw [hsame]⟩
  · exact .inr ⟨top, htop, by rw [helements, Multiset.card_cons]⟩

theorem card_remove (heap : SortedHeap LocTimerDelegate.ranking) (timer : LocTimerDelegate) :
    (heap.remove timer).1.elements.card ≤ heap.elements.card := by
  rcases Holdings.remove_cases heap timer with ⟨-, hsame⟩ | helements
  · rw [hsame]
  · rw [helements, Multiset.card_cons]
    omega

theorem work_afterUpdate (doomed : Option LocTimerDelegate) : (afterUpdate doomed).work ≤ 1 := by
  cases doomed with
  | none => exact Nat.zero_le 1
  | some mTimer => exact le_rfl

theorem work_updateSoonestTime (s : TimerService) (container : Bool)
    (priorTop doomed : Option LocTimerDelegate) :
    let s' := s.updateSoonestTime container priorTop doomed
    s'.queue = s.queue ∧ s'.timersHeld = s.timersHeld ∧ s'.msgTask.work ≤ 2 := by
  have hafter := work_afterUpdate doomed
  have hpoll : ∀ polled, (s.setPoll container polled).timersHeld = s.timersHeld := by
    intro polled
    cases container <;> simp [timersHeld, setPoll]
  unfold updateSoonestTime
  dsimp only
  split_ifs
  · exact ⟨rfl, rfl, hafter.trans (Nat.le_succ 1)⟩
  · split
    · exact ⟨rfl, hpoll false, le_rfl⟩
    · split_ifs
      · exact ⟨rfl, hpoll true, le_rfl⟩
      · exact ⟨rfl, rfl, hafter.trans (Nat.le_succ 1)⟩

/-- Stopping sends one removal at most. -/
theorem work_stop (s : TimerService) (client : Nat) :
    ((s.stop client).1.queue.map LocMsg.work).sum ≤ (s.queue.map LocMsg.work).sum + 4 ∧
      (s.stop client).1.timersHeld = s.timersHeld := by
  unfold stop
  cases s.mTimer client with
  | none => exact ⟨Nat.le_add_right _ _, rfl⟩
  | some timer =>
      dsimp only
      unfold destroyLocked
      split
      · exact ⟨by simp [LocMsg.work], rfl⟩
      · exact ⟨Nat.le_add_right _ _, rfl⟩
      · exact ⟨Nat.le_add_right _ _, rfl⟩

theorem work_taking (s : TimerService) (msg : LocMsg) (rest : List LocMsg) :
    ((s.taking msg rest).proc msg).work = (rest.map LocMsg.work).sum +
      8 * ((s.taking msg rest).proc msg).timersHeld +
        ((s.taking msg rest).proc msg).msgTask.work := by
  cases msg <;> rfl

theorem work_proc (s : TimerService) (hreceive : s.msgTask = .receive) {msg : LocMsg}
    {rest : List LocMsg} (hqueue : s.queue = msg :: rest) :
    ((s.taking msg rest).proc msg).work < s.work := by
  have hwork : s.work = msg.work + (rest.map LocMsg.work).sum + 8 * s.timersHeld := by
    simp [work, hqueue, hreceive, MsgTask.work]
  rw [hwork, work_taking]
  -- The queue is shorter by the message; a push pays for the timer it adds.
  cases msg with
  | timerPush container mTimer =>
      have hheld : ((s.taking (.timerPush container mTimer) rest).proc
          (.timerPush container mTimer)).timersHeld +
            (s.container container).heap.elements.card =
          s.timersHeld + ((s.container container).heap.push mTimer).elements.card :=
        timersHeld_setHeap _ container _
      have helements : ((s.container container).heap.push mTimer).elements =
          mTimer ::ₘ (s.container container).heap.elements := LocHeap.elements_push _ _
      have htask : ((s.taking (.timerPush container mTimer) rest).proc
          (.timerPush container mTimer)).msgTask.work = 3 := rfl
      rw [helements, Multiset.card_cons] at hheld
      simp only [LocMsg.work]
      omega
  | timerRemove container mTimer =>
      have hheld : ((s.taking (.timerRemove container mTimer) rest).proc
          (.timerRemove container mTimer)).timersHeld +
            (s.container container).heap.elements.card =
          s.timersHeld + ((s.container container).heap.remove mTimer).1.elements.card :=
        timersHeld_setHeap _ container _
      have hless := card_remove (s.container container).heap mTimer
      have htask : ((s.taking (.timerRemove container mTimer) rest).proc
          (.timerRemove container mTimer)).msgTask.work ≤ 3 := by
        simp only [proc]
        split_ifs
        · exact le_rfl
        · exact Nat.le_of_ble_eq_true rfl
      simp only [LocMsg.work]
      omega
  | timerExpire container =>
      have hheld : ((s.taking (.timerExpire container) rest).proc
          (.timerExpire container)).timersHeld + (s.container container).heap.elements.card =
          s.timersHeld + (s.container container).heap.pop.1.elements.card :=
        timersHeld_setHeap _ container _
      simp only [LocMsg.work]
      rcases card_pop (s.container container).heap with ⟨hnone, hsame⟩ | ⟨top, htop, hless⟩
      · have htask : ((s.taking (.timerExpire container) rest).proc
            (.timerExpire container)).msgTask.work = 3 := by
          simp only [proc, taking, hnone, MsgTask.work]
        omega
      · have htask : ((s.taking (.timerExpire container) rest).proc
            (.timerExpire container)).msgTask.work = 11 := by
          simp only [proc, taking, htop, MsgTask.work]
        omega

/-- Each step of the message task leaves less to do. -/
theorem work_msgTaskStep {s s' : TimerService} (hstep : s.msgTaskStep = some s') :
    s'.work < s.work := by
  cases msgTaskStep_cases hstep with
  | receive msg rest hmsgTask hqueue => exact work_proc s hmsgTask hqueue
  | updateSoonestTime container priorTop doomed hmsgTask =>
      obtain ⟨hqueue, hheld, htask⟩ := work_updateSoonestTime s container priorTop doomed
      simp only [work, hqueue, hheld, hmsgTask, MsgTask.work] at htask ⊢
      omega
  | setTime container delay doomed hmsgTask =>
      have hheld : (s.timerfdSettime container delay).timersHeld = s.timersHeld := by
        cases container <;> simp [timersHeld, timerfdSettime]
      have hafter := work_afterUpdate doomed
      have hqueue : (s.timerfdSettime container delay).queue = s.queue := rfl
      have hwork : s.work = (s.queue.map LocMsg.work).sum + 8 * s.timersHeld + 2 := by
        rw [work, hmsgTask]
        rfl
      apply (work_withMsgTask _ _).trans_lt
      rw [hqueue]
      omega
  | delete mTimer hmsgTask | timeOut container timerOfNow client stopped hmsgTask =>
      simp [work, hmsgTask, MsgTask.work, record, timersHeld]
  | expireReleased container timerOfNow timer hmsgTask hclient
  | expire container timerOfNow timer client hmsgTask hclient
  | stopIdle container timerOfNow timer client hmsgTask hrunning
  | popNone container timerOfNow hmsgTask =>
      simp [work, hmsgTask, MsgTask.work, timersHeld]
  | stop container timerOfNow timer client stopped hmsgTask hrunning =>
      obtain ⟨hqueue, hheld⟩ := work_stop s client
      have hwork : s.work = (s.queue.map LocMsg.work).sum + 8 * s.timersHeld + 10 := by
        rw [work, hmsgTask]
        rfl
      apply (work_withMsgTask _ _).trans_lt
      simp only [MsgTask.work] at hqueue hheld ⊢
      omega
  | pop container timerOfNow top hmsgTask htop hdue =>
      have hwork : s.work = (s.queue.map LocMsg.work).sum + 8 * s.timersHeld + 4 := by
        rw [work, hmsgTask]
        rfl
      have hheld := timersHeld_setHeap s container (s.container container).heap.pop.1
      have hanswer : (s.container container).heap.pop.2 = some top :=
        (SortedHeap.pop_answer _).trans htop
      have hqueue : (s.setHeap container (s.container container).heap.pop.1).queue =
          s.queue := rfl
      apply (work_withMsgTask _ _).trans_lt
      rw [hqueue, MsgTask.work]
      rcases card_pop (s.container container).heap with ⟨hnone, -⟩ | ⟨-, -, hless⟩
      · rw [hanswer] at hnone
        cases hnone
      · omega

/-- Left alone, the message task works off the queue. -/
theorem msgTask_finishes (now : TimeSpec) (s : TimerService) :
    ∃ count s', (system now).runFrom s (List.replicate count .msgTask) = some s' ∧
      s'.msgTask = .receive ∧ s'.queue = [] := by
  -- The work that is left bounds the run.
  induction hwork : s.work using Nat.strong_induction_on generalizing s with
  | _ work ih =>
      cases hstep : s.msgTaskStep with
      | none =>
          refine ⟨0, s, rfl, ?_⟩
          cases hmsgTask : s.msgTask with
          | receive =>
              cases hqueue : s.queue with
              | nil => exact ⟨rfl, rfl⟩
              | cons msg rest => simp [msgTaskStep, hmsgTask, hqueue] at hstep
          | updateSoonestTime | setTime | delete | timeOut =>
              simp [msgTaskStep, hmsgTask] at hstep
          | expire | stop | popIfOutRanks =>
              simp only [msgTaskStep, hmsgTask] at hstep
              split at hstep <;> cases hstep
      | some next =>
          have hless := work_msgTaskStep hstep
          obtain ⟨count, s', hrun, hdone⟩ := ih next.work (hwork ▸ hless) next rfl
          refine ⟨count + 1, s', ?_, hdone⟩
          rw [List.replicate_succ, Transition.System.runFrom_cons]
          exact (congrArg (Option.bind · _) hstep).trans hrun

end TimerService

end Serrano.Timer
