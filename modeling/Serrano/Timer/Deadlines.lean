import Serrano.Timer.LocTimer

/-! # Callbacks and deadlines

A callback belongs to the start whose delegate the message task stopped for it.
An expiry pops the first timer without a look at the clock, and stops whatever
timer its client is running by then; a run in which neither matters calls no
client back before the deadline of its start.
-/

namespace Serrano.Timer

namespace TimerService

/-- Whoever was called back had been started, and is called at the deadline of
that start or later. -/
def CalledBackInTime (s : TimerService) : Prop :=
  ∀ client timer time, .timedOut client timer time ∈ s.log →
    (∃ startTime timeOutInMs, .started client timer startTime timeOutInMs ∈ s.log) ∧
      ∀ startTime timeOutInMs, .started client timer startTime timeOutInMs ∈ s.log →
        startTime.toNs + timeOutInMs * 1000000 ≤ time.toNs

/-- The next message is no expiry, or one whose container's soonest timer is due. -/
def PopsDue (s : TimerService) : List LocMsg → Prop
  | .timerExpire container :: _ =>
      ∀ top ∈ s.getSoonestTimer container, top.mFutureTime.toNs ≤ s.now.toNs
  | .timerPush .. :: _ | .timerRemove .. :: _ | [] => True

/-- An expired timer stops no other timer of its client. -/
def StopsOwn (s : TimerService) : MsgTask → Prop
  | .stop _ _ timer client => ∀ running ∈ s.mTimer client, running = timer
  | _ => True

/-- The steps that expire what is due: an expiry is processed when the soonest
timer is due, and stops no other timer than the one it expires. -/
def ExpiresDue (s : TimerService) (action : TimerAction) : Prop :=
  action = .msgTask → (s.msgTask = .receive → s.PopsDue s.queue) ∧ s.StopsOwn s.msgTask

instance (s : TimerService) : (queue : List LocMsg) → Decidable (s.PopsDue queue)
  | .timerExpire container :: _ => inferInstanceAs (Decidable
      (∀ top ∈ s.getSoonestTimer container, top.mFutureTime.toNs ≤ s.now.toNs))
  | .timerPush .. :: _ | .timerRemove .. :: _ | [] => .isTrue trivial

instance (s : TimerService) : (msgTask : MsgTask) → Decidable (s.StopsOwn msgTask)
  | .stop _ _ timer client =>
      inferInstanceAs (Decidable (∀ running ∈ s.mTimer client, running = timer))
  | .receive | .updateSoonestTime .. | .setTime .. | .delete _ | .expire .. | .timeOut ..
  | .popIfOutRanks .. => .isTrue trivial

instance (s : TimerService) (action : TimerAction) : Decidable (s.ExpiresDue action) :=
  inferInstanceAs (Decidable (_ → _))

/-- The start that a client's timer comes from is in the log, and is the one
its time was computed for. -/
def StartedAs (s : TimerService) (client : Nat) (timer : LocTimerDelegate) : Prop :=
  (∃ startTime timeOutInMs, .started client timer.address startTime timeOutInMs ∈ s.log) ∧
    ∀ startTime timeOutInMs, .started client timer.address startTime timeOutInMs ∈ s.log →
      startTime.toNs + timeOutInMs * 1000000 = timer.mFutureTime.toNs

/-- What the message task has established while it expires timers. -/
def HandlesDue (s : TimerService) : MsgTask → Prop
  | .expire _ timerOfNow timer | .stop _ timerOfNow timer _ =>
      timerOfNow.toNs ≤ s.now.toNs ∧ timer.mFutureTime.toNs ≤ s.now.toNs
  | .timeOut _ timerOfNow client stopped =>
      timerOfNow.toNs ≤ s.now.toNs ∧ stopped.mFutureTime.toNs ≤ s.now.toNs ∧
        s.StartedAs client stopped
  | .popIfOutRanks _ timerOfNow => timerOfNow.toNs ≤ s.now.toNs
  | .receive | .updateSoonestTime .. | .setTime .. | .delete _ => True

/-- What guarded runs keep. -/
structure InTime (s : TimerService) : Prop where
  fresh : ∀ client timer startTime timeOutInMs,
    .started client timer startTime timeOutInMs ∈ s.log → timer < s.allocated
  running : ∀ client timer, s.mTimer client = some timer → s.StartedAs client timer
  calledBack : s.CalledBackInTime
  msgTask : s.HandlesDue s.msgTask

section Steps

variable {s s' : TimerService}

/-- A step that starts nothing and calls nobody back. -/
structure Quiet (s s' : TimerService) : Prop where
  now : s.now.toNs ≤ s'.now.toNs
  allocated : s'.allocated = s.allocated
  mTimer : ∀ client timer, s'.mTimer client = some timer → s.mTimer client = some timer
  started : ∀ client timer startTime timeOutInMs,
    .started client timer startTime timeOutInMs ∈ s'.log ↔
      .started client timer startTime timeOutInMs ∈ s.log
  timedOut : ∀ client timer time, .timedOut client timer time ∈ s'.log →
    .timedOut client timer time ∈ s.log

theorem StartedAs.congr (hstarted : ∀ client timer startTime timeOutInMs,
    .started client timer startTime timeOutInMs ∈ s'.log ↔
      .started client timer startTime timeOutInMs ∈ s.log)
    {client : Nat} {timer : LocTimerDelegate} (hs : s.StartedAs client timer) :
    s'.StartedAs client timer := by
  simpa only [StartedAs, hstarted] using hs

theorem HandlesDue.mono (hquiet : Quiet s s') {msgTask : MsgTask}
    (hs : s.HandlesDue msgTask) : s'.HandlesDue msgTask := by
  have hnow := hquiet.now
  cases msgTask with
  | receive | updateSoonestTime | setTime | delete => trivial
  | expire | stop => exact ⟨hs.1.trans hnow, hs.2.trans hnow⟩
  | timeOut => exact ⟨hs.1.trans hnow, hs.2.1.trans hnow, hs.2.2.congr hquiet.started⟩
  | popIfOutRanks => exact Nat.le_trans hs hnow

theorem InTime.of_quiet (hs : s.InTime) (hquiet : Quiet s s')
    (hmsgTask : s'.HandlesDue s'.msgTask) : s'.InTime := by
  refine ⟨fun client timer startTime timeOutInMs hmem => ?_, fun client timer hrunning => ?_,
    fun client timer time hmem => ?_, hmsgTask⟩
  · rw [hquiet.allocated]
    exact hs.fresh _ _ _ _ ((hquiet.started _ _ _ _).mp hmem)
  · exact (hs.running client timer (hquiet.mTimer _ _ hrunning)).congr hquiet.started
  · simpa only [hquiet.started] using hs.calledBack client timer time (hquiet.timedOut _ _ _ hmem)

theorem Quiet.of_log (hnow : s'.now = s.now) (hallocated : s'.allocated = s.allocated)
    (hmTimer : s'.mTimer = s.mTimer) (hlog : s'.log = s.log) : Quiet s s' :=
  ⟨by rw [hnow], hallocated, fun client timer hrunning => hmTimer ▸ hrunning,
    fun _ _ _ _ => by rw [hlog], fun _ _ _ hmem => hlog ▸ hmem⟩

theorem Quiet.withMsgTask (hquiet : Quiet s s') {msgTask : MsgTask} :
    Quiet s { s' with msgTask := msgTask } :=
  ⟨hquiet.now, hquiet.allocated, hquiet.mTimer, hquiet.started, hquiet.timedOut⟩

theorem destroyLocked_frame (s : TimerService) (timer : LocTimerDelegate) :
    (s.destroyLocked timer).now = s.now ∧ (s.destroyLocked timer).allocated = s.allocated ∧
      (s.destroyLocked timer).mTimer = s.mTimer ∧ (s.destroyLocked timer).log = s.log ∧
      (s.destroyLocked timer).msgTask = s.msgTask := by
  fun_cases destroyLocked s timer with
  | case1 | case2 | case3 => exact ⟨rfl, rfl, rfl, rfl, rfl⟩

theorem quiet_stop (s : TimerService) (client : Nat) :
    Quiet s (s.stop client).1 ∧ (s.stop client).1.msgTask = s.msgTask := by
  unfold stop
  split
  case h_1 hnone => exact ⟨.of_log rfl rfl rfl rfl, rfl⟩
  case h_2 timer hsome =>
    obtain ⟨hnow, hallocated, hmTimer, hlog, hmsgTask⟩ := destroyLocked_frame
      { s with mTimer := Function.update s.mTimer client none } timer
    refine ⟨⟨by rw [hnow], hallocated, fun other running hrunning => ?_, fun _ _ _ _ => by rw [hlog],
      fun _ _ _ hmem => hlog ▸ hmem⟩, hmsgTask⟩
    rw [hmTimer] at hrunning
    by_cases hother : other = client
    · rw [hother] at hrunning
      simp at hrunning
    · simpa only [Function.update_of_ne hother] using hrunning

/-- A new start takes an address that no start before it has. -/
theorem inTime_start (hs : s.InTime) (client timeOutInMs : Nat) (wakeOnExpire : Bool) :
    (s.start client timeOutInMs wakeOnExpire).InTime := by
  cases hrunning : s.mTimer client with
  | some timer =>
      have hsame : s.start client timeOutInMs wakeOnExpire = s := by
        simp only [start, hrunning]
      rwa [hsame]
  | none =>
      have hlog : ∀ event, event ∈ (s.start client timeOutInMs wakeOnExpire).log ↔
          event ∈ s.log ∨ event = .started client s.allocated s.now timeOutInMs := by
        intro event
        simp [start, hrunning]
      have hold : ∀ other timer startTime delay, timer < s.allocated →
          (.started other timer startTime delay ∈ (s.start client timeOutInMs wakeOnExpire).log ↔
            .started other timer startTime delay ∈ s.log) := by
        intro other timer startTime delay htimer
        rw [hlog]
        refine ⟨fun hmem => hmem.resolve_right ?_, .inl⟩
        rintro ⟨⟩
        omega
      have hstarted : ∀ other timer, s.StartedAs other timer →
          (s.start client timeOutInMs wakeOnExpire).StartedAs other timer := by
        rintro other timer ⟨⟨startTime, delay, hmem⟩, hall⟩
        have haddress := hs.fresh _ _ _ _ hmem
        exact ⟨⟨startTime, delay, (hold _ _ _ _ haddress).mpr hmem⟩,
          fun startTime delay hentry => hall startTime delay ((hold _ _ _ _ haddress).mp hentry)⟩
      refine ⟨fun other timer startTime delay hmem => ?_, fun other timer hother => ?_,
        fun other timer time hmem => ?_, ?_⟩
      · have hallocated : (s.start client timeOutInMs wakeOnExpire).allocated =
            s.allocated + 1 := by
          simp only [start, hrunning]
        rw [hallocated]
        rcases (hlog _).mp hmem with hmem | hmem
        · exact Nat.lt_succ_of_lt (hs.fresh _ _ _ _ hmem)
        · cases hmem
          omega
      · have hmTimer : Function.update s.mTimer client
            (some ⟨s.allocated, s.now.futureTime timeOutInMs⟩) other = some timer := by
          simpa only [start, hrunning] using hother
        by_cases hclient : other = client
        · rw [hclient, Function.update_self, Option.some.injEq] at hmTimer
          subst hclient hmTimer
          refine ⟨⟨s.now, timeOutInMs, (hlog _).mpr (.inr rfl)⟩, fun startTime delay hmem => ?_⟩
          -- The address is new, so the only entry for it is the one just made.
          rcases (hlog _).mp hmem with hmem | hmem
          · exact absurd (hs.fresh _ _ _ _ hmem) (lt_irrefl _)
          · cases hmem
            exact (TimeSpec.toNs_futureTime _ _).symm
        · rw [Function.update_of_ne hclient] at hmTimer
          exact hstarted other timer (hs.running other timer hmTimer)
      · obtain ⟨⟨startTime, delay, hentry⟩, hall⟩ :=
          hs.calledBack other timer time (((hlog _).mp hmem).resolve_right (by simp))
        have haddress := hs.fresh _ _ _ _ hentry
        exact ⟨⟨startTime, delay, (hold _ _ _ _ haddress).mpr hentry⟩,
          fun startTime delay hentry => hall startTime delay ((hold _ _ _ _ haddress).mp hentry)⟩
      · have hmsgTask : (s.start client timeOutInMs wakeOnExpire).msgTask = s.msgTask := by
          simp only [start, hrunning]
        have hnow : (s.start client timeOutInMs wakeOnExpire).now = s.now := by
          simp only [start, hrunning]
        rw [hmsgTask]
        have hdue := hs.msgTask
        cases hpc : s.msgTask with
        | receive | updateSoonestTime | setTime | delete => trivial
        | expire | stop | popIfOutRanks => simpa only [hpc, HandlesDue, hnow] using hdue
        | timeOut container timerOfNow other stopped =>
            simp only [hpc, HandlesDue, hnow] at hdue ⊢
            exact ⟨hdue.1, hdue.2.1, hstarted other stopped hdue.2.2⟩

theorem quiet_updateSoonestTime (s : TimerService) (container : Bool)
    (priorTop doomed : Option LocTimerDelegate) :
    Quiet s (s.updateSoonestTime container priorTop doomed) ∧
      (s.updateSoonestTime container priorTop doomed).HandlesDue
        (s.updateSoonestTime container priorTop doomed).msgTask := by
  have hafter : ∀ s : TimerService, s.HandlesDue (afterUpdate doomed) := by
    intro s
    cases doomed with
    | none => trivial
    | some mTimer => trivial
  unfold updateSoonestTime
  simp only
  split_ifs
  · exact ⟨.of_log rfl rfl rfl rfl, hafter _⟩
  · split
    · exact ⟨.of_log rfl rfl rfl rfl, trivial⟩
    · split_ifs
      · exact ⟨.of_log rfl rfl rfl rfl, trivial⟩
      · exact ⟨.of_log rfl rfl rfl rfl, hafter _⟩

/-- A recorded event other than a start or a callback changes nothing here. -/
theorem Quiet.of_record (event : TimerEvent) (hnow : s'.now = s.now)
    (hallocated : s'.allocated = s.allocated) (hmTimer : s'.mTimer = s.mTimer)
    (hlog : s'.log = s.log ++ [event])
    (hstarted : ∀ client timer startTime timeOutInMs,
      event ≠ .started client timer startTime timeOutInMs)
    (htimedOut : ∀ client timer time, event ≠ .timedOut client timer time) : Quiet s s' := by
  refine ⟨by rw [hnow], hallocated, fun client timer hrunning => hmTimer ▸ hrunning,
    fun client timer startTime timeOutInMs => ?_, fun client timer time hmem => ?_⟩
  · rw [hlog, List.mem_append, List.mem_singleton]
    exact or_iff_left (Ne.symm (hstarted _ _ _ _))
  · rw [hlog, List.mem_append, List.mem_singleton] at hmem
    exact hmem.resolve_right (Ne.symm (htimedOut _ _ _))

/-- Taking an expiry pops the soonest timer, which the guard says is due. -/
theorem inTime_proc (hs : s.InTime) {msg : LocMsg} {rest : List LocMsg}
    (hqueue : s.queue = msg :: rest) (hdue : s.PopsDue s.queue) :
    ((s.taking msg rest).proc msg).InTime := by
  cases msg with
  | timerPush container mTimer =>
      refine hs.of_quiet (.of_record (.pushed mTimer.address) rfl rfl rfl rfl ?_ ?_) trivial
      · simp
      · simp
  | timerRemove container mTimer =>
      refine hs.of_quiet (.of_log rfl rfl rfl rfl) ?_
      simp only [proc]
      split_ifs
      · trivial
      · trivial
  | timerExpire container =>
      refine hs.of_quiet (.of_log rfl rfl rfl rfl) ?_
      have hpop : (s.container container).heap.pop.2 = s.getSoonestTimer container :=
        SortedHeap.pop_answer _
      rw [hqueue] at hdue
      simp only [proc, taking, hpop]
      cases htop : s.getSoonestTimer container with
      | none => trivial
      | some timer => exact ⟨Nat.le_refl _, hdue timer htop⟩

theorem inTime_timeOut (hs : s.InTime) {container : Bool} {timerOfNow : TimeSpec} {client : Nat}
    {stopped : LocTimerDelegate}
    (hmsgTask : s.msgTask = .timeOut container timerOfNow client stopped) :
    InTime { s.record (.timedOut client stopped.address s.now) with
      msgTask := .popIfOutRanks container timerOfNow } := by
  have hhandles := hs.msgTask
  rw [hmsgTask] at hhandles
  obtain ⟨hnow, hdue, hstopped⟩ := hhandles
  have hstarted : ∀ other timer startTime timeOutInMs,
      .started other timer startTime timeOutInMs ∈
          s.log ++ [.timedOut client stopped.address s.now] ↔
        .started other timer startTime timeOutInMs ∈ s.log := by
    simp
  refine ⟨fun other timer startTime timeOutInMs hmem => ?_, fun other timer hrunning => ?_,
    fun other timer time hmem => ?_, hnow⟩
  · exact hs.fresh _ _ _ _ ((hstarted _ _ _ _).mp hmem)
  · exact (hs.running other timer hrunning).congr hstarted
  · rw [record, List.mem_append, List.mem_singleton] at hmem
    simp only [record, hstarted]
    rcases hmem with hmem | hmem
    · exact hs.calledBack other timer time hmem
    · cases hmem
      refine ⟨hstopped.1, fun startTime timeOutInMs hentry => ?_⟩
      rw [hstopped.2 startTime timeOutInMs hentry]
      exact hdue

theorem inTime_msgTaskStep (hs : s.InTime) (hdue : s.ExpiresDue .msgTask)
    (hstep : s.msgTaskStep = some s') : s'.InTime := by
  obtain ⟨hpops, hown⟩ := hdue rfl
  have hhandles := hs.msgTask
  cases msgTaskStep_cases hstep with
  | receive msg rest hmsgTask hqueue => exact inTime_proc hs hqueue (hpops hmsgTask)
  | updateSoonestTime container priorTop doomed hmsgTask =>
      obtain ⟨hquiet, hnext⟩ := quiet_updateSoonestTime s container priorTop doomed
      exact hs.of_quiet hquiet hnext
  | setTime container delay doomed hmsgTask =>
      refine hs.of_quiet (.of_log rfl rfl rfl rfl) ?_
      cases doomed with
      | none => trivial
      | some mTimer => trivial
  | delete mTimer hmsgTask =>
      refine hs.of_quiet (.of_record (.deleted mTimer.address) rfl rfl rfl rfl ?_ ?_) trivial
      · simp
      · simp
  | expireReleased container timerOfNow timer hmsgTask hclient =>
      rw [hmsgTask] at hhandles
      exact hs.of_quiet (.of_log rfl rfl rfl rfl) hhandles.1
  | expire container timerOfNow timer client hmsgTask hclient =>
      rw [hmsgTask] at hhandles
      exact hs.of_quiet (.of_log rfl rfl rfl rfl) hhandles
  | stopIdle container timerOfNow timer client hmsgTask hrunning =>
      rw [hmsgTask] at hhandles
      exact hs.of_quiet (.of_log rfl rfl rfl rfl) hhandles.1
  | stop container timerOfNow timer client stopped hmsgTask hrunning =>
      rw [hmsgTask] at hhandles hown
      obtain ⟨hquiet, -⟩ := quiet_stop s client
      -- Without the guard this could be a timer started in the meantime.
      obtain rfl : stopped = timer := hown stopped hrunning
      exact hs.of_quiet hquiet.withMsgTask ⟨hhandles.1.trans hquiet.now,
        hhandles.2.trans hquiet.now, (hs.running client stopped hrunning).congr hquiet.started⟩
  | timeOut container timerOfNow client stopped hmsgTask => exact inTime_timeOut hs hmsgTask
  | popNone container timerOfNow hmsgTask =>
      exact hs.of_quiet (.of_log rfl rfl rfl rfl) trivial
  | pop container timerOfNow top hmsgTask htop hdue =>
      rw [hmsgTask] at hhandles
      exact hs.of_quiet (.of_log rfl rfl rfl rfl) ⟨hhandles, Nat.le_trans hdue hhandles⟩

theorem inTime_step {action : TimerAction} (hs : s.InTime) (hdue : s.ExpiresDue action)
    (hstep : s.step action = some s') : s'.InTime := by
  cases step_cases hstep with
  | tick time htime =>
      have hquiet : Quiet s { s with now := time } :=
        ⟨htime, rfl, fun _ _ => id, fun _ _ _ _ => Iff.rfl, fun _ _ _ => id⟩
      exact hs.of_quiet hquiet (hs.msgTask.mono hquiet)
  | start client timeOutInMs wakeOnExpire => exact inTime_start hs client timeOutInMs wakeOnExpire
  | stopIdle client hrunning => exact hs
  | stop client timer hrunning =>
      obtain ⟨hquiet, hmsgTask⟩ := quiet_stop s client
      have hstopped : (s.stop client).1.InTime :=
        hs.of_quiet hquiet (hmsgTask ▸ hs.msgTask.mono hquiet)
      have hrecord : Quiet (s.stop client).1
          ((s.stop client).1.record (.stopped client timer.address)) :=
        .of_record (.stopped client timer.address) rfl rfl rfl rfl (by simp) (by simp)
      exact hstopped.of_quiet hrecord (hstopped.msgTask.mono hrecord)
  | epollWait events hwaits hevents hready =>
      have hquiet : Quiet s { s with pollTask := .run events } := .of_log rfl rfl rfl rfl
      exact hs.of_quiet hquiet (hs.msgTask.mono hquiet)
  | timerfdSettime container events hpollTask =>
      have hquiet : Quiet s { s.timerfdSettime container none with
        pollTask := .removePoll container events } := .of_log rfl rfl rfl rfl
      exact hs.of_quiet hquiet (hs.msgTask.mono hquiet)
  | removePoll container events hpollTask =>
      have hquiet : Quiet s { s.setPoll container false with
        pollTask := .sendMsg container events } := .of_log rfl rfl rfl rfl
      exact hs.of_quiet hquiet (hs.msgTask.mono hquiet)
  | sendMsg container events hpollTask =>
      have hquiet : Quiet s { s.sendMsg (.timerExpire container) with
        pollTask := .run events } := .of_log rfl rfl rfl rfl
      exact hs.of_quiet hquiet (hs.msgTask.mono hquiet)
  | msgTask s' hstep => exact inTime_msgTaskStep hs hdue hstep

end Steps

theorem inTime_initial (now : TimeSpec) : (initial now).InTime where
  fresh _ _ _ _ hmem := nomatch hmem
  running _ _ hrunning := nomatch hrunning
  calledBack _ _ _ hmem := nomatch hmem
  msgTask := trivial

/-- In a run that expires only what is due, every callback is in time. -/
theorem called_back_in_time (now : TimeSpec) (actions : List TimerAction)
    (hdue : (system now).Guarded ExpiresDue (initial now) actions) :
    (system now).Throughout CalledBackInTime (initial now) actions :=
  Transition.System.throughout_of_guarded InTime (fun _ hs => hs.calledBack)
    (fun _ _ _ hs hdue hstep => inTime_step hs hdue hstep) (inTime_initial now) hdue

/-- A tenth of a second later. -/
def deadline : TimeSpec := uptime.futureTime 100

/-- A timer that expires when it is due. -/
theorem called_back_in_time_expired :
    (system uptime).Throughout CalledBackInTime (initial uptime)
      [.start 0 100 false, .msgTask, .msgTask, .msgTask, .tick deadline, .epollWait [false],
        .pollTask, .pollTask, .pollTask, .msgTask, .msgTask, .msgTask, .msgTask] := by
  apply called_back_in_time
  decide

/-- While the fd of a timer fires, its client stops it and starts it again for
an hour. The expiry then finds the new timer at the top of the heap. -/
theorem restarted_timer_expires :
    ¬ (system uptime).Throughout CalledBackInTime (initial uptime)
      [.start 0 100 false, .msgTask, .msgTask, .msgTask, .tick deadline, .epollWait [false],
        .stop 0, .start 0 3600000 false, .pollTask, .pollTask, .pollTask, .msgTask, .msgTask,
        .msgTask, .msgTask, .msgTask, .msgTask, .msgTask, .msgTask, .msgTask, .msgTask] := by
  apply Transition.System.not_throughout_of_any fun s =>
    .timedOut 0 1 deadline ∈ s.log ∧ .started 0 1 deadline 3600000 ∈ s.log
  · intro s hs hinTime
    obtain ⟨htimedOut, hstarted⟩ := of_decide_eq_true hs
    have hlate := (hinTime 0 1 deadline htimedOut).2 deadline 3600000 hstarted
    omega
  · decide

end TimerService

end Serrano.Timer
