import Serrano.Timer.LocTimer

/-! # What the timer fds are armed for

The polling thread takes an fd away from its container until the expiry it
sends is processed. While no expiry is under way the fd follows the top of the
heap: it is armed for the top and polled between messages, and the message task
knows, at each of its steps, how far it has got with a changed top. The one
thing it never does is to disarm the fd of a heap that has become empty.
-/

namespace Serrano.Timer

/-- Armed for a timer and in the epoll set. -/
def TimerFd.armedFor (timer : LocTimerDelegate) : TimerFd where
  itValue := some timer.mFutureTime
  polled := true

/-- How far the message task has got with a container. -/
inductive Stage
  | rest
  | expiring
  | updating (priorTop : Option LocTimerDelegate)
  | setting (delay : Option TimeSpec)

def MsgTask.stage (b : Bool) : MsgTask → Stage
  | .receive | .delete _ => .rest
  | .updateSoonestTime container priorTop _ => if container = b then .updating priorTop else .rest
  | .setTime container delay _ => if container = b then .setting delay else .rest
  | .expire container .. | .stop container .. | .timeOut container ..
  | .popIfOutRanks container _ => if container = b then .expiring else .rest

namespace TimerService

/-- An expiry of the container is under way: the polling thread is inside
`expire`, or the message it sent is in the queue. -/
def Disturbed (s : TimerService) (b : Bool) : Prop :=
  (∃ events, s.pollTask = .removePoll b events) ∨ (∃ events, s.pollTask = .sendMsg b events) ∨
    .timerExpire b ∈ s.queue

/-- What holds of a container and its fd at each stage. -/
def Follows (s : TimerService) (b : Bool) : Stage → Prop
  | .rest =>
      (∀ top, s.getSoonestTimer b = some top → (s.container b).mDevFd = .armedFor top) ∧
        (s.getSoonestTimer b = none → (s.container b).mDevFd = s.taken b)
  | .expiring => (s.container b).mDevFd = s.taken b
  | .updating priorTop =>
      (s.container b).mDevFd = s.taken b ∧
        ∀ prior, priorTop = some prior → (s.container b).mDevFd = .armedFor prior ∧
          ∃ top, s.getSoonestTimer b = some top ∧
            (top = prior ∨ LocTimerDelegate.ranking.outRanks top prior)
  | .setting delay =>
      ∃ top, s.getSoonestTimer b = some top ∧ delay = some top.mFutureTime ∧
        (s.container b).mDevFd.polled = true

/-- The invariant: an undisturbed fd follows its heap. -/
def Tracked (s : TimerService) (b : Bool) : Prop :=
  ¬ s.Disturbed b → s.Follows b (s.msgTask.stage b)

/-- A step that neither touches the container nor ends a disturbance. -/
structure Passes (s s' : TimerService) (b : Bool) : Prop where
  container : s'.container b = s.container b
  taken : s'.taken b = s.taken b
  stage : s'.msgTask.stage b = s.msgTask.stage b
  disturbed : s.Disturbed b → s'.Disturbed b

theorem Tracked.follows {s : TimerService} {b : Bool} {stage : Stage} (hs : s.Tracked b)
    (hstage : s.msgTask.stage b = stage) (hquiet : ¬ s.Disturbed b) : s.Follows b stage :=
  hstage ▸ hs hquiet

theorem Tracked.of_passes {s s' : TimerService} {b : Bool} (hs : s.Tracked b)
    (hpasses : Passes s s' b) : s'.Tracked b := by
  intro hquiet
  have hfollows := hs fun hdisturbed => hquiet (hpasses.disturbed hdisturbed)
  rw [hpasses.stage]
  cases hstage : s.msgTask.stage b with
  | rest | expiring | updating | setting =>
      simpa only [Follows, hstage, getSoonestTimer, hpasses.container, hpasses.taken]
        using hfollows

section Clients

variable (s : TimerService) (b : Bool)

/-- More messages in the queue end no disturbance. -/
theorem Disturbed.of_queue {s s' : TimerService} {b : Bool} (hs : s.Disturbed b)
    (hpoll : s'.pollTask = s.pollTask) (hqueue : s.queue ⊆ s'.queue) : s'.Disturbed b := by
  obtain ⟨events, hevents⟩ | ⟨events, hevents⟩ | hmem := hs
  · exact .inl ⟨events, hpoll.trans hevents⟩
  · exact .inr (.inl ⟨events, hpoll.trans hevents⟩)
  · exact .inr (.inr (hqueue hmem))

theorem passes_start (client timeOutInMs : Nat) (wakeOnExpire : Bool) :
    Passes s (s.start client timeOutInMs wakeOnExpire) b := by
  unfold start
  cases s.mTimer client with
  | some timer => exact ⟨rfl, rfl, rfl, id⟩
  | none =>
      refine ⟨rfl, rfl, rfl, fun hs => hs.of_queue rfl ?_⟩
      exact List.subset_append_left _ _

theorem passes_destroyLocked (timer : LocTimerDelegate) :
    Passes s (s.destroyLocked timer) b := by
  fun_cases destroyLocked s timer with
  | case1 => exact ⟨rfl, rfl, rfl, fun hs => hs.of_queue rfl (List.subset_append_left _ _)⟩
  | case2 => exact ⟨rfl, rfl, rfl, id⟩
  | case3 => exact ⟨rfl, rfl, rfl, id⟩

theorem passes_stop (client : Nat) : Passes s (s.stop client).1 b := by
  unfold stop
  cases s.mTimer client with
  | none => exact ⟨rfl, rfl, rfl, id⟩
  | some timer =>
      have hpasses := passes_destroyLocked
        { s with mTimer := Function.update s.mTimer client none } b timer
      exact ⟨hpasses.container, hpasses.taken, hpasses.stage, hpasses.disturbed⟩

end Clients

section Threads

variable {s s' : TimerService} {b : Bool}

/-- Outside `expire` of the container, its expiry is in the queue. -/
theorem Disturbed.queued (hs : s.Disturbed b)
    (hremovePoll : ∀ events, s.pollTask ≠ .removePoll b events)
    (hsendMsg : ∀ events, s.pollTask ≠ .sendMsg b events) : .timerExpire b ∈ s.queue := by
  obtain ⟨events, hevents⟩ | ⟨events, hevents⟩ | hmem := hs
  · exact absurd hevents (hremovePoll events)
  · exact absurd hevents (hsendMsg events)
  · exact hmem

theorem Disturbed.of_taking {msg : LocMsg} {rest : List LocMsg}
    (hqueue : s.queue = msg :: rest) (hmsg : msg ≠ .timerExpire b) (hs : s.Disturbed b) :
    (s.taking msg rest).Disturbed b := by
  obtain hevents | hevents | hmem := hs
  · exact .inl hevents
  · exact .inr (.inl hevents)
  · rw [hqueue, List.mem_cons] at hmem
    exact .inr (.inr (hmem.resolve_left (Ne.symm hmsg)))

theorem proc_frame (s : TimerService) (msg : LocMsg) (b : Bool) :
    (s.proc msg).queue = s.queue ∧ (s.proc msg).pollTask = s.pollTask ∧
      (s.proc msg).taken = s.taken ∧
      (msg.container ≠ b → (s.proc msg).container b = s.container b ∧
        (s.proc msg).msgTask.stage b = .rest) := by
  cases msg with
  | timerPush container mTimer =>
      refine ⟨rfl, rfl, rfl, fun hne => ⟨Function.update_of_ne (Ne.symm hne) _ _, ?_⟩⟩
      exact if_neg hne
  | timerRemove container mTimer =>
      refine ⟨rfl, rfl, rfl, fun hne => ⟨Function.update_of_ne (Ne.symm hne) _ _, ?_⟩⟩
      simp only [proc]
      split_ifs
      · exact if_neg hne
      · rfl
  | timerExpire container =>
      refine ⟨rfl, rfl, rfl, fun hne => ⟨Function.update_of_ne (Ne.symm hne) _ _, ?_⟩⟩
      simp only [proc]
      split
      · exact if_neg hne
      · exact if_neg hne

/-- Processing starts from the fd that was noted when the message was taken. -/
theorem proc_mDevFd (s : TimerService) (msg : LocMsg) (rest : List LocMsg) :
    (((s.taking msg rest).proc msg).container msg.container).mDevFd =
        (s.container msg.container).mDevFd ∧
      ((s.taking msg rest).proc msg).taken msg.container =
        (s.container msg.container).mDevFd := by
  cases msg with
  | timerPush | timerRemove | timerExpire =>
      simp [proc, setHeap, taking, record, LocMsg.container]

/-- A pushed timer is compared with the top that the fd is armed for. -/
theorem follows_timerPush (hs : s.Follows b .rest) (mTimer : LocTimerDelegate)
    (rest : List LocMsg) :
    ((s.taking (.timerPush b mTimer) rest).proc (.timerPush b mTimer)).Follows b
      (.updating (s.getSoonestTimer b)) := by
  obtain ⟨hfd, htaken⟩ := proc_mDevFd s (.timerPush b mTimer) rest
  refine ⟨hfd.trans htaken.symm, fun prior hprior => ⟨hfd.trans (hs.1 prior hprior), ?_⟩⟩
  have hpeek : ((s.taking (.timerPush b mTimer) rest).proc (.timerPush b mTimer)).getSoonestTimer b
      = ((s.container b).heap.push mTimer).peek := by
    simp [proc, setHeap, taking, record, getSoonestTimer]
  rw [hpeek, SortedHeap.peek_push]
  rw [getSoonestTimer] at hprior
  simp only [hprior]
  refine ⟨_, rfl, ?_⟩
  split_ifs with houtRanks
  · exact .inr houtRanks
  · exact .inl rfl

/-- A removal that did not take the top leaves the fd armed for the top. -/
theorem follows_timerRemove {mTimer : LocTimerDelegate} {rest : List LocMsg}
    (hs : s.Follows b .rest)
    (hne : s.getSoonestTimer b ≠ ((s.container b).heap.remove mTimer).2) :
    ((s.taking (.timerRemove b mTimer) rest).proc (.timerRemove b mTimer)).Follows b .rest := by
  obtain ⟨hfd, htaken⟩ := proc_mDevFd s (.timerRemove b mTimer) rest
  have hpeek : ((s.taking (.timerRemove b mTimer) rest).proc
      (.timerRemove b mTimer)).getSoonestTimer b = s.getSoonestTimer b := by
    simpa [proc, setHeap, taking, getSoonestTimer] using
      SortedHeap.peek_remove (s.container b).heap (Ne.symm hne)
  refine ⟨fun top htop => hfd.trans (hs.1 top (hpeek ▸ htop)), fun _ => hfd.trans htaken.symm⟩

theorem tracked_proc {msg : LocMsg} {rest : List LocMsg} (hs : s.Tracked b)
    (hreceive : s.msgTask = .receive) (hqueue : s.queue = msg :: rest) :
    ((s.taking msg rest).proc msg).Tracked b := by
  obtain ⟨hprocQueue, hprocPoll, hprocTaken, hother⟩ := proc_frame (s.taking msg rest) msg b
  have hstays : msg ≠ .timerExpire b → s.Disturbed b →
      ((s.taking msg rest).proc msg).Disturbed b := by
    intro hmsg hdisturbed
    refine (hdisturbed.of_taking hqueue hmsg).of_queue hprocPoll ?_
    rw [hprocQueue]
    exact List.Subset.refl _
  by_cases hcontainer : msg.container = b
  · intro hquiet
    have hrest : msg ≠ .timerExpire b → s.Follows b .rest := by
      intro hmsg
      apply hs.follows
      · rw [hreceive]
        rfl
      · exact fun hdisturbed => hquiet (hstays hmsg hdisturbed)
    obtain ⟨hfd, htaken⟩ := proc_mDevFd s msg rest
    rw [hcontainer] at hfd htaken
    cases msg with
    | timerPush container mTimer =>
        obtain rfl : container = b := hcontainer
        have hfollows := follows_timerPush (hrest (by simp)) mTimer rest
        simpa [proc, MsgTask.stage, taking, getSoonestTimer] using hfollows
    | timerRemove container mTimer =>
        obtain rfl : container = b := hcontainer
        by_cases htop : s.getSoonestTimer container =
            ((s.container container).heap.remove mTimer).2
        · -- The top is gone, and the update is told that there was none.
          have hstage : ((s.taking (.timerRemove container mTimer) rest).proc
              (.timerRemove container mTimer)).msgTask =
                .updateSoonestTime container none (some mTimer) := if_pos htop
          rw [hstage, MsgTask.stage, if_pos rfl]
          exact ⟨hfd.trans htaken.symm, fun prior hprior => nomatch hprior⟩
        · have hstage : ((s.taking (.timerRemove container mTimer) rest).proc
              (.timerRemove container mTimer)).msgTask = .delete mTimer := if_neg htop
          rw [hstage]
          exact follows_timerRemove (hrest (by simp)) htop
    | timerExpire container =>
        obtain rfl : container = b := hcontainer
        cases hpop : (s.container container).heap.pop.2 with
        | none =>
            have hstage : ((s.taking (.timerExpire container) rest).proc
                (.timerExpire container)).msgTask = .updateSoonestTime container none none := by
              simp only [proc, taking, hpop]
            rw [hstage, MsgTask.stage, if_pos rfl]
            exact ⟨hfd.trans htaken.symm, fun prior hprior => nomatch hprior⟩
        | some timer =>
            have hstage : ((s.taking (.timerExpire container) rest).proc
                (.timerExpire container)).msgTask = .expire container s.now timer := by
              simp only [proc, taking, hpop]
            rw [hstage, MsgTask.stage, if_pos rfl]
            exact hfd.trans htaken.symm
  · obtain ⟨hsame, hstage⟩ := hother hcontainer
    refine hs.of_passes ⟨hsame, ?_, ?_, hstays ?_⟩
    · rw [hprocTaken]
      exact Function.update_of_ne (Ne.symm hcontainer) _ _
    · rw [hstage, hreceive]
      rfl
    · rintro rfl
      exact hcontainer rfl

theorem stage_afterUpdate (doomed : Option LocTimerDelegate) (b : Bool) :
    (afterUpdate doomed).stage b = .rest := by
  cases doomed with
  | none => rfl
  | some mTimer => rfl

/-- The comparison with the prior top finds out whether the fd is up to date.
An empty heap is only ever compared with no top, so that the branch that
disarms the fd is not taken. -/
theorem tracked_updateSoonestTime {priorTop doomed : Option LocTimerDelegate} (hs : s.Tracked b)
    (hmsgTask : s.msgTask = .updateSoonestTime b priorTop doomed) :
    (s.updateSoonestTime b priorTop doomed).Tracked b := by
  have hstage : s.msgTask.stage b = .updating priorTop := by
    rw [hmsgTask]
    exact if_pos rfl
  have hfollows := hs.follows hstage
  unfold updateSoonestTime
  simp only
  split_ifs with hsame
  · intro hquiet
    obtain ⟨htaken, harmed⟩ := hfollows hquiet
    rw [stage_afterUpdate]
    exact ⟨fun top htop => (harmed top (hsame ▸ htop)).1, fun _ => htaken⟩
  · split
    case h_1 htop =>
      -- Only a push names a prior top, and it leaves no heap empty.
      intro hquiet
      obtain ⟨-, harmed⟩ := hfollows hquiet
      cases priorTop with
      | none => exact absurd htop hsame
      | some prior =>
          obtain ⟨-, top, hnonempty, -⟩ := harmed prior rfl
          rw [htop] at hnonempty
          cases hnonempty
    case h_2 timer htop =>
      split_ifs with hranks
      · intro hquiet
        rw [MsgTask.stage, if_pos rfl]
        refine ⟨timer, ?_, rfl, ?_⟩
        · simpa [getSoonestTimer, setPoll] using htop
        · simp [setPoll]
      · -- A push leaves the prior top or what outranks it, so this is not reached.
        intro hquiet
        obtain ⟨-, harmed⟩ := hfollows hquiet
        cases priorTop with
        | none => exact absurd rfl hranks
        | some prior =>
            obtain ⟨-, top, hnonempty, rfl | houtRanks⟩ := harmed prior rfl
            · exact absurd hnonempty hsame
            · rw [htop, Option.some.injEq] at hnonempty
              subst hnonempty
              exact absurd (by simpa using houtRanks) hranks

theorem tracked_setTime {delay : Option TimeSpec} {doomed : Option LocTimerDelegate}
    (hs : s.Tracked b) (hmsgTask : s.msgTask = .setTime b delay doomed) :
    Tracked { s.timerfdSettime b delay with msgTask := afterUpdate doomed } b := by
  have hstage : s.msgTask.stage b = .setting delay := by
    rw [hmsgTask]
    exact if_pos rfl
  intro hquiet
  obtain ⟨top, htop, rfl, hpolled⟩ := hs.follows hstage hquiet
  have hsame : getSoonestTimer { s.timerfdSettime b (some top.mFutureTime) with
      msgTask := afterUpdate doomed } b = some top := by
    simpa [getSoonestTimer, timerfdSettime] using htop
  rw [stage_afterUpdate]
  refine ⟨fun other hother => ?_, fun hnone => ?_⟩
  · rw [hsame, Option.some.injEq] at hother
    subst hother
    simp [timerfdSettime, TimerFd.armedFor, hpolled]
  · rw [hsame] at hnone
    cases hnone

/-- The loop of an expiry leaves the fd to the update at its end. -/
theorem tracked_pop {timerOfNow : TimeSpec} (hs : s.Tracked b)
    (hmsgTask : s.msgTask = .popIfOutRanks b timerOfNow) (top : LocTimerDelegate) :
    { s.setHeap b (s.container b).heap.pop.1 with
      msgTask := .expire b timerOfNow top }.Tracked b := by
  have hstage : s.msgTask.stage b = .expiring := by
    rw [hmsgTask]
    exact if_pos rfl
  have hfollows : ¬ s.Disturbed b → (s.container b).mDevFd = s.taken b := hs.follows hstage
  intro hquiet
  rw [MsgTask.stage, if_pos rfl]
  simpa [Follows, setHeap] using hfollows hquiet

/-- The update after the last pop has no prior top to compare with. -/
theorem tracked_popNone {timerOfNow : TimeSpec} (hs : s.Tracked b)
    (hmsgTask : s.msgTask = .popIfOutRanks b timerOfNow) :
    { s with msgTask := .updateSoonestTime b none none }.Tracked b := by
  have hstage : s.msgTask.stage b = .expiring := by
    rw [hmsgTask]
    exact if_pos rfl
  have hfollows : ¬ s.Disturbed b → (s.container b).mDevFd = s.taken b := hs.follows hstage
  intro hquiet
  rw [MsgTask.stage, if_pos rfl]
  exact ⟨hfollows hquiet, fun prior hprior => nomatch hprior⟩

/-- The message task works for one container at a time. -/
theorem passes_updateSoonestTime {container : Bool} (hne : container ≠ b)
    {priorTop doomed : Option LocTimerDelegate}
    (hmsgTask : s.msgTask = .updateSoonestTime container priorTop doomed) :
    Passes s (s.updateSoonestTime container priorTop doomed) b := by
  have hstage : s.msgTask.stage b = .rest := by
    rw [hmsgTask]
    exact if_neg hne
  unfold updateSoonestTime
  simp only
  split_ifs
  · exact ⟨rfl, rfl, (stage_afterUpdate _ _).trans hstage.symm, id⟩
  · split
    · exact ⟨Function.update_of_ne (Ne.symm hne) _ _, rfl, (if_neg hne).trans hstage.symm, id⟩
    · split_ifs
      · exact ⟨Function.update_of_ne (Ne.symm hne) _ _, rfl, (if_neg hne).trans hstage.symm, id⟩
      · exact ⟨rfl, rfl, (stage_afterUpdate _ _).trans hstage.symm, id⟩

/-- Where the message task goes on at the same stage, the container is passed. -/
theorem passes_goOn {old msgTask : MsgTask} (hmsgTask : s.msgTask = old)
    (hstage : msgTask.stage b = old.stage b) : Passes s { s with msgTask := msgTask } b :=
  ⟨rfl, rfl, hmsgTask ▸ hstage, id⟩

theorem tracked_msgTaskStep (hs : s.Tracked b) (hstep : s.msgTaskStep = some s') :
    s'.Tracked b := by
  cases msgTaskStep_cases hstep with
  | receive msg rest hmsgTask hqueue => exact tracked_proc hs hmsgTask hqueue
  | updateSoonestTime container priorTop doomed hmsgTask =>
      by_cases hcontainer : container = b
      · subst hcontainer
        exact tracked_updateSoonestTime hs hmsgTask
      · exact hs.of_passes (passes_updateSoonestTime hcontainer hmsgTask)
  | setTime container delay doomed hmsgTask =>
      by_cases hcontainer : container = b
      · subst hcontainer
        exact tracked_setTime hs hmsgTask
      · refine hs.of_passes ⟨Function.update_of_ne (Ne.symm hcontainer) _ _, rfl, ?_, id⟩
        rw [hmsgTask, stage_afterUpdate]
        exact (if_neg hcontainer).symm
  | delete mTimer hmsgTask => exact hs.of_passes ⟨rfl, rfl, by rw [hmsgTask]; rfl, id⟩
  | expireReleased container timerOfNow timer hmsgTask hclient =>
      exact hs.of_passes (passes_goOn hmsgTask rfl)
  | expire container timerOfNow timer client hmsgTask hclient =>
      exact hs.of_passes (passes_goOn hmsgTask rfl)
  | stopIdle container timerOfNow timer client hmsgTask hrunning =>
      exact hs.of_passes (passes_goOn hmsgTask rfl)
  | stop container timerOfNow timer client stopped hmsgTask hrunning =>
      have hpasses := passes_stop s b client
      exact hs.of_passes ⟨hpasses.container, hpasses.taken, by rw [hmsgTask]; rfl,
        hpasses.disturbed⟩
  | timeOut container timerOfNow client stopped hmsgTask =>
      exact hs.of_passes ⟨rfl, rfl, by rw [hmsgTask]; rfl, id⟩
  | popNone container timerOfNow hmsgTask =>
      by_cases hcontainer : container = b
      · subst hcontainer
        exact tracked_popNone hs hmsgTask
      · refine hs.of_passes (passes_goOn hmsgTask ?_)
        simp only [MsgTask.stage, if_neg hcontainer]
  | pop container timerOfNow top hmsgTask htop hdue =>
      by_cases hcontainer : container = b
      · subst hcontainer
        exact tracked_pop hs hmsgTask top
      · refine hs.of_passes ⟨Function.update_of_ne (Ne.symm hcontainer) _ _, rfl, ?_, id⟩
        rw [hmsgTask]
        simp only [MsgTask.stage, if_neg hcontainer]

/-- The polling thread disturbs the container whose event it handles, until
its message is in the queue. -/
theorem tracked_step {action : TimerAction} (hs : s.Tracked b)
    (hstep : s.step action = some s') : s'.Tracked b := by
  cases step_cases hstep with
  | tick time htime => exact hs.of_passes ⟨rfl, rfl, rfl, id⟩
  | start client timeOutInMs wakeOnExpire =>
      exact hs.of_passes (passes_start s b client timeOutInMs wakeOnExpire)
  | stopIdle client hrunning => exact hs
  | stop client timer hrunning =>
      have hpasses := passes_stop s b client
      exact hs.of_passes ⟨hpasses.container, hpasses.taken, hpasses.stage, hpasses.disturbed⟩
  | epollWait events hwaits hevents hready =>
      apply hs.of_passes
      refine ⟨rfl, rfl, rfl, fun hdisturbed => ?_⟩
      -- A thread that waits is inside no `expire`.
      exact .inr (.inr (hdisturbed.queued (by simp [hwaits]) (by simp [hwaits])))
  | timerfdSettime container events hpoll =>
      by_cases hcontainer : container = b
      · exact fun hquiet => absurd (.inl ⟨events, by rw [hcontainer]⟩) hquiet
      · apply hs.of_passes
        refine ⟨Function.update_of_ne (Ne.symm hcontainer) _ _, rfl, rfl, fun hdisturbed => ?_⟩
        exact .inr (.inr (hdisturbed.queued (by simp [hpoll]) (by simp [hpoll])))
  | removePoll container events hpoll =>
      by_cases hcontainer : container = b
      · exact fun hquiet => absurd (.inr (.inl ⟨events, by rw [hcontainer]⟩)) hquiet
      · apply hs.of_passes
        refine ⟨Function.update_of_ne (Ne.symm hcontainer) _ _, rfl, rfl, fun hdisturbed => ?_⟩
        exact .inr (.inr (hdisturbed.queued (by simp [hpoll, hcontainer]) (by simp [hpoll])))
  | sendMsg container events hpoll =>
      by_cases hcontainer : container = b
      · -- The expiry goes from the thread to the queue without a gap.
        subst hcontainer
        exact fun hquiet => absurd
          (.inr (.inr (List.mem_append_right _ List.mem_cons_self))) hquiet
      · apply hs.of_passes
        refine ⟨rfl, rfl, rfl, fun hdisturbed => .inr (.inr (List.mem_append_left _ ?_))⟩
        exact hdisturbed.queued (by simp [hpoll]) (by simp [hpoll, hcontainer])
  | msgTask s' hstep => exact tracked_msgTaskStep hs hstep

end Threads

theorem tracked_initial (now : TimeSpec) (b : Bool) : (initial now).Tracked b := by
  intro _
  refine ⟨fun top htop => ?_, fun _ => rfl⟩
  cases htop

/-- No message is being processed, and no expiry of the container is under way. -/
def AtRest (s : TimerService) (b : Bool) : Prop := s.msgTask = .receive ∧ ¬ s.Disturbed b

/-- At rest, a container with timers is armed and polled for its top, and none
of its timers is due earlier. -/
def NotStranded (s : TimerService) : Prop :=
  ∀ b, s.AtRest b → (s.container b).heap.elements ≠ 0 →
    ∃ top, s.getSoonestTimer b = some top ∧
      (s.container b).mDevFd = { itValue := some top.mFutureTime, polled := true } ∧
      ∀ timer ∈ (s.container b).heap.elements, top.mFutureTime.toNs ≤ timer.mFutureTime.toNs

/-- At rest, a container without timers is disarmed and not polled. -/
def DisarmedWhenEmpty (s : TimerService) : Prop :=
  ∀ b, s.AtRest b → (s.container b).heap.elements = 0 →
    (s.container b).mDevFd = { itValue := none, polled := false }

/-- At rest, the message that left a container without timers found its fd
disarmed and not polled. -/
def EmptiedDisarmed (s : TimerService) : Prop :=
  ∀ b, s.AtRest b → (s.container b).heap.elements = 0 →
    s.taken b = { itValue := none, polled := false }

theorem Tracked.rest {s : TimerService} {b : Bool} (hs : s.Tracked b) (hrest : s.AtRest b) :
    s.Follows b .rest := by
  apply hs.follows _ hrest.2
  rw [hrest.1]
  rfl

theorem notStranded_of_tracked {s : TimerService} (hs : ∀ b, s.Tracked b) : s.NotStranded := by
  intro b hrest hnonempty
  cases htop : s.getSoonestTimer b with
  | none => exact absurd ((LocHeap.peek_eq_none_iff _).mp htop) hnonempty
  | some top =>
      refine ⟨top, rfl, ((hs b).rest hrest).1 top htop, fun timer htimer => ?_⟩
      have hbeats := SortedHeap.unbeaten_of_peek _ htop timer htimer
      rw [LocTimerDelegate.outRanks_iff] at hbeats
      omega

/-- The processing of a message that leaves the heap empty leaves the fd as it
found it. -/
theorem mDevFd_of_tracked {s : TimerService} {b : Bool} (hs : s.Tracked b)
    (hrest : s.AtRest b) (hempty : (s.container b).heap.elements = 0) :
    (s.container b).mDevFd = s.taken b :=
  (hs.rest hrest).2 ((LocHeap.peek_eq_none_iff _).mpr hempty)

theorem throughout_of_tracked {property : TimerService → Prop}
    (hproperty : ∀ s : TimerService, (∀ b, s.Tracked b) → property s) (now : TimeSpec)
    (actions : List TimerAction) :
    (system now).Throughout property (initial now) actions :=
  Transition.System.throughout_of_guarded _ hproperty
    (fun _ _ _ hs _ hstep b => tracked_step (hs b) hstep) (tracked_initial now)
    (Transition.System.guarded_of_forall (fun _ _ => trivial) _ _)

/-- In every state of every run, a container at rest has no stranded timer. -/
theorem no_timer_stranded (now : TimeSpec) (actions : List TimerAction) :
    (system now).Throughout NotStranded (initial now) actions :=
  throughout_of_tracked (fun _ hs => notStranded_of_tracked hs) now actions

/-- A run disarms the fds of empty heaps exactly when every message that leaves
a heap empty finds the fd disarmed. -/
theorem disarmed_when_empty_iff (now : TimeSpec) (actions : List TimerAction) :
    (system now).Throughout DisarmedWhenEmpty (initial now) actions ↔
      (system now).Throughout EmptiedDisarmed (initial now) actions := by
  refine Transition.System.Throughout.congr (fun s hs => ?_)
    (throughout_of_tracked (fun _ hs => hs) now actions)
  refine forall_congr' fun b => forall_congr' fun hrest => forall_congr' fun hempty => ?_
  rw [mDevFd_of_tracked (hs b) hrest hempty]

/-- The only timer is started and stopped, both messages are processed, and the
fd stays armed and polled. -/
theorem stopped_timer_stays_armed :
    ¬ (system uptime).Throughout DisarmedWhenEmpty (initial uptime)
      [.start 0 100 false, .msgTask, .msgTask, .msgTask, .stop 0, .msgTask, .msgTask,
        .msgTask] := by
  apply Transition.System.not_throughout_of_any fun s =>
    s.msgTask = .receive ∧ s.pollTask = .run [] ∧ s.queue = [] ∧
      (s.container false).heap.mTree = .null ∧ (s.container false).mDevFd.polled = true
  · intro s hs hdisarmed
    obtain ⟨hreceive, hpoll, hqueue, hnull, hpolled⟩ := of_decide_eq_true hs
    have hrest : s.AtRest false := by
      refine ⟨hreceive, ?_⟩
      simp [Disturbed, hpoll, hqueue]
    have hempty : (s.container false).heap.elements = 0 := by
      rw [LocHeap.elements, hnull]
      rfl
    rw [hdisarmed false hrest hempty] at hpolled
    cases hpolled
  · decide

end TimerService

end Serrano.Timer
