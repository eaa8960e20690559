import Mathlib.Data.Set.Card
import Serrano.Timer.Progress

/-! # What becomes of a start

Every successful start ends in one callback or in one stop of its client, or
its timer runs still, or its callback is about to be made. Its delegate is
pushed once, and deleted once when it no longer runs, as soon as the message
task has worked off its queue; nobody refers to a deleted delegate.
-/

namespace Serrano.Timer

/-- How many events of a kind there are. -/
def total (kind : EventKind) (log : List TimerEvent) : Nat := log.countP (·.kind = kind)

@[simp] theorem total_append (kind : EventKind) (log : List TimerEvent) (event : TimerEvent) :
    total kind (log ++ [event]) = total kind log + if event.kind = kind then 1 else 0 := by
  simp [total, List.countP_append, List.countP_singleton]

/-! ## Counting over all timers -/

namespace Holdings

/-- The clients whose timer runs. -/
def runningClients (mTimer : Nat → Option LocTimerDelegate) : Set Nat :=
  {client | mTimer client ≠ none}

/-- Starts, callbacks, stops, running timers and the callback about to be made. -/
structure Tallied (h : Holdings) : Prop where
  finite : (runningClients h.mTimer).Finite
  count : total .started h.log = total .timedOut h.log + total .stopped h.log +
    (runningClients h.mTimer).ncard + h.calling.toList.length

theorem runningClients_update_some (mTimer : Nat → Option LocTimerDelegate) (client : Nat)
    (timer : LocTimerDelegate) :
    runningClients (Function.update mTimer client (some timer)) =
      insert client (runningClients mTimer) := by
  ext other
  by_cases hne : other = client
  · simp [runningClients, hne]
  · simp [runningClients, hne]

theorem runningClients_update_none (mTimer : Nat → Option LocTimerDelegate) (client : Nat) :
    runningClients (Function.update mTimer client none) = runningClients mTimer \ {client} := by
  ext other
  by_cases hne : other = client
  · simp [runningClients, hne]
  · simp [runningClients, hne]

/-- Taking a timer down leaves one running timer less. -/
theorem Tallied.takeDown {h : Holdings} (hh : h.Tallied) {client : Nat} {timer : LocTimerDelegate}
    (hrunning : h.mTimer client = some timer) :
    (runningClients (Function.update h.mTimer client none)).Finite ∧
      (runningClients (Function.update h.mTimer client none)).ncard + 1 =
        (runningClients h.mTimer).ncard := by
  have hmem : client ∈ runningClients h.mTimer := by simp [runningClients, hrunning]
  rw [runningClients_update_none]
  exact ⟨hh.finite.sdiff, Set.ncard_sdiff_singleton_add_one hmem hh.finite⟩

theorem Tallied.handover {h h' : Holdings} (hh : h.Tallied) (hstep : Handover h h') :
    h'.Tallied := by
  have hcount := hh.count
  cases hstep with
  | idle | sendExpire | remove | takeExpire | popNext | release => exact ⟨hh.finite, hcount⟩
  | start client startTime timeOutInMs container hstopped =>
      have hnot : client ∉ runningClients h.mTimer := by simp [runningClients, hstopped]
      constructor
      · rw [runningClients_update_some]
        exact hh.finite.insert client
      · simp [runningClients_update_some, Set.ncard_insert_of_notMem hnot hh.finite,
          TimerEvent.kind]
        omega
  | stop client timer container hrunning hlinks =>
      obtain ⟨hfinite, hless⟩ := hh.takeDown hrunning
      refine ⟨hfinite, ?_⟩
      simp [Holdings.takeDown, TimerEvent.kind]
      omega
  | expire client timer container hrunning hlinks hidle =>
      obtain ⟨hfinite, hless⟩ := hh.takeDown hrunning
      refine ⟨hfinite, ?_⟩
      simp only [hidle, Option.toList_none, List.length_nil] at hcount
      simp [Holdings.takeDown]
      omega
  | callBack client timer time hcalling =>
      refine ⟨hh.finite, ?_⟩
      simp only [hcalling, Option.toList_some, List.length_cons, List.length_nil] at hcount
      simp [TimerEvent.kind]
      omega
  | push container timer rest hqueue =>
      refine ⟨hh.finite, ?_⟩
      simpa [TimerEvent.kind] using hcount
  | delete timer hdoomed hidle =>
      refine ⟨hh.finite, ?_⟩
      simpa [TimerEvent.kind] using hcount

end Holdings

namespace MsgTask

/-- The timers that the message task looks at or will delete. -/
def timers : MsgTask → List LocTimerDelegate
  | .updateSoonestTime _ priorTop doomed => priorTop.toList ++ doomed.toList
  | .setTime _ _ doomed => doomed.toList
  | .delete timer | .expire _ _ timer | .stop _ _ timer _ => [timer]
  | .receive | .timeOut .. | .popIfOutRanks .. => []

end MsgTask

namespace TimerService

open Holdings

/-- The prior top that an update compares with is in the heap. -/
def PriorHeld (s : TimerService) : Prop :=
  ∀ container prior doomed, s.msgTask = .updateSoonestTime container (some prior) doomed →
    prior ∈ (s.container container).heap.elements

/-- Only the message task changes heaps. -/
theorem msgTask_frame {s s' : TimerService} {action : TimerAction} (haction : action ≠ .msgTask)
    (hstep : s.step action = some s') :
    s'.msgTask = s.msgTask ∧ s'.holdings.heap = s.holdings.heap := by
  cases step_cases hstep with
  | tick | stopIdle | epollWait | sendMsg => exact ⟨rfl, rfl⟩
  | start client timeOutInMs wakeOnExpire =>
      unfold start
      split <;> exact ⟨rfl, rfl⟩
  | stop client timer hrunning =>
      have hstop : (s.stop client).1.msgTask = s.msgTask ∧
          (s.stop client).1.holdings.heap = s.holdings.heap := by
        simp only [stop, hrunning]
        unfold destroyLocked
        split <;> exact ⟨rfl, rfl⟩
      exact hstop
  | timerfdSettime container events hpollTask =>
      exact ⟨rfl, congrArg Holdings.heap (holdings_timerfdSettime s container none)⟩
  | removePoll container events hpollTask =>
      exact ⟨rfl, congrArg Holdings.heap (holdings_setPoll s container false)⟩
  | msgTask => exact absurd rfl haction

/-- Only a push names a prior top, and it leaves the prior top in the heap. -/
theorem priorHeld_msgTaskStep {s s' : TimerService} (hstep : s.msgTaskStep = some s') :
    s'.PriorHeld := by
  intro b prior doomed' hnext
  cases msgTaskStep_cases hstep with
  | receive msg rest hmsgTask hqueue =>
      cases msg with
      | timerPush container mTimer =>
          simp only [proc, MsgTask.updateSoonestTime.injEq] at hnext
          obtain ⟨rfl, hprior, -⟩ := hnext
          -- The prior top was peeked at before the push, and a push takes nothing out.
          have hmem : prior ∈ (s.container container).heap.elements := by
            obtain ⟨-, -, helements⟩ := (s.container container).heap.consistent.peek_some hprior
            rw [helements]
            exact Multiset.mem_cons_self _ _
          have helements : ((s.container container).heap.push mTimer).elements =
              mTimer ::ₘ (s.container container).heap.elements := LocHeap.elements_push _ _
          have hheap := congrFun (congrArg Holdings.heap (holdings_setHeap
            ((s.taking (.timerPush container mTimer) rest).record (.pushed mTimer.address))
            container ((s.container container).heap.push mTimer))) container
          simp only [holdings, Function.update_self] at hheap
          simp only [proc]
          change prior ∈ (((((s.taking (.timerPush container mTimer) rest).record
            (.pushed mTimer.address)).setHeap container
            ((s.container container).heap.push mTimer)).container container).heap).elements
          rw [hheap, helements]
          exact Multiset.mem_cons_of_mem hmem
      | timerRemove container mTimer =>
          simp only [proc] at hnext
          split_ifs at hnext
          cases hnext
      | timerExpire container =>
          simp only [proc] at hnext
          split at hnext <;> cases hnext
  | updateSoonestTime container priorTop doomed hmsgTask =>
      -- The update is over in fewer steps than another one would need.
      have hwork := (work_updateSoonestTime s container priorTop doomed).2.2
      rw [hnext] at hwork
      simp [MsgTask.work] at hwork
  | setTime container delay doomed hmsgTask => cases doomed <;> cases hnext
  -- The update after the last pop has no prior top.
  | delete | expireReleased | expire | stopIdle | stop | timeOut | popNone | pop => cases hnext

theorem PriorHeld.step {s s' : TimerService} {action : TimerAction} (hs : s.PriorHeld)
    (hstep : s.step action = some s') : s'.PriorHeld := by
  by_cases haction : action = .msgTask
  · subst haction
    exact priorHeld_msgTaskStep hstep
  · obtain ⟨hmsgTask, hheap⟩ := msgTask_frame haction hstep
    intro container prior doomed hnext
    have hsame : (s'.container container).heap = (s.container container).heap :=
      congrFun hheap container
    rw [hsame]
    exact hs container prior doomed (hmsgTask ▸ hnext)

/-! ## Runs -/

/-- A client, a message, a heap or the message task refers to the delegate. -/
def Refers (s : TimerService) (address : Nat) : Prop :=
  (∃ client timer, s.mTimer client = some timer ∧ timer.address = address) ∨
  (∃ msg ∈ s.queue, ∃ timer, msg.timer? = some timer ∧ timer.address = address) ∨
  (∃ container, ∃ timer ∈ (s.container container).heap.elements, timer.address = address) ∨
  ∃ timer ∈ s.msgTask.timers, timer.address = address

/-- A client runs the delegate. -/
def Runs (s : TimerService) (address : Nat) : Prop :=
  ∃ client timer, s.mTimer client = some timer ∧ timer.address = address

/-- What is invariant about the delegates. -/
structure KeepsAccount (s : TimerService) : Prop where
  kept : ∃ table, Kept table s.holdings
  tallied : s.holdings.Tallied
  priorHeld : s.PriorHeld

theorem KeepsAccount.step {s s' : TimerService} {action : TimerAction} (hs : s.KeepsAccount)
    (hstep : s.step action = some s') : s'.KeepsAccount := by
  obtain ⟨table, hkept⟩ := hs.kept
  have hhandover := handover_step hkept.linked hstep
  exact ⟨hkept.handover hhandover, hs.tallied.handover hhandover, hs.priorHeld.step hstep⟩

theorem keepsAccount_of_runFrom {now : TimeSpec} {s s' : TimerService}
    {actions : List TimerAction} (hs : s.KeepsAccount)
    (hrun : (system now).runFrom s actions = some s') : s'.KeepsAccount :=
  Transition.System.guarded_invariant (fun _ _ => True)
    (fun _ _ _ hs _ hstep => hs.step hstep) hs
    (Transition.System.guarded_of_forall (fun _ _ => trivial) _ _) hrun

theorem keepsAccount_initial (now : TimeSpec) : (initial now).KeepsAccount := by
  have hledger : ∀ address, (initial now).holdings.ledger address =
      ⟨0, 0, 0, 0, 0, 0, 0, 0, 0, 0, 0⟩ := fun address => rfl
  have htable : ∀ b, ((initial now).holdings.heap b).elements = 0 := fun b => rfl
  constructor
  · refine ⟨fun address => (⟨address, now⟩, false), ?_⟩
    constructor
    · exact ⟨(fun _ _ hrunning => by cases hrunning), (fun _ _ _ hlinks => by cases hlinks)⟩
    · intro address
      rw [hledger]
      constructor <;> simp
    · intro address _
      rw [hledger]
    · exact fun _ _ _ hrunning => by cases hrunning
    · exact fun _ hmem => by cases hmem
    · intro b timer hmem
      rw [htable] at hmem
      exact absurd hmem (Multiset.notMem_zero timer)
    · exact List.Pairwise.nil
    · exact fun _ hpopped => by cases hpopped
  · have hnobody : runningClients (initial now).holdings.mTimer = ∅ := by
      simp [runningClients, initial, holdings]
    constructor
    · rw [hnobody]
      exact Set.finite_empty
    · rw [hnobody, Set.ncard_empty]
      rfl
  · exact fun _ _ _ hnext => by cases hnext

theorem KeepsAccount.running_iff {s : TimerService} (hs : s.KeepsAccount) (address : Nat) :
    s.Runs address ↔ (s.holdings.ledger address).running = 1 := by
  obtain ⟨table, hkept⟩ := hs.kept
  constructor
  · rintro ⟨client, timer, hrunning, rfl⟩
    obtain ⟨container, hlinks⟩ := hkept.linked.running client timer hrunning
    exact running_eq_one hlinks
  · intro hrunning
    simp only [ledger] at hrunning
    split_ifs at hrunning with hclient
    obtain ⟨client, hclient⟩ := Option.isSome_iff_exists.mp hclient
    rw [Option.bind_eq_some_iff] at hclient
    obtain ⟨links, hlinks, hclient⟩ := hclient
    obtain ⟨timer, htimer, haddress⟩ := hkept.linked.client address client links.mContainer
      (by rw [hlinks, ← hclient])
    exact ⟨client, timer, htimer, haddress⟩

/-- Whoever is referred to is not deleted. -/
theorem KeepsAccount.deleted_of_refers {s : TimerService} (hs : s.KeepsAccount) {address : Nat}
    (hrefers : s.Refers address) : happened .deleted address s.log = 0 := by
  -- Who waits to be pushed or removed, runs or is in a heap has entries that a
  -- deleted one lacks; the others are in the hands of the message task.
  obtain ⟨table, hkept⟩ := hs.kept
  have hbalanced := hkept.balanced address
  have hgone := hbalanced.gone
  have howned := hbalanced.owned
  have honce := hbalanced.once
  have hdeleted : (s.holdings.ledger address).deleted = happened .deleted address s.log := rfl
  have hheld : ∀ timer, timer.address = address →
      (∃ container, timer ∈ (s.container container).heap.elements) →
      happened .deleted address s.log = 0 := by
    rintro timer rfl ⟨container, hmem⟩
    have hpos := Kept.inHeap_pos (h := s.holdings) hmem
    omega
  rcases hrefers with hruns | ⟨msg, hmem, timer, htimer, rfl⟩ | ⟨container, timer, hmem, haddress⟩ |
    ⟨timer, hmem, rfl⟩
  · have hrunning := (hs.running_iff address).mp hruns
    omega
  · have hpos := pos_of_queue (h := s.holdings) hmem htimer
    omega
  · exact hheld timer haddress ⟨container, hmem⟩
  · have hdoomed : s.msgTask.doomed = some timer → happened .deleted timer.address s.log = 0 := by
      intro hdoomed
      have hcount : (s.holdings.ledger timer.address).doomed = 1 := by
        simp [ledger, holdings, hdoomed]
      omega
    cases hmsgTask : s.msgTask with
    | updateSoonestTime container priorTop doomed =>
        rw [hmsgTask, MsgTask.timers, List.mem_append, Option.mem_toList, Option.mem_toList] at hmem
        rcases hmem with hprior | hmem
        · exact hheld timer rfl ⟨container, hs.priorHeld container timer doomed (hprior ▸ hmsgTask)⟩
        · exact hdoomed (hmsgTask ▸ hmem)
    | setTime container delay doomed =>
        rw [hmsgTask, MsgTask.timers, Option.mem_toList] at hmem
        exact hdoomed (hmsgTask ▸ hmem)
    | delete mTimer =>
        rw [hmsgTask, MsgTask.timers, List.mem_singleton] at hmem
        exact hdoomed (by rw [hmsgTask, hmem]; rfl)
    | expire | stop =>
        rw [hmsgTask, MsgTask.timers, List.mem_singleton] at hmem
        exact hkept.popped timer (by simp [holdings, hmsgTask, MsgTask.popped, hmem])
    | receive | timeOut | popIfOutRanks => simp [hmsgTask, MsgTask.timers] at hmem

/-- What the log and the state say about every start. -/
structure Accounted (s : TimerService) : Prop where
  outcomes : ∀ address, happened .timedOut address s.log + happened .stopped address s.log ≤
    happened .started address s.log ∧ happened .started address s.log ≤ 1
  finite : (runningClients s.mTimer).Finite
  count : total .started s.log = total .timedOut s.log + total .stopped s.log +
    (runningClients s.mTimer).ncard + s.msgTask.calling.toList.length
  once : ∀ address, happened .pushed address s.log ≤ happened .started address s.log ∧
    happened .deleted address s.log ≤ happened .started address s.log
  alive : ∀ address, s.Refers address → happened .deleted address s.log = 0
  settled : ∃ count s', (system s.now).runFrom s (List.replicate count .msgTask) = some s' ∧
    s'.msgTask = .receive ∧ s'.queue = [] ∧
    ∀ address, happened .started address s'.log = 1 →
      happened .pushed address s'.log = 1 ∧
      (¬ s'.Runs address → happened .deleted address s'.log = 1)

/-- With no message to process, what was started is pushed, and deleted unless
it runs. -/
theorem KeepsAccount.at_rest {s : TimerService} (hs : s.KeepsAccount)
    (hreceive : s.msgTask = .receive) (hqueue : s.queue = []) {address : Nat}
    (hstarted : happened .started address s.log = 1) :
    happened .pushed address s.log = 1 ∧
      (¬ s.Runs address → happened .deleted address s.log = 1) := by
  obtain ⟨table, hkept⟩ := hs.kept
  have hbalanced := hkept.balanced address
  have hplaced := hbalanced.placed
  have howned := hbalanced.owned
  have hruns := hs.running_iff address
  have hidle : (s.holdings.ledger address).pushing = 0 ∧
      (s.holdings.ledger address).removing = 0 ∧ (s.holdings.ledger address).doomed = 0 := by
    simp [ledger, holdings, hqueue, hreceive, MsgTask.doomed]
  have hledger : (s.holdings.ledger address).started = happened .started address s.log ∧
      (s.holdings.ledger address).pushed = happened .pushed address s.log ∧
      (s.holdings.ledger address).deleted = happened .deleted address s.log := ⟨rfl, rfl, rfl⟩
  refine ⟨by omega, fun hnot => ?_⟩
  rw [hruns] at hnot
  omega

theorem KeepsAccount.accounted {s : TimerService} (hs : s.KeepsAccount) : s.Accounted := by
  obtain ⟨table, hkept⟩ := hs.kept
  have hledger : ∀ address, happened .started address s.log =
        (s.holdings.ledger address).started ∧
      happened .pushed address s.log = (s.holdings.ledger address).pushed ∧
      happened .deleted address s.log = (s.holdings.ledger address).deleted ∧
      happened .timedOut address s.log = (s.holdings.ledger address).timedOut ∧
      happened .stopped address s.log = (s.holdings.ledger address).stopped :=
    fun _ => ⟨rfl, rfl, rfl, rfl, rfl⟩
  constructor
  · intro address
    obtain ⟨hstarted, -, -, htimedOut, hstopped⟩ := hledger address
    have hended := (hkept.balanced address).ended
    have honce := (hkept.balanced address).once
    omega
  · exact hs.tallied.finite
  · exact hs.tallied.count
  · intro address
    obtain ⟨hstarted, hpushed, hdeleted, -, -⟩ := hledger address
    have hplaced := (hkept.balanced address).placed
    have howned := (hkept.balanced address).owned
    omega
  · exact fun address hrefers => hs.deleted_of_refers hrefers
  · obtain ⟨count, s', hrun, hreceive, hqueue⟩ := msgTask_finishes s.now s
    have hs' := keepsAccount_of_runFrom hs hrun
    exact ⟨count, s', hrun, hreceive, hqueue, fun address => hs'.at_rest hreceive hqueue⟩

/-- In every state of every run, each start has one outcome at most, the starts
are the callbacks, stops, running timers and the callback about to be made,
each delegate is pushed once and deleted once when the message task has worked
off its queue, and nobody refers to a deleted one. -/
theorem accounted_throughout (now : TimeSpec) (actions : List TimerAction) :
    (system now).Throughout Accounted (initial now) actions :=
  Transition.System.throughout_of_guarded KeepsAccount (fun _ hs => hs.accounted)
    (fun _ _ _ hs _ hstep => hs.step hstep) (keepsAccount_initial now)
    (Transition.System.guarded_of_forall (fun _ _ => trivial) _ _)

/-- Every start is a callback, a stop or a running timer already. -/
def OutcomesCounted (s : TimerService) : Prop :=
  total .started s.log = total .timedOut s.log + total .stopped s.log +
    (runningClients s.mTimer).ncard

/-- Between its `stop` and its callback, an expired timer is neither running
nor stopped by its client nor called back. -/
theorem callback_about_to_be_made :
    ¬ (system uptime).Throughout OutcomesCounted (initial uptime)
      [.start 0 0 false, .msgTask, .msgTask, .msgTask, .epollWait [false], .pollTask, .pollTask,
        .pollTask, .msgTask, .msgTask, .msgTask] := by
  intro hall
  have hrun : ((system uptime).runFrom (initial uptime)
      [.start 0 0 false, .msgTask, .msgTask, .msgTask, .epollWait [false], .pollTask, .pollTask,
        .pollTask, .msgTask, .msgTask, .msgTask]).any (·.msgTask.calling.isSome) = true := by
    decide
  rw [Option.any_eq_true] at hrun
  obtain ⟨s, hrun, hcalling⟩ := hrun
  -- The true count has one callback more.
  have hcounted : s.OutcomesCounted := hall.of_runFrom hrun
  have htallied := (keepsAccount_of_runFrom (keepsAccount_initial uptime) hrun).tallied.count
  obtain ⟨stopped, hstopped⟩ := Option.isSome_iff_exists.mp hcalling
  simp only [holdings, hstopped, Option.toList_some, List.length_cons, List.length_nil]
    at htallied
  rw [OutcomesCounted] at hcounted
  omega

end TimerService

end Serrano.Timer
