import Serrano.Timer.Ledger

/-! # The life of a delegate

Every handover makes one entry in the ledger of one delegate and leaves the
others alone. With it, everybody who holds a delegate goes on calling it by the
name under which it was allocated.
-/

namespace Serrano.Timer

namespace Holdings

/-! ## What every run keeps -/

/-- The message names its delegate and container as the table does. -/
def Named (table : Nat → LocTimerDelegate × Bool) (msg : LocMsg) : Prop :=
  ∀ timer, msg.timer? = some timer → table timer.address = (timer, msg.container)

/-- `table` says for every address which delegate was allocated there, and
which container it belongs to. -/
structure Kept (table : Nat → LocTimerDelegate × Bool) (h : Holdings) : Prop where
  linked : h.Linked
  balanced : ∀ address, (h.ledger address).Balanced
  fresh : ∀ address, h.allocated ≤ address → (h.ledger address).started = 0
  running : ∀ client timer container, h.mTimer client = some timer →
    h.links timer.address = some ⟨some client, some container⟩ →
    table timer.address = (timer, container)
  queue : ∀ msg ∈ h.queue, Named table msg
  heap : ∀ container, ∀ timer ∈ (h.heap container).elements,
    table timer.address = (timer, container)
  order : h.queue.Pairwise fun first second =>
    ∀ address, first.removes address = true → second.pushes address = false
  popped : ∀ timer, h.popped = some timer → (h.ledger timer.address).deleted = 0

section Moves

variable {table : Nat → LocTimerDelegate × Bool} {h h' : Holdings}

theorem running_eq_one {client : Nat} {timer : LocTimerDelegate}
    {container : Bool}
    (hlinks : h.links timer.address = some ⟨some client, some container⟩) :
    (h.ledger timer.address).running = 1 := by
  simp [ledger, hlinks]

/-- A removal follows the push of its delegate. -/
theorem Kept.pushing_eq_zero (hh : Kept table h) {container : Bool} {timer : LocTimerDelegate}
    {rest : List LocMsg} (hqueue : h.queue = .timerRemove container timer :: rest) :
    (h.ledger timer.address).pushing = 0 := by
  have horder := hh.order
  rw [hqueue, List.pairwise_cons] at horder
  simp only [ledger, hqueue, List.countP_eq_zero]
  intro msg hmem
  rcases List.mem_cons.mp hmem with rfl | hmem
  · simp [LocMsg.pushes]
  · simp [horder.1 msg hmem timer.address (by simp [LocMsg.removes])]

/-- A removal takes the last entry of its delegate out of the heaps. -/
theorem Kept.heldIn_remove (hh : Kept table h) {container : Bool} {timer : LocTimerDelegate}
    (hnamed : table timer.address = (timer, container)) :
    let heap := Function.update h.heap container ((h.heap container).remove timer).1
    heldIn (heap false) timer.address + heldIn (heap true) timer.address = 0 := by
  have hbalanced := hh.balanced timer.address
  have hheaped := hbalanced.heaped
  have hplaced := hbalanced.placed
  have honce := hbalanced.once
  have hchange := heldIn_update h.heap container ((h.heap container).remove timer).1 timer.address
  have hother : heldIn (h.heap false) timer.address + heldIn (h.heap true) timer.address =
      heldIn (h.heap container) timer.address := by
    -- The table gives the delegate to one container.
    have hnone : heldIn (h.heap !container) timer.address = 0 := by
      rw [heldIn_eq_zero_iff]
      intro other hmem haddress
      have hother := hh.heap _ other hmem
      rw [haddress, hnamed, Prod.mk.injEq] at hother
      cases container <;> simp at hother
    cases container
    · exact Nat.add_eq_left.mpr hnone
    · exact Nat.add_eq_right.mpr hnone
  rcases remove_cases (h.heap container) timer with ⟨habsent, hsame⟩ | helements
  · have hnone : heldIn (h.heap container) timer.address = 0 := by
      rw [heldIn_eq_zero_iff]
      intro other hmem haddress
      have hother := hh.heap container other hmem
      rw [haddress, hnamed, Prod.mk.injEq] at hother
      exact habsent (hother.1 ▸ hmem)
    rw [hsame] at hchange
    dsimp only
    rw [hsame]
    omega
  · have hheld := heldIn_of_elements helements timer.address
    rw [if_pos rfl] at hheld
    simp only [ledger] at hheaped hplaced honce
    dsimp only
    omega

/-- What a handover says about one delegate, for a message at the head of the queue. -/
theorem countP_of_queue {p : LocMsg → Bool} {msg : LocMsg} {rest : List LocMsg}
    (hqueue : h.queue = msg :: rest) :
    h.queue.countP p = rest.countP p + if p msg then 1 else 0 := by
  rw [hqueue, List.countP_cons]

/-- A push enters its own delegate in a heap. -/
theorem move_push {container : Bool} {timer : LocTimerDelegate} {rest : List LocMsg}
    (hqueue : h.queue = .timerPush container timer :: rest) (address : Nat) :
    (h.ledger address).Move (ledger { h with
      queue := rest
      heap := Function.update h.heap container ((h.heap container).push timer)
      log := h.log ++ [.pushed timer.address] } address) := by
  have hpushing := countP_of_queue (p := LocMsg.pushes address) hqueue
  have hremoving := countP_of_queue (p := LocMsg.removes address) hqueue
  have hheld := heldIn_update h.heap container ((h.heap container).push timer) address
  rw [heldIn_push] at hheld
  by_cases haddress : timer.address = address
  · simp only [LocMsg.pushes, LocMsg.removes, haddress, decide_true, if_true,
      Bool.false_eq_true, if_false] at hpushing hremoving hheld
    have hpos : 0 < (h.ledger address).pushing := by
      simp only [ledger]
      omega
    convert Ledger.Move.push _ hpos using 1
    simp only [ledger, happened_append, TimerEvent.kind, TimerEvent.timer, haddress,
      Ledger.mk.injEq]
    simp
    omega
  · simp only [LocMsg.pushes, LocMsg.removes, haddress, decide_false,
      Bool.false_eq_true, if_false, Nat.add_zero] at hpushing hremoving hheld
    convert Ledger.Move.stay _ using 1
    simp only [ledger, happened_append, TimerEvent.kind, TimerEvent.timer, haddress,
      Ledger.mk.injEq]
    simp
    omega

/-- A removal leaves its own delegate in no heap, and is about to delete it. -/
theorem Kept.move_remove (hh : Kept table h) {container : Bool} {timer : LocTimerDelegate}
    {rest : List LocMsg} (hqueue : h.queue = .timerRemove container timer :: rest)
    (hidle : h.doomed = none) (address : Nat) :
    (h.ledger address).Move (ledger { h with
      queue := rest
      heap := Function.update h.heap container ((h.heap container).remove timer).1
      doomed := some timer } address) := by
  have hpushing := countP_of_queue (p := LocMsg.pushes address) hqueue
  have hremoving := countP_of_queue (p := LocMsg.removes address) hqueue
  by_cases haddress : timer.address = address
  · subst haddress
    have hnamed : table timer.address = (timer, container) :=
      hh.queue (.timerRemove container timer) (hqueue ▸ List.mem_cons_self) timer rfl
    have hgone := hh.heldIn_remove hnamed
    simp only [LocMsg.pushes, LocMsg.removes, decide_true, if_true, Bool.false_eq_true,
      if_false, Nat.add_zero] at hpushing hremoving
    have hpos : 0 < (h.ledger timer.address).removing := by
      simp only [ledger]
      omega
    convert Ledger.Move.remove _ hpos (hh.pushing_eq_zero hqueue) using 1
    simp only [ledger, hidle, isAt_none, isAt_some, Ledger.mk.injEq]
    simp
    omega
  · have hsame : heldIn ((h.heap container).remove timer).1 address =
        heldIn (h.heap container) address := by
      rcases remove_cases (h.heap container) timer with ⟨-, hsame⟩ | helements
      · rw [hsame]
      · rw [heldIn_of_elements helements address, if_neg haddress]
        rfl
    have hchange := heldIn_update h.heap container ((h.heap container).remove timer).1 address
    simp only [LocMsg.pushes, LocMsg.removes, haddress, decide_false, Bool.false_eq_true,
      if_false, Nat.add_zero] at hpushing hremoving
    convert Ledger.Move.stay _ using 1
    simp only [ledger, hidle, isAt_none, isAt_some, haddress, Ledger.mk.injEq]
    simp
    omega

/-- Every handover makes at most one entry in the ledger of a delegate. -/
theorem Kept.move (hh : Kept table h) (hstep : Handover h h') (address : Nat) :
    (h.ledger address).Move (h'.ledger address) := by
  cases hstep with
  | idle => exact .stay _
  | sendExpire container =>
      have hsame : ledger { h with queue := h.queue ++ [.timerExpire container] } address =
          h.ledger address := by
        simp [ledger, LocMsg.pushes, LocMsg.removes]
      exact hsame ▸ .stay _
  | start client startTime timeOutInMs container hstopped =>
      by_cases haddress : h.allocated = address
      · subst haddress
        convert Ledger.Move.start _ (hh.fresh h.allocated le_rfl) using 1
        simp [ledger, LocMsg.pushes, LocMsg.removes, TimerEvent.kind, TimerEvent.timer]
      · convert Ledger.Move.stay _ using 1
        simp [ledger, LocMsg.pushes, LocMsg.removes, TimerEvent.kind, TimerEvent.timer, haddress,
          Function.update_of_ne (Ne.symm haddress)]
  | stop client timer container hrunning hlinks =>
      by_cases haddress : timer.address = address
      · subst haddress
        convert Ledger.Move.stop _ (running_eq_one hlinks) using 1
        simp [ledger, takeDown, LocMsg.pushes, LocMsg.removes, TimerEvent.kind, TimerEvent.timer]
      · convert Ledger.Move.stay _ using 1
        simp [ledger, takeDown, LocMsg.pushes, LocMsg.removes, TimerEvent.kind, TimerEvent.timer,
          haddress, Function.update_of_ne (Ne.symm haddress)]
  | expire client timer container hrunning hlinks hidle =>
      by_cases haddress : timer.address = address
      · subst haddress
        convert Ledger.Move.expire _ (running_eq_one hlinks) using 1
        simp [ledger, takeDown, LocMsg.pushes, LocMsg.removes, hidle]
      · convert Ledger.Move.stay _ using 1
        simp [ledger, takeDown, LocMsg.pushes, LocMsg.removes, haddress, hidle,
          Function.update_of_ne (Ne.symm haddress)]
  | callBack client timer time hcalling =>
      by_cases haddress : timer.address = address
      · subst haddress
        have hcount : (h.ledger timer.address).calling = 1 := by simp [ledger, hcalling]
        convert Ledger.Move.callBack _ (hcount ▸ Nat.one_pos) using 1
        simp [ledger, hcalling, TimerEvent.kind, TimerEvent.timer]
      · convert Ledger.Move.stay _ using 1
        simp [ledger, hcalling, haddress, TimerEvent.kind, TimerEvent.timer]
  | push container timer rest hqueue => exact move_push hqueue address
  | remove container timer rest hqueue hidle => exact hh.move_remove hqueue hidle address
  | takeExpire container rest hqueue =>
      have hpushing := countP_of_queue (p := LocMsg.pushes address) hqueue
      have hremoving := countP_of_queue (p := LocMsg.removes address) hqueue
      simp only [LocMsg.pushes, LocMsg.removes, Bool.false_eq_true, if_false, Nat.add_zero]
        at hpushing hremoving
      rcases heldIn_pop h.heap container address with hsame | htaken
      · convert Ledger.Move.stay _ using 1
        simp only [ledger, hpushing, hremoving, hsame]
      · convert Ledger.Move.pop _ using 1
        simp only [ledger, hpushing, hremoving, htaken]
  | popNext container =>
      rcases heldIn_pop h.heap container address with hsame | htaken
      · convert Ledger.Move.stay _ using 1
        simp only [ledger, hsame]
      · convert Ledger.Move.pop _ using 1
        simp only [ledger, htaken]
  | release => exact .stay _
  | delete timer hdoomed hidle =>
      by_cases haddress : timer.address = address
      · subst haddress
        have hcount : (h.ledger timer.address).doomed = 1 := by simp [ledger, hdoomed]
        have hbalanced := hh.balanced timer.address
        -- What is about to be deleted runs no more, so clearing its links changes no count.
        have hstill : (h.ledger timer.address).running = 0 := by
          have howned := hbalanced.owned
          have honce := hbalanced.once
          omega
        convert Ledger.Move.delete _ (hcount ▸ Nat.one_pos) using 1
        simp only [ledger] at hstill hcount ⊢
        simp [hdoomed, hstill, TimerEvent.kind, TimerEvent.timer]
      · convert Ledger.Move.stay _ using 1
        simp [ledger, hdoomed, haddress, TimerEvent.kind, TimerEvent.timer,
          Function.update_of_ne (Ne.symm haddress)]

end Moves

section Linked

variable {h : Holdings}

theorem Linked.address_ne (hl : h.Linked) {client other : Nat} {timer timer' : LocTimerDelegate}
    (hne : other ≠ client) (hrunning : h.mTimer client = some timer)
    (hother : h.mTimer other = some timer') : timer'.address ≠ timer.address := by
  intro haddress
  obtain ⟨container, hlinks⟩ := hl.running client timer hrunning
  obtain ⟨container', hlinks'⟩ := hl.running other timer' hother
  rw [haddress, hlinks] at hlinks'
  cases hlinks'
  exact hne rfl

theorem Linked.takeDown (hl : h.Linked) {client : Nat} {timer : LocTimerDelegate}
    {container : Bool} (hrunning : h.mTimer client = some timer)
    (hlinks : h.links timer.address = some ⟨some client, some container⟩) :
    (h.takeDown client timer container).Linked := by
  constructor
  · intro other timer' hother
    by_cases hne : other = client
    · simp [Holdings.takeDown, hne] at hother
    · simp only [Holdings.takeDown, Function.update_of_ne hne] at hother ⊢
      rw [Function.update_of_ne (hl.address_ne hne hrunning hother)]
      exact hl.running other timer' hother
  · intro address other container' hother
    by_cases haddress : address = timer.address
    · simp [Holdings.takeDown, haddress] at hother
    · simp only [Holdings.takeDown, Function.update_of_ne haddress] at hother ⊢
      obtain ⟨timer', hrunning', hat⟩ := hl.client address other container' hother
      refine ⟨timer', ?_, hat⟩
      rw [Function.update_of_ne, hrunning']
      rintro rfl
      rw [hrunning, Option.some.injEq] at hrunning'
      exact haddress (hrunning' ▸ hat.symm)

theorem Linked.start (hl : h.Linked) {client : Nat} {timer : LocTimerDelegate}
    {container : Bool} (hstopped : h.mTimer client = none)
    (hfree : ∀ client container, h.links timer.address ≠ some ⟨some client, container⟩) :
    Linked { h with
      mTimer := Function.update h.mTimer client (some timer)
      links := Function.update h.links timer.address (some ⟨some client, some container⟩) } := by
  constructor
  · intro other timer' hother
    by_cases hne : other = client
    · subst hne
      simp only [Function.update_self, Option.some.injEq] at hother
      subst hother
      exact ⟨container, Function.update_self _ _ _⟩
    · simp only [Function.update_of_ne hne] at hother
      obtain ⟨container', hlinks⟩ := hl.running other timer' hother
      refine ⟨container', ?_⟩
      dsimp only
      rw [Function.update_of_ne, hlinks]
      intro haddress
      exact hfree _ _ (haddress ▸ hlinks)
  · intro address other container' hother
    by_cases haddress : address = timer.address
    · subst haddress
      simp only [Function.update_self, Option.some.injEq, DelegateLinks.mk.injEq] at hother
      exact ⟨timer, by simp [hother.1], rfl⟩
    · simp only [Function.update_of_ne haddress] at hother
      obtain ⟨timer', hrunning, hat⟩ := hl.client address other container' hother
      refine ⟨timer', ?_, hat⟩
      dsimp only
      rw [Function.update_of_ne, hrunning]
      rintro rfl
      rw [hstopped] at hrunning
      cases hrunning

theorem Linked.delete (hl : h.Linked) {address : Nat}
    (hfree : ∀ client container, h.links address ≠ some ⟨some client, container⟩) :
    Linked { h with links := Function.update h.links address none } := by
  constructor
  · intro client timer hrunning
    obtain ⟨container, hlinks⟩ := hl.running client timer hrunning
    refine ⟨container, ?_⟩
    dsimp only
    rw [Function.update_of_ne, hlinks]
    intro haddress
    exact hfree _ _ (haddress ▸ hlinks)
  · intro other client container hother
    by_cases haddress : other = address
    · simp [haddress] at hother
    · simp only [Function.update_of_ne haddress] at hother
      exact hl.client other client container hother

end Linked

/-! ## A handover keeps everything -/

section Kept

variable {table : Nat → LocTimerDelegate × Bool} {h h' : Holdings}

theorem Kept.lt_allocated (hh : Kept table h) {address : Nat}
    (hstarted : 0 < (h.ledger address).started) : address < h.allocated := by
  by_contra hge
  have hfresh := hh.fresh address (by omega)
  omega

theorem Kept.lt_of_queue (hh : Kept table h) {msg : LocMsg} (hmem : msg ∈ h.queue)
    {timer : LocTimerDelegate} (htimer : msg.timer? = some timer) :
    timer.address < h.allocated := by
  have hbalanced := hh.balanced timer.address
  have hplaced := hbalanced.placed
  have howned := hbalanced.owned
  have hpos := pos_of_queue hmem htimer
  apply hh.lt_allocated
  omega

theorem Kept.inHeap_pos {container : Bool} {timer : LocTimerDelegate}
    (hmem : timer ∈ (h.heap container).elements) : 0 < (h.ledger timer.address).inHeap := by
  have hheld : heldIn (h.heap container) timer.address ≠ 0 := by
    rw [Ne, heldIn_eq_zero_iff]
    exact fun hnone => hnone timer hmem rfl
  simp only [ledger]
  cases container <;> omega

theorem Kept.lt_of_heap (hh : Kept table h) {container : Bool} {timer : LocTimerDelegate}
    (hmem : timer ∈ (h.heap container).elements) : timer.address < h.allocated := by
  have hbalanced := hh.balanced timer.address
  have hheaped := hbalanced.heaped
  have hplaced := hbalanced.placed
  have hheld := Kept.inHeap_pos hmem
  exact hh.lt_allocated (by omega)

theorem Kept.lt_of_running (hh : Kept table h) {address client : Nat} {container : Option Bool}
    (hlinks : h.links address = some ⟨some client, container⟩) : address < h.allocated := by
  have howned := (hh.balanced address).owned
  have hrunning : (h.ledger address).running = 1 := by simp [ledger, hlinks]
  exact hh.lt_allocated (by omega)

/-- A timer that was just popped is not deleted. -/
theorem Kept.deleted_of_pop (hh : Kept table h) {container : Bool} {timer : LocTimerDelegate}
    (hpop : (h.heap container).pop.2 = some timer) : (h.ledger timer.address).deleted = 0 := by
  rcases pop_cases (h.heap container) with ⟨hnone, -⟩ | ⟨top, htop, helements⟩
  · rw [hnone] at hpop
    cases hpop
  · rw [htop, Option.some.injEq] at hpop
    subst hpop
    have hgone := (hh.balanced top.address).gone
    have hheld : 0 < (h.ledger top.address).inHeap :=
      Kept.inHeap_pos (helements ▸ Multiset.mem_cons_self _ _)
    omega

/-- What a smaller heap leaves was in the heaps. -/
theorem mem_of_update {heaps : Bool → SortedHeap LocTimerDelegate.ranking} {container b : Bool}
    {heap : SortedHeap LocTimerDelegate.ranking} {timer : LocTimerDelegate}
    (hsmaller : ∀ other ∈ heap.elements, other ∈ (heaps container).elements)
    (hmem : timer ∈ (Function.update heaps container heap b).elements) :
    timer ∈ (heaps b).elements := by
  by_cases hb : b = container
  · subst hb
    rw [Function.update_self] at hmem
    exact hsmaller timer hmem
  · rwa [Function.update_of_ne hb] at hmem

theorem mem_of_pop {heap : SortedHeap LocTimerDelegate.ranking} {timer : LocTimerDelegate}
    (hmem : timer ∈ heap.pop.1.elements) : timer ∈ heap.elements := by
  rcases pop_cases heap with ⟨-, hsame⟩ | ⟨top, -, helements⟩
  · exact hsame ▸ hmem
  · rw [helements]
    exact Multiset.mem_cons_of_mem hmem

theorem mem_of_remove {heap : SortedHeap LocTimerDelegate.ranking}
    {removed timer : LocTimerDelegate} (hmem : timer ∈ (heap.remove removed).1.elements) :
    timer ∈ heap.elements := by
  rcases remove_cases heap removed with ⟨-, hsame⟩ | helements
  · exact hsame ▸ hmem
  · rw [helements]
    exact Multiset.mem_cons_of_mem hmem

/-- The queue without its first message. -/
theorem Kept.tail (hh : Kept table h) {msg : LocMsg} {rest : List LocMsg}
    (hqueue : h.queue = msg :: rest) :
    (∀ other ∈ rest, Named table other) ∧ rest.Pairwise fun first second =>
      ∀ address, first.removes address = true → second.pushes address = false := by
  have horder := hh.order
  rw [hqueue, List.pairwise_cons] at horder
  exact ⟨fun msg hmem => hh.queue msg (hqueue ▸ List.mem_cons_of_mem _ hmem), horder.2⟩

/-- The queue with one more message, which pushes nothing that is removed before. -/
theorem Kept.concat (hh : Kept table h) {msg : LocMsg} (hnamed : Named table msg)
    (hpushes : ∀ address, (h.ledger address).removing ≠ 0 → msg.pushes address = false) :
    (∀ other ∈ h.queue ++ [msg], Named table other) ∧
      (h.queue ++ [msg]).Pairwise fun first second =>
        ∀ address, first.removes address = true → second.pushes address = false := by
  constructor
  · intro other hmem
    rcases List.mem_append.mp hmem with hmem | hmem
    · exact hh.queue other hmem
    · exact List.mem_singleton.mp hmem ▸ hnamed
  · rw [List.pairwise_append]
    refine ⟨hh.order, List.pairwise_singleton _ _, fun first hfirst second hsecond => ?_⟩
    obtain rfl := List.mem_singleton.mp hsecond
    intro address hremoves
    apply hpushes
    have hpos : 0 < (h.ledger address).removing := List.countP_pos_iff.mpr ⟨first, hfirst, hremoves⟩
    omega

/-- Taking a timer down keeps everything that the log does not say. -/
theorem Kept.takeDown (hh : Kept table h) {client : Nat} {timer : LocTimerDelegate}
    {container : Bool} (hrunning : h.mTimer client = some timer)
    (hlinks : h.links timer.address = some ⟨some client, some container⟩) :
    let down := h.takeDown client timer container
    (∀ other timer' container', down.mTimer other = some timer' →
        down.links timer'.address = some ⟨some other, some container'⟩ →
        table timer'.address = (timer', container')) ∧
      (∀ msg ∈ down.queue, Named table msg) ∧
      down.queue.Pairwise fun first second =>
        ∀ address, first.removes address = true → second.pushes address = false := by
  have hnamed : Named table (.timerRemove container timer) := by
    intro timer' htimer
    obtain rfl := Option.some.inj htimer
    exact hh.running client timer container hrunning hlinks
  refine ⟨?_, hh.concat hnamed fun _ _ => rfl⟩
  intro other timer' container' hother hlinks'
  by_cases hne : other = client
  · simp [Holdings.takeDown, hne] at hother
  · simp only [Holdings.takeDown, Function.update_of_ne hne] at hother hlinks'
    rw [Function.update_of_ne (hh.linked.address_ne hne hrunning hother)] at hlinks'
    exact hh.running other timer' container' hother hlinks'

/-- A free address may be given any name. -/
theorem Kept.rename (hh : Kept table h) (name : LocTimerDelegate × Bool) :
    Kept (Function.update table h.allocated name) h := by
  have hsame : ∀ address, address < h.allocated →
      Function.update table h.allocated name address = table address :=
    fun address hlt => Function.update_of_ne (Nat.ne_of_lt hlt) _ _
  refine ⟨hh.linked, hh.balanced, hh.fresh, fun client timer container hrunning hlinks => ?_,
    fun msg hmem timer htimer => ?_, fun container timer hmem => ?_, hh.order, hh.popped⟩
  · rw [hsame _ (hh.lt_of_running hlinks)]
    exact hh.running client timer container hrunning hlinks
  · rw [hsame _ (hh.lt_of_queue hmem htimer)]
    exact hh.queue msg hmem timer htimer
  · rw [hsame _ (hh.lt_of_heap hmem)]
    exact hh.heap container timer hmem

/-- A start adds its delegate to the table. -/
theorem Kept.start (hh : Kept table h) {client timeOutInMs : Nat} {container : Bool}
    {startTime : TimeSpec} {timer : LocTimerDelegate} (hallocated : timer.address = h.allocated)
    (hstopped : h.mTimer client = none)
    (hstep : h' = { h with
      mTimer := Function.update h.mTimer client (some timer)
      links := Function.update h.links timer.address (some ⟨some client, some container⟩)
      allocated := h.allocated + 1
      queue := h.queue ++ [.timerPush container timer]
      log := h.log ++ [.started client timer.address startTime timeOutInMs] })
    (hbalanced : ∀ address, (h'.ledger address).Balanced) :
    Kept (Function.update table h.allocated (timer, container)) h' := by
  subst hstep
  have hrenamed := hh.rename (timer, container)
  have hname : Function.update table h.allocated (timer, container) timer.address =
      (timer, container) := by rw [hallocated, Function.update_self]
  have hnamed : Named (Function.update table h.allocated (timer, container))
      (.timerPush container timer) := by
    intro other hother
    obtain rfl := Option.some.inj hother
    exact hname
  have hremoving : (h.ledger h.allocated).removing = 0 := by
    have howned := (hh.balanced h.allocated).owned
    have hfresh := hh.fresh h.allocated le_rfl
    omega
  obtain ⟨hqueue, horder⟩ := hrenamed.concat hnamed fun address haddress => by
    simp only [LocMsg.pushes, hallocated, decide_eq_false_iff_not]
    rintro rfl
    exact haddress hremoving
  have hlinked : Linked { h with
      mTimer := Function.update h.mTimer client (some timer)
      links := Function.update h.links timer.address (some ⟨some client, some container⟩) } :=
    hh.linked.start hstopped fun _ _ hlinks =>
      lt_irrefl _ (hallocated ▸ hh.lt_of_running hlinks)
  refine ⟨⟨hlinked.running, hlinked.client⟩, hbalanced, fun address hge => ?_,
    fun other timer' container' hother hlinks => ?_, hqueue, hrenamed.heap, horder,
    fun popped hpopped => ?_⟩
  · have hne : timer.address ≠ address := hallocated ▸ Nat.ne_of_lt hge
    have hstarted := hh.fresh address (Nat.le_of_lt hge)
    simpa [ledger, TimerEvent.timer, hne] using hstarted
  · by_cases hne : other = client
    · subst hne
      simp only [Function.update_self, Option.some.injEq] at hother
      subst hother
      simp only [Function.update_self, Option.some.injEq, DelegateLinks.mk.injEq, true_and]
        at hlinks
      rw [← hlinks]
      exact hname
    · simp only [Function.update_of_ne hne] at hother
      obtain ⟨_, hlinks'⟩ := hh.linked.running other timer' hother
      have hlt := hh.lt_of_running hlinks'
      simp only [hallocated, Function.update_of_ne (Nat.ne_of_lt hlt)] at hlinks
      exact hrenamed.running other timer' container' hother hlinks
  · simpa [ledger, TimerEvent.kind] using hh.popped popped hpopped

/-- Every handover keeps everything; a start adds its delegate to the table. -/
theorem Kept.handover (hh : Kept table h) (hstep : Handover h h') : ∃ table', Kept table' h' := by
  -- The balances follow from the entries; the rest is about names and order.
  have hbalanced : ∀ address, (h'.ledger address).Balanced :=
    fun address => (hh.balanced address).move (hh.move hstep address)
  cases hstep with
  | idle => exact ⟨table, hh⟩
  | sendExpire container =>
      have hnamed : Named table (.timerExpire container) := fun _ htimer => by cases htimer
      obtain ⟨hqueue, horder⟩ := hh.concat hnamed fun _ _ => rfl
      exact ⟨table, ⟨hh.linked.running, hh.linked.client⟩, hbalanced, hh.fresh, hh.running, hqueue,
        hh.heap, horder, hh.popped⟩
  | start client startTime timeOutInMs container hstopped =>
      exact ⟨_, hh.start rfl hstopped rfl hbalanced⟩
  | stop client timer container hrunning hlinks =>
      obtain ⟨hrun, hqueue, horder⟩ := hh.takeDown hrunning hlinks
      have hlinked := hh.linked.takeDown hrunning hlinks
      refine ⟨table, ⟨hlinked.running, hlinked.client⟩, hbalanced, fun address hge => ?_, hrun,
        hqueue, hh.heap, horder, fun popped hpopped => ?_⟩
      · simpa [ledger, TimerEvent.kind] using hh.fresh address hge
      · simpa [ledger, TimerEvent.kind] using hh.popped popped hpopped
  | expire client timer container hrunning hlinks hidle =>
      obtain ⟨hrun, hqueue, horder⟩ := hh.takeDown hrunning hlinks
      have hlinked := hh.linked.takeDown hrunning hlinks
      exact ⟨table, ⟨hlinked.running, hlinked.client⟩, hbalanced, hh.fresh, hrun, hqueue, hh.heap,
        horder, fun popped hpopped => by cases hpopped⟩
  | callBack client timer time hcalling =>
      refine ⟨table, ⟨hh.linked.running, hh.linked.client⟩, hbalanced, fun address hge => ?_,
        hh.running, hh.queue, hh.heap, hh.order, fun popped hpopped => ?_⟩
      · simpa [ledger, TimerEvent.kind] using hh.fresh address hge
      · simpa [ledger, TimerEvent.kind] using hh.popped popped hpopped
  | push container timer rest hqueue =>
      obtain ⟨hnamed, horder⟩ := hh.tail hqueue
      refine ⟨table, ⟨hh.linked.running, hh.linked.client⟩, hbalanced, fun address hge => ?_,
        hh.running, hnamed, fun b other hmem => ?_, horder, fun popped hpopped => ?_⟩
      · simpa [ledger, TimerEvent.kind] using hh.fresh address hge
      · by_cases hb : b = container
        · subst hb
          simp only [Function.update_self] at hmem
          have helements : ((h.heap b).push timer).elements = timer ::ₘ (h.heap b).elements :=
            LocHeap.elements_push _ _
          rw [helements, Multiset.mem_cons] at hmem
          rcases hmem with rfl | hmem
          · exact hh.queue (.timerPush b other) (hqueue ▸ List.mem_cons_self) other rfl
          · exact hh.heap b other hmem
        · simp only [Function.update_of_ne hb] at hmem
          exact hh.heap b other hmem
      · simpa [ledger, TimerEvent.kind] using hh.popped popped hpopped
  | remove container timer rest hqueue hidle =>
      obtain ⟨hnamed, horder⟩ := hh.tail hqueue
      exact ⟨table, ⟨hh.linked.running, hh.linked.client⟩, hbalanced, hh.fresh, hh.running, hnamed,
        fun b other hmem => hh.heap b other (mem_of_update (fun _ => mem_of_remove) hmem), horder,
        hh.popped⟩
  | takeExpire container rest hqueue =>
      obtain ⟨hnamed, horder⟩ := hh.tail hqueue
      exact ⟨table, ⟨hh.linked.running, hh.linked.client⟩, hbalanced, hh.fresh, hh.running, hnamed,
        fun b other hmem => hh.heap b other (mem_of_update (fun _ => mem_of_pop) hmem), horder,
        fun popped hpopped => hh.deleted_of_pop hpopped⟩
  | popNext container =>
      exact ⟨table, ⟨hh.linked.running, hh.linked.client⟩, hbalanced, hh.fresh, hh.running,
        hh.queue, fun b other hmem => hh.heap b other (mem_of_update (fun _ => mem_of_pop) hmem),
        hh.order, fun popped hpopped => hh.deleted_of_pop hpopped⟩
  | release =>
      exact ⟨table, ⟨hh.linked.running, hh.linked.client⟩, hbalanced, hh.fresh, hh.running,
        hh.queue, hh.heap, hh.order, fun popped hpopped => by cases hpopped⟩
  | delete timer hdoomed hidle =>
      have hfree : ∀ client container,
          h.links timer.address ≠ some ⟨some client, container⟩ := by
        intro client container hlinks
        have hrunning : (h.ledger timer.address).running = 1 := by simp [ledger, hlinks]
        have hheld : (h.ledger timer.address).doomed = 1 := by simp [ledger, hdoomed]
        have howned := (hh.balanced timer.address).owned
        have honce := (hh.balanced timer.address).once
        omega
      have hlinked := hh.linked.delete hfree
      refine ⟨table, ⟨hlinked.running, hlinked.client⟩, hbalanced, fun address hge => ?_,
        fun other timer' container' hother hlinks => ?_, hh.queue, hh.heap, hh.order,
        fun popped hpopped => ?_⟩
      · simpa [ledger, TimerEvent.kind] using hh.fresh address hge
      · by_cases haddress : timer'.address = timer.address
        · simp [haddress] at hlinks
        · simp only [Function.update_of_ne haddress] at hlinks
          exact hh.running other timer' container' hother hlinks
      · rw [hidle] at hpopped
        cases hpopped

end Kept

end Holdings

end Serrano.Timer
