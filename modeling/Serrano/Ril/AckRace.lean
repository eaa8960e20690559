import Serrano.Foundation.Monitor
import Serrano.Ril.PendingRequests

/-! # Acknowledgements that race with the completion

The mutex covers only the search of the list. Here several threads acknowledge
one pending request while one thread completes it, and each read of the
`RequestInfo`, each send and the free is a step of its own. Readers of the
service lock do not exclude each other; a thread that waits for it stays where it
is. A read after the free finds anything.
-/

namespace Serrano.Ril

/-- Where a call of `RIL_onRequestAck` is, with what it read so far. -/
inductive AckPoint
  | called
  | search (socket_id : Nat)
  | found
  | located (socket_id : Nat)
  | lock (socket_id : Nat)
  | locked (socket_id : Nat)
  | send (socket_id : Nat) (serial : Int)
  | unlock
  | returned
  deriving DecidableEq

/-- Where the call of `RIL_onRequestComplete` is. -/
inductive CompletePoint
  | called
  | search (socket_id : Nat)
  | found
  | located (socket_id : Nat)
  | notLocal (socket_id : Nat)
  | notCancelled (socket_id : Nat)
  | lock (socket_id : Nat) (responseType : ResponseType)
  | locked (socket_id : Nat) (responseType : ResponseType)
  | respond (socket_id : Nat) (responseType : ResponseType)
  | send (socket_id : Nat) (responseType : ResponseType) (serial : Int)
  | unlock
  | free
  | returned
  deriving DecidableEq

/-- Reads of the request, with whether it was still allocated, and what the
client receives. -/
inductive RaceEvent
  | read (allocated : Bool)
  | acknowledgeRequest (slotId : Nat) (serial : Int)
  | response (slotId : Nat) (type : ResponseType) (serial : Int)
  deriving DecidableEq

/-- The calls with the token `pRI`, the lists and the memory. -/
structure Race where
  requests : Requests
  pRI : Nat
  acks : List AckPoint
  complete : CompletePoint
  log : List RaceEvent

/-- The next step of one of the calls, with what memory holds when the request
is not allocated, and whether the client has callbacks. -/
inductive RaceAction
  | ack (call : Nat) (stale : RequestInfo) (connected : Bool)
  | complete (stale : RequestInfo) (connected : Bool)

namespace Race

variable (k : Platform) (s : Race)

def record (event : RaceEvent) : Race := { s with log := s.log ++ [event] }

/-- The request as a read finds it, and the state with the read recorded. -/
def read (stale : RequestInfo) : RequestInfo × Race :=
  ((s.requests.memory s.pRI).getD stale, s.record (.read (s.requests.memory s.pRI).isSome))

def setAck (call : Nat) (point : AckPoint) : Race := { s with acks := s.acks.set call point }

def setComplete (point : CompletePoint) : Race := { s with complete := point }

/-- A step of `RIL_onRequestAck`. -/
def stepAck (call : Nat) (point : AckPoint) (stale : RequestInfo) (connected : Bool) :
    Option Race :=
  match point with
  | .called =>
      if 2 ≤ k.simCount then
        let (info, s) := s.read stale
        some (s.setAck call (.search info.socket_id))
      else some (s.setAck call (.search 0))
  | .search socket_id =>
      (s.requests.dequeueIfAck k s.pRI socket_id true).map fun (ret, requests) =>
        { s with requests := requests }.setAck call (if ret.isSome then .found else .returned)
  | .found =>
      let (info, s) := s.read stale
      some (s.setAck call (.located info.socket_id))
  | .located socket_id =>
      let (info, s) := s.read stale
      some (s.setAck call (if info.cancelled = 0 then .lock socket_id else .returned))
  | .lock socket_id => some (s.setAck call (.locked socket_id))
  | .locked socket_id =>
      let (info, s) := s.read stale
      some (s.setAck call (.send socket_id info.token))
  | .send socket_id serial =>
      let s := if connected then s.record (.acknowledgeRequest socket_id serial) else s
      some (s.setAck call .unlock)
  | .unlock => some (s.setAck call .returned)
  | .returned => none

/-- A step of `RIL_onRequestComplete`. -/
def stepComplete (stale : RequestInfo) (connected : Bool) : Option Race :=
  match s.complete with
  | .called =>
      if 2 ≤ k.simCount then
        let (info, s) := s.read stale
        some (s.setComplete (.search info.socket_id))
      else some (s.setComplete (.search 0))
  | .search socket_id =>
      (s.requests.dequeueIfAck k s.pRI socket_id false).map fun (ret, requests) =>
        { s with requests := requests }.setComplete (if ret.isSome then .found else .returned)
  | .found =>
      let (info, s) := s.read stale
      some (s.setComplete (.located info.socket_id))
  | .located socket_id =>
      let (info, s) := s.read stale
      some (s.setComplete (if 0 < info.local then .free else .notLocal socket_id))
  | .notLocal socket_id =>
      let (info, s) := s.read stale
      some (s.setComplete (if info.cancelled = 0 then .notCancelled socket_id else .free))
  | .notCancelled socket_id =>
      if 13 ≤ k.version then
        let (info, s) := s.read stale
        some (s.setComplete (.lock socket_id (Requests.responseType k info.wasAckSent)))
      else some (s.setComplete (.lock socket_id .solicited))
  | .lock socket_id type => some (s.setComplete (.locked socket_id type))
  | .locked socket_id type =>
      let (info, s) := s.read stale
      if k.responseFunction info.pCI = false then
        some { s with requests := { s.requests with died := true } }
      else some (s.setComplete (.respond socket_id type))
  | .respond socket_id type =>
      let (info, s) := s.read stale
      some (s.setComplete (.send socket_id type info.token))
  | .send socket_id type serial =>
      let s := if connected then s.record (.response socket_id type serial) else s
      some (s.setComplete .unlock)
  | .unlock => some (s.setComplete .free)
  | .free => some ({ s with requests := s.requests.free s.pRI }.setComplete .returned)
  | .returned => none

/-- Nothing happens any more once the process has died. -/
def step : RaceAction → Option Race
  | .ack call stale connected =>
      if s.requests.died then none
      else (s.acks[call]?).bind fun point => s.stepAck k call point stale connected
  | .complete stale connected =>
      if s.requests.died then none else s.stepComplete k stale connected

/-- Any number of acknowledgements and the completion are called. -/
def start (requests : Requests) (pRI count : Nat) : Race where
  requests := requests
  pRI := pRI
  acks := List.replicate count .called
  complete := .called
  log := []

def system (requests : Requests) (pRI count : Nat) : Transition.System Race RaceAction where
  init := start requests pRI count
  step := step k

end Race

/-- The call found the request and did not send yet. -/
def AckPoint.InFlight : AckPoint → Prop
  | .found | .located _ | .lock _ | .locked _ | .send _ _ => True
  | .called | .search _ | .unlock | .returned => False

/-- The request was not searched for yet. -/
def CompletePoint.Linked : CompletePoint → Prop
  | .called | .search _ => True
  | _ => False

/-- The response was sent, if there was somebody to send it to. -/
def CompletePoint.Sent : CompletePoint → Prop
  | .unlock | .free | .returned => True
  | _ => False

def CompletePoint.isSend : CompletePoint → Bool
  | .send .. => true
  | _ => false

instance (point : AckPoint) : Decidable point.InFlight := by
  cases point <;> first | exact .isTrue trivial | exact .isFalse id

def RaceEvent.responds (serial : Int) : RaceEvent → Prop
  | .response _ _ other => other = serial
  | _ => False

def RaceEvent.acknowledges (serial : Int) : RaceEvent → Prop
  | .acknowledgeRequest _ other => other = serial
  | _ => False

instance (serial : Int) : (event : RaceEvent) → Decidable (event.responds serial)
  | .response _ _ other => inferInstanceAs (Decidable (other = serial))
  | .read _ | .acknowledgeRequest _ _ => .isFalse id

instance (serial : Int) : (event : RaceEvent) → Decidable (event.acknowledges serial)
  | .acknowledgeRequest _ other => inferInstanceAs (Decidable (other = serial))
  | .read _ | .response .. => .isFalse id

namespace Race

/-- No read of the request after it was freed, and no acknowledgement of a serial
after the response to it. -/
structure Safe (s : Race) : Prop where
  reads : .read false ∉ s.log
  order : ∀ serial, Monitor.NeverAfter (RaceEvent.responds serial)
    (RaceEvent.acknowledges serial) s.log

/-- The response is sent while no acknowledgement that found the request is
before its own send, and no acknowledgement looks up the socket of a request that
was freed. -/
def Settled (k : Platform) (s : Race) : RaceAction → Prop
  | .ack call _ _ => 2 ≤ k.simCount → s.acks[call]? = some .called → s.complete ≠ .returned
  | .complete _ _ => s.complete.isSend = true → ∀ point ∈ s.acks, ¬ point.InFlight

instance (k : Platform) (s : Race) : (action : RaceAction) → Decidable (s.Settled k action)
  | .ack .. => inferInstanceAs (Decidable (_ → _ → _))
  | .complete .. => inferInstanceAs (Decidable (_ → ∀ point ∈ s.acks, ¬ point.InFlight))

/-- What settled steps keep. -/
structure Kept (k : Platform) (slotId : Nat) (s : Race) : Prop where
  linked : s.complete.Linked → ∃ opened, s.requests.Lists k opened ∧
    ∃ r ∈ opened, r.pRI = s.pRI ∧ r.slotId = slotId
  unlinked : ¬ s.complete.Linked → ∃ opened, s.requests.Lists k opened ∧
    ∀ r ∈ opened, r.pRI ≠ s.pRI
  allocated : s.complete ≠ .returned → ∃ info, s.requests.memory s.pRI = some info ∧
    info.socket_id = slotId ∧ info.cancelled = 0 ∧ info.local = 0
  ackSearch : ∀ socket_id, .search socket_id ∈ s.acks →
    pendingHook k.simCount socket_id = pendingHook k.simCount slotId
  completeSearch : ∀ socket_id, s.complete = .search socket_id →
    pendingHook k.simCount socket_id = pendingHook k.simCount slotId
  quiet : s.complete.Sent → ∀ point ∈ s.acks, ¬ point.InFlight
  unanswered : ¬ s.complete.Sent → ∀ serial, ∀ event ∈ s.log, ¬ event.responds serial
  safe : s.Safe

variable {k : Platform} {slotId : Nat} {s s' : Race}

theorem Safe.record (hs : s.Safe) {event : RaceEvent} (hread : event ≠ .read false)
    (horder : ∀ serial, event.acknowledges serial → ∀ earlier ∈ s.log,
      ¬ earlier.responds serial) : (s.record event).Safe where
  reads hmem := by
    rcases List.mem_append.mp hmem with hmem | hmem
    · exact hs.reads hmem
    · exact hread (List.mem_singleton.mp hmem).symm
  order serial := (hs.order serial).concat (horder serial)

theorem pendingHook_single (hsim : k.simCount < 2) (socket_id : Nat) :
    pendingHook k.simCount socket_id = .s_pendingRequests := by
  rw [pendingHook, if_neg (by omega), if_neg (by omega), if_neg (by omega)]

theorem not_sent_of_linked {point : CompletePoint} (hlinked : point.Linked) : ¬ point.Sent := by
  cases point <;> first | exact hlinked.elim | exact id

namespace Kept

theorem read (hs : s.Kept k slotId) : (s.record (.read true)).Kept k slotId :=
  { hs with
    unanswered := by
      intro hsent serial event hmem
      rcases List.mem_append.mp hmem with hmem | hmem
      · exact hs.unanswered hsent serial event hmem
      · obtain rfl := List.mem_singleton.mp hmem
        exact id
    safe := hs.safe.record (by simp) fun _ hack => hack.elim }

/-- The list step of an acknowledgement changes nothing but the mark. -/
theorem mark (hs : s.Kept k slotId) (hlinked : s.complete.Linked) :
    { s with requests := s.requests.withRequest s.pRI fun info =>
        { info with wasAckSent := true } }.Kept k slotId :=
  { hs with
    linked := by
      intro _
      obtain ⟨opened, hlists, r, hr, hpRI, hslot⟩ := hs.linked hlinked
      refine ⟨_, hlists.acked s.pRI, { r with acked := true }, ?_, hpRI, hslot⟩
      exact List.mem_map.mpr ⟨r, hr, if_pos (congrArg some hpRI.symm)⟩
    unlinked := fun hunlinked => absurd hlinked hunlinked
    allocated := by
      intro hreturned
      obtain ⟨info, hinfo, hfields⟩ := hs.allocated hreturned
      refine ⟨{ info with wasAckSent := true }, ?_, hfields⟩
      rw [Requests.withRequest_memory_self, hinfo]
      rfl
    safe := ⟨hs.safe.reads, hs.safe.order⟩ }

/-- An acknowledgement is sent before the response is. -/
theorem acknowledge (hs : s.Kept k slotId) (hsent : ¬ s.complete.Sent) (socket_id : Nat)
    (serial : Int) : (s.record (.acknowledgeRequest socket_id serial)).Kept k slotId :=
  { hs with
    unanswered := by
      intro _ other event hmem
      rcases List.mem_append.mp hmem with hmem | hmem
      · exact hs.unanswered hsent other event hmem
      · obtain rfl := List.mem_singleton.mp hmem
        exact id
    safe := hs.safe.record (by simp) fun other _ earlier hmem =>
      hs.unanswered hsent other earlier hmem }

/-- What a call finds while the request is allocated. -/
theorem read_eq (hs : s.Kept k slotId) (hallocated : s.complete ≠ .returned)
    (stale : RequestInfo) :
    ∃ info : RequestInfo, s.read stale = (info, s.record (.read true)) ∧
      info.socket_id = slotId ∧ info.cancelled = 0 ∧ info.local = 0 := by
  obtain ⟨info, hinfo, hfields⟩ := hs.allocated hallocated
  exact ⟨info, by simp [Race.read, hinfo], hfields⟩

theorem setAck (hs : s.Kept k slotId) (call : Nat) {point : AckPoint}
    (hsearch : ∀ socket_id, point = .search socket_id →
      pendingHook k.simCount socket_id = pendingHook k.simCount slotId)
    (hquiet : s.complete.Sent → ¬ point.InFlight) : (s.setAck call point).Kept k slotId :=
  { hs with
    ackSearch := by
      intro socket_id hmem
      rcases List.mem_or_eq_of_mem_set hmem with hmem | heq
      · exact hs.ackSearch socket_id hmem
      · exact hsearch socket_id heq.symm
    quiet := by
      intro hsent other hmem
      rcases List.mem_or_eq_of_mem_set hmem with hmem | rfl
      · exact hs.quiet hsent other hmem
      · exact hquiet hsent
    safe := ⟨hs.safe.reads, hs.safe.order⟩ }

/-- A call in flight keeps the request from being freed. -/
theorem not_sent (hs : s.Kept k slotId) {call : Nat} {point : AckPoint}
    (hcall : s.acks[call]? = some point) (hflight : point.InFlight) : ¬ s.complete.Sent :=
  fun hsent => hs.quiet hsent point (List.mem_of_getElem? hcall) hflight

/-- The completion goes on between its list step and its send. -/
theorem setComplete (hs : s.Kept k slotId) {point : CompletePoint}
    (hunlinked : ¬ s.complete.Linked) (hpoint : ¬ point.Linked)
    (hbefore : ¬ s.complete.Sent) (hsent : ¬ point.Sent) :
    (s.setComplete point).Kept k slotId where
  linked hlinked := absurd hlinked hpoint
  unlinked _ := hs.unlinked hunlinked
  allocated _ := hs.allocated fun heq => hbefore (heq ▸ trivial)
  ackSearch := hs.ackSearch
  completeSearch socket_id heq := by
    obtain rfl : point = .search socket_id := heq
    exact absurd trivial hpoint
  quiet hpointSent := absurd hpointSent hsent
  unanswered _ := hs.unanswered hbefore
  safe := ⟨hs.safe.reads, hs.safe.order⟩

theorem goOn (hs : s.Kept k slotId) {before point : CompletePoint} (heq : s.complete = before)
    (hunlinked : ¬ before.Linked) (hpoint : ¬ point.Linked) (hbefore : ¬ before.Sent)
    (hsent : ¬ point.Sent) : (s.setComplete point).Kept k slotId :=
  hs.setComplete (heq ▸ hunlinked) hpoint (heq ▸ hbefore) hsent

/-- The response was sent, or there was nobody to send it to, while no
acknowledgement was in flight. -/
theorem finish (hs : s.Kept k slotId) (point : CompletePoint) (hunlinked : ¬ s.complete.Linked)
    (hpoint : ¬ point.Linked) (hbefore : s.complete ≠ .returned) (hsent : point.Sent)
    (hquiet : ∀ other ∈ s.acks, ¬ other.InFlight) {log : List RaceEvent}
    (hsafe : { s with log := log }.Safe) :
    { s with complete := point, log := log }.Kept k slotId where
  linked hlinked := absurd hlinked hpoint
  unlinked _ := hs.unlinked hunlinked
  allocated _ := hs.allocated hbefore
  ackSearch := hs.ackSearch
  completeSearch socket_id heq := by
    obtain rfl : point = .search socket_id := heq
    exact absurd trivial hpoint
  quiet _ := hquiet
  unanswered hunsent := absurd hsent hunsent
  safe := ⟨hsafe.reads, hsafe.order⟩

theorem beginSearch (hs : s.Kept k slotId) (heq : s.complete = .called) {socket_id : Nat}
    (hhook : pendingHook k.simCount socket_id = pendingHook k.simCount slotId) :
    (s.setComplete (.search socket_id)).Kept k slotId :=
  { hs with
    linked := fun _ => hs.linked (heq ▸ trivial)
    unlinked := fun hunlinked => absurd trivial hunlinked
    allocated := fun _ => hs.allocated (by simp [heq])
    completeSearch := fun other hother => by
      obtain rfl := CompletePoint.search.inj hother
      exact hhook
    quiet := fun hsent => hsent.elim
    unanswered := fun _ => hs.unanswered (heq ▸ id)
    safe := ⟨hs.safe.reads, hs.safe.order⟩ }

/-- The list step of the completion takes the request off its list. -/
theorem dequeue (hs : s.Kept k slotId) {socket_id : Nat}
    (hpoint : s.complete = .search socket_id) :
    ∃ requests, s.requests.dequeueIfAck k s.pRI socket_id false = some (some s.pRI, requests) ∧
      ({ s with requests := requests }.setComplete .found).Kept k slotId := by
  have hlinked : s.complete.Linked := hpoint ▸ trivial
  obtain ⟨opened, hlists, r, hr, hpRI, rfl⟩ := hs.linked hlinked
  obtain ⟨requests, info, hfound, hlists', hinfo, hdescribes, -, -⟩ :=
    Requests.dequeueIfAck_completed hlists hr (hs.completeSearch socket_id hpoint)
  rw [hpRI] at hfound hinfo
  exact ⟨requests, hfound,
    { hs with
      linked := fun hlinked => hlinked.elim
      unlinked := by
        refine fun _ => ⟨_, hlists', fun other hother heq => ?_⟩
        have hne := (List.mem_filter.mp hother).2
        simp [hpRI, show other.pRI = s.pRI from heq] at hne
      allocated := fun _ => ⟨info, hinfo, hdescribes.socket_id, hdescribes.cancelled,
        hdescribes.isLocal⟩
      completeSearch := fun _ heq => by cases heq
      quiet := fun hsent => hsent.elim
      unanswered := fun _ => hs.unanswered (not_sent_of_linked hlinked)
      safe := ⟨hs.safe.reads, hs.safe.order⟩ }⟩

/-- The request is freed when it is in no list and nobody reads it any more. -/
theorem free (hs : s.Kept k slotId) (hpoint : s.complete = .free) :
    ({ s with requests := s.requests.free s.pRI }.setComplete .returned).Kept k slotId := by
  obtain ⟨opened, hlists, hother⟩ := hs.unlinked (hpoint ▸ id)
  exact
    { hs with
      linked := fun hlinked => hlinked.elim
      unlinked := fun _ => ⟨opened, hlists.freed hother, hother⟩
      allocated := fun hreturned => absurd rfl hreturned
      completeSearch := fun _ heq => by cases heq
      quiet := fun _ => hs.quiet (hpoint ▸ trivial)
      unanswered := fun hsent => absurd trivial hsent
      safe := ⟨hs.safe.reads, hs.safe.order⟩ }

theorem die (hs : s.Kept k slotId) :
    { s with requests := { s.requests with died := true } }.Kept k slotId :=
  { hs with
    linked := fun hlinked =>
      let ⟨opened, hlists, hopen⟩ := hs.linked hlinked
      ⟨opened, ⟨hlists.path, hlists.info, hlists.slot, hlists.nodup, hlists.used, hlists.fits⟩,
        hopen⟩
    unlinked := fun hunlinked =>
      let ⟨opened, hlists, hother⟩ := hs.unlinked hunlinked
      ⟨opened, ⟨hlists.path, hlists.info, hlists.slot, hlists.nodup, hlists.used, hlists.fits⟩,
        hother⟩
    safe := ⟨hs.safe.reads, hs.safe.order⟩ }

end Kept

theorem kept_stepAck (hs : s.Kept k slotId) {call : Nat} {point : AckPoint}
    (hcall : s.acks[call]? = some point) {stale : RequestInfo} {connected : Bool}
    (hsettled : 2 ≤ k.simCount → point = .called → s.complete ≠ .returned)
    (hstep : s.stepAck k call point stale connected = some s') : s'.Kept k slotId := by
  cases point with
  | called =>
      simp only [stepAck] at hstep
      split_ifs at hstep with hsim
      · obtain ⟨info, hread, hsocket, -, -⟩ := hs.read_eq (hsettled hsim rfl) stale
        rw [hread] at hstep
        obtain rfl := Option.some.inj hstep
        refine hs.read.setAck call (fun socket_id heq => ?_) fun _ => id
        obtain rfl := AckPoint.search.inj heq
        rw [hsocket]
      · -- there is one list only
        obtain rfl := Option.some.inj hstep
        refine hs.setAck call (fun socket_id heq => ?_) fun _ => id
        rw [pendingHook_single (by omega), pendingHook_single (by omega)]
  | search socket_id =>
      have hhook := hs.ackSearch socket_id (List.mem_of_getElem? hcall)
      by_cases hlinked : s.complete.Linked
      · obtain ⟨opened, hlists, r, hr, hpRI, rfl⟩ := hs.linked hlinked
        have hfound := Requests.dequeueIfAck_acked hlists hr hhook
        rw [hpRI] at hfound
        simp only [stepAck, hfound, Option.map_some, Option.isSome_some, if_true] at hstep
        obtain rfl := Option.some.inj hstep
        exact (hs.mark hlinked).setAck call (fun _ heq => by cases heq)
          fun hsent => absurd hsent (not_sent_of_linked hlinked)
      · obtain ⟨opened, hlists, hother⟩ := hs.unlinked hlinked
        have habsent := Requests.dequeueIfAck_absent hlists hother socket_id true
        simp only [stepAck, habsent, Option.map_some, Option.isSome_none, Bool.false_eq_true,
          if_false] at hstep
        obtain rfl := Option.some.inj hstep
        exact hs.setAck call (fun _ heq => by cases heq) fun _ => id
  | found =>
      have hflight := hs.not_sent hcall trivial
      obtain ⟨info, hread, -⟩ := hs.read_eq (fun heq => hflight (heq ▸ trivial)) stale
      simp only [stepAck, hread] at hstep
      obtain rfl := Option.some.inj hstep
      exact hs.read.setAck call (fun _ heq => by cases heq) fun hsent => absurd hsent hflight
  | located socket_id =>
      have hflight := hs.not_sent hcall trivial
      obtain ⟨info, hread, -, hcancelled, -⟩ :=
        hs.read_eq (fun heq => hflight (heq ▸ trivial)) stale
      simp only [stepAck, hread, hcancelled, if_true] at hstep
      obtain rfl := Option.some.inj hstep
      exact hs.read.setAck call (fun _ heq => by cases heq) fun hsent => absurd hsent hflight
  | lock socket_id =>
      have hflight := hs.not_sent hcall trivial
      obtain rfl := Option.some.inj hstep
      exact hs.setAck call (fun _ heq => by cases heq) fun hsent => absurd hsent hflight
  | locked socket_id =>
      have hflight := hs.not_sent hcall trivial
      obtain ⟨info, hread, -⟩ := hs.read_eq (fun heq => hflight (heq ▸ trivial)) stale
      simp only [stepAck, hread] at hstep
      obtain rfl := Option.some.inj hstep
      exact hs.read.setAck call (fun _ heq => by cases heq) fun hsent => absurd hsent hflight
  | send socket_id serial =>
      have hflight := hs.not_sent hcall trivial
      obtain rfl := Option.some.inj hstep
      cases connected with
      | false => exact hs.setAck call (fun _ heq => by cases heq) fun _ => id
      | true =>
          refine (hs.acknowledge hflight socket_id serial).setAck call
            (fun _ heq => by cases heq) fun _ => id
  | unlock =>
      obtain rfl := Option.some.inj hstep
      exact hs.setAck call (fun _ heq => by cases heq) fun _ => id
  | returned => cases hstep

theorem kept_stepComplete (hs : s.Kept k slotId) {stale : RequestInfo} {connected : Bool}
    (hsettled : s.complete.isSend = true → ∀ point ∈ s.acks, ¬ point.InFlight)
    (hstep : s.stepComplete k stale connected = some s') : s'.Kept k slotId := by
  cases hpoint : s.complete with
  | called =>
      simp only [stepComplete, hpoint] at hstep
      split_ifs at hstep with hsim
      · obtain ⟨info, hread, hsocket, -, -⟩ := hs.read_eq (by simp [hpoint]) stale
        rw [hread] at hstep
        obtain rfl := Option.some.inj hstep
        exact hs.read.beginSearch hpoint (by rw [hsocket])
      · obtain rfl := Option.some.inj hstep
        refine hs.beginSearch hpoint ?_
        rw [pendingHook_single (by omega), pendingHook_single (by omega)]
  | search socket_id =>
      obtain ⟨requests, hfound, hnext⟩ := hs.dequeue hpoint
      simp only [stepComplete, hpoint, hfound, Option.map_some, Option.isSome_some, if_true]
        at hstep
      obtain rfl := Option.some.inj hstep
      exact hnext
  | found =>
      obtain ⟨info, hread, -⟩ := hs.read_eq (by simp [hpoint]) stale
      simp only [stepComplete, hpoint, hread] at hstep
      obtain rfl := Option.some.inj hstep
      exact hs.read.goOn hpoint id id id id
  | located socket_id =>
      obtain ⟨info, hread, -, -, hlocal⟩ := hs.read_eq (by simp [hpoint]) stale
      simp only [stepComplete, hpoint, hread, hlocal, Nat.lt_irrefl, if_false] at hstep
      obtain rfl := Option.some.inj hstep
      exact hs.read.goOn hpoint id id id id
  | notLocal socket_id =>
      obtain ⟨info, hread, -, hcancelled, -⟩ := hs.read_eq (by simp [hpoint]) stale
      simp only [stepComplete, hpoint, hread, hcancelled, if_true] at hstep
      obtain rfl := Option.some.inj hstep
      exact hs.read.goOn hpoint id id id id
  | notCancelled socket_id =>
      simp only [stepComplete, hpoint] at hstep
      split_ifs at hstep
      · obtain ⟨info, hread, -⟩ := hs.read_eq (by simp [hpoint]) stale
        rw [hread] at hstep
        obtain rfl := Option.some.inj hstep
        exact hs.read.goOn hpoint id id id id
      · obtain rfl := Option.some.inj hstep
        exact hs.goOn hpoint id id id id
  | lock socket_id type =>
      simp only [stepComplete, hpoint] at hstep
      obtain rfl := Option.some.inj hstep
      exact hs.goOn hpoint id id id id
  | locked socket_id type =>
      obtain ⟨info, hread, -⟩ := hs.read_eq (by simp [hpoint]) stale
      simp only [stepComplete, hpoint, hread] at hstep
      split_ifs at hstep
      · obtain rfl := Option.some.inj hstep
        exact hs.read.die
      · obtain rfl := Option.some.inj hstep
        exact hs.read.goOn hpoint id id id id
  | respond socket_id type =>
      obtain ⟨info, hread, -⟩ := hs.read_eq (by simp [hpoint]) stale
      simp only [stepComplete, hpoint, hread] at hstep
      obtain rfl := Option.some.inj hstep
      exact hs.read.goOn hpoint id id id id
  | send socket_id type serial =>
      simp only [stepComplete, hpoint] at hstep
      obtain rfl := Option.some.inj hstep
      have hquiet := hsettled (by rw [hpoint]; rfl)
      cases connected with
      | true =>
          exact hs.finish .unlock (hpoint ▸ id) id (by simp [hpoint]) trivial hquiet
            (hs.safe.record (by simp) fun _ hack => hack.elim)
      | false =>
          exact hs.finish .unlock (hpoint ▸ id) id (by simp [hpoint]) trivial hquiet hs.safe
  | unlock =>
      simp only [stepComplete, hpoint] at hstep
      obtain rfl := Option.some.inj hstep
      exact hs.finish .free (hpoint ▸ id) id (by simp [hpoint]) trivial
        (hs.quiet (hpoint ▸ trivial)) hs.safe
  | free =>
      simp only [stepComplete, hpoint] at hstep
      obtain rfl := Option.some.inj hstep
      exact hs.free hpoint
  | returned => simp [stepComplete, hpoint] at hstep

theorem kept_step (hs : s.Kept k slotId) {action : RaceAction} (hsettled : s.Settled k action)
    (hstep : s.step k action = some s') : s'.Kept k slotId := by
  cases action with
  | ack call stale connected =>
      simp only [step] at hstep
      split_ifs at hstep
      obtain ⟨point, hcall, hpoint⟩ := Option.bind_eq_some_iff.mp hstep
      exact kept_stepAck hs hcall (fun hsim heq => hsettled hsim (heq ▸ hcall)) hpoint
  | complete stale connected =>
      simp only [step] at hstep
      split_ifs at hstep
      exact kept_stepComplete hs hsettled hstep

theorem kept_start {requests : Requests} {opened : List OpenRequest}
    (hlists : requests.Lists k opened) {r : OpenRequest} (hr : r ∈ opened) (count : Nat) :
    (start requests r.pRI count).Kept k r.slotId where
  linked _ := ⟨opened, hlists, r, hr, rfl, rfl⟩
  unlinked hunlinked := absurd trivial hunlinked
  allocated _ := by
    obtain ⟨info, hinfo, hdescribes⟩ := hlists.info r hr
    exact ⟨info, hinfo, hdescribes.socket_id, hdescribes.cancelled, hdescribes.isLocal⟩
  ackSearch socket_id hmem := by
    cases (List.eq_of_mem_replicate hmem)
  completeSearch _ heq := by cases heq
  quiet hsent := hsent.elim
  unanswered _ _ _ hmem := absurd hmem List.not_mem_nil
  safe := ⟨List.not_mem_nil, fun _ => Monitor.neverAfter_nil⟩

/-- From any state of the lists in which the request is pending, calls that race
but settle are safe throughout. -/
theorem settled_race_safe (k : Platform) (calls : List (RequestCall k.simCount))
    (requests : Requests) (hrun : (Requests.system k).run calls = some requests)
    (r : OpenRequest) (hpending : r ∈ openRequests requests.history) (count : Nat)
    (actions : List RaceAction)
    (hsettled : (system k requests r.pRI count).Guarded (Settled k)
      (start requests r.pRI count) actions) :
    (system k requests r.pRI count).Throughout Safe (start requests r.pRI count) actions :=
  Transition.System.throughout_of_guarded (Kept k r.slotId) (fun _ hs => hs.safe)
    (fun _ _ _ hs hsettled hstep => kept_step hs hsettled hstep)
    (kept_start (Requests.kept_of_run hrun).lists hpending count) hsettled

/-- What is found at a freed address in the runs below. -/
def zeroed : RequestInfo where
  token := 0
  pCI := 0
  p_next := none
  cancelled := 0
  «local» := 0
  socket_id := 0
  wasAckSent := false

/-- A build for one SIM card. -/
def singleSim : Platform := ⟨1, by decide, by decide, 15, 144, fun _ => true⟩

/-- One request on the only slot. -/
def onePending : Requests := (Requests.initial.addRequestToList singleSim 7 0 10 (some 100)).get rfl

/-- The acknowledgement is through before the completion is called. -/
theorem settled_race_safe_acked :
    (system singleSim onePending 100 1).Throughout Safe (start onePending 100 1)
      [.ack 0 zeroed true, .ack 0 zeroed true, .ack 0 zeroed true, .ack 0 zeroed true,
        .ack 0 zeroed true, .ack 0 zeroed true, .ack 0 zeroed true, .complete zeroed true,
        .complete zeroed true] := by
  refine settled_race_safe singleSim [.addRequestToList 7 ⟨0, Nat.one_pos⟩ 10 (some 100)] onePending rfl
    ⟨100, 7, 0, 10, false⟩ ?_ 1 _ ?_
  · exact List.mem_singleton_self _
  · decide

/-- The acknowledgement has marked the request, and waits; the completion goes
all the way; the acknowledgement then reads the freed request and is sent. -/
theorem ack_after_response :
    ¬ (system singleSim onePending 100 1).Throughout Safe (start onePending 100 1)
      (List.replicate 5 (.ack 0 zeroed true) ++ List.replicate 12 (.complete zeroed true) ++
        List.replicate 2 (.ack 0 zeroed true)) := by
  apply Transition.System.not_throughout_of_any fun s => decide (RaceEvent.read false ∈ s.log)
  · intro s hread hs
    exact hs.reads (by simpa using hread)
  · decide +kernel

end Race

end Serrano.Ril
