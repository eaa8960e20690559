import Mathlib.Logic.Function.Basic
import Serrano.LocEng.FixSession

/-! # The ULP proxy

Whoever starts a fix or reports a position reads the pointer to the proxy and then calls it.
The message task replaces the proxy by one that the LBS module hands over, tells the new one
what the old one knows, and deletes the old one. No lock keeps a call and a replacement
apart, and one message carries a pointer that was read when it was posted. What a caller does
with the proxy, once it has read the pointer, is one step, as is a replacement.
-/

namespace Serrano.LocEng.Ulp

/-- The objects that were made, numbered in the order of their construction. -/
abbrev ProxyId := Nat

/-- What a proxy can be told about the session. -/
inductive Told
  | fixMode (params : LocPosMode)
  | startFix
  | stopFix
  deriving DecidableEq

/-- `UlpProxyBase`, or a class derived from it: one that `keeps` the members sets them as the
methods of the base class do. -/
structure UlpProxy where
  derived : Bool
  keeps : Bool
  mPosMode : LocPosMode
  mFixSet : Bool
  told : List Told
  deriving DecidableEq

/-- The constructor of the base class, which the derived ones run first. -/
def UlpProxy.new (derived keeps : Bool) : UlpProxy where
  derived := derived
  keeps := keeps
  mPosMode := { LocPosMode.default with mode := .invalid }
  mFixSet := false
  told := []

/-- The members after `sendFixMode`, `sendStartFix` or `sendStopFix`. -/
def UlpProxy.hear (proxy : UlpProxy) (told : Told) : UlpProxy :=
  let proxy := { proxy with told := proxy.told ++ [told] }
  if proxy.keeps then
    match told with
    | .fixMode params => { proxy with mPosMode := params }
    | .startFix => { proxy with mFixSet := true }
    | .stopFix => { proxy with mFixSet := false }
  else proxy

/-- What a thread does with the proxy. -/
inductive Call
  /-- `loc_eng_start` -/
  | startFix
  /-- `loc_eng_stop` -/
  | stopFix
  /-- `loc_eng_set_position_mode`; `msbOrMsa` is what `gps_conf.CAPABILITIES` has. -/
  | fixMode (msbOrMsa : Bool) (params : LocPosMode)
  /-- `reportPosition`, `reportSv`, `reportStatus` or `reportNmea` of the adapter -/
  | report (msg : EngineMsg)
  /-- `loc_eng_configuration_update` with another `SUPL_MODE` -/
  | suplMode

/-- Without the capabilities the mode can only be standalone. -/
def Call.told : Call → Option Told
  | .startFix => some .startFix
  | .stopFix => some .stopFix
  | .fixMode msbOrMsa params =>
      some (.fixMode (if msbOrMsa then params else { params with mode := .standalone }))
  | .report _ => none
  | .suplMode => none

def Call.isSuplMode : Call → Bool
  | .suplMode => true
  | _ => false

inductive Msg
  /-- `LocSetUlpProxy`; there may be no proxy. -/
  | setUlpProxy (ulp : Option ProxyId)
  /-- `LocEngSuplMode` -/
  | suplMode (mUlp : ProxyId)
  /-- The message of a call that the proxy did not take, for `Serrano.LocEng.Engine`. -/
  | engine (call : Call)

/-- The adapter, the heap of the proxies, the calls that have read the pointer, and the proxies
that the LBS module made and did not hand over yet. `asked` is what the client told the proxies,
in order; `touchedFreed` says that a deleted proxy was used. -/
structure State where
  proxies : ProxyId → Option UlpProxy
  next : ProxyId
  mUlp : ProxyId
  calls : List (Call × ProxyId)
  queue : List Msg
  made : List ProxyId
  asked : List Told
  touchedFreed : Bool

namespace State

/-- The constructor of `LocEngAdapter`. -/
def init : State where
  proxies := Function.update (fun _ => none) 0 (some (.new false true))
  next := 1
  mUlp := 0
  calls := []
  queue := []
  made := []
  asked := []
  touchedFreed := false

def sendMsg (s : State) (msg : Msg) : State := { s with queue := s.queue ++ [msg] }

/-- `new` -/
def alloc (s : State) (proxy : UlpProxy) : State :=
  { s with proxies := Function.update s.proxies s.next (some proxy), next := s.next + 1 }

/-- `sendFixMode`, `sendStartFix` and `sendStopFix` -/
def tell (s : State) (ulp : ProxyId) (told : Told) : State :=
  match s.proxies ulp with
  | none => { s with touchedFreed := true }
  | some proxy => { s with proxies := Function.update s.proxies ulp (some (proxy.hear told)) }

/-- A call of the client, if it tells the proxy anything. -/
def ask (s : State) (ulp : ProxyId) (call : Call) : State :=
  match call.told with
  | none => s
  | some told => { s.tell ulp told with asked := s.asked ++ [told] }

/-- What the new proxy is told, from the members of the old one. -/
def handOver (s : State) (ulp : ProxyId) (old : UlpProxy) : State :=
  let s := if old.mPosMode.mode ≠ .invalid then s.tell ulp (.fixMode old.mPosMode) else s
  if old.mFixSet then s.tell ulp .startFix else s

/-- The rest of `setUlpProxy`, for a proxy that is not the present one. -/
def replace (s : State) (ulp : ProxyId) : State :=
  match s.proxies s.mUlp with
  | none => { s with touchedFreed := true }
  | some old =>
      let s := s.handOver ulp old
      { s with proxies := Function.update s.proxies s.mUlp none, mUlp := ulp }

/-- `LocEngAdapter::setUlpProxy` -/
def setUlpProxy (s : State) : Option ProxyId → State
  | none => (s.alloc (.new false true)).replace s.next
  -- a double initialization may give the same object back
  | some ulp => if ulp = s.mUlp then s else s.replace ulp

/-- The rest of a call that has read the pointer. `answer` is what a derived class returns. -/
def perform (s : State) (call : Call) (ulp : ProxyId) (answer : Bool) : State :=
  if call.isSuplMode then s.sendMsg (.suplMode ulp)
  else
    match s.proxies ulp with
    | none => { s with touchedFreed := true }
    | some proxy =>
        let s := s.ask ulp call
        if proxy.derived && answer then s else s.sendMsg (.engine call)

def proc (s : State) : Msg → State
  | .setUlpProxy ulp => s.setUlpProxy ulp
  -- `setCapabilities`
  | .suplMode ulp => if (s.proxies ulp).isSome then s else { s with touchedFreed := true }
  | .engine _ => s

/-- One of the calls goes on. -/
def proceed (s : State) (i : Nat) (answer : Bool) : Option State :=
  match s.calls[i]? with
  | none => none
  | some (call, ulp) => some ({ s with calls := s.calls.eraseIdx i }.perform call ulp answer)

/-- The message task takes a message. -/
def process (s : State) : Option State :=
  match s.queue with
  | [] => none
  | msg :: rest => some ({ s with queue := rest }.proc msg)

end State

inductive Action
  /-- A thread reads the pointer. -/
  | enter (call : Call)
  | call (i : Nat) (answer : Bool)
  /-- The LBS module makes a proxy, or hands one over. -/
  | make (keeps : Bool)
  | setUlpProxy (ulp : Option ProxyId)
  /-- `startFixInt`, `stopFixInt` and `setPositionModeInt` of the internal adapter -/
  | internal (call : Call)
  | process

/-- The proxies that are handed over by the messages of a queue. -/
def handed (queue : List Msg) : List (Option ProxyId) :=
  queue.filterMap fun
    | .setUlpProxy ulp => some ulp
    | _ => none

/-- The LBS module hands over what it made, once, or what it handed over last. -/
def system : Transition.System State Action where
  init := .init
  step s
    | .enter call => some { s with calls := s.calls ++ [(call, s.mUlp)] }
    | .call i answer => s.proceed i answer
    | .make keeps => some { s.alloc (.new true keeps) with made := s.next :: s.made }
    | .setUlpProxy none => some (s.sendMsg (.setUlpProxy none))
    | .setUlpProxy (some ulp) =>
        if ulp ∈ s.made ∨ (some s.mUlp :: handed s.queue).getLast? = some (some ulp) then
          some { s.sendMsg (.setUlpProxy (some ulp)) with made := s.made.erase ulp }
        else none
    | .internal call => some (s.sendMsg (.engine call))
    | .process => s.process

/-! ## Sequences without returns -/

/-- What comes up again comes up right away. -/
def NoReturn {α : Type*} : List (Option α) → Prop
  | [] => True
  | first :: rest =>
      (first ≠ none → first ∈ rest → rest.head? = some first) ∧ NoReturn rest

section

variable {α : Type*} {xs : List (Option α)} {x : Option α}

theorem NoReturn.tail {first : Option α} (h : NoReturn (first :: xs)) : NoReturn xs := h.2

/-- A new one, or none, may follow. -/
theorem NoReturn.concat (h : NoReturn xs) (hx : x ≠ none → x ∉ xs) : NoReturn (xs ++ [x]) := by
  induction xs with
  | nil => exact ⟨fun _ hmem => absurd hmem List.not_mem_nil, trivial⟩
  | cons first rest ih =>
      refine ⟨fun hsome hmem => ?_, ih h.2 fun hne hmem => hx hne (List.mem_cons_of_mem _ hmem)⟩
      have hne : first ≠ x := by
        rintro rfl
        exact hx hsome List.mem_cons_self
      have hrest : first ∈ rest := by simpa [hne] using hmem
      change (rest ++ [x]).head? = some first
      rw [List.head?_append, h.1 hsome hrest]
      rfl

/-- The last one may follow once more. -/
theorem NoReturn.concat_last (h : NoReturn xs) (hx : xs.getLast? = some x) :
    NoReturn (xs ++ [x]) := by
  induction xs with
  | nil => cases hx
  | cons first rest ih =>
      cases rest with
      | nil =>
          obtain rfl := Option.some.inj hx
          exact ⟨fun _ _ => rfl, fun _ hmem => absurd hmem List.not_mem_nil, trivial⟩
      | cons second rest =>
          have hlast : (second :: rest).getLast? = some x := by
            rwa [List.getLast?_cons_cons] at hx
          refine ⟨fun hsome hmem => ?_, ih h.2 hlast⟩
          have hrest : first ∈ second :: rest := by
            rcases List.mem_append.mp hmem with hmem | hmem
            · exact hmem
            · rw [List.mem_singleton.mp hmem]
              exact List.mem_of_getLast? hlast
          exact h.1 hsome hrest

end

/-! ## What a replacement does -/

/-- The new proxy once it was told what the old one knows. -/
def UlpProxy.inherit (ulp old : UlpProxy) : UlpProxy :=
  let ulp := if old.mPosMode.mode ≠ .invalid then ulp.hear (.fixMode old.mPosMode) else ulp
  if old.mFixSet then ulp.hear .startFix else ulp

namespace State

def Live (s : State) (ulp : ProxyId) : Prop := (s.proxies ulp).isSome = true

/-- It was there once. -/
def Dead (s : State) (ulp : ProxyId) : Prop := s.proxies ulp = none ∧ ulp < s.next

variable {s : State} {ulp : ProxyId} {old new : UlpProxy}

theorem tell_eq (told : Told) (hnew : s.proxies ulp = some new) :
    s.tell ulp told = { s with proxies := Function.update s.proxies ulp (some (new.hear told)) } := by
  rw [tell, hnew]

theorem handOver_eq (old : UlpProxy) (hnew : s.proxies ulp = some new) :
    s.handOver ulp old =
      { s with proxies := Function.update s.proxies ulp (some (new.inherit old)) } := by
  rw [handOver, UlpProxy.inherit]
  have hmode : ∃ middle,
      (if old.mPosMode.mode ≠ .invalid then s.tell ulp (.fixMode old.mPosMode) else s) =
        { s with proxies := Function.update s.proxies ulp (some middle) } ∧
      (if old.mPosMode.mode ≠ .invalid then new.hear (.fixMode old.mPosMode) else new) =
        middle := by
    by_cases hvalid : old.mPosMode.mode ≠ .invalid
    · rw [if_pos hvalid, if_pos hvalid]
      exact ⟨_, tell_eq _ hnew, rfl⟩
    · rw [if_neg hvalid, if_neg hvalid]
      refine ⟨new, ?_, rfl⟩
      rw [← hnew, Function.update_eq_self]
  obtain ⟨middle, hstate, hproxy⟩ := hmode
  rw [hstate, hproxy]
  cases old.mFixSet with
  | false => rfl
  | true =>
      have hmiddle : Function.update s.proxies ulp (some middle) ulp = some middle :=
        Function.update_self _ _ _
      rw [if_pos rfl, if_pos rfl, tell_eq _ hmiddle]
      dsimp only
      rw [Function.update_idem]

theorem replace_eq (hold : s.proxies s.mUlp = some old) (hnew : s.proxies ulp = some new) :
    s.replace ulp =
      { s with
        proxies := Function.update
          (Function.update s.proxies ulp (some (new.inherit old))) s.mUlp none
        mUlp := ulp } := by
  rw [replace, hold]
  dsimp only
  rw [handOver_eq old hnew]

end State

/-! ## Calls and messages with a pointer to the present proxy -/

@[simp] theorem handed_append (queue : List Msg) (msg : Msg) :
    handed (queue ++ [msg]) = handed queue ++ handed [msg] :=
  List.filterMap_append

/-- The pointer in the message, if there is one, is that to the present proxy. -/
def Msg.UsesPresent (mUlp : ProxyId) : Msg → Prop
  | .suplMode ulp => ulp = mUlp
  | _ => True

instance (mUlp : ProxyId) : (msg : Msg) → Decidable (msg.UsesPresent mUlp)
  | .suplMode ulp => inferInstanceAs (Decidable (ulp = mUlp))
  | .setUlpProxy _ => .isTrue trivial
  | .engine _ => .isTrue trivial

/-- The step uses the present proxy, if it uses one through a pointer that was read before. -/
def UsesPresent (s : State) : Action → Prop
  | .call i _ => ∀ entered ∈ s.calls[i]?, entered.1.isSuplMode = false → entered.2 = s.mUlp
  | .process => ∀ msg ∈ s.queue.head?, msg.UsesPresent s.mUlp
  | _ => True

instance (s : State) : (action : Action) → Decidable (UsesPresent s action)
  | .call i _ => inferInstanceAs (Decidable
      (∀ entered ∈ s.calls[i]?, entered.1.isSuplMode = false → entered.2 = s.mUlp))
  | .process => inferInstanceAs (Decidable (∀ msg ∈ s.queue.head?, msg.UsesPresent s.mUlp))
  | .enter _ => .isTrue trivial
  | .make _ => .isTrue trivial
  | .setUlpProxy _ => .isTrue trivial
  | .internal _ => .isTrue trivial

/-- Pointers to replaced proxies are the only ones that dangle. -/
structure State.Orderly (s : State) : Prop where
  untouched : s.touchedFreed = false
  present : s.Live s.mUlp
  bounded : ∀ ulp, s.Live ulp → ulp < s.next
  calls : ∀ call ∈ s.calls, call.2 = s.mUlp ∨ s.Dead call.2
  suplMode : ∀ ulp, .suplMode ulp ∈ s.queue → ulp = s.mUlp ∨ s.Dead ulp
  handed : ∀ ulp, some ulp ∈ handed s.queue → s.Live ulp
  made : ∀ ulp ∈ s.made, s.Live ulp ∧ ulp ≠ s.mUlp ∧ some ulp ∉ Ulp.handed s.queue
  nodup : s.made.Nodup
  order : NoReturn (some s.mUlp :: Ulp.handed s.queue)

namespace State.Orderly

variable {s : State} {ulp : ProxyId}

theorem not_dead_of_live (h : s.Live ulp) : ¬s.Dead ulp := by
  intro hdead
  rw [Live, hdead.1] at h
  cases h

theorem init : State.init.Orderly where
  untouched := rfl
  present := rfl
  bounded ulp h := by
    by_contra hge
    have hne : ulp ≠ 0 := by
      rintro rfl
      exact hge Nat.one_pos
    change (Function.update (fun _ => none) 0 (some (UlpProxy.new false true)) ulp).isSome = true at h
    rw [Function.update_of_ne hne] at h
    cases h
  calls call h := absurd h List.not_mem_nil
  suplMode ulp h := absurd h List.not_mem_nil
  handed ulp h := absurd h List.not_mem_nil
  made ulp h := absurd h List.not_mem_nil
  nodup := List.nodup_nil
  order := ⟨fun _ h => absurd h List.not_mem_nil, trivial⟩

/-- Messages other than a replacement, with a pointer that is all right if they carry one. -/
theorem sendMsg (h : s.Orderly) {msg : Msg} (hhanded : Ulp.handed [msg] = [])
    (hmsg : ∀ ulp, msg = .suplMode ulp → ulp = s.mUlp ∨ s.Dead ulp) : (s.sendMsg msg).Orderly where
  untouched := h.untouched
  present := h.present
  bounded := h.bounded
  calls := h.calls
  suplMode ulp hmem := by
    rcases List.mem_append.mp hmem with hmem | hmem
    · exact h.suplMode ulp hmem
    · exact hmsg ulp (List.mem_singleton.mp hmem).symm
  handed ulp hmem := by
    rw [State.sendMsg, handed_append, hhanded, List.append_nil] at hmem
    exact h.handed ulp hmem
  made ulp hmem := by
    rw [State.sendMsg, handed_append, hhanded, List.append_nil]
    exact h.made ulp hmem
  nodup := h.nodup
  order := by
    rw [State.sendMsg, handed_append, hhanded, List.append_nil]
    exact h.order

/-- Only liveness of the proxies matters. -/
theorem congr (h : s.Orderly) {proxies : ProxyId → Option UlpProxy} {asked : List Told}
    (hlive : ∀ ulp, (proxies ulp).isSome = (s.proxies ulp).isSome) :
    { s with proxies := proxies, asked := asked : State }.Orderly := by
  have hdead : ∀ ulp, s.Dead ulp → proxies ulp = none ∧ ulp < s.next := by
    intro ulp hdead
    refine ⟨?_, hdead.2⟩
    rw [← Option.isNone_iff_eq_none, ← Option.not_isSome, hlive, hdead.1]
    rfl
  constructor
  · exact h.untouched
  · exact (hlive _).trans h.present
  · exact fun ulp hulp => h.bounded ulp ((hlive ulp).symm.trans hulp)
  · exact fun call hcall => (h.calls call hcall).imp_right (hdead _)
  · exact fun ulp hulp => (h.suplMode ulp hulp).imp_right (hdead _)
  · exact fun ulp hulp => (hlive ulp).trans (h.handed ulp hulp)
  · intro ulp hulp
    obtain ⟨halive, hne, hnot⟩ := h.made ulp hulp
    exact ⟨(hlive ulp).trans halive, hne, hnot⟩
  · exact h.nodup
  · exact h.order

theorem enter (h : s.Orderly) (call : Call) :
    { s with calls := s.calls ++ [(call, s.mUlp)] : State }.Orderly :=
  { h with
    calls := fun entered hmem => by
      rcases List.mem_append.mp hmem with hmem | hmem
      · exact h.calls entered hmem
      · exact .inl (congrArg Prod.snd (List.mem_singleton.mp hmem)) }

theorem eraseIdx (h : s.Orderly) (i : Nat) :
    { s with calls := s.calls.eraseIdx i : State }.Orderly :=
  { h with calls := fun entered hmem => h.calls entered (List.mem_of_mem_eraseIdx hmem) }

theorem isSome_update {proxies : ProxyId → Option UlpProxy} {ulp : ProxyId} {old new : UlpProxy}
    (hold : proxies ulp = some old) (id : ProxyId) :
    (Function.update proxies ulp (some new) id).isSome = (proxies id).isSome := by
  by_cases hid : id = ulp
  · subst hid
    rw [Function.update_self, hold]
    rfl
  · rw [Function.update_of_ne hid]

theorem ask (h : s.Orderly) (call : Call) (hlive : s.Live ulp) : (s.ask ulp call).Orderly := by
  rw [State.ask]
  cases call.told with
  | none => exact h
  | some told =>
      obtain ⟨proxy, hproxy⟩ := Option.isSome_iff_exists.mp hlive
      dsimp only
      rw [tell_eq told hproxy]
      exact h.congr (isSome_update hproxy)

/-- A call to the present proxy. -/
theorem perform (h : s.Orderly) (call : Call) (answer : Bool)
    (hulp : ulp = s.mUlp ∨ s.Dead ulp) (huse : call.isSuplMode = false → ulp = s.mUlp) :
    (s.perform call ulp answer).Orderly := by
  rw [State.perform]
  cases hsupl : call.isSuplMode with
  | true =>
      rw [if_pos rfl]
      refine h.sendMsg rfl ?_
      rintro _ ⟨⟩
      exact hulp
  | false =>
      obtain rfl := huse hsupl
      obtain ⟨proxy, hproxy⟩ := Option.isSome_iff_exists.mp h.present
      rw [if_neg Bool.false_ne_true, hproxy]
      have hask := h.ask call h.present
      dsimp only
      split
      · exact hask
      · refine hask.sendMsg rfl ?_
        rintro _ ⟨⟩

/-! ## Proxies that are made and handed over -/

theorem not_live_next (h : s.Orderly) : ¬s.Live s.next := fun hlive =>
  Nat.lt_irrefl _ (h.bounded _ hlive)

theorem ne_next (h : s.Orderly) (hlive : s.Live ulp) : ulp ≠ s.next := by
  rintro rfl
  exact h.not_live_next hlive

theorem proxies_alloc (s : State) (proxy : UlpProxy) :
    (s.alloc proxy).proxies = Function.update s.proxies s.next (some proxy) := rfl

theorem live_alloc (h : s.Orderly) (proxy : UlpProxy) (hlive : s.Live ulp) :
    (s.alloc proxy).Live ulp := by
  rw [Live, proxies_alloc, Function.update_of_ne (h.ne_next hlive)]
  exact hlive

theorem dead_alloc (proxy : UlpProxy) (hdead : s.Dead ulp) : (s.alloc proxy).Dead ulp := by
  refine ⟨?_, Nat.lt_succ_of_lt hdead.2⟩
  rw [proxies_alloc, Function.update_of_ne (Nat.ne_of_lt hdead.2)]
  exact hdead.1

theorem alloc (h : s.Orderly) (proxy : UlpProxy) : (s.alloc proxy).Orderly where
  untouched := h.untouched
  present := h.live_alloc proxy h.present
  bounded ulp hlive := by
    by_cases hnext : ulp = s.next
    · rw [hnext]
      exact Nat.lt_succ_self _
    · rw [Live, proxies_alloc, Function.update_of_ne hnext] at hlive
      exact Nat.lt_succ_of_lt (h.bounded ulp hlive)
  calls call hmem := (h.calls call hmem).imp_right (dead_alloc proxy)
  suplMode ulp hmem := (h.suplMode ulp hmem).imp_right (dead_alloc proxy)
  handed ulp hmem := h.live_alloc proxy (h.handed ulp hmem)
  made ulp hmem := by
    obtain ⟨hlive, hne, hnot⟩ := h.made ulp hmem
    exact ⟨h.live_alloc proxy hlive, hne, hnot⟩
  nodup := h.nodup
  order := h.order

theorem next_not_handed (h : s.Orderly) : some s.next ∉ Ulp.handed s.queue := fun hmem =>
  h.not_live_next (h.handed _ hmem)

theorem next_not_made (h : s.Orderly) : s.next ∉ s.made := fun hmem =>
  h.not_live_next (h.made _ hmem).1

theorem make (h : s.Orderly) (proxy : UlpProxy) :
    { s.alloc proxy with made := s.next :: s.made : State }.Orderly :=
  { h.alloc proxy with
    made := fun ulp hmem => by
      rcases List.mem_cons.mp hmem with rfl | hmem
      · refine ⟨?_, (h.ne_next h.present).symm, h.next_not_handed⟩
        change (Function.update s.proxies s.next (some proxy) s.next).isSome = true
        rw [Function.update_self]
        rfl
      · exact (h.alloc proxy).made ulp hmem
    nodup := List.nodup_cons.mpr ⟨h.next_not_made, h.nodup⟩ }

/-- The LBS module hands over a proxy, or none. -/
theorem sendUlpProxy (h : s.Orderly) {ulp : Option ProxyId}
    (hlive : ∀ id, ulp = some id → s.Live id)
    (horder : NoReturn (some s.mUlp :: (Ulp.handed s.queue ++ [ulp]))) {made : List ProxyId}
    (hmade : ∀ id ∈ made, id ∈ s.made ∧ some id ≠ ulp) (hnodup : made.Nodup) :
    { s.sendMsg (.setUlpProxy ulp) with made := made : State }.Orderly where
  untouched := h.untouched
  present := h.present
  bounded := h.bounded
  calls := h.calls
  suplMode id hmem := by
    rcases List.mem_append.mp hmem with hmem | hmem
    · exact h.suplMode id hmem
    · cases List.mem_singleton.mp hmem
  handed id hmem := by
    rw [State.sendMsg, handed_append] at hmem
    rcases List.mem_append.mp hmem with hmem | hmem
    · exact h.handed id hmem
    · exact hlive id (List.mem_singleton.mp hmem).symm
  made id hmem := by
    obtain ⟨hmem, hne⟩ := hmade id hmem
    obtain ⟨hid, hpresent, hnot⟩ := h.made id hmem
    refine ⟨hid, hpresent, fun hhanded => ?_⟩
    rw [State.sendMsg, handed_append] at hhanded
    rcases List.mem_append.mp hhanded with hhanded | hhanded
    · exact hnot hhanded
    · exact hne (List.mem_singleton.mp hhanded)
  nodup := hnodup
  order := by
    rw [State.sendMsg, handed_append]
    exact horder

theorem setNone (h : s.Orderly) : (s.sendMsg (.setUlpProxy none)).Orderly := by
  have hmade : ∀ id ∈ s.made, id ∈ s.made ∧ some id ≠ none := fun id hid =>
    ⟨hid, Option.some_ne_none id⟩
  refine h.sendUlpProxy ?_ (h.order.concat fun hne => absurd rfl hne) hmade h.nodup
  rintro id ⟨⟩

theorem setSome (h : s.Orderly)
    (hulp : ulp ∈ s.made ∨ (some s.mUlp :: Ulp.handed s.queue).getLast? = some (some ulp)) :
    { s.sendMsg (.setUlpProxy (some ulp)) with made := s.made.erase ulp : State }.Orderly := by
  have hmade : ∀ id ∈ s.made.erase ulp, id ∈ s.made ∧ some id ≠ some ulp := by
    intro id hmem
    obtain ⟨hne, hmem⟩ := (h.nodup.mem_erase_iff).mp hmem
    exact ⟨hmem, fun heq => hne (Option.some.inj heq)⟩
  have hnodup := h.nodup.erase ulp
  rcases hulp with hulp | hulp
  · obtain ⟨hlive, hne, hnot⟩ := h.made ulp hulp
    refine h.sendUlpProxy ?_ (h.order.concat fun _ hmem => ?_) hmade hnodup
    · rintro _ ⟨⟩
      exact hlive
    · rcases List.mem_cons.mp hmem with hmem | hmem
      · exact hne (Option.some.inj hmem)
      · exact hnot hmem
  · refine h.sendUlpProxy ?_ (h.order.concat_last hulp) hmade hnodup
    rintro _ ⟨⟩
    rcases List.mem_cons.mp (List.mem_of_getLast? hulp) with hmem | hmem
    · rw [Option.some.inj hmem]
      exact h.present
    · exact h.handed ulp hmem

/-! ## Replacement -/

/-- A message is taken from the queue. -/
theorem dequeue (h : s.Orderly) {msg : Msg} {rest : List Msg} (hqueue : s.queue = msg :: rest)
    (horder : NoReturn (some s.mUlp :: Ulp.handed rest)) :
    { s with queue := rest : State }.Orderly := by
  have hmem : ∀ ulp, some ulp ∈ Ulp.handed rest → some ulp ∈ Ulp.handed s.queue := by
    intro ulp hmem
    rw [hqueue]
    exact List.Sublist.mem hmem (List.Sublist.filterMap _ (List.sublist_cons_self _ _))
  exact { h with
    suplMode := fun ulp hulp => h.suplMode ulp (hqueue ▸ List.mem_cons_of_mem _ hulp)
    handed := fun ulp hulp => h.handed ulp (hmem ulp hulp)
    made := fun ulp hulp => ⟨(h.made ulp hulp).1, (h.made ulp hulp).2.1,
      fun hhanded => (h.made ulp hulp).2.2 (hmem ulp hhanded)⟩
    order := horder }

/-- The old proxy is not handed over again, and the new one takes its place. -/
theorem replace (h : s.Orderly) (hlive : s.Live ulp) (hne : ulp ≠ s.mUlp) (hmade : ulp ∉ s.made)
    (hgone : some s.mUlp ∉ Ulp.handed s.queue) (horder : NoReturn (some ulp :: Ulp.handed s.queue)) :
    (s.replace ulp).Orderly := by
  obtain ⟨old, hold⟩ := Option.isSome_iff_exists.mp h.present
  obtain ⟨new, hnew⟩ := Option.isSome_iff_exists.mp hlive
  rw [replace_eq hold hnew]
  have hother : ∀ id, id ≠ s.mUlp → s.Live id →
      (Function.update (Function.update s.proxies ulp (some (new.inherit old))) s.mUlp none
        id).isSome = true := by
    intro id hid hlive
    rw [Function.update_of_ne hid, isSome_update hnew]
    exact hlive
  have hdead : ∀ id, id = s.mUlp ∨ s.Dead id →
      (Function.update (Function.update s.proxies ulp (some (new.inherit old))) s.mUlp none
        id) = none ∧ id < s.next := by
    rintro id (rfl | hid)
    · exact ⟨Function.update_self _ _ _, h.bounded _ h.present⟩
    · have hnot : id ≠ ulp := by
        rintro rfl
        exact not_dead_of_live hlive hid
      have hnot' : id ≠ s.mUlp := by
        rintro rfl
        exact not_dead_of_live h.present hid
      rw [Function.update_of_ne hnot', Function.update_of_ne hnot]
      exact hid
  constructor
  · exact h.untouched
  · exact hother ulp hne hlive
  · intro id hid
    by_cases hid' : id = s.mUlp
    · rw [hid']
      exact h.bounded _ h.present
    · change (Function.update (Function.update s.proxies ulp (some (new.inherit old))) s.mUlp none
        id).isSome = true at hid
      rw [Function.update_of_ne hid', isSome_update hnew] at hid
      exact h.bounded id hid
  · exact fun call hcall => .inr (hdead _ (h.calls call hcall))
  · exact fun id hid => .inr (hdead _ (h.suplMode id hid))
  · intro id hid
    refine hother id ?_ (h.handed id hid)
    rintro rfl
    exact hgone hid
  · intro id hid
    obtain ⟨hid', hnot, hhanded⟩ := h.made id hid
    refine ⟨hother id hnot hid', ?_, hhanded⟩
    rintro rfl
    exact hmade hid
  · exact h.nodup
  · exact horder

/-- A message that hands over a proxy, or none. -/
theorem setUlpProxy (h : s.Orderly) {ulp : Option ProxyId} {rest : List Msg}
    (hqueue : s.queue = .setUlpProxy ulp :: rest) :
    ({ s with queue := rest }.setUlpProxy ulp).Orderly := by
  have horder : NoReturn (some s.mUlp :: ulp :: Ulp.handed rest) := by
    have horder := h.order
    rwa [hqueue] at horder
  -- the present proxy does not come up again, unless it does right away
  have hgone : ulp ≠ some s.mUlp → some s.mUlp ∉ Ulp.handed rest := by
    intro hne hmem
    exact hne (Option.some.inj (horder.1 (Option.some_ne_none _) (List.mem_cons_of_mem _ hmem)))
  have hrest : ulp ≠ some s.mUlp → { s with queue := rest : State }.Orderly := fun hne =>
    h.dequeue hqueue ⟨fun _ hmem => absurd hmem (hgone hne), horder.2.2⟩
  cases ulp with
  | none =>
      have hrest := hrest (by simp)
      refine (hrest.alloc (.new false true)).replace ?_ ?_ hrest.next_not_made (hgone (by simp)) ?_
      · change (Function.update s.proxies s.next _ s.next).isSome = true
        rw [Function.update_self]
        rfl
      · exact (hrest.ne_next hrest.present).symm
      · exact ⟨fun _ hmem => absurd hmem hrest.next_not_handed, horder.2.2⟩
  | some ulp =>
      rw [State.setUlpProxy]
      split
      next heq =>
        obtain rfl : ulp = s.mUlp := heq
        exact h.dequeue hqueue horder.2
      next hne =>
        have hne' : some ulp ≠ some s.mUlp := fun heq => hne (Option.some.inj heq)
        have hhanded : some ulp ∈ Ulp.handed s.queue := by
          rw [hqueue]
          exact List.mem_cons_self
        refine (hrest hne').replace (h.handed ulp hhanded) hne ?_ (hgone hne') horder.2
        exact fun hmade => (h.made ulp hmade).2.2 hhanded

/-- Steps that use the present proxy. -/
theorem step (h : s.Orderly) {action : Action} {next : State} (huse : UsesPresent s action)
    (hstep : system.step s action = some next) : next.Orderly := by
  cases action with
  | enter call =>
      obtain rfl := Option.some.inj hstep
      exact h.enter call
  | call i answer =>
      change s.proceed i answer = some next at hstep
      rw [proceed] at hstep
      split at hstep
      next => cases hstep
      next call ulp hcall =>
        obtain rfl := Option.some.inj hstep
        have hulp := h.calls _ (List.mem_of_getElem? hcall)
        exact (h.eraseIdx i).perform call answer hulp (huse _ hcall)
  | make keeps =>
      obtain rfl := Option.some.inj hstep
      exact h.make _
  | setUlpProxy ulp =>
      cases ulp with
      | none =>
          obtain rfl := Option.some.inj hstep
          exact h.setNone
      | some ulp =>
          change (if _ then some _ else none) = some next at hstep
          split at hstep
          next hulp =>
            obtain rfl := Option.some.inj hstep
            exact h.setSome hulp
          next => cases hstep
  | internal call =>
      obtain rfl := Option.some.inj hstep
      refine h.sendMsg rfl ?_
      rintro _ ⟨⟩
  | process =>
      change s.process = some next at hstep
      rw [process] at hstep
      split at hstep
      next => cases hstep
      next msg rest hqueue =>
        obtain rfl := Option.some.inj hstep
        have hplain : Ulp.handed (msg :: rest) = Ulp.handed rest →
            { s with queue := rest : State }.Orderly := fun heq => by
          have horder := h.order
          rw [hqueue, heq] at horder
          exact h.dequeue hqueue horder
        cases msg with
        | setUlpProxy ulp => exact h.setUlpProxy hqueue
        | engine call => exact hplain rfl
        | suplMode ulp =>
            have hulp : ulp = s.mUlp := huse (.suplMode ulp) (by rw [hqueue]; rfl)
            rw [State.proc, if_pos (hulp ▸ h.present)]
            exact hplain rfl

/-- A step that uses another proxy uses one that was deleted. -/
theorem step_touches (h : s.Orderly) {action : Action} (huse : ¬UsesPresent s action) :
    ∃ next, system.step s action = some next ∧ ¬next.touchedFreed = false := by
  cases action with
  | enter _ => exact absurd trivial huse
  | make _ => exact absurd trivial huse
  | setUlpProxy _ => exact absurd trivial huse
  | internal _ => exact absurd trivial huse
  | call i answer =>
      rw [UsesPresent] at huse
      push Not at huse
      obtain ⟨⟨call, ulp⟩, hcall, hsupl, hne⟩ := huse
      have hdead := (h.calls _ (List.mem_of_getElem? hcall)).resolve_left hne
      refine ⟨{ s with calls := s.calls.eraseIdx i }.perform call ulp answer, ?_, ?_⟩
      · change s.proceed i answer = _
        rw [proceed, hcall]
      · rw [State.perform, if_neg (by simp [hsupl])]
        dsimp only
        rw [hdead.1]
        exact Bool.true_eq_false.mp
  | process =>
      rw [UsesPresent] at huse
      push Not at huse
      obtain ⟨msg, hhead, huse⟩ := huse
      obtain ⟨ulp, rfl, hne⟩ : ∃ ulp, msg = .suplMode ulp ∧ ulp ≠ s.mUlp := by
        cases msg with
        | suplMode ulp => exact ⟨ulp, rfl, huse⟩
        | setUlpProxy ulp => exact absurd trivial huse
        | engine call => exact absurd trivial huse
      obtain ⟨rest, hqueue⟩ := List.head?_eq_some_iff.mp hhead
      have hdead := (h.suplMode ulp (hqueue ▸ List.mem_cons_self)).resolve_left hne
      refine ⟨{ s with queue := rest }.proc (.suplMode ulp), ?_, ?_⟩
      · change s.process = _
        rw [process, hqueue]
      · rw [State.proc, if_neg (by simp [hdead.1])]
        simp

end State.Orderly

/-- No run uses a deleted proxy exactly when every call and every message with a pointer that was
read before reaches the proxy that is still the present one. -/
theorem never_touches_deleted_iff (actions : List Action) :
    system.Throughout (fun s => s.touchedFreed = false) system.init actions ↔
      system.Guarded UsesPresent system.init actions := by
  apply Transition.System.throughout_iff_guarded State.Orderly
  · exact fun s h => h.untouched
  · exact fun s action next h huse hstep => h.step huse hstep
  · exact fun s action h huse => h.step_touches huse
  · exact State.Orderly.init

/-- A new `SUPL_MODE` while the message task is about to replace the proxy. -/
example : (system.run [.make true, .setUlpProxy (some 1), .enter .suplMode, .call 0 false,
    .process, .process]).any (·.touchedFreed) = true := rfl

end Serrano.LocEng.Ulp
