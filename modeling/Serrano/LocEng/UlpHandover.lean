import Serrano.LocEng.UlpProxy

/-! # The session across proxies

What the client asked of one proxy after the other comes down to a mode and to whether a fix
is wanted. Each new proxy is told as much, so that the present one knows the whole session,
as long as the classes of the proxies keep the members of the base class.
-/

namespace Serrano.LocEng.Ulp

/-- What is left of everything a proxy is told. -/
@[ext]
structure Session where
  mode : Option LocPosMode
  fixing : Bool
  deriving DecidableEq

/-- An invalid mode is none. -/
def validMode (params : LocPosMode) : Option LocPosMode :=
  if params.mode = .invalid then none else some params

def Session.after (session : Session) : Told → Session
  | .fixMode params => { session with mode := validMode params }
  | .startFix => { session with fixing := true }
  | .stopFix => { session with fixing := false }

def session (told : List Told) : Session := told.foldl Session.after ⟨none, false⟩

/-- The session as the members have it. -/
def UlpProxy.session (proxy : UlpProxy) : Session := ⟨validMode proxy.mPosMode, proxy.mFixSet⟩

theorem session_concat (told : List Told) (last : Told) :
    session (told ++ [last]) = (session told).after last :=
  List.foldl_append

/-- The proxy keeps its members, and they are the session it was told. -/
structure UlpProxy.Knows (proxy : UlpProxy) : Prop where
  keeps : proxy.keeps = true
  session : proxy.session = Ulp.session proxy.told

theorem UlpProxy.Knows.hear {proxy : UlpProxy} (h : proxy.Knows) (told : Told) :
    (proxy.hear told).Knows ∧ (proxy.hear told).told = proxy.told ++ [told] := by
  have hsession : ∀ hearing : UlpProxy, hearing.told = proxy.told ++ [told] →
      hearing.keeps = true → hearing.session = proxy.session.after told → hearing.Knows := by
    intro hearing htold hkeeps hafter
    exact ⟨hkeeps, by rw [hafter, htold, session_concat, h.session]⟩
  cases told with
  | fixMode params =>
      have hhear : proxy.hear (.fixMode params) =
          { proxy with told := proxy.told ++ [.fixMode params], mPosMode := params } := by
        simp only [UlpProxy.hear, h.keeps, if_true]
      rw [hhear]
      exact ⟨hsession _ rfl h.keeps rfl, rfl⟩
  | startFix =>
      have hhear : proxy.hear .startFix =
          { proxy with told := proxy.told ++ [.startFix], mFixSet := true } := by
        simp only [UlpProxy.hear, h.keeps, if_true]
      rw [hhear]
      exact ⟨hsession _ rfl h.keeps rfl, rfl⟩
  | stopFix =>
      have hhear : proxy.hear .stopFix =
          { proxy with told := proxy.told ++ [.stopFix], mFixSet := false } := by
        simp only [UlpProxy.hear, h.keeps, if_true]
      rw [hhear]
      exact ⟨hsession _ rfl h.keeps rfl, rfl⟩

/-- A proxy that was told nothing yet knows the session of the old one afterwards. -/
theorem UlpProxy.Knows.inherit {ulp old : UlpProxy} (h : ulp.Knows) (hnew : ulp.told = []) :
    (ulp.inherit old).Knows ∧ Ulp.session (ulp.inherit old).told = old.session := by
  have hmode : ∃ middle : UlpProxy,
      (if old.mPosMode.mode ≠ .invalid then ulp.hear (.fixMode old.mPosMode) else ulp) = middle ∧
        middle.Knows ∧ Ulp.session middle.told = ⟨validMode old.mPosMode, false⟩ := by
    by_cases hvalid : old.mPosMode.mode ≠ .invalid
    · obtain ⟨hknows, htold⟩ := h.hear (.fixMode old.mPosMode)
      rw [if_pos hvalid]
      refine ⟨_, rfl, hknows, ?_⟩
      rw [htold, hnew]
      rfl
    · rw [if_neg hvalid, validMode, if_pos (not_not.mp hvalid)]
      refine ⟨ulp, rfl, h, ?_⟩
      rw [hnew]
      rfl
  obtain ⟨middle, heq, hknows, hmiddle⟩ := hmode
  rw [UlpProxy.inherit, UlpProxy.session, heq]
  cases old.mFixSet with
  | false => exact ⟨hknows, hmiddle⟩
  | true =>
      obtain ⟨hstart, htold⟩ := hknows.hear .startFix
      rw [if_pos rfl]
      refine ⟨hstart, ?_⟩
      rw [htold, session_concat, hmiddle]
      rfl

/-- The LBS module makes proxies that keep the members only. -/
def Action.keeps : Action → Bool
  | .make keeps => keeps
  | _ => true

/-- The present proxy knows what the client asked, and the others were told nothing. -/
structure State.Informed (s : State) : Prop where
  knows : ∀ ulp proxy, s.proxies ulp = some proxy → proxy.Knows
  untold : ∀ ulp proxy, s.proxies ulp = some proxy → ulp ≠ s.mUlp → proxy.told = []
  present : ∀ proxy, s.proxies s.mUlp = some proxy → session proxy.told = session s.asked

namespace State.Informed

variable {s : State} {ulp : ProxyId}

theorem init : State.init.Informed := by
  have honly : ∀ ulp proxy, State.init.proxies ulp = some proxy →
      ulp = 0 ∧ proxy = .new false true := by
    intro ulp proxy hproxy
    change Function.update (fun _ => none) 0 (some (UlpProxy.new false true)) ulp = _ at hproxy
    by_cases hulp : ulp = 0
    · rw [hulp, Function.update_self] at hproxy
      exact ⟨hulp, (Option.some.inj hproxy).symm⟩
    · rw [Function.update_of_ne hulp] at hproxy
      cases hproxy
  constructor
  · intro ulp proxy hproxy
    obtain ⟨-, rfl⟩ := honly ulp proxy hproxy
    exact ⟨rfl, rfl⟩
  · intro ulp proxy hproxy hne
    exact absurd (honly ulp proxy hproxy).1 hne
  · intro proxy hproxy
    obtain ⟨-, rfl⟩ := honly _ proxy hproxy
    rfl

/-- Only the proxies, the pointer and what was asked matter. -/
theorem congr (h : s.Informed) {next : State} (hproxies : next.proxies = s.proxies)
    (hulp : next.mUlp = s.mUlp) (hasked : next.asked = s.asked) : next.Informed := by
  constructor
  · rw [hproxies]
    exact h.knows
  · rw [hproxies, hulp]
    exact h.untold
  · rw [hproxies, hulp, hasked]
    exact h.present

theorem ask (h : s.Informed) (call : Call) (hlive : s.Live s.mUlp) :
    (s.ask s.mUlp call).Informed := by
  rw [State.ask]
  cases call.told with
  | none => exact h
  | some told =>
      obtain ⟨proxy, hproxy⟩ := Option.isSome_iff_exists.mp hlive
      obtain ⟨hknows, htold⟩ := (h.knows _ proxy hproxy).hear told
      dsimp only
      rw [tell_eq told hproxy]
      constructor
      · intro id other hother
        change Function.update s.proxies s.mUlp (some (proxy.hear told)) id = some other at hother
        by_cases hid : id = s.mUlp
        · rw [hid, Function.update_self] at hother
          exact Option.some.inj hother ▸ hknows
        · rw [Function.update_of_ne hid] at hother
          exact h.knows id other hother
      · intro id other hother hid
        change Function.update s.proxies s.mUlp (some (proxy.hear told)) id = some other at hother
        rw [Function.update_of_ne hid] at hother
        exact h.untold id other hother hid
      · intro other hother
        change Function.update s.proxies s.mUlp (some (proxy.hear told)) s.mUlp = some other
          at hother
        rw [Function.update_self] at hother
        rw [← Option.some.inj hother, htold, session_concat, session_concat,
          h.present proxy hproxy]

theorem perform (h : s.Informed) (call : Call) (answer : Bool) (hlive : s.Live s.mUlp)
    (huse : call.isSuplMode = false → ulp = s.mUlp) : (s.perform call ulp answer).Informed := by
  rw [State.perform]
  cases hsupl : call.isSuplMode with
  | true => exact h.congr rfl rfl rfl
  | false =>
      obtain rfl := huse hsupl
      obtain ⟨proxy, hproxy⟩ := Option.isSome_iff_exists.mp hlive
      rw [if_neg Bool.false_ne_true, hproxy]
      have hask := h.ask call hlive
      dsimp only
      split
      · exact hask
      · exact hask.congr rfl rfl rfl

theorem alloc (h : s.Informed) (hpresent : s.mUlp ≠ s.next) (derived : Bool) :
    (s.alloc (.new derived true)).Informed := by
  constructor
  · intro ulp proxy hproxy
    rw [Orderly.proxies_alloc] at hproxy
    by_cases hulp : ulp = s.next
    · rw [hulp, Function.update_self] at hproxy
      exact Option.some.inj hproxy ▸ ⟨rfl, rfl⟩
    · rw [Function.update_of_ne hulp] at hproxy
      exact h.knows ulp proxy hproxy
  · intro ulp proxy hproxy hne
    rw [Orderly.proxies_alloc] at hproxy
    by_cases hulp : ulp = s.next
    · rw [hulp, Function.update_self] at hproxy
      exact Option.some.inj hproxy ▸ rfl
    · rw [Function.update_of_ne hulp] at hproxy
      exact h.untold ulp proxy hproxy hne
  · intro proxy hproxy
    change (s.alloc _).proxies s.mUlp = some proxy at hproxy
    rw [Orderly.proxies_alloc, Function.update_of_ne hpresent] at hproxy
    exact h.present proxy hproxy

theorem replace (h : s.Informed) (hpresent : s.Live s.mUlp) (hlive : s.Live ulp)
    (hne : ulp ≠ s.mUlp) : (s.replace ulp).Informed := by
  obtain ⟨old, hold⟩ := Option.isSome_iff_exists.mp hpresent
  obtain ⟨new, hnew⟩ := Option.isSome_iff_exists.mp hlive
  have hknows := h.knows ulp new hnew
  have huntold : new.told = [] := h.untold ulp new hnew hne
  obtain ⟨hinherit, hsession⟩ : (new.inherit old).Knows ∧
      session (new.inherit old).told = old.session := hknows.inherit huntold
  rw [replace_eq hold hnew]
  have hcases : ∀ id proxy, Function.update
      (Function.update s.proxies ulp (some (new.inherit old))) s.mUlp none id = some proxy →
      id ≠ s.mUlp ∧ (id = ulp → proxy = new.inherit old) ∧
        (id ≠ ulp → s.proxies id = some proxy) := by
    intro id proxy hproxy
    have hid : id ≠ s.mUlp := by
      rintro rfl
      rw [Function.update_self] at hproxy
      cases hproxy
    rw [Function.update_of_ne hid] at hproxy
    refine ⟨hid, ?_, fun hulp => ?_⟩
    · rintro rfl
      rw [Function.update_self] at hproxy
      exact (Option.some.inj hproxy).symm
    · rwa [Function.update_of_ne hulp] at hproxy
  constructor
  · intro id proxy hproxy
    obtain ⟨-, hself, hother⟩ := hcases id proxy hproxy
    by_cases hid : id = ulp
    · exact hself hid ▸ hinherit
    · exact h.knows id proxy (hother hid)
  · intro id proxy hproxy hid
    obtain ⟨hpresent, -, hother⟩ := hcases id proxy hproxy
    exact h.untold id proxy (hother hid) hpresent
  · intro proxy hproxy
    obtain ⟨-, hself, -⟩ := hcases ulp proxy hproxy
    rw [hself rfl, hsession, (h.knows _ old hold).session]
    exact h.present old hold

theorem setUlpProxy {rest : List Msg} {ulp : Option ProxyId}
    (h : { s with queue := rest : State }.Informed) (horderly : s.Orderly)
    (hqueue : s.queue = .setUlpProxy ulp :: rest) :
    ({ s with queue := rest }.setUlpProxy ulp).Informed := by
  cases ulp with
  | none =>
      have hne : s.mUlp ≠ s.next := horderly.ne_next horderly.present
      refine (h.alloc hne false).replace ?_ ?_ hne.symm
      · change (Function.update s.proxies s.next _ s.mUlp).isSome = true
        rw [Function.update_of_ne hne]
        exact horderly.present
      · change (Function.update s.proxies s.next _ s.next).isSome = true
        rw [Function.update_self]
        rfl
  | some ulp =>
      rw [State.setUlpProxy]
      split
      next => exact h
      next hne =>
        refine h.replace horderly.present (horderly.handed ulp ?_) hne
        rw [hqueue]
        exact List.mem_cons_self

/-- Steps that use the present proxy and make only proxies that keep the members. -/
theorem step (h : s.Informed) (horderly : s.Orderly) {action : Action} {next : State}
    (huse : UsesPresent s action) (hkeeps : action.keeps = true)
    (hstep : system.step s action = some next) : next.Informed := by
  cases action with
  | enter call =>
      obtain rfl := Option.some.inj hstep
      exact h.congr rfl rfl rfl
  | call i answer =>
      change s.proceed i answer = some next at hstep
      rw [proceed] at hstep
      split at hstep
      next => cases hstep
      next call ulp hcall =>
        obtain rfl := Option.some.inj hstep
        have hrest : { s with calls := s.calls.eraseIdx i : State }.Informed := h.congr rfl rfl rfl
        exact hrest.perform call answer horderly.present (huse _ hcall)
  | make keeps =>
      obtain rfl := Option.some.inj hstep
      obtain rfl : keeps = true := hkeeps
      exact (h.alloc (horderly.ne_next horderly.present) true).congr rfl rfl rfl
  | setUlpProxy ulp =>
      cases ulp with
      | none =>
          obtain rfl := Option.some.inj hstep
          exact h.congr rfl rfl rfl
      | some ulp =>
          change (if _ then some _ else none) = some next at hstep
          split at hstep
          next =>
            obtain rfl := Option.some.inj hstep
            exact h.congr rfl rfl rfl
          next => cases hstep
  | internal call =>
      obtain rfl := Option.some.inj hstep
      exact h.congr rfl rfl rfl
  | process =>
      change s.process = some next at hstep
      rw [process] at hstep
      split at hstep
      next => cases hstep
      next msg rest hqueue =>
        obtain rfl := Option.some.inj hstep
        have hrest : { s with queue := rest : State }.Informed := h.congr rfl rfl rfl
        cases msg with
        | engine call => exact hrest
        | suplMode ulp =>
            rw [State.proc]
            split
            · exact hrest
            · exact h.congr rfl rfl rfl
        | setUlpProxy ulp => exact hrest.setUlpProxy horderly hqueue

end State.Informed

/-- Whoever replaces the proxy and however often, the present one was told as much as the client
asked in all, and its members say so. -/
theorem present_proxy_has_session {actions : List Action} {s : State}
    (hguard : system.Guarded (fun s action => UsesPresent s action ∧ action.keeps = true)
      system.init actions) (hrun : system.run actions = some s) :
    ∃ proxy, s.proxies s.mUlp = some proxy ∧ session proxy.told = session s.asked ∧
      proxy.session = session s.asked := by
  have hstep : ∀ (s : State) (action : Action) (next : State), s.Orderly ∧ s.Informed →
      UsesPresent s action ∧ action.keeps = true → system.step s action = some next →
      next.Orderly ∧ next.Informed := fun s action next h huse hstep =>
    ⟨h.1.step huse.1 hstep, h.2.step h.1 huse.1 huse.2 hstep⟩
  have hinit : State.init.Orderly ∧ State.init.Informed := ⟨.init, .init⟩
  obtain ⟨horderly, hinformed⟩ :=
    Transition.System.guarded_invariant _ hstep hinit hguard hrun
  obtain ⟨proxy, hproxy⟩ := Option.isSome_iff_exists.mp horderly.present
  refine ⟨proxy, hproxy, hinformed.present proxy hproxy, ?_⟩
  rw [(hinformed.knows _ proxy hproxy).session]
  exact hinformed.present proxy hproxy

/-- A client starts a fix, the first proxy is replaced, and the client stops. -/
def startedAndStopped : List Action :=
  [.enter (.fixMode false .default), .call 0 false, .enter .startFix, .call 0 false, .make true,
    .setUlpProxy (some 1), .process, .process, .process, .enter .stopFix, .call 0 true]

theorem present_proxy_has_session_stopped :
    ∃ (s : State) (proxy : UlpProxy), system.run startedAndStopped = some s ∧
      s.proxies 1 = some proxy ∧
      proxy.session = ⟨some { LocPosMode.default with mode := .standalone }, false⟩ := by
  have hguard : system.Guarded (fun s action => UsesPresent s action ∧ action.keeps = true)
      system.init startedAndStopped := by decide
  have hrun : system.run startedAndStopped = some _ := rfl
  obtain ⟨proxy, hproxy, -, hsession⟩ := present_proxy_has_session hguard hrun
  exact ⟨_, proxy, hrun, hproxy, hsession⟩

end Serrano.LocEng.Ulp
