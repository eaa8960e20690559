import Serrano.LocEng.SuplEsClients

/-! # Finished clients are left alone

The runs of the data call machine in which whoever is finished leaves the list
of active subscribers and is not waiting in the queue of retries.
-/

namespace Serrano.LocEng

open Agps AgpsStateMachine

namespace SuplEs

/-- The steps after which a finished client is neither active nor queued: no
attempt to start a data call falls back, and whoever is released or denied was
not in Released and has no retry in the queue. -/
def Settles (st : SuplEs) : SuplEsAction → Prop
  | .requestSuplEs _ _ | .retrySuplEs _ =>
      st.dsNif.mStatePtr = .released → ¬ fallsBack st.dsNif
  | .releaseATL id beyond =>
      ∀ data ∈ st.dsNif.findSubscriber (.receiver (dsSubscriber id beyond)),
        st.dsNif.mStatePtr ≠ .released ∧ id ∉ st.retries
  | .suplEsClosed =>
      (st.dsNif.mStatePtr = .pending → ∀ obj ∈ st.dsNif.mSubscribers, obj.sub.ID ∉ st.retries) ∧
        (st.dsNif.mStatePtr = .releasing → st.dsNif.hasActiveSubscribers = true →
          ¬ fallsBack st.dsNif)
  | .suplEsOpened | .retryCallback | .dataCallAnswer _ => True

instance (st : SuplEs) : (action : SuplEsAction) → Decidable (st.Settles action)
  | .requestSuplEs _ _ | .retrySuplEs _ => inferInstanceAs (Decidable (_ → ¬ _))
  | .releaseATL id beyond => inferInstanceAs (Decidable
      (∀ data ∈ st.dsNif.findSubscriber (.receiver (dsSubscriber id beyond)), _ ∧ _))
  | .suplEsClosed => inferInstanceAs (Decidable ((_ → ∀ obj ∈ _, _ ∉ _) ∧ (_ → _ → ¬ _)))
  | .suplEsOpened | .retryCallback | .dataCallAnswer _ => .isTrue trivial

/-- What guarded runs keep. -/
structure Settled (st : SuplEs) : Prop where
  tidy : Tidy (finishing.after st.log) st.dsNif
  retries : ∀ id ∈ st.retries, (finishing.after st.log).finished id = false
  always : finishing.Always leftAlone st.log

/-- Processing a message, after the monitor took note of it. -/
theorem settled_process {st : SuplEs} (hst : st.Settled) (event : DsEvent)
    (hquiet : leftAlone (finishing.after st.log) event)
    (htidy : Tidy ((finishing.after st.log).update event) st.dsNif) {m' : AgpsStateMachine}
    {ids : List UInt32} (hleaves : Leaves ((finishing.after st.log).update event) st.dsNif m' ids)
    (hsame : st.dsNif.SameMachine m') (hinv : m'.Inv) {retries : List UInt32}
    (hretries : ∀ id ∈ retries,
      ((finishing.after st.log).update event).finished id = false ∧ id ∉ ids) :
    ({ st with retries := retries }.process event m').Settled := by
  obtain ⟨events, hlog, halways, hafter⟩ := hleaves.1
  have hdid : st.did m' = events := by
    simp [did, hlog]
  have hprocess : ({ st with retries := retries }.process event m').log =
      st.log ++ event :: events.map .did := by
    rw [← hdid]
    rfl
  have hend : finishing.after (st.log ++ event :: events.map .did) =
      ((finishing.after st.log).update event).add ids := by
    rw [Monitor.after_append]
    exact hafter
  refine ⟨?_, fun id hmem => ?_, ?_⟩
  · rw [hprocess, hend]
    exact htidy.leaves hsame hinv hleaves
  · rw [hprocess, hend, Finished.add_finished_eq_false]
    exact ⟨(hretries id hmem).2, (hretries id hmem).1⟩
  · rw [hprocess, Monitor.always_append]
    exact ⟨hst.always, hquiet, halways⟩

theorem settled_releaseATL {st : SuplEs} (hst : st.Settled) {id : UInt32}
    {beyond : Vector UInt8 16} (hsettles : st.Settles (.releaseATL id beyond)) :
    (st.releaseATL id beyond).Settled := by
  have htidy : Tidy ((finishing.after st.log).update (.releaseATL id)) st.dsNif :=
    hst.tidy.mono fun _ hother => hother
  obtain ⟨ids, hleaves, hids⟩ := leaves_unsubscribeRsrc htidy (dsSubscriber id beyond)
    fun data hdata => (hsettles data hdata).1
  have hprocess : (st.process (.releaseATL id)
      (st.dsNif.unsubscribeRsrc (dsSubscriber id beyond)).2).Settled := by
    refine settled_process hst (.releaseATL id) trivial htidy hleaves (SameMachine.unsubscribeRsrc _ _)
      (inv_unsubscribeRsrc hst.tidy.inv _) fun other hother => ⟨hst.retries other hother, ?_⟩
    intro hmem
    obtain ⟨data, hdata, hid⟩ := hids other hmem
    subst hid
    exact (hsettles data hdata).2 hother
  dsimp only [releaseATL]
  split_ifs
  · exact hprocess
  · -- the refusal of an unknown handle concerns nobody
    have hlog : ∀ log : List DsEvent,
        finishing.after (log ++ [.did (.atlCloseStatus id false)]) = finishing.after log := by
      intro log
      rw [Monitor.after_append]
      rfl
    refine ⟨?_, fun other hother => ?_, ?_⟩
    · rw [hlog]
      exact hprocess.tidy
    · rw [hlog]
      exact hprocess.retries other hother
    · rw [Monitor.always_append]
      exact ⟨hprocess.always, trivial, trivial⟩

theorem settled_retryCallback {st : SuplEs} (hst : st.Settled) : st.retryCallback.Settled := by
  have hlog : (finishing.after st.retryCallback.log).finished =
      (finishing.after st.log).finished := by
    rw [retryCallback, Monitor.after_append]
    rfl
  refine ⟨hst.tidy.mono fun id hid => hlog ▸ hid, fun id hmem => ?_, ?_⟩
  · rw [hlog]
    rcases List.mem_append.mp hmem with hmem | hmem
    · exact hst.retries id hmem
    · obtain ⟨obj, hobj, rfl⟩ := List.mem_map.mp hmem
      have hfind := Option.mem_toList.mp hobj
      rw [findSubscriber_eq] at hfind
      have hactive : (!obj.sub.isInactive) = true := by simpa using List.find?_some hfind
      exact (hst.tidy.clients obj (List.mem_of_find?_eq_some hfind)).2 (by simpa using hactive)
  · rw [retryCallback, Monitor.always_append]
    exact ⟨hst.always, trivial, trivial⟩

theorem settled_step {st st' : SuplEs} {action : SuplEsAction} (hst : st.Settled)
    (hsettles : st.Settles action) (hstep : st.step action = some st') : st'.Settled := by
  cases action with
  | requestSuplEs id beyond =>
      obtain rfl := Option.some.inj hstep
      have htidy : Tidy ((finishing.after st.log).update (.requestSuplEs id)) st.dsNif :=
        hst.tidy.mono fun other hother => by simp [hother]
      refine settled_process hst (.requestSuplEs id) trivial htidy
        (leaves_subscribeRsrc htidy (dsSubscriber id beyond) rfl ?_ ?_ hsettles)
        (SameMachine.subscribeRsrc _ _) (inv_subscribeRsrc hst.tidy.inv _) fun other hother => ?_
      · simp [dsSubscriber]
      · simp [Finished.update]
      · exact ⟨by simp [hst.retries other hother], by simp⟩
  | retrySuplEs beyond =>
      cases hretries : st.retries with
      | nil => simp [step, hretries] at hstep
      | cons id rest =>
          simp only [step, hretries, Option.some.injEq] at hstep
          subst hstep
          have hid := hst.retries id (hretries ▸ List.mem_cons_self)
          have htidy : Tidy ((finishing.after st.log).update (.retrySuplEs id)) st.dsNif :=
            hst.tidy.mono fun _ hother => hother
          refine settled_process hst (.retrySuplEs id) trivial htidy
            (leaves_subscribeRsrc htidy (dsSubscriber id beyond) rfl hid ?_ hsettles)
            (SameMachine.subscribeRsrc _ _)
            (inv_subscribeRsrc hst.tidy.inv _) fun other hother => ⟨?_, by simp⟩
          · rintro other hother
            obtain rfl := Option.some.inj hother
            exact hid
          · exact hst.retries other (hretries ▸ List.mem_cons_of_mem _ hother)
  | releaseATL id beyond =>
      obtain rfl := Option.some.inj hstep
      exact settled_releaseATL hst hsettles
  | suplEsOpened =>
      obtain rfl := Option.some.inj hstep
      have htidy : Tidy ((finishing.after st.log).update .suplEsOpened) st.dsNif :=
        hst.tidy.mono fun _ hother => hother
      have hleaves : Leaves ((finishing.after st.log).update .suplEsOpened) st.dsNif
          (st.dsNif.onRsrcEvent .rsrcGranted) [] := by
        simp only [onRsrcEvent, hst.tidy.cls]
        exact leaves_stateOnRsrcEvent _ .rsrcGranted (leaves_granted (htidy.record _))
      exact settled_process hst .suplEsOpened trivial htidy hleaves (SameMachine.onRsrcEvent _ _)
        (inv_onRsrcEvent hst.tidy.inv _) fun other hother => ⟨hst.retries other hother, by simp⟩
  | suplEsClosed =>
      obtain rfl := Option.some.inj hstep
      have htidy : Tidy ((finishing.after st.log).update .suplEsClosed) st.dsNif :=
        hst.tidy.mono fun _ hother => hother
      obtain ⟨ids, hleaves, hids⟩ := leaves_closed htidy (by simp [Finished.update]) hsettles.2
      refine settled_process hst .suplEsClosed trivial htidy hleaves (SameMachine.onRsrcEvent _ _)
        (inv_onRsrcEvent hst.tidy.inv _) fun other hother => ⟨hst.retries other hother, ?_⟩
      intro hmem
      obtain ⟨hpending, obj, hobj, rfl⟩ := hids other hmem
      exact hsettles.1 hpending obj hobj hother
  | retryCallback =>
      simp only [step] at hstep
      split_ifs at hstep
      obtain rfl := Option.some.inj hstep
      exact settled_retryCallback hst
  | dataCallAnswer ret =>
      obtain rfl := Option.some.inj hstep
      exact ⟨⟨hst.tidy.cls, hst.tidy.single, inv_step hst.tidy.inv (.dataCallAnswer ret),
        hst.tidy.clients⟩, hst.retries, hst.always⟩

theorem settled_initial (answer : Int) : (initial answer).Settled :=
  ⟨⟨rfl, rfl, inv_dsConstructed _, fun _ hmem => absurd hmem List.not_mem_nil⟩,
    fun _ hmem => absurd hmem List.not_mem_nil, trivial⟩

/-- In a run whose steps settle what they finish, finished clients are left
alone in every state until they ask again. -/
theorem finished_left_alone (answer : Int) (actions : List SuplEsAction)
    (hsettles : (system answer).Guarded Settles (initial answer) actions) :
    (system answer).Throughout (fun st => finishing.Always leftAlone st.log)
      (initial answer) actions :=
  Transition.System.throughout_of_guarded Settled (fun _ hst => hst.always)
    (fun _ _ _ hst hsettles hstep => settled_step hst hsettles hstep)
    (settled_initial answer) hsettles

/-- A data call that is opened, released, closed, and asked for again. -/
theorem finished_left_alone_reopened :
    (system 0).Throughout (fun st => finishing.Always leftAlone st.log) (initial 0)
      [.requestSuplEs 1 (.replicate 16 0), .suplEsOpened, .releaseATL 1 (.replicate 16 0),
        .suplEsClosed, .requestSuplEs 1 (.replicate 16 0)] := by
  apply finished_left_alone
  decide

/-- The engine is busy, the client gives up, and the retry timer then starts a
data call for it. -/
theorem retry_starts_released :
    ¬ (system locApiAdapterErrEngineBusy).Throughout
      (fun st => finishing.Always leftAlone st.log) (initial locApiAdapterErrEngineBusy)
      [.requestSuplEs 1 (.replicate 16 0), .releaseATL 1 (.replicate 16 0), .dataCallAnswer 0,
        .retryCallback, .retrySuplEs (.replicate 16 0)] := by
  apply Transition.System.not_throughout_of_any fun st => !decide (finishing.Always leftAlone st.log)
  · simp
  · decide

end SuplEs

end Serrano.LocEng
