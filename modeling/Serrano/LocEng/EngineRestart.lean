import Serrano.LocEng.Messages
import Serrano.Agps.Discipline

/-! # Engine restarts and the data connections

When the modem comes back, the engine empties the subscriber lists of two
machines and leaves their states alone. A machine that was not in Released then
holds, or waits for, a connection that nobody uses and nobody gives back. A run
avoids this exactly when every restart finds these machines in Released.
-/

namespace Serrano.LocEng

open Agps AgpsStateMachine

namespace LocEngData

/-- A machine without subscribers is in Released, and, if it asks the framework
for its connection, has no request outstanding. -/
def NoOrphan (e : LocEngData) : Prop :=
  ∀ nif m, e.nif nif = some m → m.mSubscribers = [] →
    m.mStatePtr = .released ∧ (nif ≠ .ds → outstanding.after m.log = false)

/-- A restart of the modem finds the machines it empties in Released. -/
def RestartsReleased (e : LocEngData) (msg : LocEngMsg) : Prop :=
  msg = .engineUp → e.agpsStatusCb = true →
    ∀ nif m, (nif = .agnss ∨ nif = .internet) → e.nif nif = some m → m.mStatePtr = .released

/-- The runs of the engine after `loc_eng_agps_init`. -/
def system (msaOrMsb dataClient : Bool) : Transition.System LocEngData LocEngMsg where
  init := locEngAgpsInit msaOrMsb dataClient
  step := proc

/-- Every machine keeps its invariant, the discipline included if it is of the
base class. -/
structure Orderly (e : LocEngData) : Prop where
  inv : ∀ nif m, e.nif nif = some m → m.Inv
  connected : ∀ nif m, e.nif nif = some m → nif ≠ .ds → m.Connected

theorem orderly_init (msaOrMsb dataClient : Bool) :
    (locEngAgpsInit msaOrMsb dataClient).Orderly := by
  have hbase : ∀ nif m, (locEngAgpsInit msaOrMsb dataClient).nif nif = some m → m.Connected := by
    intro nif m hm
    cases nif with
    | agnss =>
        simp only [nif, locEngAgpsInit] at hm
        split_ifs at hm
        exact Option.some.inj hm ▸ connected_constructed _ _ _
    | internet | wifi => exact Option.some.inj hm ▸ connected_constructed _ _ _
    | ds => cases hm
  exact ⟨fun nif m hm => (hbase nif m hm).inv, fun nif m hm _ => hbase nif m hm⟩

/-- An orderly engine orphans no connection. -/
theorem Orderly.noOrphan {e : LocEngData} (he : e.Orderly) : e.NoOrphan := by
  intro nif m hm hnil
  have hstate : m.mStatePtr = .released := by
    have hagrees := (he.inv nif m hm).agrees
    cases hstate : m.mStatePtr with
    | released => rfl
    | pending | acquired | releasing => simp [hstate, Matches, hnil] at hagrees
  refine ⟨hstate, fun hnif => ?_⟩
  have hafter := (he.connected nif m hm hnif).disciplined.after
  rwa [hstate] at hafter

/-- Emptying the list of a machine in Released changes nothing. -/
theorem dropNif_of_released {m : Option AgpsStateMachine}
    (hm : ∀ m' ∈ m, m'.Connected ∧ m'.mStatePtr = .released) : dropNif m = m := by
  cases m with
  | none => rfl
  | some m =>
      obtain ⟨hconnected, hstate⟩ := hm m rfl
      have hagrees := hconnected.inv.agrees
      rw [hconnected.cls, hstate] at hagrees
      exact congrArg some (AgpsStateMachine.ext rfl hagrees.symm rfl rfl rfl rfl rfl rfl rfl rfl rfl)

theorem locEngHandleEngineUp_of_released {e : LocEngData} (he : e.Orderly)
    (hreleased : e.RestartsReleased .engineUp) : e.locEngHandleEngineUp = e := by
  unfold locEngHandleEngineUp
  split_ifs with hcb
  · have hagnss : dropNif e.agnssNif = e.agnssNif := dropNif_of_released fun m hm =>
      ⟨he.connected .agnss m hm (by simp), hreleased rfl hcb .agnss m (Or.inl rfl) hm⟩
    have hinternet : dropNif e.internetNif = e.internetNif := dropNif_of_released fun m hm =>
      ⟨he.connected .internet m hm (by simp), hreleased rfl hcb .internet m (Or.inr rfl) hm⟩
    rw [hagnss, hinternet]
  · rfl

theorem orderly_proc {e e' : LocEngData} {msg : LocEngMsg} (he : e.Orderly)
    (hreleased : e.RestartsReleased msg) (hproc : e.proc msg = some e') : e'.Orderly := by
  by_cases hup : msg = .engineUp
  · subst hup
    obtain rfl := Option.some.inj hproc
    rwa [locEngHandleEngineUp_of_released he hreleased]
  · refine ⟨fun nif m' hm' => ?_, fun nif m' hm' hnif => ?_⟩
    · rcases proc_nif hproc hup hm' with ⟨m, calls, hm, rfl⟩ | ⟨_, rfl⟩
      · exact afterCalls_invariant Inv (he.inv nif m hm) (fun _ call hinv => inv_step hinv call) calls
      · exact inv_dsConstructed _
    · rcases proc_nif hproc hup hm' with ⟨m, calls, hm, rfl⟩ | ⟨hds, _⟩
      · exact afterCalls_invariant Connected (he.connected nif m hm hnif)
          (fun _ call hm => connected_step hm call) calls
      · exact absurd hds hnif

/-- A restart in another state leaves a machine without subscribers in it. -/
theorem orphan_of_engineUp {e : LocEngData} {nif : Nif} {m : AgpsStateMachine}
    (hcb : e.agpsStatusCb = true) (hnif : nif = .agnss ∨ nif = .internet)
    (hm : e.nif nif = some m) (hstate : m.mStatePtr ≠ .released) :
    ¬ e.locEngHandleEngineUp.NoOrphan := by
  intro hnone
  have hdropped : e.locEngHandleEngineUp.nif nif = some m.dropAllSubscribers := by
    rw [locEngHandleEngineUp, if_pos hcb]
    rcases hnif with rfl | rfl
    · exact congrArg dropNif hm
    · exact congrArg dropNif hm
  exact hstate (hnone nif m.dropAllSubscribers hdropped rfl).1

/-- Along a run no connection is orphaned in any state exactly when every
restart of the modem finds the machines it empties in Released. -/
theorem noOrphan_throughout_iff (msaOrMsb dataClient : Bool) (msgs : List LocEngMsg) :
    (system msaOrMsb dataClient).Throughout NoOrphan (locEngAgpsInit msaOrMsb dataClient) msgs ↔
      (system msaOrMsb dataClient).Guarded RestartsReleased
        (locEngAgpsInit msaOrMsb dataClient) msgs := by
  refine Transition.System.throughout_iff_guarded Orderly (fun _ => Orderly.noOrphan)
    (fun _ _ _ he hreleased hproc => orderly_proc he hreleased hproc) ?_
    (orderly_init msaOrMsb dataClient) msgs
  intro e msg _ hnot
  simp only [RestartsReleased, Classical.not_imp, not_forall] at hnot
  obtain ⟨rfl, hcb, nif, m, hnif, hm, hstate⟩ := hnot
  exact ⟨e.locEngHandleEngineUp, rfl, orphan_of_engineUp hcb hnif hm hstate⟩

/-- The modem restarts while a connection is being opened. -/
theorem restart_orphans_request :
    ¬ (system true false).Throughout NoOrphan (locEngAgpsInit true false)
      [.requestATL 1 agpsTypeSupl (.replicate 16 0), .engineDown, .engineUp] := by
  intro hall
  have hlast : NoOrphan _ := hall.of_runFrom rfl
  have horphan := (hlast .agnss _ rfl rfl).1
  revert horphan
  decide

end LocEngData

end Serrano.LocEng
