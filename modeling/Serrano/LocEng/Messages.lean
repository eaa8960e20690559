import Serrano.Agps.StateMachine

/-! # The messages of the location engine that concern AGPS

The deferred thread of the engine takes one message after another from its
queue. Those below make calls to the machines that `loc_eng_data_s_type` points
to; the fields and messages that no machine depends on are left out.
-/

namespace Serrano.LocEng

open Agps

/-- The machine pointers of `loc_eng_data_s_type`. -/
inductive Nif
  | agnss
  | internet
  | wifi
  | ds
  deriving DecidableEq, Repr

/-- `none` is a null pointer. `agpsStatusCb` says whether the callback of the
framework is set, `dataClientInitSent` whether `LocEngDataClientInit` is still
in the queue. The log holds the adapter calls that messages make themselves. -/
structure LocEngData where
  agpsStatusCb : Bool
  agnssNif : Option AgpsStateMachine
  internetNif : Option AgpsStateMachine
  wifiNif : Option AgpsStateMachine
  dsNif : Option AgpsStateMachine
  dataClientInitSent : Bool
  adapterLog : List AgpsEvent

/-- `loc_eng_agps_init`: the engine supports MSA or MSB, or neither, and the
data client is initialized later, or never. -/
def locEngAgpsInit (msaOrMsb dataClient : Bool) : LocEngData where
  agpsStatusCb := true
  agnssNif := if msaOrMsb then some (agpsStateMachine .agps agpsTypeSupl false) else none
  internetNif := some (agpsStateMachine .agps agpsTypeWwanAny false)
  wifiNif := some (agpsStateMachine .agps agpsTypeWifi true)
  dsNif := none
  dataClientInitSent := msaOrMsb && dataClient
  adapterLog := []

/-- The subscribers that a message builds hold `beyond` past their members. -/
inductive LocEngMsg
  | reqRelBIT (type : AGpsExtType) (ipv4 : UInt32) (ipv6 : Option (Vector UInt8 16))
      (uninitialized : Vector UInt8 16) (isReq : Bool)
  | suplEsOpened
  | suplEsClosed
  | requestSuplEs (id : UInt32) (beyond : Vector UInt8 16)
  | requestATL (id : UInt32) (type : AGpsExtType) (beyond : Vector UInt8 16)
  | releaseATL (id : UInt32) (beyond : Nif → Vector UInt8 16)
  | reqRelWifi (type : AGpsExtType) (senderId : UInt32) (ssid password : Option (List UInt8))
      (beyond : Vector UInt8 16) (isReq : Bool)
  | atlOpenSuccess (stateMachine : Nif) (apn : List UInt8) (bearerType : AGpsBearerType)
  | atlClosed (stateMachine : Nif)
  | atlOpenFailed (stateMachine : Nif)
  | engineDown
  | engineUp
  | dataClientInit (ret : Int)
  /-- No message: what the data call service will answer. -/
  | dataCallAnswer (ret : Int)

namespace LocEngData

def nif (e : LocEngData) : Nif → Option AgpsStateMachine
  | .agnss => e.agnssNif
  | .internet => e.internetNif
  | .wifi => e.wifiNif
  | .ds => e.dsNif

def setNif (e : LocEngData) (nif : Nif) (m : AgpsStateMachine) : LocEngData :=
  match nif with
  | .agnss => { e with agnssNif := some m }
  | .internet => { e with internetNif := some m }
  | .wifi => { e with wifiNif := some m }
  | .ds => { e with dsNif := some m }

@[simp] theorem nif_setNif (e : LocEngData) (nif nif' : Nif) (m : AgpsStateMachine) :
    (e.setNif nif m).nif nif' = if nif' = nif then some m else e.nif nif' := by
  cases nif <;> cases nif' <;> rfl

/-- `getAgpsStateMachine` -/
def getAgpsStateMachine (e : LocEngData) (agpsType : AGpsExtType) : Nif :=
  if agpsType = agpsTypeWifi then .wifi
  else if agpsType = agpsTypeInvalid ∨ agpsType = agpsTypeSupl then .agnss
  else if agpsType = agpsTypeSuplEs then if e.dsNif.isSome then .ds else .agnss
  else .internet

/-- Calls through a machine pointer; through a null pointer the process ends. -/
def calls (e : LocEngData) (nif : Nif) (calls : List Call) : Option LocEngData :=
  (e.nif nif).map fun m => e.setNif nif (m.afterCalls calls)

def adapter (e : LocEngData) (event : AgpsEvent) : LocEngData :=
  { e with adapterLog := e.adapterLog ++ [event] }

/-- One attempt of `LocEngReleaseATL::proc`. -/
def releaseFrom (e : LocEngData) (nif : Nif) (request : Request) : Bool × LocEngData :=
  match e.nif nif with
  | none => (false, e)
  | some m => ((m.unsubscribeRsrc request.subscriber).1,
      e.setNif nif (m.step (.unsubscribeRsrc request)))

/-- `LocEngReleaseATL::proc` -/
def releaseATL (e : LocEngData) (id : UInt32) (beyond : Nif → Vector UInt8 16) : LocEngData :=
  let (found, e) := e.releaseFrom .agnss (.atl id false (beyond .agnss))
  if found then e else
  let (found, e) := e.releaseFrom .internet (.atl id false (beyond .internet))
  if found then e else
  let (found, e) := e.releaseFrom .ds (.ds id (beyond .ds))
  if found then e else e.adapter (.atlCloseStatus id false)

def dropNif (m : Option AgpsStateMachine) : Option AgpsStateMachine :=
  m.map AgpsStateMachine.dropAllSubscribers

/-- The AGPS part of `loc_eng_handle_engine_up`. -/
def locEngHandleEngineUp (e : LocEngData) : LocEngData :=
  if e.agpsStatusCb then
    { e with agnssNif := dropNif e.agnssNif, internetNif := dropNif e.internetNif }
  else e

/-- The `proc` of each message; `none` when the process ends. Engine down
touches no machine. -/
def proc (e : LocEngData) : LocEngMsg → Option LocEngData
  | .reqRelBIT type ipv4 ipv6 uninitialized isReq =>
      let request := .bit ipv4 ipv6 uninitialized
      e.calls (e.getAgpsStateMachine type)
        [if isReq then .subscribeRsrc request else .unsubscribeRsrc request]
  | .suplEsOpened =>
      if e.dsNif.isSome then e.calls .ds [.onRsrcEvent .rsrcGranted] else some e
  | .suplEsClosed =>
      if e.dsNif.isSome then e.calls .ds [.onRsrcEvent .rsrcReleased] else some e
  | .requestSuplEs id beyond =>
      if e.dsNif.isSome then e.calls .ds [.subscribeRsrc (.ds id beyond)]
      else if e.agnssNif.isSome then e.calls .agnss [.subscribeRsrc (.atl id false beyond)]
      else some (e.adapter (.atlOpenStatus id false none (-1) (-1)))
  | .requestATL id type beyond =>
      let stateMachine := e.getAgpsStateMachine type
      if (e.nif stateMachine).isSome then
        e.calls stateMachine [.subscribeRsrc (.atl id (type = agpsTypeInvalid) beyond)]
      else some (e.adapter (.atlOpenStatus id false none (-1) type))
  | .releaseATL id beyond => some (e.releaseATL id beyond)
  | .reqRelWifi type senderId ssid password beyond isReq =>
      let request := .wifi ssid password senderId beyond
      if e.wifiNif.isSome then
        e.calls .wifi [if isReq then .subscribeRsrc request else .unsubscribeRsrc request]
      else some (e.adapter (.atlOpenStatus senderId false none (-1) type))
  | .atlOpenSuccess stateMachine apn bearerType =>
      e.calls stateMachine
        [.setBearer bearerType, .setAPN (some apn), .onRsrcEvent .rsrcGranted]
  | .atlClosed stateMachine => e.calls stateMachine [.onRsrcEvent .rsrcReleased]
  | .atlOpenFailed stateMachine => e.calls stateMachine [.onRsrcEvent .rsrcDenied]
  | .engineDown => some e
  | .engineUp => some e.locEngHandleEngineUp
  | .dataClientInit ret =>
      if e.dataClientInitSent then
        let e := { e with dataClientInitSent := false }
        some (if ret = 0 then e.setNif .ds (dsStateMachine (.ext 0)) else e)
      else none
  | .dataCallAnswer ret =>
      if e.dsNif.isSome then e.calls .ds [.dataCallAnswer ret] else some e

/-! ## What a message does to a machine -/

/-- The machine behind every pointer made some calls. -/
def Advances (e e' : LocEngData) : Prop :=
  ∀ nif m', e'.nif nif = some m' → ∃ m calls, e.nif nif = some m ∧ m' = m.afterCalls calls

theorem Advances.refl (e : LocEngData) : e.Advances e := fun _ m' hm' => ⟨m', [], hm', rfl⟩

theorem Advances.trans {e e' e'' : LocEngData} (hfirst : e.Advances e')
    (hsecond : e'.Advances e'') : e.Advances e'' := by
  intro nif m'' hm''
  obtain ⟨m', calls', hm', rfl⟩ := hsecond nif m'' hm''
  obtain ⟨m, calls, hm, rfl⟩ := hfirst nif m' hm'
  exact ⟨m, calls ++ calls', hm, by simp [AgpsStateMachine.afterCalls]⟩

theorem advances_adapter (e : LocEngData) (event : AgpsEvent) : e.Advances (e.adapter event) := by
  intro nif m' hm'
  refine ⟨m', [], ?_, rfl⟩
  cases nif <;> exact hm'

theorem advances_setNif {e : LocEngData} {nif : Nif} {m : AgpsStateMachine}
    (hm : e.nif nif = some m) (calls : List Call) :
    e.Advances (e.setNif nif (m.afterCalls calls)) := by
  intro nif' m' hm'
  rw [nif_setNif] at hm'
  split_ifs at hm' with hnif
  · subst hnif
    exact ⟨m, calls, hm, (Option.some.inj hm').symm⟩
  · exact ⟨m', [], hm', rfl⟩

theorem advances_calls {e e' : LocEngData} {nif : Nif} {calls : List Call}
    (hcalls : e.calls nif calls = some e') : e.Advances e' := by
  obtain ⟨m, hm, rfl⟩ := Option.map_eq_some_iff.mp hcalls
  exact advances_setNif hm calls

theorem advances_releaseFrom (e : LocEngData) (nif : Nif) (request : Request) :
    e.Advances (e.releaseFrom nif request).2 := by
  unfold releaseFrom
  cases hm : e.nif nif with
  | none => exact Advances.refl e
  | some m => exact advances_setNif hm [.unsubscribeRsrc request]

theorem advances_releaseATL (e : LocEngData) (id : UInt32) (beyond : Nif → Vector UInt8 16) :
    e.Advances (e.releaseATL id beyond) := by
  have hagnss := e.advances_releaseFrom .agnss (.atl id false (beyond .agnss))
  have hinternet := hagnss.trans
    (advances_releaseFrom _ .internet (.atl id false (beyond .internet)))
  have hds := hinternet.trans (advances_releaseFrom _ .ds (.ds id (beyond .ds)))
  dsimp only [releaseATL]
  split_ifs
  · exact hagnss
  · exact hinternet
  · exact hds
  · exact hds.trans (advances_adapter _ _)

/-- Every message but engine up makes calls to the machines, and may create the
data call machine. -/
theorem proc_nif {e e' : LocEngData} {msg : LocEngMsg} (hproc : e.proc msg = some e')
    (hup : msg ≠ .engineUp) {nif : Nif} {m' : AgpsStateMachine} (hm' : e'.nif nif = some m') :
    (∃ m calls, e.nif nif = some m ∧ m' = m.afterCalls calls) ∨
      nif = .ds ∧ m' = dsStateMachine (.ext 0) := by
  have hcalls : ∀ {nif' : Nif} {calls : List Call}, e.calls nif' calls = some e' →
      ∃ m calls, e.nif nif = some m ∧ m' = m.afterCalls calls :=
    fun hcalls => advances_calls hcalls nif m' hm'
  have hadapter : ∀ {event : AgpsEvent}, some (e.adapter event) = some e' →
      ∃ m calls, e.nif nif = some m ∧ m' = m.afterCalls calls := by
    intro event heq
    obtain rfl := Option.some.inj heq
    exact advances_adapter e event nif m' hm'
  have hsame : some e = some e' →
      ∃ m calls, e.nif nif = some m ∧ m' = m.afterCalls calls := by
    intro heq
    obtain rfl := Option.some.inj heq
    exact ⟨m', [], hm', rfl⟩
  cases msg with
  | reqRelBIT type ipv4 ipv6 uninitialized isReq => exact Or.inl (hcalls hproc)
  | suplEsOpened | suplEsClosed | dataCallAnswer ret =>
      dsimp only [proc] at hproc
      split_ifs at hproc
      · exact Or.inl (hcalls hproc)
      · exact Or.inl (hsame hproc)
  | requestSuplEs id beyond =>
      dsimp only [proc] at hproc
      split_ifs at hproc
      · exact Or.inl (hcalls hproc)
      · exact Or.inl (hcalls hproc)
      · exact Or.inl (hadapter hproc)
  | requestATL id type beyond =>
      dsimp only [proc] at hproc
      split_ifs at hproc
      · exact Or.inl (hcalls hproc)
      · exact Or.inl (hadapter hproc)
  | reqRelWifi type senderId ssid password beyond isReq =>
      simp only [proc] at hproc
      by_cases hwifi : e.wifiNif.isSome = true
      · exact Or.inl (hcalls (if_pos hwifi ▸ hproc))
      · exact Or.inl (hadapter (if_neg hwifi ▸ hproc))
  | releaseATL id beyond =>
      obtain rfl := Option.some.inj hproc
      exact Or.inl (advances_releaseATL e id beyond nif m' hm')
  | atlOpenSuccess stateMachine apn bearerType => exact Or.inl (hcalls hproc)
  | atlClosed stateMachine | atlOpenFailed stateMachine => exact Or.inl (hcalls hproc)
  | engineDown => exact Or.inl (hsame hproc)
  | engineUp => exact absurd rfl hup
  | dataClientInit ret =>
      dsimp only [proc] at hproc
      split_ifs at hproc
      · obtain rfl := Option.some.inj hproc
        rw [nif_setNif] at hm'
        split_ifs at hm' with hnif
        · exact Or.inr ⟨hnif, (Option.some.inj hm').symm⟩
        · exact Or.inl ⟨m', [], hm', rfl⟩
      · obtain rfl := Option.some.inj hproc
        exact Or.inl ⟨m', [], hm', rfl⟩

end LocEngData

end Serrano.LocEng
