import Serrano.LocEng.DmnConnHandler

/-! # The receive buffer of the loc api server

A call of the receive function is told by the first read how much the second one
asks for, and the handlers look at a buffer of which the message is only a part.
The calls of a run stay within the buffer and post what they received when every
size field counts itself and every message has the fields that are read from it.
-/

namespace Serrano.LocEng.DmnConn

open Overlay

/-- A message that was received, and what the buffer of the call held before. -/
structure Reception where
  message : List UInt8
  malloced : Nat → UInt8

/-- The server, and the messages that its calls received. -/
structure Session where
  server : Server
  received : List Reception

/-- What the second read asks for, as it is computed. -/
def restSize (layout : Layout) (field : List UInt8) : Nat :=
  (fromBytes field + 2 ^ (8 * layout.sizeofSize) - layout.sizeofSize) %
    2 ^ (8 * layout.sizeofSize)

/-- The size field of a call whose second read is to come. -/
def ServerProc.sizeField : ServerProc → Option (List UInt8)
  | .idle => none
  | .sized field _ => some field

/-- The message of a call that got to its switch. Any other call ends the loop. -/
def Server.bodyReceived (layout : Layout) (s next : Server) : List Reception :=
  match s.proc with
  | .idle => []
  | .sized field malloced =>
      if next.thread_exit then [] else [⟨field ++ s.pipe.take (restSize layout field), malloced⟩]

def Server.received (layout : Layout) (s next : Server) : ServerAction → List Reception
  | .write _ | .readSize _ => []
  | .readBody => s.bodyReceived layout next

namespace Session

variable (layout : RequestLayout) (locApiHandle : Bool)

def step (s : Session) (action : ServerAction) : Option Session :=
  (s.server.step layout.toLayout action).map fun next =>
    { server := next, received := s.received ++ s.server.received layout.toLayout next action }

def initial : Session := ⟨.initial, []⟩

def system : Transition.System Session ServerAction where
  init := initial
  step := step layout

/-- What the calls that received something posted. -/
def posted (received : List Reception) : List LocEngReqRel :=
  received.filterMap fun call => layout.posts locApiHandle (overlay call.message call.malloced)

/-- The second read never asks for more than what is left of the buffer, and calls
that receive the same bytes post the same, whatever their buffers held. -/
structure Contract (s : Session) : Prop where
  fits : ∀ field ∈ s.server.proc.sizeField,
    restSize layout.toLayout field ≤ Server.bufferSize layout.toLayout - layout.sizeofSize
  function : ∀ others : List Reception,
    others.map Reception.message = s.received.map Reception.message →
      posted layout locApiHandle others = posted layout locApiHandle s.received

/-- A size field that is read whole counts itself, and a message that is received
whole has the fields that the server reads. -/
def Sound (s : Session) : ServerAction → Prop
  | .write _ => True
  | .readSize _ =>
      s.server.proc.sizeField = none → s.server.thread_exit = false →
        layout.sizeofSize ≤ s.server.pipe.length →
          layout.sizeofSize ≤ fromBytes (s.server.pipe.take layout.sizeofSize)
  | .readBody => ∀ field ∈ s.server.proc.sizeField,
      restSize layout.toLayout field ≤ s.server.pipe.length →
        layout.FieldsReceived locApiHandle
          (field ++ s.server.pipe.take (restSize layout.toLayout field))

instance (s : Session) (action : ServerAction) : Decidable (Sound layout locApiHandle s action) :=
  match action with
  | .write _ => inferInstanceAs (Decidable True)
  | .readSize _ => inferInstanceAs (Decidable (_ → _))
  | .readBody => inferInstanceAs (Decidable (∀ field ∈ s.server.proc.sizeField, _))

end Session

namespace Server

variable {layout : Layout} {s next : Server} {field : List UInt8} {malloced : Nat → UInt8}

/-- The size that a call goes on with. -/
structure SizeRead (layout : Layout) (field : List UInt8) : Prop where
  whole : field.length = layout.sizeofSize
  counts : layout.sizeofSize ≤ fromBytes field
  fits : fromBytes field ≤ bufferSize layout

theorem SizeRead.restSize_eq (h : SizeRead layout field) :
    restSize layout field = fromBytes field - layout.sizeofSize :=
  rest_size h.counts h.fits

theorem SizeRead.restSize_le (h : SizeRead layout field) :
    restSize layout field ≤ bufferSize layout - layout.sizeofSize := by
  rw [h.restSize_eq]
  exact Nat.sub_le_sub_right h.fits _

theorem SizeRead.restSize_lt (h : SizeRead layout field) :
    restSize layout field < 2 ^ (8 * layout.sizeofSize - 1) ∧ restSize layout field < 2 ^ 31 := by
  have hle := h.restSize_le
  have hlt := bufferSize_lt layout
  omega

/-- A size that does not count itself makes the second read ask for too much. -/
theorem lt_restSize (h : fromBytes field < layout.sizeofSize) :
    bufferSize layout < restSize layout field := by
  have hfits := layout.representable
  have hwithin := layout.type_within
  have hafter := layout.type_after
  rw [restSize, Nat.mod_eq_of_lt (by omega), bufferSize]
  omega

/-- A call goes on with a size field only if it has read all of it. -/
theorem readSize_cases (h : s.readSize layout malloced = some next) :
    next.proc = .idle ∨ next.proc = .sized (s.pipe.take layout.sizeofSize) malloced ∧
      next.thread_exit = s.thread_exit ∧ layout.sizeofSize ≤ s.pipe.length ∧
      fromBytes (s.pipe.take layout.sizeofSize) ≤ bufferSize layout := by
  have hsize := sizeofSize_lt layout
  have hpos := layout.size_pos
  rw [readSize, piperead, if_neg (by omega)] at h
  split at h
  · cases h
  · rw [Option.map_some, Option.some.injEq] at h
    dsimp only at h
    split_ifs at h with hresult hlarge
    · exact .inl (h ▸ rfl)
    · exact .inl (h ▸ rfl)
    · rw [List.length_take] at hresult
      exact .inr ⟨h ▸ rfl, h ▸ rfl, by omega, Nat.le_of_not_lt hlarge⟩

theorem readSize_of_le (hwhole : layout.sizeofSize ≤ s.pipe.length)
    (hfits : fromBytes (s.pipe.take layout.sizeofSize) ≤ bufferSize layout) :
    s.readSize layout malloced = some { s with
      pipe := s.pipe.drop layout.sizeofSize
      proc := .sized (s.pipe.take layout.sizeofSize) malloced } := by
  have hread : s.piperead layout layout.sizeofSize = _ :=
    piperead_append (List.take_append_drop layout.sizeofSize s.pipe).symm
      (List.length_take_of_le hwhole) (sizeofSize_lt layout)
  rw [readSize, hread, Option.map_some]
  dsimp only
  rw [if_neg (by simp), if_neg (by omega)]

/-- A call gets to its switch only if it has read all of the message. -/
theorem readBody_cases (hsize : SizeRead layout field)
    (h : s.readBody layout field malloced = some next) :
    next.proc = .idle ∧
      (next.thread_exit = false → restSize layout field ≤ s.pipe.length) := by
  have hlt := hsize.restSize_lt
  change (s.piperead layout (restSize layout field)).map _ = some next at h
  rw [piperead, if_neg (by omega)] at h
  by_cases hblocks : restSize layout field ≠ 0 ∧ s.pipe = []
  · rw [if_pos hblocks] at h
    cases h
  · rw [if_neg hblocks, Option.map_some, Option.some.injEq] at h
    dsimp only at h
    split_ifs at h with hresult hempty
    · subst h
      exact ⟨rfl, fun hexit => by cases hexit⟩
    · subst h
      exact ⟨rfl, fun hexit => by cases hexit⟩
    · subst h
      refine ⟨rfl, fun _ => ?_⟩
      rw [not_not, ← restSize, toInt_ofNat hlt.2, List.length_take] at hresult
      omega

theorem readBody_of_le (hsize : SizeRead layout field)
    (hwhole : restSize layout field ≤ s.pipe.length) :
    ∃ next, s.readBody layout field malloced = some next ∧ next.thread_exit = s.thread_exit := by
  have htake : (field ++ s.pipe.take (restSize layout field)).take layout.sizeofSize = field :=
    List.take_left' hsize.whole
  have hlength : (field ++ s.pipe.take (restSize layout field)).length = fromBytes field := by
    have hcounts := hsize.counts
    rw [List.length_append, List.length_take_of_le hwhole, hsize.whole, hsize.restSize_eq]
    omega
  have hframed : Framed layout (field ++ s.pipe.take (restSize layout field)) := by
    refine ⟨?_, ?_, ?_⟩
    · exact hlength ▸ hsize.counts
    · exact hlength ▸ hsize.fits
    · rw [htake, hlength]
  have hpipe : s.pipe = (field ++ s.pipe.take (restSize layout field)).drop layout.sizeofSize ++
      s.pipe.drop (restSize layout field) := by
    rw [List.drop_left' hsize.whole, List.take_append_drop]
  have hread := readBody_eq hpipe hframed malloced
  rw [htake] at hread
  exact ⟨_, hread, rfl⟩

/-- Servers that differ in what their buffers held. -/
structure Alike (s t : Server) : Prop where
  pipe : t.pipe = s.pipe
  sizeField : t.proc.sizeField = s.proc.sizeField
  thread_exit : t.thread_exit = s.thread_exit

variable {t next' : Server} {malloced' : Nat → UInt8}

theorem Alike.piperead (h : s.Alike t) (size : Nat) :
    t.piperead layout size = s.piperead layout size := by
  rw [Server.piperead, Server.piperead, h.pipe]

theorem Alike.readSize (h : s.Alike t) (hs : s.readSize layout malloced = some next)
    (ht : t.readSize layout malloced' = some next') : next.Alike next' := by
  rw [Server.readSize, Option.map_eq_some_iff] at hs ht
  rw [h.piperead] at ht
  obtain ⟨read, hread, rfl⟩ := hs
  obtain ⟨read', hread', rfl⟩ := ht
  obtain rfl := Option.some.inj (hread.symm.trans hread')
  dsimp only
  split_ifs
  · exact ⟨rfl, rfl, rfl⟩
  · exact ⟨rfl, rfl, rfl⟩
  · exact ⟨rfl, rfl, h.thread_exit⟩

theorem Alike.readBody (h : s.Alike t) (hs : s.readBody layout field malloced = some next)
    (ht : t.readBody layout field malloced' = some next') : next.Alike next' := by
  rw [Server.readBody, Option.map_eq_some_iff] at hs ht
  rw [h.piperead] at ht
  obtain ⟨read, hread, rfl⟩ := hs
  obtain ⟨read', hread', rfl⟩ := ht
  obtain rfl := Option.some.inj (hread.symm.trans hread')
  dsimp only
  split_ifs
  · exact ⟨rfl, rfl, rfl⟩
  · exact ⟨rfl, rfl, rfl⟩
  · exact ⟨rfl, rfl, h.thread_exit⟩

/-- An action, whatever the buffer holds. -/
def forget : ServerAction → ServerAction
  | .write bytes => .write bytes
  | .readSize _ => .readSize fun _ => 0
  | .readBody => .readBody

/-- The same reads keep servers alike, and they receive the same. -/
theorem Alike.step (h : s.Alike t) {action action' : ServerAction}
    (hsame : forget action' = forget action) (hs : s.step layout action = some next)
    (ht : t.step layout action' = some next') :
    next.Alike next' ∧ (t.received layout next' action').map Reception.message =
      (s.received layout next action).map Reception.message := by
  cases action with
  | write bytes =>
      cases action' with
      | readSize | readBody => cases hsame
      | write bytes' =>
          obtain rfl : bytes' = bytes := ServerAction.write.inj hsame
          rw [Server.step, Option.some.injEq] at hs ht
          subst hs ht
          exact ⟨⟨congrArg (· ++ bytes') h.pipe, h.sizeField, h.thread_exit⟩, rfl⟩
  | readSize malloced =>
      cases action' with
      | write | readBody => cases hsame
      | readSize malloced' =>
          refine ⟨?_, rfl⟩
          cases hproc : s.proc with
          | sized => simp [Server.step, hproc] at hs
          | idle =>
              cases hproc' : t.proc with
              | sized => simp [Server.step, hproc'] at ht
              | idle =>
                  simp only [Server.step, hproc, hproc', h.thread_exit] at hs ht
                  split_ifs at hs ht
                  exact h.readSize hs ht
  | readBody =>
      cases action' with
      | write | readSize => cases hsame
      | readBody =>
          cases hproc : s.proc with
          | idle => simp [Server.step, hproc] at hs
          | sized field malloced =>
              cases hproc' : t.proc with
              | idle => simp [Server.step, hproc'] at ht
              | sized field' malloced' =>
                  have hfield := h.sizeField
                  rw [hproc, hproc'] at hfield
                  obtain rfl : field' = field := Option.some.inj hfield
                  simp only [Server.step, hproc, hproc'] at hs ht
                  have hnext := h.readBody hs ht
                  refine ⟨hnext, ?_⟩
                  rw [Server.received, Server.received, bodyReceived, bodyReceived, hproc, hproc',
                    hnext.thread_exit, h.pipe]
                  dsimp only
                  split_ifs <;> rfl

end Server

namespace Session

variable {layout : RequestLayout} {locApiHandle : Bool} {s next : Session}

/-- Every call has read a proper size, and everything received decides what was
posted for it. -/
structure Inv (layout : RequestLayout) (locApiHandle : Bool) (s : Session) : Prop where
  sizeRead : ∀ field ∈ s.server.proc.sizeField,
    Server.SizeRead layout.toLayout field ∧ s.server.thread_exit = false
  determined : ∀ call ∈ s.received, Determined (layout.posts locApiHandle) call.message

theorem posted_concat (received : List Reception) (call : Reception) :
    posted layout locApiHandle (received ++ [call]) = posted layout locApiHandle received ++
      (layout.posts locApiHandle (overlay call.message call.malloced)).toList := by
  rw [posted, List.filterMap_append]
  congr 1

/-- Calls that received the same messages, all of them decisive, posted the same. -/
theorem posted_eq {others received : List Reception}
    (hdetermined : ∀ call ∈ received, Determined (layout.posts locApiHandle) call.message)
    (hsame : others.map Reception.message = received.map Reception.message) :
    posted layout locApiHandle others = posted layout locApiHandle received := by
  induction received generalizing others with
  | nil =>
      rw [List.map_nil, List.map_eq_nil_iff] at hsame
      rw [hsame]
  | cons call rest ih =>
      cases others with
      | nil => cases hsame
      | cons other more =>
          rw [List.map_cons, List.map_cons, List.cons.injEq] at hsame
          obtain ⟨hmessage, hmore⟩ := hsame
          have hcall : layout.posts locApiHandle (overlay other.message other.malloced) =
              layout.posts locApiHandle (overlay call.message call.malloced) := by
            rw [hmessage]
            exact hdetermined call List.mem_cons_self _ _
          have hrest := ih (fun c hc => hdetermined c (List.mem_cons_of_mem _ hc)) hmore
          rw [posted, posted] at hrest ⊢
          rw [List.filterMap_cons, List.filterMap_cons, hcall, hrest]

theorem Inv.contract (h : s.Inv layout locApiHandle) : s.Contract layout locApiHandle where
  fits field hfield := (h.sizeRead field hfield).1.restSize_le
  function _ hsame := posted_eq h.determined hsame

theorem step_eq {action : ServerAction} (hstep : s.step layout action = some next) :
    s.server.step layout.toLayout action = some next.server ∧
      next.received =
        s.received ++ s.server.received layout.toLayout next.server action := by
  rw [step, Option.map_eq_some_iff] at hstep
  obtain ⟨server, hserver, rfl⟩ := hstep
  exact ⟨hserver, rfl⟩

theorem step_of_server {action : ServerAction} {server : Server}
    (hserver : s.server.step layout.toLayout action = some server) :
    s.step layout action =
      some ⟨server, s.received ++ s.server.received layout.toLayout server action⟩ := by
  rw [step, hserver, Option.map_some]

theorem inv_step {action : ServerAction} (h : s.Inv layout locApiHandle)
    (hsound : s.Sound layout locApiHandle action) (hstep : s.step layout action = some next) :
    next.Inv layout locApiHandle := by
  obtain ⟨hserver, hreceived⟩ := step_eq hstep
  cases action with
  | write bytes =>
      rw [Server.step, Option.some.injEq] at hserver
      rw [Server.received, List.append_nil] at hreceived
      exact ⟨by rw [← hserver]; exact h.sizeRead, by rw [hreceived]; exact h.determined⟩
  | readSize malloced =>
      rw [Server.received, List.append_nil] at hreceived
      refine ⟨?_, by rw [hreceived]; exact h.determined⟩
      cases hproc : s.server.proc with
      | sized field buffer => simp [Server.step, hproc] at hserver
      | idle =>
          cases hexit : s.server.thread_exit with
          | true => simp [Server.step, hproc, hexit] at hserver
          | false =>
              simp only [Server.step, hproc, hexit, Bool.false_eq_true, if_false] at hserver
              intro field hfield
              rcases Server.readSize_cases hserver with hidle | ⟨hsized, hrunning, hwhole, hfits⟩
              · rw [hidle] at hfield
                cases hfield
              · rw [hsized] at hfield
                obtain rfl : s.server.pipe.take layout.sizeofSize = field := Option.some.inj hfield
                refine ⟨⟨List.length_take_of_le hwhole, ?_, hfits⟩, hrunning.trans hexit⟩
                exact hsound (by rw [hproc]; rfl) hexit hwhole
  | readBody =>
      cases hproc : s.server.proc with
      | idle => simp [Server.step, hproc] at hserver
      | sized field malloced =>
          simp only [Server.step, hproc] at hserver
          have hfield : field ∈ s.server.proc.sizeField := by rw [hproc]; rfl
          obtain ⟨hidle, hwhole⟩ := Server.readBody_cases (h.sizeRead field hfield).1 hserver
          refine ⟨fun other hother => ?_, fun call hcall => ?_⟩
          · rw [hidle] at hother
            cases hother
          · rw [hreceived] at hcall
            rcases List.mem_append.mp hcall with hcall | hcall
            · exact h.determined call hcall
            · rw [Server.received, Server.bodyReceived, hproc] at hcall
              dsimp only at hcall
              split at hcall
              · cases hcall
              · next hexit =>
                  rw [List.mem_singleton] at hcall
                  rw [hcall]
                  exact RequestLayout.determined_posts_iff.mpr
                    (hsound field hfield (hwhole (Bool.not_eq_true _ ▸ hexit)))

/-- A step that is not sound breaks the contract. -/
theorem not_contract_step {action : ServerAction} (h : s.Inv layout locApiHandle)
    (hnot : ¬ s.Sound layout locApiHandle action) :
    ∃ next, s.step layout action = some next ∧ ¬ next.Contract layout locApiHandle := by
  cases action with
  | write bytes => exact absurd trivial hnot
  | readSize malloced =>
      simp only [Sound, Classical.not_imp, Nat.not_le] at hnot
      obtain ⟨hidle, hrunning, hwhole, hsmall⟩ := hnot
      cases hproc : s.server.proc with
      | sized field buffer =>
          rw [hproc] at hidle
          cases hidle
      | idle =>
          have hwithin := layout.type_within
          have hafter := layout.type_after
          have hread : s.server.readSize layout.toLayout malloced = _ :=
            Server.readSize_of_le hwhole (by rw [Server.bufferSize]; omega)
          have hserver : s.server.step layout.toLayout (.readSize malloced) =
              s.server.readSize layout.toLayout malloced := by
            simp only [Server.step, hproc, hrunning, Bool.false_eq_true, if_false]
          refine ⟨_, step_of_server (hserver.trans hread), fun hcontract => ?_⟩
          have hfits := hcontract.fits _ rfl
          have hlarge := Server.lt_restSize hsmall
          omega
  | readBody =>
      simp only [Sound, Classical.not_imp, not_forall] at hnot
      obtain ⟨field, hfield, hwhole, hfields⟩ := hnot
      cases hproc : s.server.proc with
      | idle =>
          rw [hproc] at hfield
          cases hfield
      | sized field' malloced =>
          obtain ⟨hsize, hrunning⟩ := h.sizeRead field hfield
          obtain rfl : field' = field := by
            rw [hproc] at hfield
            exact Option.some.inj hfield
          obtain ⟨server, hread, hexit⟩ : ∃ server,
              s.server.readBody layout.toLayout field' malloced = some server ∧
                server.thread_exit = s.server.thread_exit := Server.readBody_of_le hsize hwhole
          have hserver : s.server.step layout.toLayout .readBody = some server := by
            simp only [Server.step, hproc]
            exact hread
          refine ⟨_, step_of_server hserver, fun hcontract => hfields ?_⟩
          -- the same messages, the last of them in any two buffers
          rw [← RequestLayout.determined_posts_iff]
          intro before other
          have hreceived : s.server.received layout.toLayout server .readBody =
              [⟨field' ++ s.server.pipe.take (restSize layout.toLayout field'), malloced⟩] := by
            rw [Server.received, Server.bodyReceived, hproc]
            dsimp only
            rw [hexit, hrunning]
            rfl
          have hposted : ∀ buffer, posted layout locApiHandle
              (s.received ++
                [⟨field' ++ s.server.pipe.take (restSize layout.toLayout field'), buffer⟩]) =
              posted layout locApiHandle
                (s.received ++ s.server.received layout.toLayout server .readBody) := by
            intro buffer
            refine hcontract.function _ ?_
            rw [hreceived, List.map_append, List.map_append]
            rfl
          have hsame := (hposted before).trans (hposted other).symm
          rw [posted_concat, posted_concat, List.append_cancel_left_eq] at hsame
          have hhead := congrArg List.head? hsame
          rwa [Option.head?_toList, Option.head?_toList] at hhead

theorem inv_initial (layout : RequestLayout) (locApiHandle : Bool) :
    initial.Inv layout locApiHandle where
  sizeRead _ hfield := by cases hfield
  determined _ hcall := absurd hcall List.not_mem_nil

/-- The calls of a run stay within the buffer and post what they received exactly
when its size fields count themselves and its messages have the fields that are read
from them. -/
theorem contract_iff (layout : RequestLayout) (locApiHandle : Bool)
    (actions : List ServerAction) :
    (system layout).Throughout (Contract layout locApiHandle) initial actions ↔
      (system layout).Guarded (Sound layout locApiHandle) initial actions :=
  Transition.System.throughout_iff_guarded (Inv layout locApiHandle)
    (fun _ hinv => hinv.contract)
    (fun _ _ _ hinv hsound hstep => inv_step hinv hsound hstep)
    (fun _ _ hinv hnot => not_contract_step hinv hnot)
    (inv_initial layout locApiHandle) actions

/-- Runs with the same reads receive the same. -/
theorem received_of_runs {others actions : List ServerAction} {s t final final' : Session}
    (halike : s.server.Alike t.server)
    (hreceived : t.received.map Reception.message = s.received.map Reception.message)
    (hsame : others.map Server.forget = actions.map Server.forget)
    (hrun : (system layout).runFrom s actions = some final)
    (hrun' : (system layout).runFrom t others = some final') :
    final'.received.map Reception.message = final.received.map Reception.message := by
  induction actions generalizing s t others with
  | nil =>
      rw [List.map_nil, List.map_eq_nil_iff] at hsame
      subst hsame
      obtain rfl := Option.some.inj hrun
      obtain rfl := Option.some.inj hrun'
      exact hreceived
  | cons action rest ih =>
      cases others with
      | nil => cases hsame
      | cons other more =>
          rw [List.map_cons, List.map_cons, List.cons.injEq] at hsame
          rw [Transition.System.runFrom_cons, Option.bind_eq_some_iff] at hrun hrun'
          obtain ⟨next, hnext, hrest⟩ := hrun
          obtain ⟨next', hnext', hmore⟩ := hrun'
          obtain ⟨hserver, hmessages⟩ := step_eq hnext
          obtain ⟨hserver', hmessages'⟩ := step_eq hnext'
          obtain ⟨hnextAlike, hsameReceived⟩ := halike.step hsame.1 hserver hserver'
          refine ih hnextAlike ?_ hsame.2 hrest hmore
          rw [hmessages, hmessages', List.map_append, List.map_append, hreceived, hsameReceived]

/-- Where the contract holds, two runs with the same reads post the same, whatever
their buffers held before. -/
theorem posted_of_runs {others actions : List ServerAction} {final final' : Session}
    (hcontract : final.Contract layout locApiHandle)
    (hsame : others.map Server.forget = actions.map Server.forget)
    (hrun : (system layout).runFrom initial actions = some final)
    (hrun' : (system layout).runFrom initial others = some final') :
    posted layout locApiHandle final'.received = posted layout locApiHandle final.received :=
  hcontract.function _ (received_of_runs ⟨rfl, rfl, rfl⟩ rfl hsame hrun hrun')

/-- A message of five bytes says nothing about its type, and one of three asks for
almost the whole address space. -/
theorem not_contract_short_messages :
    ¬ (system .ilp32).Throughout (Contract .ilp32 true) initial
      [.write [5, 0, 0, 0, 7], .readSize fun _ => 0, .readBody] ∧
    ¬ (system .ilp32).Throughout (Contract .ilp32 true) initial
      [.write [3, 0, 0, 0], .readSize fun _ => 0] := by
  constructor
  · refine Transition.System.not_throughout_of_any
      (fun s => s.received.map Reception.message = [[5, 0, 0, 0, 7]] ∧
        posted .ilp32 true s.received = []) ?_ (by decide +kernel)
    intro s hs hcontract
    rw [decide_eq_true_eq] at hs
    obtain ⟨hmessages, hposted⟩ := hs
    have hrequest := hcontract.function
      [⟨[5, 0, 0, 0, 7], fun i => if i = 12 then gpsoneLocApiIfRequest else 0⟩] hmessages.symm
    rw [hposted] at hrequest
    revert hrequest
    decide +kernel
  · refine Transition.System.not_throughout_of_any
      (fun s => s.server.proc.sizeField = some [3, 0, 0, 0]) ?_ (by decide +kernel)
    intro s hs hcontract
    rw [decide_eq_true_eq] at hs
    have hfits := hcontract.fits _ hs
    revert hfits
    decide +kernel

end Session

end Serrano.LocEng.DmnConn
