import Mathlib.Algebra.Ring.Nat
import Mathlib.Data.List.Basic
import Serrano.Foundation.Transition

/-! # The server on the loc api pipe

Messages are framed by the size field they start with. The server loop of
`thelper_main` runs `loc_api_server_proc`, which allocates a buffer, receives one
message into it and calls a handler by the type of the message. Receiving takes
two reads, and writes of other processes may come before either. Writes are
atomic, and a read that finds bytes takes as many as it asks for or as there are.
-/

namespace Serrano.LocEng.DmnConn

/-- The layout of `ctrl_msgbuf`, which depends on the machine. -/
structure Layout where
  sizeofSize : Nat
  offsetofCtrlType : Nat
  sizeofCtrlMsgbuf : Nat
  size_pos : 0 < sizeofSize
  type_after : sizeofSize ≤ offsetofCtrlType
  type_within : offsetofCtrlType < sizeofCtrlMsgbuf
  representable : 2 * (sizeofCtrlMsgbuf + 256) < 2 ^ (8 * sizeofSize) ∧
    sizeofCtrlMsgbuf + 256 < 2 ^ 31

/-- A 32-bit machine. -/
def Layout.ilp32 : Layout where
  sizeofSize := 4
  offsetofCtrlType := 12
  sizeofCtrlMsgbuf := 112
  size_pos := by decide
  type_after := by decide
  type_within := by decide
  representable := by decide

def gpsoneLocApiIfRequest : UInt8 := 0xF0
def gpsoneLocApiIfRelease : UInt8 := 0xF1

/-- A call of a handler with the bytes that were received. -/
inductive Dispatch
  | ifRequest (frame : List UInt8)
  | ifRelease (frame : List UInt8)
  deriving DecidableEq

def Dispatch.frame : Dispatch → List UInt8
  | ifRequest frame | ifRelease frame => frame

/-- The switch over `ctrl_type`. Unblocking and unsupported types call no
handler. -/
def dispatch (ctrlType : UInt8) (frame : List UInt8) : Option Dispatch :=
  if ctrlType = gpsoneLocApiIfRequest then some (.ifRequest frame)
  else if ctrlType = gpsoneLocApiIfRelease then some (.ifRelease frame)
  else none

/-- The value of a size field, which is little-endian. -/
def fromBytes : List UInt8 → Nat
  | [] => 0
  | byte :: rest => byte.toNat + 256 * fromBytes rest

/-- Where the server is: before an iteration, or inside the receive function
with the size field read. `malloced` is what the buffer held before. -/
inductive ServerProc
  | idle
  | sized (sizeField : List UInt8) (malloced : Nat → UInt8)

/-- The pipe and the server. `written` keeps the writes; like the log, nothing
reads it. -/
structure Server where
  pipe : List UInt8
  proc : ServerProc
  thread_exit : Bool
  written : List (List UInt8)
  log : List Dispatch

/-- A write of another process, or one of the two reads of the server. -/
inductive ServerAction
  | write (bytes : List UInt8)
  | readSize (malloced : Nat → UInt8)
  | readBody

namespace Server

variable (layout : Layout) (s : Server)

/-- The buffer of `loc_api_server_proc`. -/
def bufferSize : Nat := layout.sizeofCtrlMsgbuf + 256

/-- `read` of a size that does not fit a signed result fails; `none` is a read
that blocks. -/
def piperead (size : Nat) : Option (Int × List UInt8 × List UInt8) :=
  if 2 ^ (8 * layout.sizeofSize - 1) ≤ size then some (-1, [], s.pipe)
  else if size ≠ 0 ∧ s.pipe = [] then none
  else some ((s.pipe.take size).length, s.pipe.take size, s.pipe.drop size)

/-- A negative result of the proc ends the loop of `thelper_main`. -/
def fail : Server := { s with proc := .idle, thread_exit := true }

/-- The first read of the receive function, and the check of the size. -/
def readSize (malloced : Nat → UInt8) : Option Server :=
  (s.piperead layout layout.sizeofSize).map fun (result, field, pipe) =>
    let s := { s with pipe := pipe }
    if result ≠ layout.sizeofSize then s.fail
    else if bufferSize layout < fromBytes field then s.fail
    else { s with proc := .sized field malloced }

/-- The second read, and the rest of `loc_api_server_proc`. The sizes are
subtracted as `size_t`, and compared as `int`. -/
def readBody (field : List UInt8) (malloced : Nat → UInt8) : Option Server :=
  let msgsz := fromBytes field
  let rest := (msgsz + 2 ^ (8 * layout.sizeofSize) - layout.sizeofSize) %
    2 ^ (8 * layout.sizeofSize)
  (s.piperead layout rest).map fun (result, body, pipe) =>
    let s := { s with pipe := pipe, proc := .idle }
    if result ≠ (BitVec.ofNat 32 rest).toInt then s.fail
    else if (BitVec.ofNat 32 msgsz).toInt ≤ 0 then s.fail
    else
      let frame := field ++ body
      let ctrlType := frame[layout.offsetofCtrlType]?.getD (malloced layout.offsetofCtrlType)
      { s with log := s.log ++ (dispatch ctrlType frame).toList }

def step : ServerAction → Option Server
  | .write bytes => some { s with pipe := s.pipe ++ bytes, written := s.written ++ [bytes] }
  | .readSize malloced =>
      match s.proc with
      | .idle => if s.thread_exit then none else s.readSize layout malloced
      | .sized .. => none
  | .readBody =>
      match s.proc with
      | .idle => none
      | .sized field malloced => s.readBody layout field malloced

def initial : Server where
  pipe := []
  proc := .idle
  thread_exit := false
  written := []
  log := []

/-- The interleavings of the server with its senders. -/
def system : Transition.System Server ServerAction where
  init := initial
  step := step layout

/-- The writes that start with a size field which counts their bytes, and that
fit the buffer. -/
def Framed (bytes : List UInt8) : Prop :=
  layout.sizeofSize ≤ bytes.length ∧ bytes.length ≤ bufferSize layout ∧
    fromBytes (bytes.take layout.sizeofSize) = bytes.length

instance (bytes : List UInt8) : Decidable (Framed layout bytes) :=
  inferInstanceAs (Decidable (_ ∧ _ ∧ _))

/-- A well-formed message is framed and a whole `ctrl_msgbuf`. -/
def WellFormed (bytes : List UInt8) : Prop :=
  Framed layout bytes ∧ layout.sizeofCtrlMsgbuf ≤ bytes.length

instance (bytes : List UInt8) : Decidable (WellFormed layout bytes) :=
  inferInstanceAs (Decidable (_ ∧ _))

/-- What a message calls for. -/
def dispatchOf (bytes : List UInt8) : Option Dispatch :=
  if WellFormed layout bytes then
    bytes[layout.offsetofCtrlType]?.bind fun ctrlType => dispatch ctrlType bytes
  else none

/-- The calls on well-formed messages. -/
def wellFormedLog : List Dispatch := s.log.filter fun call => WellFormed layout call.frame

/-- The server runs, it called the handlers for a first part of the writes, each
well-formed message of it once and in order, every call has the bytes of a
write, and by itself the server gets through the rest. -/
structure Faithful : Prop where
  running : s.thread_exit = false
  inOrder : ∃ served unserved, s.written = served ++ unserved ∧
    (s.log.map Dispatch.frame).Sublist served ∧
    s.wellFormedLog layout = served.filterMap (dispatchOf layout)
  finishes : ∀ malloced, ∃ actions final,
    (∀ action ∈ actions, action = .readSize malloced ∨ action = .readBody) ∧
    (system layout).runFrom s actions = some final ∧ final.thread_exit = false ∧
    final.written = s.written ∧
    final.wellFormedLog layout = s.written.filterMap (dispatchOf layout)

/-- Where the next unserved message is. -/
def Aligned (pipe : List UInt8) (unserved : List (List UInt8)) : ServerProc → Prop
  | .idle => pipe = unserved.flatten
  | .sized field _ => ∃ message rest, unserved = message :: rest ∧
      field = message.take layout.sizeofSize ∧
      pipe = message.drop layout.sizeofSize ++ rest.flatten

/-- The server reads at the boundaries of the writes. -/
structure Framing (served unserved : List (List UInt8)) : Prop where
  running : s.thread_exit = false
  written : s.written = served ++ unserved
  framed : ∀ message ∈ s.written, Framed layout message
  aligned : Aligned layout s.pipe unserved s.proc
  frames : (s.log.map Dispatch.frame).Sublist served
  calls : s.wellFormedLog layout = served.filterMap (dispatchOf layout)

variable {layout s}

@[simp] theorem dispatch_frame (ctrlType : UInt8) (frame : List UInt8) :
    ∀ call ∈ dispatch ctrlType frame, call.frame = frame := by
  intro call hcall
  simp only [dispatch] at hcall
  split_ifs at hcall <;> simp at hcall <;> subst hcall <;> rfl

theorem sizeofSize_lt (layout : Layout) : layout.sizeofSize < 2 ^ (8 * layout.sizeofSize - 1) :=
  calc layout.sizeofSize < 2 ^ layout.sizeofSize := Nat.lt_two_pow_self
    _ ≤ 2 ^ (8 * layout.sizeofSize - 1) := by
        refine Nat.pow_le_pow_right (by decide) ?_
        have := layout.size_pos
        omega

theorem bufferSize_lt (layout : Layout) :
    bufferSize layout < 2 ^ (8 * layout.sizeofSize - 1) ∧ bufferSize layout < 2 ^ 31 := by
  have hsize := layout.size_pos
  have hpow : 2 ^ (8 * layout.sizeofSize) = 2 * 2 ^ (8 * layout.sizeofSize - 1) := by
    rw [← Nat.pow_succ']
    congr 1
    omega
  have hfits := layout.representable
  rw [hpow] at hfits
  exact ⟨by simp only [bufferSize]; omega, hfits.2⟩

/-- A read of what the pipe starts with takes exactly that. -/
theorem piperead_append {size : Nat} {bytes rest : List UInt8} (hpipe : s.pipe = bytes ++ rest)
    (hlength : bytes.length = size) (hsize : size < 2 ^ (8 * layout.sizeofSize - 1)) :
    s.piperead layout size = some ((size : Int), bytes, rest) := by
  subst hlength
  rw [piperead, if_neg (by omega), if_neg]
  · simp [hpipe]
  · rintro ⟨hne, hempty⟩
    rw [hpipe, List.append_eq_nil_iff] at hempty
    exact hne (List.length_eq_zero_iff.mpr hempty.1)

/-- The size of what follows the size field, as it is computed and compared. -/
theorem rest_size {layout : Layout} {size : Nat} (hlower : layout.sizeofSize ≤ size)
    (hupper : size ≤ bufferSize layout) :
    (size + 2 ^ (8 * layout.sizeofSize) - layout.sizeofSize) % 2 ^ (8 * layout.sizeofSize) =
      size - layout.sizeofSize := by
  have hfits := (bufferSize_lt layout).1
  have hmono : 2 ^ (8 * layout.sizeofSize - 1) ≤ 2 ^ (8 * layout.sizeofSize) :=
    Nat.pow_le_pow_right (by decide) (by omega)
  rw [show size + 2 ^ (8 * layout.sizeofSize) - layout.sizeofSize =
    (size - layout.sizeofSize) + 2 ^ (8 * layout.sizeofSize) by omega,
    Nat.add_mod_right, Nat.mod_eq_of_lt (by omega)]

theorem toInt_ofNat {size : Nat} (hsize : size < 2 ^ 31) :
    (BitVec.ofNat 32 size).toInt = size := by
  rw [BitVec.toInt_ofNat', Int.bmod_eq_of_le] <;> omega

/-- The first read at a message boundary takes the size field of the message. -/
theorem readSize_eq {message rest : List UInt8} (hpipe : s.pipe = message ++ rest)
    (hframed : Framed layout message) (malloced : Nat → UInt8) :
    s.readSize layout malloced =
      some { s with
        pipe := message.drop layout.sizeofSize ++ rest
        proc := .sized (message.take layout.sizeofSize) malloced } := by
  obtain ⟨hlower, hupper, hsize⟩ := hframed
  have hsplit : s.pipe =
      message.take layout.sizeofSize ++ (message.drop layout.sizeofSize ++ rest) := by
    rw [← List.append_assoc, List.take_append_drop, hpipe]
  have hread : s.piperead layout layout.sizeofSize = _ :=
    piperead_append hsplit (List.length_take_of_le hlower) (sizeofSize_lt layout)
  rw [readSize, hread, Option.map_some]
  dsimp only
  rw [if_neg (by simp), if_neg (by omega)]

/-- The second read takes the rest of the message. -/
theorem readBody_eq {message rest : List UInt8}
    (hpipe : s.pipe = message.drop layout.sizeofSize ++ rest) (hframed : Framed layout message)
    (malloced : Nat → UInt8) :
    s.readBody layout (message.take layout.sizeofSize) malloced =
      some { s with
        pipe := rest
        proc := .idle
        log := s.log ++ (dispatch
          (message[layout.offsetofCtrlType]?.getD (malloced layout.offsetofCtrlType))
          message).toList } := by
  obtain ⟨hlower, hupper, hsize⟩ := hframed
  have hfits := bufferSize_lt layout
  have hpos := layout.size_pos
  have hread : s.piperead layout (message.length - layout.sizeofSize) = _ :=
    piperead_append hpipe List.length_drop (by omega)
  rw [readBody, hsize, rest_size hlower hupper, hread, Option.map_some]
  dsimp only
  rw [if_neg, if_neg]
  · simp only [List.take_append_drop]
  · rw [toInt_ofNat (by omega)]
    omega
  · rw [toInt_ofNat (by omega)]
    simp

theorem wellFormed_dispatch {message : List UInt8} (other : UInt8) :
    (dispatch (message[layout.offsetofCtrlType]?.getD other) message).toList.filter
        (fun call => WellFormed layout call.frame) =
      (dispatchOf layout message).toList := by
  have hframe := dispatch_frame (message[layout.offsetofCtrlType]?.getD other) message
  by_cases hwell : WellFormed layout message
  · have hoffset : layout.offsetofCtrlType < message.length :=
      Nat.lt_of_lt_of_le layout.type_within hwell.2
    rw [dispatchOf, if_pos hwell, List.getElem?_eq_getElem hoffset, Option.bind_some,
      Option.getD_some]
    refine List.filter_eq_self.mpr fun call hcall => ?_
    rw [dispatch_frame _ message call (Option.mem_toList.mp hcall)]
    simpa using hwell
  · rw [dispatchOf, if_neg hwell, Option.toList_none, List.filter_eq_nil_iff]
    intro call hcall
    rw [hframe call (Option.mem_toList.mp hcall)]
    simpa using hwell

theorem map_frame_dispatch (ctrlType : UInt8) (message : List UInt8) :
    ((dispatch ctrlType message).toList.map Dispatch.frame).Sublist [message] := by
  cases hcall : dispatch ctrlType message with
  | none => exact List.nil_sublist _
  | some call =>
      rw [Option.toList_some, List.map_singleton, dispatch_frame ctrlType message call hcall]

variable {served unserved : List (List UInt8)}

theorem framing_write (hs : s.Framing layout served unserved) {bytes : List UInt8}
    (hframed : Framed layout bytes) :
    Framing layout { s with pipe := s.pipe ++ bytes, written := s.written ++ [bytes] }
      served (unserved ++ [bytes]) where
  running := hs.running
  written := by simp [hs.written]
  framed := by
    intro message hmem
    rcases List.mem_append.mp hmem with hmem | hmem
    · exact hs.framed message hmem
    · rwa [List.mem_singleton.mp hmem]
  aligned := by
    have haligned := hs.aligned
    cases hproc : s.proc with
    | idle =>
        simp only [hproc, Aligned] at haligned ⊢
        simp [haligned]
    | sized field malloced =>
        simp only [hproc, Aligned] at haligned ⊢
        obtain ⟨message, rest, rfl, hfield, hpipe⟩ := haligned
        exact ⟨message, rest ++ [bytes], rfl, hfield, by simp [hpipe]⟩
  frames := hs.frames
  calls := hs.calls

theorem framing_readSize {message : List UInt8} {rest : List (List UInt8)}
    (hs : s.Framing layout served (message :: rest)) (hproc : s.proc = .idle)
    (malloced : Nat → UInt8) :
    ∃ next, step layout s (.readSize malloced) = some next ∧ next.written = s.written ∧
      next.proc = .sized (message.take layout.sizeofSize) malloced ∧
      next.Framing layout served (message :: rest) := by
  have hpipe : s.pipe = message ++ rest.flatten := by
    simpa only [hproc, Aligned, List.flatten_cons] using hs.aligned
  have hframed := hs.framed message (by simp [hs.written])
  refine ⟨{ s with
      pipe := message.drop layout.sizeofSize ++ rest.flatten
      proc := .sized (message.take layout.sizeofSize) malloced }, ?_, rfl, rfl, ?_⟩
  · simp only [step, hproc, hs.running, readSize_eq hpipe hframed malloced,
      Bool.false_eq_true, if_false]
  · exact ⟨hs.running, hs.written, hs.framed, ⟨message, rest, rfl, rfl, rfl⟩, hs.frames, hs.calls⟩

theorem framing_readBody {field : List UInt8} {malloced : Nat → UInt8}
    (hs : s.Framing layout served unserved) (hproc : s.proc = .sized field malloced) :
    ∃ message rest next, unserved = message :: rest ∧ step layout s .readBody = some next ∧
      next.written = s.written ∧ next.proc = .idle ∧
      next.Framing layout (served ++ [message]) rest := by
  have haligned := hs.aligned
  rw [hproc] at haligned
  obtain ⟨message, rest, rfl, rfl, hpipe⟩ := haligned
  have hframed := hs.framed message (by simp [hs.written])
  have hstep : step layout s .readBody =
      s.readBody layout (message.take layout.sizeofSize) malloced := by
    simp only [step, hproc]
  rw [readBody_eq hpipe hframed malloced] at hstep
  refine ⟨message, rest, _, rfl, hstep, rfl, rfl, hs.running, ?_, hs.framed, rfl, ?_, ?_⟩
  · simp [hs.written]
  · rw [List.map_append]
    exact hs.frames.append (map_frame_dispatch _ message)
  · have hcalls := hs.calls
    rw [wellFormedLog] at hcalls ⊢
    rw [List.filter_append, hcalls, wellFormed_dispatch, List.filterMap_append]
    rfl

/-- Between two messages, one turn of the server after the other serves the
rest. -/
theorem framing_finishes_idle (hs : s.Framing layout served unserved) (hproc : s.proc = .idle)
    (malloced : Nat → UInt8) :
    ∃ actions final, (∀ action ∈ actions, action = .readSize malloced ∨ action = .readBody) ∧
      (system layout).runFrom s actions = some final ∧ final.written = s.written ∧
      final.Framing layout s.written [] := by
  induction unserved generalizing s served with
  | nil =>
      have hserved : s.written = served := by simpa using hs.written
      exact ⟨[], s, by simp, rfl, rfl, hserved ▸ hs⟩
  | cons message rest ih =>
      obtain ⟨middle, hsize, hwritten, hsized, hmiddle⟩ := framing_readSize hs hproc malloced
      obtain ⟨message', rest', next, hcons, hbody, hwritten', hidle, hnext⟩ :=
        framing_readBody hmiddle hsized
      obtain ⟨rfl, rfl⟩ := List.cons.inj hcons
      obtain ⟨actions, final, hmem, hrun, hfinal, hframing⟩ := ih hnext hidle
      refine ⟨.readSize malloced :: .readBody :: actions, final, ?_, ?_, ?_, ?_⟩
      · simpa using hmem
      · change (step layout s (.readSize malloced)).bind _ = _
        rw [hsize, Option.bind_some]
        change (step layout middle .readBody).bind _ = _
        rw [hbody, Option.bind_some, hrun]
      · rw [hfinal, hwritten', hwritten]
      · rwa [hwritten', hwritten] at hframing

theorem framing_finishes (hs : s.Framing layout served unserved) (malloced : Nat → UInt8) :
    ∃ actions final, (∀ action ∈ actions, action = .readSize malloced ∨ action = .readBody) ∧
      (system layout).runFrom s actions = some final ∧ final.written = s.written ∧
      final.Framing layout s.written [] := by
  cases hproc : s.proc with
  | idle => exact framing_finishes_idle hs hproc malloced
  | sized field buffer =>
      obtain ⟨message, rest, next, rfl, hbody, hwritten, hidle, hnext⟩ := framing_readBody hs hproc
      obtain ⟨actions, final, hmem, hrun, hfinal, hframing⟩ :=
        framing_finishes_idle hnext hidle malloced
      refine ⟨.readBody :: actions, final, ?_, ?_, hfinal.trans hwritten, hwritten ▸ hframing⟩
      · simpa using hmem
      · change (step layout s .readBody).bind _ = _
        rw [hbody, Option.bind_some, hrun]

theorem Framing.faithful (hs : s.Framing layout served unserved) : s.Faithful layout where
  running := hs.running
  inOrder := ⟨served, unserved, hs.written, hs.frames, hs.calls⟩
  finishes malloced := by
    obtain ⟨actions, final, hmem, hrun, hwritten, hfinal⟩ := framing_finishes hs malloced
    exact ⟨actions, final, hmem, hrun, hfinal.running, hwritten, hfinal.calls⟩

/-- A run in which every write is framed. -/
def WritesFramed (layout : Layout) (_ : Server) : ServerAction → Prop
  | .write bytes => Framed layout bytes
  | .readSize _ | .readBody => True

theorem framing_step {next : Server} {action : ServerAction}
    (hs : ∃ served unserved, s.Framing layout served unserved)
    (hframed : WritesFramed layout s action) (hstep : step layout s action = some next) :
    ∃ served unserved, next.Framing layout served unserved := by
  obtain ⟨served, unserved, hs⟩ := hs
  cases action with
  | write bytes =>
      obtain rfl := Option.some.inj hstep
      exact ⟨served, unserved ++ [bytes], framing_write hs hframed⟩
  | readSize malloced =>
      cases hproc : s.proc with
      | sized field buffer => simp [step, hproc] at hstep
      | idle =>
          cases unserved with
          | nil =>
              -- the read of an empty pipe does not return
              have hpipe : s.pipe = [] := by simpa [hproc, Aligned] using hs.aligned
              have hsize := sizeofSize_lt layout
              have hpos := layout.size_pos
              have hread : s.piperead layout layout.sizeofSize = none := by
                rw [piperead, if_neg (by omega), if_pos ⟨by omega, hpipe⟩]
              simp [step, hproc, hs.running, readSize, hread] at hstep
          | cons message rest =>
              obtain ⟨_, hsome, _, _, hnext⟩ := framing_readSize hs hproc malloced
              obtain rfl := Option.some.inj (hsome.symm.trans hstep)
              exact ⟨_, _, hnext⟩
  | readBody =>
      cases hproc : s.proc with
      | idle => simp [step, hproc] at hstep
      | sized field buffer =>
          obtain ⟨_, _, _, _, hsome, _, _, hnext⟩ := framing_readBody hs hproc
          obtain rfl := Option.some.inj (hsome.symm.trans hstep)
          exact ⟨_, _, hnext⟩

theorem framing_initial (layout : Layout) : initial.Framing layout [] [] :=
  ⟨rfl, rfl, fun _ hmem => absurd hmem List.not_mem_nil, rfl, List.nil_sublist _, rfl⟩

/-- While every write is framed, the server is faithful to its senders. -/
theorem framed_writes_served (layout : Layout) (actions : List ServerAction)
    (hframed : ∀ bytes, ServerAction.write bytes ∈ actions → Framed layout bytes) :
    (system layout).Throughout (Faithful layout) initial actions := by
  have hguarded : (system layout).Guarded (WritesFramed layout) initial actions := by
    refine Transition.System.guarded_of_forall_mem (fun action hmem _ => ?_) initial
    cases action with
    | write bytes => exact hframed bytes hmem
    | readSize malloced => trivial
    | readBody => trivial
  exact Transition.System.throughout_of_guarded
    (fun s : Server => ∃ served unserved, s.Framing layout served unserved)
    (fun _ ⟨_, _, hs⟩ => hs.faithful)
    (fun _ _ _ hs hguard hstep => framing_step hs hguard hstep)
    ⟨[], [], framing_initial layout⟩ hguarded

/-- A whole request of a 32-bit machine. -/
def ifRequestBytes : List UInt8 :=
  [112, 0, 0, 0] ++ List.replicate 8 0 ++ [gpsoneLocApiIfRequest] ++ List.replicate 99 0

/-- A framed message that is too short for a type, and a request behind it. -/
theorem framed_writes_served_short :
    (system .ilp32).Throughout (Faithful .ilp32) initial
      [.write [5, 0, 0, 0, 7], .write ifRequestBytes, .readSize fun _ => 0, .readBody,
        .readSize fun _ => 0, .readBody] := by
  apply framed_writes_served
  intro bytes hmem
  have hbytes : bytes = [5, 0, 0, 0, 7] ∨ bytes = ifRequestBytes := by
    simpa using hmem
  obtain rfl | rfl := hbytes
  · decide
  · decide

/-- A message whose size field is zero ends the loop, and the request that
follows it is never served. -/
theorem zero_size_ends_server :
    ¬ (system .ilp32).Throughout (Faithful .ilp32) initial
      [.write [0, 0, 0, 0], .write ifRequestBytes, .readSize fun _ => 0, .readBody] := by
  apply Transition.System.not_throughout_of_any Server.thread_exit
  · intro s hexit hs
    simp [hs.running] at hexit
  · decide +kernel

end Server

end Serrano.LocEng.DmnConn
