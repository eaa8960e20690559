import Serrano.Foundation.Overlay
import Serrano.LocEng.DmnConn

/-! # What the loc api server posts for a message

The handlers of interface requests and releases read the control message at the
offsets of its fields, whatever length was received, and copy the network name
and password up to a zero. What they post is a function of the received bytes
when the fields that they come to read were received.
-/

namespace Serrano.LocEng.DmnConn

open Overlay

/-- Where the fields of an interface request are. -/
structure RequestLayout extends Layout where
  sizeofEnum : Nat
  sizeofLong : Nat
  offsetofType : Nat
  offsetofSenderId : Nat
  offsetofIpv4Addr : Nat
  offsetofIpv6Addr : Nat
  offsetofSsid : Nat
  offsetofPassword : Nat
  enum_pos : 0 < sizeofEnum
  cmsg_after : offsetofCtrlType < offsetofType
  senderId_after : offsetofType + sizeofEnum ≤ offsetofSenderId
  ipv4_after : offsetofSenderId + sizeofEnum ≤ offsetofIpv4Addr
  ipv6_after : offsetofIpv4Addr + sizeofLong ≤ offsetofIpv6Addr
  ssid_after : offsetofIpv6Addr + 16 ≤ offsetofSsid
  password_after : offsetofSsid + 33 ≤ offsetofPassword
  password_within : offsetofPassword + 33 ≤ sizeofCtrlMsgbuf

/-- The layout of a 32-bit machine. -/
def RequestLayout.ilp32 : RequestLayout where
  toLayout := .ilp32
  sizeofEnum := 4
  sizeofLong := 4
  offsetofType := 16
  offsetofSenderId := 20
  offsetofIpv4Addr := 24
  offsetofIpv6Addr := 28
  offsetofSsid := 44
  offsetofPassword := 77
  enum_pos := Layout.ilp32.size_pos
  cmsg_after := by decide
  senderId_after := by decide
  ipv4_after := by decide
  ipv6_after := by decide
  ssid_after := by decide
  password_after := by decide
  password_within := by decide

def ssidBufSize : Nat := 33

inductive AGpsExtType
  | supl
  | wifi
  | any
  deriving DecidableEq

inductive SenderId
  | quipc
  | msapm
  | msapu
  deriving DecidableEq

/-- The messages of the handlers. A `char *` field is the string it holds. -/
inductive LocEngReqRel
  | wifi (mType : AGpsExtType) (mSenderId : SenderId) (mSSID mPassword : List UInt8)
      (mIsReq : Bool)
  | bit (mType : AGpsExtType) (mIPv4Addr : Int) (mIPv6Addr : List UInt8) (mIsReq : Bool)
  deriving DecidableEq

/-- The switch over `cmsg_if_request.type`. -/
def ifRequestType : Nat → Option AGpsExtType
  | 0 => some .supl
  | 1 => some .wifi
  | 2 => some .any
  | _ => none

namespace RequestLayout

variable (layout : RequestLayout)

def type (pmsg : Nat → UInt8) : Nat := fromBytes (slice pmsg layout.offsetofType layout.sizeofEnum)

def senderId (pmsg : Nat → UInt8) : Nat :=
  fromBytes (slice pmsg layout.offsetofSenderId layout.sizeofEnum)

/-- The `unsigned long` of the message is passed as an `int`. -/
def ipv4Addr (pmsg : Nat → UInt8) : Int :=
  (BitVec.ofNat 32 (fromBytes (slice pmsg layout.offsetofIpv4Addr layout.sizeofLong))).toInt

def ipv6Addr (pmsg : Nat → UInt8) : List UInt8 := slice pmsg layout.offsetofIpv6Addr 16

/-- `strlcpy` into an array of `SSID_BUF_SIZE`. -/
def strlcpy (pmsg : Nat → UInt8) (offset : Nat) : List UInt8 :=
  (slice pmsg offset (ssidBufSize - 1)).takeWhile (· ≠ 0)

/-- The switch over `cmsg_if_request.sender_id`. -/
def reqRel (type : AGpsExtType) (isReq : Bool) (pmsg : Nat → UInt8) : Option LocEngReqRel :=
  let ssid := strlcpy pmsg layout.offsetofSsid
  let password := strlcpy pmsg layout.offsetofPassword
  match layout.senderId pmsg with
  | 0 => some (.wifi type .quipc ssid password isReq)
  | 1 => some (.wifi type .msapm ssid password isReq)
  | 2 => some (.wifi type .msapu ssid password isReq)
  | 3 => some (.bit type (layout.ipv4Addr pmsg) (layout.ipv6Addr pmsg) isReq)
  | _ => none

/-- What the two handlers have in common. -/
def ifHandler (isReq : Bool) (pmsg : Nat → UInt8) : Option LocEngReqRel :=
  (ifRequestType (layout.type pmsg)).bind fun type => layout.reqRel type isReq pmsg

/-- `loc_eng_dmn_conn_loc_api_server_if_request_handler` without a handle gives up. -/
def ifRequestHandler (locApiHandle : Bool) (pmsg : Nat → UInt8) : Option LocEngReqRel :=
  if locApiHandle then layout.ifHandler true pmsg else none

/-- `loc_eng_dmn_conn_loc_api_server_if_release_handler` does not look whether there is a
handle. The message reaches its queue through it: without one, `send` faults. -/
def ifReleaseHandler (locApiHandle : Bool) (pmsg : Nat → UInt8) : Option LocEngReqRel :=
  (layout.ifHandler false pmsg).filter fun _ => locApiHandle

/-- The switch of `loc_api_server_proc` over the type of the control message. -/
def posts (locApiHandle : Bool) (pmsg : Nat → UInt8) : Option LocEngReqRel :=
  if pmsg layout.offsetofCtrlType = gpsoneLocApiIfRequest then
    layout.ifRequestHandler locApiHandle pmsg
  else if pmsg layout.offsetofCtrlType = gpsoneLocApiIfRelease then
    layout.ifReleaseHandler locApiHandle pmsg
  else none

/-- The bytes of an enumeration constant. -/
def enumBytes (value : UInt8) : List UInt8 := value :: List.replicate (layout.sizeofEnum - 1) 0

/-- The received part of a field already rules out the constants. -/
def RulesOut (message : List UInt8) (offset : Nat) (constants : List UInt8) : Prop :=
  ∀ value ∈ constants,
    ¬ receivedPart message offset layout.sizeofEnum <+: layout.enumBytes value

instance (message : List UInt8) (offset : Nat) (constants : List UInt8) :
    Decidable (layout.RulesOut message offset constants) :=
  List.decidableBAll _ constants

/-- A string that is not longer than what was received of it. -/
def StringReceived (message : List UInt8) (offset : Nat) : Prop :=
  EndsWithin (· ≠ (0 : UInt8)) message offset (ssidBufSize - 1)

instance (message : List UInt8) (offset : Nat) : Decidable (StringReceived message offset) :=
  inferInstanceAs (Decidable (EndsWithin _ _ _ _))

/-- What goes into the message of the sender was received. -/
def ArgumentsReceived (message : List UInt8) : Prop :=
  if layout.RulesOut message layout.offsetofSenderId [3] then
    StringReceived message layout.offsetofSsid ∧ StringReceived message layout.offsetofPassword
  else layout.offsetofIpv6Addr + 16 ≤ message.length

instance (message : List UInt8) : Decidable (layout.ArgumentsReceived message) :=
  inferInstanceAs (Decidable (if layout.RulesOut message layout.offsetofSenderId [3] then _ else _))

def SenderReceived (message : List UInt8) : Prop :=
  layout.RulesOut message layout.offsetofSenderId [0, 1, 2, 3] ∨
    layout.offsetofSenderId + layout.sizeofEnum ≤ message.length ∧ layout.ArgumentsReceived message

instance (message : List UInt8) : Decidable (layout.SenderReceived message) :=
  inferInstanceAs (Decidable (_ ∨ _ ∧ _))

def RequestReceived (message : List UInt8) : Prop :=
  layout.RulesOut message layout.offsetofType [0, 1, 2] ∨
    layout.offsetofType + layout.sizeofEnum ≤ message.length ∧ layout.SenderReceived message

instance (message : List UInt8) : Decidable (layout.RequestReceived message) :=
  inferInstanceAs (Decidable (_ ∨ _ ∧ _))

/-- The fields that the server comes to read were received: up to an unsupported
type or sender, or all that the posted message is made of. Without a handle nothing
is posted. -/
def FieldsReceived (locApiHandle : Bool) (message : List UInt8) : Prop :=
  locApiHandle = true → ∃ ctrlType ∈ message[layout.offsetofCtrlType]?,
    ctrlType = gpsoneLocApiIfRequest ∨ ctrlType = gpsoneLocApiIfRelease →
      layout.RequestReceived message

instance (locApiHandle : Bool) (message : List UInt8) :
    Decidable (layout.FieldsReceived locApiHandle message) :=
  inferInstanceAs (Decidable (_ → _))

variable {layout : RequestLayout} {message : List UInt8} {offset : Nat} {constants : List UInt8}

theorem fromBytes_replicate_zero (size : Nat) : fromBytes (List.replicate size 0) = 0 := by
  induction size with
  | zero => rfl
  | succ size ih =>
      rw [List.replicate_succ, fromBytes, ih]
      rfl

theorem eq_replicate_of_fromBytes {bytes : List UInt8} (h : fromBytes bytes = 0) :
    bytes = List.replicate bytes.length 0 := by
  induction bytes with
  | nil => rfl
  | cons byte rest ih =>
      rw [fromBytes] at h
      have hbyte : byte = 0 := UInt8.toNat_inj.mp (by rw [UInt8.toNat_zero]; omega)
      rw [List.length_cons, List.replicate_succ, ← ih (by omega), hbyte]

theorem fromBytes_enumBytes (layout : RequestLayout) (value : UInt8) :
    fromBytes (layout.enumBytes value) = value.toNat := by
  rw [enumBytes, fromBytes, fromBytes_replicate_zero]
  rfl

@[simp] theorem length_enumBytes (layout : RequestLayout) (value : UInt8) :
    (layout.enumBytes value).length = layout.sizeofEnum := by
  have hpos := layout.enum_pos
  rw [enumBytes, List.length_cons, List.length_replicate]
  omega

/-- A constant has one representation. -/
theorem eq_enumBytes {bytes : List UInt8} (hlength : bytes.length = layout.sizeofEnum)
    {value : UInt8} (h : fromBytes bytes = value.toNat) : bytes = layout.enumBytes value := by
  have hpos := layout.enum_pos
  cases bytes with
  | nil =>
      rw [List.length_nil] at hlength
      omega
  | cons byte rest =>
      rw [fromBytes] at h
      have hvalue := value.toNat_lt
      have hbyte : byte = value := UInt8.toNat_inj.mp (by omega)
      have hrest : rest = _ := eq_replicate_of_fromBytes (by omega)
      rw [List.length_cons] at hlength
      rw [enumBytes, ← hlength, hbyte, hrest, List.length_replicate]
      rfl

/-- A constant that is ruled out is not read, whatever the buffer held. -/
theorem RulesOut.ne (h : layout.RulesOut message offset constants) {value : UInt8}
    (hvalue : value ∈ constants) (before : Nat → UInt8) :
    fromBytes (slice (overlay message before) offset layout.sizeofEnum) ≠ value.toNat := by
  intro heq
  have hbytes := eq_enumBytes (length_slice _ _ _) heq
  exact h value hvalue (hbytes ▸ receivedPart_prefix message before offset layout.sizeofEnum)

/-- One that is not ruled out is read from some buffer. -/
theorem exists_of_not_rulesOut (h : ¬ layout.RulesOut message offset constants) :
    ∃ value ∈ constants, fromBytes (slice
      (overlay message (place offset (layout.enumBytes value) 0)) offset layout.sizeofEnum) =
        value.toNat := by
  simp only [RulesOut, not_forall, not_not] at h
  obtain ⟨value, hvalue, hprefix⟩ := h
  refine ⟨value, hvalue, ?_⟩
  rw [← length_enumBytes layout value] at hprefix ⊢
  rw [slice_overlay_place hprefix, fromBytes_enumBytes]

/-- A field that was not received whole is no constant in a buffer of ones. -/
theorem ne_of_length_lt (h : message.length < offset + layout.sizeofEnum) {value : UInt8}
    (hvalue : value ≠ 0xFF) :
    fromBytes (slice (overlay message fun _ => 0xFF) offset layout.sizeofEnum) ≠ value.toNat := by
  intro heq
  have hpos := layout.enum_pos
  have hbytes := eq_enumBytes (length_slice _ _ _) heq
  have hmem : (0xFF : UInt8) ∈ layout.enumBytes value := by
    rw [← hbytes, slice_overlay, slice_const]
    refine List.mem_append_right _ (List.mem_replicate.mpr ⟨?_, rfl⟩)
    rw [length_receivedPart]
    omega
  rw [enumBytes, List.mem_cons, List.mem_replicate] at hmem
  rcases hmem with heq | ⟨-, hzero⟩
  · exact hvalue heq.symm
  · cases hzero

/-- A constant that was received whole is read from every buffer. -/
theorem eq_of_not_rulesOut (hwhole : offset + layout.sizeofEnum ≤ message.length) {value : UInt8}
    (h : ¬ layout.RulesOut message offset [value]) (before : Nat → UInt8) :
    fromBytes (slice (overlay message before) offset layout.sizeofEnum) = value.toNat := by
  obtain ⟨found, hfound, hread⟩ := exists_of_not_rulesOut h
  rw [List.mem_singleton] at hfound
  subst hfound
  rw [← hread]
  exact congrArg fromBytes (determined_slice hwhole before _)

variable {type : AGpsExtType} {isReq : Bool}

theorem exists_reqRel_wifi (layout : RequestLayout) (type : AGpsExtType) (isReq : Bool)
    {number : Nat} (h : number < 3) :
    ∃ sender, ∀ pmsg, layout.senderId pmsg = number → layout.reqRel type isReq pmsg =
      some (.wifi type sender (strlcpy pmsg layout.offsetofSsid)
        (strlcpy pmsg layout.offsetofPassword) isReq) := by
  match number, h with
  | 0, _ => exact ⟨.quipc, fun pmsg hid => by simp [reqRel, hid]⟩
  | 1, _ => exact ⟨.msapm, fun pmsg hid => by simp [reqRel, hid]⟩
  | 2, _ => exact ⟨.msapu, fun pmsg hid => by simp [reqRel, hid]⟩

theorem reqRel_bit {pmsg : Nat → UInt8} (h : layout.senderId pmsg = 3) :
    layout.reqRel type isReq pmsg =
      some (.bit type (layout.ipv4Addr pmsg) (layout.ipv6Addr pmsg) isReq) := by
  simp [reqRel, h]

theorem reqRel_none {pmsg : Nat → UInt8} (h : 3 < layout.senderId pmsg) :
    layout.reqRel type isReq pmsg = none := by
  rw [reqRel]
  split <;> first | omega | rfl

theorem isSome_reqRel {pmsg : Nat → UInt8} (h : layout.senderId pmsg ≤ 3) :
    (layout.reqRel type isReq pmsg).isSome := by
  by_cases hwifi : layout.senderId pmsg < 3
  · obtain ⟨sender, hsender⟩ := exists_reqRel_wifi layout type isReq hwifi
    rw [hsender pmsg rfl]
    rfl
  · rw [reqRel_bit (by omega)]
    rfl

theorem lt_of_forall_ne {number last : Nat} (h : ∀ k ≤ last, number ≠ (UInt8.ofNat k).toNat)
    (hlast : last < 256) : last < number := by
  by_contra hle
  refine h number (Nat.le_of_not_lt hle) ?_
  rw [UInt8.toNat_ofNat_of_lt' (by simp only [UInt8.size]; omega)]

/-- When the first constants are all ruled out, something larger is read. -/
theorem RulesOut.lt (h : layout.RulesOut message offset constants) {last : Nat}
    (hconstants : ∀ k ≤ last, UInt8.ofNat k ∈ constants) (hlast : last < 256)
    (before : Nat → UInt8) :
    last < fromBytes (slice (overlay message before) offset layout.sizeofEnum) :=
  lt_of_forall_ne (fun k hk => h.ne (hconstants k hk) before) hlast

theorem lt_of_length_lt (h : message.length < offset + layout.sizeofEnum) {last : Nat}
    (hconstants : ∀ k ≤ last, UInt8.ofNat k ≠ 0xFF) (hlast : last < 256) :
    last < fromBytes (slice (overlay message fun _ => 0xFF) offset layout.sizeofEnum) :=
  lt_of_forall_ne (fun k hk => ne_of_length_lt h (hconstants k hk)) hlast

/-- What the message of the sender is made of is determined when it was received. -/
theorem SenderReceived.determined (h : layout.SenderReceived message) :
    Determined (layout.reqRel type isReq) message := by
  intro before other
  rcases h with hout | ⟨hwhole, harguments⟩
  · rw [reqRel_none (hout.lt (by decide) (by decide) before),
      reqRel_none (hout.lt (by decide) (by decide) other)]
  · have hid : layout.senderId (overlay message before) =
        layout.senderId (overlay message other) :=
      congrArg fromBytes (determined_slice hwhole before other)
    rw [ArgumentsReceived] at harguments
    split at harguments
    · next hout =>
        rcases Nat.lt_trichotomy (layout.senderId (overlay message before)) 3 with
          hwifi | hbit | hnone
        · obtain ⟨sender, hsender⟩ := exists_reqRel_wifi layout type isReq hwifi
          have hssid : strlcpy (overlay message before) _ = strlcpy (overlay message other) _ :=
            harguments.1.determined before other
          have hpassword : strlcpy (overlay message before) _ = strlcpy (overlay message other) _ :=
            harguments.2.determined before other
          rw [hsender _ rfl, hsender _ hid.symm, hssid, hpassword]
        · exact absurd hbit (hout.ne (List.mem_singleton.mpr rfl) before)
        · rw [reqRel_none hnone, reqRel_none (hid ▸ hnone)]
    · next hbit =>
        have hipv4 : layout.ipv4Addr (overlay message before) =
            layout.ipv4Addr (overlay message other) := by
          have hreceived : layout.offsetofIpv4Addr + layout.sizeofLong ≤ message.length := by
            have := layout.ipv6_after
            omega
          rw [ipv4Addr, ipv4Addr]
          exact congrArg (fun bytes => (BitVec.ofNat 32 (fromBytes bytes)).toInt)
            (determined_slice hreceived before other)
        have hipv6 : layout.ipv6Addr (overlay message before) =
            layout.ipv6Addr (overlay message other) := determined_slice harguments before other
        rw [reqRel_bit (eq_of_not_rulesOut hwhole hbit before),
          reqRel_bit (eq_of_not_rulesOut hwhole hbit other), hipv4, hipv6]

/-- Two buffers, by which a string that was not received whole differs. -/
theorem strlcpy_ne (h : ¬ StringReceived message offset) :
    strlcpy (overlay message fun _ => 0) offset ≠ strlcpy (overlay message fun _ => 1) offset :=
  takeWhile_ne_of_not_endsWithin h (by decide) (by decide) (by decide)

theorem senderReceived_of_determined (h : Determined (layout.reqRel type isReq) message) :
    layout.SenderReceived message := by
  by_cases hout : layout.RulesOut message layout.offsetofSenderId [0, 1, 2, 3]
  · exact .inl hout
  obtain ⟨value, hvalue, hread⟩ := exists_of_not_rulesOut hout
  have hle : value.toNat ≤ 3 := by
    simp only [List.mem_cons, List.not_mem_nil, or_false] at hvalue
    rcases hvalue with rfl | rfl | rfl | rfl <;> decide
  by_cases hshort : message.length < layout.offsetofSenderId + layout.sizeofEnum
  · -- the rest of the field makes the constant in one buffer, and none in another
    have hsome : (layout.reqRel type isReq (overlay message
        (place layout.offsetofSenderId (layout.enumBytes value) 0))).isSome :=
      isSome_reqRel (hread.trans_le hle)
    rw [h _ fun _ => 0xFF, reqRel_none] at hsome
    · cases hsome
    · exact lt_of_length_lt hshort (by decide) (by decide)
  · have hwhole := Nat.le_of_not_lt hshort
    have hid : ∀ before, layout.senderId (overlay message before) = value.toNat :=
      fun before => (congrArg fromBytes (determined_slice hwhole before _)).trans hread
    refine .inr ⟨hwhole, ?_⟩
    rw [ArgumentsReceived]
    split
    · next hbit =>
        have hne : value.toNat ≠ 3 := fun heq =>
          hbit.ne (List.mem_singleton.mpr rfl) (fun _ => 0) ((hid _).trans heq)
        have hwifi : value.toNat < 3 := Nat.lt_of_le_of_ne hle hne
        obtain ⟨sender, hsender⟩ := exists_reqRel_wifi layout type isReq hwifi
        have hmessage := h (fun _ => 0) fun _ => 1
        rw [hsender _ (hid _), hsender _ (hid _), Option.some.injEq, LocEngReqRel.wifi.injEq]
          at hmessage
        obtain ⟨-, -, hssid, hpassword, -⟩ := hmessage
        exact ⟨by_contra fun hstring => strlcpy_ne hstring hssid,
          by_contra fun hstring => strlcpy_ne hstring hpassword⟩
    · next hbit =>
        by_contra hlt
        have hmessage := h (fun _ => 0) fun _ => 1
        rw [reqRel_bit (eq_of_not_rulesOut hwhole hbit _),
          reqRel_bit (eq_of_not_rulesOut hwhole hbit _), Option.some.injEq,
          LocEngReqRel.bit.injEq] at hmessage
        have hlast : (layout.ipv6Addr (overlay message fun _ => 0))[15]? =
            (layout.ipv6Addr (overlay message fun _ => 1))[15]? := by rw [hmessage.2.2.1]
        rw [ipv6Addr, ipv6Addr, List.getElem?_eq_getElem (by simp),
          List.getElem?_eq_getElem (by simp), getElem_slice, getElem_slice,
          overlay_of_length_le (by omega), overlay_of_length_le (by omega)] at hlast
        cases hlast

theorem isSome_ifRequestType {number : Nat} (h : number ≤ 2) : (ifRequestType number).isSome := by
  match number, h with
  | 0, _ | 1, _ | 2, _ => rfl

theorem ifRequestType_none {number : Nat} (h : 2 < number) : ifRequestType number = none := by
  obtain ⟨more, rfl⟩ := Nat.exists_eq_add_of_le' h
  rfl

theorem RequestReceived.determined (h : layout.RequestReceived message) :
    Determined (layout.ifHandler isReq) message := by
  intro before other
  rcases h with hout | ⟨hwhole, hsender⟩
  · have hnone : ∀ before, ifRequestType (layout.type (overlay message before)) = none :=
      fun before => ifRequestType_none (hout.lt (by decide) (by decide) before)
    rw [ifHandler, ifHandler, hnone, hnone]
    rfl
  · have htype : layout.type (overlay message before) = layout.type (overlay message other) :=
      congrArg fromBytes (determined_slice hwhole before other)
    rw [ifHandler, ifHandler, htype]
    exact congrArg _ (funext fun type => hsender.determined before other)

/-- In a buffer of zeros, a sender that was not received is the first one. -/
theorem isSome_ifHandler {before : Nat → UInt8}
    (htype : layout.type (overlay message before) ≤ 2)
    (hsender : layout.senderId (overlay message before) ≤ 3) :
    (layout.ifHandler isReq (overlay message before)).isSome := by
  obtain ⟨type, hsome⟩ := Option.isSome_iff_exists.mp (isSome_ifRequestType htype)
  rw [ifHandler, hsome]
  exact isSome_reqRel hsender

theorem requestReceived_of_determined (h : Determined (layout.ifHandler isReq) message) :
    layout.RequestReceived message := by
  by_cases hout : layout.RulesOut message layout.offsetofType [0, 1, 2]
  · exact .inl hout
  obtain ⟨value, hvalue, hread⟩ := exists_of_not_rulesOut hout
  have hle : value.toNat ≤ 2 := by
    simp only [List.mem_cons, List.not_mem_nil, or_false] at hvalue
    rcases hvalue with rfl | rfl | rfl <;> decide
  by_cases hshort : message.length < layout.offsetofType + layout.sizeofEnum
  · have hafter := layout.senderId_after
    have hsome : (layout.ifHandler isReq (overlay message
        (place layout.offsetofType (layout.enumBytes value) 0))).isSome := by
      refine isSome_ifHandler (hread.trans_le hle) ?_
      rw [senderId, slice_overlay_of_length_le (by omega), slice_place_of_le (by simpa using hafter),
        fromBytes_replicate_zero]
      decide
    have hnone : ifRequestType (layout.type (overlay message fun _ => 0xFF)) = none :=
      ifRequestType_none (lt_of_length_lt hshort (by decide) (by decide))
    rw [h _ fun _ => 0xFF, ifHandler, hnone] at hsome
    cases hsome
  · have hwhole := Nat.le_of_not_lt hshort
    obtain ⟨type, htype⟩ := Option.isSome_iff_exists.mp (isSome_ifRequestType hle)
    have hhandler : ∀ before, layout.ifHandler isReq (overlay message before) =
        layout.reqRel type isReq (overlay message before) := by
      intro before
      have hvalue : layout.type (overlay message before) = value.toNat :=
        (congrArg fromBytes (determined_slice hwhole before _)).trans hread
      rw [ifHandler, hvalue, htype, Option.bind_some]
    have hreqRel : Determined (layout.reqRel type isReq) message := fun before other => by
      rw [← hhandler, ← hhandler]
      exact h before other
    exact .inr ⟨hwhole, senderReceived_of_determined hreqRel⟩

theorem determined_ifHandler_iff :
    Determined (layout.ifHandler isReq) message ↔ layout.RequestReceived message :=
  ⟨requestReceived_of_determined, RequestReceived.determined⟩

theorem posts_no_handle (pmsg : Nat → UInt8) : layout.posts false pmsg = none := by
  have hrelease : layout.ifReleaseHandler false pmsg = none := by
    rw [ifReleaseHandler]
    cases layout.ifHandler false pmsg <;> rfl
  rw [posts, hrelease, ifRequestHandler, if_neg Bool.false_ne_true]
  split_ifs <;> rfl

theorem posts_handle (pmsg : Nat → UInt8) :
    layout.posts true pmsg =
      if pmsg layout.offsetofCtrlType = gpsoneLocApiIfRequest then layout.ifHandler true pmsg
      else if pmsg layout.offsetofCtrlType = gpsoneLocApiIfRelease then
        layout.ifHandler false pmsg
      else none := by
  have hrelease : layout.ifReleaseHandler true pmsg = layout.ifHandler false pmsg := by
    rw [ifReleaseHandler]
    cases layout.ifHandler false pmsg <;> rfl
  rw [posts, hrelease, ifRequestHandler, if_pos rfl]

/-- A message without a type is a request in one buffer, and nothing in another. -/
theorem not_determined_posts (h : message.length ≤ layout.offsetofCtrlType) :
    ¬ Determined (layout.posts true) message := by
  intro hdetermined
  have htype := layout.cmsg_after
  have hsender := layout.senderId_after
  have hpos := layout.enum_pos
  let request := place layout.offsetofCtrlType [gpsoneLocApiIfRequest] 0
  have hctrl : overlay message request layout.offsetofCtrlType = gpsoneLocApiIfRequest := by
    rw [overlay_of_length_le h]
    simp [request, place]
  have hzero : ∀ offset, layout.offsetofCtrlType < offset →
      fromBytes (slice (overlay message request) offset layout.sizeofEnum) = 0 := by
    intro offset hafter
    rw [slice_overlay_of_length_le (by omega), slice_place_of_le (Nat.succ_le_of_lt hafter),
      fromBytes_replicate_zero]
  have hsome : (layout.posts true (overlay message request)).isSome := by
    rw [posts_handle, if_pos hctrl]
    exact isSome_ifHandler ((hzero _ htype).trans_le (Nat.zero_le _))
      ((hzero _ (by omega)).trans_le (Nat.zero_le _))
  rw [hdetermined _ fun _ => 0, posts_handle, overlay_of_length_le h] at hsome
  cases hsome

/-- What the server posts for a message depends on nothing else exactly when it
received the fields that it reads. -/
theorem determined_posts_iff {locApiHandle : Bool} :
    Determined (layout.posts locApiHandle) message ↔
      layout.FieldsReceived locApiHandle message := by
  cases locApiHandle with
  | false =>
      refine ⟨fun _ hhandle => ?_, fun _ before other => ?_⟩
      · cases hhandle
      · rw [posts_no_handle, posts_no_handle]
  | true =>
      cases hctrl : message[layout.offsetofCtrlType]? with
      | none =>
          have hlength := List.getElem?_eq_none_iff.mp hctrl
          refine ⟨fun h => absurd h (not_determined_posts hlength), fun h => ?_⟩
          obtain ⟨ctrlType, hmem, -⟩ := h rfl
          rw [hctrl] at hmem
          cases hmem
      | some ctrlType =>
          have hposts : ∀ before, layout.posts true (overlay message before) =
              if ctrlType = gpsoneLocApiIfRequest then
                layout.ifHandler true (overlay message before)
              else if ctrlType = gpsoneLocApiIfRelease then
                layout.ifHandler false (overlay message before)
              else none := by
            intro before
            rw [posts_handle, overlay_of_getElem? hctrl]
          have hfields : layout.FieldsReceived true message ↔
              (ctrlType = gpsoneLocApiIfRequest ∨ ctrlType = gpsoneLocApiIfRelease →
                layout.RequestReceived message) := by
            simp [FieldsReceived, hctrl]
          rw [hfields, Determined]
          simp only [hposts]
          by_cases hrequest : ctrlType = gpsoneLocApiIfRequest
          · simp only [if_pos hrequest]
            exact determined_ifHandler_iff.trans (by simp [hrequest])
          · by_cases hrelease : ctrlType = gpsoneLocApiIfRelease
            · simp only [if_neg hrequest, if_pos hrelease]
              exact determined_ifHandler_iff.trans (by simp [hrelease])
            · simp [hrequest, hrelease]

end RequestLayout

end Serrano.LocEng.DmnConn
