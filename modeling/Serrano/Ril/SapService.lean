import Mathlib.Algebra.Ring.Nat
import Serrano.Foundation.Fallible
import Serrano.Foundation.Lifetime

/-! # SAP requests from the client to its answer

Every request is encoded, wrapped and handed to the vendor library, and its header is
kept until the library completes it; the rest is freed by the sender as soon as it
has handed the request over. The completion may run at any time from then on. What
is allocated, read, written and freed is recorded, with what the library and the
client are given.
-/

namespace Serrano.Ril

/-- The messages that are requests. -/
inductive MsgId
  | RIL_SIM_SAP_CONNECT
  | RIL_SIM_SAP_DISCONNECT
  | RIL_SIM_SAP_APDU
  | RIL_SIM_SAP_TRANSFER_ATR
  | RIL_SIM_SAP_POWER
  | RIL_SIM_SAP_RESET_SIM
  | RIL_SIM_SAP_TRANSFER_CARD_READER_STATUS
  | RIL_SIM_SAP_SET_TRANSFER_PROTOCOL
  deriving DecidableEq

/-- The requests of a client, as they are encoded. -/
inductive SapRequest
  | connectReq (max_message_size : Int)
  | disconnectReq
  | apduReq (type : Int) (command : List UInt8)
  | transferAtrReq
  | powerReq (state : Bool)
  | resetSimReq
  | transferCardReaderStatusReq
  | setTransferProtocolReq (protocol : Int)
  deriving DecidableEq

def SapRequest.msgId : SapRequest → MsgId
  | connectReq _ => .RIL_SIM_SAP_CONNECT
  | disconnectReq => .RIL_SIM_SAP_DISCONNECT
  | apduReq .. => .RIL_SIM_SAP_APDU
  | transferAtrReq => .RIL_SIM_SAP_TRANSFER_ATR
  | powerReq _ => .RIL_SIM_SAP_POWER
  | resetSimReq => .RIL_SIM_SAP_RESET_SIM
  | transferCardReaderStatusReq => .RIL_SIM_SAP_TRANSFER_CARD_READER_STATUS
  | setTransferProtocolReq _ => .RIL_SIM_SAP_SET_TRANSFER_PROTOCOL

/-- The errors in the responses of the vendor library; no response has all of them. -/
inductive SapResponseCode
  | RIL_E_SUCCESS
  | RIL_E_GENERIC_FAILURE
  | RIL_E_SIM_NOT_READY
  | RIL_E_SIM_ALREADY_POWERED_OFF
  | RIL_E_SIM_ALREADY_POWERED_ON
  | RIL_E_SIM_ABSENT
  | RIL_E_SIM_DATA_NOT_AVAILABLE
  | other
  deriving DecidableEq

inductive SapResultCode
  | SUCCESS
  | GENERIC_FAILURE
  | CARD_NOT_ACCESSSIBLE
  | CARD_ALREADY_POWERED_OFF
  | CARD_ALREADY_POWERED_ON
  | CARD_REMOVED
  | DATA_NOT_AVAILABLE
  | NOT_SUPPORTED
  deriving DecidableEq

/-- What a connection request is answered with; the number of a decoded response is
taken over as it is. -/
inductive SapConnectRsp
  | CONNECT_FAILURE
  | ofResponse (response : Int)
  deriving DecidableEq

/-- The messages that responses are decoded into. -/
abbrev SapRsp : MsgId → Type
  | .RIL_SIM_SAP_CONNECT => Int × Int
  | .RIL_SIM_SAP_DISCONNECT => Unit
  | .RIL_SIM_SAP_APDU | .RIL_SIM_SAP_TRANSFER_ATR => SapResponseCode × List UInt8
  | .RIL_SIM_SAP_POWER | .RIL_SIM_SAP_RESET_SIM | .RIL_SIM_SAP_SET_TRANSFER_PROTOCOL =>
      SapResponseCode
  | .RIL_SIM_SAP_TRANSFER_CARD_READER_STATUS => SapResponseCode × Int

/-- The calls of the client's callback. -/
inductive SapResponse
  | connectResponse (token : Int) (sapConnectRsp : SapConnectRsp) (maxMsgSize : Int)
  | disconnectResponse (token : Int)
  | apduResponse (token : Int) (resultCode : SapResultCode) (apduRsp : List UInt8)
  | transferAtrResponse (token : Int) (resultCode : SapResultCode) (atr : List UInt8)
  | powerResponse (token : Int) (resultCode : SapResultCode)
  | resetSimResponse (token : Int) (resultCode : SapResultCode)
  | transferCardReaderStatusResponse (token : Int) (resultCode : SapResultCode)
      (cardReaderStatus : Int)
  | transferProtocolResponse (token : Int) (resultCode : SapResultCode)
  deriving DecidableEq

/-- The kind of request that a response is one to, and its token. -/
def SapResponse.answers : SapResponse → MsgId × Int
  | connectResponse token .. => (.RIL_SIM_SAP_CONNECT, token)
  | disconnectResponse token => (.RIL_SIM_SAP_DISCONNECT, token)
  | apduResponse token .. => (.RIL_SIM_SAP_APDU, token)
  | transferAtrResponse token .. => (.RIL_SIM_SAP_TRANSFER_ATR, token)
  | powerResponse token _ => (.RIL_SIM_SAP_POWER, token)
  | resetSimResponse token _ => (.RIL_SIM_SAP_RESET_SIM, token)
  | transferCardReaderStatusResponse token .. => (.RIL_SIM_SAP_TRANSFER_CARD_READER_STATUS, token)
  | transferProtocolResponse token _ => (.RIL_SIM_SAP_SET_TRANSFER_PROTOCOL, token)

def convertApduResponseProtoToHal : SapResponseCode → SapResultCode
  | .RIL_E_SUCCESS => .SUCCESS
  | .RIL_E_GENERIC_FAILURE => .GENERIC_FAILURE
  | .RIL_E_SIM_NOT_READY => .CARD_NOT_ACCESSSIBLE
  | .RIL_E_SIM_ALREADY_POWERED_OFF => .CARD_ALREADY_POWERED_OFF
  | .RIL_E_SIM_ABSENT => .CARD_REMOVED
  | _ => .GENERIC_FAILURE

def convertTransferAtrResponseProtoToHal : SapResponseCode → SapResultCode
  | .RIL_E_SUCCESS => .SUCCESS
  | .RIL_E_GENERIC_FAILURE => .GENERIC_FAILURE
  | .RIL_E_SIM_ALREADY_POWERED_OFF => .CARD_ALREADY_POWERED_OFF
  | .RIL_E_SIM_ABSENT => .CARD_REMOVED
  | .RIL_E_SIM_DATA_NOT_AVAILABLE => .DATA_NOT_AVAILABLE
  | _ => .GENERIC_FAILURE

def convertPowerResponseProtoToHal : SapResponseCode → SapResultCode
  | .RIL_E_SUCCESS => .SUCCESS
  | .RIL_E_GENERIC_FAILURE => .GENERIC_FAILURE
  | .RIL_E_SIM_ABSENT => .CARD_REMOVED
  | .RIL_E_SIM_ALREADY_POWERED_OFF => .CARD_ALREADY_POWERED_OFF
  | .RIL_E_SIM_ALREADY_POWERED_ON => .CARD_ALREADY_POWERED_ON
  | _ => .GENERIC_FAILURE

def convertResetSimResponseProtoToHal : SapResponseCode → SapResultCode
  | .RIL_E_SUCCESS => .SUCCESS
  | .RIL_E_GENERIC_FAILURE => .GENERIC_FAILURE
  | .RIL_E_SIM_ABSENT => .CARD_REMOVED
  | .RIL_E_SIM_NOT_READY => .CARD_NOT_ACCESSSIBLE
  | .RIL_E_SIM_ALREADY_POWERED_OFF => .CARD_ALREADY_POWERED_OFF
  | _ => .GENERIC_FAILURE

def convertTransferCardReaderStatusResponseProtoToHal : SapResponseCode → SapResultCode
  | .RIL_E_SUCCESS => .SUCCESS
  | .RIL_E_GENERIC_FAILURE => .GENERIC_FAILURE
  | .RIL_E_SIM_DATA_NOT_AVAILABLE => .DATA_NOT_AVAILABLE
  | _ => .GENERIC_FAILURE

/-- What a request and its completion allocate. -/
inductive SapObject
  | msg
  | command
  | buffer
  | payload
  | currRequest
  | rspPayload
  | responsePtr
  deriving DecidableEq

/-- What the vendor library and the client are given. -/
inductive SapEvent
  | onRequest (id : MsgId) (bytes : List UInt8)
  | respond (response : SapResponse)
  deriving DecidableEq

abbrev SapOp := Lifetime.Op SapObject SapEvent

/-- The protobuf library, which encodes requests and decodes responses, and the values
that fit into its `pb_size_t`. -/
structure Protobuf where
  encode : SapRequest → List UInt8
  decode : (id : MsgId) → List UInt8 → Option (SapRsp id)
  pb_size_t : Nat

/-- Which allocations succeed, whether the size and the encoding of the request are
found, and whether there is a socket and a vendor library. -/
structure SapChoices where
  allocates : SapObject → Bool
  pb_get_encoded_size : Bool
  pb_encode : Bool
  sapSocket : Bool
  uimFuncs : Bool

/-- A computation that may return early and leaves what was done. -/
abbrev Sap := Fallible (List SapOp)

namespace Sap

variable (p : Protobuf) (choices : SapChoices)

def emit (op : SapOp) : Sap Unit := .change fun done => done ++ [op]

def use (object : SapObject) : Sap Unit := emit (.use object)

def free (object : SapObject) : Sap Unit := emit (.free object)

/-- `malloc` or `calloc`, with whether it succeeds. -/
def malloc (object : SapObject) : Sap Bool :=
  if choices.allocates object then do
    emit (.alloc object)
    pure true
  else pure false

def freeAll : List SapObject → Sap Unit
  | [] => pure ()
  | object :: rest => do
      free object
      freeAll rest

/-- The failure that the client is told of. -/
def failure (token : Int) : MsgId → SapResponse
  | .RIL_SIM_SAP_CONNECT => .connectResponse token .CONNECT_FAILURE 0
  | .RIL_SIM_SAP_DISCONNECT => .disconnectResponse token
  | .RIL_SIM_SAP_APDU => .apduResponse token .GENERIC_FAILURE []
  | .RIL_SIM_SAP_TRANSFER_ATR => .transferAtrResponse token .GENERIC_FAILURE []
  | .RIL_SIM_SAP_POWER => .powerResponse token .GENERIC_FAILURE
  | .RIL_SIM_SAP_RESET_SIM => .resetSimResponse token .GENERIC_FAILURE
  | .RIL_SIM_SAP_TRANSFER_CARD_READER_STATUS =>
      .transferCardReaderStatusResponse token .GENERIC_FAILURE 0
  | .RIL_SIM_SAP_SET_TRANSFER_PROTOCOL => .transferProtocolResponse token .NOT_SUPPORTED

/-- `sendFailedResponse` with the pointers that are not null. -/
def sendFailedResponse (msgId : MsgId) (token : Int) (pointers : List SapObject) : Sap Unit := do
  freeAll pointers
  emit (.event (.respond (failure token msgId)))

/-- A failed response and an early return. -/
def returnFailed {α : Type} (msgId : MsgId) (token : Int) (pointers : List SapObject) : Sap α := do
  sendFailedResponse msgId token pointers
  .stop

/-- `dispatchRequest`, with whether the vendor library has the request. -/
def dispatchRequest (msgId : MsgId) (payload : List UInt8) : Sap Bool := do
  if !(← malloc choices .currRequest) then
    free .msg
    pure false
  else
    use .msg
    use .currRequest
    if choices.uimFuncs then
      use .msg
      use .payload
      emit (.event (.onRequest msgId (payload.take (payload.length % p.pb_size_t))))
      pure true
    else pure false

/-- `addPayloadAndDispatchRequest` up to the end of `dispatchRequest`. The length is a
`uint16_t`. -/
def addPayloadAndDispatchRequest (msgId : MsgId) (token : Int) (bytes_written : Nat)
    (reqPtr : List UInt8) : Sap Bool := do
  let reqLen := bytes_written % 2 ^ 16
  if !(← malloc choices .payload) then
    use .msg
    returnFailed msgId token [.buffer, .msg]
  else
    use .msg
    use .payload
    use .buffer
    if choices.sapSocket then dispatchRequest p choices msgId (reqPtr.take reqLen)
    else
      use .msg
      returnFailed msgId token [.payload, .buffer, .msg]

/-- What `addPayloadAndDispatchRequest` does after `dispatchRequest`. -/
def afterDispatch : List SapOp :=
  [.use .msg, .free .payload, .free .buffer]

/-- What all requests do. Those with a command allocate it, and they free it with the
header when they fail. -/
def sendRequest (request : SapRequest) (token : Int) (command : Option (List UInt8)) :
    Sap Bool := do
  if !(← malloc choices .msg) then returnFailed request.msgId token []
  else
    use .msg
    if command.isSome then
      if !(← malloc choices .command) then returnFailed request.msgId token [.msg]
      else use .command
    else pure ()
    let held := if command.isSome then [SapObject.command] else []
    if choices.pb_get_encoded_size = false then
      returnFailed request.msgId token (held ++ [.msg])
    else if !(← malloc choices .buffer) then returnFailed request.msgId token (held ++ [.msg])
    else
      use .buffer
      if choices.pb_encode = false then
        returnFailed request.msgId token (held ++ [.buffer, .msg])
      else
        let encoded := p.encode request
        addPayloadAndDispatchRequest p choices request.msgId token encoded.length encoded

def connectReq (token maxMsgSize : Int) : Sap Bool :=
  sendRequest p choices (.connectReq maxMsgSize) token none

def disconnectReq (token : Int) : Sap Bool := sendRequest p choices .disconnectReq token none

/-- The size of the command is stored in a `pb_size_t`, and as many bytes are encoded. -/
def apduReq (token type : Int) (command : List UInt8) : Sap Bool :=
  sendRequest p choices (.apduReq type (command.take (command.length % p.pb_size_t))) token
    (if command.length > 0 then some command else none)

def transferAtrReq (token : Int) : Sap Bool := sendRequest p choices .transferAtrReq token none

def powerReq (token : Int) (state : Bool) : Sap Bool :=
  sendRequest p choices (.powerReq state) token none

def resetSimReq (token : Int) : Sap Bool := sendRequest p choices .resetSimReq token none

def transferCardReaderStatusReq (token : Int) : Sap Bool :=
  sendRequest p choices .transferCardReaderStatusReq token none

def setTransferProtocolReq (token transferProtocol : Int) : Sap Bool :=
  sendRequest p choices (.setTransferProtocolReq transferProtocol) token none

/-- The call that a client makes. -/
def call (token : Int) : SapRequest → Sap Bool
  | .connectReq maxMsgSize => connectReq p choices token maxMsgSize
  | .disconnectReq => disconnectReq p choices token
  | .apduReq type command => apduReq p choices token type command
  | .transferAtrReq => transferAtrReq p choices token
  | .powerReq state => powerReq p choices token state
  | .resetSimReq => resetSimReq p choices token
  | .transferCardReaderStatusReq => transferCardReaderStatusReq p choices token
  | .setTransferProtocolReq transferProtocol =>
      setTransferProtocolReq p choices token transferProtocol

/-- `sapDecodeMessage`; the message is not freed when it cannot be decoded. -/
def sapDecodeMessage (msgId : MsgId) (payload : List UInt8) : Sap (Option (SapRsp msgId)) := do
  if ← malloc choices .responsePtr then pure (p.decode msgId payload)
  else pure none

/-- The response that a decoded message is converted to. -/
def convert (token : Int) : (msgId : MsgId) → SapRsp msgId → SapResponse
  | .RIL_SIM_SAP_CONNECT, (response, max_message_size) =>
      .connectResponse token (.ofResponse response) max_message_size
  | .RIL_SIM_SAP_DISCONNECT, _ => .disconnectResponse token
  | .RIL_SIM_SAP_APDU, (response, apduResponse) =>
      .apduResponse token (convertApduResponseProtoToHal response) apduResponse
  | .RIL_SIM_SAP_TRANSFER_ATR, (response, atr) =>
      .transferAtrResponse token (convertTransferAtrResponseProtoToHal response) atr
  | .RIL_SIM_SAP_POWER, response =>
      .powerResponse token (convertPowerResponseProtoToHal response)
  | .RIL_SIM_SAP_RESET_SIM, response =>
      .resetSimResponse token (convertResetSimResponseProtoToHal response)
  | .RIL_SIM_SAP_TRANSFER_CARD_READER_STATUS, (response, CardReaderStatus) =>
      .transferCardReaderStatusResponse token
        (convertTransferCardReaderStatusResponseProtoToHal response) CardReaderStatus
  | .RIL_SIM_SAP_SET_TRANSFER_PROTOCOL, response =>
      .transferProtocolResponse token
        (if response = SapResponseCode.RIL_E_SUCCESS then .SUCCESS else .NOT_SUPPORTED)

/-- `processResponse` for a request, with a client that has a callback. -/
def processResponse (msgId : MsgId) (token : Int) (payload : List UInt8) : Sap Unit := do
  use .rspPayload
  match ← sapDecodeMessage p choices msgId payload with
  | none => sendFailedResponse msgId token []
  | some message => emit (.event (.respond (convert token msgId message)))

/-- `sOnRequestComplete` and `onRequestComplete` for the only request in the queue. -/
def onRequestComplete (msgId : MsgId) (token : Int) (response : List UInt8) : Sap Unit := do
  use .currRequest
  use .msg
  if ← malloc choices .rspPayload then
    use .rspPayload
    processResponse p choices msgId token (response.take (response.length % p.pb_size_t))
    free .rspPayload
  else pure ()
  use .msg
  use .currRequest
  free .currRequest
  free .msg

/-- All that is done for a request, which the library answers with `response` as soon and
as fast as the schedule has it. -/
def run (request : SapRequest) (token : Int) (response : List UInt8) (schedule : List Bool) :
    List SapOp :=
  match call p choices token request [] with
  | (none, done) => done
  | (some handed, done) =>
      done ++ Lifetime.interleave schedule afterDispatch
        (if handed then (onRequestComplete p choices request.msgId token response []).2 else [])

end Sap

end Serrano.Ril
