/-! # The header of a response to the radio client

Every response function fills in the type, the serial number and the error that
come with the result, and reports a response that it cannot read as an error unless
the vendor has already reported one.
-/

namespace Serrano.Ril

inductive RadioResponseType
  | solicited
  | solicitedAckExp
  deriving DecidableEq

/-- An error of the vendor is passed on by its number. -/
inductive RadioError
  | errno (e : Int32)
  | invalidResponse
  deriving DecidableEq

structure RadioResponseInfo where
  type : RadioResponseType
  serial : Int32
  error : RadioError
  deriving DecidableEq

/-- `RIL_E_SUCCESS` -/
def rilESuccess : Int32 := 0

/-- `RESPONSE_SOLICITED_ACK_EXP` -/
def responseSolicitedAckExp : Int32 := 3

/-- The switch has no default, and the type is solicited from the start. -/
def populateResponseInfo (serial responseType e : Int32) : RadioResponseInfo where
  type := if responseType = responseSolicitedAckExp then .solicitedAckExp else .solicited
  serial := serial
  error := .errno e

/-- What becomes of the error when the response is invalid. -/
def RadioResponseInfo.invalid (info : RadioResponseInfo) (e : Int32) : RadioResponseInfo :=
  if e = rilESuccess then { info with error := .invalidResponse } else info

@[simp] theorem populateResponseInfo_error (serial responseType e : Int32) :
    (populateResponseInfo serial responseType e).error = .errno e := rfl

end Serrano.Ril
