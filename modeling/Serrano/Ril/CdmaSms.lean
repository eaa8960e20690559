import Serrano.Foundation.CountedArray

/-! # CDMA messages

A message of the framework has three sequences of bytes, for which the structure of
the vendor has three arrays with a length each. The sizes of the arrays and the
types of the lengths are those of a header of the platform.
-/

namespace Serrano.Ril

/-- The three arrays. -/
structure CdmaSmsHeader where
  address : CountField
  subaddress : CountField
  bearerData : CountField

structure CdmaSmsAddress where
  digitMode : Int32
  numberMode : Int32
  numberType : Int32
  numberPlan : Int32
  digits : List UInt8
  deriving DecidableEq

structure CdmaSmsSubaddress where
  subaddressType : Int32
  odd : Bool
  digits : List UInt8
  deriving DecidableEq

structure CdmaSmsMessage where
  teleserviceId : Int32
  isServicePresent : Bool
  serviceCategory : Int32
  address : CdmaSmsAddress
  subAddress : CdmaSmsSubaddress
  bearerData : List UInt8
  deriving DecidableEq

/-- The number and the array of the digits are one field. -/
structure RilCdmaSmsAddress where
  digit_mode : Int32
  number_mode : Int32
  number_type : Int32
  number_plan : Int32
  digits : CountedArray UInt8

structure RilCdmaSmsSubaddress where
  subaddressType : Int32
  odd : UInt8
  digits : CountedArray UInt8

structure RilCdmaSmsMessage where
  uTeleserviceID : Int32
  bIsServicePresent : UInt8
  uServicecategory : Int32
  sAddress : RilCdmaSmsAddress
  sSubAddress : RilCdmaSmsSubaddress
  aBearerData : CountedArray UInt8

/-- `BOOL_TO_INT` -/
def boolToInt (x : Bool) : UInt8 := if x then 1 else 0

variable (header : CdmaSmsHeader)

/-- The structure is filled with zeros before. -/
def constructCdmaSms (sms : CdmaSmsMessage) : RilCdmaSmsMessage where
  uTeleserviceID := sms.teleserviceId
  bIsServicePresent := boolToInt sms.isServicePresent
  uServicecategory := sms.serviceCategory
  sAddress :=
    { digit_mode := sms.address.digitMode
      number_mode := sms.address.numberMode
      number_type := sms.address.numberType
      number_plan := sms.address.numberPlan
      digits := header.address.fill 0 sms.address.digits }
  sSubAddress :=
    { subaddressType := sms.subAddress.subaddressType
      odd := boolToInt sms.subAddress.odd
      digits := header.subaddress.fill 0 sms.subAddress.digits }
  aBearerData := header.bearerData.fill 0 sms.bearerData

/-- The message that is indicated. -/
def cdmaNewSmsInd (rilMsg : RilCdmaSmsMessage) : Option CdmaSmsMessage :=
  (header.address.refer rilMsg.sAddress.digits).bind fun addressDigits =>
  (header.subaddress.refer rilMsg.sSubAddress.digits).bind fun subaddressDigits =>
  (header.bearerData.refer rilMsg.aBearerData).map fun bearerData =>
    { teleserviceId := rilMsg.uTeleserviceID
      isServicePresent := rilMsg.bIsServicePresent != 0
      serviceCategory := rilMsg.uServicecategory
      address :=
        { digitMode := rilMsg.sAddress.digit_mode
          numberMode := rilMsg.sAddress.number_mode
          numberType := rilMsg.sAddress.number_type
          numberPlan := rilMsg.sAddress.number_plan
          digits := addressDigits }
      subAddress :=
        { subaddressType := rilMsg.sSubAddress.subaddressType
          odd := rilMsg.sSubAddress.odd != 0
          digits := subaddressDigits }
      bearerData := bearerData }

namespace CdmaSmsMessage

variable (sms : CdmaSmsMessage)

/-- Each sequence up to the size of its array. -/
def truncate : CdmaSmsMessage :=
  { sms with
    address := { sms.address with digits := sms.address.digits.take header.address.max }
    subAddress :=
      { sms.subAddress with digits := sms.subAddress.digits.take header.subaddress.max }
    bearerData := sms.bearerData.take header.bearerData.max }

structure WithinLimits : Prop where
  address : sms.address.digits.length ≤ header.address.max
  subaddress : sms.subAddress.digits.length ≤ header.subaddress.max
  bearerData : sms.bearerData.length ≤ header.bearerData.max

/-- The structure describes no more than its arrays and stands for the truncated message. -/
structure Represented : Prop where
  address_le : (constructCdmaSms header sms).sAddress.digits.stated ≤ header.address.max
  subaddress_le : (constructCdmaSms header sms).sSubAddress.digits.stated ≤ header.subaddress.max
  bearerData_le : (constructCdmaSms header sms).aBearerData.stated ≤ header.bearerData.max
  back : cdmaNewSmsInd header (constructCdmaSms header sms) = some (sms.truncate header)
  unchanged : sms.WithinLimits header →
    cdmaNewSmsInd header (constructCdmaSms header sms) = some sms

/-- The field of each length keeps it or cuts it to the limit. -/
structure Kept : Prop where
  address : header.address.Keeps sms.address.digits.length
  subaddress : header.subaddress.Keeps sms.subAddress.digits.length
  bearerData : header.bearerData.Keeps sms.bearerData.length

end CdmaSmsMessage

theorem boolToInt_bne_zero (x : Bool) : (boolToInt x != 0) = x := by
  cases x with
  | false => rfl
  | true => rfl

theorem truncate_of_withinLimits {header : CdmaSmsHeader} {sms : CdmaSmsMessage}
    (h : sms.WithinLimits header) : sms.truncate header = sms := by
  rw [CdmaSmsMessage.truncate, List.take_of_length_le h.address,
    List.take_of_length_le h.subaddress, List.take_of_length_le h.bearerData]

/-- The message comes back with the three sequences that can be referred to. -/
theorem cdmaNewSmsInd_constructCdmaSms (sms : CdmaSmsMessage) :
    cdmaNewSmsInd header (constructCdmaSms header sms) =
      (header.address.refer (header.address.fill 0 sms.address.digits)).bind fun addressDigits =>
      (header.subaddress.refer (header.subaddress.fill 0 sms.subAddress.digits)).bind
        fun subaddressDigits =>
      (header.bearerData.refer (header.bearerData.fill 0 sms.bearerData)).map fun bearerData =>
        { sms with
          address := { sms.address with digits := addressDigits }
          subAddress := { sms.subAddress with digits := subaddressDigits }
          bearerData := bearerData } := by
  simp only [cdmaNewSmsInd, constructCdmaSms, boolToInt_bne_zero]

/-- A message is represented exactly when the fields of its lengths keep them. -/
theorem represented_iff_kept (sms : CdmaSmsMessage) :
    sms.Represented header ↔ sms.Kept header := by
  constructor
  · intro h
    have hback := h.back
    rw [cdmaNewSmsInd_constructCdmaSms] at hback
    obtain ⟨addressDigits, haddress, hback⟩ := Option.bind_eq_some_iff.mp hback
    obtain ⟨subaddressDigits, hsubaddress, hback⟩ := Option.bind_eq_some_iff.mp hback
    obtain ⟨bearerData, hbearer, hmessage⟩ := Option.map_eq_some_iff.mp hback
    cases hmessage
    constructor
    · exact (header.address.fill_iff_keeps 0).mp ⟨h.address_le, haddress⟩
    · exact (header.subaddress.fill_iff_keeps 0).mp ⟨h.subaddress_le, hsubaddress⟩
    · exact (header.bearerData.fill_iff_keeps 0).mp ⟨h.bearerData_le, hbearer⟩
  · intro h
    obtain ⟨haddress, hdigits⟩ := (header.address.fill_iff_keeps 0).mpr h.address
    obtain ⟨hsubaddress, hsubdigits⟩ := (header.subaddress.fill_iff_keeps 0).mpr h.subaddress
    obtain ⟨hbearer, hdata⟩ := (header.bearerData.fill_iff_keeps 0).mpr h.bearerData
    have hback : cdmaNewSmsInd header (constructCdmaSms header sms) =
        some (sms.truncate header) := by
      rw [cdmaNewSmsInd_constructCdmaSms, hdigits, hsubdigits, hdata]
      rfl
    refine ⟨haddress, hsubaddress, hbearer, hback, fun hlimits => ?_⟩
    rw [hback, truncate_of_withinLimits hlimits]

/-- The lengths of the digits are of type `unsigned char`, that of the data is an `int`. -/
def platformHeader : CdmaSmsHeader where
  address := .unsignedChar 36 (by decide)
  subaddress := .unsignedChar 36 (by decide)
  bearerData := .int 255 (by decide)

/-- For 37 digits the structure states 37, one more than it has. -/
theorem not_represented_digits :
    ¬ (CdmaSmsMessage.mk 0 false 0 ⟨0, 0, 0, 0, List.replicate 37 0⟩ ⟨0, false, []⟩
      []).Represented platformHeader := by
  intro h
  have hstated := h.address_le
  revert hstated
  decide

end Serrano.Ril
