import Mathlib.Algebra.Ring.Nat
import Mathlib.Data.List.Basic
import Mathlib.Tactic.SplitIfs

/-! # Messages in hexadecimal digits

The vendor sends the bytes of a message as pairs of hexadecimal digits, in either
case. All of them are converted, or none.
-/

namespace Serrano.Ril

/-- `INVALID_HEX_CHAR` -/
def invalidHexChar : UInt8 := 16

def hexCharToInt (c : UInt8) : UInt8 :=
  if 48 ≤ c ∧ c ≤ 57 then c - 48
  else if 65 ≤ c ∧ c ≤ 70 then c - 65 + 10
  else if 97 ≤ c ∧ c ≤ 102 then c - 97 + 10
  else invalidHexChar

/-- The loop over the pairs of digits. -/
def convertPairs : List UInt8 → Option (List UInt8)
  | c1 :: c2 :: rest =>
      if hexCharToInt c1 = invalidHexChar ∨ hexCharToInt c2 = invalidHexChar then none
      else (convertPairs rest).map ((hexCharToInt c1 <<< 4 ||| hexCharToInt c2) :: ·)
  | _ => some []

def convertHexStringToBytes (response : List UInt8) : Option (List UInt8) :=
  if response.length % 2 ≠ 0 then none else convertPairs response

/-- The message that the client gets, if any. -/
def newSmsInd (mRadioIndication : Bool) (response : Option (List UInt8)) : Option (List UInt8) :=
  if mRadioIndication then
    response.bind fun response =>
      if response.length = 0 then none else convertHexStringToBytes response
  else none

/-- A digit of the upper case. -/
def hexDigit (n : Nat) : UInt8 := UInt8.ofNat (if n < 10 then 48 + n else 55 + n)

/-- Two digits for each byte. -/
def hexEncode : List UInt8 → List UInt8
  | [] => []
  | b :: rest => hexDigit (b.toNat / 16) :: hexDigit (b.toNat % 16) :: hexEncode rest

def toUpper (c : UInt8) : UInt8 := if 97 ≤ c ∧ c ≤ 122 then c - 32 else c

/-- The digits are those of the bytes up to the case of each letter. -/
def Encodes (response bytes : List UInt8) : Prop := response.map toUpper = hexEncode bytes

def IsHexDigit (c : UInt8) : Prop :=
  (48 ≤ c ∧ c ≤ 57) ∨ (65 ≤ c ∧ c ≤ 70) ∨ (97 ≤ c ∧ c ≤ 102)

/-- A response is converted to the bytes that it encodes, if it encodes any, and they are
delivered unless there are none. -/
structure ConvertedBack (response : List UInt8) : Prop where
  accepted : (∃ bytes, convertHexStringToBytes response = some bytes) ↔
    2 ∣ response.length ∧ ∀ c ∈ response, IsHexDigit c
  encoded : ∀ bytes, convertHexStringToBytes response = some bytes ↔ Encodes response bytes
  length_eq : ∀ bytes, convertHexStringToBytes response = some bytes →
    2 * bytes.length = response.length
  unique : ∀ bytes other, convertHexStringToBytes response = some bytes →
    Encodes response other → other = bytes
  delivered : ∀ pdu, newSmsInd true (some response) = some pdu ↔
    Encodes response pdu ∧ pdu ≠ []

theorem toNat_hexDigit {n : Nat} (h : n < 16) :
    (hexDigit n).toNat = if n < 10 then 48 + n else 55 + n := by
  rw [hexDigit, UInt8.toNat_ofNat']
  split <;> omega

/-- The value of a digit, in numbers. -/
theorem toNat_hexCharToInt (c : UInt8) :
    (hexCharToInt c).toNat =
      if 48 ≤ c.toNat ∧ c.toNat ≤ 57 then c.toNat - 48
      else if 65 ≤ c.toNat ∧ c.toNat ≤ 70 then c.toNat - 55
      else if 97 ≤ c.toNat ∧ c.toNat ≤ 102 then c.toNat - 87
      else 16 := by
  have hc := c.toNat_lt
  simp only [hexCharToInt, UInt8.le_iff_toNat_le]
  change (if 48 ≤ c.toNat ∧ c.toNat ≤ 57 then c - 48
    else if 65 ≤ c.toNat ∧ c.toNat ≤ 70 then c - 65 + 10
    else if 97 ≤ c.toNat ∧ c.toNat ≤ 102 then c - 97 + 10
    else invalidHexChar).toNat = _
  split_ifs with hdigit hupper hlower
  · have hle : (48 : UInt8) ≤ c := UInt8.le_iff_toNat_le.mpr hdigit.1
    rw [UInt8.toNat_sub_of_le _ _ hle]
    rfl
  · have hle : (65 : UInt8) ≤ c := UInt8.le_iff_toNat_le.mpr hupper.1
    rw [UInt8.toNat_add, UInt8.toNat_sub_of_le _ _ hle]
    change (c.toNat - 65 + 10) % 256 = _
    omega
  · have hle : (97 : UInt8) ≤ c := UInt8.le_iff_toNat_le.mpr hlower.1
    rw [UInt8.toNat_add, UInt8.toNat_sub_of_le _ _ hle]
    change (c.toNat - 97 + 10) % 256 = _
    omega
  · rfl

theorem toNat_toUpper (c : UInt8) :
    (toUpper c).toNat = if 97 ≤ c.toNat ∧ c.toNat ≤ 122 then c.toNat - 32 else c.toNat := by
  simp only [toUpper, UInt8.le_iff_toNat_le]
  change (if 97 ≤ c.toNat ∧ c.toNat ≤ 122 then c - 32 else c).toNat = _
  split_ifs with hlower
  · have hle : (32 : UInt8) ≤ c :=
      UInt8.le_iff_toNat_le.mpr (Nat.le_trans (by decide) hlower.1)
    rw [UInt8.toNat_sub_of_le _ _ hle]
    rfl
  · rfl

/-- A character is the digit of a number, in either case, when that is its value. -/
theorem toUpper_eq_hexDigit_iff {n : Nat} (h : n < 16) (c : UInt8) :
    toUpper c = hexDigit n ↔ (hexCharToInt c).toNat = n := by
  rw [← UInt8.toNat_inj, toNat_hexDigit h, toNat_toUpper, toNat_hexCharToInt]
  split_ifs <;> omega

theorem hexCharToInt_eq_invalid_iff (c : UInt8) :
    hexCharToInt c = invalidHexChar ↔ ¬ IsHexDigit c := by
  rw [← UInt8.toNat_inj, toNat_hexCharToInt]
  simp only [IsHexDigit, UInt8.le_iff_toNat_le]
  change _ = 16 ↔ ¬ ((48 ≤ c.toNat ∧ c.toNat ≤ 57) ∨ (65 ≤ c.toNat ∧ c.toNat ≤ 70) ∨
    (97 ≤ c.toNat ∧ c.toNat ≤ 102))
  split_ifs <;> omega

theorem hexCharToInt_lt {c : UInt8} (h : hexCharToInt c ≠ invalidHexChar) :
    (hexCharToInt c).toNat < 16 := by
  have hne : (hexCharToInt c).toNat ≠ 16 := fun heq => h (UInt8.toNat_inj.mp heq)
  rw [toNat_hexCharToInt] at hne ⊢
  split_ifs at hne ⊢ <;> omega

/-- The two halves of a byte. -/
theorem toNat_shiftLeft_or {x y : UInt8} (hx : x.toNat < 16) (hy : y.toNat < 16) :
    (x <<< 4 ||| y).toNat = 16 * x.toNat + y.toNat := by
  have hshift : (x <<< 4).toNat = x.toNat <<< 4 := by
    rw [UInt8.toNat_shiftLeft]
    change x.toNat <<< 4 % 256 = _
    rw [Nat.shiftLeft_eq]
    omega
  rw [UInt8.toNat_or, hshift, ← Nat.shiftLeft_add_eq_or_of_lt hy, Nat.shiftLeft_eq]
  omega

theorem encodes_cons_cons {c1 c2 : UInt8} {rest bytes : List UInt8} :
    Encodes (c1 :: c2 :: rest) bytes ↔
      ∃ b tail, bytes = b :: tail ∧ (hexCharToInt c1).toNat = b.toNat / 16 ∧
        (hexCharToInt c2).toNat = b.toNat % 16 ∧ Encodes rest tail := by
  cases bytes with
  | nil =>
      refine iff_of_false (fun h => by cases h) ?_
      rintro ⟨b, tail, heq, -⟩
      cases heq
  | cons b tail =>
      have hb := b.toNat_lt
      rw [Encodes, hexEncode, List.map_cons, List.map_cons, List.cons.injEq, List.cons.injEq,
        toUpper_eq_hexDigit_iff (by omega), toUpper_eq_hexDigit_iff (by omega)]
      constructor
      · rintro ⟨h1, h2, hrest⟩
        exact ⟨b, tail, rfl, h1, h2, hrest⟩
      · rintro ⟨b', tail', heq, h1, h2, hrest⟩
        cases heq
        exact ⟨h1, h2, hrest⟩

/-- The pairs are converted to the bytes that they encode. -/
theorem convertPairs_eq_some_iff {response bytes : List UInt8} (heven : response.length % 2 = 0) :
    convertPairs response = some bytes ↔ Encodes response bytes := by
  induction response using convertPairs.induct generalizing bytes with
  | case1 c1 c2 rest hinvalid =>
      rw [convertPairs, if_pos hinvalid, encodes_cons_cons]
      refine iff_of_false (fun h => by cases h) ?_
      rintro ⟨b, tail, -, h1, h2, -⟩
      have hb := b.toNat_lt
      obtain hfirst | hsecond := hinvalid
      · rw [hfirst] at h1
        change 16 = _ at h1
        omega
      · rw [hsecond] at h2
        change 16 = _ at h2
        omega
  | case2 c1 c2 rest hvalid ih =>
      obtain ⟨hfirst, hsecond⟩ := not_or.mp hvalid
      have hbyte := toNat_shiftLeft_or (hexCharToInt_lt hfirst) (hexCharToInt_lt hsecond)
      have hlt := hexCharToInt_lt hsecond
      rw [convertPairs, if_neg hvalid, encodes_cons_cons, Option.map_eq_some_iff]
      simp only [List.length_cons] at heven
      constructor
      · rintro ⟨tail, htail, rfl⟩
        exact ⟨_, tail, rfl, by omega, by omega, (ih (by omega)).mp htail⟩
      · rintro ⟨b, tail, rfl, h1, h2, htail⟩
        refine ⟨tail, (ih (by omega)).mpr htail, ?_⟩
        have hsame : hexCharToInt c1 <<< 4 ||| hexCharToInt c2 = b := by
          apply UInt8.toNat_inj.mp
          omega
        rw [hsame]
  | case3 response hshort =>
      have hnil : response = [] := by
        rcases response with _ | ⟨c1, _ | ⟨c2, rest⟩⟩
        · rfl
        · cases heven
        · exact absurd rfl (hshort c1 c2 rest)
      subst hnil
      rw [convertPairs.eq_2 _ hshort, Option.some.injEq]
      cases bytes with
      | nil => exact iff_of_true rfl rfl
      | cons b tail => exact iff_of_false (fun h => by cases h) fun h => by cases h

theorem convertPairs_isSome_iff {response : List UInt8} (heven : response.length % 2 = 0) :
    (∃ bytes, convertPairs response = some bytes) ↔ ∀ c ∈ response, IsHexDigit c := by
  induction response using convertPairs.induct with
  | case1 c1 c2 rest hinvalid =>
      rw [convertPairs, if_pos hinvalid]
      refine iff_of_false (fun ⟨_, h⟩ => by cases h) fun hall => ?_
      obtain hfirst | hsecond := hinvalid
      · exact (hexCharToInt_eq_invalid_iff c1).mp hfirst (hall c1 List.mem_cons_self)
      · exact (hexCharToInt_eq_invalid_iff c2).mp hsecond
          (hall c2 (List.mem_cons_of_mem c1 List.mem_cons_self))
  | case2 c1 c2 rest hvalid ih =>
      obtain ⟨hfirst, hsecond⟩ := not_or.mp hvalid
      rw [hexCharToInt_eq_invalid_iff, not_not] at hfirst hsecond
      simp only [List.length_cons] at heven
      rw [convertPairs, if_neg hvalid]
      simp only [List.forall_mem_cons, hfirst, hsecond, true_and]
      rw [← ih (by omega)]
      constructor
      · rintro ⟨bytes, hbytes⟩
        obtain ⟨tail, htail, -⟩ := Option.map_eq_some_iff.mp hbytes
        exact ⟨tail, htail⟩
      · rintro ⟨tail, htail⟩
        exact ⟨_, Option.map_eq_some_iff.mpr ⟨tail, htail, rfl⟩⟩
  | case3 response hshort =>
      rcases response with _ | ⟨c1, _ | ⟨c2, rest⟩⟩
      · exact iff_of_true ⟨[], rfl⟩ fun c hc => by cases hc
      · cases heven
      · exact absurd rfl (hshort c1 c2 rest)

theorem length_hexEncode (bytes : List UInt8) : (hexEncode bytes).length = 2 * bytes.length := by
  induction bytes with
  | nil => rfl
  | cons b rest ih => rw [hexEncode, List.length_cons, List.length_cons, ih, List.length_cons]; rfl

theorem length_of_encodes {response bytes : List UInt8} (h : Encodes response bytes) :
    response.length = 2 * bytes.length := by
  rw [← length_hexEncode, ← h, List.length_map]

theorem convertHexStringToBytes_eq_some_iff {response bytes : List UInt8} :
    convertHexStringToBytes response = some bytes ↔ Encodes response bytes := by
  rw [convertHexStringToBytes]
  by_cases heven : response.length % 2 = 0
  · rw [if_neg (not_not.mpr heven), convertPairs_eq_some_iff heven]
  · rw [if_pos heven]
    refine iff_of_false (fun h => by cases h) fun h => ?_
    have hlength := length_of_encodes h
    omega

/-- Every response, of any length, in digits of either case or anything else. -/
theorem convertedBack (response : List UInt8) : ConvertedBack response where
  accepted := by
    rw [convertHexStringToBytes, Nat.dvd_iff_mod_eq_zero]
    by_cases heven : response.length % 2 = 0
    · rw [if_neg (not_not.mpr heven), convertPairs_isSome_iff heven]
      exact (and_iff_right heven).symm
    · rw [if_pos heven]
      exact iff_of_false (fun ⟨_, h⟩ => by cases h) fun h => heven h.1
  encoded _ := convertHexStringToBytes_eq_some_iff
  length_eq bytes h :=
    (length_of_encodes (convertHexStringToBytes_eq_some_iff.mp h)).symm
  unique bytes other h hother := by
    rw [← convertHexStringToBytes_eq_some_iff, h] at hother
    exact (Option.some.inj hother).symm
  delivered pdu := by
    rw [newSmsInd, if_pos rfl, Option.bind_some]
    split
    next hzero =>
      refine iff_of_false (fun h => by cases h) fun ⟨hencodes, hne⟩ => hne ?_
      have hlength := length_of_encodes hencodes
      exact List.length_eq_zero_iff.mp (by omega)
    next hpos =>
      rw [convertHexStringToBytes_eq_some_iff]
      refine ⟨fun hencodes => ⟨hencodes, ?_⟩, And.left⟩
      rintro rfl
      exact hpos (length_of_encodes hencodes)

/-- A message without a byte is encoded by a response without a digit, which is not accepted. -/
theorem empty_pdu_not_delivered : Encodes [] [] ∧ newSmsInd true (some []) ≠ some [] :=
  ⟨rfl, by decide⟩

end Serrano.Ril
