import Mathlib.Data.List.TakeWhile
import Serrano.Ril.NitzTime

/-! # The string of an indication

The string of a network time is cut out of a duplicate of the response. What is
passed to the client refers to the duplicate, which is cleared and freed before the
call.
-/

namespace Serrano.Ril

/-- A response as a string that is not empty. -/
structure NitzResponse where
  chars : List UInt8
  ne_nil : chars ≠ []
  ne_zero : ∀ char ∈ chars, char ≠ 0

/-- The text in front of a comma, counted from 1 on, or all of it without such a comma. -/
def BeforeComma (count : Nat) (chars text : List UInt8) : Prop :=
  (∃ rest, chars = text ++ 44 :: rest ∧ text.count 44 + 1 = count) ∨
    text = chars ∧ chars.count 44 < count

def strlen (ptr : List UInt8) : Nat := (ptr.takeWhile (· ≠ 0)).length

/-- `MAX_STRING_LENGTH` -/
def maxStringLength : Nat := 4096

/-- What is found in a buffer after `memsetAndFreeStrings`. -/
def memsetAndFreeStrings (ptr : List UInt8) : List UInt8 :=
  let num := min (strlen ptr) maxStringLength
  List.replicate num 0 ++ ptr.drop num

/-- The argument of `nitzTimeReceived` when it is called. The string refers to the buffer, with the
length that the text had. -/
def nitzTimeReceivedInd (response : List UInt8) : List UInt8 :=
  let resp := nitzTime response ++ [0]
  let length := strlen resp
  (memsetAndFreeStrings resp).take length

theorem BeforeComma.cons_comma {count : Nat} {chars text : List UInt8}
    (h : BeforeComma count chars text) : BeforeComma (count + 1) (44 :: chars) (44 :: text) := by
  obtain ⟨rest, rfl, hcount⟩ | ⟨rfl, hcount⟩ := h
  · exact .inl ⟨rest, rfl, by rw [List.count_cons_self, hcount]⟩
  · exact .inr ⟨rfl, by rw [List.count_cons_self]; exact Nat.succ_lt_succ hcount⟩

theorem BeforeComma.cons_of_ne {count : Nat} {char : UInt8} {chars text : List UInt8}
    (h : BeforeComma count chars text) (hchar : char ≠ 44) :
    BeforeComma count (char :: chars) (char :: text) := by
  obtain ⟨rest, rfl, hcount⟩ | ⟨rfl, hcount⟩ := h
  · exact .inl ⟨rest, rfl, by rw [List.count_cons_of_ne hchar, hcount]⟩
  · exact .inr ⟨rfl, by rwa [List.count_cons_of_ne hchar]⟩

theorem beforeComma_upToComma (count : Nat) (chars : List UInt8) :
    BeforeComma (count + 1) chars (upToComma (count + 1) chars) := by
  induction chars generalizing count with
  | nil => exact .inr ⟨rfl, Nat.succ_pos count⟩
  | cons char rest ih =>
      rw [upToComma]
      split
      next hcomma =>
        subst hcomma
        cases count with
        | zero => exact .inl ⟨rest, rfl, rfl⟩
        | succ count =>
            rw [if_neg (Nat.succ_ne_zero count)]
            exact (ih count).cons_comma
      next hother => exact (ih count).cons_of_ne hother

namespace NitzResponse

variable (response : NitzResponse)

theorem nitzTime_eq :
    ∃ char rest, response.chars = char :: rest ∧
      nitzTime response.chars = char :: upToComma 3 rest := by
  obtain ⟨char, rest, hchars⟩ := List.exists_cons_of_ne_nil response.ne_nil
  refine ⟨char, rest, hchars, ?_⟩
  have hall : response.chars.takeWhile (· ≠ 0) = response.chars := by
    rw [List.takeWhile_eq_self_iff]
    intro c hc
    exact decide_eq_true (response.ne_zero c hc)
  rw [nitzTime, hall, hchars]

/-- The text that is cut out is the right one unless a comma in front is not counted. -/
theorem beforeComma_nitzTime_iff :
    BeforeComma 3 response.chars (nitzTime response.chars) ↔
      response.chars.head? ≠ some 44 ∨ response.chars.count 44 < 3 := by
  obtain ⟨char, rest, hchars, htime⟩ := response.nitzTime_eq
  have htext : BeforeComma 3 rest (upToComma 3 rest) := beforeComma_upToComma 2 rest
  rw [htime, hchars, List.head?_cons]
  by_cases hcomma : char = 44
  · subst hcomma
    rw [List.count_cons_self]
    constructor
    · rintro (⟨later, hrest, hcount⟩ | ⟨-, hcount⟩)
      · rw [List.count_cons_self] at hcount
        rw [List.cons_append, List.cons.injEq] at hrest
        obtain ⟨-, -, htwo⟩ | ⟨hsame, -⟩ := htext
        · omega
        · have hlength := congrArg List.length (hsame.trans hrest.2)
          rw [List.length_append, List.length_cons] at hlength
          omega
      · rw [List.count_cons_self] at hcount
        exact .inr hcount
    · rintro (hhead | hcount)
      · exact absurd rfl hhead
      · obtain ⟨later, hrest, htwo⟩ | ⟨hsame, -⟩ := htext
        · rw [hrest, List.count_append, List.count_cons_self] at hcount
          omega
        · rw [hsame]
          exact .inr ⟨rfl, by rwa [List.count_cons_self]⟩
  · refine iff_of_true (htext.cons_of_ne hcomma) (.inl fun hhead => ?_)
    exact hcomma (Option.some.inj hhead)

/-- The first character is cleared when the client is called. -/
theorem head_nitzTimeReceivedInd : (nitzTimeReceivedInd response.chars).head? = some 0 := by
  obtain ⟨char, rest, hchars, htime⟩ := response.nitzTime_eq
  have hchar : char ≠ 0 := response.ne_zero char (by rw [hchars]; exact List.mem_cons_self)
  have hlength : ∃ n, strlen (nitzTime response.chars ++ [0]) = n + 1 := by
    refine ⟨((upToComma 3 rest ++ [0]).takeWhile (· ≠ 0)).length, ?_⟩
    rw [strlen, htime, List.cons_append, List.takeWhile_cons, if_pos (decide_eq_true hchar),
      List.length_cons]
  obtain ⟨n, hn⟩ := hlength
  have hnum : ∃ k, min (n + 1) maxStringLength = k + 1 :=
    Nat.exists_eq_succ_of_ne_zero (by rw [maxStringLength]; omega)
  obtain ⟨k, hk⟩ := hnum
  rw [nitzTimeReceivedInd, memsetAndFreeStrings, hn, hk, List.replicate_succ, List.cons_append,
    List.take_succ_cons, List.head?_cons]

/-- The client never gets the text in front of the third comma. -/
theorem not_beforeComma_nitzTimeReceivedInd :
    ¬ BeforeComma 3 response.chars (nitzTimeReceivedInd response.chars) := by
  have hhead := response.head_nitzTimeReceivedInd
  cases harg : nitzTimeReceivedInd response.chars with
  | nil =>
      rw [harg] at hhead
      cases hhead
  | cons char text =>
      rw [harg, List.head?_cons, Option.some.injEq] at hhead
      subst hhead
      intro h
      -- the text would begin with what the response begins with
      have hmem : (0 : UInt8) ∈ response.chars := by
        obtain ⟨rest, hrest, -⟩ | ⟨hsame, -⟩ := h
        · rw [hrest]
          exact List.mem_cons_self
        · rw [← hsame]
          exact List.mem_cons_self
      exact response.ne_zero 0 hmem rfl

/-- For "5" the client gets a string with a zero in it. -/
theorem not_text_of_digit : ¬ BeforeComma 3 [53] (nitzTimeReceivedInd [53]) := by
  rintro (⟨rest, hrest, -⟩ | ⟨hsame, -⟩)
  · cases hrest
  · exact absurd hsame (by decide)

end NitzResponse

end Serrano.Ril
