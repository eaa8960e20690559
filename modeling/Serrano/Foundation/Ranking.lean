import Mathlib.Data.Multiset.AddSub

/-! # Pools of ranked elements

A comparison callback answers by the sign of an integer. When its answers form
a total preorder it is a ranking. A pool is a multiset of elements; the
operations of a priority queue are described on pools by what they answer and
what they leave behind.
-/

namespace Priority

universe u

/-- A comparison by sign: positive when the first element ranks higher. -/
structure Ranking (α : Type u) where
  ranks : α → α → Int
  pos_iff_neg : ∀ a b, 0 < ranks a b ↔ ranks b a < 0
  nonneg_trans : ∀ a b c, 0 ≤ ranks a b → 0 ≤ ranks b c → 0 ≤ ranks a c

/-- The operations of a priority queue. -/
inductive Operation (α : Type u)
  | push (a : α)
  | peek
  | pop
  | remove (a : α)
  deriving DecidableEq, Repr

namespace Ranking

variable {α : Type u} (ranking : Ranking α)

/-- Ranks strictly higher. -/
def outRanks (a b : α) : Prop := 0 < ranking.ranks a b

instance (a b : α) : Decidable (ranking.outRanks a b) :=
  inferInstanceAs (Decidable (0 < ranking.ranks a b))

/-- No member of the pool ranks higher. -/
def Unbeaten (pool : Multiset α) (a : α) : Prop := ∀ b ∈ pool, ¬ ranking.outRanks b a

/-- What an operation may answer on a pool, and the pool it leaves. Among the
unbeaten members any one may be answered. -/
inductive Serves : Multiset α → Operation α → Option α → Multiset α → Prop
  | push (pool : Multiset α) (a : α) : Serves pool (.push a) none (a ::ₘ pool)
  | peekEmpty : Serves 0 .peek none 0
  | peek {pool : Multiset α} {a : α} (hmem : a ∈ pool) (htop : ranking.Unbeaten pool a) :
      Serves pool .peek (some a) pool
  | popEmpty : Serves 0 .pop none 0
  | pop {rest : Multiset α} {a : α} (htop : ranking.Unbeaten (a ::ₘ rest) a) :
      Serves (a ::ₘ rest) .pop (some a) rest
  | removeAbsent {pool : Multiset α} {a : α} (habsent : a ∉ pool) :
      Serves pool (.remove a) none pool
  | remove (rest : Multiset α) (a : α) : Serves (a ::ₘ rest) (.remove a) (some a) rest

theorem outRanks_iff_neg {a b : α} : ranking.outRanks a b ↔ ranking.ranks b a < 0 :=
  ranking.pos_iff_neg a b

theorem not_outRanks_iff_nonneg {a b : α} :
    ¬ ranking.outRanks a b ↔ 0 ≤ ranking.ranks b a := by
  rw [outRanks_iff_neg, Int.not_lt]

theorem not_outRanks_self (a : α) : ¬ ranking.outRanks a a := by
  intro hself
  have hneg := ranking.outRanks_iff_neg.mp hself
  unfold outRanks at hself
  omega

theorem outRanks_asymm {a b : α} (hbeats : ranking.outRanks a b) : ¬ ranking.outRanks b a := by
  have hneg := ranking.outRanks_iff_neg.mp hbeats
  unfold outRanks
  omega

/-- Not being beaten is transitive. -/
theorem not_outRanks_trans {a b c : α} (hab : ¬ ranking.outRanks a b)
    (hbc : ¬ ranking.outRanks b c) : ¬ ranking.outRanks a c := by
  rw [not_outRanks_iff_nonneg] at *
  exact ranking.nonneg_trans c b a hbc hab

variable {ranking}

@[simp] theorem unbeaten_zero (a : α) : ranking.Unbeaten 0 a := by
  intro b hb
  simp at hb

@[simp] theorem unbeaten_cons {pool : Multiset α} {a b : α} :
    ranking.Unbeaten (b ::ₘ pool) a ↔ ¬ ranking.outRanks b a ∧ ranking.Unbeaten pool a := by
  simp [Unbeaten]

@[simp] theorem unbeaten_add {left right : Multiset α} {a : α} :
    ranking.Unbeaten (left + right) a ↔
      ranking.Unbeaten left a ∧ ranking.Unbeaten right a := by
  simp only [Unbeaten, Multiset.mem_add]
  constructor
  · intro htop
    exact ⟨fun b hb => htop b (.inl hb), fun b hb => htop b (.inr hb)⟩
  · rintro ⟨hleft, hright⟩ b (hb | hb)
    · exact hleft b hb
    · exact hright b hb

theorem Unbeaten.of_not_outRanks {pool : Multiset α} {a b : α}
    (htop : ranking.Unbeaten pool a) (hab : ¬ ranking.outRanks a b) :
    ranking.Unbeaten pool b := by
  intro c hc
  exact ranking.not_outRanks_trans (htop c hc) hab

/-- An element that beats an unbeaten one is no member. -/
theorem Unbeaten.not_mem_of_outRanks {pool : Multiset α} {a b : α}
    (htop : ranking.Unbeaten pool a) (hbeats : ranking.outRanks b a) : b ∉ pool :=
  fun hb => htop b hb hbeats

end Ranking

end Priority
