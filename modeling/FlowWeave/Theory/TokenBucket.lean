/-
# Theory.TokenBucket — how much a token bucket can have given out

A bucket gains `rate` tokens for each unit of time, never holds more than
`capacity`, and gives tokens out. `Budget since spent tokens last` is the invariant
that bounds it over any run: what was given out and what is left are covered by
one full bucket and the gain from `since` to the last refill. Time that goes
backwards gains nothing and so breaks nothing.
-/
import Mathlib.Tactic.Linarith

namespace FlowWeave.Theory.TokenBucket

set_option autoImplicit false

/-- What a bucket has `spent`, and the `tokens` it has left, are covered by its
capacity and its gain from `since` to its `last` refill. -/
structure Budget (rate capacity since spent tokens last : Nat) : Prop where
  since_le : since ≤ last
  covered : spent + tokens ≤ capacity + rate * (last - since)

namespace Budget

variable {rate capacity since spent tokens last : Nat}

/-- A new bucket is full at most. -/
theorem start (full : tokens ≤ capacity) : Budget rate capacity since 0 tokens since :=
  ⟨le_rfl, by omega⟩

variable (budget : Budget rate capacity since spent tokens last)

include budget

/-- A refill gains at most `rate` for each unit of time since the last one. -/
theorem refill {now gained : Nat} (later : last ≤ now)
    (gain : gained ≤ tokens + rate * (now - last)) :
    Budget rate capacity since spent gained now where
  since_le := le_trans budget.since_le later
  covered := by
    have split : now - since = (last - since) + (now - last) := by
      have := budget.since_le
      omega
    have covered := budget.covered
    rw [split, Nat.mul_add]
    omega

/-- Tokens may be lost. -/
theorem lower {fewer : Nat} (less : fewer ≤ tokens)
    : Budget rate capacity since spent fewer last :=
  ⟨budget.since_le, le_trans (by omega) budget.covered⟩

/-- Tokens that are there may be spent. -/
theorem spend {cost : Nat} (enough : cost ≤ tokens)
    : Budget rate capacity since (spent + cost) (tokens - cost) last :=
  ⟨budget.since_le, by have := budget.covered; omega⟩

/-- **The bound.** -/
theorem spent_le {until_ : Nat} (before : last ≤ until_)
    : spent ≤ capacity + rate * (until_ - since) := by
  have covered := budget.covered
  have longer : rate * (last - since) ≤ rate * (until_ - since) :=
    Nat.mul_le_mul_left _ (Nat.sub_le_sub_right before _)
  omega

end Budget

end FlowWeave.Theory.TokenBucket
