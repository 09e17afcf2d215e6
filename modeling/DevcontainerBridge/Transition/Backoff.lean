import Mathlib.Algebra.BigOperators.Group.Finset.Basic
import Mathlib.Algebra.Order.BigOperators.Group.Finset

/-! Delays that double up to a bound. -/
namespace Transition

/-- Exponential backoff with reset. -/
structure Backoff where
  /-- the delay before the next attempt -/
  current : Nat
  initial : Nat
  max : Nat
  deriving DecidableEq, Repr

namespace Backoff

/-- A backoff that starts at `initial` and is capped at `max`. -/
def new (initial max : Nat) : Backoff where
  current := initial
  initial := initial
  max := max

/-- Double the current delay, capped at the maximum. -/
def escalate (b : Backoff) : Backoff :=
  { b with current := min (b.current * 2) b.max }

def reset (b : Backoff) : Backoff :=
  { b with current := b.initial }

/-- The delay after `n` failures in a row. -/
def delay (initial max n : Nat) : Nat :=
  min (initial * 2 ^ n) max

/-- The backoff after `n` failures in a row. -/
def after (initial max n : Nat) : Backoff :=
  { new initial max with current := delay initial max n }

variable {initial max n k : Nat}

theorem after_zero (h : initial ≤ max) : after initial max 0 = new initial max := by
  simp [after, delay, new, h]

theorem escalate_after : (after initial max n).escalate = after initial max (n + 1) := by
  have hDelay : min (min (initial * 2 ^ n) max * 2) max = min (initial * 2 ^ (n + 1)) max := by
    rw [pow_succ, ← mul_assoc]
    omega
  simp [after, escalate, delay, new, hDelay]

theorem reset_after (h : initial ≤ max) : (after initial max n).reset = after initial max 0 := by
  rw [after_zero h]
  rfl

theorem delay_le : delay initial max n ≤ max := Nat.min_le_right ..

theorem delay_mono (h : n ≤ k) : delay initial max n ≤ delay initial max k := by
  have hPow : initial * 2 ^ n ≤ initial * 2 ^ k := Nat.mul_le_mul_left _ (Nat.pow_le_pow_right (by decide) h)
  unfold delay
  omega

theorem sum_delay_le (initial max n k : Nat) : ∑ i ∈ Finset.range k, delay initial max (n + i) ≤ k * max := by
  have hEach := Finset.sum_le_card_nsmul (Finset.range k) (fun i => delay initial max (n + i)) max fun _ _ => delay_le
  simpa using hEach

/-- Failures cost the full delay each but for what is saved before the bound is
reached. -/
theorem le_sum_delay {m : Nat} (hBound : max ≤ initial * 2 ^ m) (n k : Nat) :
    k * max ≤ (∑ i ∈ Finset.range k, delay initial max (n + i)) +
      ∑ i ∈ Finset.range m, (max - delay initial max i) := by
  have hSaved : ∑ i ∈ Finset.range k, (max - delay initial max i) ≤
      ∑ i ∈ Finset.range m, (max - delay initial max i) := by
    refine Finset.sum_le_sum_of_ne_zero fun i _ hSaves => Finset.mem_range.mpr ?_
    by_contra hReached
    refine hSaves (Nat.sub_eq_zero_of_le ?_)
    have hFull : delay initial max m = max := Nat.min_eq_right hBound
    exact hFull.ge.trans (delay_mono (Nat.le_of_not_lt hReached))
  calc
    k * max = ∑ i ∈ Finset.range k, max := by simp
    _ ≤ ∑ i ∈ Finset.range k, (delay initial max (n + i) + (max - delay initial max i)) := by
      refine Finset.sum_le_sum fun i _ => ?_
      have hMono : delay initial max i ≤ delay initial max (n + i) := delay_mono (Nat.le_add_left i n)
      omega
    _ ≤ _ := by
      rw [Finset.sum_add_distrib]
      exact Nat.add_le_add_left hSaved _

end Backoff

end Transition
