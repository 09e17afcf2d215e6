import Mathlib.Logic.Function.Iterate
import Mathlib.Tactic.SplitIfs

/-! Walking along the iterates of a function. A walk ends at the first point
that is not busy and gives up when the next point is the one it began with.
Where neither happens it never ends. -/
namespace Transition

variable {Point : Type*} (next : Point → Point) (busy : Point → Prop) (start : Point)

/-- The walk goes on beyond the first `n` points. -/
def Passes (n : Nat) (point : Point) : Prop :=
  ∀ m < n, busy (next^[m] point) ∧ next^[m + 1] point ≠ start

variable [DecidableEq Point] [DecidablePred busy]

/-- The walk from a point. The outcome is absent while the walk has not ended
within `fuel` steps, and it is `some none` where the walk has given up. -/
def walk : Nat → Point → Option (Option Point)
  | 0, _ => none
  | fuel + 1, point =>
      if busy point then
        if next point = start then some none else walk fuel (next point)
      else
        some (some point)

variable {next busy start} {point : Point} {n : Nat}

omit [DecidableEq Point] [DecidablePred busy] in
theorem Passes.head (h : Passes next busy start (n + 1) point) :
    busy point ∧ next point ≠ start ∧ Passes next busy start n (next point) := by
  obtain ⟨hBusy, hNext⟩ := h 0 (Nat.succ_pos n)
  exact ⟨hBusy, hNext, fun m hm => h (m + 1) (Nat.succ_lt_succ hm)⟩

/-- A walk that goes on beyond some points is the walk from there. -/
theorem walk_of_passes (h : Passes next busy start n point) (fuel : Nat) :
    walk next busy start (n + fuel) point = walk next busy start fuel (next^[n] point) := by
  induction n generalizing point with
  | zero => rw [Nat.zero_add, Function.iterate_zero_apply]
  | succ n ih =>
      obtain ⟨hBusy, hNext, hLater⟩ := h.head
      rw [Nat.add_right_comm, walk, if_pos hBusy, if_neg hNext, ih hLater, Function.iterate_succ_apply]

theorem walk_free (h : Passes next busy start n point) (hFree : ¬busy (next^[n] point)) :
    walk next busy start (n + 1) point = some (some (next^[n] point)) := by
  rw [walk_of_passes h, walk, if_neg hFree]

theorem walk_returned (h : Passes next busy start n point) (hBusy : busy (next^[n] point))
    (hReturns : next^[n + 1] point = start) : walk next busy start (n + 1) point = some none := by
  rw [Function.iterate_succ_apply'] at hReturns
  rw [walk_of_passes h, walk, if_pos hBusy, if_pos hReturns]

/-- A walk that goes on forever has no outcome. -/
theorem walk_eq_none (h : ∀ n, Passes next busy start n point) (fuel : Nat) :
    walk next busy start fuel point = none := by
  have hFuel := walk_of_passes (h fuel) 0
  rwa [Nat.add_zero] at hFuel

/-- An outcome tells where the walk has ended. -/
theorem walk_cases {fuel : Nat} {outcome : Option Point}
    (h : walk next busy start fuel point = some outcome) :
    ∃ n < fuel, Passes next busy start n point ∧
      ((¬busy (next^[n] point) ∧ outcome = some (next^[n] point)) ∨
        (busy (next^[n] point) ∧ next^[n + 1] point = start ∧ outcome = none)) := by
  induction fuel generalizing point with
  | zero => cases h
  | succ fuel ih =>
      have hNone : Passes next busy start 0 point := fun m hm => absurd hm (Nat.not_lt_zero m)
      rw [walk] at h
      split_ifs at h with hBusy hNext
      · cases h
        exact ⟨0, Nat.succ_pos fuel, hNone, .inr ⟨hBusy, hNext, rfl⟩⟩
      · obtain ⟨n, hn, hPasses, hEnd⟩ := ih h
        refine ⟨n + 1, Nat.succ_lt_succ hn, ?_, hEnd⟩
        intro m hm
        cases m with
        | zero => exact ⟨hBusy, hNext⟩
        | succ m => exact hPasses m (Nat.lt_of_succ_lt_succ hm)
      · cases h
        exact ⟨0, Nat.succ_pos fuel, hNone, .inl ⟨hBusy, rfl⟩⟩

end Transition
