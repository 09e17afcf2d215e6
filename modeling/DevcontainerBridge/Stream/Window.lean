import Mathlib.Data.List.Basic

/-! Times within a sliding window. A queue of times is expired from its front,
and a time is admitted only while fewer than `limit` earlier ones are recent. -/
namespace Stream

variable {width limit now later : Nat} {times : List Nat}

/-- The times that have not expired. -/
def recent (width now : Nat) (times : List Nat) : List Nat :=
  times.filter fun t => now < t + width

/-- Drop expired times, from the front only. -/
def expire (width now : Nat) (times : List Nat) : List Nat :=
  times.dropWhile fun t => t + width ≤ now

/-- Times that were admitted one after another. -/
inductive Admitted (width limit : Nat) : List Nat → Prop
  | nil : Admitted width limit []
  | snoc {times : List Nat} {now : Nat} (h : Admitted width limit times) (hLast : ∀ t ∈ times, t ≤ now)
      (hRecent : (recent width now times).length < limit) : Admitted width limit (times ++ [now])

theorem recent_append (first second : List Nat) :
    recent width now (first ++ second) = recent width now first ++ recent width now second :=
  List.filter_append ..

theorem recent_eq_nil (h : ∀ t ∈ times, t + width ≤ now) : recent width now times = [] := by
  rw [recent, List.filter_eq_nil_iff]
  intro t hMem
  simpa using h t hMem

theorem recent_eq_self (h : ∀ t ∈ times, now < t + width) : recent width now times = times := by
  rw [recent, List.filter_eq_self]
  intro t hMem
  simpa using h t hMem

/-- In a sorted queue the front is what expires. -/
theorem expire_of_sorted (h : times.Pairwise (· ≤ ·)) : expire width now times = recent width now times := by
  induction times with
  | nil => rfl
  | cons t times ih =>
      obtain ⟨hHead, hTail⟩ := List.pairwise_cons.mp h
      unfold expire
      by_cases hExpired : t + width ≤ now
      · rw [List.dropWhile_cons_of_pos (by simpa using hExpired), recent,
          List.filter_cons_of_neg (by simpa using hExpired)]
        exact ih hTail
      · rw [List.dropWhile_cons_of_neg (by simpa using hExpired), recent_eq_self]
        intro other hMem
        rcases List.mem_cons.mp hMem with rfl | hMem
        · exact Nat.lt_of_not_le hExpired
        · have hOther := hHead other hMem
          omega

/-- What an earlier expiry has dropped, a later one drops too. -/
theorem expire_expire (h : now ≤ later) :
    expire width later (expire width now times) = expire width later times := by
  induction times with
  | nil => rfl
  | cons t times ih =>
      by_cases hExpired : t + width ≤ now
      · have hLater : t + width ≤ later := Nat.le_trans hExpired h
        unfold expire at ih ⊢
        rw [List.dropWhile_cons_of_pos (by simpa using hExpired), ih,
          List.dropWhile_cons_of_pos (by simpa using hLater)]
      · have hKept : expire width now (t :: times) = t :: times :=
          List.dropWhile_cons_of_neg (by simpa using hExpired)
        rw [hKept]

/-- What is kept is the end of the queue. -/
theorem exists_expire (width now : Nat) (times : List Nat) :
    ∃ expired, times = expired ++ expire width now times ∧ ∀ t ∈ expired, t + width ≤ now := by
  refine ⟨times.takeWhile fun t => t + width ≤ now, List.takeWhile_append_dropWhile.symm, ?_⟩
  intro t hMem
  simpa using List.all_eq_true.mp List.all_takeWhile t hMem

namespace Admitted

theorem sorted (h : Admitted width limit times) : times.Pairwise (· ≤ ·) := by
  induction h with
  | nil => exact List.Pairwise.nil
  | snoc _ hLast _ ih =>
      rw [List.pairwise_append]
      refine ⟨ih, List.pairwise_singleton _ _, fun t hMem other hOther => ?_⟩
      rw [List.mem_singleton.mp hOther]
      exact hLast t hMem

/-- No window of the given width holds more than the limit. -/
theorem window_le (h : Admitted width limit times) (start : Nat) :
    (times.filter fun t => start ≤ t ∧ t < start + width).length ≤ limit := by
  induction h with
  | nil => exact Nat.zero_le limit
  | @snoc times now _ hLast hRecent ih =>
      rw [List.filter_append, List.length_append]
      by_cases hNow : start ≤ now ∧ now < start + width
      · -- whatever shares a window with the last time is recent when it is admitted
        have hSub : (times.filter fun t => start ≤ t ∧ t < start + width).Sublist (recent width now times) := by
          apply List.monotone_filter_right
          intro t hIn
          simp only [decide_eq_true_eq] at hIn ⊢
          omega
        have hLength := hSub.length_le
        rw [List.filter_cons_of_pos (by simpa using hNow), List.filter_nil, List.length_singleton]
        omega
      · rw [List.filter_cons_of_neg (by simpa using hNow), List.filter_nil, List.length_nil]
        exact ih

theorem recent_le (h : Admitted width limit times) (hLast : ∀ t ∈ times, t ≤ now) :
    (recent width now times).length ≤ limit := by
  have hSame : recent width now times =
      times.filter fun t => now + 1 - width ≤ t ∧ t < now + 1 - width + width := by
    apply List.filter_congr
    intro t hMem
    have hNow := hLast t hMem
    rw [decide_eq_decide]
    omega
  rw [hSame]
  exact h.window_le _

end Admitted

end Stream
