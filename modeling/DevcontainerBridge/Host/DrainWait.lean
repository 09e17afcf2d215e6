import DevcontainerBridge.Transition.Run
import Mathlib.Data.Finset.Card

/-! The wait for the connections of a forward, one atomic operation at a time.
The waiter creates its future before it reads the count, and the last
connection to finish sets the count to zero before it notifies. -/
namespace DevcontainerBridge

open Transition

/-- Where `drain_forward_connections` is. A future knows how often waiters had
been notified at its creation, and every later call completes it. -/
inductive WaitPosition where
  /-- about to read the count for the first time -/
  | entered
  /-- at the head of the loop of `wait_drained` -/
  | looping
  /-- the future has been created, the count has not been read -/
  | created (calls : Nat)
  /-- in `notified.await` -/
  | awaiting (calls : Nat)
  | drained
  /-- the timeout has expired, and the tracker is about to be cancelled -/
  | expired
  | cancelled
  deriving DecidableEq

/-- A connection tracker with its waiter. The connections are told apart by
numbers: each `decrement` belongs to the `increment` of its connection. -/
structure ConnectionTracker where
  /-- a `usize`; there is no memory for as many connections as would exceed it -/
  count : Nat
  /-- calls of `notify_waiters` so far -/
  notifyCalls : Nat
  cancelled : Bool
  /-- connections that have been counted -/
  counted : Finset Nat
  /-- connections between `fetch_sub` and `notify_waiters` -/
  notifying : Finset Nat
  waiter : WaitPosition

inductive AtomicOperation where
  /-- `increment` -/
  | fetchAdd (connection : Nat)
  /-- the first half of `decrement` -/
  | fetchSub (connection : Nat)
  /-- its second half, where the count was one -/
  | notifyWaiters (connection : Nat)
  /-- the next operation of the waiter -/
  | wait
  /-- the timeout expires while the waiter awaits its future -/
  | expire
  deriving DecidableEq

namespace ConnectionTracker

def start : ConnectionTracker where
  count := 0
  notifyCalls := 0
  cancelled := false
  counted := ∅
  notifying := ∅
  waiter := .entered

/-- Subtraction of one as `fetch_sub` does it. -/
def wrappingPred (count : Nat) : Nat :=
  if count = 0 then 2 ^ 64 - 1 else count - 1

/-- The future that was created after so many calls has been completed. -/
def completed (s : ConnectionTracker) (calls : Nat) : Bool :=
  decide (calls < s.notifyCalls)

/-- Where the waiter's next operation leads, if it can take one. -/
def waitNext (s : ConnectionTracker) : Option WaitPosition :=
  match s.waiter with
  | .entered => some (if s.count = 0 then .drained else .looping)
  | .looping => some (.created s.notifyCalls)
  | .created calls => some (if s.count = 0 then .drained else .awaiting calls)
  | .awaiting calls => if s.completed calls then some .looping else none
  | .expired => some .cancelled
  | .drained | .cancelled => none

def step (s : ConnectionTracker) : AtomicOperation → Option ConnectionTracker
  | .fetchAdd connection =>
      if connection ∈ s.counted ∨ connection ∈ s.notifying then none
      else some { s with count := s.count + 1, counted := insert connection s.counted }
  | .fetchSub connection =>
      if connection ∉ s.counted then none
      else
        let after := { s with count := wrappingPred s.count, counted := s.counted.erase connection }
        some (if s.count = 1 then { after with notifying := insert connection s.notifying } else after)
  | .notifyWaiters connection =>
      if connection ∉ s.notifying then none
      else some { s with
        notifyCalls := s.notifyCalls + 1
        notifying := s.notifying.erase connection }
  | .wait => s.waitNext.map fun next =>
      { s with waiter := next, cancelled := s.cancelled || decide (next = .cancelled) }
  | .expire =>
      match s.waiter with
      | .awaiting _ => some { s with waiter := .expired }
      | _ => none

/-- The waiter sleeps on a future that nobody has completed. -/
def parked (s : ConnectionTracker) : Prop :=
  ∃ calls, s.waiter = .awaiting calls ∧ s.completed calls = false

/-- The count is the number of counted connections, and a count of zero is
about to be announced to the waiter that awaits its future, or has been. -/
structure Accounted (s : ConnectionTracker) : Prop where
  count : s.count = s.counted.card
  created : ∀ calls, s.waiter = .created calls → calls ≤ s.notifyCalls
  awaiting : ∀ calls, s.waiter = .awaiting calls → calls ≤ s.notifyCalls
  announced : ∀ calls, s.waiter = .awaiting calls → s.count = 0 →
    s.notifying.Nonempty ∨ s.completed calls = true

variable {s after : ConnectionTracker} {connection : Nat}

theorem accounted_start : Accounted start where
  count := rfl
  created := fun _ h => by cases h
  awaiting := fun _ h => by cases h
  announced := fun _ h => by cases h

/-- A counted connection keeps the count from zero. -/
theorem Accounted.count_pos (h : s.Accounted) (hCounted : connection ∈ s.counted) : 0 < s.count := by
  rw [h.count]
  exact Finset.card_pos.mpr ⟨connection, hCounted⟩

theorem Accounted.fetchAdd (h : s.Accounted) (hStep : s.step (.fetchAdd connection) = some after) :
    after.Accounted := by
  simp only [ConnectionTracker.step] at hStep
  split_ifs at hStep with hBusy
  rw [not_or] at hBusy
  cases hStep
  refine ⟨?_, h.created, h.awaiting, fun _ _ hZero => ?_⟩
  · rw [Finset.card_insert_of_notMem hBusy.1, h.count]
  · exact absurd hZero (Nat.succ_ne_zero s.count)

/-- The connection that takes the count to zero owes a notification. -/
theorem Accounted.fetchSub (h : s.Accounted) (hStep : s.step (.fetchSub connection) = some after) :
    after.Accounted := by
  simp only [ConnectionTracker.step] at hStep
  split_ifs at hStep with hCounted hLast
  · cases hStep
    refine ⟨?_, h.created, h.awaiting, fun _ _ _ => .inl ⟨connection, Finset.mem_insert_self _ _⟩⟩
    rw [Finset.card_erase_of_mem hCounted, ← h.count, hLast]
    rfl
  · have hPos := h.count_pos hCounted
    cases hStep
    have hPred : wrappingPred s.count = s.count - 1 := if_neg (by omega)
    refine ⟨?_, h.created, h.awaiting, fun _ _ hZero => ?_⟩
    · rw [Finset.card_erase_of_mem hCounted, ← h.count, hPred]
    · have hNone : s.count - 1 = 0 := hPred.symm.trans hZero
      omega

/-- A notification completes every future there is. -/
theorem Accounted.notifyWaiters (h : s.Accounted)
    (hStep : s.step (.notifyWaiters connection) = some after) : after.Accounted := by
  simp only [ConnectionTracker.step] at hStep
  split_ifs at hStep
  cases hStep
  refine ⟨h.count, fun calls hWaiter => ?_, fun calls hWaiter => ?_, fun calls hWaiter _ => .inr ?_⟩
  · exact Nat.le_succ_of_le (h.created calls hWaiter)
  · exact Nat.le_succ_of_le (h.awaiting calls hWaiter)
  · exact decide_eq_true (Nat.lt_succ_of_le (h.awaiting calls hWaiter))

/-- The waiter awaits its future only with a count that was not zero. -/
theorem Accounted.wait (h : s.Accounted) (hStep : s.step .wait = some after) : after.Accounted := by
  obtain ⟨next, hNext, rfl⟩ := Option.map_eq_some_iff.mp hStep
  unfold waitNext at hNext
  split at hNext
  case h_1 hWaiter =>
    cases hNext
    refine ⟨h.count, fun calls hWaiter => ?_, fun calls hWaiter => ?_, fun calls hWaiter => ?_⟩ <;>
      simp only at hWaiter <;> split_ifs at hWaiter
  case h_2 hWaiter =>
    cases hNext
    refine ⟨h.count, fun calls hWaiter => ?_, fun calls hWaiter => ?_, fun calls hWaiter => ?_⟩
    · cases hWaiter
      exact le_rfl
    · cases hWaiter
    · cases hWaiter
  case h_3 calls hWaiter =>
    cases hNext
    refine ⟨h.count, fun calls hNext => ?_, fun calls hNext => ?_, fun calls hNext hZero => ?_⟩
    · simp only at hNext
      split_ifs at hNext
    · simp only at hNext
      split_ifs at hNext
      cases hNext
      exact h.created _ hWaiter
    · simp only at hNext hZero
      rw [if_pos hZero] at hNext
      cases hNext
  case h_4 calls hWaiter =>
    split_ifs at hNext
    cases hNext
    refine ⟨h.count, fun calls hNext => ?_, fun calls hNext => ?_, fun calls hNext => ?_⟩ <;> cases hNext
  case h_5 hWaiter =>
    cases hNext
    refine ⟨h.count, fun calls hNext => ?_, fun calls hNext => ?_, fun calls hNext => ?_⟩ <;> cases hNext
  case h_6 hWaiter => cases hNext
  case h_7 hWaiter => cases hNext

theorem Accounted.expire (h : s.Accounted) (hStep : s.step .expire = some after) : after.Accounted := by
  simp only [ConnectionTracker.step] at hStep
  split at hStep
  · cases hStep
    refine ⟨h.count, fun calls hNext => ?_, fun calls hNext => ?_, fun calls hNext => ?_⟩ <;> cases hNext
  · cases hStep

theorem Accounted.step {operation : AtomicOperation} (h : s.Accounted)
    (hStep : s.step operation = some after) : after.Accounted := by
  cases operation with
  | fetchAdd connection => exact h.fetchAdd hStep
  | fetchSub connection => exact h.fetchSub hStep
  | notifyWaiters connection => exact h.notifyWaiters hStep
  | wait => exact h.wait hStep
  | expire => exact h.expire hStep

theorem accounted_of_reachable (h : Reachable ConnectionTracker.step start s) : s.Accounted :=
  h.invariant Accounted accounted_start fun _ _ _ => Accounted.step

/-- No decrement finds a count of zero, and the waiter does not sleep while
the count is zero unless a decrement is about to wake it. -/
theorem not_parked_at_zero (h : Reachable ConnectionTracker.step start s) :
    (∀ connection after, s.step (.fetchSub connection) = some after → 0 < s.count) ∧
      (s.parked → s.count = 0 → s.notifying.Nonempty) := by
  have hAccounted := accounted_of_reachable h
  constructor
  · intro connection after hStep
    simp only [ConnectionTracker.step] at hStep
    split_ifs at hStep with hCounted hLast
    · exact hLast ▸ Nat.one_pos
    · exact hAccounted.count_pos hCounted
  · rintro ⟨calls, hWaiter, hOpen⟩ hZero
    rcases hAccounted.announced calls hWaiter hZero with hNotifying | hCompleted
    · exact hNotifying
    · rw [hOpen] at hCompleted
      cases hCompleted

/-- A connection finishes between the waiter's reading of the count and its
notification. -/
def crossingOperations : List AtomicOperation :=
  [.fetchAdd 0, .wait, .wait, .wait, .fetchSub 0]

theorem not_parked_at_zero_crossing :
    ∃ s, exec ConnectionTracker.step start crossingOperations = some s ∧ s.parked ∧ s.count = 0 ∧
      s.notifying.Nonempty := by
  obtain ⟨s, hRun⟩ : ∃ s, exec ConnectionTracker.step start crossingOperations = some s := ⟨_, rfl⟩
  have hState : s.waiter = .awaiting 0 ∧ s.completed 0 = false ∧ s.count = 0 := by
    cases hRun
    exact ⟨rfl, rfl, rfl⟩
  have hParked : s.parked := ⟨0, hState.1, hState.2.1⟩
  exact ⟨s, hRun, hParked, hState.2.2,
    (not_parked_at_zero (reachable_of_exec hRun)).2 hParked hState.2.2⟩

/-- From the head of its loop the waiter sees a count of zero and returns. -/
theorem returns_of_looping (hWaiter : s.waiter = .looping) (hZero : s.count = 0) :
    ∃ after, exec ConnectionTracker.step s [.wait, .wait] = some after ∧ after.waiter = .drained := by
  simp [exec, ConnectionTracker.step, waitNext, hWaiter, hZero]

/-- Once all connections have finished, the waiter returns by its own
operations, wherever it is. -/
theorem returns_of_finished (h : Reachable ConnectionTracker.step start s) (hCounted : s.counted = ∅)
    (hNotifying : s.notifying = ∅) :
    ∃ operations after, exec ConnectionTracker.step s operations = some after ∧
      (∀ operation ∈ operations, operation = .wait) ∧
      (after.waiter = .drained ∨ after.waiter = .cancelled) := by
  have hAccounted := accounted_of_reachable h
  have hZero : s.count = 0 := by rw [hAccounted.count, hCounted, Finset.card_empty]
  cases hWaiter : s.waiter with
  | entered =>
      refine ⟨[.wait], { s with waiter := .drained }, ?_, by simp, .inl rfl⟩
      simp [exec, ConnectionTracker.step, waitNext, hWaiter, hZero]
  | looping =>
      obtain ⟨after, hExec, hDrained⟩ := returns_of_looping hWaiter hZero
      exact ⟨_, after, hExec, by simp, .inl hDrained⟩
  | created calls =>
      refine ⟨[.wait], { s with waiter := .drained }, ?_, by simp, .inl rfl⟩
      simp [exec, ConnectionTracker.step, waitNext, hWaiter, hZero]
  | awaiting calls =>
      have hCompleted : s.completed calls = true := by
        rcases hAccounted.announced calls hWaiter hZero with hOwed | hCompleted
        · exact absurd hNotifying hOwed.ne_empty
        · exact hCompleted
      have hWake : s.step .wait = some { s with waiter := .looping } := by
        simp [ConnectionTracker.step, waitNext, hWaiter, hCompleted]
      obtain ⟨after, hExec, hDrained⟩ :=
        returns_of_looping (s := { s with waiter := .looping }) rfl hZero
      exact ⟨[.wait, .wait, .wait], after, exec_cons.mpr ⟨_, hWake, hExec⟩, by simp, .inl hDrained⟩
  | drained => exact ⟨[], s, rfl, by simp, .inl hWaiter⟩
  | expired =>
      refine ⟨[.wait], { s with waiter := .cancelled, cancelled := true }, ?_, by simp, .inr rfl⟩
      simp [exec, ConnectionTracker.step, waitNext, hWaiter]
  | cancelled => exact ⟨[], s, rfl, by simp, .inr hWaiter⟩

end ConnectionTracker

end DevcontainerBridge
