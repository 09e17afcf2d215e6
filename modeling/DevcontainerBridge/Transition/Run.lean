import Mathlib.Algebra.BigOperators.Group.List.Basic
import Mathlib.Data.List.Basic
import Mathlib.Data.Option.Basic

/-! Finite runs of a partial step function. A run keeps each state it leaves
together with the action taken there, so that a condition on schedules is a
condition on the members of its trace. -/
namespace Transition

variable {State Action : Type*} (step : State → Action → Option State)

/-- `Run step start trace finish` performs the actions of `trace` in order.
The first component of an entry is the state in which its action is taken. -/
inductive Run (start : State) : List (State × Action) → State → Prop where
  | refl : Run start [] start
  | tail {trace : List (State × Action)} {middle finish : State} {action : Action}
      (prior : Run start trace middle) (last : step middle action = some finish) :
      Run start (trace ++ [(middle, action)]) finish

/-- Some finite schedule leads from `start` to `finish`. -/
def Reachable (start finish : State) : Prop :=
  ∃ trace, Run step start trace finish

/-- Every state of the run, the last one included, satisfies `property`. -/
def Throughout (property : State → Prop) (trace : List (State × Action)) (finish : State) : Prop :=
  (∀ entry ∈ trace, property entry.1) ∧ property finish

/-- Every action of the run is taken in a state where `guard` allows it. -/
def Guarded (guard : State → Action → Prop) (trace : List (State × Action)) : Prop :=
  ∀ entry ∈ trace, guard entry.1 entry.2

variable {step}

theorem Guarded.of_append {guard : State → Action → Prop} {left right : List (State × Action)}
    (h : Guarded guard (left ++ right)) : Guarded guard left :=
  fun entry hEntry => h entry (List.mem_append_left _ hEntry)

theorem Guarded.append {guard : State → Action → Prop} {left right : List (State × Action)}
    (hLeft : Guarded guard left) (hRight : Guarded guard right) : Guarded guard (left ++ right) := by
  intro entry hEntry
  rcases List.mem_append.mp hEntry with hMember | hMember
  · exact hLeft entry hMember
  · exact hRight entry hMember

theorem Guarded.last {guard : State → Action → Prop} {trace : List (State × Action)}
    {middle : State} {action : Action} (h : Guarded guard (trace ++ [(middle, action)])) :
    guard middle action :=
  h (middle, action) (by simp)

theorem Reachable.refl (start : State) : Reachable step start start :=
  ⟨[], .refl⟩

theorem Reachable.tail {start middle finish : State} {action : Action}
    (prior : Reachable step start middle) (last : step middle action = some finish) :
    Reachable step start finish := by
  obtain ⟨trace, run⟩ := prior
  exact ⟨_, .tail run last⟩

/-- Concatenate two runs. Their traces are performed one after the other. -/
theorem Run.trans {start middle finish : State} {left right : List (State × Action)}
    (first : Run step start left middle) (second : Run step middle right finish) :
    Run step start (left ++ right) finish := by
  induction second with
  | refl => simpa using first
  | tail prior last ih => simpa [← List.append_assoc] using Run.tail ih last

theorem Reachable.trans {start middle finish : State}
    (first : Reachable step start middle) (second : Reachable step middle finish) :
    Reachable step start finish := by
  obtain ⟨left, hLeft⟩ := first
  obtain ⟨right, hRight⟩ := second
  exact ⟨_, hLeft.trans hRight⟩

/-- An entry of the trace is a reachable state that takes its action. -/
theorem Run.entry {start finish : State} {trace : List (State × Action)}
    (run : Run step start trace finish) {state : State} {action : Action}
    (hEntry : (state, action) ∈ trace) :
    Reachable step start state ∧ ∃ after, step state action = some after ∧
      Reachable step after finish := by
  induction run with
  | refl => cases hEntry
  | @tail trace middle finish last prior hLast ih =>
      rcases List.mem_append.mp hEntry with hPrior | hHere
      · obtain ⟨hState, after, hStep, hAfter⟩ := ih hPrior
        exact ⟨hState, after, hStep, hAfter.tail hLast⟩
      · cases List.mem_singleton.mp hHere
        exact ⟨⟨_, prior⟩, finish, hLast, .refl finish⟩

/-- The induction rule for invariants under a condition on schedules: the
invariant is established at the start and kept by every admitted step. -/
theorem Run.invariant {guard : State → Action → Prop} {property : State → Prop}
    {start finish : State} {trace : List (State × Action)}
    (run : Run step start trace finish) (hGuard : Guarded guard trace) (hStart : property start)
    (hStep : ∀ middle action after, property middle → guard middle action →
      step middle action = some after → property after) :
    property finish := by
  induction run with
  | refl => exact hStart
  | tail prior last ih => exact hStep _ _ _ (ih hGuard.of_append) hGuard.last last

/-- An invariant of every step holds in every reachable state. -/
theorem Reachable.invariant {start finish : State} (hReach : Reachable step start finish)
    (property : State → Prop) (hStart : property start)
    (hStep : ∀ middle action after, property middle → step middle action = some after →
      property after) :
    property finish := by
  obtain ⟨trace, run⟩ := hReach
  have hAll : Guarded (fun _ _ => True) trace := fun _ _ => trivial
  exact run.invariant hAll hStart (fun middle action after h _ => hStep middle action after h)

/-- The same rule for all states of the run at once. -/
theorem Run.throughout {guard : State → Action → Prop} {property : State → Prop}
    {start finish : State} {trace : List (State × Action)}
    (run : Run step start trace finish) (hGuard : Guarded guard trace) (hStart : property start)
    (hStep : ∀ middle action after, property middle → guard middle action →
      step middle action = some after → property after) :
    Throughout property trace finish := by
  induction run with
  | refl => exact ⟨by simp, hStart⟩
  | @tail trace middle finish action prior last ih =>
      obtain ⟨hBefore, hMiddle⟩ := ih hGuard.of_append
      refine ⟨?_, hStep _ _ _ hMiddle hGuard.last last⟩
      intro entry hEntry
      rcases List.mem_append.mp hEntry with hPrior | hHere
      · exact hBefore entry hPrior
      · rw [List.mem_singleton.mp hHere]
        exact hMiddle

/-- A condition that is exact for one step is exact for whole runs: when a
step from a good state ends in a good state precisely if the guard admits
it, a run stays good precisely if the guard admits all of its steps. -/
theorem Run.throughout_iff {guard : State → Action → Prop} {property : State → Prop}
    {start finish : State} {trace : List (State × Action)}
    (run : Run step start trace finish) (hStart : property start)
    (hStep : ∀ middle action after, Reachable step start middle → property middle →
      step middle action = some after → (property after ↔ guard middle action)) :
    Throughout property trace finish ↔ Guarded guard trace := by
  induction run with
  | refl => exact ⟨fun _ => by simp [Guarded], fun _ => ⟨by simp, hStart⟩⟩
  | @tail trace middle finish action prior last ih =>
      constructor
      · rintro ⟨hBefore, hFinish⟩
        have hMiddle : property middle := hBefore (middle, action) (by simp)
        have hPrior : Throughout property trace middle :=
          ⟨fun entry hEntry => hBefore entry (List.mem_append_left _ hEntry), hMiddle⟩
        intro entry hEntry
        rcases List.mem_append.mp hEntry with hEarlier | hHere
        · exact ih.mp hPrior entry hEarlier
        · rw [List.mem_singleton.mp hHere]
          exact (hStep middle action finish ⟨_, prior⟩ hMiddle last).mp hFinish
      · intro hGuard
        obtain ⟨hBefore, hMiddle⟩ := ih.mpr hGuard.of_append
        refine ⟨?_, (hStep middle action finish ⟨_, prior⟩ hMiddle last).mpr hGuard.last⟩
        intro entry hEntry
        rcases List.mem_append.mp hEntry with hEarlier | hHere
        · exact hBefore entry hEarlier
        · rw [List.mem_singleton.mp hHere]
          exact hMiddle

/-- What the actions of a run add up to. -/
def total {Weight : Type*} [AddCommGroup Weight] (weight : State → Action → Weight)
    (trace : List (State × Action)) : Weight :=
  (trace.map fun entry => weight entry.1 entry.2).sum

/-- The rule for balances: when each action weighs what a potential gains by
it, the run adds up to the gain from its start to its end. -/
theorem Run.total_eq {Weight : Type*} [AddCommGroup Weight] {weight : State → Action → Weight}
    {start finish : State} {trace : List (State × Action)} (run : Run step start trace finish)
    (potential : State → Weight)
    (hStep : ∀ middle action after, Reachable step start middle → step middle action = some after →
      weight middle action = potential after - potential middle) :
    total weight trace = potential finish - potential start := by
  induction run with
  | refl => simp [total]
  | @tail trace middle finish action prior last ih =>
      have hLast := hStep middle action finish ⟨_, prior⟩ last
      unfold total at ih ⊢
      rw [List.map_append, List.sum_append, ih, List.map_singleton, List.sum_singleton, hLast]
      exact sub_add_sub_cancel' _ _ _

variable (step)

/-- Perform a given schedule, failing where an action is not enabled. -/
def exec : State → List Action → Option State
  | start, [] => some start
  | start, action :: rest => (step start action).bind fun middle => exec middle rest

variable {step}

theorem exec_cons {start finish : State} {action : Action} {rest : List Action} :
    exec step start (action :: rest) = some finish ↔
      ∃ middle, step start action = some middle ∧ exec step middle rest = some finish := by
  simp [exec, Option.bind_eq_some_iff]

theorem exec_append {start finish : State} {left right : List Action} :
    exec step start (left ++ right) = some finish ↔
      ∃ middle, exec step start left = some middle ∧ exec step middle right = some finish := by
  induction left generalizing start with
  | nil => simp [exec]
  | cons action rest ih =>
      simp only [List.cons_append, exec_cons, ih]
      constructor
      · rintro ⟨next, hNext, middle, hRest, hRight⟩
        exact ⟨middle, ⟨next, hNext, hRest⟩, hRight⟩
      · rintro ⟨middle, ⟨next, hNext, hRest⟩, hRight⟩
        exact ⟨next, hNext, middle, hRest, hRight⟩

/-- A schedule that can be performed is the action column of a run. -/
theorem run_of_exec {start finish : State} {actions : List Action}
    (h : exec step start actions = some finish) :
    ∃ trace, trace.map Prod.snd = actions ∧ Run step start trace finish := by
  induction actions generalizing start with
  | nil =>
      cases h
      exact ⟨[], rfl, .refl⟩
  | cons action rest ih =>
      obtain ⟨middle, hStep, hRest⟩ := exec_cons.mp h
      obtain ⟨trace, rfl, run⟩ := ih hRest
      exact ⟨(start, action) :: trace, rfl, (Run.refl.tail hStep).trans run⟩

/-- Perform a schedule as long as a check passes before each of its actions. -/
def execWhile (step : State → Action → Option State) (check : State → Action → Bool) :
    State → List Action → Option State
  | state, [] => some state
  | state, action :: rest =>
      if check state action then (step state action).bind fun next => execWhile step check next rest
      else none

theorem run_of_execWhile {check : State → Action → Bool} {start finish : State} {actions : List Action}
    (h : execWhile step check start actions = some finish) :
    ∃ trace, trace.map Prod.snd = actions ∧ Run step start trace finish ∧
      Guarded (fun state action => check state action = true) trace := by
  induction actions generalizing start with
  | nil =>
      cases h
      exact ⟨[], rfl, .refl, by simp [Guarded]⟩
  | cons action rest ih =>
      unfold execWhile at h
      split_ifs at h with hCheck
      obtain ⟨middle, hStep, hRest⟩ := Option.bind_eq_some_iff.mp h
      obtain ⟨trace, rfl, run, hGuard⟩ := ih hRest
      refine ⟨(start, action) :: trace, rfl, (Run.refl.tail hStep).trans run, ?_⟩
      intro entry hEntry
      rcases List.mem_cons.mp hEntry with rfl | hLater
      · exact hCheck
      · exact hGuard entry hLater

theorem reachable_of_exec {start finish : State} {actions : List Action}
    (h : exec step start actions = some finish) : Reachable step start finish := by
  obtain ⟨trace, _, run⟩ := run_of_exec h
  exact ⟨trace, run⟩

end Transition
