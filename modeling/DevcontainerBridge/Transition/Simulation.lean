import DevcontainerBridge.Transition.Run

/-! Simulation of runs. Each step of one system is matched by a finite run of
another that performs only admitted actions and shows the same labels. -/
namespace Transition

variable {State Action Label : Type*} (step : State → Action → Option State)

/-- Some run from `start` performs admitted actions only, shows exactly the
given labels and ends in a state that satisfies `goal`. -/
def Mimics (admitted : Action → Prop) (label : Action → Option Label) (start : State)
    (labels : List Label) (goal : State → Prop) : Prop :=
  ∃ trace finish, Run step start trace finish ∧ (∀ entry ∈ trace, admitted entry.2) ∧
    trace.filterMap (fun entry => label entry.2) = labels ∧ goal finish

variable {step} {admitted : Action → Prop} {label : Action → Option Label} {goal : State → Prop}

theorem Mimics.refl {start : State} (hGoal : goal start) : Mimics step admitted label start [] goal :=
  ⟨[], start, .refl, by simp, rfl, hGoal⟩

theorem Mimics.single {start finish : State} {action : Action} (hStep : step start action = some finish)
    (hAdmitted : admitted action) (hGoal : goal finish) :
    Mimics step admitted label start (label action).toList goal := by
  refine ⟨[(start, action)], finish, Run.refl.tail hStep, ?_, ?_, hGoal⟩
  · intro entry hEntry
    rw [List.mem_singleton.mp hEntry]
    exact hAdmitted
  · cases hLabel : label action with
    | none => simp [hLabel]
    | some shown => simp [hLabel]

/-- Continue a run from whatever state the first part ends in. -/
theorem Mimics.trans {middle : State → Prop} {start : State} {left right : List Label}
    (first : Mimics step admitted label start left middle)
    (second : ∀ state, middle state → Mimics step admitted label state right goal) :
    Mimics step admitted label start (left ++ right) goal := by
  obtain ⟨leftTrace, state, leftRun, leftAdmitted, leftLabels, hMiddle⟩ := first
  obtain ⟨rightTrace, finish, rightRun, rightAdmitted, rightLabels, hGoal⟩ := second state hMiddle
  refine ⟨leftTrace ++ rightTrace, finish, leftRun.trans rightRun, ?_, ?_, hGoal⟩
  · intro entry hEntry
    rcases List.mem_append.mp hEntry with hLeft | hRight
    · exact leftAdmitted entry hLeft
    · exact rightAdmitted entry hRight
  · rw [List.filterMap_append, leftLabels, rightLabels]

/-- A schedule of admitted actions shows the labels of its actions. -/
theorem Mimics.of_exec {start finish : State} {actions : List Action}
    (h : exec step start actions = some finish) (hAdmitted : ∀ action ∈ actions, admitted action)
    (hGoal : goal finish) : Mimics step admitted label start (actions.filterMap label) goal := by
  obtain ⟨trace, rfl, run⟩ := run_of_exec h
  refine ⟨trace, finish, run, ?_, ?_, hGoal⟩
  · intro entry hEntry
    exact hAdmitted entry.2 (List.mem_map_of_mem hEntry)
  · rw [List.filterMap_map]
    rfl

variable {State' Action' : Type*} {step' : State' → Action' → Option State'}

/-- The induction rule for simulations: when related states stay related
however the first system moves, every run of it is mimicked. -/
theorem Run.simulate {guard : State' → Action' → Prop} {kept : Action' → Option Label}
    {related : State' → State → Prop} {start finish : State'} {trace : List (State' × Action')}
    {twin : State} (run : Run step' start trace finish) (hGuard : Guarded guard trace)
    (hStart : related start twin)
    (hStep : ∀ state action after other, related state other → guard state action →
      step' state action = some after →
      Mimics step admitted label other (kept action).toList (related after)) :
    Mimics step admitted label twin (trace.filterMap fun entry => kept entry.2) (related finish) := by
  induction run with
  | refl => exact .refl hStart
  | @tail trace middle finish action prior last ih =>
      have hPrior := ih hGuard.of_append
      have hLast := fun other hOther => hStep middle action finish other hOther hGuard.last last
      have whole := hPrior.trans hLast
      cases hKept : kept action with
      | none => simpa [hKept] using whole
      | some shown => simpa [hKept] using whole

end Transition
