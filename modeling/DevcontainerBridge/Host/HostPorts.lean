import DevcontainerBridge.Host.Reservation

/-! Exclusive use of host ports, and when the reservations of the host port
table are all accounted for. -/
namespace DevcontainerBridge

open Table Transition Ledger

variable {cfg : HostConfig} {d d' : Daemon} {trace : List (Daemon × Action)}

/-- The live forward of a container port in a daemon state. -/
def Daemon.forwardOf (d : Daemon) (containerId : String) (port : UInt16) : Option ForwardState :=
  d.ctx.state.forwardOf containerId port

theorem Daemon.portBook_forward {containerId owner : String} {port hostPort : UInt16} :
    d.portBook.holds (.forward containerId port) = some (owner, hostPort) ↔
      owner = containerId ∧ ∃ fstate, d.forwardOf containerId port = some fstate ∧
        fstate.hostPort = hostPort := by
  simp only [Daemon.portBook, DevcontainerBridge.portBook, Daemon.forwardOf, Option.map_eq_some_iff,
    Prod.mk.injEq]
  constructor
  · rintro ⟨fstate, hForward, rfl, rfl⟩
    exact ⟨rfl, fstate, hForward, rfl⟩
  · rintro ⟨rfl, fstate, hForward, rfl⟩
    exact ⟨fstate, hForward, rfl, rfl⟩

/-- What exclusive use of the host ports means in one state and for the next
step: live forwards and reservations hold different ports, the table names
the owner of every live forward, and an entry goes only with the forward or
the reservation that it stands for. -/
structure Daemon.PortsExclusive (cfg : HostConfig) (d : Daemon) : Prop where
  forwardsDiffer : ∀ containerId port fstate otherId otherPort other,
    d.forwardOf containerId port = some fstate → d.forwardOf otherId otherPort = some other →
    (containerId, port) ≠ (otherId, otherPort) → fstate.hostPort ≠ other.hostPort
  reservationsDiffer : ∀ containerId port fstate task owner reserved,
    d.forwardOf containerId port = some fstate →
    (d.tasks task).reservation = some (owner, reserved) → fstate.hostPort ≠ reserved
  recorded : ∀ containerId port fstate, d.forwardOf containerId port = some fstate →
    d.ctx.state.usedHostPorts.lookup fstate.hostPort = some containerId
  kept : ∀ action d', Daemon.step cfg d action = some d' → d'.running = true →
    ∀ containerId port fstate, d.forwardOf containerId port = some fstate →
      d'.forwardOf containerId port = some fstate →
      d'.ctx.state.usedHostPorts.lookup fstate.hostPort = some containerId
  removed : ∀ action d', Daemon.step cfg d action = some d' → d'.running = true →
    ∀ hostPort owner, d.ctx.state.usedHostPorts.lookup hostPort = some owner →
      d'.ctx.state.usedHostPorts.lookup hostPort ≠ some owner →
      (∃ containerId port fstate, d.forwardOf containerId port = some fstate ∧
        fstate.hostPort = hostPort ∧ d'.forwardOf containerId port = none) ∨
      ∃ task owner, (d.tasks task).reservation = some (owner, hostPort) ∧
        (d'.tasks task).reservation = none

/-- Host ports are exclusive in every reachable state before the shutdown. -/
theorem hostPorts_exclusive (hReach : Reachable (Daemon.step cfg) (Daemon.start cfg) d)
    (hRunning : d.running = true) : d.PortsExclusive cfg := by
  have hSound := d.reachable_portsSound hReach
  have hBook := hSound.sound hRunning
  refine ⟨?_, ?_, ?_, ?_, ?_⟩
  · intro containerId port fstate otherId otherPort other hForward hOther hDiffer hSame
    have hHere := Daemon.portBook_forward.mpr ⟨rfl, fstate, hForward, hSame⟩
    have hThere := Daemon.portBook_forward.mpr ⟨rfl, other, hOther, rfl⟩
    have hHolder := hBook.exclusive _ _ _ _ _ hHere hThere
    cases hHolder
    exact hDiffer rfl
  · intro containerId port fstate task owner reserved hForward hReserved hSame
    have hHere := Daemon.portBook_forward.mpr ⟨rfl, fstate, hForward, hSame⟩
    have hThere : d.portBook.holds (.handler task) = some (owner, reserved) := hReserved
    cases hBook.exclusive _ _ _ _ _ hHere hThere
  · intro containerId port fstate hForward
    exact hBook.recorded _ _ _ (Daemon.portBook_forward.mpr ⟨rfl, fstate, hForward, rfl⟩)
  · intro action d' hStep hRunning' containerId port fstate _ hForward
    have hMove := Daemon.step_portBook hStep hSound.wellBound hRunning'
    exact (hBook.move hMove).recorded _ _ _
      (Daemon.portBook_forward.mpr ⟨rfl, fstate, hForward, rfl⟩)
  · intro action d' hStep hRunning' hostPort owner hUsed hRemoved
    have hMove := Daemon.step_portBook hStep hSound.wellBound hRunning'
    obtain ⟨holder, owner', hHolds, hEmptied⟩ := hMove.removed hUsed hRemoved
    cases holder with
    | forward containerId port =>
        obtain ⟨rfl, fstate, hForward, hPort⟩ := Daemon.portBook_forward.mp hHolds
        exact .inl ⟨owner', port, fstate, hForward, hPort, Option.map_eq_none_iff.mp hEmptied⟩
    | handler task => exact .inr ⟨task, owner', hHolds, hEmptied⟩

/-- Two containers forward the same port. The second one gets the next host
port, and both tables record it. -/
theorem hostPorts_exclusive_two_containers :
    ∃ d, exec (Daemon.step .basic) (Daemon.start .basic) conflictSchedule = some d ∧
      (d.forwardOf "a" 8080).map ForwardState.hostPort = some 8080 ∧
      (d.forwardOf "b" 8080).map ForwardState.hostPort = some 8081 ∧ d.PortsExclusive .basic := by
  have hRun : (exec (Daemon.step .basic) (Daemon.start .basic) conflictSchedule).any fun d =>
      d.running && (d.forwardOf "a" 8080).map ForwardState.hostPort == some 8080 &&
        (d.forwardOf "b" 8080).map ForwardState.hostPort == some 8081 := by
    decide
  obtain ⟨d, hExec, hState⟩ := (Option.any_eq_true _ _).mp hRun
  simp only [Bool.and_eq_true, beq_iff_eq] at hState
  exact ⟨d, hExec, hState.1.2, hState.2,
    hostPorts_exclusive (reachable_of_exec hExec) hState.1.1⟩

/-- Every key of the host port table is the port of a live forward or one
that a `handle_forward` call has reserved and not yet disposed of. -/
def Daemon.NoLeak (d : Daemon) : Prop :=
  ∀ hostPort ∈ d.ctx.state.usedHostPorts,
    (∃ containerId port fstate, d.forwardOf containerId port = some fstate ∧
      fstate.hostPort = hostPort) ∨
    ∃ task owner, (d.tasks task).reservation = some (owner, hostPort)

/-- The action inserts into the place of a live forward: a registration over
an entry that has forwards, or a forward over one of the same port. -/
def Daemon.Overwrites (d : Daemon) : Action → Prop
  | .task id _ =>
      match d.tasks id with
      | .registerInsert containerId _ _ => ∃ port fstate, d.forwardOf containerId port = some fstate
      | .forwardInsert containerId _ request _ _ _ _ =>
          ∃ fstate, d.forwardOf containerId request.port = some fstate
      | _ => False
  | _ => False

theorem Daemon.noLeak_iff_balanced (hSound : d.portBook.Sound) : d.NoLeak ↔ d.portBook.Balanced := by
  constructor
  · intro h hostPort owner hUsed
    rcases h hostPort (Finmap.mem_of_lookup_eq_some hUsed) with
      ⟨containerId, port, fstate, hForward, hPort⟩ | ⟨task, owner', hReserved⟩
    · have hHolds := Daemon.portBook_forward.mpr ⟨rfl, fstate, hForward, hPort⟩
      have hOwner := (hSound.recorded _ _ _ hHolds).symm.trans hUsed
      exact ⟨_, hHolds.trans (by rw [Option.some.inj hOwner])⟩
    · have hHolds : d.portBook.holds (.handler task) = some (owner', hostPort) := hReserved
      have hOwner := (hSound.recorded _ _ _ hHolds).symm.trans hUsed
      exact ⟨_, hHolds.trans (by rw [Option.some.inj hOwner])⟩
  · intro h hostPort hUsed
    obtain ⟨owner, hLookup⟩ := Finmap.mem_iff.mp hUsed
    obtain ⟨holder, hHolds⟩ := h hostPort owner hLookup
    cases holder with
    | forward containerId port =>
        obtain ⟨-, fstate, hForward, hPort⟩ := Daemon.portBook_forward.mp hHolds
        exact .inl ⟨containerId, port, fstate, hForward, hPort⟩
    | handler task => exact .inr ⟨task, owner, hHolds⟩

/-- An action overwrites exactly when some holder is about to lose its port. -/
theorem Daemon.overwrites_iff {action : Action} :
    d.Overwrites action ↔ ∃ holder ∈ d.overwritten action, d.portBook.holds holder ≠ none := by
  have hHolds : ∀ containerId port, d.portBook.holds (.forward containerId port) ≠ none ↔
      ∃ fstate, d.forwardOf containerId port = some fstate := by
    intro containerId port
    rw [← Option.isSome_iff_ne_none, ← Option.isSome_iff_exists]
    exact Bool.eq_iff_iff.mp Option.isSome_map
  cases action with
  | task id input =>
      simp only [Daemon.Overwrites, Daemon.overwritten]
      generalize d.tasks id = handler
      cases handler with
      | registerInsert containerId _ _ =>
          simp only [Handler.overwritten, Set.mem_ofPred_eq]
          constructor
          · rintro ⟨port, hForward⟩
            exact ⟨_, ⟨port, rfl⟩, (hHolds containerId port).mpr hForward⟩
          · rintro ⟨_, ⟨port, rfl⟩, hNonempty⟩
            exact ⟨port, (hHolds containerId port).mp hNonempty⟩
      | forwardInsert containerId _ request _ _ _ _ =>
          simp only [Handler.overwritten, Set.mem_ofPred_eq]
          constructor
          · rintro ⟨fstate, hForward⟩
            obtain ⟨cstate, hContainer, -⟩ := Option.bind_eq_some_iff.mp hForward
            exact ⟨_, ⟨by rw [hContainer]; rfl, rfl⟩, (hHolds _ _).mpr ⟨fstate, hForward⟩⟩
          · rintro ⟨_, ⟨-, rfl⟩, hNonempty⟩
            exact (hHolds _ _).mp hNonempty
      | _ => simp [Handler.overwritten]
  | clientConnects listener => simp [Daemon.Overwrites, Daemon.overwritten]
  | stop => simp [Daemon.Overwrites, Daemon.overwritten]

/-- One step from an accounted state ends in one exactly if it overwrites no
live forward. -/
theorem Daemon.step_noLeak_iff {action : Action}
    (hReach : Reachable (Daemon.step cfg) (Daemon.start cfg) d)
    (hStep : Daemon.step cfg d action = some d') (h : d.NoLeak) :
    d'.NoLeak ↔ ¬d.Overwrites action := by
  have hSound := d.reachable_portsSound hReach
  have hBook := hSound.sound (Daemon.step_cases hStep).1
  cases hRunning : d'.running with
  | true =>
      have hMove := Daemon.step_portBook hStep hSound.wellBound hRunning
      rw [Daemon.noLeak_iff_balanced (hBook.move hMove), hMove.balanced_iff hBook
        ((Daemon.noLeak_iff_balanced hBook).mp h), Daemon.overwrites_iff]
      simp only [ne_eq, not_exists, not_and, not_not]
  | false =>
      -- the main loop has ended and its final drain has emptied the table
      have hStop : d'.ctx.state.usedHostPorts = ∅ ∧ action = .stop := by
        cases (Daemon.step_cases hStep).2 with
        | stop => exact ⟨rfl, rfl⟩
        | task _ _ =>
            rw [(Daemon.step_cases hStep).1] at hRunning
            cases hRunning
        | clientConnects _ _ _ =>
            rw [(Daemon.step_cases hStep).1] at hRunning
            cases hRunning
      obtain ⟨hEmpty, rfl⟩ := hStop
      refine ⟨fun _ hFalse => hFalse, fun _ hostPort hUsed => ?_⟩
      rw [hEmpty] at hUsed
      exact absurd hUsed (Finmap.notMem_empty)

theorem Daemon.start_noLeak : (Daemon.start cfg).NoLeak :=
  (Daemon.noLeak_iff_balanced Daemon.start_portBook.1).mpr Daemon.start_portBook.2

/-- No reservation is leaked in any state of a run exactly when no insertion
of the run takes the place of a live forward. -/
theorem hostPorts_unleaked_iff (run : Run (Daemon.step cfg) (Daemon.start cfg) trace d) :
    Throughout Daemon.NoLeak trace d ↔ Guarded (fun d action => ¬d.Overwrites action) trace :=
  run.throughout_iff Daemon.start_noLeak
    fun _ _ _ hReach h hStep => Daemon.step_noLeak_iff hReach hStep h

/-- The equivalence on the run in which two containers forward one port. -/
theorem hostPorts_unleaked_iff_two_containers :
    ∃ trace d, trace.map Prod.snd = conflictSchedule ∧
      Run (Daemon.step .basic) (Daemon.start .basic) trace d ∧
      (Throughout Daemon.NoLeak trace d ↔ Guarded (fun d action => ¬d.Overwrites action) trace) := by
  have hRun : (exec (Daemon.step .basic) (Daemon.start .basic) conflictSchedule).isSome := by decide
  obtain ⟨d, hExec⟩ := Option.isSome_iff_exists.mp hRun
  obtain ⟨trace, hActions, run⟩ := run_of_exec hExec
  exact ⟨trace, d, hActions, run, hostPorts_unleaked_iff run⟩

/-- Two connections register the same container id and are both past the
removal of stale state; one inserts and forwards before the other inserts. -/
theorem hostPorts_leak_reregistration :
    ∃ d, exec (Daemon.step .basic) (Daemon.start .basic) overlapSchedule = some d ∧ ¬d.NoLeak := by
  have hRun : (exec (Daemon.step .basic) (Daemon.start .basic) overlapSchedule).any fun d =>
      decide (d.ctx.state.containers = (∅ : Map _ _).insert "c" (HostState.newRegistration "h" 2)) &&
        d.ctx.state.usedHostPorts.lookup 8080 == some "c" &&
        (taskIds overlapSchedule).all fun id => (d.tasks id).reservation == none := by
    decide
  obtain ⟨d, hExec, hState⟩ := (Option.any_eq_true _ _).mp hRun
  simp only [Bool.and_eq_true, beq_iff_eq, decide_eq_true_eq, List.all_eq_true] at hState
  obtain ⟨⟨hContainers, hUsed⟩, hTasks⟩ := hState
  have hNone : ∀ id, (d.tasks id).reservation = none := by
    apply Daemon.exec_forall_tasks (P := fun handler => handler.reservation = none) hExec rfl
    exact hTasks
  refine ⟨d, hExec, fun h => ?_⟩
  rcases h 8080 (Finmap.mem_of_lookup_eq_some hUsed) with
    ⟨containerId, port, fstate, hForward, -⟩ | ⟨task, owner, hReserved⟩
  · by_cases hHere : containerId = "c" <;>
      simp [Daemon.forwardOf, HostState.forwardOf, HostState.newRegistration, hContainers, hHere]
        at hForward
  · rw [hNone task] at hReserved
    cases hReserved

end DevcontainerBridge
