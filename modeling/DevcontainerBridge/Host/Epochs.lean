import DevcontainerBridge.Host.Reservation

/-! Registration epochs. A handler checks its epoch in one critical section
and acts in later ones, so what a registration may do to a container's state
depends on whether a newer registration was inserted in between. -/
namespace DevcontainerBridge

open Table Transition

/-- The registration whose message or disconnect a task is handling. -/
def Handler.owner : Handler → Option (String × Nat)
  | .serving c r | .sendPong c r | .forwardCheck c r _ | .forwardTake c r _ | .forwardDrain c r _ _
  | .forwardReserve c r _ _ | .forwardBind c r _ _ _ | .forwardRelease c r _ _ _
  | .forwardInsert c r _ _ _ _ _ | .forwardBrowser c r _ _ | .forwardAck c r _ _
  | .unforwardCheck c r _ | .unforwardRemove c r _ | .unforwardDrain c r _ _ | .unforwardBrowser c r _
  | .cancelConnect c r _ | .socketLookup c r _ _ | .socketRegister c r _ | .socketConnect c r _ _
  | .socketCancel c r _ | .socketReply c r | .cleanup c r => some (c, r)
  | .openUrl _ origin | .openUrlLaunch origin | .openUrlAck origin => origin
  | _ => none

/-- The registration of a Forward or Unforward that has passed its epoch check
and has yet to lock the state. -/
def Handler.pastCheck : Handler → Option (String × Nat)
  | .forwardTake c r _ | .forwardDrain c r _ _ | .forwardReserve c r _ _ | .forwardBind c r _ _ _
  | .forwardRelease c r _ _ _ | .forwardInsert c r _ _ _ _ _ | .unforwardRemove c r _ => some (c, r)
  | _ => none

/-- A step on behalf of registration `r` of a container leaves the entry of
that container and the host ports of its forwards alone, unless `r` is the
container's registration at that step. -/
def Daemon.RespectsEpoch (d : Daemon) (action : Action) (d' : Daemon) : Prop :=
  ∀ id input containerId registrationId, action = .task id input →
    (d.tasks id).owner = some (containerId, registrationId) →
    d.ctx.state.registrationOf containerId ≠ some registrationId →
    d'.ctx.state.containers.lookup containerId = d.ctx.state.containers.lookup containerId ∧
    ∀ port fstate, d.ctx.state.forwardOf containerId port = some fstate →
      d'.ctx.state.usedHostPorts.lookup fstate.hostPort =
        d.ctx.state.usedHostPorts.lookup fstate.hostPort

/-- No registration of a container is inserted while a Forward or Unforward
of the same container id is past its epoch check. -/
def Daemon.NoTakeover (d : Daemon) : Action → Prop
  | .task id _ =>
      match d.tasks id with
      | .registerInsert containerId _ _ =>
          ∀ task registrationId, (d.tasks task).pastCheck ≠ some (containerId, registrationId)
      | _ => True
  | _ => True

/-- What a handler past its check may rely on: the container is still in its
registration or is not registered at all. -/
def HostState.Covers (s : HostState) (handler : Handler) : Prop :=
  ∀ containerId registrationId, handler.pastCheck = some (containerId, registrationId) →
    s.registrationOf containerId = none ∨ s.registrationOf containerId = some registrationId

namespace HostState

theorem registrationOf_eq_none_iff {s : HostState} {containerId : String} :
    s.registrationOf containerId = none ↔ s.containers.lookup containerId = none :=
  Option.map_eq_none_iff

theorem forwardOf_of_unregistered {s : HostState} {containerId : String} {port : UInt16}
    (h : s.registrationOf containerId = none) : s.forwardOf containerId port = none := by
  unfold forwardOf
  rw [registrationOf_eq_none_iff.mp h]
  rfl

theorem registrationOf_removeContainer (s : HostState) (containerId other : String)
    (forwards : Forwards) :
    ((s.removeContainer containerId).releaseForwards forwards).registrationOf other =
      if other = containerId then none else s.registrationOf other := by
  simp only [registrationOf, releaseForwards, removeContainer, lookup_erase]
  split_ifs <;> rfl

theorem registrationOf_insertContainer (s : HostState) (containerId hostname other : String)
    (registrationId : Nat) :
    (s.insertContainer containerId hostname registrationId).registrationOf other =
      if other = containerId then some registrationId else s.registrationOf other := by
  simp only [registrationOf, insertContainer, setContainer, lookup_insert]
  split_ifs <;> rfl

theorem registrationOf_setForwards {s : HostState} {containerId : String} {cstate : ContainerState}
    (hContainer : s.containers.lookup containerId = some cstate) (forwards : Forwards) (other : String) :
    (s.setContainer containerId { cstate with forwards := forwards }).registrationOf other =
      s.registrationOf other := by
  simp only [registrationOf, setContainer, lookup_insert]
  split_ifs with hOther
  · rw [hOther, hContainer]
    rfl
  · rfl

theorem registrationOf_removeForward (s : HostState) (containerId other : String) (port : UInt16) :
    (s.removeForward containerId port).1.registrationOf other = s.registrationOf other := by
  unfold removeForward
  split
  case h_1 => rfl
  case h_2 cstate hContainer =>
    split
    case h_1 => rfl
    case h_2 => exact registrationOf_setForwards hContainer _ other

end HostState

variable {ctx after : DaemonContext} {handler next : Handler}

/-- A step keeps the registration of a container, removes it or inserts one. -/
theorem HostStep.registrationOf (hStep : HostStep ctx handler after next) (hBound : handler.WellBound)
    (containerId : String) :
    after.state.registrationOf containerId = ctx.state.registrationOf containerId ∨
      after.state.registrationOf containerId = none ∨
      ∃ hostname registrationId, handler = .registerInsert containerId hostname registrationId := by
  have same : ∀ {s : HostState}, s.containers = ctx.state.containers →
      s.registrationOf containerId = ctx.state.registrationOf containerId := by
    intro s hContainers
    unfold HostState.registrationOf
    rw [hContainers]
  cases hStep with
  | quiet _ _ hSame => exact .inl (same hSame.containers)
  | advance _ hSame => exact .inl (same hSame.containers)
  | registerRemove hRemove =>
      obtain ⟨cstate, -, -, rfl⟩ := HostState.removeStale_some hRemove
      rw [HostState.registrationOf_removeContainer]
      split_ifs
      · exact .inr (.inl rfl)
      · exact .inl rfl
  | cleanup hTake =>
      obtain ⟨cstate, -, -, -, rfl⟩ := HostState.takeContainer_some hTake
      rw [HostState.registrationOf_removeContainer]
      split_ifs
      · exact .inr (.inl rfl)
      · exact .inl rfl
  | @registerInsert inserted hostname registrationId =>
      rw [HostState.registrationOf_insertContainer]
      split_ifs with hHere
      · exact .inr (.inr ⟨hostname, registrationId, by rw [hHere]⟩)
      · exact .inl rfl
  | forwardTake => exact .inl (HostState.registrationOf_removeForward _ _ _ _)
  | unforwardRemove => exact .inl (HostState.registrationOf_removeForward _ _ _ _)
  | unforwardGlobal => exact .inl (HostState.registrationOf_removeForward _ _ _ _)
  | forwardInsert hPort _ hInserted =>
      obtain ⟨cstate, hContainer, hState⟩ :=
        HostState.insertForward_bound hInserted (hPort.trans hBound)
      exact .inl ((congrArg (fun s => HostState.registrationOf s containerId) hState).trans
        (HostState.registrationOf_setForwards hContainer _ containerId))
  | forwardGone _ hState _ => exact .inl (same (by rw [hState]; rfl))
  | _ => exact .inl (same rfl)

theorem Handler.pastCheck_of_not_engaged (h : handler.engaged = false) : handler.pastCheck = none := by
  cases handler <;> first | rfl | cases h

/-- A task gets past a check only in the registration that it checked. -/
theorem HostStep.pastCheck (hStep : HostStep ctx handler after next) {containerId : String}
    {registrationId : Nat} (h : next.pastCheck = some (containerId, registrationId)) :
    after.state.registrationOf containerId = some registrationId ∨
      handler.pastCheck = some (containerId, registrationId) := by
  cases hStep with
  | quiet _ hAfter _ =>
      rw [Handler.pastCheck_of_not_engaged hAfter] at h
      cases h
  | advance hMove hSame =>
      have hKept : after.state.registrationOf containerId = ctx.state.registrationOf containerId := by
        unfold HostState.registrationOf
        rw [hSame.containers]
      cases hMove with
      | forwardCheck hOwner =>
          cases h
          exact .inl (hKept.trans hOwner)
      | unforwardCheck hOwner =>
          cases h
          exact .inl (hKept.trans hOwner)
      | _ => first | exact .inr h | cases h
  | _ => first | exact .inr h | cases h

/-- The registrations that handlers rely on survive an admitted step. -/
theorem Daemon.step_covers {cfg : HostConfig} {d d' : Daemon} {action : Action}
    (hStep : Daemon.step cfg d action = some d') (hBound : ∀ id, (d.tasks id).WellBound)
    (hAdmitted : d.NoTakeover action) (hBefore : ∀ id, d.ctx.state.Covers (d.tasks id)) :
    ∀ id, d'.ctx.state.Covers (d'.tasks id) := by
  intro other containerId registrationId hPast
  cases (Daemon.step_cases hStep).2 with
  | clientConnects _ hState _ =>
      have hCovered := hBefore other containerId registrationId hPast
      rwa [← hState] at hCovered
  | stop => exact .inl rfl
  | @task id input after next _ hTask =>
      -- what the handler relied on before the step, unless it checks just now
      have hBefore' : after.state.registrationOf containerId = some registrationId ∨
          (d.tasks other).pastCheck = some (containerId, registrationId) := by
        by_cases hOther : other = id
        · subst hOther
          simp only [Function.update_self] at hPast
          exact hTask.pastCheck hPast
        · simp only [Function.update_of_ne hOther] at hPast
          exact .inr hPast
      rcases hBefore' with hOwner | hSame
      · exact .inr hOwner
      have hCovered := hBefore other containerId registrationId hSame
      rcases hTask.registrationOf (hBound id) containerId with hKept | hNone | ⟨hostname, inserted, hInsert⟩
      · rwa [← hKept] at hCovered
      · exact .inl hNone
      · simp only [Daemon.NoTakeover, hInsert] at hAdmitted
        exact absurd hSame (hAdmitted other registrationId)

/-- A step of a covered handler respects the epochs. Where the container has
another registration the handler is not past a check, and where it has none
there is no forward to change. -/
theorem HostStep.respectsEpoch (hStep : HostStep ctx handler after next)
    (hCovered : ctx.state.Covers handler) {containerId : String} {registrationId : Nat}
    (hOwner : handler.owner = some (containerId, registrationId))
    (hOther : ctx.state.registrationOf containerId ≠ some registrationId) :
    after.state.containers.lookup containerId = ctx.state.containers.lookup containerId ∧
    ∀ port fstate, ctx.state.forwardOf containerId port = some fstate →
      after.state.usedHostPorts.lookup fstate.hostPort =
        ctx.state.usedHostPorts.lookup fstate.hostPort := by
  have hGone : handler.pastCheck = some (containerId, registrationId) →
      ctx.state.registrationOf containerId = none :=
    fun hPast => (hCovered containerId registrationId hPast).resolve_right hOther
  have hNothing : handler.pastCheck = some (containerId, registrationId) → ∀ port fstate,
      ctx.state.forwardOf containerId port ≠ some fstate := by
    intro hPast port fstate hForward
    rw [HostState.forwardOf_of_unregistered (hGone hPast)] at hForward
    cases hForward
  cases hStep with
  | quiet _ _ hSame => exact ⟨by rw [hSame.containers], fun _ _ _ => by rw [hSame.usedHostPorts]⟩
  | advance _ hSame => exact ⟨by rw [hSame.containers], fun _ _ _ => by rw [hSame.usedHostPorts]⟩
  | forwardTake hOld =>
      cases hOwner
      rw [HostState.removeForward_snd] at hOld
      exact absurd hOld (hNothing rfl _ _)
  | unforwardRemove hOld =>
      cases hOwner
      rw [HostState.removeForward_snd] at hOld
      exact absurd hOld (hNothing rfl _ _)
  | forwardReserve =>
      cases hOwner
      exact ⟨rfl, fun port fstate hForward => absurd hForward (hNothing rfl port fstate)⟩
  | forwardRelease =>
      cases hOwner
      exact ⟨rfl, fun port fstate hForward => absurd hForward (hNothing rfl port fstate)⟩
  | forwardInsert hPort _ hInserted =>
      cases hOwner
      have hAbsent := HostState.registrationOf_eq_none_iff.mp (hGone rfl)
      simp [HostState.insertForward, hAbsent] at hInserted
  | forwardGone _ hState _ =>
      cases hOwner
      exact ⟨by rw [hState]; rfl, fun port fstate hForward => absurd hForward (hNothing rfl port fstate)⟩
  | cleanup hTake =>
      cases hOwner
      obtain ⟨cstate, hContainer, -, hRegistration, -⟩ := HostState.takeContainer_some hTake
      exact absurd (by simp [HostState.registrationOf, hContainer, hRegistration]) hOther
  | _ => first | exact ⟨rfl, fun _ _ _ => rfl⟩ | cases hOwner

/-- In a run in which no takeover falls between a check and the locks that it
guards, every step respects the epochs. -/
theorem epochs_isolated {cfg : HostConfig} {trace : List (Daemon × Action)} {finish : Daemon}
    (run : Run (Daemon.step cfg) (Daemon.start cfg) trace finish)
    (hAdmitted : Guarded Daemon.NoTakeover trace) :
    ∀ d action d', (d, action) ∈ trace → Daemon.step cfg d action = some d' →
      d.RespectsEpoch action d' := by
  have hCovered : Throughout (fun d => (∀ id, (d.tasks id).WellBound) ∧
      ∀ id, d.ctx.state.Covers (d.tasks id)) trace finish := by
    refine run.throughout hAdmitted ⟨Daemon.start_wellBound, ?_⟩ ?_
    · intro id containerId registrationId _
      exact .inl rfl
    · intro middle action after hMiddle hAction hStep
      exact ⟨Daemon.step_wellBound hStep hMiddle.1,
        Daemon.step_covers hStep hMiddle.1 hAction hMiddle.2⟩
  intro d action d' hEntry hStep id input containerId registrationId hTask hOwner hOther
  subst hTask
  have hHere := (hCovered.1 (d, .task id input) hEntry).2 id
  cases (Daemon.step_cases hStep).2 with
  | task _ hHostStep => exact hHostStep.respectsEpoch hHere hOwner hOther

/-- No takeover, as far as some tasks are concerned. -/
def Daemon.noTakeoverAmong (ids : List Nat) (d : Daemon) : Action → Bool
  | .task id _ =>
      match d.tasks id with
      | .registerInsert containerId _ _ =>
          ids.all fun task => (d.tasks task).pastCheck.all fun owner => owner.1 != containerId
      | _ => true
  | _ => true

theorem Daemon.noTakeover_of_among {ids : List Nat} {d : Daemon} {action : Action}
    (hOthers : ∀ other ∉ ids, (d.tasks other).pastCheck = none) (h : d.noTakeoverAmong ids action = true) :
    d.NoTakeover action := by
  unfold Daemon.noTakeoverAmong at h
  unfold Daemon.NoTakeover
  split at h
  case h_1 id input =>
    split at h
    case h_1 containerId hostname registrationId hHere =>
      intro task registrationId hPast
      by_cases hTask : task ∈ ids
      · have hAmong := List.all_eq_true.mp h task hTask
        rw [hPast] at hAmong
        simp at hAmong
      · rw [hOthers task hTask] at hPast
        cases hPast
    case h_2 => trivial
  case h_2 hElse =>
    cases action with
    | task id input => exact absurd rfl (hElse id input)
    | _ => trivial

/-- A container registers again from a second connection and forwards its port
again. The first connection is told to take the port away and ends. -/
def renewSchedule : List Action :=
  singleSchedule ++ reannounceSchedule 2 "c" "h" "" ++ enterSchedule 2 ++ forwardSchedule 2 8080 8080
    ++ [.receive (.unforward 8080), .proceed, .proceed].map (.task 1)

/-- The superseded connection finds nothing of its own. -/
theorem epochs_isolated_renewed :
    ∃ trace finish, Run (Daemon.step .basic) (Daemon.start .basic) trace finish ∧
      trace.map Prod.snd = renewSchedule ∧ finish.ctx.state.registrationOf "c" = some 2 ∧
      (finish.ctx.state.forwardOf "c" 8080).isSome = true ∧
      ∀ d action d', (d, action) ∈ trace → Daemon.step .basic d action = some d' →
        d.RespectsEpoch action d' := by
  have hRun : (execWhile (Daemon.step .basic) (Daemon.noTakeoverAmong [1, 2]) (Daemon.start .basic)
      renewSchedule).any fun finish =>
        finish.ctx.state.registrationOf "c" == some 2 && (finish.ctx.state.forwardOf "c" 8080).isSome := by
    decide
  obtain ⟨finish, hExec, hEnd⟩ := (Option.any_eq_true _ _).mp hRun
  simp only [Bool.and_eq_true, beq_iff_eq] at hEnd
  obtain ⟨trace, hActions, run, hGuard⟩ := run_of_execWhile hExec
  have hTasks : ∀ entry ∈ trace, ∀ id ∈ entry.2.task?, id ∈ [1, 2] := by
    intro entry hEntry
    have hAll : ∀ action ∈ renewSchedule, ∀ id ∈ action.task?, id ∈ [1, 2] := by
      simp [renewSchedule, singleSchedule, announceSchedule, reannounceSchedule, enterSchedule, forwardSchedule,
        Action.task?]
    exact hAll entry.2 (hActions ▸ List.mem_map_of_mem hEntry)
  have hIdle := Daemon.tasks_unmentioned run hTasks
  have hAdmitted : Guarded Daemon.NoTakeover trace := fun entry hEntry =>
    Daemon.noTakeover_of_among (fun other hOther => by rw [hIdle.1 entry hEntry other hOther]; rfl)
      (hGuard entry hEntry)
  exact ⟨trace, finish, run, hActions, hEnd.1, hEnd.2, epochs_isolated run hAdmitted⟩

/-- A Forward of the first registration is bound when a second connection
takes the container id over; its insertion then changes the new entry. -/
theorem epochs_fail_on_takeover :
    ∃ d d', exec (Daemon.step .basic) (Daemon.start .basic) takeoverSchedule = some d ∧
      Daemon.step .basic d (.task 1 (.timestamp "0")) = some d' ∧
      (d.tasks 1).owner = some ("c", 1) ∧ d.ctx.state.registrationOf "c" = some 2 ∧
      d.ctx.state.forwardOf "c" 8080 = none ∧ (d'.ctx.state.forwardOf "c" 8080).isSome ∧
      ¬d.RespectsEpoch (.task 1 (.timestamp "0")) d' := by
  have hRun : (exec (Daemon.step .basic) (Daemon.start .basic) takeoverSchedule).any fun d =>
      (d.tasks 1).owner == some ("c", 1) && d.ctx.state.registrationOf "c" == some 2 &&
        d.ctx.state.forwardOf "c" 8080 == none &&
        (Daemon.step .basic d (.task 1 (.timestamp "0"))).any fun d' =>
          (d'.ctx.state.forwardOf "c" 8080).isSome := by
    decide
  obtain ⟨d, hExec, hState⟩ := (Option.any_eq_true _ _).mp hRun
  simp only [Bool.and_eq_true, beq_iff_eq] at hState
  obtain ⟨⟨⟨hOwner, hRegistered⟩, hBefore⟩, hStep⟩ := hState
  obtain ⟨d', hStep, hAfter⟩ := (Option.any_eq_true _ _).mp hStep
  refine ⟨d, d', hExec, hStep, hOwner, hRegistered, hBefore, hAfter, fun h => ?_⟩
  have hSame := (h 1 _ "c" 1 rfl hOwner (by rw [hRegistered]; decide)).1
  have hForward : d'.ctx.state.forwardOf "c" 8080 = d.ctx.state.forwardOf "c" 8080 := by
    unfold HostState.forwardOf
    rw [hSame]
  rw [hForward, hBefore] at hAfter
  cases hAfter

end DevcontainerBridge
