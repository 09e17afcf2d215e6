import DevcontainerBridge.Container.Forwarding

/-! The end of a container daemon: what `run` returns, the exit code that the
program makes of it and the shell loop that supervises the program. -/
namespace DevcontainerBridge

/-- What ends `run` with an error. All but the last come before its loop. -/
inductive ContainerError where
  | hostResolution (attempts : String)
  | filter
  | io
  | authenticationFailed
  deriving DecidableEq, Repr

/-- Exit code for a failure that retrying cannot fix. -/
def exitPermanentFailure : UInt8 := 2

/-- The exit code of `dbr container-daemon` for a result of `run`. -/
def exitCode : Except ContainerError Unit → UInt8
  | .ok () => 0
  | .error .authenticationFailed => exitPermanentFailure
  | .error _ => 1

/-- What `run` returns, at a step that ends its loop. -/
def ContainerDaemon.returned (c : ContainerDaemon) (input : SessionInput) :
    Option (Except ContainerError Unit) :=
  match c.position, input with
  | .awaitingAck, .receive (.registerAck false) => some (.error .authenticationFailed)
  | .backingOff, .waited true => some (.ok ())
  | .farewell [], .proceed => some (.ok ())
  | _, _ => none

/-- The shell loop of the feature's entrypoint by what it waits for. -/
inductive Supervisor where
  | starting
  | running (daemon : ContainerDaemon)
  | sleeping
  | ended (status : UInt8)

inductive SupervisorInput where
  /-- `run` fails before its loop -/
  | startFails (error : ContainerError)
  | started
  | daemon (input : SessionInput)
  /-- a signal ends the daemon, with a status above 128 -/
  | killed
  | slept

namespace Supervisor

/-- `case "$status" in 0|2) break ;; esac; sleep 5` -/
def afterExit (status : UInt8) : Supervisor :=
  if status = 0 ∨ status = 2 then .ended status else .sleeping

/-- One step of the supervisor or of the daemon that it runs. -/
def step (cfg : ContainerConfig) : Supervisor → SupervisorInput → Option Supervisor
  | .starting, .startFails error =>
      if error = .authenticationFailed then none else some (afterExit (exitCode (.error error)))
  | .starting, .started => some (.running .start)
  | .running c, .daemon input =>
      (c.step cfg input).map fun next =>
        match c.returned input with
        | some result => afterExit (exitCode result)
        | none => .running next
  | .running _, .killed => some .sleeping
  | .sleeping, .slept => some .starting
  | _, _ => none

end Supervisor

variable {cfg : ContainerConfig} {c next : ContainerDaemon} {input : SessionInput}

/-- Positions between the connection and the answer to its Register. -/
def Position.enrolling : Position → Bool
  | .sendingRegister | .awaitingAck => true
  | _ => false

namespace ContainerDaemon

theorem enrolling_stepRun (h : c.stepRun c.position input = some next) (hNext : next.position.enrolling = true) :
    input = .connected true ∧ next.position = .sendingRegister ∨
      c.position = .sendingRegister ∧ input = .sent true ∧ next.position = .awaitingAck := by
  unfold stepRun at h
  split at h
  case h_1 ok hPosition =>
    cases ok with
    | true =>
        cases h
        exact .inl ⟨rfl, rfl⟩
    | false =>
        cases h
        exact absurd hNext (by simp [moveTo, Position.enrolling])
  case h_2 ok hPosition =>
    cases ok with
    | true =>
        cases h
        exact .inr ⟨hPosition, rfl, rfl⟩
    | false =>
        cases h
        exact absurd hNext (by simp [moveTo, Position.enrolling])
  case h_3 message hPosition =>
    cases h
    refine absurd hNext ?_
    cases message with
    | registerAck success => cases success <;> simp [moveTo, Position.enrolling]
    | _ => simp [moveTo, Position.enrolling]
  case h_4 hPosition =>
    cases h
    exact absurd hNext (by simp [moveTo, Position.enrolling])
  case h_5 isShutdown hPosition =>
    cases h
    exact absurd hNext (by cases isShutdown <;> simp [moveTo, Position.enrolling])
  case h_6 order hPosition =>
    split_ifs at h
    cases h
    exact absurd hNext (by simp [moveTo, Position.enrolling])
  case h_7 entry rest ok hPosition =>
    cases h
    exact absurd hNext (by cases ok <;> simp [moveTo, Position.enrolling])
  case h_8 hPosition =>
    cases h
    exact absurd hNext (by simp [moveTo, Position.enrolling])
  case h_9 => cases h

theorem returned_stepScan (h : c.stepScan c.position input = some next) :
    ((c.returned input).isSome = true ↔ next.position = .exited) ∧ next.position.enrolling = false := by
  unfold stepScan at h
  unfold returned
  split at h
  case h_1 scan entry rest hPosition =>
    split_ifs at h
    cases h
    simp [hPosition, moveTo, Position.enrolling]
  case h_2 scan entry rest ok hPosition =>
    split_ifs at h <;> cases h <;> simp [hPosition, moveTo, Position.enrolling]
  case h_3 scan port rest ok hPosition =>
    split_ifs at h <;> cases h <;> simp [hPosition, moveTo, Position.enrolling]
  case h_4 scan hPosition =>
    cases h
    simp [hPosition, moveTo, Position.enrolling]
  case h_5 => cases h

theorem position_handleMessage (hPosition : c.position = .loopHead) (message : Message) :
    (c.handleMessage message).position ≠ .exited ∧ (c.handleMessage message).position.enrolling = false := by
  unfold handleMessage
  split <;> simp [moveTo, record, hPosition, Position.enrolling]

theorem returned_stepSession (h : c.stepSession cfg c.position input = some next) :
    ((c.returned input).isSome = true ↔ next.position = .exited) ∧ next.position.enrolling = false := by
  unfold stepSession at h
  unfold returned
  split at h
  case h_1 scan order hPosition =>
    split_ifs at h
    cases h
    simp [hPosition, moveTo, Position.enrolling]
  case h_2 hPosition =>
    cases h
    simp [hPosition, Position.enrolling]
  case h_3 message hPosition =>
    cases h
    simp [hPosition, position_handleMessage hPosition message]
  case h_4 hPosition =>
    cases h
    simp [hPosition, moveTo, Position.enrolling]
  case h_5 relay hPosition =>
    cases h
    simp [hPosition, moveTo, Position.enrolling]
  case h_6 order hPosition =>
    split_ifs at h
    cases h
    simp [hPosition, moveTo, Position.enrolling]
  case h_7 scan order hPosition =>
    split_ifs at h
    cases h
    simp [hPosition, moveTo, Position.enrolling]
  case h_8 ok hPosition => cases ok <;> cases h <;> simp [hPosition, moveTo, Position.enrolling]
  case h_9 relay ok hPosition => cases ok <;> cases h <;> simp [hPosition, moveTo, Position.enrolling]
  case h_10 port rest ok hPosition =>
    cases h
    simp [hPosition, moveTo, Position.enrolling]
  case h_11 hPosition =>
    cases h
    simp [hPosition, moveTo, Position.enrolling]
  case h_12 => cases h

/-- A connection enters its registration by connecting, and waits for the
answer once it has sent Register. -/
theorem enrolling_step (h : c.step cfg input = some next) (hNext : next.position.enrolling = true) :
    input = .connected true ∧ next.position = .sendingRegister ∨
      c.position = .sendingRegister ∧ input = .sent true ∧ next.position = .awaitingAck := by
  rcases step_cases h with hRun | hScan | hSession
  · exact enrolling_stepRun hRun hNext
  · exact absurd hNext (by simp [(returned_stepScan hScan).2])
  · exact absurd hNext (by simp [(returned_stepSession hSession).2])

theorem returned_authenticationFailed (h : c.returned input = some (.error .authenticationFailed)) :
    c.position = .awaitingAck ∧ input = .receive (.registerAck false) := by
  unfold returned at h
  split at h
  case h_1 hPosition => exact ⟨hPosition, rfl⟩
  case h_2 => cases h
  case h_3 => cases h
  case h_4 => cases h

end ContainerDaemon

theorem exitCode_eq_permanent (result : Except ContainerError Unit) :
    exitCode result = exitPermanentFailure ↔ result = .error .authenticationFailed := by
  unfold exitCode exitPermanentFailure
  split <;> simp_all

/-- The daemon that runs after a step has just been started or has taken a step. -/
theorem Supervisor.step_running {s : Supervisor} {input : SupervisorInput}
    (h : s.step cfg input = some (.running next)) :
    next = .start ∨ ∃ c i, s = .running c ∧ input = .daemon i ∧ c.step cfg i = some next := by
  have hExit : ∀ status, afterExit status ≠ .running next := by
    intro status
    unfold afterExit
    split_ifs <;> simp
  unfold step at h
  split at h
  case h_1 =>
    split_ifs at h
    exact absurd (Option.some.inj h) (hExit _)
  case h_2 =>
    cases h
    exact .inl rfl
  case h_3 c i =>
    obtain ⟨after, hStep, hNext⟩ := Option.map_eq_some_iff.mp h
    split at hNext
    · exact absurd hNext (hExit _)
    · cases hNext
      exact .inr ⟨c, i, rfl, rfl, hStep⟩
  case h_4 => cases h
  case h_5 => cases h
  case h_6 => cases h

/-- The supervisor stops on the code of a permanent failure only where the
daemon was told that its registration is rejected. -/
theorem Supervisor.step_ended {s : Supervisor} {input : SupervisorInput}
    (h : s.step cfg input = some (.ended exitPermanentFailure)) :
    ∃ c, s = .running c ∧ c.position = .awaitingAck ∧ input = .daemon (.receive (.registerAck false)) := by
  have hExit : ∀ result : Except ContainerError Unit,
      afterExit (exitCode result) = .ended exitPermanentFailure → result = .error .authenticationFailed := by
    intro result hEnded
    unfold afterExit at hEnded
    split_ifs at hEnded
    exact (exitCode_eq_permanent result).mp (Supervisor.ended.inj hEnded)
  unfold step at h
  split at h
  case h_1 error =>
    split_ifs at h with hError
    cases hExit _ (Option.some.inj h)
    exact absurd rfl hError
  case h_2 => cases h
  case h_3 c input =>
    obtain ⟨next, -, hNext⟩ := Option.map_eq_some_iff.mp h
    split at hNext
    case h_1 result hReturned =>
      rw [hExit result hNext] at hReturned
      obtain ⟨hPosition, rfl⟩ := ContainerDaemon.returned_authenticationFailed hReturned
      exact ⟨c, rfl, hPosition, rfl⟩
    case h_2 => cases hNext
  case h_4 => cases h
  case h_5 => cases h
  case h_6 => cases h

end DevcontainerBridge
