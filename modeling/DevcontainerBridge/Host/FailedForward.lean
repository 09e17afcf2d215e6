import DevcontainerBridge.Host.Reservation

/-! Forward requests that end in a refusal. The handler runs on its own, from
the message to its answer. A refusal gives back what `handle_forward` has
reserved, but not the forward of the same port that it has replaced. -/
namespace DevcontainerBridge

open Table Transition

/-- One Forward message is handled while no other task takes a step. -/
def handleForward (position : DaemonContext × Handler) (input : Input) : Option (DaemonContext × Handler) :=
  nextForward position.1 position.2 input

variable {start ctx after : DaemonContext} {handler next : Handler} {input : Input}
  {containerId : String} {registrationId : Nat} {port : UInt16}

namespace HostState

/-- The limit refuses new ports only. -/
theorem removeForward_of_limit {s : HostState} (h : s.takeForward containerId port = none) :
    (s.removeForward containerId port).1 = s := by
  refine removeForward_fst_of_none ?_
  rw [removeForward_snd]
  unfold takeForward at h
  split at h
  case h_1 => cases h
  case h_2 cstate hContainer =>
    split_ifs at h with hLimit
    rw [forwardOf, hContainer]
    exact Finmap.lookup_eq_none.mpr hLimit.2

theorem registered_removeForward {s : HostState} (h : s.containers.lookup containerId ≠ none) :
    (s.removeForward containerId port).1.containers.lookup containerId ≠ none := by
  unfold removeForward
  split
  case h_1 => exact h
  case h_2 => split <;> simp_all [setContainer, releasePort]

/-- A reservation of a free port that is released again leaves no trace. -/
theorem releasePort_reservePort {s : HostState} {targetPort : UInt16}
    (h : s.usedHostPorts.lookup targetPort = none) (owner : String) :
    (s.reservePort targetPort owner).releasePort targetPort = s := by
  have hPorts : (s.usedHostPorts.insert targetPort owner).erase targetPort = s.usedHostPorts := by
    apply Finmap.ext_lookup
    intro other
    rw [lookup_erase, lookup_insert]
    split_ifs with hOther
    · rw [hOther, h]
    · rfl
  unfold reservePort releasePort
  rw [hPorts]

end HostState

/-- What a Forward handler that runs on its own has done at each position. -/
def Handler.Underway (start : DaemonContext) (containerId : String) (port : UInt16) (ctx : DaemonContext) :
    Handler → Prop
  | .forwardCheck owner _ request =>
      owner = containerId ∧ request.port = port ∧ ctx.state = start.state ∧ ctx.browser = start.browser
  | .forwardTake owner _ request =>
      owner = containerId ∧ request.port = port ∧ ctx.state = start.state ∧ ctx.browser = start.browser ∧
        start.state.containers.lookup containerId ≠ none
  | .forwardDrain owner _ request _ | .forwardReserve owner _ request _ =>
      owner = containerId ∧ request.port = port ∧
        ctx.state = (start.state.removeForward containerId port).1 ∧ ctx.browser = start.browser ∧
        ctx.state.containers.lookup containerId ≠ none
  | .forwardBind owner _ request _ targetPort | .forwardRelease owner _ request _ targetPort =>
      owner = containerId ∧ request.port = port ∧
        ctx.state = (start.state.removeForward containerId port).1.reservePort targetPort containerId ∧
        (start.state.removeForward containerId port).1.usedHostPorts.lookup targetPort = none ∧
        ctx.browser = start.browser ∧ ctx.state.containers.lookup containerId ≠ none
  | .forwardInsert owner .. =>
      owner = containerId ∧ ctx.state.containers.lookup containerId ≠ none
  | .forwardAck _ _ _ none =>
      ctx.state = (start.state.removeForward containerId port).1 ∧ ctx.browser = start.browser
  | _ => True

theorem handleForward_underway (hUnderway : handler.Underway start containerId port ctx)
    (hStep : handleForward (ctx, handler) input = some (after, next)) :
    next.Underway start containerId port after := by
  unfold handleForward nextForward at hStep
  dsimp only at hStep
  split at hStep
  case h_1 owner registrationId request =>
    obtain ⟨rfl, hPort, hState, hBrowser⟩ := hUnderway
    split_ifs at hStep with hOwner
    · cases hStep
      refine ⟨rfl, hPort, hState, hBrowser, ?_⟩
      intro hGone
      rw [hState, HostState.registrationOf, hGone] at hOwner
      cases hOwner
    · cases hStep
      trivial
  case h_2 owner registrationId request =>
    obtain ⟨rfl, rfl, hState, hBrowser, hRegistered⟩ := hUnderway
    rw [hState] at hStep
    split at hStep
    case h_1 hLimit =>
      cases hStep
      exact ⟨by rw [HostState.removeForward_of_limit hLimit, hState], hBrowser⟩
    case h_2 state hTake =>
      cases hStep
      obtain ⟨rfl, -⟩ := takeForward_cases hTake
      exact ⟨rfl, rfl, rfl, hBrowser, HostState.registered_removeForward hRegistered⟩
    case h_3 state old hTake =>
      cases hStep
      obtain ⟨rfl, -⟩ := takeForward_cases hTake
      exact ⟨rfl, rfl, rfl, hBrowser, HostState.registered_removeForward hRegistered⟩
  case h_3 owner registrationId request old timedOut =>
    obtain ⟨hOwner, hPort, hState, hBrowser, hRegistered⟩ := hUnderway
    obtain ⟨middle, hTear, hPair⟩ := Option.map_eq_some_iff.mp hStep
    cases hPair
    obtain ⟨hSameState, hSameBrowser⟩ := tearDown_tables hTear
    rw [← hSameState] at hState hRegistered
    rw [← hSameBrowser] at hBrowser
    exact ⟨hOwner, hPort, hState, hBrowser, hRegistered⟩
  case h_4 owner registrationId request replaced =>
    obtain ⟨rfl, rfl, hState, hBrowser, hRegistered⟩ := hUnderway
    split at hStep
    case h_1 => cases hStep
    case h_2 =>
      cases hStep
      exact ⟨hState, hBrowser⟩
    case h_3 targetPort hFree =>
      cases hStep
      have hUnused := (findAvailablePort_found hFree).1
      rw [hState] at hUnused
      exact ⟨rfl, rfl, by rw [hState], hUnused, hBrowser, hRegistered⟩
  case h_5 owner registrationId request replaced targetPort result =>
    obtain ⟨hOwner, hPort, hState, hUnused, hBrowser, hRegistered⟩ := hUnderway
    split at hStep
    case h_1 =>
      cases hStep
      exact ⟨hOwner, hPort, hState, hUnused, hBrowser, hRegistered⟩
    case h_2 boundPort =>
      split_ifs at hStep
      cases hStep
      exact ⟨hOwner, hRegistered⟩
  case h_6 owner registrationId request replaced targetPort =>
    obtain ⟨-, -, hState, hUnused, hBrowser, -⟩ := hUnderway
    cases hStep
    refine ⟨?_, hBrowser⟩
    dsimp only
    rw [hState, HostState.releasePort_reservePort hUnused]
  case h_7 owner registrationId request replaced targetPort hostPort listener now =>
    obtain ⟨rfl, hRegistered⟩ := hUnderway
    split at hStep
    case h_1 =>
      cases hStep
      trivial
    case h_2 state hInsert =>
      -- the container is still registered, so the orphan branch is not taken
      exact absurd (insertForward_snd_false (congrArg Prod.snd hInsert)).1 hRegistered
  case h_8 =>
    cases hStep
    trivial
  case h_9 owner registrationId answered result ok =>
    unfold afterSend leaveLoop at hStep
    split_ifs at hStep <;> cases hStep <;> trivial
  case h_10 => cases hStep

theorem handleForward_refused {trace : List ((DaemonContext × Handler) × Input)} {answered : UInt16}
    {answerTo : String} {cfg : HostConfig} {protocol : Protocol} {processName : Option String}
    {pid : Option UInt32}
    (run : Run handleForward
      (start, dispatchContainer cfg containerId registrationId (.forward port protocol processName pid))
      trace (after, .forwardAck answerTo registrationId answered none)) :
    after.state = (start.state.removeForward containerId port).1 ∧ after.browser = start.browser := by
  have hReach : Reachable handleForward _ (after, .forwardAck answerTo registrationId answered none) :=
    ⟨trace, run⟩
  exact hReach.invariant (fun position => position.2.Underway start containerId port position.1)
    ⟨rfl, rfl, rfl, rfl⟩ fun _ _ _ hMiddle hStep => handleForward_underway hMiddle hStep

/-- A refused Forward changes nothing but the forward of its own port: where
the container had one, it is gone and its host port is free. The tables are
what they were exactly when there was none. -/
theorem refusedForward_effect (cfg : HostConfig) (start after : DaemonContext)
    (containerId : String) (registrationId : Nat) (port : UInt16) (protocol : Protocol)
    (processName : Option String) (pid : Option UInt32)
    (trace : List ((DaemonContext × Handler) × Input))
    (run : Run handleForward
      (start, dispatchContainer cfg containerId registrationId (.forward port protocol processName pid))
      trace (after, .forwardAck containerId registrationId port none)) :
    after.browser.portMap = start.browser.portMap ∧
    (∀ owner q, after.state.forwardOf owner q =
      if owner = containerId ∧ q = port then none else start.state.forwardOf owner q) ∧
    (∀ hostPort, after.state.usedHostPorts.lookup hostPort =
      if (start.state.forwardOf containerId port).map ForwardState.hostPort = some hostPort then none
      else start.state.usedHostPorts.lookup hostPort) ∧
    (SameTables start after ↔ start.state.forwardOf containerId port = none) := by
  obtain ⟨hState, hBrowser⟩ := handleForward_refused run
  have hForwards : ∀ owner q, after.state.forwardOf owner q =
      if owner = containerId ∧ q = port then none else start.state.forwardOf owner q := by
    intro owner q
    rw [hState, HostState.forwardOf_removeForward]
  refine ⟨by rw [hBrowser], hForwards, ?_, ?_⟩
  · intro hostPort
    rw [hState]
    cases hOld : start.state.forwardOf containerId port with
    | none =>
        rw [HostState.removeForward_fst_of_none (by rw [HostState.removeForward_snd, hOld])]
        rfl
    | some old =>
        rw [HostState.usedHostPorts_removeForward hOld]
        simp only [Option.map_some, Option.some.injEq, eq_comm]
  · constructor
    · intro hSame
      have hGone := hForwards containerId port
      rw [HostState.forwardOf_congr hSame.containers, if_pos ⟨rfl, rfl⟩] at hGone
      exact hGone
    · intro hNone
      have hKept : (start.state.removeForward containerId port).1 = start.state :=
        HostState.removeForward_fst_of_none (by rw [HostState.removeForward_snd, hNone])
      rw [hKept] at hState
      exact ⟨by rw [hState], by rw [hState], by rw [hBrowser]⟩

/-- The Forward message that a handler is about to answer with a refusal. -/
def Handler.refusal : Handler → Option (String × Nat × UInt16)
  | .forwardAck containerId registrationId port none => some (containerId, registrationId, port)
  | _ => none

theorem Handler.refusal_eq_some (h : handler.refusal = some (containerId, registrationId, port)) :
    handler = .forwardAck containerId registrationId port none := by
  unfold refusal at h
  split at h
  · cases h
    rfl
  · cases h

/-- The container of `singleSchedule` sends Forward once more, and the host
can bind no listener. -/
def refuseAgain (port : UInt16) (inputs : List Input) : Option (DaemonContext × DaemonContext × Handler) :=
  (exec (Daemon.step .basic) (Daemon.start .basic) singleSchedule).bind fun d =>
    (exec handleForward (d.ctx, dispatchContainer .basic "c" 1 (.forward port .tcp none none)) inputs).map
      fun position => (d.ctx, position)

theorem refuseAgain_run {inputs : List Input} (h : refuseAgain port inputs = some (start, after, handler))
    (hRefusal : handler.refusal = some ("c", 1, port)) :
    ∃ d trace, exec (Daemon.step .basic) (Daemon.start .basic) singleSchedule = some d ∧ d.ctx = start ∧
      Run handleForward (start, dispatchContainer .basic "c" 1 (.forward port .tcp none none)) trace
        (after, .forwardAck "c" 1 port none) := by
  unfold refuseAgain at h
  obtain ⟨d, hExec, hRest⟩ := Option.bind_eq_some_iff.mp h
  obtain ⟨position, hForward, hPair⟩ := Option.map_eq_some_iff.mp hRest
  cases hPair
  obtain ⟨trace, -, run⟩ := run_of_exec hForward
  rw [Handler.refusal_eq_some hRefusal] at run
  exact ⟨d, trace, hExec, rfl, run⟩

/-- A new port that cannot be bound: the tables are what they were. -/
theorem refusedForward_effect_unbound :
    ∃ d trace after, exec (Daemon.step .basic) (Daemon.start .basic) singleSchedule = some d ∧
      Run handleForward (d.ctx, dispatchContainer .basic "c" 1 (.forward 9090 .tcp none none)) trace
        (after, .forwardAck "c" 1 9090 none) ∧
      SameTables d.ctx after := by
  have hRun : (refuseAgain 9090 [.proceed, .proceed, .proceed, .bound none, .proceed]).any fun result =>
      result.2.2.refusal == some ("c", 1, 9090) && result.1.state.forwardOf "c" 9090 == none := by
    decide
  obtain ⟨⟨start, after, handler⟩, hRefused, hTests⟩ := (Option.any_eq_true _ _).mp hRun
  simp only [Bool.and_eq_true, beq_iff_eq] at hTests
  obtain ⟨d, trace, hExec, rfl, run⟩ := refuseAgain_run hRefused hTests.1
  have hEffect := refusedForward_effect .basic d.ctx after "c" 1 9090 .tcp none none trace run
  exact ⟨d, trace, after, hExec, run, hEffect.2.2.2.mpr hTests.2⟩

/-- The same for the port that is forwarded already: the forward is lost. -/
theorem refusedForward_drops :
    ∃ d trace after, exec (Daemon.step .basic) (Daemon.start .basic) singleSchedule = some d ∧
      Run handleForward (d.ctx, dispatchContainer .basic "c" 1 (.forward 8080 .tcp none none)) trace
        (after, .forwardAck "c" 1 8080 none) ∧
      d.ctx.state.forwardOf "c" 8080 = some onlyForward ∧ after.state.forwardOf "c" 8080 = none ∧
      d.ctx.state.usedHostPorts.lookup 8080 = some "c" ∧ after.state.usedHostPorts.lookup 8080 = none := by
  have hRun : (refuseAgain 8080 [.proceed, .proceed, .drained [], .proceed, .bound none, .proceed]).any
      fun result => result.2.2.refusal == some ("c", 1, 8080) &&
        (result.1.state.forwardOf "c" 8080 == some onlyForward &&
          result.2.1.state.forwardOf "c" 8080 == none) &&
        (result.1.state.usedHostPorts.lookup 8080 == some "c" &&
          result.2.1.state.usedHostPorts.lookup 8080 == none) := by
    decide
  obtain ⟨⟨start, after, handler⟩, hRefused, hTests⟩ := (Option.any_eq_true _ _).mp hRun
  simp only [Bool.and_eq_true, beq_iff_eq] at hTests
  obtain ⟨⟨hRefusal, hForwards⟩, hPorts⟩ := hTests
  obtain ⟨d, trace, hExec, rfl, run⟩ := refuseAgain_run hRefused hRefusal
  exact ⟨d, trace, after, hExec, run, hForwards.1, hForwards.2, hPorts.1, hPorts.2⟩

end DevcontainerBridge
