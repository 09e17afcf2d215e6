import DevcontainerBridge.Host.Epochs
import DevcontainerBridge.Host.Replay

/-! What connections can do that never present the token. They are taken out
of a run by a simulation: the run without them keeps the same tables, ports
and listeners and differs in hidden parts only. -/
namespace DevcontainerBridge

open Table Transition

/-- Positions that a connection without the token can be in, apart from the
ones of a one-shot Unforward. -/
def Handler.outsider : Handler → Bool
  | .idle | .finished | .awaitFirst | .replying _ | .listForwards | .openUrl _ none
  | .openUrlLaunch none | .openUrlAck none | .proxy .handshake | .proxy (.resolving _)
  | .proxy .finished => true
  | _ => false

/-- Positions of a one-shot Unforward. -/
def Handler.unforwarding : Handler → Bool
  | .unforwardGlobal _ | .unforwardGlobalBrowser .. | .unforwardGlobalDrain .. => true
  | _ => false

/-- The inputs of a connection none of whose messages carries the token. -/
def Input.Tokenless (token : String) : Input → Prop
  | .receive message => message.credential ≠ some token
  | .spawnClient | .spawnBridge => False
  | _ => True

/-- A step that takes nothing but forwards away, together with their host
ports and port mappings. -/
structure OnlyUnforwards (ctx after : DaemonContext) : Prop where
  captures : after.proxy.captures = ctx.proxy.captures
  shutdownSignal : after.shutdownSignal = ctx.shutdownSignal
  socketForwards : after.state.socketForwards = ctx.state.socketForwards
  registrationOf : ∀ containerId,
    after.state.registrationOf containerId = ctx.state.registrationOf containerId
  forwardOf : ∀ containerId port,
    after.state.forwardOf containerId port = ctx.state.forwardOf containerId port ∨
      after.state.forwardOf containerId port = none
  usedHostPorts : ∀ hostPort,
    after.state.usedHostPorts.lookup hostPort = ctx.state.usedHostPorts.lookup hostPort ∨
      after.state.usedHostPorts.lookup hostPort = none
  portMap : ∀ port, after.browser.portMap.lookup port = ctx.browser.portMap.lookup port ∨
    after.browser.portMap.lookup port = none

theorem OnlyUnforwards.of_eq {ctx after : DaemonContext} (hState : after.state = ctx.state)
    (hMap : after.browser.portMap = ctx.browser.portMap)
    (hCaptures : after.proxy.captures = ctx.proxy.captures)
    (hSignal : after.shutdownSignal = ctx.shutdownSignal) : OnlyUnforwards ctx after where
  captures := hCaptures
  shutdownSignal := hSignal
  socketForwards := by rw [hState]
  registrationOf := by simp [hState]
  forwardOf := by simp [hState]
  usedHostPorts := by simp [hState]
  portMap := by simp [hMap]

theorem DaemonContext.Agrees.onlyUnforwards {ctx after : DaemonContext} (h : ctx.Agrees after) :
    OnlyUnforwards ctx after := by
  rw [← h]
  exact .of_eq rfl rfl rfl rfl

theorem HostState.socketForwards_removeForward (s : HostState) (containerId : String) (port : UInt16) :
    (s.removeForward containerId port).1.socketForwards = s.socketForwards := by
  unfold HostState.removeForward
  split
  · rfl
  · split <;> rfl

theorem onlyUnforwards_removeForward (ctx : DaemonContext) (containerId : String) (port : UInt16) :
    OnlyUnforwards ctx { ctx with state := (ctx.state.removeForward containerId port).1 } where
  captures := rfl
  shutdownSignal := rfl
  socketForwards := ctx.state.socketForwards_removeForward containerId port
  registrationOf := fun other => ctx.state.registrationOf_removeForward containerId other port
  forwardOf := by
    intro other q
    rw [HostState.forwardOf_removeForward]
    split_ifs
    · exact .inr rfl
    · exact .inl rfl
  usedHostPorts := by
    intro hostPort
    cases hOld : ctx.state.forwardOf containerId port with
    | none =>
        rw [HostState.removeForward_fst_of_none (by rw [HostState.removeForward_snd, hOld])]
        exact .inl rfl
    | some old =>
        rw [HostState.usedHostPorts_removeForward hOld]
        split_ifs
        · exact .inr rfl
        · exact .inl rfl
  portMap := fun _ => .inl rfl

variable {cfg : HostConfig} {ctx after : DaemonContext} {handler next : Handler} {input : Input}
  {token : String}

/-- A one-shot Unforward takes at most a forward away and ends. -/
theorem unforwarding_step (hHandler : handler.unforwarding = true)
    (h : nextHandler cfg ctx handler input = some (after, next)) :
    OnlyUnforwards ctx after ∧ (next.unforwarding = true ∨ next = .finished) := by
  cases handler <;> cases hHandler
  case unforwardGlobal port =>
    cases input <;> try cases h
    case enumerate order =>
      dsimp only [nextHandler, nextUnforward] at h
      split_ifs at h
      split at h
      case h_1 =>
        cases h
        exact ⟨.of_eq rfl rfl rfl rfl, .inr rfl⟩
      case h_2 owner hOwner =>
        have hRemoved := onlyUnforwards_removeForward ctx owner port
        split at h
        case h_1 state old hRemove =>
          cases h
          rw [hRemove] at hRemoved
          exact ⟨hRemoved, .inl rfl⟩
        case h_2 state hRemove =>
          cases h
          rw [hRemove] at hRemoved
          exact ⟨hRemoved, .inr rfl⟩
  case unforwardGlobalBrowser port old =>
    cases input <;> try cases h
    refine ⟨⟨rfl, rfl, rfl, fun _ => rfl, fun _ _ => .inl rfl, fun _ => .inl rfl, ?_⟩, .inl rfl⟩
    intro other
    rw [BrowserOpener.removePortMapping_portMap, lookup_erase]
    split_ifs
    · exact .inr rfl
    · exact .inl rfl
  case unforwardGlobalDrain port old =>
    cases input <;> try cases h
    case drained timedOut =>
      obtain ⟨middle, hTear, hPair⟩ := Option.map_eq_some_iff.mp h
      cases hPair
      obtain ⟨hState, hBrowser⟩ := tearDown_tables hTear
      obtain ⟨-, rfl⟩ := DaemonContext.tearDown_frame hTear
      exact ⟨.of_eq rfl rfl rfl rfl, .inr rfl⟩

/-- The first message of a control connection that does not carry the token. -/
theorem dispatchFirst_outsider (hAuth : cfg.authToken = some token) {message : Message}
    (hToken : message.credential ≠ some token) :
    (dispatchFirst cfg message).outsider = true ∨
      ∃ port, message = .unforward port ∧ dispatchFirst cfg message = .unforwardGlobal port := by
  have hRejected : ∀ presented, some presented ≠ some token → cfg.accepts presented = false := by
    intro presented hDiffer
    have hNe : presented ≠ token := fun hEq => hDiffer (by rw [hEq])
    simp [HostConfig.accepts, hAuth, hNe]
  cases message with
  | register containerId hostname presented =>
      have hNo := hRejected presented hToken
      simp only [dispatchFirst, hNo]
      split_ifs <;> first | exact .inl rfl | contradiction
  | shutdown presented =>
      have hNo := hRejected presented hToken
      simp only [dispatchFirst, hNo]
      exact .inl rfl
  | unforward port => exact .inr ⟨port, rfl, rfl⟩
  | _ => exact .inl rfl

/-- The message of a data connection that does not carry the token. -/
theorem dispatchData_outsider (hAuth : cfg.authToken = some token) {message : Message}
    (hToken : message.credential ≠ some token) (p : ProxyState) :
    (dispatchData cfg p message).1 = p ∧
      (Handler.proxy (dispatchData cfg p message).2).outsider = true := by
  cases message with
  | clipboardRead format presented =>
      have hNe : token ≠ presented := fun hEq => hToken (by rw [hEq]; rfl)
      have hDenied : cfg.clipboardPermits presented = false := by
        simp [HostConfig.clipboardPermits, hAuth, hNe]
      simp only [dispatchData, hDenied]
      exact ⟨rfl, rfl⟩
  | connectReady connId =>
      unfold dispatchData
      dsimp only
      split_ifs <;> exact ⟨rfl, rfl⟩
  | _ => exact ⟨rfl, rfl⟩

theorem Handler.outsider_of_opening (h : handler.opening = some none) : handler.outsider = true := by
  cases handler <;> cases h <;> rfl

/-- A connection without the token changes hidden parts only, unless it opens
with Unforward. -/
theorem outsider_step (hAuth : cfg.authToken = some token) (hOutsider : handler.outsider = true)
    (hInput : input.Tokenless token) (h : nextHandler cfg ctx handler input = some (after, next)) :
    ctx.Agrees after ∧ (next.outsider = true ∨
      handler = .awaitFirst ∧ ∃ port, input = .receive (.unforward port) ∧
        next = .unforwardGlobal port) := by
  cases handler <;> try cases hOutsider
  case idle =>
    cases input <;> try cases h
    case connect => exact ⟨.refl ctx, .inl rfl⟩
    case connectData => exact ⟨.refl ctx, .inl rfl⟩
    case spawnClient => exact hInput.elim
    case spawnBridge => exact hInput.elim
  case finished => cases h
  case awaitFirst =>
    cases input <;> try cases h
    case receive message =>
      rcases dispatchFirst_outsider hAuth hInput with hOut | ⟨port, rfl, hNext⟩
      · exact ⟨.refl ctx, .inl hOut⟩
      · exact ⟨.refl ctx, .inr ⟨rfl, port, rfl, hNext⟩⟩
    case fail => exact ⟨.refl ctx, .inl rfl⟩
  case replying message =>
    cases input <;> try cases h
    exact ⟨.refl ctx, .inl rfl⟩
  case listForwards =>
    cases input <;> try cases h
    exact ⟨.refl ctx, .inl rfl⟩
  case openUrl url origin =>
    cases origin <;> try cases hOutsider
    have hOpening : (Handler.openUrl url none).opening = some none := rfl
    obtain ⟨hAgrees, -, hNext⟩ := opening_step hOpening h
    rcases hNext with hOpen | rfl
    · exact ⟨hAgrees, .inl (Handler.outsider_of_opening hOpen)⟩
    · exact ⟨hAgrees, .inl rfl⟩
  case openUrlLaunch origin =>
    cases origin <;> try cases hOutsider
    cases input <;> try cases h
    exact ⟨.refl ctx, .inl rfl⟩
  case openUrlAck origin =>
    cases origin <;> try cases hOutsider
    cases input <;> try cases h
    exact ⟨.refl ctx, .inl rfl⟩
  case proxy task =>
    obtain ⟨proxy, task', rfl, rfl, hTask⟩ := nextProxy_cases h
    cases task <;> try cases hOutsider
    case handshake =>
      cases input <;> rcases hTask with hClient | hData <;> try contradiction
      case receive.inr message =>
        have hPair : dispatchData cfg ctx.proxy message = (proxy, task') := Option.some.inj hData
        obtain ⟨hProxy, hOut⟩ := dispatchData_outsider hAuth hInput ctx.proxy
        rw [hPair] at hProxy hOut
        have hSame : proxy = ctx.proxy := hProxy
        subst hSame
        exact ⟨.refl ctx, .inl hOut⟩
      case fail.inr =>
        cases hData
        exact ⟨.refl ctx, .inl rfl⟩
    case resolving connId =>
      cases input <;> rcases hTask with hClient | hData <;> try contradiction
      case proceed.inr =>
        dsimp only [nextData] at hData
        split at hData
        case h_1 hResolve =>
          cases hData
          exact ⟨resolve_agrees hResolve, .inl rfl⟩
        case h_2 =>
          cases hData
          exact ⟨.refl ctx, .inl rfl⟩
      case fail.inr =>
        cases hData
        exact ⟨.refl ctx, .inl rfl⟩
    case finished =>
      rcases hTask with hClient | hData
      · cases hClient
      · cases hData

/-- What other parties and the operator do: connections, messages, clients of
the port listeners and the end of the main loop. -/
def Action.fromPeer : Action → Bool
  | .task _ input => input.fromPeer
  | .clientConnects _ | .stop => true

/-- Whether an action is a step of one of the given tasks. -/
def Action.isBy (tasks : Nat → Bool) (action : Action) : Bool :=
  action.task?.any tasks

/-- Positions of one task in a run and in the run without the connections
that are taken out. Tasks that have gone on to hidden parts stay behind, and
operations that only reach hidden parts are completed at once. -/
inductive Handler.Follows : Handler → Handler → Prop where
  | same (handler : Handler) : Follows handler handler
  | detached {task : ProxyTask} (hTask : task.detached = true) (other : Handler) :
      Follows (.proxy task) other
  | bridged {handler : Handler} {owner : String × Nat} (hOwner : handler.bridging = some owner) :
      Follows handler (.serving owner.1 owner.2)
  | opened {handler : Handler} {origin : Option (String × Nat)}
      (hOrigin : handler.opening = some origin) : Follows handler (.openUrlAck origin)

/-- Two states of the daemon, the second one without the purged connections. -/
structure Daemon.Twin (purged : Nat → Bool) (d other : Daemon) : Prop where
  running : other.running = d.running
  ctx : d.ctx.Agrees other.ctx
  outsiders : ∀ id, purged id = true → (d.tasks id).outsider = true
  tasks : ∀ id, purged id = false → (d.tasks id).Follows (other.tasks id)

/-- The actions of the purged connections carry no token and do not open with
a one-shot Unforward. -/
def Daemon.Purgeable (token : String) (purged : Nat → Bool) (d : Daemon) (action : Action) : Prop :=
  ∀ id input, action = .task id input → purged id = true →
    input.Tokenless token ∧ (d.tasks id = .awaitFirst → ∀ port, input ≠ .receive (.unforward port))

variable {d d' other : Daemon} {purged : Nat → Bool} {id : Nat}

theorem Daemon.Twin.update (hTwin : d.Twin purged other) {target : Handler}
    (hKept : purged id = false) {otherCtx : DaemonContext} (hAgrees : after.Agrees otherCtx)
    (hFollows : next.Follows target) :
    Daemon.Twin purged { d with ctx := after, tasks := Function.update d.tasks id next }
      { other with ctx := otherCtx, tasks := Function.update other.tasks id target } where
  running := hTwin.running
  ctx := hAgrees
  outsiders := by
    intro task hTask
    have hDiffer : task ≠ id := by
      rintro rfl
      rw [hKept] at hTask
      cases hTask
    simpa [hDiffer] using hTwin.outsiders task hTask
  tasks := by
    intro task hTask
    by_cases hHere : task = id
    · subst hHere
      simpa using hFollows
    · simpa [hHere] using hTwin.tasks task hTask

/-- A step of a kept task that the other daemon does not take part in. -/
theorem Daemon.Twin.wait (hTwin : d.Twin purged other) (hKept : purged id = false)
    (hAgrees : d.ctx.Agrees after) (hFollows : next.Follows (other.tasks id)) :
    Daemon.Twin purged { d with ctx := after, tasks := Function.update d.tasks id next } other := by
  have hTwin' := hTwin.update hKept (hAgrees.symm.trans hTwin.ctx) hFollows
  rwa [Function.update_eq_self] at hTwin'

/-- What a run without the purged connections has to show. -/
abbrev Daemon.Replays (cfg : HostConfig) (purged : Nat → Bool) (other : Daemon) (labels : List Action)
    (d : Daemon) : Prop :=
  Mimics (Daemon.step cfg) (fun action => action.isBy purged = false) (Option.guard Action.fromPeer)
    other labels (Daemon.Twin purged d)

theorem Daemon.Twin.settle (hTwin : d.Twin purged other) (hRunning : d.running = true)
    (hKept : purged id = false) (hAgrees : d.ctx.Agrees after) {target : Handler}
    (hSettles : Settles cfg other.ctx (other.tasks id) target) (hFollows : next.Follows target) :
    Daemon.Replays cfg purged other []
      { d with ctx := after, tasks := Function.update d.tasks id next } := by
  obtain ⟨inputs, finish, hExec, hPeers, hFinish⟩ := hSettles
  have hDaemon := Daemon.exec_task (hTwin.running.trans hRunning) hExec
  have hSilent : (inputs.map (Action.task id)).filterMap (Option.guard Action.fromPeer) = [] := by
    rw [List.filterMap_eq_nil_iff]
    intro action hAction
    obtain ⟨input, hInput, rfl⟩ := List.mem_map.mp hAction
    simp [Option.guard, Action.fromPeer, hPeers input hInput]
  rw [← hSilent]
  refine .of_exec hDaemon ?_ (hTwin.update hKept ?_ hFollows)
  · intro action hAction
    obtain ⟨input, hInput, rfl⟩ := List.mem_map.mp hAction
    simpa [Action.isBy, Action.task?] using hKept
  · exact hAgrees.symm.trans (hTwin.ctx.trans hFinish)

theorem Daemon.Twin.replay (hTwin : d.Twin purged other) (hRunning : d.running = true)
    (hKept : purged id = false) (hSame : other.tasks id = d.tasks id)
    (hReplay : ∀ hidden, ∃ input' hidden', input.Alike input' ∧
      nextHandler cfg (d.ctx.mask hidden) (d.tasks id) input' = some (after.mask hidden', next)) :
    Daemon.Replays cfg purged other (Option.guard Action.fromPeer (.task id input)).toList
      { d with ctx := after, tasks := Function.update d.tasks id next } := by
  obtain ⟨input', hidden', hAlike, hNext⟩ := hReplay other.ctx.hidden
  rw [hTwin.ctx, ← hSame] at hNext
  have hStep : Daemon.step cfg other (.task id input') = some { other with
      ctx := after.mask hidden', tasks := Function.update other.tasks id next } :=
    Daemon.step_of_nextHandler (hTwin.running.trans hRunning) hNext
  have hLabel : Option.guard Action.fromPeer (.task id input) =
      Option.guard Action.fromPeer (.task id input') := by
    cases hPeer : input.fromPeer with
    | false =>
        have hOther := hAlike.fromPeer_eq.trans hPeer
        simp [Option.guard, Action.fromPeer, hPeer, hOther]
    | true => rw [hAlike.peer hPeer]
  rw [hLabel]
  exact .single hStep (by simpa [Action.isBy, Action.task?] using hKept)
    (hTwin.update hKept (after.agrees_mask hidden') (.same next))

theorem acceptClient_mask {listener : Nat} (h : ctx.acceptClient listener = some after) (hidden : Hidden) :
    (ctx.mask hidden).acceptClient listener = some (after.mask hidden) := by
  unfold DaemonContext.acceptClient at h ⊢
  dsimp only [DaemonContext.mask] at h ⊢
  split at h
  · cases h
  · split_ifs at h with hRoom
    cases h
    exact if_pos hRoom

theorem drainAll_mask (ctx : DaemonContext) (hidden : Hidden) :
    (ctx.mask hidden).drainAll = ctx.drainAll.mask hidden := by
  obtain ⟨order, hOrder⟩ := exists_enumerates ctx.state.containers
  have hFold : ∀ (order : List (Σ _ : String, ContainerState)) (browser : BrowserOpener),
      order.foldl (fun acc item => acc.removePortMappings item.2.forwards)
          { browser with recentOpens := hidden.recentOpens } =
        { order.foldl (fun acc item => acc.removePortMappings item.2.forwards) browser with
          recentOpens := hidden.recentOpens } := by
    intro order
    induction order with
    | nil => exact fun browser => rfl
    | cons item order ih => exact fun browser => ih (browser.removePortMappings item.2.forwards)
  unfold DaemonContext.drainAll
  dsimp only [DaemonContext.mask]
  rw [foldl_eq_foldl hOrder, foldl_eq_foldl hOrder, hFold]

/-- A step of a task that is at the same position in both daemons. -/
theorem Daemon.Twin.step_same (hTwin : d.Twin purged other) (hRunning : d.running = true)
    (hKept : purged id = false) (hNext : nextHandler cfg d.ctx (d.tasks id) input = some (after, next))
    (hSame : other.tasks id = d.tasks id) :
    Daemon.Replays cfg purged other (Option.guard Action.fromPeer (.task id input)).toList
      { d with ctx := after, tasks := Function.update d.tasks id next } := by
  have hLabel : input.fromPeer = false →
      (Option.guard Action.fromPeer (Action.task id input)).toList = [] := by
    intro hPeer
    simp [Option.guard, Action.fromPeer, hPeer]
  cases hBridging : (d.tasks id).bridging with
  | some owner =>
      obtain ⟨hAgrees, hPeer, hPosition⟩ := bridging_step hBridging hNext
      have hFollows : next.Follows (.serving owner.1 owner.2) := by
        rcases hPosition with hBridged | rfl
        · exact .bridged hBridged
        · exact .same _
      rw [hLabel hPeer]
      exact hTwin.settle hRunning hKept hAgrees (bridging_settles (by rw [hSame, hBridging])) hFollows
  | none =>
      cases hOpening : (d.tasks id).opening with
      | some origin =>
          obtain ⟨hAgrees, hPeer, hPosition⟩ := opening_step hOpening hNext
          have hFollows : next.Follows (.openUrlAck origin) := by
            rcases hPosition with hOpened | rfl
            · exact .opened hOpened
            · exact .same _
          rw [hLabel hPeer]
          exact hTwin.settle hRunning hKept hAgrees (opening_settles (by rw [hSame, hOpening])) hFollows
      | none =>
          by_cases hDetached : ∃ task, d.tasks id = .proxy task ∧ task.detached = true
          · obtain ⟨task, hTask, hDetached⟩ := hDetached
            rw [hTask] at hNext
            obtain ⟨hAgrees, hPeer, task', rfl, hTask'⟩ := detached_step hDetached hNext
            rw [hLabel hPeer]
            exact .refl (hTwin.wait hKept hAgrees (.detached hTask' _))
          · have hAttached : ∀ task, d.tasks id = .proxy task → task.detached = false := by
              intro task hTask
              cases hValue : task.detached with
              | false => rfl
              | true => exact absurd ⟨task, hTask, hValue⟩ hDetached
            by_cases hFlush : ∃ ok, input = .flushRequest ok
            · obtain ⟨ok, rfl⟩ := hFlush
              obtain ⟨hAgrees, hHere⟩ := flushRequest_step hNext
              rw [hLabel rfl]
              exact .refl (hTwin.wait hKept hAgrees (by rw [hHere, hSame]; exact .same _))
            · by_cases hSpawn : input = .spawnBridge
              · subst hSpawn
                obtain ⟨hAgrees, task, rfl, hTask⟩ := spawnBridge_step hNext
                rw [hLabel rfl]
                exact .refl (hTwin.wait hKept hAgrees (.detached hTask _))
              · exact hTwin.replay hRunning hKept hSame
                  (nextHandler_mask hNext hBridging hOpening hAttached
                    (fun ok hInput => hFlush ⟨ok, hInput⟩) hSpawn)

/-- A step of a task that is not taken out. -/
theorem Daemon.Twin.step_kept (hTwin : d.Twin purged other) (hRunning : d.running = true)
    (hKept : purged id = false) (hNext : nextHandler cfg d.ctx (d.tasks id) input = some (after, next)) :
    Daemon.Replays cfg purged other (Option.guard Action.fromPeer (.task id input)).toList
      { d with ctx := after, tasks := Function.update d.tasks id next } := by
  have hSilent : input.fromPeer = false →
      d.ctx.Agrees after → next.Follows (other.tasks id) →
      Daemon.Replays cfg purged other (Option.guard Action.fromPeer (.task id input)).toList
        { d with ctx := after, tasks := Function.update d.tasks id next } := by
    intro hPeer hAgrees hFollows
    have hLabel : (Option.guard Action.fromPeer (Action.task id input)).toList = [] := by
      simp [Option.guard, Action.fromPeer, hPeer]
    rw [hLabel]
    exact .refl (hTwin.wait hKept hAgrees hFollows)
  generalize hOld : d.tasks id = handler at hNext
  generalize hNew : other.tasks id = target at hSilent
  have hFollows : handler.Follows target := hOld ▸ hNew ▸ hTwin.tasks id hKept
  cases hFollows with
  | same =>
      rw [← hOld] at hNext
      exact hTwin.step_same hRunning hKept hNext (hNew.trans hOld.symm)
  | detached hTask =>
      obtain ⟨hAgrees, hPeer, task', rfl, hTask'⟩ := detached_step hTask hNext
      exact hSilent hPeer hAgrees (.detached hTask' _)
  | bridged hOwner =>
      obtain ⟨hAgrees, hPeer, hBridged | rfl⟩ := bridging_step hOwner hNext
      · exact hSilent hPeer hAgrees (.bridged hBridged)
      · exact hSilent hPeer hAgrees (.same _)
  | opened hOrigin =>
      obtain ⟨hAgrees, hPeer, hOpened | rfl⟩ := opening_step hOrigin hNext
      · exact hSilent hPeer hAgrees (.opened hOpened)
      · exact hSilent hPeer hAgrees (.same _)

/-- Every step is replayed without the purged connections. -/
theorem Daemon.Twin.step (hAuth : cfg.authToken = some token) (hTwin : d.Twin purged other)
    {action : Action} (hPurge : d.Purgeable token purged action)
    (hStep : Daemon.step cfg d action = some d') :
    Daemon.Replays cfg purged other
      (Option.guard (fun action => action.fromPeer && !action.isBy purged) action).toList d' := by
  obtain ⟨hRunning, hCases⟩ := Daemon.step_cases hStep
  have hOther : other.ctx = d.ctx.mask other.ctx.hidden := Eq.symm hTwin.ctx
  cases hCases with
  | @clientConnects listener after hAccept =>
      have hReplay : Daemon.step cfg other (.clientConnects listener) =
          some { other with ctx := after.mask other.ctx.hidden } := by
        have hAccepted := acceptClient_mask hAccept other.ctx.hidden
        rw [← hOther] at hAccepted
        simp only [Daemon.step, hTwin.running.trans hRunning, if_true, hAccepted, Option.map_some]
      exact .single hReplay rfl
        ⟨hTwin.running, after.agrees_mask _, hTwin.outsiders, hTwin.tasks⟩
  | stop =>
      have hReplay : Daemon.step cfg other .stop =
          some { other with ctx := other.ctx.drainAll, running := false } := by
        simp only [Daemon.step, hTwin.running.trans hRunning, if_true]
      refine .single hReplay rfl ⟨rfl, ?_, hTwin.outsiders, hTwin.tasks⟩
      rw [hOther, drainAll_mask]
      exact DaemonContext.agrees_mask _ _
  | @task id input after next hNext =>
      cases hPurged : purged id with
      | false =>
          have hLabel : Option.guard (fun action => action.fromPeer && !action.isBy purged)
              (Action.task id input) = Option.guard Action.fromPeer (Action.task id input) := by
            simp [Option.guard, Action.isBy, Action.task?, hPurged]
          rw [hLabel]
          exact hTwin.step_kept hRunning hPurged hNext
      | true =>
          have hLabel : Option.guard (fun action => action.fromPeer && !action.isBy purged)
              (Action.task id input) = none := by
            simp [Option.guard, Action.isBy, Action.task?, hPurged]
          rw [hLabel]
          obtain ⟨hInput, hFirst⟩ := hPurge id input rfl hPurged
          obtain ⟨hAgrees, hOutsider⟩ := outsider_step hAuth (hTwin.outsiders id hPurged) hInput hNext
          have hNextOutsider : next.outsider = true := by
            rcases hOutsider with hOut | ⟨hHere, port, rfl, -⟩
            · exact hOut
            · exact absurd rfl (hFirst hHere port)
          refine .refl ⟨hTwin.running, hAgrees.symm.trans hTwin.ctx, ?_, ?_⟩
          · intro task hTask
            by_cases hHere : task = id
            · subst hHere
              simpa using hNextOutsider
            · simpa [hHere] using hTwin.outsiders task hTask
          · intro task hTask
            have hDiffer : task ≠ id := by
              rintro rfl
              rw [hPurged] at hTask
              cases hTask
            simpa [hDiffer] using hTwin.tasks task hTask

/-- Whether a connection opens with a one-shot Unforward in the course of a run. -/
def opensWithUnforward (trace : List (Daemon × Action)) (id : Nat) : Bool :=
  trace.any fun entry =>
    match entry.1.tasks id, entry.2 with
    | .awaitFirst, .task other (.receive (.unforward _)) => other == id
    | _, _ => false

/-- The connections in `outsiders` are made in the course of the run, and none
of their messages carries the token. -/
structure TokenlessConnections (token : String) (outsiders : Nat → Bool) (start : Daemon)
    (trace : List (Daemon × Action)) : Prop where
  fresh : ∀ id, outsiders id = true → start.tasks id = .idle
  tokenless : ∀ d id input, (d, Action.task id input) ∈ trace → outsiders id = true →
    input.Tokenless token

/-- The run without some connections: every other connection is made and
sends the same, and no step of a purged one is left. -/
structure PurgedRun (cfg : HostConfig) (purged : Nat → Bool) (start : Daemon)
    (trace purgedTrace : List (Daemon × Action)) (finish : Daemon) : Prop where
  run : Run (Daemon.step cfg) start purgedTrace finish
  absent : ∀ entry ∈ purgedTrace, entry.2.isBy purged = false
  fromPeers : (purgedTrace.map Prod.snd).filter Action.fromPeer =
    (trace.map Prod.snd).filter fun action => action.fromPeer && !action.isBy purged

variable {trace : List (Daemon × Action)} {finish : Daemon} {outsiders : Nat → Bool}

/-- The guard of the simulation, from the run as a whole. -/
theorem TokenlessConnections.purgeable (h : TokenlessConnections token outsiders d trace) :
    Guarded (Daemon.Purgeable token fun id => outsiders id && !opensWithUnforward trace id) trace := by
  rintro ⟨middle, action⟩ hEntry id input rfl hPurged
  obtain ⟨hOutsider, hNotAdmin⟩ := (Bool.and_eq_true _ _).mp hPurged
  refine ⟨h.tokenless middle id input hEntry hOutsider, ?_⟩
  rintro hFirst port rfl
  have hHere : middle.tasks id = .awaitFirst := hFirst
  have hOpens : opensWithUnforward trace id = true := by
    rw [opensWithUnforward, List.any_eq_true]
    exact ⟨_, hEntry, by simp [hHere]⟩
  rw [hOpens] at hNotAdmin
  cases hNotAdmin

theorem exists_purgedRun (hAuth : cfg.authToken = some token)
    (run : Run (Daemon.step cfg) d trace finish) (h : TokenlessConnections token outsiders d trace) :
    ∃ purgedTrace other,
      PurgedRun cfg (fun id => outsiders id && !opensWithUnforward trace id) d trace purgedTrace other ∧
        finish.Twin (fun id => outsiders id && !opensWithUnforward trace id) other := by
  have hStart : d.Twin (fun id => outsiders id && !opensWithUnforward trace id) d := by
    refine ⟨rfl, .refl _, ?_, fun id _ => .same _⟩
    intro id hPurged
    rw [h.fresh id ((Bool.and_eq_true _ _).mp hPurged).1]
    rfl
  obtain ⟨purgedTrace, other, hRun, hAbsent, hLabels, hTwin⟩ :=
    run.simulate h.purgeable hStart fun _ _ _ _ hTwin hPurge hStep => hTwin.step hAuth hPurge hStep
  refine ⟨purgedTrace, other, ⟨hRun, hAbsent, ?_⟩, hTwin⟩
  rw [← List.filterMap_eq_filter, ← List.filterMap_eq_filter, List.filterMap_map, List.filterMap_map]
  exact hLabels

/-- In the whole run, the connections are where an outsider can be. -/
theorem TokenlessConnections.confined (hAuth : cfg.authToken = some token)
    (run : Run (Daemon.step cfg) d trace finish) (h : TokenlessConnections token outsiders d trace) :
    Throughout (fun d => ∀ id, outsiders id = true →
      (d.tasks id).outsider = true ∨ (d.tasks id).unforwarding = true) trace finish := by
  have hGuard : Guarded (fun _ action => ∀ id input, action = .task id input → outsiders id = true →
      input.Tokenless token) trace := by
    rintro ⟨middle, action⟩ hEntry id input rfl hOutsider
    exact h.tokenless middle id input hEntry hOutsider
  apply run.throughout hGuard
  · intro id hOutsider
    rw [h.fresh id hOutsider]
    exact .inl rfl
  · intro middle action after hMiddle hTokenless hStep id hOutsider
    obtain ⟨-, hCases⟩ := Daemon.step_cases hStep
    cases hCases with
    | clientConnects => exact hMiddle id hOutsider
    | stop => exact hMiddle id hOutsider
    | @task other input after next hNext =>
        by_cases hHere : id = other
        · subst hHere
          simp only [Function.update_self]
          rcases hMiddle id hOutsider with hOut | hUnforward
          · rcases (outsider_step hAuth hOut (hTokenless id input rfl hOutsider) hNext).2 with
              hOut' | ⟨-, port, -, rfl⟩
            · exact .inl hOut'
            · exact .inr rfl
          · rcases (unforwarding_step hUnforward hNext).2 with hUnforward' | rfl
            · exact .inr hUnforward'
            · exact .inl rfl
        · simp only [Function.update_of_ne hHere]
          exact hMiddle id hOutsider

/-- Some connections are not noticed. Without those of them that do not open
with a one-shot Unforward, the others get the same containers, forwards, host
ports, port mappings, captures and running status, and no step of any of them
does more than take forwards away. -/
structure Unnoticed (cfg : HostConfig) (outsiders : Nat → Bool) (start : Daemon)
    (trace : List (Daemon × Action)) (finish : Daemon) : Prop where
  purged : ∃ purgedTrace other,
    PurgedRun cfg (fun id => outsiders id && !opensWithUnforward trace id) start trace purgedTrace other ∧
      other.ctx.state = finish.ctx.state ∧
      other.ctx.browser.portMap = finish.ctx.browser.portMap ∧
      other.running = finish.running ∧ other.ctx.shutdownSignal = finish.ctx.shutdownSignal ∧
      other.ctx.proxy.captures = finish.ctx.proxy.captures
  steps : ∀ before id input after, (before, Action.task id input) ∈ trace → outsiders id = true →
    Daemon.step cfg before (.task id input) = some after →
    after.running = before.running ∧ OnlyUnforwards before.ctx after.ctx

/-- With a token configured, connections that never present it are not noticed. -/
theorem tokenless_noninterference (hAuth : cfg.authToken = some token)
    (run : Run (Daemon.step cfg) d trace finish) (h : TokenlessConnections token outsiders d trace) :
    Unnoticed cfg outsiders d trace finish := by
  constructor
  · obtain ⟨purgedTrace, other, hPurged, hTwin⟩ := exists_purgedRun hAuth run h
    refine ⟨purgedTrace, other, hPurged, ?_⟩
    rw [← hTwin.ctx]
    exact ⟨rfl, rfl, hTwin.running, rfl, rfl⟩
  · intro before id input after hEntry hOutsider hStep
    have hConfined := (h.confined hAuth run).1 _ hEntry id hOutsider
    obtain ⟨-, hCases⟩ := Daemon.step_cases hStep
    cases hCases with
    | task hNext =>
        refine ⟨rfl, ?_⟩
        rcases hConfined with hOut | hUnforward
        · have hTokenless := h.tokenless before id input hEntry hOutsider
          exact (outsider_step hAuth hOut hTokenless hNext).1.onlyUnforwards
        · exact (unforwarding_step hUnforward hNext).1

/-- Settings with authentication and clipboard access enabled. -/
def HostConfig.secured (token : String) : HostConfig :=
  { HostConfig.basic with authToken := some token, allowClipboard := true }

/-- A container registers with the token and forwards a port. -/
def securedSchedule (token : String) : List Action :=
  announceSchedule 1 "c" "h" token ++ enterSchedule 1 ++ forwardSchedule 1 8080 8080

/-- Two connections without the token: one registers the container's id, the
other asks for the clipboard. -/
def intrusionSchedule : List Action :=
  [.connect, .receive (.register "c" "h" ""), .sent true].map (.task 2)
    ++ [.connectData, .receive (.clipboardRead .auto "")].map (.task 3)

/-- A connection without the token opens with Unforward. -/
def unforwardSchedule (order : List (Σ _ : String, ContainerState)) : List Action :=
  [.connect, .receive (.unforward 8080), .enumerate order].map (.task 2)

/-- The two connections without the token after the container's Forward. -/
theorem tokenless_noninterference_intrusion :
    ∃ d finish trace, exec (Daemon.step (.secured "t")) (Daemon.start (.secured "t"))
        (securedSchedule "t") = some d ∧
      trace.map Prod.snd = intrusionSchedule ∧
      Unnoticed (.secured "t") (fun id => id == 2 || id == 3) d trace finish := by
  have hRun : (exec (Daemon.step (.secured "t")) (Daemon.start (.secured "t"))
      (securedSchedule "t")).any fun d =>
        (exec (Daemon.step (.secured "t")) d intrusionSchedule).isSome := by
    decide
  obtain ⟨d, hExec, hAfter⟩ := (Option.any_eq_true _ _).mp hRun
  obtain ⟨finish, hFinish⟩ := Option.isSome_iff_exists.mp hAfter
  obtain ⟨trace, hActions, run⟩ := run_of_exec hFinish
  have hIdle : ∀ id, (id == 2 || id == 3) = true → d.tasks id = .idle := by
    intro id hId
    have hNot : id ∉ taskIds (securedSchedule "t") := by
      simp only [Bool.or_eq_true, beq_iff_eq] at hId
      rcases hId with rfl | rfl <;> decide
    exact Daemon.exec_frame hExec hNot
  have hTokenless : TokenlessConnections "t" (fun id => id == 2 || id == 3) d trace := by
    refine ⟨hIdle, fun before id input hEntry _ => ?_⟩
    have hMember : Action.task id input ∈ intrusionSchedule :=
      hActions ▸ List.mem_map_of_mem hEntry
    simp only [intrusionSchedule, List.map_cons, List.map_nil, List.cons_append, List.nil_append,
      List.mem_cons, Action.task.injEq, List.not_mem_nil, or_false] at hMember
    rcases hMember with ⟨-, rfl⟩ | ⟨-, rfl⟩ | ⟨-, rfl⟩ | ⟨-, rfl⟩ | ⟨-, rfl⟩ <;>
      simp [Input.Tokenless, Message.credential]
  exact ⟨d, finish, trace, hExec, hActions, tokenless_noninterference rfl run hTokenless⟩

/-- The entry of the container that has forwarded its port. -/
def securedContainer : ContainerState :=
  { HostState.newRegistration "h" 1 with
    forwards := (∅ : Forwards).insert 8080
      { hostPort := 8080, listener := 0, processName := none, pid := none, since := "0", tracker := 0 } }

/-- A one-shot Unforward without the token takes the forward away. -/
theorem tokenless_unforward_noticed :
    ∃ d finish, exec (Daemon.step (.secured "t")) (Daemon.start (.secured "t"))
        (securedSchedule "t") = some d ∧
      exec (Daemon.step (.secured "t")) d (unforwardSchedule [⟨"c", securedContainer⟩]) = some finish ∧
      (∀ action ∈ unforwardSchedule [⟨"c", securedContainer⟩],
        ∃ input, action = .task 2 input ∧ input.Tokenless "t") ∧
      d.tasks 2 = .idle ∧ (d.ctx.state.forwardOf "c" 8080).isSome ∧
      finish.ctx.state.forwardOf "c" 8080 = none := by
  have hRun : (exec (Daemon.step (.secured "t")) (Daemon.start (.secured "t"))
      (securedSchedule "t")).any fun d =>
        (d.ctx.state.forwardOf "c" 8080).isSome &&
        (exec (Daemon.step (.secured "t")) d (unforwardSchedule [⟨"c", securedContainer⟩])).any
          fun finish => finish.ctx.state.forwardOf "c" 8080 == none := by
    decide
  obtain ⟨d, hExec, hAfter⟩ := (Option.any_eq_true _ _).mp hRun
  obtain ⟨hForward, hAfter⟩ := (Bool.and_eq_true _ _).mp hAfter
  obtain ⟨finish, hFinish, hGone⟩ := (Option.any_eq_true _ _).mp hAfter
  have hIdle : d.tasks 2 = .idle := Daemon.exec_frame hExec (by decide)
  refine ⟨d, finish, hExec, hFinish, ?_, hIdle, hForward, beq_iff_eq.mp hGone⟩
  intro action hAction
  simp only [unforwardSchedule, List.map_cons, List.map_nil, List.mem_cons, List.not_mem_nil,
    or_false] at hAction
  rcases hAction with rfl | rfl | rfl <;> exact ⟨_, rfl, by simp [Input.Tokenless, Message.credential]⟩

end DevcontainerBridge
