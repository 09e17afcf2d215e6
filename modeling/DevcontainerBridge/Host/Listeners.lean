import DevcontainerBridge.Host.Reservation

/-! Port listeners and the clients that they accept. A listener keeps its
ports for good, a live forward knows its own listener, and a client knows the
listener that accepted it. -/
namespace DevcontainerBridge

open Table Transition

/-- The bound port and the container port of a listener. -/
def DaemonContext.listenerPorts (ctx : DaemonContext) (n : Nat) : Option (UInt16 × UInt16) :=
  (ctx.listeners n).map fun l => (l.boundPort, l.containerPort)

/-- Container port, bound port and number of a listener that is waiting to be
inserted as a forward. -/
def Handler.boundListener : Handler → Option (UInt16 × UInt16 × Nat)
  | .forwardInsert _ _ request _ _ hostPort listener => some (request.port, hostPort, listener)
  | _ => none

/-- The client whose handler is about to look its container up. -/
def Handler.client : Handler → Option ClientConnection
  | .proxy (.clientLookup client) => some client
  | _ => none

/-- A step that starts no listener and accepts no client. -/
structure Untouched (ctx after : DaemonContext) (next : Handler) : Prop where
  ports : ∀ n, after.listenerPorts n = ctx.listenerPorts n
  count : after.nextListener = ctx.nextListener
  queue : ∀ client ∈ after.proxy.clientQueue, client ∈ ctx.proxy.clientQueue
  bound : next.boundListener = none
  client : ∀ client, next.client = some client → client ∈ ctx.proxy.clientQueue

variable {cfg : HostConfig} {ctx after : DaemonContext} {handler next : Handler} {input : Input}

theorem Untouched.of_eq (hListeners : after.listeners = ctx.listeners)
    (hCount : after.nextListener = ctx.nextListener)
    (hQueue : after.proxy.clientQueue = ctx.proxy.clientQueue) (hBound : next.boundListener = none)
    (hClient : next.client = none) : Untouched ctx after next where
  ports := fun n => by rw [DaemonContext.listenerPorts, hListeners, DaemonContext.listenerPorts]
  count := hCount
  queue := fun client hMember => hQueue ▸ hMember
  bound := hBound
  client := fun client hSome => by rw [hClient] at hSome; cases hSome

theorem listenerPorts_joinListeners (forwards : Forwards) (n : Nat) :
    (ctx.joinListeners forwards).listenerPorts n = ctx.listenerPorts n := by
  simp only [DaemonContext.listenerPorts, DaemonContext.joinListeners, Option.map_map]
  apply congrArg fun f => Option.map f (ctx.listeners n)
  funext l
  simp only [Function.comp_apply]
  split <;> rfl

/-- A teardown joins listeners, which keeps their ports. -/
theorem tearDown_untouched {forwards : Forwards} {timedOut : List Nat}
    (h : ctx.tearDown forwards timedOut = some after) (hBound : next.boundListener = none)
    (hClient : next.client = none) : Untouched ctx after next := by
  obtain ⟨-, rfl⟩ := DaemonContext.tearDown_frame h
  refine ⟨fun n => listenerPorts_joinListeners forwards n, rfl, fun _ h => h, hBound, ?_⟩
  intro client hSome
  rw [hClient] at hSome
  cases hSome

theorem dispatchFirst_untouched (message : Message) : Untouched ctx ctx (dispatchFirst cfg message) := by
  refine .of_eq rfl rfl rfl ?_ ?_ <;>
    cases message <;> unfold dispatchFirst <;> dsimp only <;> (try split_ifs) <;> rfl

theorem dispatchContainer_untouched (containerId : String) (registrationId : Nat) (message : Message) :
    Untouched ctx ctx (dispatchContainer cfg containerId registrationId message) := by
  refine .of_eq rfl rfl rfl ?_ ?_ <;>
    cases message <;> unfold dispatchContainer <;> dsimp only <;> (try split_ifs) <;> rfl

theorem nextRegister_untouched (h : nextRegister cfg ctx handler input = some (after, next)) :
    Untouched ctx after next := by
  cases nextRegister_cases h with
  | dispatched message => exact dispatchFirst_untouched message
  | drained hTear => exact tearDown_untouched hTear rfl rfl
  | drainedOne hDrain =>
      obtain ⟨fstate, -, -, hTear⟩ := drainOne_some hDrain
      exact tearDown_untouched hTear rfl rfl
  | _ => exact .of_eq rfl rfl rfl rfl rfl

/-- Only binding a forward starts a listener. -/
theorem nextForward_untouched (h : nextForward ctx handler input = some (after, next)) :
    Untouched ctx after next ∨
      ∃ containerId registrationId request replaced targetPort hostPort,
        handler = .forwardBind containerId registrationId request replaced targetPort ∧
        after = ctx.startListener hostPort request.port ∧
        next = .forwardInsert containerId registrationId request replaced targetPort hostPort
          ctx.nextListener := by
  cases nextForward_cases h with
  | drained hTear => exact .inl (tearDown_untouched hTear rfl rfl)
  | @bound containerId registrationId request replaced targetPort boundPort _ =>
      exact .inr ⟨containerId, registrationId, request, replaced, targetPort, boundPort, rfl, rfl, rfl⟩
  | gone =>
      refine .inl ⟨fun n => listenerPorts_joinListeners _ n, rfl, fun _ h => h, rfl, ?_⟩
      intro client hSome
      cases hSome
  | _ => exact .inl (.of_eq rfl rfl rfl rfl rfl)

theorem nextUnforward_untouched (h : nextUnforward ctx handler input = some (after, next)) :
    Untouched ctx after next := by
  cases nextUnforward_cases h with
  | drained hTear => exact tearDown_untouched hTear rfl rfl
  | globalDrained hTear => exact tearDown_untouched hTear rfl rfl
  | _ => exact .of_eq rfl rfl rfl rfl rfl

theorem nextServing_untouched (h : nextServing cfg ctx handler input = some (after, next)) :
    Untouched ctx after next := by
  cases nextServing_cases h with
  | @dispatched containerId registrationId message =>
      exact dispatchContainer_untouched containerId registrationId message
  | drained hTear => exact tearDown_untouched hTear rfl rfl
  | drainedOne hDrain =>
      obtain ⟨fstate, -, -, hTear⟩ := drainOne_some hDrain
      exact tearDown_untouched hTear rfl rfl
  | _ => exact .of_eq rfl rfl rfl rfl rfl

theorem nextAuxiliary_untouched (h : nextAuxiliary ctx handler input = some (after, next)) :
    Untouched ctx after next := by
  cases nextAuxiliary_cases h with
  | registered hRegister =>
      obtain ⟨_, _, _, rfl⟩ := ProxyState.register_frame hRegister
      exact .of_eq rfl rfl rfl rfl rfl
  | unregistered hRegister =>
      obtain ⟨_, _, _, rfl⟩ := ProxyState.register_frame hRegister
      exact .of_eq rfl rfl rfl rfl rfl
  | _ => exact .of_eq rfl rfl rfl rfl rfl

theorem nextScanner_untouched (h : nextScanner ctx handler input = some (after, next)) :
    Untouched ctx after next := by
  cases nextScanner_cases h with
  | @sent message tx =>
      obtain ⟨queues, hBroadcast⟩ := ctx.proxy.tryBroadcast_frame message tx
      rw [hBroadcast]
      exact .of_eq rfl rfl rfl rfl rfl
  | _ => exact .of_eq rfl rfl rfl rfl rfl

theorem nextIdle_untouched (h : nextIdle ctx input = some (after, next)) :
    Untouched ctx after next := by
  cases nextIdle_cases h with
  | @client client rest hQueue =>
      refine ⟨fun _ => rfl, rfl, ?_, rfl, ?_⟩
      · intro other hMember
        rw [hQueue]
        exact List.mem_cons_of_mem client hMember
      · intro other hSome
        cases hSome
        rw [hQueue]
        exact List.mem_cons_self
  | _ => exact .of_eq rfl rfl rfl rfl rfl

theorem increment_clientQueue (p : ProxyState) (tracker : Option Nat) :
    (p.increment tracker).clientQueue = p.clientQueue := by
  cases tracker <;> rfl

theorem decrement_clientQueue (p : ProxyState) (tracker : Option Nat) :
    (p.decrement tracker).clientQueue = p.clientQueue := by
  cases tracker <;> rfl

theorem nextClient_untouched {s : HostState} {p p' : ProxyState} {task task' : ProxyTask}
    (h : nextClient s p task input = some (p', task')) :
    p'.clientQueue = p.clientQueue ∧ (Handler.proxy task').client = none := by
  cases nextClient_cases h with
  | @counted _ route => exact ⟨increment_clientQueue p route.tracker, rfl⟩
  | registered hRegister =>
      obtain ⟨_, _, _, rfl⟩ := ProxyState.register_frame hRegister
      exact ⟨rfl, rfl⟩
  | unregistered hRegister =>
      obtain ⟨_, _, _, rfl⟩ := ProxyState.register_frame hRegister
      exact ⟨rfl, rfl⟩
  | @uncounted route => exact ⟨decrement_clientQueue p route.tracker, rfl⟩
  | _ => exact ⟨rfl, rfl⟩

theorem dispatchData_untouched (cfg : HostConfig) (p : ProxyState) (message : Message) :
    (dispatchData cfg p message).1.clientQueue = p.clientQueue ∧
      (Handler.proxy (dispatchData cfg p message).2).client = none := by
  cases message with
  | clipboardRead =>
      dsimp only [dispatchData]
      split_ifs <;> exact ⟨rfl, rfl⟩
  | connectReady =>
      dsimp only [dispatchData]
      split_ifs <;> exact ⟨rfl, rfl⟩
  | _ => exact ⟨rfl, rfl⟩

theorem nextData_untouched {p p' : ProxyState} {task task' : ProxyTask}
    (h : nextData cfg p task input = some (p', task')) :
    p'.clientQueue = p.clientQueue ∧ (Handler.proxy task').client = none := by
  cases nextData_cases h with
  | dispatched message => exact dispatchData_untouched cfg p message
  | resolved hResolve =>
      obtain ⟨_, _, rfl⟩ := ProxyState.resolve_frame hResolve
      exact ⟨rfl, rfl⟩
  | _ => exact ⟨rfl, rfl⟩

/-- A proxy task takes a step of a client handler or of a data connection. -/
theorem nextProxy_untouched {task : ProxyTask} (h : nextProxy cfg ctx task input = some (after, next)) :
    Untouched ctx after next := by
  obtain ⟨proxy, task', rfl, rfl, hTask⟩ := nextProxy_cases h
  have hKept : proxy.clientQueue = ctx.proxy.clientQueue ∧ (Handler.proxy task').client = none := by
    rcases hTask with hClient | hData
    · exact nextClient_untouched hClient
    · exact nextData_untouched hData
  exact .of_eq rfl rfl hKept.1 rfl hKept.2

/-- Every step of a task but the binding of a listener. -/
theorem nextHandler_untouched (h : nextHandler cfg ctx handler input = some (after, next)) :
    Untouched ctx after next ∨
      ∃ containerId registrationId request replaced targetPort hostPort,
        handler = .forwardBind containerId registrationId request replaced targetPort ∧
        after = ctx.startListener hostPort request.port ∧
        next = .forwardInsert containerId registrationId request replaced targetPort hostPort
          ctx.nextListener := by
  unfold nextHandler at h
  split at h
  case h_1 => exact .inl (nextIdle_untouched h)
  case h_2 => cases h
  case h_3 => exact .inl (nextProxy_untouched h)
  all_goals first
    | exact .inl (nextRegister_untouched h)
    | exact nextForward_untouched h
    | exact .inl (nextUnforward_untouched h)
    | exact .inl (nextServing_untouched h)
    | exact .inl (nextAuxiliary_untouched h)
    | exact .inl (nextScanner_untouched h)

/-- A forward that is there after a step was there before, or the step has
inserted it with the listener that its handler had bound. -/
theorem HostStep.forwardOf_cases (hStep : HostStep ctx handler after next) (hBound : handler.WellBound)
    {containerId : String} {port : UInt16} {fstate : ForwardState}
    (h : after.state.forwardOf containerId port = some fstate) :
    ctx.state.forwardOf containerId port = some fstate ∨
      handler.boundListener = some (port, fstate.hostPort, fstate.listener) ∧
        fstate.tracker = fstate.listener := by
  cases hStep with
  | quiet _ _ hSame =>
      rw [HostState.forwardOf_congr hSame.containers] at h
      exact .inl h
  | advance _ hSame =>
      rw [HostState.forwardOf_congr hSame.containers] at h
      exact .inl h
  | registerRemove hRemove =>
      obtain ⟨cstate, -, -, rfl⟩ := HostState.removeStale_some hRemove
      exact .inl (HostState.forwardOf_of_removeContainer h)
  | cleanup hTake =>
      obtain ⟨cstate, -, -, -, rfl⟩ := HostState.takeContainer_some hTake
      exact .inl (HostState.forwardOf_of_removeContainer h)
  | registerInsert =>
      rw [HostState.forwardOf_insertContainer] at h
      split_ifs at h
      exact .inl h
  | forwardTake => exact .inl (HostState.forwardOf_of_removeForward h)
  | unforwardRemove => exact .inl (HostState.forwardOf_of_removeForward h)
  | unforwardGlobal => exact .inl (HostState.forwardOf_of_removeForward h)
  | @forwardInsert _ _ request _ _ hostPort listener new hPort hListener hInserted =>
      obtain ⟨cstate, hContainer, hState⟩ :=
        HostState.insertForward_bound hInserted (hPort.trans hBound)
      rw [hState, HostState.forwardOf_setForward hContainer] at h
      split_ifs at h with hHere
      · cases h
        refine .inr ⟨?_, hListener.2.trans hListener.1.symm⟩
        rw [Handler.boundListener, hHere.2, hPort, hListener.1]
      · exact .inl h
  | forwardGone _ hState _ =>
      rw [hState] at h
      exact .inl h
  | _ => exact .inl h

/-- What is known about the listeners of live forwards, of forwards about to
be inserted, and of clients on their way to a handler. -/
structure Daemon.ListenersSound (d : Daemon) : Prop where
  forwards : ∀ containerId port fstate, d.ctx.state.forwardOf containerId port = some fstate →
    d.ctx.listenerPorts fstate.listener = some (fstate.hostPort, port) ∧ fstate.tracker = fstate.listener
  handlers : ∀ task port hostPort n, (d.tasks task).boundListener = some (port, hostPort, n) →
    d.ctx.listenerPorts n = some (hostPort, port)
  queue : ∀ client ∈ d.ctx.proxy.clientQueue, ∃ hostPort,
    d.ctx.listenerPorts client.listener = some (hostPort, client.containerPort)
  clients : ∀ task client, (d.tasks task).client = some client → ∃ hostPort,
    d.ctx.listenerPorts client.listener = some (hostPort, client.containerPort)
  fresh : ∀ n, d.ctx.nextListener ≤ n → d.ctx.listenerPorts n = none

variable {d d' : Daemon} {action : Action}

theorem listenerPorts_startListener (hostPort port : UInt16) (n : Nat) :
    (ctx.startListener hostPort port).listenerPorts n =
      if n = ctx.nextListener then some (hostPort, port) else ctx.listenerPorts n := by
  simp only [DaemonContext.startListener, DaemonContext.listenerPorts]
  by_cases hHere : n = ctx.nextListener
  · rw [hHere, Function.update_self, if_pos rfl]
    rfl
  · rw [Function.update_of_ne hHere, if_neg hHere]

theorem acceptClient_listeners {listener : Nat} (h : ctx.acceptClient listener = some after) :
    after.listeners = ctx.listeners ∧ after.nextListener = ctx.nextListener ∧
      ∀ client ∈ after.proxy.clientQueue, client ∈ ctx.proxy.clientQueue ∨
        ∃ hostPort, ctx.listenerPorts client.listener = some (hostPort, client.containerPort) := by
  obtain ⟨l, hListener, rfl⟩ := DaemonContext.acceptClient_frame h
  refine ⟨rfl, rfl, fun client hMember => ?_⟩
  rcases List.mem_append.mp hMember with hOld | hNew
  · exact .inl hOld
  · rw [List.mem_singleton.mp hNew]
    exact .inr ⟨l.boundPort, by simp [DaemonContext.listenerPorts, hListener]⟩

/-- Listeners never change their ports. -/
theorem Daemon.step_listenerPorts (hFresh : ∀ n, d.ctx.nextListener ≤ n → d.ctx.listenerPorts n = none)
    (hStep : Daemon.step cfg d action = some d') {n : Nat} {ports : UInt16 × UInt16}
    (h : d.ctx.listenerPorts n = some ports) : d'.ctx.listenerPorts n = some ports := by
  cases (Daemon.step_cases hStep).2 with
  | clientConnects hAccept _ _ =>
      rw [← h, DaemonContext.listenerPorts, (acceptClient_listeners hAccept).1, DaemonContext.listenerPorts]
  | stop => exact h
  | task hNext _ =>
      rcases nextHandler_untouched hNext with hUntouched | ⟨_, _, request, _, _, hostPort, _, rfl, rfl⟩
      · rw [← h]
        exact hUntouched.ports n
      · have hOld : n ≠ d.ctx.nextListener := by
          rintro rfl
          rw [hFresh _ le_rfl] at h
          cases h
        dsimp only
        rw [listenerPorts_startListener, if_neg hOld, h]

theorem Daemon.step_listenersSound (hBound : ∀ id, (d.tasks id).WellBound) (h : d.ListenersSound)
    (hStep : Daemon.step cfg d action = some d') : d'.ListenersSound := by
  have kept : ∀ {n ports}, d.ctx.listenerPorts n = some ports → d'.ctx.listenerPorts n = some ports :=
    fun hPorts => Daemon.step_listenerPorts h.fresh hStep hPorts
  cases (Daemon.step_cases hStep).2 with
  | stop =>
      refine ⟨?_, h.handlers, h.queue, h.clients, h.fresh⟩
      intro containerId port fstate hForward
      cases hForward
  | clientConnects hAccept hState _ =>
      obtain ⟨hListeners, hCount, hQueue⟩ := acceptClient_listeners hAccept
      refine ⟨?_, ?_, ?_, ?_, ?_⟩
      · intro containerId port fstate hForward
        dsimp only at hForward
        rw [hState] at hForward
        exact (h.forwards containerId port fstate hForward).imp_left kept
      · intro task port hostPort n hHandler
        exact kept (h.handlers task port hostPort n hHandler)
      · intro client hMember
        rcases hQueue client hMember with hOld | ⟨hostPort, hNew⟩
        · exact (h.queue client hOld).imp fun _ => kept
        · exact ⟨hostPort, kept hNew⟩
      · intro task client hClient
        exact (h.clients task client hClient).imp fun _ => kept
      · intro n hLater
        dsimp only at hLater ⊢
        rw [hCount] at hLater
        rw [DaemonContext.listenerPorts, hListeners]
        exact h.fresh n hLater
  | @task id input after next hNext hTask =>
      have hForwards : ∀ containerId port fstate, after.state.forwardOf containerId port = some fstate →
          after.listenerPorts fstate.listener = some (fstate.hostPort, port) ∧
            fstate.tracker = fstate.listener := by
        intro containerId port fstate hForward
        rcases hTask.forwardOf_cases (hBound id) hForward with hOld | ⟨hListener, hTracker⟩
        · exact (h.forwards containerId port fstate hOld).imp_left kept
        · exact ⟨kept (h.handlers id port fstate.hostPort fstate.listener hListener), hTracker⟩
      rcases nextHandler_untouched hNext with hUntouched | ⟨_, _, request, _, _, bound, _, hAfter, rfl⟩
      · refine ⟨hForwards, ?_, ?_, ?_, ?_⟩
        · intro task port hostPort n hHandler
          by_cases hHere : task = id
          · rw [hHere] at hHandler
            simp [hUntouched.bound] at hHandler
          · simp only [Function.update_of_ne hHere] at hHandler
            exact kept (h.handlers task port hostPort n hHandler)
        · intro client hMember
          exact (h.queue client (hUntouched.queue client hMember)).imp fun _ => kept
        · intro task client hClient
          by_cases hHere : task = id
          · rw [hHere] at hClient
            simp only [Function.update_self] at hClient
            exact (h.queue client (hUntouched.client client hClient)).imp fun _ => kept
          · simp only [Function.update_of_ne hHere] at hClient
            exact (h.clients task client hClient).imp fun _ => kept
        · intro n hLater
          dsimp only at hLater ⊢
          rw [hUntouched.count] at hLater
          rw [hUntouched.ports]
          exact h.fresh n hLater
      · subst hAfter
        refine ⟨hForwards, ?_, ?_, ?_, ?_⟩
        · intro task port hostPort n hHandler
          by_cases hHere : task = id
          · rw [hHere] at hHandler
            simp only [Function.update_self, Handler.boundListener, Option.some.injEq, Prod.mk.injEq]
              at hHandler
            obtain ⟨rfl, rfl, rfl⟩ := hHandler
            exact (listenerPorts_startListener _ _ _).trans (if_pos rfl)
          · simp only [Function.update_of_ne hHere] at hHandler
            exact kept (h.handlers task port hostPort n hHandler)
        · intro client hMember
          exact (h.queue client hMember).imp fun _ => kept
        · intro task client hClient
          by_cases hHere : task = id
          · rw [hHere] at hClient
            simp [Handler.client] at hClient
          · simp only [Function.update_of_ne hHere] at hClient
            exact (h.clients task client hClient).imp fun _ => kept
        · intro n hLater
          dsimp only [DaemonContext.startListener] at hLater
          dsimp only
          rw [listenerPorts_startListener, if_neg (by omega)]
          exact h.fresh n (by omega)

theorem Daemon.reachable_listenersSound (hReach : Reachable (Daemon.step cfg) (Daemon.start cfg) d) :
    d.ListenersSound := by
  have hStart : (Daemon.start cfg).ListenersSound := by
    have hNone : ∀ task, ((Daemon.start cfg).tasks task).boundListener = none ∧
        ((Daemon.start cfg).tasks task).client = none := by
      intro task
      unfold Daemon.start
      dsimp only
      split <;> exact ⟨rfl, rfl⟩
    refine ⟨?_, ?_, ?_, ?_, fun _ _ => rfl⟩
    · intro containerId port fstate hForward
      cases hForward
    · intro task port hostPort n hHandler
      rw [(hNone task).1] at hHandler
      cases hHandler
    · intro client hMember
      cases hMember
    · intro task client hClient
      rw [(hNone task).2] at hClient
      cases hClient
  have hBoth := hReach.invariant (fun d => (∀ id, (d.tasks id).WellBound) ∧ d.ListenersSound)
    ⟨Daemon.start_wellBound, hStart⟩ fun middle action after hMiddle hStep =>
      ⟨Daemon.step_wellBound hStep hMiddle.1, Daemon.step_listenersSound hMiddle.1 hMiddle.2 hStep⟩
  exact hBoth.2

/-- The ports of a listener are the same in every later state. -/
theorem Daemon.listenerPorts_later (hReach : Reachable (Daemon.step cfg) (Daemon.start cfg) d)
    (hLater : Reachable (Daemon.step cfg) d d') {n : Nat} {ports : UInt16 × UInt16}
    (h : d.ctx.listenerPorts n = some ports) : d'.ctx.listenerPorts n = some ports := by
  have hBoth := hLater.invariant
    (fun d => Reachable (Daemon.step cfg) (Daemon.start cfg) d ∧ d.ctx.listenerPorts n = some ports)
    ⟨hReach, h⟩ fun middle action after hMiddle hStep =>
      ⟨hMiddle.1.tail hStep, Daemon.step_listenerPorts
        (Daemon.reachable_listenersSound hMiddle.1).fresh hStep hMiddle.2⟩
  exact hBoth.2

end DevcontainerBridge
