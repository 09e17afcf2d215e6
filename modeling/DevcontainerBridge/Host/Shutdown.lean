import DevcontainerBridge.Host.Matching
import DevcontainerBridge.Host.Trackers

/-! The end of the daemon. A port listener hands a client over in two steps,
and the daemon goes on after its main loop: it locks the state, takes all
forwards out of it and waits for their listeners one after the other. -/
namespace DevcontainerBridge

open Table Transition

/-- Where `run` is. -/
inductive MainPhase where
  | accepting
  /-- out of the loop, about to lock the state -/
  | locking
  /-- in `drain_all_forwards`: the handles that have not been awaited -/
  | joining (handles : List Nat)
  deriving DecidableEq

/-- The daemon with its listeners' tasks. -/
structure Shutdown where
  daemon : Daemon
  main : MainPhase
  /-- listeners that are sending an accepted client into the client channel -/
  sending : Finset Nat
  /-- listeners whose shutdown sender has sent its signal or has been dropped -/
  stopped : Finset Nat

inductive ShutdownAction where
  | task (id : Nat) (input : Input)
  /-- a task signals the listeners of the forwards that it has in hand -/
  | dismiss (id : Nat)
  | accept (listener : Nat)
  | send (listener : Nat)
  | stop
  /-- the state is locked; its forwards are met in this order -/
  | drain (order : List (Σ _ : String, ContainerState)) (orderOf : String → List (Σ _ : UInt16, ForwardState))
  | join

/-- A live forward has the listener. -/
def HostState.keeps (s : HostState) (listener : Nat) : Bool :=
  s.containers.any fun _ cstate => cstate.forwards.any fun _ fstate => fstate.listener = listener

def Handler.dismisses (handler : Handler) (listener : Nat) : Bool :=
  handler.draining.any fun _ fstate => fstate.listener = listener

/-- Steps that begin with locking the state. -/
def Handler.locksState (cfg : HostConfig) : Handler → Bool
  | .listForwards | .registerRemove .. | .registerInsert .. | .registerReplay .. | .forwardCheck ..
  | .forwardTake .. | .forwardReserve .. | .forwardRelease .. | .forwardInsert .. | .unforwardCheck ..
  | .unforwardRemove .. | .unforwardGlobal _ | .cleanup .. | .socketLookup .. | .scanning
  | .proxy (.clientLookup _) => true
  | .idleCheck => cfg.exitOnIdle
  | _ => false

/-- Tasks that the main loop spawns. -/
def Input.spawnedByMain : Input → Bool
  | .connect | .connectData | .spawnClient => true
  | _ => false

/-- Listeners whose shutdown sender is dropped in a step. -/
def DaemonContext.dropped (ctx after : DaemonContext) (next : Handler) : Finset Nat :=
  (Finset.range ctx.nextListener).filter fun n =>
    ctx.state.keeps n && !after.state.keeps n && !next.dismisses n

/-- The listeners of the forwards that are met in an order. -/
def handlesOf (order : List (Σ _ : String, ContainerState))
    (orderOf : String → List (Σ _ : UInt16, ForwardState)) : List Nat :=
  order.flatMap fun entry => (orderOf entry.1).map fun forward => forward.2.listener

namespace Shutdown

def start (cfg : HostConfig) : Shutdown where
  daemon := Daemon.start cfg
  main := .accepting
  sending := ∅
  stopped := ∅

/-- Whether a task can take a step: only the main loop spawns tasks, and the
state stays locked once its forwards are being drained. -/
def admits (cfg : HostConfig) (s : Shutdown) (id : Nat) (input : Input) : Bool :=
  match s.main with
  | .accepting => true
  | .locking => !input.spawnedByMain
  | .joining _ => !input.spawnedByMain && !(s.daemon.tasks id).locksState cfg

def step (cfg : HostConfig) (s : Shutdown) : ShutdownAction → Option Shutdown
  | .task id input =>
      if s.admits cfg id input then
        (nextHandler cfg s.daemon.ctx (s.daemon.tasks id) input).bind fun (after, next) =>
          -- a listener that is sending has not ended, so its handle is not ready
          if ∀ n ∈ s.sending, after.listeners n = s.daemon.ctx.listeners n then
            some { s with
              daemon := s.daemon.withTask id after next
              stopped := s.stopped ∪ s.daemon.ctx.dropped after next }
          else
            none
      else
        none
  | .dismiss id =>
      let dismissed := (Finset.range s.daemon.ctx.nextListener).filter fun n => (s.daemon.tasks id).dismisses n
      some { s with stopped := s.stopped ∪ dismissed }
  | .accept listener =>
      match s.daemon.ctx.listeners listener with
      | none => none
      | some l =>
          if l.joined = false ∧ listener ∉ s.sending ∧ listener ∉ s.stopped then
            some { s with sending := insert listener s.sending }
          else
            none
  | .send listener =>
      if listener ∈ s.sending then
        (s.daemon.ctx.acceptClient listener).map fun ctx =>
          { s with daemon := { s.daemon with ctx := ctx }, sending := s.sending.erase listener }
      else
        none
  | .stop => if s.main = .accepting then some { s with main := .locking } else none
  | .drain order orderOf =>
      if s.main = .locking ∧ Enumerates order s.daemon.ctx.state.containers ∧
          ∀ entry ∈ order, Enumerates (orderOf entry.1) entry.2.forwards then
        some { s with
          daemon := { s.daemon with ctx := s.daemon.ctx.drainAll, running := false }
          main := .joining (handlesOf order orderOf)
          stopped := s.stopped ∪ (handlesOf order orderOf).toFinset }
      else
        none
  | .join =>
      match s.main with
      | .joining (listener :: rest) =>
          if listener ∉ s.sending then some { s with main := .joining rest } else none
      | _ => none

/-- The number of clients in the client channel. -/
def queued (s : Shutdown) : Nat :=
  s.daemon.ctx.proxy.clientQueue.length

/-- The daemon awaits a listener that is blocked in the full client channel,
which nobody reads any more. -/
def Deadlocked (s : Shutdown) : Prop :=
  ∃ listener rest, s.main = .joining (listener :: rest) ∧ listener ∈ s.sending ∧
    clientChannelCapacity ≤ s.queued

/-- The daemon awaits the listener now or will when it drains its forwards. -/
def Awaits (s : Shutdown) (listener : Nat) : Prop :=
  match s.main with
  | .joining handles => listener ∈ handles
  | _ => s.daemon.ctx.state.keeps listener = true

/-- Some listener that the daemon awaits is sending. -/
def Exposed (s : Shutdown) : Prop :=
  ∃ listener ∈ s.sending, s.Awaits listener

/-- The clients that wait when the main loop is left, and those accepted
afterwards, fit into the client channel wherever the daemon awaits one of
their listeners. -/
def Spacious (s : Shutdown) : ShutdownAction → Prop
  | .stop => s.Exposed → s.sending.card + s.queued ≤ clientChannelCapacity
  | .accept listener => s.main ≠ .accepting → s.Exposed ∨ s.Awaits listener →
      s.sending.card + s.queued < clientChannelCapacity
  | .task id _ => s.main ≠ .accepting → ∀ port hostPort listener,
      (s.daemon.tasks id).boundListener = some (port, hostPort, listener) → listener ∈ s.sending →
        s.sending.card + s.queued ≤ clientChannelCapacity
  | _ => True

end Shutdown

variable {cfg : HostConfig} {s s' : Shutdown} {action : ShutdownAction} {ctx after : DaemonContext}
  {handler next : Handler} {input : Input} {id listener : Nat}

theorem HostState.keeps_iff {state : HostState} : state.keeps listener = true ↔
    ∃ containerId port fstate,
      state.forwardOf containerId port = some fstate ∧ fstate.listener = listener := by
  unfold HostState.keeps HostState.forwardOf
  rw [any_iff]
  constructor
  · rintro ⟨containerId, cstate, hContainer, hAny⟩
    obtain ⟨port, fstate, hForward, hListener⟩ := (any_iff ..).mp hAny
    refine ⟨containerId, port, fstate, ?_, of_decide_eq_true hListener⟩
    rw [hContainer]
    exact hForward
  · rintro ⟨containerId, port, fstate, hForward, hListener⟩
    obtain ⟨cstate, hContainer, hHere⟩ := Option.bind_eq_some_iff.mp hForward
    refine ⟨containerId, cstate, hContainer, ?_⟩
    exact (any_iff ..).mpr ⟨port, fstate, hHere, decide_eq_true hListener⟩

/-- A live forward's listener had one before, or its forward is inserted now. -/
theorem HostStep.keeps_cases (hStep : HostStep ctx handler after next) (hBound : handler.WellBound)
    (h : after.state.keeps listener = true) :
    ctx.state.keeps listener = true ∨
      ∃ port hostPort, handler.boundListener = some (port, hostPort, listener) := by
  obtain ⟨containerId, port, fstate, hForward, rfl⟩ := HostState.keeps_iff.mp h
  rcases hStep.forwardOf_cases hBound hForward with hBefore | ⟨hInserted, -⟩
  · exact .inl (HostState.keeps_iff.mpr ⟨containerId, port, fstate, hBefore, rfl⟩)
  · exact .inr ⟨port, fstate.hostPort, hInserted⟩

/-- The handles of a drain are those of the listeners of live forwards. -/
theorem keeps_of_handlesOf {state : HostState} {order : List (Σ _ : String, ContainerState)}
    {orderOf : String → List (Σ _ : UInt16, ForwardState)} (hOrder : Enumerates order state.containers)
    (hForwards : ∀ entry ∈ order, Enumerates (orderOf entry.1) entry.2.forwards)
    (h : listener ∈ handlesOf order orderOf) : state.keeps listener = true := by
  obtain ⟨⟨containerId, cstate⟩, hEntry, hHere⟩ := List.mem_flatMap.mp h
  obtain ⟨⟨port, fstate⟩, hForward, rfl⟩ := List.mem_map.mp hHere
  have hContainer := (mem_of_enumerates hOrder containerId cstate).mp hEntry
  have hLookup := (mem_of_enumerates (hForwards _ hEntry) port fstate).mp hForward
  refine HostState.keeps_iff.mpr ⟨containerId, port, fstate, ?_, rfl⟩
  unfold HostState.forwardOf
  rw [hContainer]
  exact hLookup

theorem acceptClient_queue (h : ctx.acceptClient listener = some after) : after.state = ctx.state ∧
    after.proxy.clientQueue.length = ctx.proxy.clientQueue.length + 1 := by
  obtain ⟨l, -, rfl⟩ := DaemonContext.acceptClient_frame h
  exact ⟨rfl, List.length_append⟩

namespace Shutdown

/-- What one step of the daemon and its listeners is. -/
inductive StepCase (cfg : HostConfig) (s : Shutdown) : ShutdownAction → Shutdown → Prop where
  | task {id : Nat} {input : Input} {after : DaemonContext} {next : Handler} {stopped : Finset Nat}
      (hAdmits : s.admits cfg id input = true)
      (hNext : nextHandler cfg s.daemon.ctx (s.daemon.tasks id) input = some (after, next)) :
      StepCase cfg s (.task id input) { s with daemon := s.daemon.withTask id after next, stopped := stopped }
  | dismiss {id : Nat} {stopped : Finset Nat} : StepCase cfg s (.dismiss id) { s with stopped := stopped }
  | accept {listener : Nat} (hFresh : listener ∉ s.sending) :
      StepCase cfg s (.accept listener) { s with sending := insert listener s.sending }
  | send {listener : Nat} {after : DaemonContext} (hSending : listener ∈ s.sending)
      (hAccept : s.daemon.ctx.acceptClient listener = some after) :
      StepCase cfg s (.send listener)
        { s with daemon := { s.daemon with ctx := after }, sending := s.sending.erase listener }
  | stop (hMain : s.main = .accepting) : StepCase cfg s .stop { s with main := .locking }
  | drain {order : List (Σ _ : String, ContainerState)} {orderOf : String → List (Σ _ : UInt16, ForwardState)}
      {stopped : Finset Nat} (hMain : s.main = .locking) (hOrder : Enumerates order s.daemon.ctx.state.containers)
      (hForwards : ∀ entry ∈ order, Enumerates (orderOf entry.1) entry.2.forwards) :
      StepCase cfg s (.drain order orderOf)
        { s with
          daemon := { s.daemon with ctx := s.daemon.ctx.drainAll, running := false }
          main := .joining (handlesOf order orderOf)
          stopped := stopped }
  | join {listener : Nat} {rest : List Nat} (hMain : s.main = .joining (listener :: rest)) :
      StepCase cfg s .join { s with main := .joining rest }

theorem step_cases (h : s.step cfg action = some s') : StepCase cfg s action s' := by
  cases action with
  | task id input =>
      unfold step at h
      dsimp only at h
      split_ifs at h with hAdmits
      obtain ⟨⟨after, next⟩, hNext, hPair⟩ := Option.bind_eq_some_iff.mp h
      obtain ⟨-, hHere⟩ := Option.ite_none_right_eq_some.mp hPair
      cases hHere
      exact .task hAdmits hNext
  | dismiss id =>
      cases h
      exact .dismiss
  | accept listener =>
      unfold step at h
      dsimp only at h
      split at h
      · cases h
      · split_ifs at h with hFree
        cases h
        exact .accept hFree.2.1
  | send listener =>
      obtain ⟨hSending, hMap⟩ := Option.ite_none_right_eq_some.mp h
      obtain ⟨after, hAccept, rfl⟩ := Option.map_eq_some_iff.mp hMap
      exact .send hSending hAccept
  | stop =>
      obtain ⟨hMain, hHere⟩ := Option.ite_none_right_eq_some.mp h
      cases hHere
      exact .stop hMain
  | drain order orderOf =>
      obtain ⟨⟨hMain, hOrder, hForwards⟩, hHere⟩ := Option.ite_none_right_eq_some.mp h
      cases hHere
      exact .drain hMain hOrder hForwards
  | join =>
      unfold step at h
      dsimp only at h
      split at h
      case h_1 hMain =>
        obtain ⟨-, hHere⟩ := Option.ite_none_right_eq_some.mp h
        cases hHere
        exact .join hMain
      case h_2 => cases h

/-- Whoever the daemon awaits can hand its client over. -/
structure Roomy (s : Shutdown) : Prop where
  bound : ∀ id, (s.daemon.tasks id).WellBound
  room : s.main ≠ .accepting → s.Exposed → s.sending.card + s.queued ≤ clientChannelCapacity

theorem start_roomy (cfg : HostConfig) : (start cfg).Roomy where
  bound := Daemon.start_wellBound
  room := fun hMain => absurd rfl hMain

theorem Roomy.not_deadlocked (h : s.Roomy) : ¬s.Deadlocked := by
  rintro ⟨listener, rest, hMain, hSending, hFull⟩
  have hAwaits : s.Awaits listener := by
    unfold Awaits
    rw [hMain]
    exact List.mem_cons_self
  have hRoom := h.room (by rw [hMain]; exact MainPhase.noConfusion) ⟨listener, hSending, hAwaits⟩
  have hCard : 0 < s.sending.card := Finset.card_pos.mpr ⟨listener, hSending⟩
  omega

/-- After a step of a task, the daemon awaits no new listener but that of a
forward that is inserted now. -/
theorem awaits_task (hBound : (s.daemon.tasks id).WellBound)
    (hNext : nextHandler cfg s.daemon.ctx (s.daemon.tasks id) input = some (after, next))
    {stopped : Finset Nat}
    (h : { s with daemon := s.daemon.withTask id after next, stopped := stopped }.Awaits listener) :
    s.Awaits listener ∨
      ∃ port hostPort, (s.daemon.tasks id).boundListener = some (port, hostPort, listener) := by
  have keeps (hKeeps : after.state.keeps listener = true) := (nextHandler_hostStep hNext).keeps_cases hBound hKeeps
  unfold Awaits at h ⊢
  dsimp only at h
  cases hMain : s.main with
  | joining handles =>
      rw [hMain] at h
      exact .inl h
  | accepting =>
      rw [hMain] at h
      exact keeps h
  | locking =>
      rw [hMain] at h
      exact keeps h

theorem Roomy.step (h : s.Roomy) (hSpacious : s.Spacious action) (hStep : StepCase cfg s action s') :
    s'.Roomy := by
  cases hStep with
  | @task id input after next stopped hAdmits hNext =>
      constructor
      · intro other
        show (Function.update s.daemon.tasks id next other).WellBound
        by_cases hOther : other = id
        · rw [hOther, Function.update_self]
          exact (nextHandler_hostStep hNext).wellBound (h.bound id)
        · rw [Function.update_of_ne hOther]
          exact h.bound other
      · rintro hMain ⟨listener, hSending, hAwaits⟩
        have hQueue : after.proxy.clientQueue.length ≤ s.queued := (nextHandler_matchStep hNext).clientQueue_le
        have hRoom : s.sending.card + s.queued ≤ clientChannelCapacity := by
          rcases awaits_task (h.bound id) hNext hAwaits with hBefore | ⟨port, hostPort, hInserted⟩
          · exact h.room hMain ⟨listener, hSending, hBefore⟩
          · exact hSpacious hMain port hostPort listener hInserted hSending
        exact le_trans (Nat.add_le_add_left hQueue _) hRoom
  | dismiss => exact ⟨h.bound, h.room⟩
  | @accept listener hFresh =>
      refine ⟨h.bound, fun hMain hExposed => ?_⟩
      have hBefore : s.Exposed ∨ s.Awaits listener := by
        obtain ⟨other, hSending, hAwaits⟩ := hExposed
        rcases Finset.mem_insert.mp hSending with rfl | hOther
        · exact .inr hAwaits
        · exact .inl ⟨other, hOther, hAwaits⟩
      have hRoom := hSpacious hMain hBefore
      show (insert listener s.sending).card + s.queued ≤ clientChannelCapacity
      rw [Finset.card_insert_of_notMem hFresh]
      omega
  | @send listener after hSending hAccept =>
      obtain ⟨hState, hQueue⟩ := acceptClient_queue hAccept
      refine ⟨h.bound, fun hMain hExposed => ?_⟩
      have hBefore : s.Exposed := by
        obtain ⟨other, hOther, hAwaits⟩ := hExposed
        refine ⟨other, Finset.mem_of_mem_erase hOther, ?_⟩
        unfold Awaits at hAwaits ⊢
        dsimp only at hAwaits
        rw [hState] at hAwaits
        exact hAwaits
      have hRoom := h.room hMain hBefore
      have hCard : 0 < s.sending.card := Finset.card_pos.mpr ⟨listener, hSending⟩
      show (s.sending.erase listener).card + after.proxy.clientQueue.length ≤ clientChannelCapacity
      rw [Finset.card_erase_of_mem hSending, hQueue]
      change s.sending.card - 1 + (s.queued + 1) ≤ clientChannelCapacity
      omega
  | stop hMain =>
      refine ⟨h.bound, fun _ hExposed => hSpacious ?_⟩
      obtain ⟨listener, hSending, hAwaits⟩ := hExposed
      refine ⟨listener, hSending, ?_⟩
      unfold Awaits
      rw [hMain]
      exact hAwaits
  | drain hMain hOrder hForwards =>
      refine ⟨h.bound, fun _ hExposed => h.room (by rw [hMain]; exact MainPhase.noConfusion) ?_⟩
      obtain ⟨listener, hSending, hAwaits⟩ := hExposed
      refine ⟨listener, hSending, ?_⟩
      unfold Awaits
      rw [hMain]
      exact keeps_of_handlesOf hOrder hForwards hAwaits
  | join hMain =>
      refine ⟨h.bound, fun _ hExposed => h.room (by rw [hMain]; exact MainPhase.noConfusion) ?_⟩
      obtain ⟨listener, hSending, hAwaits⟩ := hExposed
      refine ⟨listener, hSending, ?_⟩
      unfold Awaits
      rw [hMain]
      exact List.mem_cons_of_mem _ hAwaits

/-- Until the state has been drained, the daemon with its listeners' tasks goes
through states of the daemon: a client that is handed over connects there. -/
theorem reachable_daemon (hReach : Reachable (step cfg) (start cfg) s) :
    (∀ handles, s.main ≠ .joining handles) →
      s.daemon.running = true ∧ Reachable (Daemon.step cfg) (Daemon.start cfg) s.daemon := by
  apply hReach.invariant (fun s => (∀ handles, s.main ≠ .joining handles) →
    s.daemon.running = true ∧ Reachable (Daemon.step cfg) (Daemon.start cfg) s.daemon)
  · exact fun _ => ⟨rfl, .refl _⟩
  intro s action s' h hStep
  cases step_cases hStep with
  | @task id input after next stopped hAdmits hNext =>
      intro hMain
      obtain ⟨hRunning, hDaemon⟩ := h hMain
      exact ⟨hRunning, hDaemon.tail (Daemon.step_of_nextHandler hRunning hNext)⟩
  | dismiss => exact h
  | accept => exact h
  | @send listener after hSending hAccept =>
      intro hMain
      obtain ⟨hRunning, hDaemon⟩ := h hMain
      have hClient : Daemon.step cfg s.daemon (.clientConnects listener) =
          some { s.daemon with ctx := after } := by
        unfold Daemon.step
        rw [if_pos hRunning]
        dsimp only
        rw [hAccept]
        rfl
      exact ⟨hRunning, hDaemon.tail hClient⟩
  | stop hMain =>
      intro _
      apply h
      rw [hMain]
      exact fun _ => MainPhase.noConfusion
  | drain => exact fun hMain => absurd rfl (hMain _)
  | join => exact fun hMain => absurd rfl (hMain _)

end Shutdown

/-- A shutdown does not get stuck as long as the client channel has room for
the clients whose listeners it awaits. -/
theorem Shutdown.run_not_deadlocked {trace : List (Shutdown × ShutdownAction)} {finish : Shutdown}
    (run : Run (Shutdown.step cfg) (Shutdown.start cfg) trace finish)
    (hSpacious : Guarded Shutdown.Spacious trace) :
    Throughout (fun s => ¬s.Deadlocked) trace finish := by
  have hRoomy : Throughout Shutdown.Roomy trace finish :=
    run.throughout hSpacious (Shutdown.start_roomy cfg) fun s action s' h hAction hStep =>
      h.step hAction (Shutdown.step_cases hStep)
  exact ⟨fun entry hEntry => (hRoomy.1 entry hEntry).not_deadlocked, hRoomy.2.not_deadlocked⟩

/-- The same step with listeners that hand their clients over in two steps. -/
def ShutdownAction.ofAction : Action → List ShutdownAction
  | .task id input => [.task id input]
  | .clientConnects listener => [.accept listener, .send listener]
  | .stop => [.stop]

/-- A container forwards a port, and some clients connect to it. -/
def crowdedSchedule (clients : Nat) : List ShutdownAction :=
  (singleSchedule ++ List.replicate clients (Action.clientConnects 0)).flatMap ShutdownAction.ofAction

/-- The state is drained while the container's only forward is live. -/
def drainOnly : ShutdownAction :=
  let cstate := { HostState.newRegistration "h" 1 with forwards := Finmap.singleton 8080 onlyForward }
  .drain [⟨"c", cstate⟩] fun _ => [⟨8080, onlyForward⟩]

/-- A client connects while the main loop ends, and is handed over. -/
def orderlySchedule : List ShutdownAction :=
  crowdedSchedule 1 ++ [.stop, .accept 0, drainOnly, .send 0, .join]

/-- The client channel is never filled. -/
def Shutdown.isSpacious (s : Shutdown) (_ : ShutdownAction) : Bool :=
  s.sending.card + s.queued < clientChannelCapacity

theorem Shutdown.spacious_of_isSpacious (h : s.isSpacious action = true) : s.Spacious action := by
  have hRoom : s.sending.card + s.queued < clientChannelCapacity := of_decide_eq_true h
  cases action with
  | stop => exact fun _ => hRoom.le
  | accept listener => exact fun _ _ => hRoom
  | task id input => exact fun _ _ _ _ _ _ => hRoom.le
  | _ => trivial

theorem Shutdown.run_not_deadlocked_orderly :
    ∃ trace finish, trace.map Prod.snd = orderlySchedule ∧
      Run (Shutdown.step .basic) (Shutdown.start .basic) trace finish ∧
      Guarded Shutdown.Spacious trace ∧ finish.main = .joining [] ∧ finish.queued = 2 ∧
      Throughout (fun s => ¬s.Deadlocked) trace finish := by
  have hRun : (execWhile (Shutdown.step .basic) Shutdown.isSpacious (Shutdown.start .basic)
      orderlySchedule).any fun s => decide (s.main = .joining []) && s.queued == 2 := by
    decide +kernel
  obtain ⟨finish, hExec, hState⟩ := (Option.any_eq_true _ _).mp hRun
  obtain ⟨hMain, hQueued⟩ := Bool.and_eq_true_iff.mp hState
  obtain ⟨trace, hActions, run, hCheck⟩ := run_of_execWhile hExec
  have hSpacious : Guarded Shutdown.Spacious trace :=
    fun entry hEntry => Shutdown.spacious_of_isSpacious (hCheck entry hEntry)
  exact ⟨trace, finish, hActions, run, hSpacious, of_decide_eq_true hMain, beq_iff_eq.mp hQueued,
    Shutdown.run_not_deadlocked run hSpacious⟩

/-- One client more is accepted before the main loop ends. -/
def stuckSchedule : List ShutdownAction :=
  crowdedSchedule clientChannelCapacity ++ [.accept 0, .stop, drainOnly]

theorem Shutdown.run_deadlocked :
    ∃ trace finish, trace.map Prod.snd = stuckSchedule ∧
      Run (Shutdown.step .basic) (Shutdown.start .basic) trace finish ∧ finish.Deadlocked := by
  have hRun : (exec (Shutdown.step .basic) (Shutdown.start .basic) stuckSchedule).any fun s =>
      decide (s.main = .joining [0]) && decide (0 ∈ s.sending) && s.queued == clientChannelCapacity := by
    decide +kernel
  obtain ⟨finish, hExec, hState⟩ := (Option.any_eq_true _ _).mp hRun
  simp only [Bool.and_eq_true, beq_iff_eq, decide_eq_true_eq] at hState
  obtain ⟨⟨hMain, hSending⟩, hQueued⟩ := hState
  obtain ⟨trace, hActions, run⟩ := run_of_exec hExec
  exact ⟨trace, finish, hActions, run, 0, [], hMain, hSending, hQueued.ge⟩

end DevcontainerBridge
