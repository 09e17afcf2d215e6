import DevcontainerBridge.Host.Transitions

/-! What one step of a task can do to the containers, the host port table and
the browser's port map. Every invariant of these tables is derived from this
classification; no later proof unfolds the step functions. -/
namespace DevcontainerBridge

open Table Transition

/-- The positions of a task that the invariants of the tables refer to: it is
between two critical sections of one operation, or about to enter one whose
effect an earlier check has to justify. -/
def Handler.engaged : Handler → Bool
  | .registerBrowser .. | .registerInsert .. | .forwardTake .. | .forwardDrain ..
  | .forwardReserve .. | .forwardBind .. | .forwardRelease .. | .forwardInsert ..
  | .forwardBrowser .. | .unforwardRemove .. | .unforwardDrain .. | .unforwardBrowser ..
  | .cleanupBrowser .. | .unforwardGlobalBrowser .. => true
  | _ => false

/-- The tables that the handlers share. -/
structure SameTables (ctx after : DaemonContext) : Prop where
  containers : after.state.containers = ctx.state.containers
  usedHostPorts : after.state.usedHostPorts = ctx.state.usedHostPorts
  portMap : after.browser.portMap = ctx.browser.portMap

/-- Moves of an engaged task that leave the tables alone. -/
inductive Advance (ctx : DaemonContext) : Handler → Handler → Prop where
  | registerEpoch {containerId hostname : String} :
      Advance ctx (.registerEpoch containerId hostname)
        (.registerInsert containerId hostname ctx.nextRegistrationId)
  | forwardCheck {containerId : String} {registrationId : Nat} {request : ForwardRequest}
      (hOwner : ctx.state.registrationOf containerId = some registrationId) :
      Advance ctx (.forwardCheck containerId registrationId request)
        (.forwardTake containerId registrationId request)
  | forwardLimit {containerId : String} {registrationId : Nat} {request : ForwardRequest} :
      Advance ctx (.forwardTake containerId registrationId request)
        (.forwardAck containerId registrationId request.port none)
  | forwardTake {containerId : String} {registrationId : Nat} {request : ForwardRequest} :
      Advance ctx (.forwardTake containerId registrationId request)
        (.forwardReserve containerId registrationId request none)
  | forwardDrain {containerId : String} {registrationId : Nat} {request : ForwardRequest}
      {old : ForwardState} :
      Advance ctx (.forwardDrain containerId registrationId request old)
        (.forwardReserve containerId registrationId request (some old.hostPort))
  | forwardNoPort {containerId : String} {registrationId : Nat} {request : ForwardRequest}
      {replaced : Option UInt16} (hFull : ctx.state.findAvailablePort request.port = some none) :
      Advance ctx (.forwardReserve containerId registrationId request replaced)
        (.forwardAck containerId registrationId request.port none)
  | forwardBindFailed {containerId : String} {registrationId : Nat} {request : ForwardRequest}
      {replaced : Option UInt16} {targetPort : UInt16} :
      Advance ctx (.forwardBind containerId registrationId request replaced targetPort)
        (.forwardRelease containerId registrationId request replaced targetPort)
  | forwardBind {containerId : String} {registrationId : Nat} {request : ForwardRequest}
      {replaced : Option UInt16} {targetPort hostPort : UInt16} {listener : Nat}
      (hBound : targetPort ≠ 0 → hostPort = targetPort) :
      Advance ctx (.forwardBind containerId registrationId request replaced targetPort)
        (.forwardInsert containerId registrationId request replaced targetPort hostPort listener)
  | unforwardCheck {containerId : String} {registrationId : Nat} {port : UInt16}
      (hOwner : ctx.state.registrationOf containerId = some registrationId) :
      Advance ctx (.unforwardCheck containerId registrationId port)
        (.unforwardRemove containerId registrationId port)
  | unforwardNone {containerId : String} {registrationId : Nat} {port : UInt16} :
      Advance ctx (.unforwardRemove containerId registrationId port)
        (.unforwardBrowser containerId registrationId port)
  | unforwardDrain {containerId : String} {registrationId : Nat} {port : UInt16} {old : ForwardState} :
      Advance ctx (.unforwardDrain containerId registrationId port old)
        (.unforwardBrowser containerId registrationId port)

/-- One step of a task, by its effect on the tables. -/
inductive HostStep (ctx : DaemonContext) : Handler → DaemonContext → Handler → Prop where
  | quiet {handler next : Handler} {after : DaemonContext} (hBefore : handler.engaged = false)
      (hAfter : next.engaged = false) (hSame : SameTables ctx after) :
      HostStep ctx handler after next
  | advance {handler next : Handler} {after : DaemonContext} (hMove : Advance ctx handler next)
      (hSame : SameTables ctx after) :
      HostStep ctx handler after next
  | registerRemove {containerId hostname : String} {state : HostState} {old : Forwards}
      (hRemove : ctx.state.removeStale containerId = some (state, some old)) :
      HostStep ctx (.registerRemove containerId hostname) { ctx with state := state }
        (.registerBrowser containerId hostname old)
  | registerBrowser {containerId hostname : String} {old : Forwards} :
      HostStep ctx (.registerBrowser containerId hostname old)
        { ctx with browser := ctx.browser.removePortMappings old }
        (.registerDrain containerId hostname old)
  | registerInsert {containerId hostname : String} {registrationId : Nat} {proxy : ProxyState} :
      HostStep ctx (.registerInsert containerId hostname registrationId)
        { ctx with
          state := ctx.state.insertContainer containerId hostname registrationId
          proxy := proxy }
        (.registerReplay containerId registrationId)
  | forwardTake {containerId : String} {registrationId : Nat} {request : ForwardRequest}
      {old : ForwardState}
      (hOld : (ctx.state.removeForward containerId request.port).2 = some old) :
      HostStep ctx (.forwardTake containerId registrationId request)
        { ctx with state := (ctx.state.removeForward containerId request.port).1 }
        (.forwardDrain containerId registrationId request old)
  | forwardReserve {containerId : String} {registrationId : Nat} {request : ForwardRequest}
      {replaced : Option UInt16} {targetPort : UInt16}
      (hFree : ctx.state.findAvailablePort request.port = some (some targetPort)) :
      HostStep ctx (.forwardReserve containerId registrationId request replaced)
        { ctx with state := ctx.state.reservePort targetPort containerId }
        (.forwardBind containerId registrationId request replaced targetPort)
  | forwardRelease {containerId : String} {registrationId : Nat} {request : ForwardRequest}
      {replaced : Option UInt16} {targetPort : UInt16} :
      HostStep ctx (.forwardRelease containerId registrationId request replaced targetPort)
        { ctx with state := ctx.state.releasePort targetPort }
        (.forwardAck containerId registrationId request.port none)
  | forwardInsert {containerId : String} {registrationId : Nat} {request : ForwardRequest}
      {replaced : Option UInt16} {targetPort hostPort : UInt16} {listener : Nat} {fstate : ForwardState}
      (hPort : fstate.hostPort = hostPort)
      (hListener : fstate.listener = listener ∧ fstate.tracker = listener)
      (hInserted : (ctx.state.insertForward containerId request.port targetPort fstate).2 = true) :
      HostStep ctx
        (.forwardInsert containerId registrationId request replaced targetPort hostPort listener)
        { ctx with state := (ctx.state.insertForward containerId request.port targetPort fstate).1 }
        (.forwardBrowser containerId registrationId request.port hostPort)
  | forwardGone {containerId : String} {registrationId : Nat} {request : ForwardRequest}
      {replaced : Option UInt16} {targetPort hostPort : UInt16} {listener : Nat}
      {after : DaemonContext} (hGone : ctx.state.containers.lookup containerId = none)
      (hState : after.state = ctx.state.releasePort hostPort) (hBrowser : after.browser = ctx.browser) :
      HostStep ctx
        (.forwardInsert containerId registrationId request replaced targetPort hostPort listener)
        after (.forwardAck containerId registrationId request.port none)
  | forwardBrowser {containerId : String} {registrationId : Nat} {port hostPort : UInt16} :
      HostStep ctx (.forwardBrowser containerId registrationId port hostPort)
        { ctx with browser := ctx.browser.addPortMapping port hostPort }
        (.forwardAck containerId registrationId port (some hostPort))
  | unforwardRemove {containerId : String} {registrationId : Nat} {port : UInt16} {old : ForwardState}
      (hOld : (ctx.state.removeForward containerId port).2 = some old) :
      HostStep ctx (.unforwardRemove containerId registrationId port)
        { ctx with state := (ctx.state.removeForward containerId port).1 }
        (.unforwardDrain containerId registrationId port old)
  | unforwardBrowser {containerId : String} {registrationId : Nat} {port : UInt16} :
      HostStep ctx (.unforwardBrowser containerId registrationId port)
        { ctx with browser := ctx.browser.removePortMapping port }
        (.serving containerId registrationId)
  | cleanup {containerId : String} {registrationId : Nat} {state : HostState} {old : Forwards}
      (hTake : ctx.state.takeContainer containerId registrationId = some (state, old)) :
      HostStep ctx (.cleanup containerId registrationId) { ctx with state := state }
        (.cleanupBrowser old)
  | cleanupBrowser {old : Forwards} :
      HostStep ctx (.cleanupBrowser old)
        { ctx with browser := ctx.browser.removePortMappings old } (.cleanupDrain old)
  | unforwardGlobal {port : UInt16} {owner : String} {old : ForwardState}
      (hOld : (ctx.state.removeForward owner port).2 = some old) :
      HostStep ctx (.unforwardGlobal port)
        { ctx with state := (ctx.state.removeForward owner port).1 }
        (.unforwardGlobalBrowser port old)
  | unforwardGlobalBrowser {port : UInt16} {old : ForwardState} :
      HostStep ctx (.unforwardGlobalBrowser port old)
        { ctx with browser := ctx.browser.removePortMapping port }
        (.unforwardGlobalDrain port old)

theorem SameTables.refl (ctx : DaemonContext) : SameTables ctx ctx := ⟨rfl, rfl, rfl⟩

/-- A teardown outside the lock joins listeners and cancels trackers only. -/
theorem tearDown_tables {ctx after : DaemonContext} {forwards : Forwards} {timedOut : List Nat}
    (h : ctx.tearDown forwards timedOut = some after) :
    after.state = ctx.state ∧ after.browser = ctx.browser := by
  obtain ⟨-, rfl⟩ := DaemonContext.tearDown_frame h
  exact ⟨rfl, rfl⟩

theorem tearDown_sameTables {ctx after : DaemonContext} {forwards : Forwards} {timedOut : List Nat}
    (h : ctx.tearDown forwards timedOut = some after) : SameTables ctx after := by
  obtain ⟨hState, hBrowser⟩ := tearDown_tables h
  exact ⟨by rw [hState], by rw [hState], by rw [hBrowser]⟩

theorem enumerates_singleForward (port : UInt16) (fstate : ForwardState) :
    Enumerates [⟨port, fstate⟩] (singleForward port fstate) := rfl

/-- A drain of a single forward ends when its tracker is idle or has timed out. -/
theorem ProxyState.canDrain_single (p : ProxyState) (port : UInt16) (fstate : ForwardState)
    (timedOut : Bool) :
    p.canDrain (singleForward port fstate) (if timedOut then [fstate.tracker] else []) =
      (timedOut || (p.trackers fstate.tracker).count = 0) := by
  unfold canDrain
  rw [all_eq_all _ (enumerates_singleForward port fstate)]
  cases timedOut with
  | false => simp
  | true => simp [any_eq_any _ (enumerates_singleForward port fstate)]

theorem drainOne_some {ctx after : DaemonContext} {old rest : Forwards} {port : UInt16} {timedOut : Bool}
    (h : ctx.drainOne old port timedOut = some (after, rest)) :
    ∃ fstate, old.lookup port = some fstate ∧ rest = old.erase port ∧
      ctx.tearDown (singleForward port fstate) (if timedOut then [fstate.tracker] else []) = some after := by
  unfold DaemonContext.drainOne at h
  split at h
  case h_1 => cases h
  case h_2 fstate hOld =>
    obtain ⟨middle, hTear, hPair⟩ := Option.map_eq_some_iff.mp h
    cases hPair
    exact ⟨fstate, hOld, rfl, hTear⟩

theorem drainOne_sameTables {ctx after : DaemonContext} {old rest : Forwards} {port : UInt16}
    {timedOut : Bool} (h : ctx.drainOne old port timedOut = some (after, rest)) : SameTables ctx after := by
  obtain ⟨fstate, -, -, hTear⟩ := drainOne_some h
  exact tearDown_sameTables hTear

/-- Nothing is removed where `removeForward` finds no forward. -/
theorem HostState.removeForward_fst_of_none {s : HostState} {containerId : String} {port : UInt16}
    (h : (s.removeForward containerId port).2 = none) :
    (s.removeForward containerId port).1 = s := by
  unfold HostState.removeForward at h ⊢
  split at h
  · rfl
  · split at h
    · rfl
    · cases h

theorem removeStale_eq_none {s state : HostState} {containerId : String}
    (h : s.removeStale containerId = some (state, none)) : s = state := by
  unfold HostState.removeStale at h
  split at h
  · split at h <;> cases h
    rfl
  · cases h

theorem removeForward_eq_none {s state : HostState} {containerId : String} {port : UInt16}
    (h : s.removeForward containerId port = (state, none)) : s = state := by
  have hState := HostState.removeForward_fst_of_none (congrArg Prod.snd h)
  rw [h] at hState
  exact hState.symm

theorem takeForward_cases {s state : HostState} {containerId : String} {port : UInt16}
    {old : Option ForwardState} (h : s.takeForward containerId port = some (state, old)) :
    state = (s.removeForward containerId port).1 ∧ (s.removeForward containerId port).2 = old := by
  unfold HostState.takeForward at h
  split at h
  case h_1 hNone =>
    cases h
    simp [HostState.removeForward, hNone]
  case h_2 cstate hSome =>
    split at h
    · cases h
    · have hPair : s.removeForward containerId port = (state, old) := Option.some.inj h
      rw [hPair]
      exact ⟨rfl, rfl⟩

theorem insertForward_snd_false {s : HostState} {containerId : String} {port targetPort : UInt16}
    {fstate : ForwardState} (h : (s.insertForward containerId port targetPort fstate).2 = false) :
    s.containers.lookup containerId = none ∧
      (s.insertForward containerId port targetPort fstate).1 = s.releasePort fstate.hostPort := by
  unfold HostState.insertForward at h ⊢
  split at h
  case h_1 cstate hSome =>
    dsimp only at h
    split at h <;> cases h
  case h_2 hNone => exact ⟨hNone, rfl⟩

variable {cfg : HostConfig} {ctx after : DaemonContext} {handler next : Handler} {input : Input}

private theorem quiet_of_eq {handler next : Handler} (hBefore : handler.engaged = false)
    (hAfter : next.engaged = false) : HostStep ctx handler ctx next :=
  .quiet hBefore hAfter (SameTables.refl ctx)

theorem dispatchFirst_engaged (message : Message) : (dispatchFirst cfg message).engaged = false := by
  cases message <;> unfold dispatchFirst <;> dsimp only <;> (try split_ifs) <;> rfl

theorem dispatchContainer_engaged (containerId : String) (registrationId : Nat) (message : Message) :
    (dispatchContainer cfg containerId registrationId message).engaged = false := by
  cases message <;> unfold dispatchContainer <;> dsimp only <;> (try split_ifs) <;> rfl

theorem nextRegister_hostStep (h : nextRegister cfg ctx handler input = some (after, next)) :
    HostStep ctx handler after next := by
  cases nextRegister_cases h with
  | dispatched message => exact quiet_of_eq rfl (dispatchFirst_engaged message)
  | unknown hStale =>
      obtain rfl := removeStale_eq_none hStale
      exact quiet_of_eq rfl rfl
  | stale hStale => exact .registerRemove hStale
  | unmapped => exact .registerBrowser
  | drained hTear => exact .quiet rfl rfl (tearDown_sameTables hTear)
  | drainedOne hDrain => exact .quiet rfl rfl (drainOne_sameTables hDrain)
  | numbered => exact .advance .registerEpoch ⟨rfl, rfl, rfl⟩
  | inserted => exact .registerInsert
  | _ => exact quiet_of_eq rfl rfl

theorem nextForward_hostStep (h : nextForward ctx handler input = some (after, next)) :
    HostStep ctx handler after next := by
  cases nextForward_cases h with
  | owned hOwner => exact .advance (.forwardCheck hOwner) (SameTables.refl ctx)
  | limited => exact .advance .forwardLimit (SameTables.refl ctx)
  | taken hTake =>
      obtain ⟨rfl, hNone⟩ := takeForward_cases hTake
      rw [HostState.removeForward_fst_of_none hNone]
      exact .advance .forwardTake (SameTables.refl ctx)
  | replaced hTake =>
      obtain ⟨rfl, hSome⟩ := takeForward_cases hTake
      exact .forwardTake hSome
  | drained hTear => exact .advance .forwardDrain (tearDown_sameTables hTear)
  | noPort hFull => exact .advance (.forwardNoPort hFull) (SameTables.refl ctx)
  | reserved hFree => exact .forwardReserve hFree
  | unbound => exact .advance .forwardBindFailed (SameTables.refl ctx)
  | bound hBound =>
      refine .advance (.forwardBind fun hNonzero => ?_) ⟨rfl, rfl, rfl⟩
      by_contra hDiffer
      exact hBound ⟨hNonzero, hDiffer⟩
  | released => exact .forwardRelease
  | inserted hInsert =>
      obtain ⟨rfl, hInserted⟩ := Prod.mk.inj hInsert.symm
      exact .forwardInsert rfl ⟨rfl, rfl⟩ hInserted.symm
  | gone hInsert =>
      obtain ⟨hGone, hState⟩ := insertForward_snd_false (congrArg Prod.snd hInsert)
      rw [hInsert] at hState
      exact .forwardGone hGone hState rfl
  | mapped => exact .forwardBrowser
  | disowned => exact .quiet rfl rfl ⟨rfl, rfl, rfl⟩
  | acknowledged => exact quiet_of_eq rfl rfl
  | unacknowledged => exact .quiet rfl rfl ⟨rfl, rfl, rfl⟩

theorem nextUnforward_hostStep (h : nextUnforward ctx handler input = some (after, next)) :
    HostStep ctx handler after next := by
  cases nextUnforward_cases h with
  | owned hOwner => exact .advance (.unforwardCheck hOwner) (SameTables.refl ctx)
  | disowned => exact .quiet rfl rfl ⟨rfl, rfl, rfl⟩
  | missing hRemove =>
      obtain rfl := removeForward_eq_none hRemove
      exact .advance .unforwardNone (SameTables.refl ctx)
  | removed hRemove =>
      obtain ⟨rfl, hOld⟩ := Prod.mk.inj hRemove.symm
      exact .unforwardRemove hOld.symm
  | drained hTear => exact .advance .unforwardDrain (tearDown_sameTables hTear)
  | unmapped => exact .unforwardBrowser
  | nobody => exact quiet_of_eq rfl rfl
  | globalMissing _ _ hRemove =>
      obtain rfl := removeForward_eq_none hRemove
      exact quiet_of_eq rfl rfl
  | globalRemoved _ _ hRemove =>
      obtain ⟨rfl, hOld⟩ := Prod.mk.inj hRemove.symm
      exact .unforwardGlobal hOld.symm
  | globalUnmapped => exact .unforwardGlobalBrowser
  | globalDrained hTear => exact .quiet rfl rfl (tearDown_sameTables hTear)

theorem nextServing_hostStep (h : nextServing cfg ctx handler input = some (after, next)) :
    HostStep ctx handler after next := by
  cases nextServing_cases h with
  | dispatched message => exact quiet_of_eq rfl (dispatchContainer_engaged _ _ message)
  | taken hTake => exact .cleanup hTake
  | unmapped => exact .cleanupBrowser
  | drained hTear => exact .quiet rfl rfl (tearDown_sameTables hTear)
  | drainedOne hDrain => exact .quiet rfl rfl (drainOne_sameTables hDrain)
  | _ => exact .quiet rfl rfl ⟨rfl, rfl, rfl⟩

theorem nextAuxiliary_hostStep (h : nextAuxiliary ctx handler input = some (after, next)) :
    HostStep ctx handler after next := by
  cases nextAuxiliary_cases h with
  | @prepared url _ now _ _ hPrepare =>
      have hMap := BrowserOpener.prepare_portMap ctx.browser url now
      rw [hPrepare] at hMap
      exact .quiet rfl rfl ⟨rfl, rfl, hMap⟩
  | @rejected url _ now _ _ hPrepare =>
      have hMap := BrowserOpener.prepare_portMap ctx.browser url now
      rw [hPrepare] at hMap
      exact .quiet rfl rfl ⟨rfl, rfl, hMap⟩
  | _ => exact .quiet rfl rfl ⟨rfl, rfl, rfl⟩

theorem nextScanner_hostStep (h : nextScanner ctx handler input = some (after, next)) :
    HostStep ctx handler after next := by
  cases nextScanner_cases h <;> exact .quiet rfl rfl ⟨rfl, rfl, rfl⟩

theorem nextIdle_hostStep (h : nextIdle ctx input = some (after, next)) :
    HostStep ctx .idle after next := by
  cases nextIdle_cases h <;> exact .quiet rfl rfl ⟨rfl, rfl, rfl⟩

theorem nextProxy_cases {task : ProxyTask} (h : nextProxy cfg ctx task input = some (after, next)) :
    ∃ proxy task', after = { ctx with proxy := proxy } ∧ next = .proxy task' ∧
      (nextClient ctx.state ctx.proxy task input = some (proxy, task') ∨
        nextData cfg ctx.proxy task input = some (proxy, task')) := by
  obtain ⟨⟨proxy, task'⟩, hTask, hPair⟩ := Option.map_eq_some_iff.mp h
  cases hPair
  refine ⟨proxy, task', rfl, rfl, ?_⟩
  cases hClient : nextClient ctx.state ctx.proxy task input with
  | some pair =>
      rw [hClient] at hTask
      exact .inl hTask
  | none =>
      rw [hClient] at hTask
      exact .inr hTask

theorem nextProxy_hostStep {task : ProxyTask} (h : nextProxy cfg ctx task input = some (after, next)) :
    HostStep ctx (.proxy task) after next := by
  obtain ⟨⟨proxy, task'⟩, _, hPair⟩ := Option.map_eq_some_iff.mp h
  cases hPair
  exact .quiet rfl rfl ⟨rfl, rfl, rfl⟩

/-- The classification covers every step of every task. -/
theorem nextHandler_hostStep (h : nextHandler cfg ctx handler input = some (after, next)) :
    HostStep ctx handler after next := by
  unfold nextHandler at h
  split at h
  case h_1 => exact nextIdle_hostStep h
  case h_2 => cases h
  case h_3 => exact nextProxy_hostStep h
  all_goals first
    | exact nextRegister_hostStep h
    | exact nextForward_hostStep h
    | exact nextUnforward_hostStep h
    | exact nextServing_hostStep h
    | exact nextAuxiliary_hostStep h
    | exact nextScanner_hostStep h

theorem acceptClient_tables {listener : Nat} (h : ctx.acceptClient listener = some after) :
    after.state = ctx.state ∧ after.browser = ctx.browser := by
  obtain ⟨l, -, rfl⟩ := DaemonContext.acceptClient_frame h
  exact ⟨rfl, rfl⟩

/-- What one step of the daemon is. -/
inductive DaemonStep (cfg : HostConfig) (d : Daemon) : Action → Daemon → Prop where
  | task {id : Nat} {input : Input} {after : DaemonContext} {next : Handler}
      (hNext : nextHandler cfg d.ctx (d.tasks id) input = some (after, next))
      (hStep : HostStep d.ctx (d.tasks id) after next) :
      DaemonStep cfg d (.task id input)
        { d with ctx := after, tasks := Function.update d.tasks id next }
  | clientConnects {listener : Nat} {after : DaemonContext}
      (hAccept : d.ctx.acceptClient listener = some after) (hState : after.state = d.ctx.state)
      (hBrowser : after.browser = d.ctx.browser) :
      DaemonStep cfg d (.clientConnects listener) { d with ctx := after }
  | stop : DaemonStep cfg d .stop { d with ctx := d.ctx.drainAll, running := false }

theorem Daemon.step_cases {d d' : Daemon} {action : Action} (h : Daemon.step cfg d action = some d') :
    d.running = true ∧ DaemonStep cfg d action d' := by
  unfold Daemon.step at h
  split_ifs at h with hRunning
  refine ⟨hRunning, ?_⟩
  split at h
  case h_1 id input =>
    obtain ⟨⟨after, next⟩, hNext, rfl⟩ := Option.map_eq_some_iff.mp h
    exact .task hNext (nextHandler_hostStep hNext)
  case h_2 listener =>
    obtain ⟨after, hAccept, rfl⟩ := Option.map_eq_some_iff.mp h
    obtain ⟨hState, hBrowser⟩ := acceptClient_tables hAccept
    exact .clientConnects hAccept hState hBrowser
  case h_3 =>
    cases h
    exact .stop

/-- A step that a task can take from where it is. -/
theorem Daemon.step_of_nextHandler {d : Daemon} {id : Nat} {ctx : DaemonContext} (hRunning : d.running = true)
    (h : nextHandler cfg d.ctx (d.tasks id) input = some (ctx, next)) :
    Daemon.step cfg d (.task id input) = some (d.withTask id ctx next) := by
  unfold Daemon.step
  rw [if_pos hRunning]
  dsimp only
  rw [h]
  rfl

theorem withTask_tasks (d : Daemon) (id : Nat) (ctx : DaemonContext) (next : Handler) :
    (d.withTask id ctx next).tasks id = next :=
  Function.update_self ..

/-- Tasks that no action of a run belongs to stay where they are. -/
theorem Daemon.tasks_unmentioned {cfg : HostConfig} {trace : List (Daemon × Action)} {finish : Daemon}
    {ids : List Nat} (run : Run (Daemon.step cfg) (Daemon.start cfg) trace finish)
    (hActions : ∀ entry ∈ trace, ∀ id ∈ entry.2.task?, id ∈ ids) :
    Throughout (fun d => ∀ other ∉ ids, d.tasks other = (Daemon.start cfg).tasks other) trace finish := by
  have hGuard : Guarded (fun (_ : Daemon) (action : Action) => ∀ id ∈ action.task?, id ∈ ids) trace := hActions
  refine run.throughout hGuard (fun _ _ => rfl) ?_
  intro middle action after hMiddle hAction hStep other hOther
  cases (Daemon.step_cases hStep).2 with
  | @task id input _ _ _ _ =>
      have hElse : other ≠ id := by
        rintro rfl
        exact hOther (hAction other rfl)
      simpa only [Function.update_of_ne hElse] using hMiddle other hOther
  | clientConnects => exact hMiddle other hOther
  | stop => exact hMiddle other hOther

end DevcontainerBridge
