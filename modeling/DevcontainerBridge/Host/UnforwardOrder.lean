import DevcontainerBridge.Host.Routing

/-! The administrative Unforward, handled while nobody else runs. It takes the
forward of the first container that it meets, and the mapping of the port
whoever else forwards it. -/
namespace DevcontainerBridge

open Table Transition

/-- What is left of the state and the browser's mappings when the containers
are met in an order. -/
def DaemonContext.unforwarded (ctx : DaemonContext) (order : List (Σ _ : String, ContainerState))
    (port : UInt16) : HostState × BrowserOpener :=
  match HostState.findContainerForPort order port with
  | none => (ctx.state, ctx.browser)
  | some owner =>
      match ctx.state.removeForward owner port with
      | (state, some _) => (state, ctx.browser.removePortMapping port)
      | (state, none) => (state, ctx.browser)

/-- A connection opens with Unforward, and its handler runs alone to its end. -/
def Daemon.UnforwardsTo (cfg : HostConfig) (d : Daemon) (id : Nat) (port : UInt16)
    (order : List (Σ _ : String, ContainerState)) (after : Daemon) : Prop :=
  ∃ inputs : List Input, exec (Daemon.step cfg) d
      (.task id (.receive (.unforward port)) :: .task id (.enumerate order) :: inputs.map (.task id)) = some after ∧
    after.tasks id = .finished

/-- All orders in which the containers can be met lead to the same state and
the same mappings. -/
def Daemon.UnforwardOrderFree (cfg : HostConfig) (d : Daemon) (id : Nat) (port : UInt16) : Prop :=
  ∀ order other after after', d.UnforwardsTo cfg id port order after → d.UnforwardsTo cfg id port other after' →
    after.ctx.state = after'.ctx.state ∧ after.ctx.browser.portMap = after'.ctx.browser.portMap

/-- One container at most forwards the port. -/
def HostState.SoleOwner (s : HostState) (port : UInt16) : Prop :=
  ∀ owner other fstate fstate', s.forwardOf owner port = some fstate → s.forwardOf other port = some fstate' →
    owner = other

/-- Where the handler of an Unforward is on its way to a state and mappings. -/
inductive UnforwardStage (port : UInt16) (goal : HostState × BrowserOpener) (ctx : DaemonContext) : Handler → Prop
  | unmapping {old : ForwardState} (hState : ctx.state = goal.1)
      (hBrowser : ctx.browser.removePortMapping port = goal.2) :
      UnforwardStage port goal ctx (.unforwardGlobalBrowser port old)
  | draining {old : ForwardState} (hState : ctx.state = goal.1) (hBrowser : ctx.browser = goal.2) :
      UnforwardStage port goal ctx (.unforwardGlobalDrain port old)
  | done (hState : ctx.state = goal.1) (hBrowser : ctx.browser = goal.2) : UnforwardStage port goal ctx .finished

variable {cfg : HostConfig} {d after : Daemon} {id : Nat} {port : UInt16}
  {order : List (Σ _ : String, ContainerState)} {goal : HostState × BrowserOpener}

/-- The lookup of the handler leads to the first stage. -/
theorem unforwardStage_of_lookup {ctx after : DaemonContext} {next : Handler}
    (h : nextHandler cfg ctx (.unforwardGlobal port) (.enumerate order) = some (after, next)) :
    UnforwardStage port (ctx.unforwarded order port) after next := by
  unfold DaemonContext.unforwarded
  have hStep : nextUnforward ctx (.unforwardGlobal port) (.enumerate order) = some (after, next) := h
  cases nextUnforward_cases hStep with
  | nobody hOrder hOwner =>
      rw [hOwner]
      exact .done rfl rfl
  | globalMissing hOrder hOwner hRemove =>
      rw [hOwner]
      dsimp only
      rw [hRemove]
      exact .done rfl rfl
  | globalRemoved hOrder hOwner hRemove =>
      rw [hOwner]
      dsimp only
      rw [hRemove]
      exact .unmapping rfl rfl

/-- Every further step of the handler stays on the way. -/
theorem UnforwardStage.step {ctx after : DaemonContext} {handler next : Handler} {input : Input}
    (hStage : UnforwardStage port goal ctx handler) (h : nextHandler cfg ctx handler input = some (after, next)) :
    UnforwardStage port goal after next := by
  cases hStage with
  | unmapping hState hBrowser =>
      have hStep : nextUnforward ctx (.unforwardGlobalBrowser port _) input = some (after, next) := h
      cases nextUnforward_cases hStep with
      | globalUnmapped => exact .draining hState hBrowser
  | draining hState hBrowser =>
      have hStep : nextUnforward ctx (.unforwardGlobalDrain port _) input = some (after, next) := h
      cases nextUnforward_cases hStep with
      | globalDrained hTear =>
          obtain ⟨-, rfl⟩ := DaemonContext.tearDown_frame hTear
          exact .done hState hBrowser
  | done => cases h

theorem UnforwardStage.exec {inputs : List Input} (hStage : UnforwardStage port goal d.ctx (d.tasks id))
    (h : exec (Daemon.step cfg) d (inputs.map (.task id)) = some after) :
    UnforwardStage port goal after.ctx (after.tasks id) := by
  induction inputs generalizing d with
  | nil =>
      cases h
      exact hStage
  | cons input inputs ih =>
      obtain ⟨middle, hStep, hRest⟩ := exec_cons.mp h
      cases (Daemon.step_cases hStep).2 with
      | task hNext =>
          refine ih ?_ hRest
          dsimp only
          rw [Function.update_self]
          exact hStage.step hNext

/-- However the handler comes to its end, the order decides what it leaves. -/
theorem Daemon.UnforwardsTo.eq (h : d.UnforwardsTo cfg id port order after) (hTask : d.tasks id = .awaitFirst) :
    Enumerates order d.ctx.state.containers ∧
      (after.ctx.state, after.ctx.browser) = d.ctx.unforwarded order port := by
  obtain ⟨inputs, hExec, hEnd⟩ := h
  obtain ⟨opened, hOpen, hExec⟩ := exec_cons.mp hExec
  obtain ⟨found, hLookup, hExec⟩ := exec_cons.mp hExec
  have hOpened : opened = d.withTask id d.ctx (.unforwardGlobal port) := by
    rw [Daemon.step_of_nextHandler (Daemon.step_cases hOpen).1 (by rw [hTask]; rfl)] at hOpen
    exact (Option.some.inj hOpen).symm
  subst hOpened
  cases (Daemon.step_cases hLookup).2 with
  | task hNext =>
      rw [withTask_tasks] at hNext
      have hStage := unforwardStage_of_lookup hNext
      refine ⟨?_, ?_⟩
      · have hStep : nextUnforward d.ctx (.unforwardGlobal port) (.enumerate order) = some (_, _) := hNext
        cases nextUnforward_cases hStep <;> assumption
      · have hFound := UnforwardStage.exec (by dsimp only; rw [Function.update_self]; exact hStage) hExec
        rw [hEnd] at hFound
        cases hFound with
        | done hState hBrowser => exact Prod.ext hState hBrowser

theorem unforwarded_of_find {ctx : DaemonContext} {owner : String} (hOrder : Enumerates order ctx.state.containers)
    (hFind : HostState.findContainerForPort order port = some owner) :
    ctx.unforwarded order port =
      ((ctx.state.removeForward owner port).1, ctx.browser.removePortMapping port) := by
  obtain ⟨cstate, fstate, -, hForward⟩ := HostState.findContainerForPort_mem hOrder hFind
  rw [← HostState.removeForward_snd] at hForward
  unfold DaemonContext.unforwarded
  rw [hFind]
  dsimp only
  cases hRemove : ctx.state.removeForward owner port with
  | mk state old =>
      rw [hRemove] at hForward
      obtain rfl : old = some fstate := hForward
      rfl

theorem unforwarded_of_none {ctx : DaemonContext} (hFind : HostState.findContainerForPort order port = none) :
    ctx.unforwarded order port = (ctx.state, ctx.browser) := by
  unfold DaemonContext.unforwarded
  rw [hFind]

theorem step_unforwardGlobal_nobody (cfg : HostConfig) (hTask : d.tasks id = .unforwardGlobal port)
    (hRunning : d.running = true) (hOrder : Enumerates order d.ctx.state.containers)
    (hFind : HostState.findContainerForPort order port = none) :
    Daemon.step cfg d (.task id (.enumerate order)) = some (d.withTask id d.ctx .finished) := by
  refine Daemon.step_of_nextHandler hRunning ?_
  rw [hTask]
  change nextUnforward d.ctx (.unforwardGlobal port) (.enumerate order) = some _
  simp only [nextUnforward, hOrder, if_true, hFind]

theorem step_unforwardGlobal_owner (cfg : HostConfig) {owner : String} {state : HostState} {old : ForwardState}
    (hTask : d.tasks id = .unforwardGlobal port) (hRunning : d.running = true)
    (hOrder : Enumerates order d.ctx.state.containers)
    (hFind : HostState.findContainerForPort order port = some owner)
    (hRemove : d.ctx.state.removeForward owner port = (state, some old)) :
    ∃ after, Daemon.step cfg d (.task id (.enumerate order)) = some after ∧ after.running = true ∧
      after.tasks id = .unforwardGlobalBrowser port old := by
  refine ⟨d.withTask id { d.ctx with state := state } (.unforwardGlobalBrowser port old),
    Daemon.step_of_nextHandler hRunning ?_, hRunning, withTask_tasks ..⟩
  rw [hTask]
  change nextUnforward d.ctx (.unforwardGlobal port) (.enumerate order) = some _
  simp only [nextUnforward, hOrder, if_true, hFind]
  rw [hRemove]

theorem step_unforwardGlobalBrowser (cfg : HostConfig) {old : ForwardState}
    (hTask : d.tasks id = .unforwardGlobalBrowser port old) (hRunning : d.running = true) :
    ∃ after, Daemon.step cfg d (.task id .proceed) = some after ∧ after.running = true ∧
      after.tasks id = .unforwardGlobalDrain port old := by
  refine ⟨d.withTask id { d.ctx with browser := d.ctx.browser.removePortMapping port }
    (.unforwardGlobalDrain port old), Daemon.step_of_nextHandler hRunning ?_, hRunning, withTask_tasks ..⟩
  rw [hTask]
  rfl

/-- The drain of the forward can time out. -/
theorem step_unforwardGlobalDrain (cfg : HostConfig) {old : ForwardState}
    (hTask : d.tasks id = .unforwardGlobalDrain port old) (hRunning : d.running = true) :
    ∃ after, Daemon.step cfg d (.task id (.drained [old.tracker])) = some after ∧ after.tasks id = .finished := by
  have hDrain : d.ctx.proxy.canDrain (singleForward port old) [old.tracker] = true := by
    simpa using d.ctx.proxy.canDrain_single port old true
  obtain ⟨ctx, hTear⟩ : ∃ ctx, d.ctx.tearDown (singleForward port old) [old.tracker] = some ctx := by
    rw [DaemonContext.tearDown, if_pos hDrain]
    exact ⟨_, rfl⟩
  refine ⟨d.withTask id ctx .finished, Daemon.step_of_nextHandler hRunning ?_, withTask_tasks ..⟩
  rw [hTask]
  change (d.ctx.tearDown (singleForward port old) [old.tracker]).map (fun ctx => (ctx, Handler.finished)) = _
  rw [hTear]
  rfl

/-- The handler comes to an end whatever the order. -/
theorem Daemon.exists_unforwardsTo (cfg : HostConfig) (port : UInt16) (hRunning : d.running = true)
    (hTask : d.tasks id = .awaitFirst) (hOrder : Enumerates order d.ctx.state.containers) :
    ∃ after, d.UnforwardsTo cfg id port order after := by
  have hOpen : Daemon.step cfg d (.task id (.receive (.unforward port))) =
      some (d.withTask id d.ctx (.unforwardGlobal port)) :=
    Daemon.step_of_nextHandler hRunning (by rw [hTask]; rfl)
  have hOpened := withTask_tasks d id d.ctx (.unforwardGlobal port)
  cases hFind : HostState.findContainerForPort order port with
  | none =>
      have hNobody := step_unforwardGlobal_nobody cfg hOpened hRunning hOrder hFind
      exact ⟨_, [], exec_cons.mpr ⟨_, hOpen, exec_cons.mpr ⟨_, hNobody, rfl⟩⟩, withTask_tasks ..⟩
  | some owner =>
      obtain ⟨_, old, -, hForward⟩ := HostState.findContainerForPort_mem hOrder hFind
      have hRemove : d.ctx.state.removeForward owner port =
          ((d.ctx.state.removeForward owner port).1, some old) :=
        Prod.ext rfl ((HostState.removeForward_snd ..).trans hForward)
      obtain ⟨removed, hRemoved, hRunning, hTask⟩ :=
        step_unforwardGlobal_owner cfg hOpened hRunning hOrder hFind hRemove
      obtain ⟨unmapped, hUnmapped, hRunning, hTask⟩ := step_unforwardGlobalBrowser cfg hTask hRunning
      obtain ⟨after, hDrained, hEnd⟩ := step_unforwardGlobalDrain cfg hTask hRunning
      refine ⟨after, [.proceed, .drained [old.tracker]], ?_, hEnd⟩
      exact exec_cons.mpr ⟨_, hOpen, exec_cons.mpr ⟨removed, hRemoved,
        exec_cons.mpr ⟨unmapped, hUnmapped, exec_cons.mpr ⟨after, hDrained, rfl⟩⟩⟩⟩

/-- With one owner at most every order leaves the same. -/
theorem unforwarded_congr {ctx : DaemonContext} {other : List (Σ _ : String, ContainerState)}
    (hSole : ctx.state.SoleOwner port) (hOrder : Enumerates order ctx.state.containers)
    (hOther : Enumerates other ctx.state.containers) : ctx.unforwarded order port = ctx.unforwarded other port := by
  cases hFind : HostState.findContainerForPort order port with
  | none =>
      cases hFindOther : HostState.findContainerForPort other port with
      | none => rw [unforwarded_of_none hFind, unforwarded_of_none hFindOther]
      | some owner =>
          obtain ⟨_, fstate, _, hForward⟩ := HostState.findContainerForPort_mem hOther hFindOther
          have hSome := HostState.findContainerForPort_isSome hOrder hForward
          rw [hFind] at hSome
          cases hSome
  | some owner =>
      obtain ⟨_, fstate, _, hForward⟩ := HostState.findContainerForPort_mem hOrder hFind
      obtain ⟨owner', hFindOther⟩ := Option.isSome_iff_exists.mp
        (HostState.findContainerForPort_isSome hOther hForward)
      obtain ⟨_, fstate', _, hForward'⟩ := HostState.findContainerForPort_mem hOther hFindOther
      rw [unforwarded_of_find hOrder hFind, unforwarded_of_find hOther hFindOther,
        hSole owner owner' fstate fstate' hForward hForward']

/-- Two owners lose their forwards in different orders. -/
theorem soleOwner_of_orderFree (hRunning : d.running = true) (hTask : d.tasks id = .awaitFirst)
    (h : d.UnforwardOrderFree cfg id port) : d.ctx.state.SoleOwner port := by
  intro owner other fstate fstate' hForward hForward'
  by_contra hDifferent
  obtain ⟨order, hOrder, hFind⟩ := HostState.exists_order_find hForward
  obtain ⟨order', hOrder', hFind'⟩ := HostState.exists_order_find hForward'
  obtain ⟨after, hAfter⟩ := Daemon.exists_unforwardsTo cfg port hRunning hTask hOrder
  obtain ⟨after', hAfter'⟩ := Daemon.exists_unforwardsTo cfg port hRunning hTask hOrder'
  have hState := (h order order' after after' hAfter hAfter').1
  have hLeft := (hAfter.eq hTask).2
  have hRight := (hAfter'.eq hTask).2
  rw [unforwarded_of_find hOrder hFind] at hLeft
  rw [unforwarded_of_find hOrder' hFind'] at hRight
  have hSame : (d.ctx.state.removeForward owner port).1 = (d.ctx.state.removeForward other port).1 :=
    (congrArg Prod.fst hLeft).symm.trans (hState.trans (congrArg Prod.fst hRight))
  have hGone := congrArg (fun s => HostState.forwardOf s owner port) hSame
  simp only [HostState.forwardOf_removeForward, and_self, if_true, hDifferent, false_and, if_false] at hGone
  rw [hForward] at hGone
  cases hGone

/-- What the administrative Unforward leaves does not depend on the order of
the containers exactly where one of them at most forwards the port. -/
theorem unforwardOrderFree_iff (hRunning : d.running = true) (hTask : d.tasks id = .awaitFirst) :
    (∀ order, Enumerates order d.ctx.state.containers → ∃ after, d.UnforwardsTo cfg id port order after) ∧
      (d.UnforwardOrderFree cfg id port ↔ d.ctx.state.SoleOwner port) := by
  refine ⟨fun order hOrder => Daemon.exists_unforwardsTo cfg port hRunning hTask hOrder,
    soleOwner_of_orderFree hRunning hTask, fun hSole order other after after' hAfter hAfter' => ?_⟩
  obtain ⟨hOrder, hLeft⟩ := hAfter.eq hTask
  obtain ⟨hOther, hRight⟩ := hAfter'.eq hTask
  have hSame := hLeft.trans ((unforwarded_congr hSole hOrder hOther).trans hRight.symm)
  exact ⟨congrArg Prod.fst hSame, congrArg (fun left => left.2.portMap) hSame⟩

def Handler.isAwaitFirst : Handler → Bool
  | .awaitFirst => true
  | _ => false

theorem Handler.eq_of_isAwaitFirst {handler : Handler} (h : handler.isAwaitFirst = true) : handler = .awaitFirst := by
  unfold Handler.isAwaitFirst at h
  split at h
  · rfl
  · cases h

/-- Each of two containers forwards a port of its own when the command connects. -/
theorem unforwardOrderFree_iff_withdrawn :
    ∃ d, exec (Daemon.step .basic) (Daemon.start .basic) (withdrawnSchedule ++ [.task 3 .connect]) = some d ∧
      (∀ order, Enumerates order d.ctx.state.containers → ∃ after, d.UnforwardsTo .basic 3 9090 order after) ∧
      (d.UnforwardOrderFree .basic 3 9090 ↔ d.ctx.state.SoleOwner 9090) := by
  have hRun : (exec (Daemon.step .basic) (Daemon.start .basic) (withdrawnSchedule ++ [.task 3 .connect])).any
      fun d => d.running && (d.tasks 3).isAwaitFirst := by
    decide
  obtain ⟨d, hExec, hState⟩ := (Option.any_eq_true _ _).mp hRun
  obtain ⟨hRunning, hFirst⟩ := (Bool.and_eq_true _ _).mp hState
  exact ⟨d, hExec, unforwardOrderFree_iff hRunning (Handler.eq_of_isAwaitFirst hFirst)⟩

/-- Two containers forward the port, and the order decides which of them loses
its forward. -/
theorem unforwardOrder_matters :
    ∃ d, exec (Daemon.step .basic) (Daemon.start .basic) (conflictSchedule ++ [.task 3 .connect]) = some d ∧
      d.tasks 3 = .awaitFirst ∧ ¬d.UnforwardOrderFree .basic 3 8080 := by
  have hRun : (exec (Daemon.step .basic) (Daemon.start .basic) (conflictSchedule ++ [.task 3 .connect])).any
      fun d => d.running && (d.tasks 3).isAwaitFirst &&
        ((d.ctx.state.forwardOf "a" 8080).isSome && (d.ctx.state.forwardOf "b" 8080).isSome) := by
    decide
  obtain ⟨d, hExec, hState⟩ := (Option.any_eq_true _ _).mp hRun
  simp only [Bool.and_eq_true] at hState
  obtain ⟨⟨hRunning, hFirst⟩, hA, hB⟩ := hState
  obtain ⟨fstate, hA⟩ := Option.isSome_iff_exists.mp hA
  obtain ⟨fstate', hB⟩ := Option.isSome_iff_exists.mp hB
  have hTask := Handler.eq_of_isAwaitFirst hFirst
  refine ⟨d, hExec, hTask, fun h => ?_⟩
  exact absurd (soleOwner_of_orderFree hRunning hTask h "a" "b" fstate fstate' hA hB) (by decide)

end DevcontainerBridge
