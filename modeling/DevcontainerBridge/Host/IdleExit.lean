import DevcontainerBridge.Host.Epochs
import DevcontainerBridge.Host.Replay

/-! The exit of an idle daemon. A connection that ends looks for containers
only, and a Register takes the old state of its container out several awaits
before it inserts the new one. -/
namespace DevcontainerBridge

open Table Transition

/-- A valid Register has been received and its container is not inserted yet. -/
def Handler.registering : Handler → Bool
  | .registerRemove .. | .registerBrowser .. | .registerDrain .. | .registerAck .. | .registerEpoch ..
  | .registerInsert .. => true
  | _ => false

/-- The step is the idle check of a connection and sends the shutdown signal,
which it would turn on if it were off. -/
def Daemon.SignalsIdle (cfg : HostConfig) (d : Daemon) (action : Action) : Prop :=
  ∃ id, action = .task id .proceed ∧ d.tasks id = .idleCheck ∧
    ∃ after next, nextHandler cfg { d.ctx with shutdownSignal := false } .idleCheck .proceed = some (after, next) ∧
      after.shutdownSignal = true

/-- A Register that will succeed: the connection of the task gets a container
registered and nothing more has to come from its peer. -/
def Daemon.WillRegister (cfg : HostConfig) (d : Daemon) (id : Nat) : Prop :=
  ∃ (inputs : List Input) (finish : Daemon) (containerId : String),
    (∀ input ∈ inputs, input.fromPeer = false) ∧
    exec (Daemon.step cfg) d (inputs.map (.task id)) = some finish ∧
    d.ctx.state.registrationOf containerId = none ∧ finish.ctx.state.registrationOf containerId ≠ none

/-- No container is registered and none is about to be. -/
def Daemon.Deserted (cfg : HostConfig) (d : Daemon) : Prop :=
  (∀ containerId, d.ctx.state.registrationOf containerId = none) ∧ ∀ id, ¬d.WillRegister cfg id

/-- Where an idle check finds no container, no connection is between its
Register and the insertion of the new state. -/
def Daemon.NobodyEnters (cfg : HostConfig) (d : Daemon) (action : Action) : Prop :=
  d.SignalsIdle cfg action → ∀ id, (d.tasks id).registering = false

variable {cfg : HostConfig} {ctx after : DaemonContext} {handler next : Handler} {input : Input}
  {d d' : Daemon} {action : Action} {id : Nat}

theorem Daemon.signalsIdle_iff : d.SignalsIdle cfg action ↔
    cfg.exitOnIdle = true ∧ d.ctx.state.containers.keys.card = 0 ∧
      ∃ id, action = .task id .proceed ∧ d.tasks id = .idleCheck := by
  have hCheck : (∃ after next, nextHandler cfg { d.ctx with shutdownSignal := false } .idleCheck .proceed =
      some (after, next) ∧ after.shutdownSignal = true) ↔
        cfg.exitOnIdle = true ∧ d.ctx.state.containers.keys.card = 0 := by
    simp only [nextHandler, nextServing]
    split_ifs with hIdle
    · rw [Bool.and_eq_true, decide_eq_true_eq] at hIdle
      exact iff_of_true ⟨_, _, rfl, rfl⟩ hIdle
    · rw [Bool.and_eq_true, decide_eq_true_eq] at hIdle
      refine iff_of_false ?_ hIdle
      rintro ⟨after, next, hSame, hSignal⟩
      cases hSame
      cases hSignal
  unfold Daemon.SignalsIdle
  rw [hCheck]
  tauto

theorem dispatchContainer_registering (containerId : String) (registrationId : Nat) (message : Message) :
    (dispatchContainer cfg containerId registrationId message).registering = false := by
  cases message <;> unfold dispatchContainer <;> dsimp only <;> (try split_ifs) <;> rfl

theorem nextForward_registering (h : nextForward ctx handler input = some (after, next)) :
    next.registering = false := by
  cases nextForward_cases h <;> rfl

theorem nextUnforward_registering (h : nextUnforward ctx handler input = some (after, next)) :
    next.registering = false := by
  cases nextUnforward_cases h <;> rfl

theorem nextServing_registering (h : nextServing cfg ctx handler input = some (after, next)) :
    next.registering = false := by
  cases nextServing_cases h with
  | dispatched message => exact dispatchContainer_registering _ _ message
  | _ => rfl

theorem nextAuxiliary_registering (h : nextAuxiliary ctx handler input = some (after, next)) :
    next.registering = false := by
  cases nextAuxiliary_cases h <;> rfl

theorem nextScanner_registering (h : nextScanner ctx handler input = some (after, next)) :
    next.registering = false := by
  cases nextScanner_cases h <;> rfl

theorem nextRegister_registering (h : nextRegister cfg ctx handler input = some (after, next))
    (hBefore : handler.registering = false) (hInput : input.fromPeer = false) :
    next.registering = false := by
  cases nextRegister_cases h with
  | dispatched => cases hInput
  | closed => rfl
  | replied => rfl
  | listed => rfl
  | replayed => rfl
  | _ => cases hBefore

/-- A task starts to register on a message of its peer only. -/
theorem nextHandler_registering (h : nextHandler cfg ctx handler input = some (after, next))
    (hBefore : handler.registering = false) (hInput : input.fromPeer = false) :
    next.registering = false := by
  unfold nextHandler at h
  split at h
  case h_1 => cases nextIdle_cases h <;> rfl
  case h_2 => cases h
  case h_3 =>
    obtain ⟨⟨proxy, task⟩, -, hPair⟩ := Option.map_eq_some_iff.mp h
    cases hPair
    rfl
  all_goals first
    | exact nextForward_registering h
    | exact nextUnforward_registering h
    | exact nextServing_registering h
    | exact nextAuxiliary_registering h
    | exact nextScanner_registering h
    | exact nextRegister_registering h hBefore hInput

/-- Without messages of its peer a task that does not register leaves the
containers as they are or removes some. -/
theorem Daemon.exec_registrationOf {inputs : List Input} {finish : Daemon} {containerId : String}
    (hExec : exec (Daemon.step cfg) d (inputs.map (.task id)) = some finish)
    (hInputs : ∀ input ∈ inputs, input.fromPeer = false) (hBound : ∀ id, (d.tasks id).WellBound)
    (hHandler : (d.tasks id).registering = false)
    (hNone : d.ctx.state.registrationOf containerId = none) :
    finish.ctx.state.registrationOf containerId = none := by
  induction inputs generalizing d with
  | nil =>
      cases hExec
      exact hNone
  | cons input rest ih =>
      obtain ⟨middle, hStep, hRest⟩ := exec_cons.mp hExec
      have hMiddle := Daemon.step_wellBound hStep hBound
      have hInput := hInputs input List.mem_cons_self
      have hLater := fun other hOther => hInputs other (List.mem_cons_of_mem input hOther)
      cases (Daemon.step_cases hStep).2 with
      | task hNext hHostStep =>
          apply ih hRest hLater hMiddle
          · dsimp only
            rw [Function.update_self]
            exact nextHandler_registering hNext hHandler hInput
          · rcases hHostStep.registrationOf (hBound id) containerId with hKept | hGone | ⟨_, _, hInsert⟩
            · exact hKept.trans hNone
            · exact hGone
            · rw [hInsert] at hHandler
              cases hHandler

variable (cfg ctx) in
/-- The task can get its container registered by itself. -/
def Completes (handler : Handler) : Prop :=
  ∃ inputs after containerId registrationId,
    exec (taskStep cfg) (ctx, handler) inputs = some (after, .registerReplay containerId registrationId) ∧
      (∀ input ∈ inputs, input.fromPeer = false) ∧
      after.state.registrationOf containerId = some registrationId

theorem Completes.step (input : Input) (h : nextHandler cfg ctx handler input = some (after, next))
    (hPeer : input.fromPeer = false) (rest : Completes cfg after next) : Completes cfg ctx handler := by
  obtain ⟨inputs, finish, containerId, registrationId, hExec, hPeers, hRegistered⟩ := rest
  refine ⟨input :: inputs, finish, containerId, registrationId, exec_cons.mpr ⟨_, h, hExec⟩, ?_, hRegistered⟩
  intro other hOther
  rcases List.mem_cons.mp hOther with rfl | hLater
  · exact hPeer
  · exact hPeers other hLater

/-- A Register that has been received succeeds where no container is registered. -/
theorem registering_completes (hEmpty : ctx.state.containers.keys.card = 0)
    (hHandler : handler.registering = true) : Completes cfg ctx handler := by
  have insert : ∀ ctx containerId hostname registrationId,
      Completes cfg ctx (.registerInsert containerId hostname registrationId) := by
    intro ctx containerId hostname registrationId
    refine .step .proceed rfl rfl ⟨[], _, containerId, registrationId, rfl, by simp, ?_⟩
    exact (HostState.registrationOf_insertContainer ..).trans (if_pos rfl)
  have epoch : ∀ ctx containerId hostname, Completes cfg ctx (.registerEpoch containerId hostname) :=
    fun ctx _ _ => .step .proceed rfl rfl (insert _ _ _ _)
  have ack : ∀ ctx containerId hostname, Completes cfg ctx (.registerAck containerId hostname) :=
    fun ctx _ _ => .step (.sent true) rfl rfl (epoch _ _ _)
  have drain : ∀ ctx containerId hostname old,
      Completes cfg ctx (.registerDrain containerId hostname old) := by
    intro ctx containerId hostname old
    obtain ⟨timedOut, hDrain⟩ := ProxyState.exists_canDrain old
    obtain ⟨after, hTear⟩ : ∃ after, ctx.tearDown old timedOut = some after :=
      ⟨_, if_pos (hDrain ctx.proxy)⟩
    refine .step (.drained timedOut) ?_ rfl (ack after containerId hostname)
    simp only [nextHandler, nextRegister, hTear, Option.map_some]
  cases handler <;> cases hHandler
  case registerRemove containerId hostname =>
    have hStale : ctx.state.removeStale containerId = some (ctx.state, none) := by
      have hNone : ctx.state.containers.lookup containerId = none := by
        rw [Finmap.lookup_eq_none, ← Finmap.mem_keys, Finset.card_eq_zero.mp hEmpty]
        exact Finset.notMem_empty containerId
      unfold HostState.removeStale
      rw [hNone]
      dsimp only
      rw [hEmpty, if_neg (by decide)]
    refine .step .proceed ?_ rfl (ack ctx containerId hostname)
    simp only [nextHandler, nextRegister, hStale]
  case registerBrowser => exact .step .proceed rfl rfl (drain ..)
  case registerDrain => exact drain ..
  case registerAck => exact ack ..
  case registerEpoch => exact epoch ..
  case registerInsert => exact insert ..

/-- Whether the idle signal is sent while someone is served. -/
theorem Daemon.deserted_iff (hRunning : d.running = true) (hBound : ∀ id, (d.tasks id).WellBound)
    (hEmpty : d.ctx.state.containers.keys.card = 0) :
    d.Deserted cfg ↔ ∀ id, (d.tasks id).registering = false := by
  have hNone : ∀ containerId, d.ctx.state.registrationOf containerId = none := by
    intro containerId
    rw [HostState.registrationOf_eq_none_iff, Finmap.lookup_eq_none, ← Finmap.mem_keys,
      Finset.card_eq_zero.mp hEmpty]
    exact Finset.notMem_empty containerId
  constructor
  · intro hDeserted id
    by_contra hHandler
    obtain ⟨inputs, after, containerId, registrationId, hExec, hInputs, hAfter⟩ :=
      (registering_completes hEmpty (Bool.not_eq_false _ |>.mp hHandler) : Completes cfg _ _)
    refine hDeserted.2 id ⟨inputs, _, containerId, hInputs, Daemon.exec_task hRunning hExec, hNone _, ?_⟩
    rw [hAfter]
    exact Option.some_ne_none registrationId
  · intro hHandlers
    refine ⟨hNone, ?_⟩
    rintro id ⟨inputs, finish, containerId, hInputs, hExec, hBefore, hAfter⟩
    exact hAfter (Daemon.exec_registrationOf hExec hInputs hBound (hHandlers id) hBefore)

/-- In a run the idle signal is only ever sent by a deserted daemon, exactly
if nobody is registering whenever an idle check finds no container. -/
theorem idle_signal_iff {trace : List (Daemon × Action)} {finish : Daemon}
    (run : Run (Daemon.step cfg) (Daemon.start cfg) trace finish) :
    (∀ entry ∈ trace, entry.1.SignalsIdle cfg entry.2 → entry.1.Deserted cfg) ↔
      Guarded (Daemon.NobodyEnters cfg) trace := by
  apply forall₂_congr
  rintro ⟨d, action⟩ hEntry
  apply forall_congr'
  intro hSignal
  obtain ⟨hReach, d', hStep, -⟩ := run.entry hEntry
  have hBound := (Daemon.reachable_portsSound hReach).wellBound
  exact Daemon.deserted_iff (Daemon.step_cases hStep).1 hBound (Daemon.signalsIdle_iff.mp hSignal).2.1

/-- Settings under which the daemon exits after the last container. -/
def HostConfig.exiting : HostConfig := { HostConfig.basic with exitOnIdle := true }

/-- One container registers, forwards a port and disconnects. -/
def leaveSchedule : List Action :=
  singleSchedule ++ [.fail, .proceed, .proceed, .drained [], .proceed].map (.task 1)

theorem idle_signal_iff_leave :
    ∃ trace finish, Run (Daemon.step .exiting) (Daemon.start .exiting) trace finish ∧
      trace.map Prod.snd = leaveSchedule ∧ finish.ctx.shutdownSignal = true ∧
      ∀ entry ∈ trace, entry.1.SignalsIdle .exiting entry.2 → entry.1.Deserted .exiting := by
  have hRun : (exec (Daemon.step .exiting) (Daemon.start .exiting) leaveSchedule).any fun d =>
      d.ctx.shutdownSignal := by
    decide
  obtain ⟨finish, hExec, hSignal⟩ := (Option.any_eq_true _ _).mp hRun
  obtain ⟨trace, hActions, run⟩ := run_of_exec hExec
  have hSingle : ∀ entry ∈ trace, entry.2.task? = some 1 := by
    intro entry hEntry
    have hTasks : ∀ action ∈ leaveSchedule, action.task? = some 1 := by
      simp [leaveSchedule, singleSchedule, announceSchedule, enterSchedule, forwardSchedule, Action.task?]
    exact hTasks entry.2 (hActions ▸ List.mem_map_of_mem hEntry)
  have hMentioned : ∀ entry ∈ trace, ∀ id ∈ entry.2.task?, id ∈ [1] := by
    intro entry hEntry id hId
    rw [hSingle entry hEntry] at hId
    exact Option.mem_some_iff.mp hId ▸ List.mem_singleton_self 1
  have hOthers := Daemon.tasks_unmentioned run hMentioned
  refine ⟨trace, finish, run, hActions, hSignal, (idle_signal_iff run).mpr fun entry hEntry hIdle id => ?_⟩
  obtain ⟨task, hAction, hTask, -⟩ := hIdle
  by_cases hId : id = 1
  · have hSame := hSingle entry hEntry
    rw [hAction] at hSame
    cases hSame
    rw [hId, hTask]
    rfl
  · rw [hOthers.1 entry hEntry id (by simpa using hId)]
    rfl

/-- The only container registers again over a second connection. While that
connection drains the old state the first one closes. -/
def returnSchedule : List Action :=
  announceSchedule 1 "c" "h" "" ++ enterSchedule 1 ++ (reannounceSchedule 2 "c" "h" "").take 4 ++
    [.task 1 .fail, .task 1 .proceed]

/-- The first connection signals the idle exit and the second one is just
about to be acknowledged. -/
theorem idle_signal_while_returning :
    ∃ trace finish, Run (Daemon.step .exiting) (Daemon.start .exiting) trace finish ∧
      trace.map Prod.snd = returnSchedule ∧ finish.SignalsIdle .exiting (.task 1 .proceed) ∧
      finish.WillRegister .exiting 2 ∧ ¬finish.Deserted .exiting := by
  have hRun : (exec (Daemon.step .exiting) (Daemon.start .exiting) returnSchedule).any fun d =>
      d.ctx.state.containers.keys.card == 0 && d.ctx.state.registrationOf "c" == none &&
        (exec (Daemon.step .exiting) d
          ([.drained [], .sent true, .proceed, .proceed].map (Action.task 2))).any fun later =>
            later.ctx.state.registrationOf "c" == some 2 := by
    decide
  obtain ⟨finish, hExec, hState⟩ := (Option.any_eq_true _ _).mp hRun
  obtain ⟨trace, hActions, run⟩ := run_of_exec hExec
  simp only [Bool.and_eq_true, beq_iff_eq] at hState
  obtain ⟨⟨hEmpty, hNone⟩, hReturns⟩ := hState
  obtain ⟨later, hLater, hRegistered⟩ := (Option.any_eq_true _ _).mp hReturns
  have hCheck : (exec (Daemon.step .exiting) (Daemon.start .exiting) returnSchedule).map
      (fun d => d.tasks 1) = some .idleCheck := rfl
  rw [hExec] at hCheck
  have hReturn : finish.WillRegister .exiting 2 := by
    refine ⟨[.drained [], .sent true, .proceed, .proceed], later, "c", by decide, hLater, hNone, ?_⟩
    rw [beq_iff_eq.mp hRegistered]
    exact Option.some_ne_none 2
  have hSignals : finish.SignalsIdle .exiting (.task 1 .proceed) :=
    Daemon.signalsIdle_iff.mpr ⟨rfl, hEmpty, 1, rfl, Option.some.inj hCheck⟩
  exact ⟨trace, finish, run, hActions, hSignals, hReturn,
    fun hDeserted => hDeserted.2 2 hReturn⟩

end DevcontainerBridge
