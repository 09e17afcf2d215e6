import DevcontainerBridge.Host.ClipboardService
import DevcontainerBridge.Host.Steps
import DevcontainerBridge.Transition.Run

/-! The permit for a clipboard transfer over whole runs of the daemon: it is
held by exactly the task that captures, and given to permitted requests only. -/
namespace DevcontainerBridge

open Table Transition

/-- The service that the daemon is started with. -/
def HostConfig.clipboardService (cfg : HostConfig) : ClipboardService where
  enabled := cfg.allowClipboard
  token := cfg.authToken

variable {cfg : HostConfig} {ctx after : DaemonContext} {handler next : Handler} {input : Input}
  {d : Daemon} {trace : List (Daemon × Action)} {id : Nat}

theorem HostConfig.clipboardPermits_iff {token : String} :
    cfg.clipboardPermits token = true ↔ cfg.clipboardService.Permits token := by
  unfold clipboardPermits ClipboardService.Permits clipboardService
  cases cfg.authToken with
  | none => simp
  | some expected =>
      simp only [Bool.and_eq_true, decide_eq_true_eq, beq_iff_eq, Option.some.injEq]
      constructor
      · rintro ⟨hAllow, hSome, rfl⟩
        exact ⟨hAllow, hSome, rfl⟩
      · rintro ⟨hAllow, hSome, rfl⟩
        exact ⟨hAllow, hSome, rfl⟩

/-- The task has captured the clipboard or is about to. -/
def Handler.captures : Handler → Bool
  | .proxy .capturing => true
  | _ => false

/-- What a step does with the permit. -/
inductive PermitMove (cfg : HostConfig) (ctx : DaemonContext) : Handler → Input → DaemonContext → Handler → Prop where
  | kept {handler : Handler} {input : Input} {after : DaemonContext} {next : Handler}
      (hSame : after.proxy.transferActive = ctx.proxy.transferActive) (hBefore : handler.captures = false)
      (hNext : next.captures = false) : PermitMove cfg ctx handler input after next
  | acquired {format : ClipboardFormat} {token : String} {after : DaemonContext}
      (hPermits : cfg.clipboardService.Permits token) (hFree : ctx.proxy.transferActive = false)
      (hActive : after.proxy.transferActive = true) :
      PermitMove cfg ctx (.proxy .handshake) (.receive (.clipboardRead format token)) after (.proxy .capturing)
  | released {input : Input} {after : DaemonContext} (hFree : after.proxy.transferActive = false) :
      PermitMove cfg ctx (.proxy .capturing) input after (.proxy .finished)

/-- The step leaves the permit alone. -/
def SamePermit (ctx after : DaemonContext) (next : Handler) : Prop :=
  after.proxy.transferActive = ctx.proxy.transferActive ∧ next.captures = false

theorem samePermit_tearDown {forwards : Forwards} {timedOut : List Nat} (h : ctx.tearDown forwards timedOut = some after)
    (hNext : next.captures = false) : SamePermit ctx after next := by
  obtain ⟨-, rfl⟩ := DaemonContext.tearDown_frame h
  exact ⟨rfl, hNext⟩

theorem samePermit_drainOne {old rest : Forwards} {port : UInt16} {timedOut : Bool}
    (h : ctx.drainOne old port timedOut = some (after, rest)) (hNext : next.captures = false) :
    SamePermit ctx after next := by
  obtain ⟨fstate, -, -, hTear⟩ := drainOne_some h
  exact samePermit_tearDown hTear hNext

theorem dispatchFirst_captures (message : Message) : (dispatchFirst cfg message).captures = false := by
  cases message <;> unfold dispatchFirst <;> dsimp only <;> (try split_ifs) <;> rfl

theorem dispatchContainer_captures (containerId : String) (registrationId : Nat) (message : Message) :
    (dispatchContainer cfg containerId registrationId message).captures = false := by
  cases message <;> unfold dispatchContainer <;> dsimp only <;> (try split_ifs) <;> rfl

theorem transferActive_register {connId : String} {p p' : ProxyState} {receiver : Option Nat}
    (h : p.register connId = (p', receiver)) : p'.transferActive = p.transferActive := by
  obtain ⟨pending, receivers, count, rfl⟩ := ProxyState.register_frame h
  rfl

theorem nextRegister_samePermit (h : nextRegister cfg ctx handler input = some (after, next)) :
    SamePermit ctx after next := by
  cases nextRegister_cases h with
  | dispatched message => exact ⟨rfl, dispatchFirst_captures message⟩
  | drained hTear => exact samePermit_tearDown hTear rfl
  | drainedOne hDrain => exact samePermit_drainOne hDrain rfl
  | _ => exact ⟨rfl, rfl⟩

theorem nextForward_samePermit (h : nextForward ctx handler input = some (after, next)) : SamePermit ctx after next := by
  cases nextForward_cases h with
  | drained hTear => exact samePermit_tearDown hTear rfl
  | _ => exact ⟨rfl, rfl⟩

theorem nextUnforward_samePermit (h : nextUnforward ctx handler input = some (after, next)) :
    SamePermit ctx after next := by
  cases nextUnforward_cases h with
  | drained hTear => exact samePermit_tearDown hTear rfl
  | globalDrained hTear => exact samePermit_tearDown hTear rfl
  | _ => exact ⟨rfl, rfl⟩

theorem nextServing_samePermit (h : nextServing cfg ctx handler input = some (after, next)) :
    SamePermit ctx after next := by
  cases nextServing_cases h with
  | dispatched message => exact ⟨rfl, dispatchContainer_captures _ _ message⟩
  | drained hTear => exact samePermit_tearDown hTear rfl
  | drainedOne hDrain => exact samePermit_drainOne hDrain rfl
  | _ => exact ⟨rfl, rfl⟩

theorem nextScanner_samePermit (h : nextScanner ctx handler input = some (after, next)) :
    SamePermit ctx after next := by
  cases nextScanner_cases h with
  | @sent message tx rest =>
      obtain ⟨queues, hQueues⟩ := ctx.proxy.tryBroadcast_frame message tx
      have hSame : (ctx.proxy.tryBroadcast message tx).transferActive = ctx.proxy.transferActive := by rw [hQueues]
      exact ⟨hSame, rfl⟩
  | _ => exact ⟨rfl, rfl⟩

theorem nextAuxiliary_samePermit (h : nextAuxiliary ctx handler input = some (after, next)) :
    SamePermit ctx after next := by
  cases nextAuxiliary_cases h with
  | registered hRegister => exact ⟨transferActive_register hRegister, rfl⟩
  | unregistered hRegister => exact ⟨transferActive_register hRegister, rfl⟩
  | _ => exact ⟨rfl, rfl⟩

theorem nextIdle_samePermit (h : nextIdle ctx input = some (after, next)) : SamePermit ctx after next := by
  cases nextIdle_cases h with
  | _ => exact ⟨rfl, rfl⟩

theorem transferActive_increment (p : ProxyState) (tracker : Option Nat) :
    (p.increment tracker).transferActive = p.transferActive := by
  cases tracker <;> rfl

theorem transferActive_decrement (p : ProxyState) (tracker : Option Nat) :
    (p.decrement tracker).transferActive = p.transferActive := by
  cases tracker <;> rfl

theorem nextClient_samePermit {task task' : ProxyTask} {proxy : ProxyState}
    (h : nextClient ctx.state ctx.proxy task input = some (proxy, task')) :
    proxy.transferActive = ctx.proxy.transferActive ∧ task ≠ .capturing ∧ task' ≠ .capturing := by
  cases nextClient_cases h with
  | registered hRegister => exact ⟨transferActive_register hRegister, nofun, nofun⟩
  | unregistered hRegister => exact ⟨transferActive_register hRegister, nofun, nofun⟩
  | counted => exact ⟨transferActive_increment .., nofun, nofun⟩
  | uncounted => exact ⟨transferActive_decrement .., nofun, nofun⟩
  | _ => exact ⟨rfl, nofun, nofun⟩

theorem nextData_permit {task task' : ProxyTask} {proxy : ProxyState}
    (h : nextData cfg ctx.proxy task input = some (proxy, task')) :
    PermitMove cfg ctx (.proxy task) input { ctx with proxy := proxy } (.proxy task') := by
  cases nextData_cases h with
  | captured input hEnd => exact .released rfl
  | resolved hResolve =>
      obtain ⟨pending, receivers, rfl⟩ := ProxyState.resolve_frame hResolve
      exact .kept rfl rfl rfl
  | dispatched message =>
      cases message with
      | clipboardRead format token =>
          unfold dispatchData
          dsimp only
          split_ifs with hGranted
          · exact .acquired (HostConfig.clipboardPermits_iff.mp hGranted.1) hGranted.2 rfl
          · exact .kept rfl rfl rfl
      | connectReady connId =>
          unfold dispatchData
          dsimp only
          split_ifs
          · exact .kept rfl rfl rfl
          · exact .kept rfl rfl rfl
      | _ => exact .kept rfl rfl rfl
  | _ => exact .kept rfl rfl rfl

theorem nextHandler_permit (h : nextHandler cfg ctx handler input = some (after, next)) :
    PermitMove cfg ctx handler input after next := by
  have kept : handler.captures = false → SamePermit ctx after next → PermitMove cfg ctx handler input after next :=
    fun hBefore hNext => .kept hNext.1 hBefore hNext.2
  unfold nextHandler at h
  split at h
  case h_1 => exact kept rfl (nextIdle_samePermit h)
  case h_2 => cases h
  case h_3 task =>
    obtain ⟨proxy, task', rfl, rfl, hClient | hData⟩ := nextProxy_cases h
    · obtain ⟨hSame, hBefore, hNext⟩ := nextClient_samePermit hClient
      refine .kept hSame ?_ ?_
      · cases task <;> first | rfl | exact absurd rfl hBefore
      · cases task' <;> first | rfl | exact absurd rfl hNext
    · exact nextData_permit hData
  all_goals first
    | exact kept rfl (nextRegister_samePermit h)
    | exact kept rfl (nextForward_samePermit h)
    | exact kept rfl (nextUnforward_samePermit h)
    | exact kept rfl (nextServing_samePermit h)
    | exact kept rfl (nextAuxiliary_samePermit h)
    | exact kept rfl (nextScanner_samePermit h)

/-- The permit is held by exactly one capturing task, or is free and no task
captures. -/
structure Daemon.Exclusive (d : Daemon) : Prop where
  held : d.ctx.proxy.transferActive = true → ∃ id, d.tasks id = .proxy .capturing
  alone : ∀ id, d.tasks id = .proxy .capturing →
    d.ctx.proxy.transferActive = true ∧ ∀ other, d.tasks other = .proxy .capturing → other = id

/-- The task was permitted to read the clipboard. -/
def Permitted (cfg : HostConfig) (trace : List (Daemon × Action)) (id : Nat) : Prop :=
  ∃ entry ∈ trace, ∃ format token, entry.2 = .task id (.receive (.clipboardRead format token)) ∧
    cfg.clipboardService.Permits token ∧ entry.1.ctx.proxy.transferActive = false

theorem Daemon.exclusive_start (cfg : HostConfig) : (Daemon.start cfg).Exclusive := by
  have hNone : ∀ id, (Daemon.start cfg).tasks id ≠ .proxy .capturing := by
    intro id h
    have hTask : (if cfg.scanSockets ∧ id = 0 then Handler.scanning else .idle) = .proxy .capturing := h
    split_ifs at hTask
  exact { held := nofun, alone := fun id h => absurd h (hNone id) }

theorem not_capturing (h : handler.captures = false) : handler ≠ .proxy .capturing := by
  rintro rfl
  cases h

theorem Daemon.Exclusive.step {d' : Daemon} {action : Action} (h : d.Exclusive)
    (hStep : Daemon.step cfg d action = some d') : d'.Exclusive := by
  cases (Daemon.step_cases hStep).2 with
  | clientConnects hAccept =>
      obtain ⟨l, -, rfl⟩ := DaemonContext.acceptClient_frame hAccept
      exact ⟨h.held, h.alone⟩
  | stop => exact ⟨h.held, h.alone⟩
  | @task id input after next hNext =>
      have hElsewhere : ∀ other, other ≠ id → Function.update d.tasks id next other = d.tasks other :=
        fun other hOther => Function.update_of_ne hOther ..
      have hHere : Function.update d.tasks id next id = next := Function.update_self ..
      have hMove := nextHandler_permit hNext
      generalize hTask : d.tasks id = handler at hMove
      cases hMove with
      | kept hSame hBefore hAfter =>
          have hOld := not_capturing hBefore
          have hNew := not_capturing hAfter
          have hTasks : ∀ other, Function.update d.tasks id next other = .proxy .capturing ↔
              d.tasks other = .proxy .capturing := by
            intro other
            by_cases hOther : other = id
            · subst hOther
              rw [hHere, hTask]
              exact ⟨fun hIs => absurd hIs hNew, fun hIs => absurd hIs hOld⟩
            · rw [hElsewhere other hOther]
          refine ⟨fun hActive => ?_, fun other hOther => ?_⟩
          · obtain ⟨other, hOther⟩ := h.held (hSame ▸ hActive)
            exact ⟨other, (hTasks other).mpr hOther⟩
          · obtain ⟨hActive, hOnly⟩ := h.alone other ((hTasks other).mp hOther)
            exact ⟨hSame.trans hActive, fun third hThird => hOnly third ((hTasks third).mp hThird)⟩
      | acquired hPermits hFree hActive =>
          have hNobody : ∀ other, d.tasks other ≠ .proxy .capturing := by
            intro other hOther
            rw [(h.alone other hOther).1] at hFree
            cases hFree
          refine ⟨fun _ => ⟨id, hHere⟩, fun other hOther => ⟨hActive, fun third hThird => ?_⟩⟩
          have hMine : ∀ task, Function.update d.tasks id (.proxy .capturing) task = .proxy .capturing → task = id := by
            intro task hCaptures
            by_contra hNe
            rw [hElsewhere task hNe] at hCaptures
            exact hNobody task hCaptures
          rw [hMine third hThird, hMine other hOther]
      | released hFree =>
          have hNobody : ∀ other, Function.update d.tasks id (.proxy .finished) other ≠ .proxy .capturing := by
            intro other hOther
            by_cases hNe : other = id
            · subst hNe
              rw [hHere] at hOther
              cases hOther
            · rw [hElsewhere other hNe] at hOther
              exact hNe ((h.alone id hTask).2 other hOther)
          refine ⟨fun hActive => ?_, fun other hOther => absurd hOther (hNobody other)⟩
          have hStill : after.proxy.transferActive = true := hActive
          rw [hFree] at hStill
          cases hStill

/-- A task captures only where it was permitted to. -/
theorem Daemon.capturing_step {d' : Daemon} {action : Action} (hStep : Daemon.step cfg d action = some d')
    (hCaptures : d'.tasks id = .proxy .capturing) (hBefore : d.tasks id ≠ .proxy .capturing) :
    ∃ format token, action = .task id (.receive (.clipboardRead format token)) ∧
      cfg.clipboardService.Permits token ∧ d.ctx.proxy.transferActive = false := by
  cases (Daemon.step_cases hStep).2 with
  | clientConnects => exact absurd hCaptures hBefore
  | stop => exact absurd hCaptures hBefore
  | @task task input after next hNext =>
      by_cases hTask : id = task
      · subst hTask
        have hHere : Function.update d.tasks id next id = .proxy .capturing := hCaptures
        rw [Function.update_self] at hHere
        subst hHere
        have hMove := nextHandler_permit hNext
        generalize d.tasks id = handler at hMove hBefore
        cases hMove with
        | kept hSame hOld hNew => cases hNew
        | acquired hPermits hFree hActive => exact ⟨_, _, rfl, hPermits, hFree⟩
      · have hThere : Function.update d.tasks task next id = .proxy .capturing := hCaptures
        rw [Function.update_of_ne hTask] at hThere
        exact absurd hThere hBefore

theorem permitted_of_run (run : Run (Daemon.step cfg) (Daemon.start cfg) trace d)
    (hCaptures : d.tasks id = .proxy .capturing) : Permitted cfg trace id := by
  induction run with
  | refl =>
      have hTask : (if cfg.scanSockets ∧ id = 0 then Handler.scanning else .idle) = .proxy .capturing := hCaptures
      split_ifs at hTask
  | @tail trace middle finish action prior last ih =>
      by_cases hBefore : middle.tasks id = .proxy .capturing
      · obtain ⟨entry, hEntry, hPermitted⟩ := ih hBefore
        exact ⟨entry, List.mem_append_left _ hEntry, hPermitted⟩
      · obtain ⟨format, token, rfl, hPermits, hFree⟩ := Daemon.capturing_step last hCaptures hBefore
        exact ⟨_, List.mem_append_right _ (List.mem_singleton_self _), format, token, rfl, hPermits, hFree⟩

/-- In every state of every run at most one task captures the clipboard, it
asked for it with the token of the daemon while no other task did, and the
permit is taken exactly while it captures: none is ever lost. -/
theorem clipboard_exclusive (run : Run (Daemon.step cfg) (Daemon.start cfg) trace d) :
    (d.ctx.proxy.transferActive = true ↔ ∃ id, d.tasks id = .proxy .capturing) ∧
      ∀ id, d.tasks id = .proxy .capturing →
        Permitted cfg trace id ∧ ∀ other, d.tasks other = .proxy .capturing → other = id := by
  have hExclusive : d.Exclusive :=
    Reachable.invariant ⟨trace, run⟩ Daemon.Exclusive (Daemon.exclusive_start cfg) fun _ _ _ h hStep => h.step hStep
  refine ⟨⟨hExclusive.held, ?_⟩, fun id hCaptures => ⟨permitted_of_run run hCaptures, (hExclusive.alone id hCaptures).2⟩⟩
  rintro ⟨id, hCaptures⟩
  exact (hExclusive.alone id hCaptures).1

def sharing : HostConfig :=
  { HostConfig.basic with authToken := some "secret", allowClipboard := true }

/-- Two clients ask for the clipboard at the same time. -/
def contendingSchedule : List Action :=
  [.task 0 .connectData, .task 1 .connectData, .task 0 (.receive (.clipboardRead .auto "secret")),
    .task 1 (.receive (.clipboardRead .png "secret"))]

theorem Handler.eq_of_captures (h : handler.captures = true) : handler = .proxy .capturing := by
  cases handler <;> try cases h
  case proxy task =>
    cases task <;> first | rfl | cases h

theorem clipboard_exclusive_contended :
    ∃ trace d, Run (Daemon.step sharing) (Daemon.start sharing) trace d ∧ d.tasks 0 = .proxy .capturing ∧
      Permitted sharing trace 0 ∧ ∀ other, d.tasks other = .proxy .capturing → other = 0 := by
  have hExec : (exec (Daemon.step sharing) (Daemon.start sharing) contendingSchedule).any
      fun d => (d.tasks 0).captures := by
    decide
  obtain ⟨d, hFinish, hCaptures⟩ := (Option.any_eq_true _ _).mp hExec
  obtain ⟨trace, -, run⟩ := run_of_exec hFinish
  have hTask := Handler.eq_of_captures hCaptures
  obtain ⟨hPermitted, hOnly⟩ := (clipboard_exclusive run).2 0 hTask
  exact ⟨trace, d, run, hTask, hPermitted, hOnly⟩

end DevcontainerBridge
