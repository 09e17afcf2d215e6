import DevcontainerBridge.Host.Pending
import DevcontainerBridge.Host.Steps

/-! Pending connections of several containers. Entries of the pending map have
no owner: whoever names a conn_id can cancel or replace what is registered
under it, and nothing else. -/
namespace DevcontainerBridge

open Table Transition

/-- The conn_id in a message of a registered container. -/
def Message.namesConnection : Message → Option String
  | .connectFailed connId _ | .socketConnectRequest _ connId => some connId
  | _ => none

/-- A container names a conn_id in a message on its control connection, or the
host generates one for a client of the container. -/
def Handler.names : Handler → Input → Option (String × String)
  | .serving containerId _, .receive message => message.namesConnection.map fun connId => (containerId, connId)
  | .proxy (.clientRegister _ route), .uuid connId => some (route.containerId, connId)
  | _, _ => none

/-- The conn_id that a task acts under, and the container that it acts for. A
socket bridge does not know its container. -/
def Handler.actsUnder : Handler → Option (Option String × String)
  | .cancelConnect containerId _ connId | .socketLookup containerId _ _ connId
  | .socketRegister containerId _ connId | .socketConnect containerId _ connId _
  | .socketCancel containerId _ connId => some (some containerId, connId)
  | .proxy (.clientSend _ route connId _) | .proxy (.clientSubscribe route connId _)
  | .proxy (.clientBridge route connId _ _) | .proxy (.clientBridgeCancel route connId _)
  | .proxy (.clientCancel route connId) =>
      some (some route.containerId, connId)
  | .proxy (.socketBridge connId _) | .proxy (.socketBridgeCancel connId) => some (none, connId)
  | _ => none

/-- About to change the pending map for a ConnectFailed or SocketConnectRequest
message, or to clean up after a bridge that failed. -/
def Handler.disturbing : Handler → Bool
  | .cancelConnect .. | .socketRegister .. | .socketCancel .. | .proxy (.clientBridgeCancel ..)
  | .proxy (.clientCancel ..) | .proxy (.socketBridgeCancel _) => true
  | _ => false

def Daemon.names (d : Daemon) : Action → Option (String × String)
  | .task id input => (d.tasks id).names input
  | _ => none

/-- Earlier in the run the container has named the conn_id, or the host has
generated it for the container. -/
def NamedIn (trace : List (Daemon × Action)) (containerId connId : String) : Prop :=
  ∃ entry ∈ trace, entry.1.names entry.2 = some (containerId, connId)

/-- The container that a task acts for has named the conn_id. -/
def Justified (trace : List (Daemon × Action)) (origin : Option String × String) : Prop :=
  ∃ containerId, NamedIn trace containerId origin.2 ∧ ∀ owner, origin.1 = some owner → owner = containerId

variable {cfg : HostConfig} {ctx after : DaemonContext} {handler next : Handler} {input : Input}
  {origin : Option String × String} {trace : List (Daemon × Action)} {d : Daemon}

theorem dispatchFirst_actsUnder (message : Message) : (dispatchFirst cfg message).actsUnder = none := by
  cases message <;> unfold dispatchFirst <;> dsimp only <;> (try split_ifs) <;> rfl

theorem dispatchContainer_actsUnder {containerId : String} {registrationId : Nat} {message : Message}
    (hNext : (dispatchContainer cfg containerId registrationId message).actsUnder = some origin) :
    origin.1 = some containerId ∧ message.namesConnection = some origin.2 := by
  cases message with
  | connectFailed connId error =>
      unfold dispatchContainer at hNext
      dsimp only at hNext
      split_ifs at hNext
      · cases hNext
      · cases hNext
        exact ⟨rfl, rfl⟩
  | socketConnectRequest socketId connId =>
      unfold dispatchContainer at hNext
      dsimp only at hNext
      split_ifs at hNext
      · cases hNext
        exact ⟨rfl, rfl⟩
      · cases hNext
  | _ => cases hNext

theorem nextRegister_actsUnder (h : nextRegister cfg ctx handler input = some (after, next)) :
    next.actsUnder = none := by
  cases nextRegister_cases h with
  | dispatched message => exact dispatchFirst_actsUnder message
  | _ => rfl

theorem nextForward_actsUnder (h : nextForward ctx handler input = some (after, next)) :
    next.actsUnder = none := by
  cases nextForward_cases h <;> rfl

theorem nextUnforward_actsUnder (h : nextUnforward ctx handler input = some (after, next)) :
    next.actsUnder = none := by
  cases nextUnforward_cases h <;> rfl

/-- What a task may act under after a step: what it acted under before, a
conn_id that the step names, or that of a socket bridge it has taken over. -/
def Handler.MayActUnder (handler : Handler) (input : Input) (bridges : List (String × Nat))
    (origin : Option String × String) : Prop :=
  handler.actsUnder = some origin ∨
    (∃ containerId, handler.names input = some (containerId, origin.2) ∧ origin.1 = some containerId) ∨
      origin.1 = none ∧ ∃ receiver, (origin.2, receiver) ∈ bridges

theorem nextServing_actsUnder (h : nextServing cfg ctx handler input = some (after, next))
    (hNext : next.actsUnder = some origin) : handler.MayActUnder input ctx.proxy.bridges origin := by
  cases nextServing_cases h with
  | @dispatched containerId registrationId message =>
      obtain ⟨hContainer, hNames⟩ := dispatchContainer_actsUnder hNext
      exact .inr (.inl ⟨containerId, by simp [Handler.names, hNames], hContainer⟩)
  | _ => cases hNext

theorem nextAuxiliary_actsUnder (h : nextAuxiliary ctx handler input = some (after, next))
    (hNext : next.actsUnder = some origin) : handler.actsUnder = some origin := by
  cases nextAuxiliary_cases h with
  | known => exact hNext
  | registered => exact hNext
  | unconnected => exact hNext
  | _ => cases hNext

theorem nextScanner_actsUnder (h : nextScanner ctx handler input = some (after, next)) :
    next.actsUnder = none := by
  cases nextScanner_cases h <;> rfl

theorem nextIdle_actsUnder (h : nextIdle ctx input = some (after, next))
    (hNext : next.actsUnder = some origin) :
    origin.1 = none ∧ ∃ receiver, (origin.2, receiver) ∈ ctx.proxy.bridges := by
  cases nextIdle_cases h with
  | @bridge connId receiver rest hBridges =>
      cases hNext
      rw [hBridges]
      exact ⟨rfl, receiver, List.mem_cons_self⟩
  | _ => cases hNext

theorem nextClient_actsUnder {s : HostState} {p p' : ProxyState} {task task' : ProxyTask}
    (h : nextClient s p task input = some (p', task'))
    (hNext : (Handler.proxy task').actsUnder = some origin) :
    (Handler.proxy task).MayActUnder input [] origin := by
  cases nextClient_cases h with
  | registered =>
      cases hNext
      exact .inr (.inl ⟨_, rfl, rfl⟩)
  | queued => exact .inl hNext
  | unsent => exact .inl hNext
  | subscribed => exact .inl hNext
  | unsubscribed => exact .inl hNext
  | expired => exact .inl hNext
  | _ => cases hNext

theorem dispatchData_actsUnder (cfg : HostConfig) (p : ProxyState) (message : Message) :
    (Handler.proxy (dispatchData cfg p message).2).actsUnder = none := by
  unfold dispatchData
  split
  case h_1 => split_ifs <;> rfl
  case h_2 => split_ifs <;> rfl
  case h_3 => rfl

theorem nextData_actsUnder {p p' : ProxyState} {task task' : ProxyTask}
    (h : nextData cfg p task input = some (p', task'))
    (hNext : (Handler.proxy task').actsUnder = some origin) :
    (Handler.proxy task).actsUnder = some origin := by
  cases nextData_cases h with
  | expired => exact hNext
  | dispatched message =>
      rw [dispatchData_actsUnder cfg p message] at hNext
      cases hNext
  | _ => cases hNext

/-- Where the conn_id comes from that a task acts under. -/
theorem nextHandler_actsUnder (h : nextHandler cfg ctx handler input = some (after, next))
    (hNext : next.actsUnder = some origin) : handler.MayActUnder input ctx.proxy.bridges origin := by
  have hNever : next.actsUnder ≠ none := by
    rw [hNext]
    exact fun hEq => nomatch hEq
  unfold nextHandler at h
  split at h
  case h_1 => exact .inr (.inr (nextIdle_actsUnder h hNext))
  case h_2 => cases h
  case h_3 task =>
    obtain ⟨proxy, task', -, rfl, hClient | hData⟩ := nextProxy_cases h
    · rcases nextClient_actsUnder hClient hNext with hKept | hNamed | ⟨-, receiver, hNone⟩
      · exact .inl hKept
      · exact .inr (.inl hNamed)
      · cases hNone
    · exact .inl (nextData_actsUnder hData hNext)
  all_goals first
    | exact absurd (nextRegister_actsUnder h) hNever
    | exact absurd (nextForward_actsUnder h) hNever
    | exact absurd (nextUnforward_actsUnder h) hNever
    | exact absurd (nextScanner_actsUnder h) hNever
    | exact nextServing_actsUnder h hNext
    | exact .inl (nextAuxiliary_actsUnder h hNext)

theorem nextRegister_bridges (h : nextRegister cfg ctx handler input = some (after, next)) :
    after.proxy.bridges = ctx.proxy.bridges := by
  cases nextRegister_cases h with
  | drained hTear =>
      obtain ⟨-, rfl⟩ := DaemonContext.tearDown_frame hTear
      rfl
  | drainedOne hDrain =>
      obtain ⟨fstate, -, -, hTear⟩ := drainOne_some hDrain
      obtain ⟨-, rfl⟩ := DaemonContext.tearDown_frame hTear
      rfl
  | _ => rfl

theorem nextForward_bridges (h : nextForward ctx handler input = some (after, next)) :
    after.proxy.bridges = ctx.proxy.bridges := by
  cases nextForward_cases h with
  | drained hTear =>
      obtain ⟨-, rfl⟩ := DaemonContext.tearDown_frame hTear
      rfl
  | _ => rfl

theorem nextUnforward_bridges (h : nextUnforward ctx handler input = some (after, next)) :
    after.proxy.bridges = ctx.proxy.bridges := by
  cases nextUnforward_cases h with
  | drained hTear =>
      obtain ⟨-, rfl⟩ := DaemonContext.tearDown_frame hTear
      rfl
  | globalDrained hTear =>
      obtain ⟨-, rfl⟩ := DaemonContext.tearDown_frame hTear
      rfl
  | _ => rfl

theorem nextServing_bridges (h : nextServing cfg ctx handler input = some (after, next)) :
    after.proxy.bridges = ctx.proxy.bridges := by
  cases nextServing_cases h with
  | drained hTear =>
      obtain ⟨-, rfl⟩ := DaemonContext.tearDown_frame hTear
      rfl
  | drainedOne hDrain =>
      obtain ⟨fstate, -, -, hTear⟩ := drainOne_some hDrain
      obtain ⟨-, rfl⟩ := DaemonContext.tearDown_frame hTear
      rfl
  | _ => rfl

theorem nextScanner_bridges (h : nextScanner ctx handler input = some (after, next)) :
    after.proxy.bridges = ctx.proxy.bridges := by
  cases nextScanner_cases h with
  | @sent message tx =>
      obtain ⟨queues, hBroadcast⟩ := ctx.proxy.tryBroadcast_frame message tx
      rw [hBroadcast]
  | _ => rfl

theorem increment_bridges (p : ProxyState) (tracker : Option Nat) :
    (p.increment tracker).bridges = p.bridges := by
  cases tracker <;> rfl

theorem nextClient_bridges {s : HostState} {p p' : ProxyState} {task task' : ProxyTask}
    (h : nextClient s p task input = some (p', task')) : p'.bridges = p.bridges := by
  cases nextClient_cases h with
  | counted => exact increment_bridges p _
  | registered hRegister =>
      obtain ⟨_, _, _, rfl⟩ := ProxyState.register_frame hRegister
      rfl
  | unregistered hRegister =>
      obtain ⟨_, _, _, rfl⟩ := ProxyState.register_frame hRegister
      rfl
  | @uncounted route => cases route.tracker <;> rfl
  | _ => rfl

theorem dispatchData_bridges (cfg : HostConfig) (p : ProxyState) (message : Message) :
    (dispatchData cfg p message).1.bridges = p.bridges := by
  unfold dispatchData
  split
  case h_1 => split_ifs <;> rfl
  case h_2 => split_ifs <;> rfl
  case h_3 => rfl

theorem nextData_bridges {p p' : ProxyState} {task task' : ProxyTask}
    (h : nextData cfg p task input = some (p', task')) : p'.bridges = p.bridges := by
  cases nextData_cases h with
  | dispatched message => exact dispatchData_bridges cfg p message
  | resolved hResolve =>
      obtain ⟨_, _, rfl⟩ := ProxyState.resolve_frame hResolve
      rfl
  | _ => rfl

theorem nextAuxiliary_bridges (h : nextAuxiliary ctx handler input = some (after, next))
    {bridge : String × Nat} (hBridge : bridge ∈ after.proxy.bridges) :
    bridge ∈ ctx.proxy.bridges ∨ ∃ owner, handler.actsUnder = some (some owner, bridge.1) := by
  cases nextAuxiliary_cases h with
  | registered hRegister =>
      obtain ⟨_, _, _, rfl⟩ := ProxyState.register_frame hRegister
      exact .inl hBridge
  | unregistered hRegister =>
      obtain ⟨_, _, _, rfl⟩ := ProxyState.register_frame hRegister
      exact .inl hBridge
  | @connected containerId =>
      rcases List.mem_append.mp hBridge with hOld | hNew
      · exact .inl hOld
      · rw [List.mem_singleton.mp hNew]
        exact .inr ⟨containerId, rfl⟩
  | _ => exact .inl hBridge

theorem nextIdle_bridges (h : nextIdle ctx input = some (after, next)) {bridge : String × Nat}
    (hBridge : bridge ∈ after.proxy.bridges) : bridge ∈ ctx.proxy.bridges := by
  cases nextIdle_cases h with
  | bridge hBridges =>
      rw [hBridges]
      exact List.mem_cons_of_mem _ hBridge
  | _ => exact hBridge

/-- A socket bridge that waits to be started was asked for by a container. -/
theorem nextHandler_bridges (h : nextHandler cfg ctx handler input = some (after, next))
    {bridge : String × Nat} (hBridge : bridge ∈ after.proxy.bridges) :
    bridge ∈ ctx.proxy.bridges ∨ ∃ owner, handler.actsUnder = some (some owner, bridge.1) := by
  unfold nextHandler at h
  split at h
  case h_1 => exact .inl (nextIdle_bridges h hBridge)
  case h_2 => cases h
  case h_3 task =>
    obtain ⟨proxy, task', rfl, -, hClient | hData⟩ := nextProxy_cases h
    · exact .inl (nextClient_bridges hClient ▸ hBridge)
    · exact .inl (nextData_bridges hData ▸ hBridge)
  all_goals first
    | exact .inl (nextRegister_bridges h ▸ hBridge)
    | exact .inl (nextForward_bridges h ▸ hBridge)
    | exact .inl (nextUnforward_bridges h ▸ hBridge)
    | exact .inl (nextServing_bridges h ▸ hBridge)
    | exact .inl (nextScanner_bridges h ▸ hBridge)
    | exact nextAuxiliary_bridges h hBridge

/-- Registering under one conn_id takes from the others what is closed. -/
theorem registerPending_other {receivers : Nat → Receiver} {pending : Map String Nat}
    {connId other : String} {new receiver : Nat} (hEntry : pending.lookup other = some receiver)
    (hOpen : receivers receiver ≠ .closed) (hOther : other ≠ connId) :
    (registerPending receivers pending connId new).1.lookup other = some receiver := by
  have hKept : (retain (fun _ other => receivers other ≠ .closed) pending).lookup other =
      some receiver := by
    rw [lookup_retain]
    exact ⟨hEntry, decide_eq_true hOpen⟩
  unfold registerPending
  dsimp only
  split_ifs
  · exact hKept
  · rw [lookup_insert, if_neg hOther]
    exact hKept
  · rw [lookup_insert, if_neg hOther]
    exact hEntry

theorem register_pending_fst (p : ProxyState) (connId : String) :
    (p.register connId).1.pending = (registerPending p.receivers p.pending connId p.nextReceiver).1 := by
  unfold ProxyState.register
  split <;> rename_i hRegister <;> rw [hRegister]

theorem cancelPending_other {p : ProxyState} {connId other : String} {receiver : Nat}
    (hEntry : p.pending.lookup other = some receiver) (hOther : other ≠ connId) :
    (p.cancelPending connId).pending.lookup other = some receiver := by
  show (p.pending.erase connId).lookup other = some receiver
  rw [lookup_erase, if_neg hOther]
  exact hEntry

/-- A disturbing task changes what is registered under its own conn_id, and
takes away what is closed. -/
theorem disturbing_step (hDisturbing : handler.disturbing = true)
    (h : nextHandler cfg ctx handler input = some (after, next)) {connId : String} {receiver : Nat}
    (hEntry : ctx.proxy.pending.lookup connId = some receiver)
    (hOpen : ctx.proxy.receivers receiver ≠ .closed)
    (hGone : after.proxy.pending.lookup connId ≠ some receiver) :
    ∃ owner, handler.actsUnder = some (owner, connId) := by
  have hSame : ∀ {named : String}, (connId ≠ named → after.proxy.pending.lookup connId = some receiver) →
      connId = named := by
    intro named hElse
    by_contra hOther
    exact hGone (hElse hOther)
  unfold Handler.disturbing at hDisturbing
  split at hDisturbing
  case h_1 containerId registrationId named =>
    have hNamed : connId = named := hSame fun hOther => by
      cases input <;> cases h
      exact cancelPending_other hEntry hOther
    rw [hNamed]
    exact ⟨_, rfl⟩
  case h_2 containerId registrationId named =>
    have hNamed : connId = named := hSame fun hOther => by
      have hRegister := register_pending_fst ctx.proxy named
      have hKept : (registerPending ctx.proxy.receivers ctx.proxy.pending named
          ctx.proxy.nextReceiver).1.lookup connId = some _ :=
        registerPending_other hEntry hOpen hOther
      rw [← hRegister] at hKept
      have hStep : nextAuxiliary ctx (.socketRegister containerId registrationId named) input =
        some (after, next) := h
      cases nextAuxiliary_cases hStep with
      | registered hPair =>
          rw [hPair] at hKept
          exact hKept
      | unregistered hPair =>
          rw [hPair] at hKept
          exact hKept
    rw [hNamed]
    exact ⟨_, rfl⟩
  case h_3 containerId registrationId named =>
    have hNamed : connId = named := hSame fun hOther => by
      cases input <;> cases h
      exact cancelPending_other hEntry hOther
    rw [hNamed]
    exact ⟨_, rfl⟩
  case h_4 route named seen =>
    have hNamed : connId = named := hSame fun hOther => by
      obtain ⟨proxy, task', rfl, -, hClient | hData⟩ := nextProxy_cases h
      · cases nextClient_cases hClient with
        | withdrawn => exact cancelPending_other hEntry hOther
        | abandoned => exact hEntry
      · cases hData
    rw [hNamed]
    exact ⟨_, rfl⟩
  case h_5 route named =>
    have hNamed : connId = named := hSame fun hOther => by
      cases input <;> cases h
      exact cancelPending_other hEntry hOther
    rw [hNamed]
    exact ⟨_, rfl⟩
  case h_6 named =>
    have hNamed : connId = named := hSame fun hOther => by
      cases input <;> cases h
      exact cancelPending_other hEntry hOther
    rw [hNamed]
    exact ⟨_, rfl⟩
  case h_7 => cases hDisturbing

/-- Everything that is acted under goes back to a container that named it. -/
structure AllJustified (trace : List (Daemon × Action)) (d : Daemon) : Prop where
  tasks : ∀ id origin, (d.tasks id).actsUnder = some origin → Justified trace origin
  bridges : ∀ bridge ∈ d.ctx.proxy.bridges, Justified trace (none, bridge.1)

theorem Justified.mono {entry : Daemon × Action} (h : Justified trace origin) :
    Justified (trace ++ [entry]) origin := by
  obtain ⟨containerId, ⟨earlier, hEarlier, hNames⟩, hOwner⟩ := h
  exact ⟨containerId, ⟨earlier, List.mem_append_left _ hEarlier, hNames⟩, hOwner⟩

theorem Justified.forget {owner : String} {connId : String} (h : Justified trace (some owner, connId)) :
    Justified trace (none, connId) := by
  obtain ⟨containerId, hNamed, -⟩ := h
  exact ⟨containerId, hNamed, fun _ hNone => nomatch hNone⟩

theorem Daemon.run_allJustified (run : Run (Daemon.step cfg) (Daemon.start cfg) trace d) :
    AllJustified trace d := by
  induction run with
  | refl =>
      constructor
      · intro id origin hActs
        unfold Daemon.start at hActs
        dsimp only at hActs
        split_ifs at hActs <;> cases hActs
      · intro bridge hBridge
        cases hBridge
  | @tail trace middle finish action prior last ih =>
      cases (Daemon.step_cases last).2 with
      | clientConnects hAccept =>
          refine ⟨fun id origin hActs => (ih.tasks id origin hActs).mono, fun bridge hBridge => ?_⟩
          obtain ⟨l, -, rfl⟩ := DaemonContext.acceptClient_frame hAccept
          exact (ih.bridges bridge hBridge).mono
      | stop => exact ⟨fun id origin hActs => (ih.tasks id origin hActs).mono,
          fun bridge hBridge => (ih.bridges bridge hBridge).mono⟩
      | @task id input after next hNext =>
          constructor
          · intro other origin hActs
            dsimp only at hActs
            by_cases hHere : other = id
            · subst hHere
              rw [Function.update_self] at hActs
              rcases nextHandler_actsUnder hNext hActs with hKept | ⟨owner, hNames, hOwner⟩ | ⟨hNone, hBridge⟩
              · exact (ih.tasks other origin hKept).mono
              · refine ⟨owner, ⟨(middle, .task other input), by simp, hNames⟩, ?_⟩
                intro owner' hOwner'
                rw [hOwner] at hOwner'
                exact (Option.some.inj hOwner').symm
              · obtain ⟨receiver, hMember⟩ := hBridge
                obtain ⟨owner, connId⟩ := origin
                obtain rfl : owner = none := hNone
                exact (ih.bridges _ hMember).mono
            · rw [Function.update_of_ne hHere] at hActs
              exact (ih.tasks other origin hActs).mono
          · intro bridge hBridge
            rcases nextHandler_bridges hNext hBridge with hOld | ⟨owner, hActs⟩
            · exact (ih.bridges bridge hOld).mono
            · exact (ih.tasks id _ hActs).mono.forget

/-- Whatever a message of a container or the cleanup after one of its bridges
takes from the pending map while its receiver waits is registered under a
conn_id that the container has named, or the host has generated for it. -/
theorem pending_isolated (run : Run (Daemon.step cfg) (Daemon.start cfg) trace d) {id : Nat}
    {after : Daemon} (hStep : Daemon.step cfg d (.task id input) = some after)
    (hDisturbing : (d.tasks id).disturbing = true) {connId : String} {receiver : Nat}
    (hEntry : d.ctx.proxy.pending.lookup connId = some receiver)
    (hWaiting : d.ctx.proxy.receivers receiver ≠ .closed)
    (hGone : after.ctx.proxy.pending.lookup connId ≠ some receiver) :
    ∃ owner containerId, (d.tasks id).actsUnder = some (owner, connId) ∧
      NamedIn trace containerId connId ∧ ∀ known, owner = some known → known = containerId := by
  cases (Daemon.step_cases hStep).2 with
  | task hNext =>
      obtain ⟨owner, hActs⟩ := disturbing_step hDisturbing hNext hEntry hWaiting hGone
      obtain ⟨containerId, hNamed, hOwner⟩ := (Daemon.run_allJustified run).tasks id _ hActs
      exact ⟨owner, containerId, hActs, hNamed, hOwner⟩

/-- The container a receiver waits for, in the task that holds the receiver. -/
def Handler.awaits : Handler → Option (String × Nat)
  | .socketConnect containerId _ _ receiver => some (containerId, receiver)
  | .proxy (.clientSend _ route _ receiver) | .proxy (.clientSubscribe route _ receiver)
  | .proxy (.clientBridge route _ receiver _) => some (route.containerId, receiver)
  | _ => none

/-- The container of the client sends ConnectFailed. -/
def refusedSchedule : List Action :=
  let cstate := { HostState.newRegistration "h" 1 with forwards := Finmap.singleton 8080 onlyForward }
  singleSchedule ++ clientSchedule 2 [⟨"c", cstate⟩] "x" ++ [.task 1 (.receive (.connectFailed "x" "refused"))]

theorem pending_isolated_refused :
    ∃ trace d after, trace.map Prod.snd = refusedSchedule ∧
      Run (Daemon.step .basic) (Daemon.start .basic) trace d ∧
      Daemon.step .basic d (.task 1 .proceed) = some after ∧
      ∃ owner containerId, (d.tasks 1).actsUnder = some (owner, "x") ∧
        NamedIn trace containerId "x" ∧ ∀ known, owner = some known → known = containerId := by
  have hRun : (exec (Daemon.step .basic) (Daemon.start .basic) refusedSchedule).any fun d =>
      (d.tasks 1).disturbing && d.ctx.proxy.pending.lookup "x" == some 0 &&
        decide (d.ctx.proxy.receivers 0 ≠ .closed) &&
        (Daemon.step .basic d (.task 1 .proceed)).any fun after =>
          after.ctx.proxy.pending.lookup "x" == none := by
    decide
  obtain ⟨d, hExec, hState⟩ := (Option.any_eq_true _ _).mp hRun
  simp only [Bool.and_eq_true, beq_iff_eq, decide_eq_true_eq] at hState
  obtain ⟨⟨⟨hDisturbing, hEntry⟩, hWaiting⟩, hAfter⟩ := hState
  obtain ⟨after, hStep, hGone⟩ := (Option.any_eq_true _ _).mp hAfter
  obtain ⟨trace, hActions, run⟩ := run_of_exec hExec
  refine ⟨trace, d, after, hActions, run, hStep, pending_isolated run hStep hDisturbing hEntry hWaiting ?_⟩
  rw [beq_iff_eq.mp hGone]
  exact fun hEq => nomatch hEq

/-- A client of container "b" waits, and container "a" sends ConnectFailed
with the same conn_id. -/
def intruderSchedule : List Action :=
  let cstate := { HostState.newRegistration "h" 2 with forwards := Finmap.singleton 8080 onlyForward }
  announceSchedule 1 "a" "h" "" ++ enterSchedule 1 ++ announceSchedule 2 "b" "h" "" ++ enterSchedule 2
    ++ forwardSchedule 2 8080 8080
    ++ clientSchedule 3 [⟨"b", cstate⟩, ⟨"a", HostState.newRegistration "h" 1⟩] "x"
    ++ [.task 1 (.receive (.connectFailed "x" "refused"))]

/-- The message of "a" takes away what is registered on behalf of "b". -/
theorem pending_disturbed_by_other :
    ∃ d after, exec (Daemon.step .basic) (Daemon.start .basic) intruderSchedule = some d ∧
      Daemon.step .basic d (.task 1 .proceed) = some after ∧
      (d.tasks 1).actsUnder = some (some "a", "x") ∧ (d.tasks 3).awaits = some ("b", 0) ∧
      d.ctx.proxy.receivers 0 = .waiting ∧ d.ctx.proxy.pending.lookup "x" = some 0 ∧
      after.ctx.proxy.pending.lookup "x" = none := by
  have hRun : (exec (Daemon.step .basic) (Daemon.start .basic) intruderSchedule).any fun d =>
      (d.tasks 1).actsUnder == some (some "a", "x") && (d.tasks 3).awaits == some ("b", 0) &&
        decide (d.ctx.proxy.receivers 0 = .waiting) && d.ctx.proxy.pending.lookup "x" == some 0 &&
        (Daemon.step .basic d (.task 1 .proceed)).any fun after =>
          after.ctx.proxy.pending.lookup "x" == none := by
    decide
  obtain ⟨d, hExec, hState⟩ := (Option.any_eq_true _ _).mp hRun
  simp only [Bool.and_eq_true, beq_iff_eq, decide_eq_true_eq] at hState
  obtain ⟨⟨⟨⟨hActs, hAwaits⟩, hWaiting⟩, hEntry⟩, hAfter⟩ := hState
  obtain ⟨after, hStep, hGone⟩ := (Option.any_eq_true _ _).mp hAfter
  exact ⟨d, after, hExec, hStep, hActs, hAwaits, hWaiting, hEntry, beq_iff_eq.mp hGone⟩

end DevcontainerBridge
