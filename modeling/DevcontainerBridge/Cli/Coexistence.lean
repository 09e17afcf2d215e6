import DevcontainerBridge.Cli.Answer
import DevcontainerBridge.Host.Listeners

/-! Several forward commands at once. All of them register as `cli-manual`, so
that the forward of one is in the table of the host until another one of them
registers. -/
namespace DevcontainerBridge

open Table Transition

variable {cfg : HostConfig} {args : Nat → ForwardArgs} {forwardArgs : ForwardArgs} {ctx after : DaemonContext}
  {handler next : Handler} {input : Input} {f f' : Fleet} {action : FleetAction} {id : Nat}
  {c c' : ForwardClient} {cliInput : CliInput} {port hostPort : UInt16} {containerId : String}
  {fstate : ForwardState}

/-- The next step of the task takes the forward of a port of a container out of
the table, or puts another one there. -/
def Handler.Withdraws (ctx : DaemonContext) (containerId : String) (port : UInt16) : Handler → Input → Prop
  | .registerRemove owner _, _ | .registerInsert owner _ _, _ => owner = containerId
  | .cleanup owner registrationId, _ =>
      owner = containerId ∧ ctx.state.registrationOf owner = some registrationId
  | .forwardTake owner _ request, _ | .forwardInsert owner _ request _ _ _ _, _ =>
      owner = containerId ∧ request.port = port
  | .unforwardRemove owner _ removed, _ => owner = containerId ∧ removed = port
  | .unforwardGlobal removed, .enumerate order =>
      HostState.findContainerForPort order removed = some containerId ∧ removed = port
  | _, _ => False

theorem unforwardGlobal_kept {removed : UInt16}
    (hNext : nextHandler cfg ctx (.unforwardGlobal removed) input = some (after, next))
    (hKeeps : ¬(Handler.unforwardGlobal removed).Withdraws ctx containerId port input)
    (h : ctx.state.forwardOf containerId port = some fstate) :
    after.state.forwardOf containerId port = some fstate := by
  have hUnforward : nextUnforward ctx (.unforwardGlobal removed) input = some (after, next) := hNext
  have kept : ∀ {owner : String} {order : List (Σ _ : String, ContainerState)},
      HostState.findContainerForPort order removed = some owner → input = .enumerate order →
      (ctx.state.removeForward owner removed).1.forwardOf containerId port = some fstate := by
    rintro owner order hOwner rfl
    rw [HostState.forwardOf_removeForward, if_neg]
    · exact h
    · rintro ⟨rfl, rfl⟩
      exact hKeeps ⟨hOwner, rfl⟩
  cases nextUnforward_cases hUnforward with
  | nobody => exact h
  | globalMissing _ hOwner hRemove =>
      obtain rfl := congrArg Prod.fst hRemove
      exact kept hOwner rfl
  | globalRemoved _ hOwner hRemove =>
      obtain rfl := congrArg Prod.fst hRemove
      exact kept hOwner rfl

/-- A forward stays until a step withdraws it. -/
theorem forwardOf_kept (hNext : nextHandler cfg ctx handler input = some (after, next)) (hBound : handler.WellBound)
    (hKeeps : ¬handler.Withdraws ctx containerId port input)
    (h : ctx.state.forwardOf containerId port = some fstate) :
    after.state.forwardOf containerId port = some fstate := by
  have apart : ∀ {owner : String} {removed : UInt16}, ¬(owner = containerId ∧ removed = port) →
      ¬(containerId = owner ∧ port = removed) := by
    intro owner removed hOther hSame
    exact hOther ⟨hSame.1.symm, hSame.2.symm⟩
  cases nextHandler_hostStep hNext with
  | quiet _ _ hSame =>
      rw [HostState.forwardOf_congr hSame.containers]
      exact h
  | advance _ hSame =>
      rw [HostState.forwardOf_congr hSame.containers]
      exact h
  | registerRemove hRemove =>
      obtain ⟨cstate, -, -, rfl⟩ := HostState.removeStale_some hRemove
      show HostState.forwardOf _ containerId port = _
      rw [HostState.forwardOf_removeContainer, if_neg (Ne.symm hKeeps)]
      exact h
  | cleanup hTake =>
      obtain ⟨cstate, hContainer, -, hRegistration, rfl⟩ := HostState.takeContainer_some hTake
      show HostState.forwardOf _ containerId port = _
      rw [HostState.forwardOf_removeContainer, if_neg]
      · exact h
      · rintro rfl
        refine hKeeps ⟨rfl, ?_⟩
        unfold HostState.registrationOf
        rw [hContainer, ← hRegistration]
        rfl
  | registerInsert =>
      show HostState.forwardOf _ containerId port = _
      rw [HostState.forwardOf_insertContainer, if_neg (Ne.symm hKeeps)]
      exact h
  | forwardTake =>
      show HostState.forwardOf _ containerId port = _
      rw [HostState.forwardOf_removeForward, if_neg (apart hKeeps)]
      exact h
  | unforwardRemove =>
      show HostState.forwardOf _ containerId port = _
      rw [HostState.forwardOf_removeForward, if_neg (apart hKeeps)]
      exact h
  | unforwardGlobal => exact unforwardGlobal_kept hNext hKeeps h
  | @forwardInsert _ _ request _ _ bound listener new hPort hListener hInserted =>
      obtain ⟨cstate, hContainer, hState⟩ := HostState.insertForward_bound hInserted (hPort.trans hBound)
      show HostState.forwardOf _ containerId port = _
      rw [hState, HostState.forwardOf_setForward hContainer, if_neg (apart hKeeps)]
      exact h
  | forwardGone _ hState _ =>
      rw [hState]
      exact h
  | _ => exact h

/-- The host has inserted the forward of a process that is still served, and the
process has heard of it or hears of it with the message it reads next. -/
def Promised (port hostPort : UInt16) (handler : Handler) (c : ForwardClient) : Prop :=
  match c.position with
  | .awaitingForwardAck =>
      c.toClient = [] ∧
          (∃ registrationId, handler = .forwardBrowser cliContainerId registrationId port hostPort ∨
            handler = .forwardAck cliContainerId registrationId port (some hostPort)) ∨
        (c.toClient.head?.bind Message.forwardAnswer) = some (true, hostPort) ∧ ¬handler.Left
  | .forwarding reported | .replying reported _ => reported = hostPort ∧ ¬handler.Left
  | _ => False

/-- The host may have written anything but an answer. -/
def Unacked (messages : List Message) : Prop :=
  ∀ message ∈ messages, message.isAck = false

theorem Unacked.append {earlier later : List Message} (hEarlier : Unacked earlier) (hLater : Unacked later) :
    Unacked (earlier ++ later) := by
  intro message hMessage
  rcases List.mem_append.mp hMessage with hOld | hNew
  · exact hEarlier message hOld
  · exact hLater message hNew

theorem Unacked.head (h : Unacked c.toClient) : (c.toClient.head?.bind Message.forwardAnswer) = none := by
  cases hToClient : c.toClient with
  | nil => rfl
  | cons message rest =>
      have hOther := h message (by rw [hToClient]; exact List.mem_cons_self)
      exact Message.forwardAnswer_of_not_ack hOther

/-- A step of the process brings about no promise. -/
theorem Promised.client (hExchange : Exchange Unacked forwardArgs handler c)
    (hStep : c.step forwardArgs cliInput = some c') (h : Promised forwardArgs.port hostPort handler c') :
    Promised forwardArgs.port hostPort handler c := by
  obtain ⟨position, hPosition, hEffect⟩ := ForwardClient.step_some hStep
  unfold Promised
  unfold Exchange at hExchange
  cases hBefore : c.position with
  | connecting =>
      rw [hBefore] at hPosition
      rcases hEffect with ⟨message, rest, rfl, -, -⟩ | ⟨rfl, rfl⟩ | ⟨-, -, rfl⟩
      · cases hPosition
      · cases hPosition
      · cases cliInput with
        | connected ok =>
            cases hPosition
            cases ok <;> exact False.elim h
        | _ => cases hPosition
  | sendingRegister =>
      rw [hBefore] at hPosition
      rcases hEffect with ⟨message, rest, rfl, -, -⟩ | ⟨rfl, rfl⟩ | ⟨hReceive, hSent, rfl⟩
      · cases hPosition
      · cases hPosition
        exact False.elim h
      · rcases ForwardPosition.lost_of_step hPosition rfl hReceive hSent with rfl | rfl <;> exact False.elim h
  | awaitingRegisterAck =>
      rw [hBefore] at hPosition
      rcases hEffect with ⟨message, rest, rfl, -, rfl⟩ | ⟨rfl, rfl⟩ | ⟨hReceive, hSent, rfl⟩
      · cases hPosition
        cases message with
        | registerAck success => cases success <;> exact False.elim h
        | _ => exact False.elim h
      · cases hPosition
      · rcases ForwardPosition.lost_of_step hPosition rfl hReceive hSent with rfl | rfl <;> exact False.elim h
  | sendingForward =>
      rw [hBefore] at hPosition hExchange
      obtain ⟨-, hSettled, -, hToClient⟩ := hExchange
      rcases hEffect with ⟨message, rest, rfl, -, -⟩ | ⟨rfl, rfl⟩ | ⟨hReceive, hSent, rfl⟩
      · cases hPosition
      · cases hPosition
        -- the task has not read the Forward, and no answer has been written
        rcases h with ⟨-, registrationId, rfl | rfl⟩ | ⟨hHead, -⟩
        · exact hSettled.elim
        · exact hSettled.elim
        · exact absurd (hToClient.head.symm.trans hHead) nofun
      · rcases ForwardPosition.lost_of_step hPosition rfl hReceive hSent with rfl | rfl <;> exact False.elim h
  | awaitingForwardAck =>
      rw [hBefore] at hPosition
      rcases hEffect with ⟨message, rest, rfl, hTaken, rfl⟩ | ⟨rfl, rfl⟩ | ⟨hReceive, hSent, rfl⟩
      · cases hPosition
        refine .inr ?_
        rw [hTaken]
        cases message with
        | forwardAck answered success bound =>
            cases success with
            | true =>
                obtain ⟨rfl, hServed⟩ := h
                exact ⟨rfl, hServed⟩
            | false => exact False.elim h
        | _ => exact False.elim h
      · cases hPosition
      · rcases ForwardPosition.lost_of_step hPosition rfl hReceive hSent with rfl | rfl <;> exact False.elim h
  | forwarding reported =>
      rw [hBefore] at hPosition
      rcases hEffect with ⟨message, rest, rfl, -, rfl⟩ | ⟨rfl, rfl⟩ | ⟨hReceive, -, rfl⟩
      · cases hPosition
        cases message <;> exact h
      · cases hPosition
      · cases cliInput with
        | receive message => exact absurd rfl (hReceive message)
        | fail | ctrlC | kill =>
            cases hPosition
            exact False.elim h
        | _ => cases hPosition
  | replying reported reply =>
      rw [hBefore] at hPosition
      rcases hEffect with ⟨message, rest, rfl, -, -⟩ | ⟨rfl, rfl⟩ | ⟨-, -, rfl⟩
      · cases hPosition
      · cases hPosition
        exact h
      · cases cliInput with
        | sent ok =>
            cases hPosition
            exact h
        | kill =>
            cases hPosition
            exact False.elim h
        | _ => cases hPosition
  | stopping reported =>
      rw [hBefore] at hPosition
      rcases hEffect with ⟨message, rest, rfl, -, -⟩ | ⟨rfl, rfl⟩ | ⟨-, -, rfl⟩
      · cases hPosition
      · cases hPosition
        exact False.elim h
      · cases cliInput with
        | sent ok | kill =>
            cases hPosition
            exact False.elim h
        | _ => cases hPosition
  | refused error | finished | failed error | killed =>
      rw [hBefore] at hPosition
      cases hPosition

/-- Only the insertion of its forward and what follows it promise anything to a
process that waits for its answer. -/
theorem Handler.HandlesForward.promise (h : handler.HandlesForward port)
    (hNext : nextHandler cfg ctx handler input = some (after, next)) {registrationId : Nat}
    (hThen : next = .forwardBrowser cliContainerId registrationId port hostPort ∨
      next = .forwardAck cliContainerId registrationId port (some hostPort)) :
    handler = .forwardBrowser cliContainerId registrationId port hostPort ∨
      ∃ request replaced targetPort listener, request.port = port ∧
        handler = .forwardInsert cliContainerId registrationId request replaced targetPort hostPort listener ∧
          next = .forwardBrowser cliContainerId registrationId port hostPort := by
  have hForward : nextForward ctx handler input = some (after, next) := by
    cases handler <;> first | exact hNext | exact False.elim h
  cases nextForward_cases hForward with
  | @inserted _ _ request replaced targetPort _ listener =>
      rcases hThen with hThen | hThen <;> cases hThen
      exact .inr ⟨request, replaced, targetPort, listener, rfl, rfl, rfl⟩
  | mapped =>
      rcases hThen with hThen | hThen <;> cases hThen
      exact .inl rfl
  | _ => rcases hThen with hThen | hThen <;> cases hThen

/-- The task is about to insert the forward of a process. -/
def Handler.Inserts (port hostPort : UInt16) (handler next : Handler) : Prop :=
  ∃ registrationId request replaced targetPort listener, request.port = port ∧
    handler = .forwardInsert cliContainerId registrationId request replaced targetPort hostPort listener ∧
      next = .forwardBrowser cliContainerId registrationId port hostPort

theorem unread_toClient (h : c.unread input = some c') : c'.toClient = c.toClient := by
  rcases ForwardClient.unread_some h with ⟨message, -, -, hKept⟩ | ⟨-, rfl⟩
  · rw [hKept]
  · rfl

theorem writes_receive {message : Message} : handler.writes ctx (.receive message) = [] := by
  cases handler <;> rfl

/-- A step of the task promises only what has been promised or is inserted. -/
theorem Promised.host (hExchange : Exchange Unacked forwardArgs handler c) (hUnread : c.unread input = some c')
    (hNext : nextHandler cfg ctx handler input = some (after, next))
    (h : Promised forwardArgs.port hostPort next (c'.hear (handler.writes ctx input))) :
    Promised forwardArgs.port hostPort handler c ∨ handler.Inserts forwardArgs.port hostPort next := by
  have served : ¬next.Left → ¬handler.Left := fun hServed hLeft => hServed (hLeft.step hNext).1
  unfold Promised at h
  rw [show (c'.hear (handler.writes ctx input)).position = c'.position from rfl, unread_position hUnread,
    show (c'.hear (handler.writes ctx input)).toClient = c'.toClient ++ handler.writes ctx input from rfl,
    unread_toClient hUnread] at h
  unfold Exchange at hExchange
  cases hBefore : c.position with
  | awaitingForwardAck =>
      rw [hBefore] at h hExchange
      rcases h with ⟨hEmpty, registrationId, hThen⟩ | ⟨hHead, hServed⟩
      · obtain ⟨hEmpty, -⟩ := List.append_eq_nil_iff.mp hEmpty
        rcases hExchange with ⟨-, -, ⟨hSettled, hToHost⟩ | ⟨hForward, -⟩ | hLeft⟩ | ⟨_, _, before, _, -, -, -,
          hToClient, -⟩
        · rcases ForwardClient.unread_some hUnread with ⟨message, rfl, hTaken, -⟩ | ⟨hInput, -⟩
          · rw [hToHost] at hTaken
            obtain ⟨rfl, -⟩ := List.cons.inj hTaken
            obtain ⟨other, -, rfl⟩ := hSettled.receive hNext
            rcases hThen with hThen | hThen <;> cases hThen
          · have hNextSettled := (hSettled.step hInput hNext).1
            rcases hThen with rfl | rfl <;> exact hNextSettled.elim
        · rcases hForward.promise hNext hThen with hInserted | ⟨request, replaced, targetPort, listener, hInserts⟩
          · refine .inl ?_
            unfold Promised
            rw [hBefore]
            exact .inl ⟨hEmpty, registrationId, .inl hInserted⟩
          · exact .inr ⟨registrationId, request, replaced, targetPort, listener, hInserts⟩
        · have hNextLeft := (hLeft.step hNext).1
          rcases hThen with rfl | rfl <;> exact hNextLeft.elim
        · rw [hToClient] at hEmpty
          cases before <;> cases hEmpty
      · refine .inl ?_
        unfold Promised
        rw [hBefore]
        cases hToClient : c.toClient with
        | cons message rest =>
            rw [hToClient] at hHead
            exact .inr ⟨hHead, served hServed⟩
        | nil =>
            rw [hToClient, List.nil_append] at hHead
            have hAnswer : handler.writes ctx input ≠ [] := by
              intro hNothing
              rw [hNothing] at hHead
              cases hHead
            rcases hExchange with ⟨-, -, ⟨hSettled, -⟩ | ⟨hForward, -⟩ | hLeft⟩ | ⟨_, _, before, _, -, -, -,
              hSome, -⟩
            · rcases ForwardClient.unread_some hUnread with ⟨message, rfl, -⟩ | ⟨hInput, -⟩
              · exact absurd writes_receive hAnswer
              · obtain ⟨-, -, -, hMessages, -⟩ := hSettled.step hInput hNext
                cases hWrites : handler.writes ctx input with
                | nil => exact absurd hWrites hAnswer
                | cons message rest =>
                    have hOther := hMessages message (by rw [hWrites]; exact List.mem_cons_self)
                    rw [hWrites] at hHead
                    change message.forwardAnswer = _ at hHead
                    rw [Message.forwardAnswer_of_not_ack hOther] at hHead
                    cases hHead
            · rcases hForward.step hNext with ⟨-, hNothing⟩ | ⟨-, hNothing⟩ | ⟨-, registrationId, result, rfl, hWrites⟩
              · exact absurd hNothing hAnswer
              · exact absurd hNothing hAnswer
              · rw [hWrites] at hHead
                cases result with
                | none => cases hHead
                | some bound =>
                    cases hHead
                    exact .inl ⟨rfl, registrationId, .inr rfl⟩
            · exact absurd (hLeft.step hNext).2 hAnswer
            · rw [hToClient] at hSome
              cases before <;> cases hSome
  | forwarding reported | replying reported reply =>
      rw [hBefore] at h
      refine .inl ?_
      unfold Promised
      rw [hBefore]
      exact ⟨h.1, served h.2⟩
  | _ =>
      rw [hBefore] at h
      exact h.elim

/-- What is written unasked promises nothing. -/
theorem Promised.hear {messages : List Message} (hExchange : Exchange Unacked forwardArgs handler c)
    (hLoop : handler.inLoop = true) (hSettled : handler.Settled → next.Settled) (hMessages : Unacked messages)
    (h : Promised forwardArgs.port hostPort next (c.hear messages)) :
    Promised forwardArgs.port hostPort handler c := by
  have served : ¬handler.Left := Handler.not_left_of_inLoop hLoop
  unfold Promised at h ⊢
  rw [show (c.hear messages).position = c.position from rfl,
    show (c.hear messages).toClient = c.toClient ++ messages from rfl] at h
  cases hBefore : c.position with
  | awaitingForwardAck =>
      have hHere : handler.Settled := by
        rcases hExchange.settled_of_inLoop hLoop (by rw [hBefore]; exact ForwardPosition.noConfusion) with
          hHere | hOver
        · exact hHere
        · rw [hBefore] at hOver
          cases hOver
      rw [hBefore] at h
      rcases h with ⟨-, registrationId, hThen⟩ | ⟨hHead, -⟩
      · have hNext := hSettled hHere
        rcases hThen with rfl | rfl <;> exact hNext.elim
      · refine .inr ⟨?_, served⟩
        cases hToClient : c.toClient with
        | nil =>
            rw [hToClient, List.nil_append] at hHead
            cases messages with
            | nil => cases hHead
            | cons message rest =>
                change message.forwardAnswer = _ at hHead
                rw [Message.forwardAnswer_of_not_ack (hMessages message List.mem_cons_self)] at hHead
                cases hHead
        | cons message rest =>
            rw [hToClient] at hHead
            exact hHead
  | forwarding reported | replying reported reply =>
      rw [hBefore] at h
      exact ⟨h.1, served⟩
  | _ =>
      rw [hBefore] at h
      exact h.elim

theorem Promised.turn (hExchange : Exchange Unacked forwardArgs handler c)
    (hTurn : Turn cfg forwardArgs ctx handler c next c') (h : Promised forwardArgs.port hostPort next c') :
    Promised forwardArgs.port hostPort handler c ∨ handler.Inserts forwardArgs.port hostPort next := by
  cases hTurn with
  | rest => exact .inl h
  | apart hPosition =>
      unfold Promised at h
      cases hBefore : c.position <;> rw [hBefore] at h hPosition <;> first | exact h.elim | cases hPosition
  | connect hStep =>
      obtain ⟨position, hPosition, hEffect⟩ := ForwardClient.step_some hStep
      unfold Promised at h
      cases hBefore : c.position <;> rw [hBefore] at hPosition <;> cases hPosition
      rcases hEffect with ⟨_, _, hOther, -⟩ | ⟨hOther, -⟩ | ⟨-, -, rfl⟩
      · cases hOther
      · cases hOther
      · exact h.elim
  | client _ hStep => exact .inl (h.client hExchange hStep)
  | host _ hUnread hNext => exact h.host hExchange hUnread hNext
  | hear _ hLoop hSettled _ hMessages => exact .inl (h.hear hExchange hLoop hSettled hMessages)

theorem forwardOf_inserted (hNext : nextHandler cfg ctx handler input = some (after, next))
    (hBound : handler.WellBound) (h : handler.Inserts port hostPort next) :
    ∃ fstate, after.state.forwardOf cliContainerId port = some fstate ∧ fstate.hostPort = hostPort := by
  obtain ⟨registrationId, request, replaced, targetPort, listener, rfl, rfl, rfl⟩ := h
  cases nextHandler_hostStep hNext with
  | quiet hBefore _ _ => cases hBefore
  | advance hMove _ => cases hMove
  | @forwardInsert _ _ _ _ _ _ _ new hPort hListener hInserted =>
      obtain ⟨cstate, hContainer, hState⟩ := HostState.insertForward_bound hInserted (hPort.trans hBound)
      refine ⟨new, ?_, hPort⟩
      show HostState.forwardOf _ cliContainerId request.port = _
      rw [hState, HostState.forwardOf_setForward hContainer, if_pos ⟨rfl, rfl⟩]

theorem Handler.Inserts.ne (h : handler.Inserts port hostPort next) : next ≠ handler := by
  obtain ⟨_, _, _, _, _, -, rfl, rfl⟩ := h
  exact Handler.noConfusion

variable {d d' : Daemon} {act : Action}

theorem Daemon.step_forwardOf_kept (hStep : Daemon.step cfg d act = some d') (hRunning : d'.running = true)
    (hBound : ∀ task, (d.tasks task).WellBound)
    (hKeeps : ∀ task input, act = .task task input → ¬(d.tasks task).Withdraws d.ctx containerId port input)
    (h : d.ctx.state.forwardOf containerId port = some fstate) :
    d'.ctx.state.forwardOf containerId port = some fstate := by
  cases (Daemon.step_cases hStep).2 with
  | @task task input after next hNext _ => exact forwardOf_kept hNext (hBound task) (hKeeps task input rfl) h
  | clientConnects _ hState _ =>
      rw [hState]
      exact h
  | stop => cases hRunning

theorem Daemon.step_forwardOf_inserted (hStep : Daemon.step cfg d act = some d')
    (hBound : ∀ task, (d.tasks task).WellBound) (h : (d.tasks id).Inserts port hostPort (d'.tasks id)) :
    ∃ fstate, d'.ctx.state.forwardOf cliContainerId port = some fstate ∧ fstate.hostPort = hostPort := by
  cases (Daemon.step_cases hStep).2 with
  | @task task input after next hNext _ =>
      by_cases hHere : id = task
      · subst hHere
        simp only [Function.update_self] at h
        exact forwardOf_inserted hNext (hBound id) h
      · simp only [Function.update_of_ne hHere] at h
        exact absurd rfl h.ne
  | clientConnects => exact absurd rfl h.ne
  | stop => exact absurd rfl h.ne

/-- The task may withdraw a forward. -/
def Handler.mayWithdraw : Handler → Bool
  | .registerRemove .. | .registerInsert .. | .cleanup .. | .forwardTake .. | .forwardInsert ..
  | .unforwardRemove .. | .unforwardGlobal .. => true
  | _ => false

/-- The task has inserted a forward and not answered yet. -/
def Handler.hasInserted : Handler → Bool
  | .forwardBrowser .. | .forwardAck .. => true
  | _ => false

/-- The host port that a process in its loop has reported. -/
def ForwardPosition.holding : ForwardPosition → Option UInt16
  | .forwarding hostPort | .replying hostPort _ => some hostPort
  | _ => none

namespace Fleet

/-- The process has received its ForwardAck and is still connected: neither side
has left its loop, and the daemon runs. -/
def Connected (f : Fleet) (id : Nat) (hostPort : UInt16) : Prop :=
  f.daemon.running = true ∧ (f.clients id).position.holding = some hostPort ∧ ¬(f.daemon.tasks id).Left

/-- Every connected process has its forward: it is in the table with the host
port that was acknowledged, and its listener is bound to that port. -/
def Coexists (args : Nat → ForwardArgs) (f : Fleet) : Prop :=
  ∀ id hostPort, f.Connected id hostPort →
    ∃ fstate, f.daemon.ctx.state.forwardOf cliContainerId (args id).port = some fstate ∧
      fstate.hostPort = hostPort ∧
        f.daemon.ctx.listenerPorts fstate.listener = some (hostPort, (args id).port)

/-- The forward of the process has been inserted, and the process is connected or
will be with the message it reads next. -/
def Relies (args : Nat → ForwardArgs) (f : Fleet) (id : Nat) (hostPort : UInt16) : Prop :=
  Promised (args id).port hostPort (f.daemon.tasks id) (f.clients id)

/-- No step withdraws a forward that a process relies on: no connection registers
as `cli-manual` or is cleaned up as the current one, and none takes out or
replaces a forward of the same port. -/
def Considerate (args : Nat → ForwardArgs) (f : Fleet) (action : FleetAction) : Prop :=
  ∀ task input, action.daemonAction = some (.task task input) →
    ∀ id hostPort, f.Relies args id hostPort →
      ¬(f.daemon.tasks task).Withdraws f.daemon.ctx cliContainerId (args id).port input

/-- What the coexistence of all processes rests on. -/
structure Upheld (args : Nat → ForwardArgs) (f : Fleet) : Prop where
  queues : f.daemon.QueuesSockets
  bound : ∀ task, (f.daemon.tasks task).WellBound
  listeners : f.daemon.ListenersSound
  exchange : ∀ id, Exchange Unacked (args id) (f.daemon.tasks id) (f.clients id)
  kept : f.daemon.running = true → ∀ id hostPort, f.Relies args id hostPort →
    ∃ fstate, f.daemon.ctx.state.forwardOf cliContainerId (args id).port = some fstate ∧
      fstate.hostPort = hostPort

theorem Upheld.start (cfg : HostConfig) (args : Nat → ForwardArgs) : Upheld args (Fleet.start cfg) where
  queues := Daemon.start_queuesSockets cfg
  bound := Daemon.start_wellBound
  listeners := Daemon.reachable_listenersSound (.refl _)
  exchange := fun _ => ⟨rfl, rfl, fun _ hNone => (nomatch hNone)⟩
  kept := fun _ _ _ hRelies => hRelies.elim

/-- An admitted step keeps every forward that is relied on. -/
theorem Upheld.step_kept (h : Upheld args f) (hGuard : f.Considerate args action)
    (hStep : f.step cfg args action = some f') (hRunning : f'.daemon.running = true)
    (hRelies : f'.Relies args id hostPort) :
    ∃ fstate, f'.daemon.ctx.state.forwardOf cliContainerId (args id).port = some fstate ∧
      fstate.hostPort = hostPort := by
  have hBefore := Promised.turn (h.exchange id) (step_turn h.queues hStep id) hRelies
  rcases step_daemon hStep with hSame | ⟨act, hAct, hDaemon⟩
  · rw [hSame] at hBefore hRunning ⊢
    rcases hBefore with hBefore | hInserts
    · exact h.kept hRunning id hostPort hBefore
    · exact absurd rfl hInserts.ne
  · rcases hBefore with hBefore | hInserts
    · obtain ⟨fstate, hForward, hPort⟩ := h.kept (Daemon.step_cases hDaemon).1 id hostPort hBefore
      refine ⟨fstate, Daemon.step_forwardOf_kept hDaemon hRunning h.bound ?_ hForward, hPort⟩
      rintro task input rfl
      exact hGuard task input hAct id hostPort hBefore
    · exact Daemon.step_forwardOf_inserted hDaemon h.bound hInserts

theorem Upheld.step (h : Upheld args f) (hGuard : f.Considerate args action)
    (hStep : f.step cfg args action = some f') : Upheld args f' where
  queues := step_queuesSockets hStep h.queues
  bound := by
    rcases step_daemon hStep with hSame | ⟨_, -, hDaemon⟩
    · rw [hSame]
      exact h.bound
    · exact Daemon.step_wellBound hDaemon h.bound
  listeners := by
    rcases step_daemon hStep with hSame | ⟨_, -, hDaemon⟩
    · rw [hSame]
      exact h.listeners
    · exact Daemon.step_listenersSound h.bound h.listeners hDaemon
  exchange := fun id => (h.exchange id).turn (fun _ hNone => (nomatch hNone)) (fun _ hUnacked => hUnacked)
    (fun _ _ _ _ _ hMessages _ hEarlier => hEarlier.append hMessages) (step_turn h.queues hStep id)
  kept := fun hRunning _ _ hRelies => h.step_kept hGuard hStep hRunning hRelies

theorem Connected.relies (h : f.Connected id hostPort) : f.Relies args id hostPort := by
  obtain ⟨-, hHolding, hServed⟩ := h
  unfold Relies Promised
  cases hPosition : (f.clients id).position <;> rw [hPosition] at hHolding <;> cases hHolding <;>
    exact ⟨rfl, hServed⟩

theorem Upheld.coexists (h : Upheld args f) : Coexists args f := by
  intro id hostPort hConnected
  obtain ⟨fstate, hForward, hPort⟩ := h.kept hConnected.1 id hostPort hConnected.relies
  have hListener := (h.listeners.forwards cliContainerId (args id).port fstate hForward).1
  rw [hPort] at hListener
  exact ⟨fstate, hForward, hPort, hListener⟩

/-- Manual forwards coexist in every run in which no step withdraws a forward
that a process relies on. -/
theorem manualForwards_coexist {trace : List (Fleet × FleetAction)} {finish : Fleet}
    (run : Run (Fleet.step cfg args) (Fleet.start cfg) trace finish)
    (hGuard : Guarded (fun f action => f.Considerate args action) trace) :
    Throughout (Coexists args) trace finish := by
  have hUpheld := run.throughout hGuard (Upheld.start cfg args)
    (fun middle action after h hAllowed hStep => h.step hAllowed hStep)
  exact ⟨fun entry hEntry => (hUpheld.1 entry hEntry).coexists, hUpheld.2.coexists⟩

/-- Two processes and their ports. -/
def twoArgs (id : Nat) : ForwardArgs :=
  if id = 2 then { webArgs with port := 9090 } else webArgs

/-- A process registers, forwards its port and prints that it does. -/
def manualSchedule (id : Nat) (hostPort : UInt16) : List FleetAction :=
  registerSchedule id (twoArgs id) [] ++ forwardSchedule id (twoArgs id) hostPort ++
    [.client id (.receive (.forwardAck (twoArgs id).port true hostPort))]

/-- A process is stopped by Ctrl-C and its task ends. -/
def stopSchedule (id : Nat) : List FleetAction :=
  [.client id .ctrlC, .client id (.sent true)] ++ [.receive (.unforward (twoArgs id).port), .proceed, .proceed,
    .drained [], .proceed, .fail, .proceed, .proceed, .drained [], .proceed].map (.host id)

/-- The second process connects and its Register takes out the stale state of
its container id, which is the registration of the first. -/
def rivalSchedule : List FleetAction :=
  manualSchedule 1 8080 ++ [.connect 2, .client 2 (.sent true),
    .host 2 (.receive (.register cliContainerId cliHostname "")), .host 2 .proceed]

theorem manualForwards_clash :
    ∃ trace finish, trace.map Prod.snd = rivalSchedule ∧
      Run (Fleet.step .basic twoArgs) (Fleet.start .basic) trace finish ∧ finish.Connected 1 8080 ∧
      finish.daemon.ctx.state.forwardOf cliContainerId 8080 = none ∧
      ¬Throughout (Coexists twoArgs) trace finish := by
  have hRun : (exec (Fleet.step .basic twoArgs) (Fleet.start .basic) rivalSchedule).any fun f =>
      f.daemon.running && (f.clients 1).position.holding == some 8080 &&
        (f.daemon.tasks 1).inLoop &&
        f.daemon.ctx.state.forwardOf cliContainerId 8080 == none := by
    decide +kernel
  obtain ⟨finish, hExec, hState⟩ := (Option.any_eq_true _ _).mp hRun
  simp only [Bool.and_eq_true, beq_iff_eq] at hState
  obtain ⟨⟨⟨hRunning, hHolding⟩, hServing⟩, hGone⟩ := hState
  obtain ⟨trace, hActions, run⟩ := run_of_exec hExec
  have hConnected : finish.Connected 1 8080 := ⟨hRunning, hHolding, Handler.not_left_of_inLoop hServing⟩
  refine ⟨trace, finish, hActions, run, hConnected, hGone, fun hCoexists => ?_⟩
  obtain ⟨fstate, hForward, -⟩ := hCoexists.2 1 8080 hConnected
  rw [show (twoArgs 1).port = 8080 from rfl, hGone] at hForward
  cases hForward

/-- The process may rely on a forward. -/
def mayRely (f : Fleet) (id : Nat) : Bool :=
  match (f.clients id).position with
  | .awaitingForwardAck => !(f.clients id).toClient.isEmpty || (f.daemon.tasks id).hasInserted
  | .forwarding _ | .replying .. => true
  | _ => false

/-- A step about the first two processes that may withdraw something only while
neither relies on a forward. -/
def isOrderly (f : Fleet) (action : FleetAction) : Bool :=
  match action.process? with
  | none => false
  | some id => (id == 1 || id == 2) && (!(f.daemon.tasks id).mayWithdraw || !f.mayRely 1 && !f.mayRely 2)

theorem Relies.mayRely (h : f.Relies args id hostPort) : f.mayRely id = true := by
  unfold Relies Promised at h
  unfold Fleet.mayRely
  cases hPosition : (f.clients id).position with
  | awaitingForwardAck =>
      rw [hPosition] at h
      rcases h with ⟨-, registrationId, hTask | hTask⟩ | ⟨hHead, -⟩
      · rw [hTask]
        exact Bool.or_true _
      · rw [hTask]
        exact Bool.or_true _
      · cases hToClient : (f.clients id).toClient with
        | nil =>
            rw [hToClient] at hHead
            cases hHead
        | cons message rest => rfl
  | forwarding reported | replying reported message => rfl
  | _ =>
      rw [hPosition] at h
      exact h.elim

theorem considerate_of_isOrderly (hOrderly : f.isOrderly action = true)
    (hOthers : ∀ id, id ≠ 1 → id ≠ 2 → f.clients id = .start) : f.Considerate args action := by
  intro task input hAct id hostPort hRelies hWithdraws
  unfold isOrderly at hOrderly
  have hProcess : action.process? = some task := by
    cases action with
    | other => cases hOrderly
    | client | heartbeat => cases hAct
    | connect | host | replay | flush =>
        cases hAct
        rfl
  rw [hProcess] at hOrderly
  simp only [Bool.and_eq_true, Bool.or_eq_true, Bool.not_eq_true'] at hOrderly
  have hWithdraw : (f.daemon.tasks task).mayWithdraw = true := by
    cases hTask : f.daemon.tasks task <;> rw [hTask] at hWithdraws <;> first
      | rfl
      | exact False.elim hWithdraws
  have hFree : f.mayRely 1 = false ∧ f.mayRely 2 = false := by
    rcases hOrderly.2 with hNot | hFree
    · rw [hWithdraw] at hNot
      cases hNot
    · exact hFree
  have hMay := hRelies.mayRely
  by_cases hFirst : id = 1
  · rw [hFirst, hFree.1] at hMay
    cases hMay
  · by_cases hSecond : id = 2
    · rw [hSecond, hFree.2] at hMay
      cases hMay
    · unfold Relies Promised at hRelies
      rw [hOthers id hFirst hSecond] at hRelies
      exact hRelies

theorem manualForwards_coexist_inTurn :
    ∃ trace finish, trace.map Prod.snd = manualSchedule 1 8080 ++ stopSchedule 1 ++ manualSchedule 2 9090 ∧
      Run (Fleet.step .basic twoArgs) (Fleet.start .basic) trace finish ∧
      Guarded (fun f action => f.Considerate twoArgs action) trace ∧ finish.Connected 2 9090 ∧
      Throughout (Coexists twoArgs) trace finish := by
  have hRun : (execWhile (Fleet.step .basic twoArgs) isOrderly (Fleet.start .basic)
      (manualSchedule 1 8080 ++ stopSchedule 1 ++ manualSchedule 2 9090)).any fun f =>
        f.daemon.running && (f.clients 2).position.holding == some 9090 && (f.daemon.tasks 2).inLoop := by
    decide +kernel
  obtain ⟨finish, hExec, hState⟩ := (Option.any_eq_true _ _).mp hRun
  simp only [Bool.and_eq_true, beq_iff_eq] at hState
  obtain ⟨⟨hRunning, hHolding⟩, hServing⟩ := hState
  obtain ⟨trace, hActions, run, hOrderly⟩ := run_of_execWhile hExec
  have hOthers : Throughout (fun f : Fleet => ∀ id, id ≠ 1 → id ≠ 2 → f.clients id = .start) trace finish := by
    apply run.throughout hOrderly
    · exact fun _ _ _ => rfl
    · intro f action f' hStart hAllowed hStep id hFirst hSecond
      rw [step_clients hStep]
      · exact hStart id hFirst hSecond
      · intro hProcess
        unfold isOrderly at hAllowed
        rw [hProcess] at hAllowed
        simp [hFirst, hSecond] at hAllowed
  have hGuard : Guarded (fun f action => f.Considerate twoArgs action) trace :=
    fun entry hEntry => considerate_of_isOrderly (hOrderly entry hEntry) (hOthers.1 entry hEntry)
  exact ⟨trace, finish, hActions, run, hGuard, ⟨hRunning, hHolding, Handler.not_left_of_inLoop hServing⟩,
    manualForwards_coexist run hGuard⟩

end Fleet
end DevcontainerBridge
