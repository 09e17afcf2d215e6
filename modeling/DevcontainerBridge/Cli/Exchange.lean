import DevcontainerBridge.Cli.Forward

/-! The conversation of a forward command with its task. The process sends one
Register and one Forward and waits for an answer each time; the host may write
other messages in between. -/
namespace DevcontainerBridge

open Table Transition

/-- RegisterAck and ForwardAck. -/
def Message.isAck : Message → Bool
  | .registerAck _ | .forwardAck .. => true
  | _ => false

/-- The messages that the loop of `run_forward` sends. -/
def Message.isIdleReply : Message → Bool
  | .pong | .connectFailed .. => true
  | _ => false

/-- The task handles the Register of a process and has not answered it. -/
def Handler.Enrolls : Handler → Prop
  | .registerRemove containerId _ | .registerBrowser containerId _ _ | .registerDrain containerId _ _
  | .registerAck containerId _ => containerId = cliContainerId
  | .replying message => message = .registerAck false
  | .finished => True
  | _ => False

/-- The task has left the message loop of its registration. -/
def Handler.Left : Handler → Prop
  | .cleanup containerId _ => containerId = cliContainerId
  | .cleanupBrowser _ | .cleanupDrain _ | .idleCheck | .finished => True
  | _ => False

/-- The task is in its message loop and handles neither Forward nor Unforward,
or it has left the loop. -/
def Handler.Attending : Handler → Prop
  | .serving containerId _ | .cancelConnect containerId _ _ => containerId = cliContainerId
  | handler => handler.Left

/-- The task has answered the Register and handles no Forward. -/
def Handler.Settled : Handler → Prop
  | .registerEpoch containerId _ | .registerInsert containerId _ _ | .registerReplay containerId _ =>
      containerId = cliContainerId
  | handler => handler.Attending

/-- The task handles the Forward of a process. -/
def Handler.HandlesForward (port : UInt16) : Handler → Prop
  | .forwardCheck containerId _ request | .forwardTake containerId _ request
  | .forwardDrain containerId _ request _ | .forwardReserve containerId _ request _
  | .forwardBind containerId _ request _ _ | .forwardRelease containerId _ request _ _
  | .forwardInsert containerId _ request _ _ _ _ => containerId = cliContainerId ∧ request.port = port
  | .forwardBrowser containerId _ answered _ | .forwardAck containerId _ answered _ =>
      containerId = cliContainerId ∧ answered = port
  | _ => False

/-- The positions from which a task writes unasked. -/
def Handler.inLoop : Handler → Bool
  | .registerReplay .. | .serving .. => true
  | _ => false

variable {cfg : HostConfig} {ctx after : DaemonContext} {handler next : Handler} {input : Input}
  {port : UInt16}

theorem Handler.Left.attending (h : handler.Left) : handler.Attending := by
  cases handler <;> first | exact h | exact False.elim h

theorem Handler.not_left_of_inLoop (h : handler.inLoop = true) : ¬handler.Left := by
  intro hLeft
  cases handler <;> first | exact False.elim hLeft | cases h

theorem Handler.Attending.settled (h : handler.Attending) : handler.Settled := by
  cases handler <;> first | exact h | exact False.elim h

theorem Handler.Enrolls.step (h : handler.Enrolls) (hStep : nextHandler cfg ctx handler input = some (after, next)) :
    (input = .sent true ∧ next.Settled ∧ ∃ success, handler.writes ctx input = [.registerAck success]) ∨
      next.Enrolls ∧ handler.writes ctx input = [] := by
  have hRegister : nextRegister cfg ctx handler input = some (after, next) := by
    cases handler <;> first | exact hStep | exact absurd h (by simp [Enrolls])
  cases nextRegister_cases hRegister with
  | replied message ok =>
      obtain rfl : message = .registerAck false := h
      cases ok with
      | true => exact .inl ⟨rfl, trivial, false, rfl⟩
      | false => exact .inr ⟨trivial, rfl⟩
  | refused => exact .inr ⟨rfl, rfl⟩
  | unknown => exact .inr ⟨h, rfl⟩
  | stale => exact .inr ⟨h, rfl⟩
  | unmapped => exact .inr ⟨h, rfl⟩
  | drained => exact .inr ⟨h, rfl⟩
  | drainedOne => exact .inr ⟨h, rfl⟩
  | acknowledged => exact .inl ⟨rfl, h, true, rfl⟩
  | unacknowledged => exact .inr ⟨trivial, rfl⟩
  | _ => exact absurd h (by simp [Enrolls])

/-- Leaving the message loop goes on to its end. -/
theorem Handler.Left.step (h : handler.Left) (hStep : nextHandler cfg ctx handler input = some (after, next)) :
    next.Left ∧ handler.writes ctx input = [] := by
  have hServing : nextServing cfg ctx handler input = some (after, next) := by
    cases handler <;> first | exact hStep | exact absurd h (by simp [Left])
  cases nextServing_cases hServing with
  | superseded => exact ⟨trivial, rfl⟩
  | taken => exact ⟨trivial, rfl⟩
  | unmapped => exact ⟨trivial, rfl⟩
  | drained => exact ⟨trivial, rfl⟩
  | drainedOne => exact ⟨trivial, rfl⟩
  | idle => exact ⟨trivial, rfl⟩
  | busy => exact ⟨trivial, rfl⟩
  | _ => exact absurd h (by simp [Left])

/-- Without reading a request a settled task writes nothing but a
ConnectRequest. -/
theorem Handler.Settled.step (h : handler.Settled) (hInput : ∀ message, input ≠ .receive message)
    (hStep : nextHandler cfg ctx handler input = some (after, next)) :
    next.Settled ∧ (handler.Attending → next.Attending) ∧ (handler.Left → next.Left) ∧
      (∀ message ∈ handler.writes ctx input, message.isAck = false) ∧
      (handler.writes ctx input ≠ [] → handler.inLoop = true) := by
  have quiet : handler.writes ctx input = [] → (∀ message ∈ handler.writes ctx input, message.isAck = false) ∧
      (handler.writes ctx input ≠ [] → handler.inLoop = true) := by
    intro hNothing
    rw [hNothing]
    exact ⟨fun _ hNone => (nomatch hNone), fun hSome => absurd rfl hSome⟩
  by_cases hLeft : handler.Left
  · obtain ⟨hNext, hNothing⟩ := hLeft.step hStep
    exact ⟨hNext.attending.settled, fun _ => hNext.attending, fun _ => hNext, quiet hNothing⟩
  have hTask : nextRegister cfg ctx handler input = some (after, next) ∨
      nextServing cfg ctx handler input = some (after, next) := by
    cases handler <;> first | exact .inl hStep | exact .inr hStep | exact absurd h hLeft
  rcases hTask with hRegister | hServing
  · cases nextRegister_cases hRegister with
    | numbered => exact ⟨h, fun hThere => hThere.elim, fun hLeft => hLeft.elim, quiet rfl⟩
    | inserted => exact ⟨h, fun hThere => hThere.elim, fun hLeft => hLeft.elim, quiet rfl⟩
    | replayed => exact ⟨h, fun _ => h, fun hLeft => hLeft.elim, quiet rfl⟩
    | _ => exact absurd h hLeft
  · cases nextServing_cases hServing with
    | dispatched message => exact absurd rfl (hInput message)
    | closed => exact ⟨h, fun _ => h, fun hLeft => hLeft.elim, quiet rfl⟩
    | requestFlushed =>
        refine ⟨h, fun _ => h, fun hLeft => hLeft.elim, ?_, fun _ => rfl⟩
        intro message hMessage
        obtain ⟨request, -, rfl⟩ := List.mem_map.mp hMessage
        rfl
    | requestLost => exact ⟨h, fun _ => h, fun hLeft => hLeft.elim, quiet rfl⟩
    | messageFlushed => exact ⟨h, fun _ => h, fun hLeft => hLeft.elim, quiet rfl⟩
    | connectCancelled => exact ⟨h, fun _ => h, fun hLeft => hLeft.elim, quiet rfl⟩
    | _ => exact absurd h hLeft

/-- A settled task reads in its message loop only. -/
theorem Handler.Settled.receive {message : Message} (h : handler.Settled)
    (hStep : nextHandler cfg ctx handler (.receive message) = some (after, next)) :
    ∃ registrationId, handler = .serving cliContainerId registrationId ∧
      next = dispatchContainer cfg cliContainerId registrationId message := by
  cases handler with
  | serving containerId registrationId =>
      obtain rfl : containerId = cliContainerId := h
      cases hStep
      exact ⟨registrationId, rfl, rfl⟩
  | registerEpoch | registerInsert | registerReplay | cancelConnect | cleanup | cleanupBrowser
  | cleanupDrain | idleCheck | finished => cases hStep
  | _ => exact False.elim h

theorem dispatchContainer_idleReply {message : Message} (hIdle : message.isIdleReply = true)
    (registrationId : Nat) : (dispatchContainer cfg cliContainerId registrationId message).Attending := by
  cases message with
  | pong => rfl
  | connectFailed connId error =>
      unfold dispatchContainer
      dsimp only
      split_ifs <;> rfl
  | _ => cases hIdle

/-- The handling of a Forward ends with its ForwardAck or with the loop. -/
theorem Handler.HandlesForward.step (h : handler.HandlesForward port)
    (hStep : nextHandler cfg ctx handler input = some (after, next)) :
    (next.HandlesForward port ∧ handler.writes ctx input = []) ∨ (next.Left ∧ handler.writes ctx input = []) ∨
      (next.Attending ∧ ∃ registrationId result, handler = .forwardAck cliContainerId registrationId port result ∧
        handler.writes ctx input = [.forwardAck port result.isSome (result.getD 0)]) := by
  have hForward : nextForward ctx handler input = some (after, next) := by
    cases handler <;> first | exact hStep | exact absurd h (by simp [HandlesForward])
  cases nextForward_cases hForward with
  | disowned => exact .inr (.inl ⟨h.1, rfl⟩)
  | limited => exact .inl ⟨h, rfl⟩
  | noPort => exact .inl ⟨h, rfl⟩
  | @acknowledged containerId registrationId answered result =>
      obtain ⟨rfl, rfl⟩ := h
      exact .inr (.inr ⟨rfl, registrationId, result, rfl, rfl⟩)
  | unacknowledged => exact .inr (.inl ⟨h.1, rfl⟩)
  | _ => exact .inl ⟨h, rfl⟩

/-- The messages of the queues to registered connections tell about sockets. -/
structure Daemon.QueuesSockets (d : Daemon) : Prop where
  queued : ∀ registrationId, ∀ message ∈ d.ctx.proxy.outboundMessages registrationId, message.isAck = false
  sending : ∀ id, ∀ send ∈ (d.tasks id).sends, send.1.isAck = false

theorem FeedEffect.queuesSockets (h : FeedEffect ctx handler input after next)
    (hQueued : ∀ registrationId, ∀ message ∈ ctx.proxy.outboundMessages registrationId, message.isAck = false)
    (hSending : ∀ send ∈ handler.sends, send.1.isAck = false) :
    (∀ registrationId, ∀ message ∈ after.proxy.outboundMessages registrationId, message.isAck = false) ∧
      ∀ send ∈ next.sends, send.1.isAck = false := by
  cases h with
  | still _ hQueues _ hSends _ _ _ =>
      rw [hQueues, hSends.2]
      exact ⟨hQueued, fun _ hNone => (nomatch hNone)⟩
  | epoch _ hNext hAfter =>
      subst hNext hAfter
      exact ⟨hQueued, fun _ hNone => (nomatch hNone)⟩
  | insert _ hNext hAfter =>
      subst hNext hAfter
      exact ⟨hQueued, fun _ hNone => (nomatch hNone)⟩
  | replay _ _ hNext hAfter =>
      subst hNext hAfter
      exact ⟨hQueued, fun _ hNone => (nomatch hNone)⟩
  | @flush containerId other first rest _ hBefore hNext hQueue hAfter =>
      subst hNext hAfter
      refine ⟨fun registrationId message hMessage => ?_, hSending⟩
      dsimp only at hMessage
      by_cases hHere : registrationId = other
      · subst hHere
        rw [Function.update_self] at hMessage
        exact hQueued registrationId message (by rw [hQueue]; exact List.mem_cons_of_mem first hMessage)
      · rw [Function.update_of_ne hHere] at hMessage
        exact hQueued registrationId message hMessage
  | scan _ _ _ hNext hAfter =>
      subst hNext hAfter
      refine ⟨hQueued, fun send hSend => ?_⟩
      rcases List.mem_append.mp hSend with hNew | hRemoved
      · obtain ⟨info, -, hInfo⟩ := List.mem_flatMap.mp hNew
        obtain ⟨tx, -, rfl⟩ := List.mem_map.mp hInfo
        rfl
      · obtain ⟨info, -, hInfo⟩ := List.mem_flatMap.mp hRemoved
        obtain ⟨tx, -, rfl⟩ := List.mem_map.mp hInfo
        rfl
  | @broadcast message tx rest _ hBefore hNext hAfter =>
      subst hBefore hNext hAfter
      refine ⟨fun registrationId other hOther => ?_, fun send hSend => hSending send (List.mem_cons_of_mem _ hSend)⟩
      unfold ProxyState.tryBroadcast at hOther
      dsimp only at hOther
      split_ifs at hOther
      · dsimp only at hOther
        by_cases hHere : registrationId = tx
        · subst hHere
          rw [Function.update_self] at hOther
          rcases List.mem_append.mp hOther with hOld | hNew
          · exact hQueued _ other hOld
          · rw [List.mem_singleton.mp hNew]
            exact hSending (message, _) List.mem_cons_self
        · rw [Function.update_of_ne hHere] at hOther
          exact hQueued _ other hOther
      · exact hQueued _ other hOther

theorem Daemon.step_queuesSockets {d d' : Daemon} {action : Action} (hStep : Daemon.step cfg d action = some d')
    (h : d.QueuesSockets) : d'.QueuesSockets := by
  cases (Daemon.step_cases hStep).2 with
  | clientConnects hAccept _ _ =>
      obtain ⟨-, -, hQueues⟩ := acceptClient_feed hAccept
      exact ⟨by rw [hQueues]; exact h.queued, h.sending⟩
  | stop => exact ⟨h.queued, h.sending⟩
  | @task id input after next hNext _ =>
      obtain ⟨hQueued, hSending⟩ := (nextHandler_feed hNext).queuesSockets h.queued (h.sending id)
      refine ⟨hQueued, fun other send hSend => ?_⟩
      by_cases hOther : other = id
      · subst hOther
        simp only [Function.update_self] at hSend
        exact hSending send hSend
      · simp only [Function.update_of_ne hOther] at hSend
        exact h.sending other send hSend

theorem Daemon.start_queuesSockets (cfg : HostConfig) : (Daemon.start cfg).QueuesSockets := by
  refine ⟨fun _ _ hNone => (nomatch hNone), fun id send hSend => ?_⟩
  unfold Daemon.start at hSend
  dsimp only at hSend
  split_ifs at hSend <;> cases hSend

/-- What one step of the fleet is for one process and the task that serves it. -/
inductive Turn (cfg : HostConfig) (args : ForwardArgs) (ctx : DaemonContext) (handler : Handler)
    (c : ForwardClient) : Handler → ForwardClient → Prop where
  /-- others act -/
  | rest : Turn cfg args ctx handler c handler c
  /-- the process is not connected and the task acts for somebody else -/
  | apart {next : Handler} (hPosition : c.position.isConnected = false) : Turn cfg args ctx handler c next c
  | connect {c' : ForwardClient} (hStep : c.step args (.connected true) = some c') :
      Turn cfg args ctx handler c .awaitFirst c'
  | client {input : CliInput} {c' : ForwardClient} (hInput : input ≠ .connected true)
      (hStep : c.step args input = some c') : Turn cfg args ctx handler c handler c'
  | host {input : Input} {after : DaemonContext} {next : Handler} {c' : ForwardClient}
      (hPosition : c.position.isConnected = true) (hUnread : c.unread input = some c')
      (hNext : nextHandler cfg ctx handler input = some (after, next)) :
      Turn cfg args ctx handler c next (c'.hear (handler.writes ctx input))
  /-- the replay, a queued message or a heartbeat -/
  | hear {next : Handler} {messages : List Message} (hPosition : c.position.isConnected = true)
      (hLoop : handler.inLoop = true) (hSettled : handler.Settled → next.Settled)
      (hAttending : handler.Attending → next.Attending) (hMessages : ∀ message ∈ messages, message.isAck = false) :
      Turn cfg args ctx handler c next (c.hear messages)

variable {args : Nat → ForwardArgs} {f f' : Fleet} {action : FleetAction}

theorem isAck_replayMessages {order : List (Σ _ : String, SocketInfo)} {sent : String → Bool} :
    ∀ message ∈ replayMessages order sent, message.isAck = false := by
  intro message hMessage
  obtain ⟨entry, -, rfl⟩ := List.mem_map.mp hMessage
  rfl

/-- The task that a step of the daemon belongs to is the only one that moves. -/
theorem Daemon.step_task {d d' : Daemon} {id : Nat} {input : Input} (h : Daemon.step cfg d (.task id input) = some d') :
    ∃ after next, nextHandler cfg d.ctx (d.tasks id) input = some (after, next) ∧ d' = d.withTask id after next := by
  cases (Daemon.step_cases h).2 with
  | @task _ _ after next hNext _ => exact ⟨after, next, hNext, rfl⟩

/-- The messages that a task takes from its queue leave it in its loop. -/
theorem nextServing_flushMessage {containerId : String} {registrationId : Nat}
    (h : nextHandler cfg ctx (.serving containerId registrationId) .flushMessage = some (after, next)) :
    next = .serving containerId registrationId := by
  have hServing : nextServing cfg ctx (.serving containerId registrationId) .flushMessage = some (after, next) := h
  cases nextServing_cases hServing with
  | messageFlushed => rfl

theorem Fleet.step_turn (hQueues : f.daemon.QueuesSockets) (hStep : f.step cfg args action = some f') (id : Nat) :
    Turn cfg (args id) f.daemon.ctx (f.daemon.tasks id) (f.clients id) (f'.daemon.tasks id) (f'.clients id) := by
  cases Fleet.step_cases hStep with
  | @connect other c daemon hIdle hClient hTask =>
      obtain ⟨after, next, hNext, rfl⟩ := Daemon.step_task hTask
      by_cases hHere : id = other
      · subst hHere
        rw [hIdle] at hNext
        cases hNext
        simp only [Fleet.setClient, Daemon.withTask, Function.update_self]
        exact .connect hClient
      · simp only [Fleet.setClient, Daemon.withTask, Function.update_of_ne hHere]
        exact .rest
  | @client other input c hInput hClient =>
      by_cases hHere : id = other
      · subst hHere
        simp only [Fleet.setClient, Function.update_self]
        exact .client hInput hClient
      · simp only [Fleet.setClient, Function.update_of_ne hHere]
        exact .rest
  | @host other input c daemon hServes hUnread hTask =>
      obtain ⟨after, next, hNext, rfl⟩ := Daemon.step_task hTask
      by_cases hHere : id = other
      · subst hHere
        simp only [Fleet.setClient, Daemon.withTask, Function.update_self]
        exact .host hServes hUnread hNext
      · simp only [Fleet.setClient, Daemon.withTask, Function.update_of_ne hHere]
        exact .rest
  | @replay other order sent daemon containerId registrationId hServes hReplay hTask =>
      obtain ⟨after, next, hNext, rfl⟩ := Daemon.step_task hTask
      by_cases hHere : id = other
      · subst hHere
        rw [hReplay] at hNext
        cases hNext
        simp only [Fleet.setClient, Daemon.withTask, Function.update_self, hReplay]
        exact .hear hServes rfl (fun hHere => hHere) (fun hHere => hHere.elim) isAck_replayMessages
      · simp only [Fleet.setClient, Daemon.withTask, Function.update_of_ne hHere]
        exact .rest
  | @flush other sent daemon containerId registrationId hServes hServing hTask =>
      obtain ⟨after, next, hNext, rfl⟩ := Daemon.step_task hTask
      by_cases hHere : id = other
      · subst hHere
        rw [hServing] at hNext
        simp only [Fleet.setClient, Daemon.withTask, Function.update_self, hServing, nextServing_flushMessage hNext]
        refine .hear hServes rfl (fun hHere => hHere) (fun hHere => hHere) ?_
        intro message hMessage
        cases sent with
        | false => cases hMessage
        | true => exact hQueues.queued registrationId message (List.mem_of_mem_take hMessage)
      · simp only [Fleet.setClient, Daemon.withTask, Function.update_of_ne hHere]
        exact .rest
  | @heartbeat other containerId registrationId hServes hServing =>
      by_cases hHere : id = other
      · subst hHere
        simp only [Fleet.setClient, Function.update_self, hServing]
        refine .hear hServes rfl (fun hHere => hHere) (fun hHere => hHere) ?_
        intro message hMessage
        rw [List.mem_singleton.mp hMessage]
        rfl
      · simp only [Fleet.setClient, Function.update_of_ne hHere]
        exact .rest
  | other hApart hTask =>
      cases (Daemon.step_cases hTask).2 with
      | @task mover input after next hNext _ =>
          by_cases hHere : id = mover
          · subst hHere
            simp only [Function.update_self]
            refine .apart ?_
            simpa only [Action.task?, Option.all_some, Bool.not_eq_true', Fleet.serves] using hApart
          · simp only [Function.update_of_ne hHere]
            exact .rest
      | clientConnects => exact .rest
      | stop => exact .rest

/-- The content of a ForwardAck. -/
def Message.forwardAnswer : Message → Option (Bool × UInt16)
  | .forwardAck _ success hostPort => some (success, hostPort)
  | _ => none

theorem Message.forwardAnswer_of_not_ack {message : Message} (h : message.isAck = false) :
    message.forwardAnswer = none := by
  cases message <;> first | rfl | cases h

namespace ForwardClient

/-- Every ForwardAck that the host has written says `answer`. -/
def Told (c : ForwardClient) (answer : Bool × UInt16) : Prop :=
  ∀ message ∈ c.written, ∀ other, message.forwardAnswer = some other → other = answer

/-- The host has written no ForwardAck. -/
def Unanswered (c : ForwardClient) : Prop :=
  ∀ message ∈ c.written, message.forwardAnswer = none

variable {c : ForwardClient}

theorem Unanswered.hear (h : c.Unanswered) {messages : List Message}
    (hMessages : ∀ message ∈ messages, message.forwardAnswer = none) : (c.hear messages).Unanswered := by
  intro message hMessage
  rcases List.mem_append.mp hMessage with hOld | hNew
  · exact h message hOld
  · exact hMessages message hNew

theorem Told.hear {answer : Bool × UInt16} (h : c.Told answer) {messages : List Message}
    (hMessages : ∀ message ∈ messages, message.forwardAnswer = none) : (c.hear messages).Told answer := by
  intro message hMessage other hOther
  rcases List.mem_append.mp hMessage with hOld | hNew
  · exact h message hOld other hOther
  · rw [hMessages message hNew] at hOther
    cases hOther

theorem Unanswered.told (h : c.Unanswered) {message : Message} {answer : Bool × UInt16}
    (hMessage : message.forwardAnswer = some answer) : (c.hear [message]).Told answer := by
  intro other hOther said hSaid
  rcases List.mem_append.mp hOther with hOld | hNew
  · rw [h other hOld] at hSaid
    cases hSaid
  · rw [List.mem_singleton.mp hNew, hMessage] at hSaid
    exact (Option.some.inj hSaid).symm

end ForwardClient

/-- How far a process and its task are. `Noise` restricts what else the host
may have written before an answer. -/
def Exchange (Noise : List Message → Prop) (args : ForwardArgs) (handler : Handler) (c : ForwardClient) : Prop :=
  match c.position with
  | .connecting => c.toHost = [] ∧ c.toClient = [] ∧ c.Unanswered
  | .sendingRegister =>
      (handler = .awaitFirst ∨ handler = .finished) ∧ c.toHost = [] ∧ c.toClient = [] ∧ c.Unanswered
  | .awaitingRegisterAck =>
      c.Unanswered ∧
        (handler = .awaitFirst ∧ c.toHost = [.register cliContainerId cliHostname args.authToken] ∧
            c.toClient = [] ∨
          handler.Enrolls ∧ (c.toHost = [] ∨ handler = .finished) ∧ c.toClient = [] ∨
          handler.Settled ∧ c.toHost = [] ∧
            ∃ success rest, c.toClient = .registerAck success :: rest ∧ Noise rest)
  | .sendingForward => c.Unanswered ∧ handler.Settled ∧ c.toHost = [] ∧ Noise c.toClient
  | .awaitingForwardAck =>
      c.Unanswered ∧ Noise c.toClient ∧
          (handler.Settled ∧ c.toHost = [.forward args.port .tcp none none] ∨
            handler.HandlesForward args.port ∧ c.toHost = [] ∨ handler.Left) ∨
        ∃ success hostPort before later, c.Told (success, hostPort) ∧ handler.Attending ∧ c.toHost = [] ∧
          c.toClient = before ++ .forwardAck args.port success hostPort :: later ∧ Noise before ∧
          ∀ message ∈ later, message.isAck = false
  | .forwarding hostPort =>
      c.reported = some hostPort ∧ c.Told (true, hostPort) ∧ handler.Attending ∧
        (∀ message ∈ c.toHost, message.isIdleReply = true) ∧ ∀ message ∈ c.toClient, message.isAck = false
  | .replying hostPort reply =>
      reply.isIdleReply = true ∧ c.reported = some hostPort ∧ c.Told (true, hostPort) ∧ handler.Attending ∧
        (∀ message ∈ c.toHost, message.isIdleReply = true) ∧ ∀ message ∈ c.toClient, message.isAck = false
  | _ => True

variable {Noise : List Message → Prop} {forwardArgs : ForwardArgs} {c c' : ForwardClient} {cliInput : CliInput}

/-- What a step of the process does to its connection. -/
theorem ForwardClient.step_some (h : c.step forwardArgs cliInput = some c') :
    ∃ position, c.position.step forwardArgs cliInput = some position ∧
      ((∃ message rest, cliInput = .receive message ∧ c.toClient = message :: rest ∧
          c' = { c.moveTo position with toClient := rest }) ∨
        (cliInput = .sent true ∧
          c' = { c.moveTo position with toHost := c.toHost ++ (c.position.outgoing forwardArgs).toList }) ∨
        ((∀ message, cliInput ≠ .receive message) ∧ cliInput ≠ .sent true ∧ c' = c.moveTo position)) := by
  unfold ForwardClient.step at h
  split at h
  case h_1 message first rest hToClient =>
    split_ifs at h with hSame
    obtain ⟨position, hStep, rfl⟩ := Option.map_eq_some_iff.mp h
    exact ⟨position, hStep, .inl ⟨message, rest, rfl, by rw [hToClient, hSame], rfl⟩⟩
  case h_2 => cases h
  case h_3 => cases h
  case h_4 =>
    obtain ⟨position, hStep, rfl⟩ := Option.map_eq_some_iff.mp h
    exact ⟨position, hStep, .inr (.inl ⟨rfl, rfl⟩)⟩
  case h_5 hSent hFirst hNone _ =>
    obtain ⟨position, hStep, rfl⟩ := Option.map_eq_some_iff.mp h
    refine ⟨position, hStep, .inr (.inr ⟨?_, hSent, rfl⟩)⟩
    intro message hReceive
    cases hToClient : c.toClient with
    | nil => exact hNone message hReceive hToClient
    | cons first rest => exact hFirst message first rest hReceive hToClient

/-- The process waits for nothing any more. -/
def ForwardPosition.isOver : ForwardPosition → Bool
  | .refused _ | .stopping _ | .finished | .failed _ | .killed => true
  | _ => false

/-- A process that waits for its host. -/
def ForwardPosition.isPending : ForwardPosition → Bool
  | .sendingRegister | .awaitingRegisterAck | .sendingForward | .awaitingForwardAck => true
  | _ => false

theorem ForwardPosition.lost_of_step {position next : ForwardPosition}
    (h : position.step forwardArgs cliInput = some next) (hPending : position.isPending = true)
    (hReceive : ∀ message, cliInput ≠ .receive message) (hSent : cliInput ≠ .sent true) :
    next = .killed ∨ next = .failed .control := by
  unfold ForwardPosition.step at h
  split at h
  case h_2 ok | h_5 ok =>
    cases h
    cases ok with
    | true => exact absurd rfl hSent
    | false => exact .inr rfl
  case h_3 message | h_6 message => exact absurd rfl (hReceive message)
  case h_4 | h_7 =>
    cases h
    exact .inr rfl
  case h_18 =>
    cases h
    exact .inl rfl
  all_goals first | cases hPending | cases h

/-- Without a message to read and without a write done the process goes on only
after a reply in the loop. -/
theorem ForwardPosition.over_of_step {position next : ForwardPosition}
    (h : position.step forwardArgs cliInput = some next)
    (hReplying : ∀ hostPort reply, position ≠ .replying hostPort reply) (hConnected : cliInput ≠ .connected true)
    (hReceive : ∀ message, cliInput ≠ .receive message) (hSent : cliInput ≠ .sent true) : next.isOver = true := by
  unfold ForwardPosition.step at h
  split at h
  case h_1 ok | h_2 ok | h_5 ok =>
    cases h
    cases ok with
    | true => first | exact absurd rfl hConnected | exact absurd rfl hSent
    | false => rfl
  case h_3 message | h_6 message | h_8 hostPort message => exact absurd rfl (hReceive message)
  case h_11 hostPort reply ok => exact absurd rfl (hReplying hostPort reply)
  all_goals cases h <;> rfl

theorem exchange_over (h : c.position.isOver = true) : Exchange Noise forwardArgs handler c := by
  unfold Exchange
  cases hPosition : c.position <;> rw [hPosition] at h <;> trivial

/-- A step of the process. It goes on with the answer that comes next. -/
theorem Exchange.client (hNoise : ∀ messages, Noise messages → ∀ message ∈ messages, message.isAck = false)
    (hInput : cliInput ≠ .connected true) (h : Exchange Noise forwardArgs handler c)
    (hStep : c.step forwardArgs cliInput = some c') : Exchange Noise forwardArgs handler c' := by
  obtain ⟨position, hPosition, hEffect⟩ := ForwardClient.step_some hStep
  unfold Exchange at h
  cases hBefore : c.position with
  | connecting =>
      rw [hBefore] at hPosition
      rcases hEffect with ⟨message, rest, rfl, -, -⟩ | ⟨rfl, rfl⟩ | ⟨hReceive, hSent, rfl⟩
      · cases hPosition
      · cases hPosition
      · exact exchange_over (ForwardPosition.over_of_step hPosition (fun _ _ => nofun) hInput hReceive hSent)
  | sendingRegister =>
      rw [hBefore] at h hPosition
      obtain ⟨hHandler, hToHost, hToClient, hUnanswered⟩ := h
      rcases hEffect with ⟨message, rest, rfl, -, -⟩ | ⟨rfl, rfl⟩ | ⟨hReceive, hSent, rfl⟩
      · cases hPosition
      · cases hPosition
        refine ⟨hUnanswered, ?_⟩
        rcases hHandler with hHandler | hHandler
        · refine .inl ⟨hHandler, ?_, hToClient⟩
          show c.toHost ++ (c.position.outgoing forwardArgs).toList = _
          rw [hToHost, hBefore]
          rfl
        · refine .inr (.inl ⟨?_, .inr hHandler, hToClient⟩)
          rw [hHandler]
          trivial
      · exact exchange_over (ForwardPosition.over_of_step hPosition (fun _ _ => nofun) hInput hReceive hSent)
  | awaitingRegisterAck =>
      rw [hBefore] at h hPosition
      obtain ⟨hUnanswered, hAnswer⟩ := h
      rcases hEffect with ⟨message, rest, rfl, hTaken, rfl⟩ | ⟨rfl, rfl⟩ | ⟨hReceive, hSent, rfl⟩
      · cases hPosition
        rcases hAnswer with ⟨-, -, hEmpty⟩ | ⟨-, -, hEmpty⟩ | ⟨hSettled, hToHost, success, later, hHead, hLater⟩
        · rw [hEmpty] at hTaken
          cases hTaken
        · rw [hEmpty] at hTaken
          cases hTaken
        · rw [hHead] at hTaken
          cases hTaken
          cases success with
          | true => exact ⟨hUnanswered, hSettled, hToHost, hLater⟩
          | false => exact exchange_over rfl
      · cases hPosition
      · exact exchange_over (ForwardPosition.over_of_step hPosition (fun _ _ => nofun) hInput hReceive hSent)
  | sendingForward =>
      rw [hBefore] at h hPosition
      obtain ⟨hUnanswered, hSettled, hToHost, hToClient⟩ := h
      rcases hEffect with ⟨message, rest, rfl, -, -⟩ | ⟨rfl, rfl⟩ | ⟨hReceive, hSent, rfl⟩
      · cases hPosition
      · cases hPosition
        refine .inl ⟨hUnanswered, hToClient, .inl ⟨hSettled, ?_⟩⟩
        show c.toHost ++ (c.position.outgoing forwardArgs).toList = _
        rw [hToHost, hBefore]
        rfl
      · exact exchange_over (ForwardPosition.over_of_step hPosition (fun _ _ => nofun) hInput hReceive hSent)
  | awaitingForwardAck =>
      rw [hBefore] at h hPosition
      rcases hEffect with ⟨message, rest, rfl, hTaken, rfl⟩ | ⟨rfl, rfl⟩ | ⟨hReceive, hSent, rfl⟩
      · cases hPosition
        rcases h with ⟨-, hToClient, -⟩ | ⟨success, hostPort, before, later, hTold, hSettled, hToHost, hToClient,
          hBeforeNoise, hLater⟩
        · -- something else than an answer comes first
          refine exchange_over ?_
          have hOther := hNoise c.toClient hToClient message (by rw [hTaken]; exact List.mem_cons_self)
          show (ForwardPosition.onForwardAck forwardArgs message).isOver = true
          cases message <;> first | rfl | cases hOther
        · rw [hToClient] at hTaken
          cases before with
          | nil =>
              cases hTaken
              cases success with
              | true =>
                  refine ⟨rfl, hTold, hSettled, ?_, hLater⟩
                  show ∀ message ∈ c.toHost, _
                  rw [hToHost]
                  exact fun _ hNone => (nomatch hNone)
              | false => exact exchange_over rfl
          | cons first before =>
              refine exchange_over ?_
              have hOther := hNoise _ hBeforeNoise first List.mem_cons_self
              cases hTaken
              show (ForwardPosition.onForwardAck forwardArgs message).isOver = true
              cases message <;> first | rfl | cases hOther
      · cases hPosition
      · exact exchange_over (ForwardPosition.over_of_step hPosition (fun _ _ => nofun) hInput hReceive hSent)
  | forwarding hostPort =>
      rw [hBefore] at h hPosition
      obtain ⟨hReported, hTold, hSettled, hToHost, hToClient⟩ := h
      rcases hEffect with ⟨message, rest, rfl, hTaken, rfl⟩ | ⟨rfl, rfl⟩ | ⟨hReceive, hSent, rfl⟩
      · cases hPosition
        have hRest : ∀ other ∈ rest, other.isAck = false := by
          intro other hOther
          exact hToClient other (by rw [hTaken]; exact List.mem_cons_of_mem message hOther)
        cases message with
        | ping | connectRequest => exact ⟨rfl, hReported, hTold, hSettled, hToHost, hRest⟩
        | _ => exact ⟨rfl, hTold, hSettled, hToHost, hRest⟩
      · cases hPosition
      · exact exchange_over (ForwardPosition.over_of_step hPosition (fun _ _ => nofun) hInput hReceive hSent)
  | replying hostPort reply =>
      rw [hBefore] at h hPosition
      obtain ⟨hReply, hReported, hTold, hSettled, hToHost, hToClient⟩ := h
      rcases hEffect with ⟨message, rest, rfl, -, -⟩ | ⟨rfl, rfl⟩ | ⟨-, hSent, rfl⟩
      · cases hPosition
      · cases hPosition
        refine ⟨rfl, hTold, hSettled, ?_, hToClient⟩
        intro message hMessage
        rcases List.mem_append.mp hMessage with hOld | hNew
        · exact hToHost message hOld
        · rw [hBefore] at hNew
          rw [List.mem_singleton.mp hNew]
          exact hReply
      · cases cliInput with
        | sent ok =>
            cases ok with
            | true => exact absurd rfl hSent
            | false =>
                cases hPosition
                exact ⟨rfl, hTold, hSettled, hToHost, hToClient⟩
        | kill =>
            cases hPosition
            exact exchange_over rfl
        | _ => cases hPosition
  | stopping hostPort =>
      rw [hBefore] at hPosition
      rcases hEffect with ⟨message, rest, rfl, -, -⟩ | ⟨rfl, rfl⟩ | ⟨hReceive, hSent, rfl⟩
      · cases hPosition
      · cases hPosition
        exact exchange_over rfl
      · exact exchange_over (ForwardPosition.over_of_step hPosition (fun _ _ => nofun) hInput hReceive hSent)
  | refused error | finished | failed error | killed =>
      rw [hBefore] at hPosition
      cases hPosition

theorem Handler.Settled.eq_finished (h : handler.Settled) (hEnrolls : handler.Enrolls) : handler = .finished := by
  cases handler <;> first | rfl | exact False.elim h | exact False.elim hEnrolls

theorem Handler.Settled.not_handlesForward (h : handler.Settled) : ¬handler.HandlesForward port := by
  intro hForward
  cases handler <;> first | exact False.elim h | exact False.elim hForward

/-- A settled task goes on, and other messages come after what has been written. -/
theorem Exchange.hear {messages : List Message} (hHere : handler.Settled) (hRunning : handler ≠ .finished)
    (hNext : next.Settled) (hAttending : handler.Attending → next.Attending)
    (hLeft : handler.Left → next.Left)
    (hMessages : ∀ message ∈ messages, message.isAck = false)
    (hGrow : c.Unanswered → ∀ earlier, Noise earlier → Noise (earlier ++ messages))
    (hPosition : c.position ≠ .connecting) (h : Exchange Noise forwardArgs handler c) :
    Exchange Noise forwardArgs next (c.hear messages) := by
  have hSilent : ∀ message ∈ messages, message.forwardAnswer = none :=
    fun message hMessage => Message.forwardAnswer_of_not_ack (hMessages message hMessage)
  have hLater : ∀ earlier : List Message, (∀ message ∈ earlier, message.isAck = false) →
      ∀ message ∈ earlier ++ messages, message.isAck = false := by
    intro earlier hEarlier message hMessage
    rcases List.mem_append.mp hMessage with hOld | hNew
    · exact hEarlier message hOld
    · exact hMessages message hNew
  unfold Exchange at h ⊢
  have hKept : (c.hear messages).position = c.position := rfl
  rw [hKept]
  cases hBefore : c.position with
  | connecting => exact absurd hBefore hPosition
  | sendingRegister =>
      rw [hBefore] at h
      rcases h.1 with hHandler | hHandler
      · rw [hHandler] at hHere
        exact False.elim hHere
      · exact absurd hHandler hRunning
  | awaitingRegisterAck =>
      rw [hBefore] at h
      obtain ⟨hUnanswered, hAnswer⟩ := h
      refine ⟨hUnanswered.hear hSilent, ?_⟩
      rcases hAnswer with ⟨hHandler, -, -⟩ | ⟨hEnrolls, -, -⟩ | ⟨-, hToHost, success, rest, hHead, hRest⟩
      · rw [hHandler] at hHere
        exact False.elim hHere
      · exact absurd (hHere.eq_finished hEnrolls) hRunning
      · refine .inr (.inr ⟨hNext, hToHost, success, rest ++ messages, ?_, hGrow hUnanswered rest hRest⟩)
        show c.toClient ++ messages = _
        rw [hHead]
        rfl
  | sendingForward =>
      rw [hBefore] at h
      obtain ⟨hUnanswered, -, hToHost, hToClient⟩ := h
      exact ⟨hUnanswered.hear hSilent, hNext, hToHost, hGrow hUnanswered _ hToClient⟩
  | awaitingForwardAck =>
      rw [hBefore] at h
      rcases h with ⟨hUnanswered, hToClient, hWaiting⟩ | ⟨success, hostPort, before, later, hTold, hThere, hToHost,
        hToClient, hNoise, hRest⟩
      · refine .inl ⟨hUnanswered.hear hSilent, hGrow hUnanswered _ hToClient, ?_⟩
        rcases hWaiting with ⟨-, hToHost⟩ | ⟨hForward, -⟩ | hGone
        · exact .inl ⟨hNext, hToHost⟩
        · exact absurd hForward hHere.not_handlesForward
        · exact .inr (.inr (hLeft hGone))
      · refine .inr ⟨success, hostPort, before, later ++ messages, hTold.hear hSilent, hAttending hThere, hToHost, ?_,
          hNoise, hLater later hRest⟩
        show c.toClient ++ messages = _
        rw [hToClient, List.append_assoc]
        rfl
  | forwarding hostPort =>
      rw [hBefore] at h
      obtain ⟨hReported, hTold, hThere, hToHost, hToClient⟩ := h
      exact ⟨hReported, hTold.hear hSilent, hAttending hThere, hToHost, hLater _ hToClient⟩
  | replying hostPort reply =>
      rw [hBefore] at h
      obtain ⟨hReply, hReported, hTold, hThere, hToHost, hToClient⟩ := h
      exact ⟨hReply, hReported, hTold.hear hSilent, hAttending hThere, hToHost, hLater _ hToClient⟩
  | _ => trivial

/-- What a step of the task has read. -/
theorem ForwardClient.unread_some (h : c.unread input = some c') :
    (∃ message, input = .receive message ∧ c.toHost = message :: c'.toHost ∧
        c' = { c with toHost := c'.toHost }) ∨
      (∀ message, input ≠ .receive message) ∧ c' = c := by
  unfold ForwardClient.unread at h
  split at h
  case h_1 message =>
    split at h
    case h_1 => cases h
    case h_2 first rest hToHost =>
      split_ifs at h with hSame
      cases h
      exact .inl ⟨message, rfl, by rw [hToHost, hSame], rfl⟩
  case h_2 hOther =>
    cases h
    exact .inr ⟨hOther, rfl⟩

/-- A step of the task while it is settled and reads nothing. -/
theorem Exchange.settled (hGrow : c.Unanswered → handler.inLoop = true →
      (∀ message ∈ handler.writes ctx input, message.isAck = false) → ∀ earlier, Noise earlier →
        Noise (earlier ++ handler.writes ctx input))
    (hHere : handler.Settled) (hInput : ∀ message, input ≠ .receive message)
    (hNext : nextHandler cfg ctx handler input = some (after, next))
    (hPosition : c.position ≠ .connecting) (h : Exchange Noise forwardArgs handler c) :
    Exchange Noise forwardArgs next (c.hear (handler.writes ctx input)) := by
  obtain ⟨hSettled, hAttending, hLeft, hMessages, hLoop⟩ := hHere.step hInput hNext
  have hRunning : handler ≠ .finished := by
    rintro rfl
    cases hNext
  refine h.hear hHere hRunning hSettled hAttending hLeft hMessages ?_ hPosition
  intro hUnanswered earlier hEarlier
  by_cases hNothing : handler.writes ctx input = []
  · rw [hNothing, List.append_nil]
    exact hEarlier
  · exact hGrow hUnanswered (hLoop hNothing) hMessages earlier hEarlier

theorem hear_nil : c.hear [] = c := by
  simp [ForwardClient.hear]

theorem dispatchFirst_cli : (dispatchFirst cfg
    (.register cliContainerId cliHostname forwardArgs.authToken)).Enrolls := by
  unfold dispatchFirst
  dsimp only
  split_ifs <;> rfl

/-- The task reads the next message of the process. -/
theorem Exchange.read {message : Message} {rest : List Message} (hTaken : c.toHost = message :: rest)
    (hNext : nextHandler cfg ctx handler (.receive message) = some (after, next))
    (hPosition : c.position ≠ .connecting) (h : Exchange Noise forwardArgs handler c) :
    Exchange Noise forwardArgs next { c with toHost := rest } := by
  unfold Exchange at h ⊢
  cases hBefore : c.position with
  | connecting => exact absurd hBefore hPosition
  | sendingRegister =>
      rw [hBefore] at h
      rw [h.2.1] at hTaken
      cases hTaken
  | awaitingRegisterAck =>
      rw [hBefore] at h
      obtain ⟨hUnanswered, hAnswer⟩ := h
      refine ⟨hUnanswered, ?_⟩
      rcases hAnswer with ⟨hHandler, hToHost, hToClient⟩ | ⟨-, hIdle, -⟩ | ⟨-, hToHost, -⟩
      · rw [hToHost] at hTaken
        obtain ⟨rfl, rfl⟩ := List.cons.inj hTaken
        rw [hHandler] at hNext
        obtain ⟨-, hDispatched⟩ := Prod.mk.inj (Option.some.inj hNext)
        refine .inr (.inl ⟨?_, .inl rfl, hToClient⟩)
        rw [← hDispatched]
        exact dispatchFirst_cli
      · rcases hIdle with hToHost | hFinished
        · rw [hToHost] at hTaken
          cases hTaken
        · rw [hFinished] at hNext
          cases hNext
      · rw [hToHost] at hTaken
        cases hTaken
  | sendingForward =>
      rw [hBefore] at h
      rw [h.2.2.1] at hTaken
      cases hTaken
  | awaitingForwardAck =>
      rw [hBefore] at h
      rcases h with ⟨hUnanswered, hToClient, hWaiting⟩ | ⟨_, _, _, _, -, -, hToHost, -⟩
      · refine .inl ⟨hUnanswered, hToClient, ?_⟩
        rcases hWaiting with ⟨hHere, hToHost⟩ | ⟨-, hToHost⟩ | hLeft
        · rw [hToHost] at hTaken
          obtain ⟨rfl, rfl⟩ := List.cons.inj hTaken
          obtain ⟨registrationId, -, rfl⟩ := hHere.receive hNext
          exact .inr (.inl ⟨⟨rfl, rfl⟩, rfl⟩)
        · rw [hToHost] at hTaken
          cases hTaken
        · exact .inr (.inr (hLeft.step hNext).1)
      · rw [hToHost] at hTaken
        cases hTaken
  | forwarding hostPort =>
      rw [hBefore] at h
      obtain ⟨hReported, hTold, hHere, hToHost, hToClient⟩ := h
      rw [hTaken] at hToHost
      obtain ⟨registrationId, -, rfl⟩ := hHere.settled.receive hNext
      refine ⟨hReported, hTold, dispatchContainer_idleReply (hToHost message List.mem_cons_self) registrationId,
        ?_, hToClient⟩
      exact fun other hOther => hToHost other (List.mem_cons_of_mem message hOther)
  | replying hostPort reply =>
      rw [hBefore] at h
      obtain ⟨hReply, hReported, hTold, hHere, hToHost, hToClient⟩ := h
      rw [hTaken] at hToHost
      obtain ⟨registrationId, -, rfl⟩ := hHere.settled.receive hNext
      refine ⟨hReply, hReported, hTold,
        dispatchContainer_idleReply (hToHost message List.mem_cons_self) registrationId, ?_, hToClient⟩
      exact fun other hOther => hToHost other (List.mem_cons_of_mem message hOther)
  | _ => trivial

/-- Before a task has read anything, it can only give up waiting. -/
theorem awaitFirst_step (hHandler : handler = .awaitFirst) (hInput : ∀ message, input ≠ .receive message)
    (hNext : nextHandler cfg ctx handler input = some (after, next)) :
    next = .finished ∧ handler.writes ctx input = [] := by
  subst hHandler
  cases input with
  | receive message => exact absurd rfl (hInput message)
  | fail =>
      obtain ⟨-, hFinished⟩ := Prod.mk.inj (Option.some.inj hNext)
      exact ⟨hFinished.symm, rfl⟩
  | _ => cases hNext

/-- The task goes on without reading. -/
theorem Exchange.act (hNil : Noise [])
    (hGrow : c.Unanswered → handler.inLoop = true →
      (∀ message ∈ handler.writes ctx input, message.isAck = false) → ∀ earlier, Noise earlier →
        Noise (earlier ++ handler.writes ctx input))
    (hInput : ∀ message, input ≠ .receive message)
    (hNext : nextHandler cfg ctx handler input = some (after, next))
    (hPosition : c.position ≠ .connecting) (h : Exchange Noise forwardArgs handler c) :
    Exchange Noise forwardArgs next (c.hear (handler.writes ctx input)) := by
  have settled : handler.Settled → Exchange Noise forwardArgs next (c.hear (handler.writes ctx input)) :=
    fun hHere => h.settled hGrow hHere hInput hNext hPosition
  unfold Exchange at h
  cases hBefore : c.position with
  | connecting => exact absurd hBefore hPosition
  | sendingRegister =>
      rw [hBefore] at h
      obtain ⟨hHandler, hToHost, hToClient, hUnanswered⟩ := h
      rcases hHandler with hHandler | hHandler
      · obtain ⟨hFinished, hNothing⟩ := awaitFirst_step hHandler hInput hNext
        rw [hNothing, hear_nil]
        unfold Exchange
        rw [hBefore]
        exact ⟨.inr hFinished, hToHost, hToClient, hUnanswered⟩
      · rw [hHandler] at hNext
        cases hNext
  | awaitingRegisterAck =>
      rw [hBefore] at h
      obtain ⟨hUnanswered, hAnswer⟩ := h
      rcases hAnswer with ⟨hHandler, hToHost, hToClient⟩ | ⟨hEnrolls, hIdle, hToClient⟩ | ⟨hHere, -⟩
      · obtain ⟨hFinished, hNothing⟩ := awaitFirst_step hHandler hInput hNext
        rw [hNothing, hear_nil]
        unfold Exchange
        rw [hBefore]
        refine ⟨hUnanswered, .inr (.inl ⟨?_, .inr hFinished, hToClient⟩)⟩
        rw [hFinished]
        trivial
      · have hToHost : c.toHost = [] := by
          rcases hIdle with hToHost | hFinished
          · exact hToHost
          · rw [hFinished] at hNext
            cases hNext
        rcases hEnrolls.step hNext with ⟨-, hSettled, success, hAnswer⟩ | ⟨hStill, hNothing⟩
        · rw [hAnswer]
          unfold Exchange
          rw [show (c.hear [.registerAck success]).position = c.position from rfl, hBefore]
          refine ⟨hUnanswered.hear (by simp [Message.forwardAnswer]), .inr (.inr ⟨hSettled, hToHost, success, [], ?_,
            hNil⟩)⟩
          show c.toClient ++ _ = _
          rw [hToClient]
          rfl
        · rw [hNothing, hear_nil]
          unfold Exchange
          rw [hBefore]
          exact ⟨hUnanswered, .inr (.inl ⟨hStill, .inl hToHost, hToClient⟩)⟩
      · exact settled hHere
  | sendingForward =>
      rw [hBefore] at h
      exact settled h.2.1
  | awaitingForwardAck =>
      rw [hBefore] at h
      rcases h with ⟨hUnanswered, hToClient, hWaiting⟩ | ⟨_, _, _, _, -, hHere, -⟩
      · rcases hWaiting with ⟨hHere, -⟩ | ⟨hForward, hToHost⟩ | hLeft
        · exact settled hHere
        · rcases hForward.step hNext with ⟨hStill, hNothing⟩ | ⟨hLeft, hNothing⟩ | ⟨hSettled, _, result, -, hAnswer⟩
          · rw [hNothing, hear_nil]
            unfold Exchange
            rw [hBefore]
            exact .inl ⟨hUnanswered, hToClient, .inr (.inl ⟨hStill, hToHost⟩)⟩
          · rw [hNothing, hear_nil]
            unfold Exchange
            rw [hBefore]
            exact .inl ⟨hUnanswered, hToClient, .inr (.inr hLeft)⟩
          · rw [hAnswer]
            unfold Exchange
            rw [show (c.hear [.forwardAck forwardArgs.port result.isSome (result.getD 0)]).position = c.position
              from rfl, hBefore]
            exact .inr ⟨result.isSome, result.getD 0, c.toClient, [], hUnanswered.told rfl, hSettled, hToHost, rfl,
              hToClient, fun _ hNone => (nomatch hNone)⟩
        · exact settled hLeft.attending.settled
      · exact settled hHere.settled
  | forwarding hostPort =>
      rw [hBefore] at h
      exact settled h.2.2.1.settled
  | replying hostPort reply =>
      rw [hBefore] at h
      exact settled h.2.2.2.1.settled
  | refused error | stopping hostPort | finished | failed error | killed =>
      apply exchange_over
      rw [show (c.hear (handler.writes ctx input)).position = c.position from rfl, hBefore]
      rfl

theorem Exchange.settled_of_inLoop (hLoop : handler.inLoop = true) (hPosition : c.position ≠ .connecting)
    (h : Exchange Noise forwardArgs handler c) : handler.Settled ∨ c.position.isOver = true := by
  unfold Exchange at h
  have hEnrolls : ¬handler.Enrolls := by
    intro hEnrolls
    cases handler <;> first | exact False.elim hEnrolls | cases hLoop
  have hForward : ¬handler.HandlesForward forwardArgs.port := by
    intro hForward
    cases handler <;> first | exact False.elim hForward | cases hLoop
  cases hBefore : c.position with
  | connecting => exact absurd hBefore hPosition
  | sendingRegister =>
      rw [hBefore] at h
      rcases h.1 with hHandler | hHandler <;> rw [hHandler] at hLoop <;> cases hLoop
  | awaitingRegisterAck =>
      rw [hBefore] at h
      rcases h.2 with ⟨hHandler, -⟩ | ⟨hHere, -⟩ | ⟨hHere, -⟩
      · rw [hHandler] at hLoop
        cases hLoop
      · exact absurd hHere hEnrolls
      · exact .inl hHere
  | sendingForward =>
      rw [hBefore] at h
      exact .inl h.2.1
  | awaitingForwardAck =>
      rw [hBefore] at h
      rcases h with ⟨-, -, ⟨hHere, -⟩ | ⟨hHere, -⟩ | hHere⟩ | ⟨_, _, _, _, -, hHere, -⟩
      · exact .inl hHere
      · exact absurd hHere hForward
      · exact .inl hHere.attending.settled
      · exact .inl hHere.settled
  | forwarding hostPort =>
      rw [hBefore] at h
      exact .inl h.2.2.1.settled
  | replying hostPort reply =>
      rw [hBefore] at h
      exact .inl h.2.2.2.1.settled
  | refused error | stopping hostPort | finished | failed error | killed => exact .inr rfl

theorem ForwardPosition.ne_connecting {position : ForwardPosition} (h : position.isConnected = true) :
    position ≠ .connecting := by
  rintro rfl
  cases h

theorem unread_position (h : c.unread input = some c') : c'.position = c.position := by
  rcases ForwardClient.unread_some h with ⟨message, -, -, hKept⟩ | ⟨-, rfl⟩
  · rw [hKept]
  · rfl

/-- What is over stays over. -/
theorem Turn.isOver (hTurn : Turn cfg forwardArgs ctx handler c next c') (h : c.position.isOver = true) :
    c'.position.isOver = true := by
  have step : ∀ {cliInput : CliInput} {middle : ForwardClient}, c.step forwardArgs cliInput = some middle →
      middle.position.isOver = true := by
    intro cliInput middle hStep
    obtain ⟨position, hPosition, hEffect⟩ := ForwardClient.step_some hStep
    have hOver : position.isOver = true := by
      cases hBefore : c.position with
      | refused error | finished | failed error | killed =>
          rw [hBefore] at hPosition
          cases hPosition
      | stopping hostPort =>
          rw [hBefore] at hPosition
          cases cliInput with
          | sent ok | kill =>
              cases hPosition
              rfl
          | _ => cases hPosition
      | _ =>
          rw [hBefore] at h
          cases h
    rcases hEffect with ⟨_, _, -, -, rfl⟩ | ⟨-, rfl⟩ | ⟨-, -, rfl⟩ <;> exact hOver
  cases hTurn with
  | rest | apart => exact h
  | connect hStep => exact step hStep
  | client _ hStep => exact step hStep
  | @host input after next middle _ hUnread _ =>
      show middle.position.isOver = true
      rw [unread_position hUnread]
      exact h
  | hear => exact h

/-- A step of the fleet keeps each conversation in order, as long as what else
the host writes before an answer is admitted. -/
theorem Exchange.turn (hNil : Noise [])
    (hNoise : ∀ messages, Noise messages → ∀ message ∈ messages, message.isAck = false)
    (hGrow : c.Unanswered → c.position.isOver = false → handler.inLoop = true → ∀ messages,
      c'.written = c.written ++ messages → (∀ message ∈ messages, message.isAck = false) →
        ∀ earlier, Noise earlier → Noise (earlier ++ messages))
    (h : Exchange Noise forwardArgs handler c) (hTurn : Turn cfg forwardArgs ctx handler c next c') :
    Exchange Noise forwardArgs next c' := by
  by_cases hOver : c.position.isOver = true
  · exact exchange_over (hTurn.isOver hOver)
  have hWaiting : c.position.isOver = false := Bool.eq_false_iff.mpr hOver
  cases hTurn with
  | rest => exact h
  | apart hPosition =>
      unfold Exchange at h ⊢
      cases hBefore : c.position <;> rw [hBefore] at h hPosition <;> first | exact h | cases hPosition
  | connect hStep =>
      obtain ⟨position, hPosition, hEffect⟩ := ForwardClient.step_some hStep
      unfold Exchange at h
      cases hBefore : c.position <;> rw [hBefore] at hPosition h <;> cases hPosition
      obtain ⟨hToHost, hToClient, hUnanswered⟩ := h
      rcases hEffect with ⟨_, _, hOther, -⟩ | ⟨hOther, -⟩ | ⟨-, -, rfl⟩
      · cases hOther
      · cases hOther
      · exact ⟨.inl rfl, hToHost, hToClient, hUnanswered⟩
  | client hInput hStep => exact h.client hNoise hInput hStep
  | @host input after next middle hPosition hUnread hNext =>
      rcases ForwardClient.unread_some hUnread with ⟨message, rfl, hTaken, hKept⟩ | ⟨hInput, rfl⟩
      · have hNothing : handler.writes ctx (.receive message) = [] := by cases handler <;> rfl
        rw [hNothing, hear_nil, hKept]
        exact h.read hTaken hNext (ForwardPosition.ne_connecting hPosition)
      · exact h.act hNil (fun hUnanswered hLoop => hGrow hUnanswered hWaiting hLoop _ rfl) hInput hNext
          (ForwardPosition.ne_connecting hPosition)
  | @hear next messages hPosition hLoop hSettled hAttending hMessages =>
      rcases h.settled_of_inLoop hLoop (ForwardPosition.ne_connecting hPosition) with hHere | hOver
      · have hRunning : handler ≠ .finished := by
          rintro rfl
          cases hLoop
        exact h.hear hHere hRunning (hSettled hHere) hAttending
          (fun hGone => absurd hGone (Handler.not_left_of_inLoop hLoop)) hMessages
          (fun hUnanswered => hGrow hUnanswered hWaiting hLoop messages rfl hMessages)
          (ForwardPosition.ne_connecting hPosition)
      · exact exchange_over hOver

end DevcontainerBridge
