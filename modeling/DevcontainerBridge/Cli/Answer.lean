import DevcontainerBridge.Cli.Exchange
import DevcontainerBridge.Socket.Delivery

/-! The answer to a Forward from the command line. `run_forward` takes the next
message for it, so that it agrees with the host where nothing else is written
first. -/
namespace DevcontainerBridge

open Table Transition

variable {cfg : HostConfig} {args : Nat → ForwardArgs} {forwardArgs : ForwardArgs} {ctx after : DaemonContext}
  {handler next : Handler} {input : Input} {f f' : Fleet} {action : FleetAction} {id : Nat}
  {c c' : ForwardClient} {cliInput : CliInput}

/-- The task handles an Unforward of a process. -/
def Handler.Unforwards : Handler → Prop
  | .unforwardCheck containerId _ _ | .unforwardRemove containerId _ _ | .unforwardDrain containerId _ _ _
  | .unforwardBrowser containerId _ _ => containerId = cliContainerId
  | _ => False

/-- The messages of a process that has its answer. -/
def Message.isLate : Message → Bool
  | .pong | .connectFailed .. | .unforward _ => true
  | _ => false

/-- No further ForwardAck will be written. -/
structure Silent (handler : Handler) (c : ForwardClient) : Prop where
  handler : handler.Settled ∨ handler.Unforwards
  toHost : ∀ message ∈ c.toHost, message.isLate = true

/-- A forward that the host has acknowledged is the one that was reported. -/
def ForwardClient.Reported (c : ForwardClient) : Prop :=
  ∀ message ∈ c.written, ∀ hostPort, message.forwardAnswer = some (true, hostPort) → c.reported = some hostPort

/-- A process that waits for nothing any more has got its answer, unless it was
killed or its connection broke. -/
def Concluded (handler : Handler) (c : ForwardClient) : Prop :=
  match c.position with
  | .stopping _ | .finished | .failed (.connection _) | .failed .registrationRejected =>
      c.Reported ∧ Silent handler c
  | .failed (.unexpectedResponse _) => False
  | .refused _ => c.Unanswered
  | _ => True

theorem Handler.Unforwards.step (h : handler.Unforwards)
    (hNext : nextHandler cfg ctx handler input = some (after, next)) :
    (next.Settled ∨ next.Unforwards) ∧ handler.writes ctx input = [] := by
  have hUnforward : nextUnforward ctx handler input = some (after, next) := by
    cases handler <;> first | exact hNext | exact False.elim h
  cases nextUnforward_cases hUnforward with
  | owned => exact ⟨.inr h, rfl⟩
  | disowned => exact ⟨.inl h, rfl⟩
  | missing => exact ⟨.inr h, rfl⟩
  | removed => exact ⟨.inr h, rfl⟩
  | drained => exact ⟨.inr h, rfl⟩
  | unmapped => exact ⟨.inl h, rfl⟩
  | _ => exact False.elim h

theorem dispatchContainer_late {message : Message} (hLate : message.isLate = true) (registrationId : Nat) :
    (dispatchContainer cfg cliContainerId registrationId message).Settled ∨
      (dispatchContainer cfg cliContainerId registrationId message).Unforwards := by
  cases message with
  | pong => exact .inl rfl
  | connectFailed connId error =>
      have hThen : (dispatchContainer cfg cliContainerId registrationId (.connectFailed connId error)).Attending :=
        dispatchContainer_idleReply rfl registrationId
      exact .inl hThen.settled
  | unforward port => exact .inr rfl
  | _ => cases hLate

theorem ForwardClient.Reported.hear (h : c.Reported) {messages : List Message}
    (hMessages : ∀ message ∈ messages, message.isAck = false) : (c.hear messages).Reported := by
  intro message hMessage hostPort hAnswer
  rcases List.mem_append.mp hMessage with hOld | hNew
  · exact h message hOld hostPort hAnswer
  · rw [Message.forwardAnswer_of_not_ack (hMessages message hNew)] at hAnswer
    cases hAnswer

theorem ForwardClient.Unanswered.reported (h : c.Unanswered) : c.Reported := by
  intro message hMessage hostPort hAnswer
  rw [h message hMessage] at hAnswer
  cases hAnswer

theorem ForwardClient.Told.reported {hostPort : UInt16} (h : c.Told (true, hostPort))
    (hReported : c.reported = some hostPort) : c.Reported := by
  intro message hMessage other hAnswer
  cases h message hMessage _ hAnswer
  exact hReported

/-- A silent task stays silent. -/
theorem Silent.host (hUnread : c.unread input = some c')
    (hNext : nextHandler cfg ctx handler input = some (after, next)) (h : Silent handler c) :
    Silent next (c'.hear (handler.writes ctx input)) ∧
      ∀ message ∈ handler.writes ctx input, message.isAck = false := by
  rcases ForwardClient.unread_some hUnread with ⟨message, rfl, hTaken, hKept⟩ | ⟨hInput, rfl⟩
  · have hNothing : handler.writes ctx (.receive message) = [] := by cases handler <;> rfl
    rw [hNothing, hear_nil]
    have hToHost := h.toHost
    rw [hTaken] at hToHost
    refine ⟨⟨?_, fun other hOther => hToHost other (List.mem_cons_of_mem message hOther)⟩,
      fun _ hNone => (nomatch hNone)⟩
    rcases h.handler with hHere | hHere
    · obtain ⟨registrationId, -, rfl⟩ := hHere.receive hNext
      exact dispatchContainer_late (hToHost message List.mem_cons_self) registrationId
    · exact (hHere.step hNext).1
  · rcases h.handler with hHere | hHere
    · obtain ⟨hSettled, -, -, hMessages, -⟩ := hHere.step hInput hNext
      exact ⟨⟨.inl hSettled, h.toHost⟩, hMessages⟩
    · obtain ⟨hThen, hNothing⟩ := hHere.step hNext
      rw [hNothing, hear_nil]
      exact ⟨⟨hThen, h.toHost⟩, fun _ hNone => (nomatch hNone)⟩

theorem isLate_of_isIdleReply {message : Message} (h : message.isIdleReply = true) : message.isLate = true := by
  cases message <;> first | rfl | cases h

theorem concluded_lost (h : c.position = .killed ∨ c.position = .failed .control) : Concluded handler c := by
  unfold Concluded
  rcases h with hKilled | hFailed
  · rw [hKilled]
    trivial
  · rw [hFailed]
    trivial

/-- Where nothing comes before an answer, a process ends with its answer. -/
theorem Concluded.client (hExchange : Exchange (· = []) forwardArgs handler c) (h : Concluded handler c)
    (hStep : c.step forwardArgs cliInput = some c') : Concluded handler c' := by
  obtain ⟨position, hPosition, hEffect⟩ := ForwardClient.step_some hStep
  unfold Exchange at hExchange
  cases hBefore : c.position with
  | connecting =>
      rw [hBefore] at hPosition hExchange
      rcases hEffect with ⟨message, rest, rfl, -, -⟩ | ⟨rfl, rfl⟩ | ⟨-, -, rfl⟩
      · cases hPosition
      · cases hPosition
      · cases cliInput with
        | connected ok =>
            cases hPosition
            cases ok with
            | true => trivial
            | false => exact hExchange.2.2
        | _ => cases hPosition
  | sendingRegister | sendingForward =>
      rw [hBefore] at hPosition
      rcases hEffect with ⟨message, rest, rfl, -, -⟩ | ⟨rfl, rfl⟩ | ⟨hReceive, hSent, rfl⟩
      · cases hPosition
      · cases hPosition
        trivial
      · exact concluded_lost (ForwardPosition.lost_of_step hPosition rfl hReceive hSent)
  | awaitingRegisterAck =>
      rw [hBefore] at hPosition hExchange
      obtain ⟨hUnanswered, hAnswer⟩ := hExchange
      rcases hEffect with ⟨message, rest, rfl, hTaken, rfl⟩ | ⟨rfl, rfl⟩ | ⟨hReceive, hSent, rfl⟩
      · cases hPosition
        rcases hAnswer with ⟨-, -, hEmpty⟩ | ⟨-, -, hEmpty⟩ | ⟨hSettled, hToHost, success, later, hHead, -⟩
        · rw [hEmpty] at hTaken
          cases hTaken
        · rw [hEmpty] at hTaken
          cases hTaken
        · rw [hHead] at hTaken
          cases hTaken
          cases success with
          | true => trivial
          | false =>
              refine ⟨hUnanswered.reported, .inl hSettled, ?_⟩
              show ∀ message ∈ c.toHost, _
              rw [hToHost]
              exact fun _ hNone => (nomatch hNone)
      · cases hPosition
      · exact concluded_lost (ForwardPosition.lost_of_step hPosition rfl hReceive hSent)
  | awaitingForwardAck =>
      rw [hBefore] at hPosition hExchange
      rcases hEffect with ⟨message, rest, rfl, hTaken, rfl⟩ | ⟨rfl, rfl⟩ | ⟨hReceive, hSent, rfl⟩
      · cases hPosition
        rcases hExchange with ⟨-, hEmpty, -⟩ | ⟨success, hostPort, before, later, hTold, hSettled, hToHost,
          hHead, hNothing, -⟩
        · rw [hEmpty] at hTaken
          cases hTaken
        · rw [hNothing] at hHead
          rw [hHead] at hTaken
          cases hTaken
          cases success with
          | true => trivial
          | false =>
              refine ⟨?_, .inl hSettled.settled, ?_⟩
              · intro message hMessage other hAnswer
                cases hTold message hMessage _ hAnswer
              · show ∀ message ∈ c.toHost, _
                rw [hToHost]
                exact fun _ hNone => (nomatch hNone)
      · cases hPosition
      · exact concluded_lost (ForwardPosition.lost_of_step hPosition rfl hReceive hSent)
  | forwarding hostPort =>
      rw [hBefore] at hPosition hExchange
      obtain ⟨hReported, hTold, hSettled, hToHost, -⟩ := hExchange
      have hSilent : Silent handler c :=
        ⟨.inl hSettled.settled, fun message hMessage => isLate_of_isIdleReply (hToHost message hMessage)⟩
      rcases hEffect with ⟨message, rest, rfl, -, rfl⟩ | ⟨rfl, rfl⟩ | ⟨hReceive, -, rfl⟩
      · cases hPosition
        cases message <;> trivial
      · cases hPosition
      · cases cliInput with
        | receive message => exact absurd rfl (hReceive message)
        | fail | ctrlC =>
            cases hPosition
            exact ⟨hTold.reported hReported, hSilent.handler, hSilent.toHost⟩
        | kill =>
            cases hPosition
            trivial
        | _ => cases hPosition
  | replying hostPort reply =>
      rw [hBefore] at hPosition
      rcases hEffect with ⟨message, rest, rfl, -, -⟩ | ⟨rfl, rfl⟩ | ⟨-, -, rfl⟩
      · cases hPosition
      · cases hPosition
        trivial
      · cases cliInput with
        | sent ok | kill =>
            cases hPosition
            trivial
        | _ => cases hPosition
  | stopping hostPort =>
      rw [hBefore] at hPosition
      unfold Concluded at h
      rw [hBefore] at h
      obtain ⟨hReported, hSilent⟩ := h
      rcases hEffect with ⟨message, rest, rfl, -, -⟩ | ⟨rfl, rfl⟩ | ⟨-, -, rfl⟩
      · cases hPosition
      · cases hPosition
        refine ⟨hReported, hSilent.handler, ?_⟩
        intro message hMessage
        rcases List.mem_append.mp hMessage with hOld | hNew
        · exact hSilent.toHost message hOld
        · rw [hBefore] at hNew
          rw [List.mem_singleton.mp hNew]
          rfl
      · cases cliInput with
        | sent ok =>
            cases hPosition
            exact ⟨hReported, hSilent.handler, hSilent.toHost⟩
        | kill =>
            cases hPosition
            trivial
        | _ => cases hPosition
  | refused error | finished | failed error | killed =>
      rw [hBefore] at hPosition
      cases hPosition

/-- What the task does for a process that has ended changes nothing about it. -/
theorem Concluded.host (hConnected : c.position.isConnected = true) (hUnread : c.unread input = some c')
    (hNext : nextHandler cfg ctx handler input = some (after, next)) (h : Concluded handler c) :
    Concluded next (c'.hear (handler.writes ctx input)) := by
  have hKept : (c'.hear (handler.writes ctx input)).position = c.position := by
    rcases ForwardClient.unread_some hUnread with ⟨message, -, -, hKept⟩ | ⟨-, rfl⟩
    · rw [hKept]
      rfl
    · rfl
  have hSame : c'.Reported ↔ c.Reported := by
    rcases ForwardClient.unread_some hUnread with ⟨message, -, -, hKept⟩ | ⟨-, rfl⟩
    · rw [hKept]
      exact Iff.rfl
    · exact Iff.rfl
  have concluded : c.Reported ∧ Silent handler c →
      (c'.hear (handler.writes ctx input)).Reported ∧ Silent next (c'.hear (handler.writes ctx input)) := by
    rintro ⟨hReported, hSilent⟩
    obtain ⟨hStill, hMessages⟩ := hSilent.host hUnread hNext
    exact ⟨(hSame.mpr hReported).hear hMessages, hStill⟩
  unfold Concluded at h ⊢
  rw [hKept]
  cases hBefore : c.position with
  | stopping hostPort | finished =>
      rw [hBefore] at h
      exact concluded h
  | failed error =>
      rw [hBefore] at h
      cases error with
      | control => trivial
      | unexpectedResponse other => exact h
      | connection reason | registrationRejected => exact concluded h
  | refused error =>
      rw [hBefore] at hConnected
      cases hConnected
  | _ => trivial

theorem Concluded.hear {messages : List Message} (hConnected : c.position.isConnected = true)
    (hLoop : handler.inLoop = true) (hSettled : handler.Settled → next.Settled)
    (hMessages : ∀ message ∈ messages, message.isAck = false) (h : Concluded handler c) :
    Concluded next (c.hear messages) := by
  have concluded : c.Reported ∧ Silent handler c →
      (c.hear messages).Reported ∧ Silent next (c.hear messages) := by
    rintro ⟨hReported, hSilent⟩
    refine ⟨hReported.hear hMessages, ?_, hSilent.toHost⟩
    rcases hSilent.handler with hHere | hHere
    · exact .inl (hSettled hHere)
    · cases handler <;> first | exact False.elim hHere | cases hLoop
  unfold Concluded at h ⊢
  rw [show (c.hear messages).position = c.position from rfl]
  cases hBefore : c.position with
  | stopping hostPort | finished =>
      rw [hBefore] at h
      exact concluded h
  | failed error =>
      rw [hBefore] at h
      cases error with
      | control => trivial
      | unexpectedResponse other => exact h
      | connection reason | registrationRejected => exact concluded h
  | refused error =>
      rw [hBefore] at hConnected
      cases hConnected
  | _ => trivial

theorem Concluded.turn (hExchange : Exchange (· = []) forwardArgs handler c) (h : Concluded handler c)
    (hTurn : Turn cfg forwardArgs ctx handler c next c') : Concluded next c' := by
  cases hTurn with
  | rest => exact h
  | apart hPosition =>
      unfold Concluded at h ⊢
      cases hBefore : c.position <;> rw [hBefore] at h hPosition <;> first | exact h | cases hPosition
  | connect hStep =>
      -- the task has not read anything, so that it does not matter which one it is
      obtain ⟨position, hPosition, hEffect⟩ := ForwardClient.step_some hStep
      cases hBefore : c.position <;> rw [hBefore] at hPosition <;> cases hPosition
      rcases hEffect with ⟨_, _, hOther, -⟩ | ⟨hOther, -⟩ | ⟨-, -, rfl⟩
      · cases hOther
      · cases hOther
      · trivial
  | client _ hStep => exact h.client hExchange hStep
  | host hConnected hUnread hNext => exact h.host hConnected hUnread hNext
  | hear hConnected hLoop hSettled _ hMessages => exact h.hear hConnected hLoop hSettled hMessages

namespace Fleet

/-- Before the host has answered a process that waits, nothing but the answers
is written to its connection: no socket is replayed, and the message loop takes
neither a queued message nor a heartbeat. -/
def Undistracted (f : Fleet) (id : Nat) (action : FleetAction) : Prop :=
  (f.clients id).Unanswered → (f.clients id).position.isOver = false →
    match action with
    | .replay other order sent => other = id → replayMessages order sent = []
    | .flush other sent => other = id → sent = false
    | .heartbeat other => other ≠ id
    | .host other (.flushRequest true) => other ≠ id
    | _ => True

/-- The process agrees with the host: it has not stopped at a message that is
not an answer, and a forward that the host has acknowledged it has reported or
reports with the message that it reads next. It may have been killed or lost its
connection before. -/
def Agrees (args : Nat → ForwardArgs) (id : Nat) (f : Fleet) : Prop :=
  (∀ other, (f.clients id).position ≠ .failed (.unexpectedResponse other)) ∧
    ∀ message ∈ (f.clients id).written, ∀ hostPort, message.forwardAnswer = some (true, hostPort) →
      (f.clients id).reported = some hostPort ∨
        (∃ answer c, (f.clients id).step (args id) (.receive answer) = some c ∧ c.reported = some hostPort) ∨
        (f.clients id).position = .killed ∨ (f.clients id).position = .failed .control

/-- What the agreement of one process rests on. -/
structure Concord (args : Nat → ForwardArgs) (id : Nat) (f : Fleet) : Prop where
  queues : f.daemon.QueuesSockets
  exchange : Exchange (· = []) (args id) (f.daemon.tasks id) (f.clients id)
  concluded : Concluded (f.daemon.tasks id) (f.clients id)

theorem step_queuesSockets (hStep : f.step cfg args action = some f') (h : f.daemon.QueuesSockets) :
    f'.daemon.QueuesSockets := by
  rcases step_daemon hStep with hSame | ⟨_, -, hDaemon⟩
  · rw [hSame]
    exact h
  · exact Daemon.step_queuesSockets hDaemon h

theorem written_of_step (h : c.step forwardArgs cliInput = some c') : c'.written = c.written := by
  obtain ⟨position, -, ⟨_, _, -, -, rfl⟩ | ⟨-, rfl⟩ | ⟨-, -, rfl⟩⟩ := ForwardClient.step_some h <;> rfl

theorem written_of_unread (h : c.unread input = some c') : c'.written = c.written := by
  rcases ForwardClient.unread_some h with ⟨message, -, -, hKept⟩ | ⟨-, rfl⟩
  · rw [hKept]
  · rfl

/-- In the message loop a task only writes the requests it takes from its queue. -/
theorem Handler.writes_inLoop (hLoop : handler.inLoop = true) (hInput : input ≠ .flushRequest true) :
    handler.writes ctx input = [] := by
  cases handler with
  | registerReplay containerId registrationId =>
      cases input with
      | sent ok => cases ok <;> rfl
      | _ => rfl
  | serving containerId registrationId =>
      cases input with
      | sent ok => cases ok <;> rfl
      | flushRequest ok =>
          cases ok with
          | true => exact absurd rfl hInput
          | false => rfl
      | _ => rfl
  | _ => cases hLoop

/-- An admitted step writes nothing unasked to a process that waits. -/
theorem Undistracted.quiet (h : f.Undistracted id action) (hStep : f.step cfg args action = some f')
    (hUnanswered : (f.clients id).Unanswered) (hWaiting : (f.clients id).position.isOver = false)
    (hLoop : (f.daemon.tasks id).inLoop = true) : (f'.clients id).written = (f.clients id).written := by
  have hGuard := h hUnanswered hWaiting
  by_cases hHere : action.process? = some id
  case neg => rw [step_clients hStep hHere]
  case pos =>
    cases step_cases hStep with
    | connect _ hClient _ =>
        obtain rfl := Option.some.inj hHere
        rw [setClient_self]
        exact written_of_step hClient
    | client _ hClient =>
        obtain rfl := Option.some.inj hHere
        rw [setClient_self]
        exact written_of_step hClient
    | @host other taskInput c daemon _ hUnread _ =>
        obtain rfl := Option.some.inj hHere
        have hInput : taskInput ≠ .flushRequest true := by
          rintro rfl
          exact hGuard rfl
        rw [setClient_self, Handler.writes_inLoop hLoop hInput, hear_nil]
        exact written_of_unread hUnread
    | replay =>
        obtain rfl := Option.some.inj hHere
        rw [setClient_self, hGuard rfl, hear_nil]
    | @flush other sent =>
        obtain rfl := Option.some.inj hHere
        obtain rfl : sent = false := hGuard rfl
        rw [setClient_self]
        exact congrArg ForwardClient.written hear_nil
    | heartbeat => exact absurd (Option.some.inj hHere) hGuard
    | other => cases hHere

theorem Concord.start (cfg : HostConfig) (args : Nat → ForwardArgs) (id : Nat) :
    Concord args id (Fleet.start cfg) where
  queues := Daemon.start_queuesSockets cfg
  exchange := ⟨rfl, rfl, fun _ hNone => (nomatch hNone)⟩
  concluded := trivial

theorem Concord.step (h : Concord args id f) (hGuard : f.Undistracted id action)
    (hStep : f.step cfg args action = some f') : Concord args id f' := by
  have hTurn := step_turn h.queues hStep id
  refine ⟨step_queuesSockets hStep h.queues, h.exchange.turn rfl ?_ ?_ hTurn, h.concluded.turn h.exchange hTurn⟩
  · intro messages hNone
    rw [hNone]
    exact fun _ hMember => (nomatch hMember)
  · intro hUnanswered hWaiting hLoop messages hMessages _ earlier hEarlier
    have hQuiet := hGuard.quiet hStep hUnanswered hWaiting hLoop
    rw [hMessages, List.append_right_eq_self] at hQuiet
    rw [hEarlier, hQuiet]
    rfl

theorem Concord.agrees (h : Concord args id f) : Agrees args id f := by
  have hExchange := h.exchange
  have hConcluded := h.concluded
  unfold Exchange at hExchange
  unfold Concluded at hConcluded
  constructor
  · intro other hPosition
    rw [hPosition] at hConcluded
    exact hConcluded
  · intro message hMessage hostPort hAnswer
    have unanswered : ¬(f.clients id).Unanswered := by
      intro hUnanswered
      rw [hUnanswered message hMessage] at hAnswer
      cases hAnswer
    cases hPosition : (f.clients id).position with
    | connecting =>
        rw [hPosition] at hExchange
        exact absurd hExchange.2.2 unanswered
    | sendingRegister =>
        rw [hPosition] at hExchange
        exact absurd hExchange.2.2.2 unanswered
    | awaitingRegisterAck =>
        rw [hPosition] at hExchange
        exact absurd hExchange.1 unanswered
    | sendingForward =>
        rw [hPosition] at hExchange
        exact absurd hExchange.1 unanswered
    | awaitingForwardAck =>
        rw [hPosition] at hExchange
        rcases hExchange with ⟨hUnanswered, -⟩ | ⟨success, answered, before, later, hTold, -, -, hHead, rfl, -⟩
        · exact absurd hUnanswered unanswered
        · refine .inr (.inl ⟨.forwardAck (args id).port success answered, ?_⟩)
          cases hTold message hMessage _ hAnswer
          unfold ForwardClient.step
          rw [hHead]
          simp [hPosition, ForwardPosition.step, ForwardPosition.onForwardAck, ForwardClient.moveTo,
            ForwardPosition.announced]
    | forwarding reportedPort =>
        rw [hPosition] at hExchange
        exact .inl (hExchange.2.1.reported hExchange.1 message hMessage hostPort hAnswer)
    | replying reportedPort reply =>
        rw [hPosition] at hExchange
        exact .inl (hExchange.2.2.1.reported hExchange.2.1 message hMessage hostPort hAnswer)
    | stopping reportedPort | finished =>
        rw [hPosition] at hConcluded
        exact .inl (hConcluded.1 message hMessage hostPort hAnswer)
    | failed error =>
        rw [hPosition] at hConcluded
        cases error with
        | control => exact .inr (.inr (.inr rfl))
        | unexpectedResponse other => exact hConcluded.elim
        | connection reason | registrationRejected =>
            exact .inl (hConcluded.1 message hMessage hostPort hAnswer)
    | refused error =>
        rw [hPosition] at hConcluded
        exact absurd hConcluded unanswered
    | killed => exact .inr (.inr (.inl rfl))

/-- `dbr forward` agrees with the host in every run in which nothing else is
written to it before the answer to its Forward. -/
theorem manualForward_agrees {trace : List (Fleet × FleetAction)} {finish : Fleet} {id : Nat}
    (run : Run (Fleet.step cfg args) (Fleet.start cfg) trace finish)
    (hGuard : Guarded (fun f action => f.Undistracted id action) trace) :
    Throughout (Agrees args id) trace finish := by
  have hConcord := run.throughout hGuard (Concord.start cfg args id)
    (fun middle action after h hAllowed hStep => h.step hAllowed hStep)
  exact ⟨fun entry hEntry => (hConcord.1 entry hEntry).agrees, hConcord.2.agrees⟩

/-- A process registers and is sent the sockets that are known. -/
def registerSchedule (id : Nat) (args : ForwardArgs) (order : List (Σ _ : String, SocketInfo)) :
    List FleetAction :=
  [.connect id, .client id (.sent true),
    .host id (.receive (.register cliContainerId cliHostname args.authToken)), .host id .proceed,
    .host id (.sent true), .client id (.receive (.registerAck true)), .host id .proceed, .host id .proceed,
    .replay id order fun _ => true]

/-- A registered process forwards its port, which is not forwarded yet. -/
def forwardSchedule (id : Nat) (args : ForwardArgs) (hostPort : UInt16) : List FleetAction :=
  .client id (.sent true) :: [.receive (.forward args.port .tcp none none), .proceed, .proceed, .proceed,
    .bound (some hostPort), .timestamp "0", .proceed, .sent true].map (.host id)

/-- The arguments of a forward of port 8080. -/
def webArgs : ForwardArgs where
  addr := "127.0.0.1:19285"
  port := 8080
  authToken := ""

/-- A step that writes nothing but answers. -/
def isAnswering (_ : Fleet) : FleetAction → Bool
  | .replay _ order _ => order.isEmpty
  | .flush _ sent => !sent
  | .heartbeat _ | .host _ (.flushRequest true) => false
  | _ => true

theorem undistracted_of_isAnswering (h : f.isAnswering action = true) : f.Undistracted id action := by
  intro _ _
  cases action with
  | replay other order sent =>
      intro _
      obtain rfl : order = [] := List.isEmpty_iff.mp h
      rfl
  | flush other sent =>
      intro _
      simpa [isAnswering] using h
  | heartbeat other => cases h
  | host other input =>
      cases input with
      | flushRequest ok =>
          cases ok with
          | true => cases h
          | false => trivial
      | _ => trivial
  | _ => trivial

theorem manualForward_agrees_undisturbed :
    ∃ trace finish, trace.map Prod.snd = registerSchedule 1 webArgs [] ++ forwardSchedule 1 webArgs 8080 ++
        [.client 1 (.receive (.forwardAck 8080 true 8080))] ∧
      Run (Fleet.step .scanning fun _ => webArgs) (Fleet.start .scanning) trace finish ∧
      Guarded (fun f action => f.Undistracted 1 action) trace ∧
      .forwardAck 8080 true 8080 ∈ (finish.clients 1).written ∧ (finish.clients 1).reported = some 8080 ∧
      Throughout (Agrees (fun _ => webArgs) 1) trace finish := by
  have hRun : (execWhile (Fleet.step .scanning fun _ => webArgs) isAnswering (Fleet.start .scanning)
      (registerSchedule 1 webArgs [] ++ forwardSchedule 1 webArgs 8080 ++
        [.client 1 (.receive (.forwardAck 8080 true 8080))])).any fun f =>
      (f.clients 1).written.contains (.forwardAck 8080 true 8080) && (f.clients 1).reported == some 8080 := by
    decide +kernel
  obtain ⟨finish, hExec, hState⟩ := (Option.any_eq_true _ _).mp hRun
  simp only [Bool.and_eq_true, beq_iff_eq, List.contains_iff_mem] at hState
  obtain ⟨trace, hActions, run, hAnswering⟩ := run_of_execWhile hExec
  have hGuard : Guarded (fun f action => f.Undistracted 1 action) trace :=
    fun entry hEntry => undistracted_of_isAnswering (hAnswering entry hEntry)
  exact ⟨trace, finish, hActions, run, hGuard, hState.1, hState.2, manualForward_agrees run hGuard⟩

/-- A socket is known when the process registers. The replay comes before the
ForwardAck and ends `run_forward`, while the host has forwarded the port. -/
def straySchedule : List FleetAction :=
  let sockets := someSockets 1
  [.other (.task 0 (.scan sockets [] [])), .other (.task 0 .proceed)] ++
    registerSchedule 1 webArgs (sockets.map fun info => ⟨info.socketId, info⟩) ++
    forwardSchedule 1 webArgs 8080 ++ [.client 1 (.receive (.socketForward "a" "/tmp/a" "/tmp/a"))]

theorem manualForward_disagrees :
    ∃ trace finish, trace.map Prod.snd = straySchedule ∧
      Run (Fleet.step .scanning fun _ => webArgs) (Fleet.start .scanning) trace finish ∧
      finish.daemon.ctx.state.forwardOf cliContainerId 8080 = some onlyForward ∧
      (finish.clients 1).written = [.registerAck true, .socketForward "a" "/tmp/a" "/tmp/a",
        .forwardAck 8080 true 8080] ∧
      (finish.clients 1).position = .failed (.unexpectedResponse (.socketForward "a" "/tmp/a" "/tmp/a")) ∧
      ¬Throughout (Agrees (fun _ => webArgs) 1) trace finish := by
  have hRun : (exec (Fleet.step .scanning fun _ => webArgs) (Fleet.start .scanning) straySchedule).any fun f =>
      f.daemon.ctx.state.forwardOf cliContainerId 8080 == some onlyForward &&
        (f.clients 1).written == [.registerAck true, .socketForward "a" "/tmp/a" "/tmp/a",
          .forwardAck 8080 true 8080] &&
        (f.clients 1).position == .failed (.unexpectedResponse (.socketForward "a" "/tmp/a" "/tmp/a")) := by
    decide +kernel
  obtain ⟨finish, hExec, hState⟩ := (Option.any_eq_true _ _).mp hRun
  simp only [Bool.and_eq_true, beq_iff_eq] at hState
  obtain ⟨⟨hForwarded, hWritten⟩, hFailed⟩ := hState
  obtain ⟨trace, hActions, run⟩ := run_of_exec hExec
  exact ⟨trace, finish, hActions, run, hForwarded, hWritten, hFailed,
    fun hAgrees => hAgrees.2.1 _ hFailed⟩

end Fleet
end DevcontainerBridge
