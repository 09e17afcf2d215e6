import DevcontainerBridge.Container.Supervisor
import DevcontainerBridge.Host.Capacity

/-! Registration attempts of a supervised container daemon. The host answers
every rejection with the same message, and the container takes that message
for a wrong token. -/
namespace DevcontainerBridge

open Table Transition

/-- The supervised daemon, its current control connection and the task of the
host that serves this connection. -/
structure Enrolment where
  supervisor : Supervisor
  toHost : List Message
  toContainer : List Message
  ctx : DaemonContext
  handler : Handler

inductive EnrolmentAction where
  | container (input : SupervisorInput)
  | host (input : Input)
  /-- the message loop of the host's task sends something -/
  | notify (message : Message)
  /-- other tasks of the host act -/
  | others (ctx : DaemonContext)

/-- The RegisterAck that a task is about to send. -/
def Handler.registerAnswer : Handler → Option Message
  | .replying message => some message
  | .registerAck .. => some (.registerAck true)
  | _ => none

/-- Positions from the replay on at which a registered connection sends. -/
def Handler.sendsEnrolled : Handler → Bool
  | .registerReplay .. | .serving .. | .sendPong .. | .forwardAck .. | .socketReply .. | .openUrlAck .. =>
      true
  | _ => false

def Message.isRegisterAck : Message → Bool
  | .registerAck _ => true
  | _ => false

namespace Enrolment

/-- What the supervised daemon is about to send. -/
def outgoing (ccfg : ContainerConfig) (e : Enrolment) : List Message :=
  match e.supervisor with
  | .running c => (c.outgoing ccfg).toList
  | _ => []

/-- A step of the container's side. Connecting opens a new connection. -/
def stepContainer (ccfg : ContainerConfig) (e : Enrolment) (input : SupervisorInput) : Option Enrolment :=
  match input, e.toContainer with
  | .daemon (.receive message), first :: rest =>
      if message = first then
        (e.supervisor.step ccfg input).map fun supervisor =>
          { e with supervisor := supervisor, toContainer := rest }
      else
        none
  | .daemon (.receive _), [] => none
  | .daemon (.connected true), _ =>
      (e.supervisor.step ccfg input).map fun supervisor =>
        { e with supervisor := supervisor, toHost := [], toContainer := [], handler := .awaitFirst }
  | .daemon (.sent true), _ =>
      (e.supervisor.step ccfg input).map fun supervisor =>
        { e with supervisor := supervisor, toHost := e.toHost ++ e.outgoing ccfg }
  | _, _ => (e.supervisor.step ccfg input).map fun supervisor => { e with supervisor := supervisor }

/-- A step of the host's task for the connection. -/
def stepHost (hcfg : HostConfig) (e : Enrolment) (input : Input) : Option Enrolment :=
  match input, e.toHost with
  | .receive message, first :: rest =>
      if message = first then
        (nextHandler hcfg e.ctx e.handler input).map fun (ctx, handler) =>
          { e with ctx := ctx, handler := handler, toHost := rest }
      else
        none
  | .receive _, [] => none
  | .sent true, _ =>
      (nextHandler hcfg e.ctx e.handler input).map fun (ctx, handler) =>
        { e with
          ctx := ctx
          handler := handler
          toContainer := e.toContainer ++ e.handler.registerAnswer.toList }
  | _, _ =>
      (nextHandler hcfg e.ctx e.handler input).map fun (ctx, handler) =>
        { e with ctx := ctx, handler := handler }

def step (ccfg : ContainerConfig) (hcfg : HostConfig) (e : Enrolment) : EnrolmentAction → Option Enrolment
  | .container input => e.stepContainer ccfg input
  | .host input => e.stepHost hcfg input
  | .notify message =>
      if e.handler.sendsEnrolled && !message.isRegisterAck then
        some { e with toContainer := e.toContainer ++ [message] }
      else
        none
  | .others ctx => some { e with ctx := ctx }

/-- The supervisor has just been started, with any state of the host. -/
def start (ctx : DaemonContext) : Enrolment where
  supervisor := .starting
  toHost := []
  toContainer := []
  ctx := ctx
  handler := .finished

/-- Register takes its lock in a given state of the host. -/
def LocksIn (s : HostState) (e : Enrolment) (action : EnrolmentAction) : Prop :=
  ∀ containerId hostname, e.handler = .registerRemove containerId hostname →
    action = .host .proceed → e.ctx.state = s

end Enrolment

/-- The host runs with a token and the container's token differs from it. -/
def TokenWrong (ccfg : ContainerConfig) (hcfg : HostConfig) : Prop :=
  ∃ expected, hcfg.authToken = some expected ∧ ccfg.authToken ≠ expected

/-- A Register of the container passes the checks other than the token's. -/
def HostState.Admits (hcfg : HostConfig) (s : HostState) (containerId : String) : Prop :=
  isValidIdentifier hcfg.tables containerId = true ∧
    (containerId ∈ s.containers ∨ s.containers.keys.card < maxContainers)

variable {ccfg : ContainerConfig} {hcfg : HostConfig} {s : HostState}

theorem accepts_eq_false_iff : hcfg.accepts ccfg.authToken = false ↔ TokenWrong ccfg hcfg := by
  unfold HostConfig.accepts TokenWrong
  cases hcfg.authToken <;> simp

theorem HostState.Admits.removeStale {containerId : String} (h : s.Admits hcfg containerId) :
    s.removeStale containerId ≠ none := by
  unfold HostState.removeStale
  rcases h.2 with hMember | hRoom
  · obtain ⟨cstate, hLookup⟩ := Finmap.mem_iff.mp hMember
    simp [hLookup]
  · cases s.containers.lookup containerId with
    | none => simp [hRoom]
    | some cstate => simp

/-- The answers of a task while it handles the Register of `containerId`. -/
def Handler.Enrolling (ccfg : ContainerConfig) (hcfg : HostConfig) : Handler → Prop
  | .registerRemove containerId _ => containerId = ccfg.containerId
  | .registerBrowser .. | .registerDrain .. | .registerAck .. | .finished => True
  | .replying message => message = .registerAck false ∧ TokenWrong ccfg hcfg
  | _ => False

namespace Enrolment

/-- Where a registration attempt stands between Register and its answer. -/
inductive Attempting (ccfg : ContainerConfig) (hcfg : HostConfig) (e : Enrolment) : Prop where
  | sent (handler : e.handler = .awaitFirst)
      (toHost : e.toHost = [.register ccfg.containerId ccfg.containerId ccfg.authToken])
      (toContainer : e.toContainer = [])
  | handling (handler : e.handler.Enrolling ccfg hcfg) (toContainer : e.toContainer = [])
  | answered (success : Bool) (rest : List Message) (toContainer : e.toContainer = .registerAck success :: rest)
      (hRejected : success = false → TokenWrong ccfg hcfg)

/-- The invariant of runs in which the host admits the container. -/
structure Sound (ccfg : ContainerConfig) (hcfg : HostConfig) (e : Enrolment) : Prop where
  registering : ∀ c, e.supervisor = .running c → c.position = .sendingRegister →
    (e.handler = .awaitFirst ∨ e.handler = .finished) ∧ e.toHost = [] ∧ e.toContainer = []
  attempting : ∀ c, e.supervisor = .running c → c.position = .awaitingAck → e.Attempting ccfg hcfg
  ended : e.supervisor = .ended exitPermanentFailure → TokenWrong ccfg hcfg

end Enrolment

theorem dispatchFirst_register (hValid : isValidIdentifier hcfg.tables ccfg.containerId = true) :
    (dispatchFirst hcfg (.register ccfg.containerId ccfg.containerId ccfg.authToken)).Enrolling ccfg hcfg := by
  cases hAccepts : hcfg.accepts ccfg.authToken with
  | false =>
      have hReject : dispatchFirst hcfg (.register ccfg.containerId ccfg.containerId ccfg.authToken) =
          .replying (.registerAck false) := by simp [dispatchFirst, hValid, hAccepts]
      rw [hReject]
      exact ⟨rfl, accepts_eq_false_iff.mp hAccepts⟩
  | true =>
      have hAccept : dispatchFirst hcfg (.register ccfg.containerId ccfg.containerId ccfg.authToken) =
          .registerRemove ccfg.containerId ccfg.containerId := by simp [dispatchFirst, hValid, hAccepts]
      rw [hAccept]
      exact rfl

/-- While the host has not answered, its task goes on with the Register. It
is refused for its token only, as the lock finds the container admitted. -/
theorem Handler.Enrolling.next {ctx after : DaemonContext} {handler next : Handler} {input : Input}
    (hAdmits : s.Admits hcfg ccfg.containerId) (h : handler.Enrolling ccfg hcfg)
    (hLock : ∀ containerId hostname, handler = .registerRemove containerId hostname →
      input = .proceed → ctx.state = s)
    (hStep : nextHandler hcfg ctx handler input = some (after, next)) :
    (input ≠ .sent true → next.Enrolling ccfg hcfg) ∧
    (input = .sent true → ∃ success, handler.registerAnswer = some (.registerAck success) ∧
      (success = false → TokenWrong ccfg hcfg)) := by
  have hRegister : nextRegister hcfg ctx handler input = some (after, next) := by
    cases handler <;> first | exact hStep | exact absurd h (by simp [Enrolling])
  cases nextRegister_cases hRegister with
  | replied message ok =>
      obtain ⟨rfl, hToken⟩ := h
      exact ⟨fun _ => trivial, fun _ => ⟨false, rfl, fun _ => hToken⟩⟩
  | @refused containerId hostname hStale =>
      obtain rfl : containerId = ccfg.containerId := h
      rw [hLock _ _ rfl rfl] at hStale
      exact absurd hStale hAdmits.removeStale
  | unknown => exact ⟨fun _ => trivial, fun hSent => (nomatch hSent)⟩
  | stale => exact ⟨fun _ => trivial, fun hSent => (nomatch hSent)⟩
  | unmapped => exact ⟨fun _ => trivial, fun hSent => (nomatch hSent)⟩
  | drained => exact ⟨fun _ => trivial, fun hSent => (nomatch hSent)⟩
  | drainedOne => exact ⟨fun _ => trivial, fun hSent => (nomatch hSent)⟩
  | acknowledged =>
      exact ⟨fun hFailed => absurd rfl hFailed, fun _ => ⟨true, rfl, fun hFalse => (nomatch hFalse)⟩⟩
  | unacknowledged => exact ⟨fun _ => trivial, fun hSent => (nomatch hSent)⟩
  | _ => exact absurd h (by simp [Enrolling])

namespace Enrolment

variable {e after : Enrolment}

theorem stepHost_some {input : Input} (h : e.stepHost hcfg input = some after) :
    nextHandler hcfg e.ctx e.handler input = some (after.ctx, after.handler) ∧
    after.supervisor = e.supervisor ∧
    ((∃ message, input = .receive message ∧ e.toHost = message :: after.toHost ∧
        after.toContainer = e.toContainer) ∨
      (input = .sent true ∧ after.toHost = e.toHost ∧
        after.toContainer = e.toContainer ++ e.handler.registerAnswer.toList) ∨
      ((∀ message, input ≠ .receive message) ∧ input ≠ .sent true ∧ after.toHost = e.toHost ∧
        after.toContainer = e.toContainer)) := by
  unfold stepHost at h
  split at h
  case h_1 message first rest hToHost =>
    split_ifs at h with hSame
    obtain ⟨⟨ctx, handler⟩, hNext, rfl⟩ := Option.map_eq_some_iff.mp h
    exact ⟨hNext, rfl, .inl ⟨message, rfl, by rw [hToHost, hSame], rfl⟩⟩
  case h_2 => cases h
  case h_3 =>
    obtain ⟨⟨ctx, handler⟩, hNext, rfl⟩ := Option.map_eq_some_iff.mp h
    exact ⟨hNext, rfl, .inr (.inl ⟨rfl, rfl, rfl⟩)⟩
  case h_4 hSent hFirst hNone =>
    obtain ⟨⟨ctx, handler⟩, hNext, rfl⟩ := Option.map_eq_some_iff.mp h
    refine ⟨hNext, rfl, .inr (.inr ⟨?_, hSent, rfl, rfl⟩)⟩
    intro message hReceive
    cases hToHost : e.toHost with
    | nil => exact hNone message hReceive hToHost
    | cons first rest => exact hFirst message first rest hReceive hToHost

theorem stepContainer_some {input : SupervisorInput} (h : e.stepContainer ccfg input = some after) :
    e.supervisor.step ccfg input = some after.supervisor ∧
    ((∃ message, input = .daemon (.receive message) ∧ e.toContainer = message :: after.toContainer) ∨
      (input = .daemon (.connected true) ∧ after.toHost = [] ∧ after.toContainer = [] ∧
        after.handler = .awaitFirst) ∨
      (input = .daemon (.sent true) ∧ after.toHost = e.toHost ++ e.outgoing ccfg ∧
        after.toContainer = e.toContainer ∧ after.handler = e.handler) ∨
      ((∀ message, input ≠ .daemon (.receive message)) ∧ input ≠ .daemon (.connected true) ∧
        input ≠ .daemon (.sent true))) := by
  unfold stepContainer at h
  split at h
  case h_1 message first rest hToContainer =>
    split_ifs at h with hSame
    obtain ⟨supervisor, hNext, rfl⟩ := Option.map_eq_some_iff.mp h
    exact ⟨hNext, .inl ⟨message, rfl, by rw [hToContainer, hSame]⟩⟩
  case h_2 => cases h
  case h_3 =>
    obtain ⟨supervisor, hNext, rfl⟩ := Option.map_eq_some_iff.mp h
    exact ⟨hNext, .inr (.inl ⟨rfl, rfl, rfl, rfl⟩)⟩
  case h_4 =>
    obtain ⟨supervisor, hNext, rfl⟩ := Option.map_eq_some_iff.mp h
    exact ⟨hNext, .inr (.inr (.inl ⟨rfl, rfl, rfl, rfl⟩))⟩
  case h_5 hConnected hSent hFirst hNone =>
    obtain ⟨supervisor, hNext, rfl⟩ := Option.map_eq_some_iff.mp h
    refine ⟨hNext, .inr (.inr (.inr ⟨?_, hConnected, hSent⟩))⟩
    intro message hReceive
    cases hToContainer : e.toContainer with
    | nil => exact hNone message hReceive hToContainer
    | cons first rest => exact hFirst message first rest hReceive hToContainer

/-- A step of the host's task keeps an attempt in order. -/
theorem Attempting.host {input : Input} (hAdmits : s.Admits hcfg ccfg.containerId)
    (h : e.Attempting ccfg hcfg) (hLock : e.LocksIn s (.host input))
    (hStep : e.stepHost hcfg input = some after) : after.Attempting ccfg hcfg := by
  obtain ⟨hNext, -, hChannels⟩ := stepHost_some hStep
  cases h with
  | sent hHandler hToHost hToContainer =>
      rw [hHandler] at hNext
      rcases hChannels with ⟨message, rfl, hTaken, hSame⟩ | ⟨rfl, -, -⟩ | ⟨hNotReceive, -, hSame, hSame'⟩
      · rw [hToHost] at hTaken
        obtain ⟨rfl, -⟩ := List.cons.inj hTaken
        obtain ⟨-, hDispatched⟩ := Prod.mk.inj (Option.some.inj hNext)
        refine .handling ?_ (hSame.trans hToContainer)
        rw [← hDispatched]
        exact dispatchFirst_register hAdmits.1
      · cases hNext
      · cases input with
        | receive message => exact absurd rfl (hNotReceive message)
        | fail =>
            refine .handling ?_ (hSame'.trans hToContainer)
            obtain ⟨-, hFinished⟩ := Prod.mk.inj (Option.some.inj hNext)
            rw [← hFinished]
            trivial
        | _ => cases hNext
  | handling hEnrolling hToContainer =>
      have hLock' : ∀ containerId hostname, e.handler = .registerRemove containerId hostname →
          input = .proceed → e.ctx.state = s := by
        rintro containerId hostname hHandler rfl
        exact hLock containerId hostname hHandler rfl
      obtain ⟨hGoesOn, hAnswers⟩ := hEnrolling.next hAdmits hLock' hNext
      rcases hChannels with ⟨message, rfl, -, hSame⟩ | ⟨rfl, -, hAppended⟩ | ⟨-, hNotSent, -, hSame⟩
      · exact .handling (hGoesOn (by simp)) (hSame.trans hToContainer)
      · obtain ⟨success, hAnswer, hRejected⟩ := hAnswers rfl
        refine .answered success [] ?_ hRejected
        rw [hAppended, hToContainer, hAnswer]
        rfl
      · exact .handling (hGoesOn hNotSent) (hSame.trans hToContainer)
  | answered success rest hToContainer hRejected =>
      rcases hChannels with ⟨message, -, -, hSame⟩ | ⟨-, -, hAppended⟩ | ⟨-, -, -, hSame⟩
      · exact .answered success rest (hSame.trans hToContainer) hRejected
      · exact .answered success _ (by rw [hAppended, hToContainer]; rfl) hRejected
      · exact .answered success rest (hSame.trans hToContainer) hRejected

/-- Steps of the container's side. A registration starts on a new connection
and is decided by the first message on it. -/
theorem Sound.container {input : SupervisorInput} (h : e.Sound ccfg hcfg)
    (hStep : e.stepContainer ccfg input = some after) : after.Sound ccfg hcfg := by
  obtain ⟨hNext, hChannels⟩ := stepContainer_some hStep
  have hEntered : ∀ next, after.supervisor = .running next → next.position.enrolling = true →
      input = .daemon (.connected true) ∧ next.position = .sendingRegister ∨
        ∃ c, e.supervisor = .running c ∧ c.position = .sendingRegister ∧ input = .daemon (.sent true) ∧
          next.position = .awaitingAck := by
    intro next hRunning hEnrolling
    rw [hRunning] at hNext
    rcases Supervisor.step_running hNext with rfl | ⟨c, i, hBefore, rfl, hDaemon⟩
    · cases hEnrolling
    · rcases ContainerDaemon.enrolling_step hDaemon hEnrolling with ⟨rfl, hSending⟩ | ⟨hSending, rfl, hAwaiting⟩
      · exact .inl ⟨rfl, hSending⟩
      · exact .inr ⟨c, hBefore, hSending, rfl, hAwaiting⟩
  constructor
  · intro next hRunning hPosition
    rcases hEntered next hRunning (by rw [hPosition]; rfl) with ⟨rfl, -⟩ | ⟨-, -, -, -, hAwaiting⟩
    · rcases hChannels with ⟨_, hOther, -⟩ | ⟨-, hToHost, hToContainer, hHandler⟩ | ⟨hOther, -⟩ | ⟨-, hOther, -⟩
      · cases hOther
      · exact ⟨.inl hHandler, hToHost, hToContainer⟩
      · cases hOther
      · exact absurd rfl hOther
    · rw [hPosition] at hAwaiting
      cases hAwaiting
  · intro next hRunning hPosition
    rcases hEntered next hRunning (by rw [hPosition]; rfl) with ⟨-, hSending⟩ | ⟨c, hBefore, hSending, rfl, -⟩
    · rw [hPosition] at hSending
      cases hSending
    · obtain ⟨hHandler, hToHost, hToContainer⟩ := h.registering c hBefore hSending
      rcases hChannels with ⟨_, hOther, -⟩ | ⟨hOther, -⟩ | ⟨-, hSent, hSame, hKept⟩ | ⟨-, -, hOther⟩
      · cases hOther
      · cases hOther
      · have hOutgoing : e.outgoing ccfg =
            [.register ccfg.containerId ccfg.containerId ccfg.authToken] := by
          simp [outgoing, hBefore, ContainerDaemon.outgoing, hSending]
        rw [hToHost, hOutgoing] at hSent
        rcases hHandler with hHandler | hHandler
        · exact .sent (hKept.trans hHandler) hSent (hSame.trans hToContainer)
        · refine .handling ?_ (hSame.trans hToContainer)
          rw [hKept, hHandler]
          trivial
      · exact absurd rfl hOther
  · intro hEnded
    rw [hEnded] at hNext
    obtain ⟨c, hBefore, hAwaiting, rfl⟩ := Supervisor.step_ended hNext
    rcases hChannels with ⟨message, hReceived, hToContainer⟩ | ⟨hOther, -⟩ | ⟨hOther, -⟩ | ⟨hOther, -⟩
    · cases hReceived
      cases h.attempting c hBefore hAwaiting with
      | sent _ _ hEmpty =>
          rw [hEmpty] at hToContainer
          cases hToContainer
      | handling _ hEmpty =>
          rw [hEmpty] at hToContainer
          cases hToContainer
      | answered success rest hAnswer hRejected =>
          rw [hAnswer] at hToContainer
          cases hToContainer
          exact hRejected rfl
    · cases hOther
    · cases hOther
    · exact absurd rfl (hOther _)

theorem Sound.host {input : Input} (hAdmits : s.Admits hcfg ccfg.containerId) (h : e.Sound ccfg hcfg)
    (hLock : e.LocksIn s (.host input)) (hStep : e.stepHost hcfg input = some after) :
    after.Sound ccfg hcfg := by
  obtain ⟨hNext, hSupervisor, hChannels⟩ := stepHost_some hStep
  constructor
  · intro c hRunning hPosition
    obtain ⟨hHandler, hToHost, hToContainer⟩ := h.registering c (hSupervisor ▸ hRunning) hPosition
    rcases hHandler with hHandler | hHandler <;> rw [hHandler] at hNext
    · -- nothing has been sent yet, so that the task can only give up waiting
      rcases hChannels with ⟨message, -, hTaken, -⟩ | ⟨rfl, -, -⟩ | ⟨hNotReceive, -, hSame, hSame'⟩
      · rw [hToHost] at hTaken
        cases hTaken
      · cases hNext
      · cases input with
        | receive message => exact absurd rfl (hNotReceive message)
        | fail =>
            obtain ⟨-, hFinished⟩ := Prod.mk.inj (Option.some.inj hNext)
            exact ⟨.inr hFinished.symm, hSame.trans hToHost, hSame'.trans hToContainer⟩
        | _ => cases hNext
    · cases hNext
  · intro c hRunning hPosition
    exact (h.attempting c (hSupervisor ▸ hRunning) hPosition).host hAdmits hLock hStep
  · intro hEnded
    exact h.ended (hSupervisor ▸ hEnded)

theorem Sound.step {action : EnrolmentAction} (hAdmits : s.Admits hcfg ccfg.containerId)
    (h : e.Sound ccfg hcfg) (hLock : e.LocksIn s action) (hStep : e.step ccfg hcfg action = some after) :
    after.Sound ccfg hcfg := by
  cases action with
  | container input => exact h.container hStep
  | host input => exact h.host hAdmits hLock hStep
  | notify message =>
      unfold Enrolment.step at hStep
      dsimp only at hStep
      split_ifs at hStep with hLoop
      cases hStep
      have hInLoop : e.handler.sendsEnrolled = true := (Bool.and_eq_true_iff.mp hLoop).1
      constructor
      · intro c hRunning hPosition
        obtain ⟨hHandler, -, -⟩ := h.registering c hRunning hPosition
        rcases hHandler with hHandler | hHandler <;> simp [hHandler, Handler.sendsEnrolled] at hInLoop
      · intro c hRunning hPosition
        cases h.attempting c hRunning hPosition with
        | sent hHandler _ _ => simp [hHandler, Handler.sendsEnrolled] at hInLoop
        | handling hEnrolling _ =>
            exfalso
            cases hHandler : e.handler <;> simp_all [Handler.sendsEnrolled, Handler.Enrolling]
        | answered success rest hToContainer hRejected =>
            exact .answered success (rest ++ [message]) (by rw [hToContainer]; rfl) hRejected
      · exact h.ended
  | others ctx =>
      cases hStep
      constructor
      · exact h.registering
      · intro c hRunning hPosition
        cases h.attempting c hRunning hPosition with
        | sent hHandler hToHost hToContainer => exact .sent hHandler hToHost hToContainer
        | handling hEnrolling hToContainer => exact .handling hEnrolling hToContainer
        | answered success rest hToContainer hRejected => exact .answered success rest hToContainer hRejected
      · exact h.ended

theorem sound_start (ctx : DaemonContext) : (start ctx).Sound ccfg hcfg :=
  ⟨fun _ h => (nomatch h), fun _ h => (nomatch h), fun h => (nomatch h)⟩

/-- The daemon waits for the answer to its Register. -/
def awaiting (ctx : DaemonContext) (handler : Handler) (toHost toContainer : List Message) : Enrolment where
  supervisor := .running (ContainerDaemon.start.moveTo .awaitingAck)
  toHost := toHost
  toContainer := toContainer
  ctx := ctx
  handler := handler

/-- Register is not about to take its lock. -/
def unlocked (e : Enrolment) (_ : EnrolmentAction) : Bool :=
  match e.handler with
  | .registerRemove .. => false
  | _ => true

theorem locksIn_of_unlocked {trace : List (Enrolment × EnrolmentAction)}
    (h : Guarded (fun e action => unlocked e action = true) trace) : Guarded (LocksIn s) trace := by
  intro entry hEntry containerId hostname hHandler
  have hUnlocked := h entry hEntry
  simp [unlocked, hHandler] at hUnlocked

/-- The daemon connects and its Register reaches the host. -/
theorem exists_run_dispatched (ccfg : ContainerConfig) (hcfg : HostConfig) (s : HostState)
    (ctx : DaemonContext) :
    ∃ trace, Run (step ccfg hcfg) (start ctx) trace
        (awaiting ctx
          (dispatchFirst hcfg (.register ccfg.containerId ccfg.containerId ccfg.authToken)) [] []) ∧
      Guarded (LocksIn s) trace := by
  have hExec : execWhile (step ccfg hcfg) unlocked (start ctx)
      [.container .started, .container (.daemon (.connected true)), .container (.daemon (.sent true)),
        .host (.receive (.register ccfg.containerId ccfg.containerId ccfg.authToken))] =
      some (awaiting ctx
        (dispatchFirst hcfg (.register ccfg.containerId ccfg.containerId ccfg.authToken)) [] []) := by
    simp [execWhile, unlocked, step, start, stepContainer, stepHost, Supervisor.step, outgoing,
      ContainerDaemon.step, ContainerDaemon.stepRun, ContainerDaemon.start, ContainerDaemon.moveTo,
      ContainerDaemon.returned, ContainerDaemon.outgoing, nextHandler, nextRegister, awaiting]
  obtain ⟨trace, -, run, hUnlocked⟩ := run_of_execWhile hExec
  exact ⟨trace, run, locksIn_of_unlocked hUnlocked⟩

/-- A rejection reaches the daemon, and the supervisor stops. -/
theorem exists_run_rejected (ccfg : ContainerConfig) (hcfg : HostConfig) (s : HostState)
    (ctx : DaemonContext) :
    ∃ trace finish, Run (step ccfg hcfg) (awaiting ctx (.replying (.registerAck false)) [] []) trace finish ∧
      Guarded (LocksIn s) trace ∧ finish.supervisor = .ended exitPermanentFailure := by
  have hExec : ∃ finish, execWhile (step ccfg hcfg) unlocked (awaiting ctx (.replying (.registerAck false)) [] [])
      [.host (.sent true), .container (.daemon (.receive (.registerAck false)))] = some finish ∧
      finish.supervisor = .ended exitPermanentFailure :=
    ⟨_, rfl, rfl⟩
  obtain ⟨finish, hExec, hEnded⟩ := hExec
  obtain ⟨trace, -, run, hUnlocked⟩ := run_of_execWhile hExec
  exact ⟨trace, finish, run, locksIn_of_unlocked hUnlocked, hEnded⟩

/-- A container that the host does not admit can be made to give up. -/
theorem exists_run_gaveUp {ctx : DaemonContext} (hState : ctx.state = s) (hToken : ¬TokenWrong ccfg hcfg)
    (h : ¬s.Admits hcfg ccfg.containerId) :
    ∃ trace finish, Run (step ccfg hcfg) (start ctx) trace finish ∧ Guarded (LocksIn s) trace ∧
      finish.supervisor = .ended exitPermanentFailure := by
  obtain ⟨trace, run, hGuard⟩ := exists_run_dispatched ccfg hcfg s ctx
  obtain ⟨last, finish, hLast, hLastGuard, hEnded⟩ :=
    exists_run_rejected ccfg hcfg s ctx
  cases hValid : isValidIdentifier hcfg.tables ccfg.containerId with
  | false =>
      have hDispatch : dispatchFirst hcfg (.register ccfg.containerId ccfg.containerId ccfg.authToken) =
          .replying (.registerAck false) := by simp [dispatchFirst, hValid]
      rw [hDispatch] at run
      exact ⟨trace ++ last, finish, run.trans hLast, hGuard.append hLastGuard, hEnded⟩
  | true =>
      have hAccepts : hcfg.accepts ccfg.authToken = true := by
        rw [← Bool.not_eq_false, accepts_eq_false_iff]
        exact hToken
      have hDispatch : dispatchFirst hcfg (.register ccfg.containerId ccfg.containerId ccfg.authToken) =
          .registerRemove ccfg.containerId ccfg.containerId := by simp [dispatchFirst, hValid, hAccepts]
      rw [hDispatch] at run
      have hFull : s.removeStale ccfg.containerId = none := by
        have hCrowded : ccfg.containerId ∉ s.containers ∧ maxContainers ≤ s.containers.keys.card := by
          simpa [HostState.Admits, hValid] using h
        simp [HostState.removeStale, Finmap.lookup_eq_none.mpr hCrowded.1, hCrowded.2]
      have hRefused : step ccfg hcfg
          (awaiting ctx (.registerRemove ccfg.containerId ccfg.containerId) [] []) (.host .proceed) =
          some (awaiting ctx (.replying (.registerAck false)) [] []) := by
        simp [step, stepHost, awaiting, nextHandler, nextRegister, hState, hFull]
      have hLock : Guarded (LocksIn s)
          [(awaiting ctx (.registerRemove ccfg.containerId ccfg.containerId) [] [], .host .proceed)] := by
        intro entry hEntry
        rw [List.mem_singleton.mp hEntry]
        exact fun _ _ _ _ => hState
      exact ⟨_, finish, (run.tail hRefused).trans hLast, (hGuard.append hLock).append hLastGuard, hEnded⟩

end Enrolment

/-- Giving up for good is about the token exactly if it is wrong, or nothing
else can be: whenever Register takes its lock, the container is admitted. -/
theorem gaveUp_tokenWrong_iff (ccfg : ContainerConfig) (hcfg : HostConfig) (s : HostState) :
    (∀ ctx trace finish, Run (Enrolment.step ccfg hcfg) (.start ctx) trace finish →
      Guarded (Enrolment.LocksIn s) trace → finish.supervisor = .ended exitPermanentFailure →
        TokenWrong ccfg hcfg) ↔
    TokenWrong ccfg hcfg ∨ s.Admits hcfg ccfg.containerId := by
  constructor
  · intro hAll
    by_contra hNeither
    obtain ⟨hToken, hAdmits⟩ := not_or.mp hNeither
    obtain ⟨trace, finish, run, hGuard, hEnded⟩ :=
      Enrolment.exists_run_gaveUp (rfl : { DaemonContext.new hcfg with state := s }.state = s) hToken hAdmits
    exact hToken (hAll _ trace finish run hGuard hEnded)
  · rintro (hToken | hAdmits) ctx trace finish run hGuard hEnded
    · exact hToken
    · have hSound : finish.Sound ccfg hcfg :=
        run.invariant hGuard (Enrolment.sound_start ctx)
          fun _ _ _ h hLock hStep => h.step hAdmits hLock hStep
      exact hSound.ended hEnded

/-- Settings of a container daemon without a token. -/
def ContainerConfig.named (containerId : String) : ContainerConfig where
  controlPort := 19285
  dataPort := 19286
  excludePorts := []
  includePorts := []
  containerId := containerId
  authToken := ""

/-- A host without authentication has 64 containers. The next one is refused
and gives up for good, although no token is involved. -/
theorem gaveUp_crowded :
    ∃ d trace finish, exec (Daemon.step .basic) (Daemon.start .basic) (crowdSchedule 64) = some d ∧
      Run (Enrolment.step (.named (repeatedId 65)) .basic) (.start d.ctx) trace finish ∧
      Guarded (Enrolment.LocksIn d.ctx.state) trace ∧
      finish.supervisor = .ended exitPermanentFailure ∧ ¬TokenWrong (.named (repeatedId 65)) .basic := by
  obtain ⟨announced, hExec, hRunning, hState, hWaiting, _⟩ := exec_crowd_announced (by decide : 64 ≤ _)
  obtain ⟨d, hLast, hCard, hFree⟩ := exec_crowd_entered hRunning hState hWaiting
  have hToken : ¬TokenWrong (.named (repeatedId 65)) .basic := by
    rintro ⟨expected, hSome, -⟩
    cases hSome
  have hAdmits : ¬d.ctx.state.Admits .basic (ContainerConfig.named (repeatedId 65)).containerId := by
    rintro ⟨-, hMember | hRoom⟩
    · exact Finmap.lookup_eq_none.mp (hFree 64 le_rfl) hMember
    · rw [hCard] at hRoom
      exact absurd hRoom (by decide)
  obtain ⟨trace, finish, run, hGuard, hEnded⟩ := Enrolment.exists_run_gaveUp rfl hToken hAdmits
  exact ⟨d, trace, finish, exec_append.mpr ⟨announced, hExec, hLast⟩, run, hGuard, hEnded, hToken⟩

end DevcontainerBridge
