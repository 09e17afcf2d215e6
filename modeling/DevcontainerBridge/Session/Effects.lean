import DevcontainerBridge.Container.Forwarding
import DevcontainerBridge.Host.Epochs

/-! One session of a container daemon with the host: the two parties, the two
directions of their control connection and whatever else the host does
meanwhile. What a step of either party does to the ports it has forwarded is
said once, by the request that it sends or finishes. -/
namespace DevcontainerBridge

open Table Transition Ledger

/-- A registration between its insertion and its end. The host's part is the
task that serves its connection. -/
structure Session where
  container : ContainerDaemon
  toHost : List Message
  toContainer : List Message
  ctx : DaemonContext
  handler : Handler

inductive SessionAction where
  | container (input : SessionInput)
  | host (input : Input)
  /-- the host sends something else than a ForwardAck -/
  | notify (message : Message)
  /-- other tasks of the host change its state -/
  | others (ctx : DaemonContext)

/-- Inputs of the container daemon while the connection stands. -/
def SessionInput.whileOpen : SessionInput → Bool
  | .sent true | .receive _ | .proceed | .scanned .. | .scanFailed | .enumerate _ | .relay _ => true
  | _ => false

/-- Inputs of the host's task while the connection stands. -/
def Input.whileOpen : Input → Bool
  | .sent false | .fail => false
  | _ => true

def Message.isForwardAck : Message → Bool
  | .forwardAck .. => true
  | _ => false

/-- The ForwardAck that a handler is about to send. -/
def Handler.ack : Handler → Option Message
  | .forwardAck _ _ port result => some (.forwardAck port result.isSome (result.getD 0))
  | _ => none

namespace Session

/-- A step of the container daemon. Both channels are FIFO. -/
def stepContainer (ccfg : ContainerConfig) (s : Session) (input : SessionInput) : Option Session :=
  if input.whileOpen then
    match input, s.toContainer with
    | .receive message, first :: rest =>
        if message = first then
          (s.container.step ccfg input).map fun c => { s with container := c, toContainer := rest }
        else
          none
    | .receive _, [] => none
    | _, _ =>
        (s.container.step ccfg input).map fun c =>
          { s with
            container := c
            toHost := match input with
              | .sent _ => s.toHost ++ (s.container.outgoing ccfg).toList
              | _ => s.toHost }
  else
    none

/-- A step of the host's task for the connection. -/
def stepHost (hcfg : HostConfig) (s : Session) (input : Input) : Option Session :=
  if input.whileOpen then
    match input, s.toHost with
    | .receive message, first :: rest =>
        if message = first then
          (nextHandler hcfg s.ctx s.handler input).map fun (ctx, handler) =>
            { s with ctx := ctx, handler := handler, toHost := rest }
        else
          none
    | .receive _, [] => none
    | _, _ =>
        (nextHandler hcfg s.ctx s.handler input).map fun (ctx, handler) =>
          { s with
            ctx := ctx
            handler := handler
            toContainer := match input with
              | .sent _ => s.toContainer ++ s.handler.ack.toList
              | _ => s.toContainer }
  else
    none

/-- One step of a session of `containerId`. Other tasks leave the entry of the
container alone. -/
def step (ccfg : ContainerConfig) (hcfg : HostConfig) (containerId : String) (s : Session) :
    SessionAction → Option Session
  | .container input => s.stepContainer ccfg input
  | .host input => s.stepHost hcfg input
  | .notify message =>
      if message.isForwardAck then none else some { s with toContainer := s.toContainer ++ [message] }
  | .others ctx =>
      if ctx.state.containers.lookup containerId = s.ctx.state.containers.lookup containerId then
        some { s with ctx := ctx }
      else
        none

/-- The registration has just been inserted and the container daemon has just
got its RegisterAck, with whatever it forwarded in earlier sessions. -/
structure Begins (containerId : String) (registrationId : Nat) (s : Session) : Prop where
  container : s.container.position = .registered
  toHost : s.toHost = []
  toContainer : s.toContainer = []
  handler : s.handler = .serving containerId registrationId
  registered : s.ctx.state.registrationOf containerId = some registrationId
  empty : ∀ port, s.ctx.state.forwardOf containerId port = none

/-- No message is in flight, and none is being handled or sent. -/
structure Quiescent (containerId : String) (registrationId : Nat) (s : Session) : Prop where
  container : s.container.position = .loopHead
  toHost : s.toHost = []
  toContainer : s.toContainer = []
  handler : s.handler = .serving containerId registrationId

/-- Both parties have the same ports. -/
def Agrees (containerId : String) (s : Session) : Prop :=
  ∀ port, port ∈ s.container.forwarded ↔ (s.ctx.state.forwardOf containerId port).isSome = true

end Session

/-- The port that a message asks the host to forward or to stop forwarding. -/
def Message.word : Message → Option (UInt16 × Bool)
  | .forward port _ _ _ => some (port, true)
  | .unforward port => some (port, false)
  | _ => none

/-- The request that a handler works on, up to its effect on the forwards. -/
def Handler.word : Handler → Option (UInt16 × Bool)
  | .forwardCheck _ _ request | .forwardTake _ _ request | .forwardDrain _ _ request _
  | .forwardReserve _ _ request _ | .forwardBind _ _ request _ _ | .forwardRelease _ _ request _ _
  | .forwardInsert _ _ request _ _ _ _ => some (request.port, true)
  | .unforwardCheck _ _ port | .unforwardRemove _ _ port => some (port, false)
  | _ => none

/-- The requests on their way to the host's forwards, in order. -/
def Session.words (s : Session) : List (UInt16 × Bool) :=
  s.handler.word.toList ++ s.toHost.filterMap Message.word

/-- Positions between the RegisterAck and the end of the connection. -/
def Position.whileOpen : Position → Bool
  | .registered | .reForwarding _ | .loopHead | .forwarding .. | .unforwarding .. | .sendingPong
  | .relaying _ => true
  | _ => false

/-- Before the end of `re_forward_ports`. -/
def Position.resending : Position → Bool
  | .registered | .reForwarding _ => true
  | _ => false

/-- Ports of earlier sessions that have not been forwarded again. -/
def ContainerDaemon.Unsent (c : ContainerDaemon) (port : UInt16) : Prop :=
  match c.position with
  | .registered => port ∈ c.forwarded
  | .reForwarding rest => ∃ entry ∈ rest, entry.1 = port
  | _ => False

variable {ccfg : ContainerConfig} {hcfg : HostConfig} {containerId : String} {registrationId : Nat}
  {c after : ContainerDaemon} {input : SessionInput} {port : UInt16}

/-- What a step of the container daemon does to its map. -/
inductive ContainerEffect (ccfg : ContainerConfig) (c : ContainerDaemon) (input : SessionInput)
    (after : ContainerDaemon) : Prop where
  /-- a Forward or Unforward is sent -/
  | told {port : UInt16} {value : Bool} (hInput : input = .sent true)
      (hWord : (c.outgoing ccfg).bind Message.word = some (port, value))
      (hHere : port ∈ after.forwarded ↔ value = true)
      (hOther : ∀ other, other ≠ port → (other ∈ after.forwarded ↔ other ∈ c.forwarded))
      (hSent : ∀ other, after.Unsent other → other ∈ after.forwarded)
      (hUnsent : ∀ other, other ≠ port → c.Unsent other → after.Unsent other)
  | rejected {port hostPort : UInt16} (hInput : input = .receive (.forwardAck port false hostPort))
      (hMap : after.forwarded = c.forwarded.erase port) (hBefore : ∀ other, ¬c.Unsent other)
      (hAfter : ∀ other, ¬after.Unsent other)
  | quiet (hWord : input = .sent true → (c.outgoing ccfg).bind Message.word = none)
      (hAck : ∀ port hostPort, input ≠ .receive (.forwardAck port false hostPort))
      (hMap : after.forwarded = c.forwarded) (hUnsent : ∀ other, after.Unsent other ↔ c.Unsent other)

namespace ContainerDaemon

theorem not_unsent {position : Position} (h : c.position = position)
    (hSent : position.resending = false) (port : UInt16) : ¬c.Unsent port := by
  unfold Unsent
  rw [h]
  cases position <;> first | exact id | cases hSent

theorem stepRun_effect (hUnsent : ∀ port, c.Unsent port → port ∈ c.forwarded)
    (hOpen : c.position.whileOpen = true) (hInput : input.whileOpen = true)
    (h : c.stepRun c.position input = some after) :
    after.position.whileOpen = true ∧ ContainerEffect ccfg c input after := by
  unfold stepRun at h
  split at h
  case h_6 order hPosition =>
    split_ifs at h with hOrder
    cases h
    refine ⟨rfl, .quiet (fun hEq => nomatch hEq) (fun _ _ hEq => nomatch hEq) rfl fun other => ?_⟩
    unfold Unsent
    rw [hPosition]
    exact (mem_of_enumerates_iff hOrder other).symm
  case h_7 entry rest ok hPosition =>
    cases ok
    · cases hInput
    · cases h
      have hHere : entry.1 ∈ c.forwarded := by
        apply hUnsent
        unfold Unsent
        rw [hPosition]
        exact ⟨entry, List.mem_cons_self, rfl⟩
      have hWord : (c.outgoing ccfg).bind Message.word = some (entry.1, true) := by
        unfold outgoing
        rw [hPosition]
        rfl
      refine ⟨rfl, .told rfl hWord ⟨fun _ => rfl, fun _ => hHere⟩ (fun _ _ => Iff.rfl) ?_ ?_⟩
      · rintro other ⟨later, hLater, rfl⟩
        apply hUnsent
        unfold Unsent
        rw [hPosition]
        exact ⟨later, List.mem_cons_of_mem entry hLater, rfl⟩
      · intro other hOther hBefore
        unfold Unsent at hBefore
        rw [hPosition] at hBefore
        obtain ⟨later, hLater, rfl⟩ := hBefore
        rcases List.mem_cons.mp hLater with rfl | hRest
        · exact absurd rfl hOther
        · exact ⟨later, hRest, rfl⟩
  case h_8 hPosition =>
    cases h
    refine ⟨rfl, .quiet (fun hEq => nomatch hEq) (fun _ _ hEq => nomatch hEq) rfl fun other => ?_⟩
    unfold Unsent
    rw [hPosition]
    simp [moveTo]
  case h_9 => cases h
  all_goals
    rename_i hPosition
    rw [hPosition] at hOpen
    cases hOpen

theorem stepScan_effect (hInput : input.whileOpen = true)
    (h : c.stepScan c.position input = some after) :
    after.position.whileOpen = true ∧ ContainerEffect ccfg c input after := by
  unfold stepScan at h
  split at h
  case h_1 scan entry rest hPosition =>
    split_ifs at h
    cases h
    refine ⟨rfl, .quiet (fun hEq => nomatch hEq) (fun _ _ hEq => nomatch hEq) rfl fun other => ?_⟩
    exact iff_of_false id (not_unsent hPosition rfl other)
  case h_2 scan entry rest ok hPosition =>
    cases ok
    · cases hInput
    · split_ifs at h with hHere hOk
      · cases h
        have hWord : (c.outgoing ccfg).bind Message.word = some (entry.1, true) := by
          unfold outgoing
          rw [hPosition]
          dsimp only
          rw [if_neg hHere]
          rfl
        refine ⟨rfl, .told rfl hWord ?_ (fun other hOther => ?_) (fun _ hNever => hNever.elim) ?_⟩
        · exact ⟨fun _ => rfl, fun _ => Finmap.mem_insert.mpr (.inl rfl)⟩
        · exact Finmap.mem_insert.trans (or_iff_right hOther)
        · exact fun other _ hBefore => not_unsent hPosition rfl other hBefore
      · exact absurd rfl hOk
  case h_3 scan removed rest ok hPosition =>
    cases ok
    · cases hInput
    · cases h
      have hWord : (c.outgoing ccfg).bind Message.word = some (removed, false) := by
        unfold outgoing
        rw [hPosition]
        rfl
      refine ⟨rfl, .told rfl hWord ?_ (fun other hOther => ?_) (fun _ hNever => hNever.elim) ?_⟩
      · exact ⟨fun hHere => absurd rfl (Finmap.mem_erase.mp hHere).1, fun hEq => nomatch hEq⟩
      · exact Finmap.mem_erase.trans (and_iff_right hOther)
      · exact fun other _ hBefore => not_unsent hPosition rfl other hBefore
  case h_4 scan hPosition =>
    cases h
    refine ⟨rfl, .quiet (fun hEq => nomatch hEq) (fun _ _ hEq => nomatch hEq) rfl fun other => ?_⟩
    exact iff_of_false id (not_unsent hPosition rfl other)
  case h_5 => cases h

theorem handleMessage_effect (hPosition : c.position = .loopHead) (message : Message) :
    (c.handleMessage message).position.whileOpen = true ∧
      ContainerEffect ccfg c (.receive message) (c.handleMessage message) := by
  have hBefore := not_unsent hPosition rfl
  unfold handleMessage
  split
  case h_1 =>
    refine ⟨rfl, .quiet (fun hEq => nomatch hEq) (fun _ _ hEq => nomatch hEq) rfl fun other => ?_⟩
    exact iff_of_false id (hBefore other)
  case h_2 port hostPort =>
    have hHead : ∀ {d : ContainerDaemon}, d.position = .loopHead → ∀ other, ¬d.Unsent other :=
      fun hPosition => not_unsent hPosition rfl
    refine ⟨?_, .rejected rfl rfl hBefore (hHead hPosition)⟩
    show c.position.whileOpen = true
    rw [hPosition]
    rfl
  case h_3 hOther =>
    refine ⟨by rw [hPosition]; rfl, .quiet (fun hEq => nomatch hEq) ?_ rfl fun _ => Iff.rfl⟩
    intro port hostPort hEq
    exact hOther port hostPort (SessionInput.receive.inj hEq)

theorem stepSession_effect (hOpen : c.position.whileOpen = true) (hInput : input.whileOpen = true)
    (h : c.stepSession ccfg c.position input = some after) :
    after.position.whileOpen = true ∧ ContainerEffect ccfg c input after := by
  have hQuiet : ∀ {position next : Position}, c.position = position → position.resending = false →
      next.resending = false → ∀ other, (c.moveTo next).Unsent other ↔ c.Unsent other :=
    fun hPosition hBefore hAfter other =>
      iff_of_false (not_unsent rfl hAfter other) (not_unsent hPosition hBefore other)
  unfold stepSession at h
  split at h
  case h_1 scan order hPosition =>
    split_ifs at h
    cases h
    exact ⟨rfl, .quiet (fun hEq => nomatch hEq) (fun _ _ hEq => nomatch hEq) rfl
      (hQuiet hPosition rfl rfl)⟩
  case h_2 hPosition =>
    cases h
    refine ⟨by rw [hPosition]; rfl, ?_⟩
    exact .quiet (fun hEq => nomatch hEq) (fun _ _ hEq => nomatch hEq) rfl fun _ => Iff.rfl
  case h_3 message hPosition =>
    cases h
    exact handleMessage_effect hPosition message
  case h_4 => cases hInput
  case h_5 relay hPosition =>
    cases h
    exact ⟨rfl, .quiet (fun hEq => nomatch hEq) (fun _ _ hEq => nomatch hEq) rfl
      (hQuiet hPosition rfl rfl)⟩
  case h_6 => cases hInput
  case h_7 scan order hPosition =>
    split_ifs at h
    cases h
    exact ⟨rfl, .quiet (fun hEq => nomatch hEq) (fun _ _ hEq => nomatch hEq) rfl
      (hQuiet hPosition rfl rfl)⟩
  case h_8 ok hPosition =>
    cases ok
    · cases hInput
    · cases h
      refine ⟨rfl, .quiet (fun _ => ?_) (fun _ _ hEq => nomatch hEq) rfl (hQuiet hPosition rfl rfl)⟩
      unfold outgoing
      rw [hPosition]
      rfl
  case h_9 relay ok hPosition =>
    cases ok
    · cases hInput
    · cases h
      refine ⟨rfl, .quiet (fun _ => ?_) (fun _ _ hEq => nomatch hEq) rfl (hQuiet hPosition rfl rfl)⟩
      unfold outgoing
      rw [hPosition]
      cases relay <;> rfl
  case h_12 => cases h
  all_goals
    rename_i hPosition
    rw [hPosition] at hOpen
    cases hOpen

/-- What a step of the daemon does while its connection stands. -/
theorem step_effect (hUnsent : ∀ port, c.Unsent port → port ∈ c.forwarded)
    (hOpen : c.position.whileOpen = true) (hInput : input.whileOpen = true)
    (h : c.step ccfg input = some after) :
    after.position.whileOpen = true ∧ ContainerEffect ccfg c input after := by
  rcases step_cases h with hRun | hScan | hSession
  · exact stepRun_effect hUnsent hOpen hInput hRun
  · exact stepScan_effect hInput hScan
  · exact stepSession_effect hOpen hInput hSession

end ContainerDaemon

/-- The port of a rejection that a handler is about to send. -/
def Handler.refuses : Handler → Option UInt16
  | .forwardAck _ _ port none => some port
  | _ => none

/-- The port whose earlier forward a Forward handler has taken out. -/
def Handler.cleared : Handler → Option UInt16
  | .forwardDrain _ _ request _ | .forwardReserve _ _ request _ | .forwardBind _ _ request _ _
  | .forwardRelease _ _ request _ _ | .forwardInsert _ _ request _ _ _ _ => some request.port
  | _ => none

def Handler.leaving : Handler → Bool
  | .cleanup .. => true
  | _ => false

/-- A task serves a registration that lasts. -/
structure Handler.InSession (containerId : String) (registrationId : Nat) (state : HostState)
    (handler : Handler) : Prop where
  owner : handler.owner = some (containerId, registrationId)
  stays : handler.leaving = false
  registered : state.registrationOf containerId = some registrationId
  cleared : ∀ port, handler.cleared = some port → state.forwardOf containerId port = none

/-- What a step of the host's task does to the forwards of its container. -/
inductive HandlerEffect (containerId : String) (state : HostState) (handler : Handler) (input : Input)
    (state' : HostState) (next : Handler) : Prop where
  | received {message : Message} (hInput : input = .receive message)
      (hBefore : handler.word = none ∧ handler.refuses = none)
      (hNext : next.word = message.word ∧ next.refuses = none) (hState : state' = state)
  | moved (hInput : ∀ message, input ≠ .receive message) (hWord : next.word = handler.word)
      (hNext : next.refuses = none) (hAck : handler.refuses = none ∨ ∃ ok, input = .sent ok)
      (hForwards : ∀ port, handler.word ≠ some (port, true) →
        state'.forwardOf containerId port = state.forwardOf containerId port)
  | finished {port : UInt16} {value : Bool} (hInput : ∀ message, input ≠ .receive message)
      (hWord : handler.word = some (port, value)) (hNext : next.word = none)
      (hHere : (state'.forwardOf containerId port).isSome = true → value = true)
      (hThere : value = true → (state'.forwardOf containerId port).isSome = true ∨ next.refuses = some port)
      (hRefuses : ∀ other, next.refuses = some other → other = port)
      (hForwards : ∀ other, other ≠ port →
        state'.forwardOf containerId other = state.forwardOf containerId other)

variable {ctx afterCtx : DaemonContext} {handler next : Handler} {hostInput : Input}

theorem Handler.refuses_of_word {word : UInt16 × Bool} (h : handler.word = some word) :
    handler.refuses = none := by
  cases handler <;> first | rfl | cases h

theorem Handler.ack_of_refuses (h : handler.refuses = some port) :
    handler.ack = some (.forwardAck port false 0) := by
  unfold refuses at h
  split at h
  · cases h
    rfl
  · cases h

/-- A step that moves on without touching the state. -/
theorem HandlerEffect.moved_same {state : HostState} (hInput : ∀ message, hostInput ≠ .receive message)
    (hWord : next.word = handler.word) (hNext : next.refuses = none)
    (hAck : handler.refuses = none ∨ ∃ ok, hostInput = .sent ok) :
    HandlerEffect containerId state handler hostInput state next :=
  .moved hInput hWord hNext hAck fun _ _ => rfl

/-- A Forward is refused when the host has nothing for its port. -/
theorem HandlerEffect.refused {state state' : HostState} {port : UInt16}
    (hInput : ∀ message, hostInput ≠ .receive message) (hWord : handler.word = some (port, true))
    (hState : state'.forwardOf = state.forwardOf) :
    HandlerEffect containerId state handler hostInput state'
      (.forwardAck containerId registrationId port none) :=
  .finished hInput hWord rfl (fun _ => rfl) (fun _ => .inr rfl)
    (fun _ hRefuses => (Option.some.inj hRefuses).symm) fun _ _ => by rw [hState]

theorem dispatchContainer_word (message : Message) :
    (dispatchContainer hcfg containerId registrationId message).word = message.word ∧
      (dispatchContainer hcfg containerId registrationId message).refuses = none := by
  cases message <;> unfold dispatchContainer <;> dsimp only <;> (try split_ifs) <;> exact ⟨rfl, rfl⟩

theorem dispatchContainer_inSession {state : HostState} (message : Message)
    (hRegistered : state.registrationOf containerId = some registrationId) :
    (dispatchContainer hcfg containerId registrationId message).InSession containerId registrationId
      state := by
  cases message <;> unfold dispatchContainer <;> dsimp only <;> (try split_ifs) <;>
    exact ⟨rfl, rfl, hRegistered, fun _ hCleared => nomatch hCleared⟩

namespace HostState

theorem insertForward_containers {s : HostState} {cstate : ContainerState}
    (hContainer : s.containers.lookup containerId = some cstate) (port targetPort : UInt16)
    (fstate : ForwardState) :
    (s.insertForward containerId port targetPort fstate).1.containers =
      (s.setContainer containerId { cstate with forwards := cstate.forwards.insert port fstate }).containers := by
  unfold insertForward
  rw [hContainer]
  dsimp only
  split_ifs <;> rfl

theorem forwardOf_insertForward {s : HostState}
    (hRegistered : s.registrationOf containerId = some registrationId) (port targetPort other : UInt16)
    (fstate : ForwardState) :
    (s.insertForward containerId port targetPort fstate).1.forwardOf containerId other =
      if other = port then some fstate else s.forwardOf containerId other := by
  obtain ⟨cstate, hContainer, -⟩ := Option.map_eq_some_iff.mp hRegistered
  rw [forwardOf_congr (insertForward_containers hContainer port targetPort fstate),
    forwardOf_setForward hContainer]
  simp only [true_and]

theorem registrationOf_insertForward {s : HostState}
    (hRegistered : s.registrationOf containerId = some registrationId) (port targetPort : UInt16)
    (fstate : ForwardState) :
    (s.insertForward containerId port targetPort fstate).1.registrationOf containerId =
      some registrationId := by
  obtain ⟨cstate, hContainer, -⟩ := Option.map_eq_some_iff.mp hRegistered
  unfold registrationOf
  rw [insertForward_containers hContainer]
  exact (registrationOf_setForwards hContainer _ containerId).trans hRegistered

end HostState

theorem nextForward_effect (hIn : handler.InSession containerId registrationId ctx.state)
    (hOpen : hostInput.whileOpen = true) (h : nextForward ctx handler hostInput = some (afterCtx, next)) :
    next.InSession containerId registrationId afterCtx.state ∧
      HandlerEffect containerId ctx.state handler hostInput afterCtx.state next := by
  obtain ⟨hOwner, -, hRegistered, hCleared⟩ := hIn
  cases nextForward_cases h with
  | owned =>
      cases hOwner
      exact ⟨⟨rfl, rfl, hRegistered, fun _ hNone => nomatch hNone⟩,
        .moved_same (fun _ hEq => nomatch hEq) rfl rfl (.inl rfl)⟩
  | disowned hStranger =>
      cases hOwner
      exact absurd hRegistered hStranger
  | limited =>
      cases hOwner
      exact ⟨⟨rfl, rfl, hRegistered, fun _ hNone => nomatch hNone⟩,
        .refused (fun _ hEq => nomatch hEq) rfl rfl⟩
  | taken hTake =>
      cases hOwner
      obtain ⟨rfl, hNone⟩ := takeForward_cases hTake
      rw [HostState.removeForward_fst_of_none hNone]
      rw [HostState.removeForward_snd] at hNone
      refine ⟨⟨rfl, rfl, hRegistered, fun port hPort => ?_⟩,
        .moved_same (fun _ hEq => nomatch hEq) rfl rfl (.inl rfl)⟩
      cases hPort
      exact hNone
  | @replaced _ _ request _ _ hTake =>
      cases hOwner
      obtain ⟨rfl, hSome⟩ := takeForward_cases hTake
      have hKept := HostState.registrationOf_removeForward ctx.state containerId containerId request.port
      refine ⟨⟨rfl, rfl, hKept.trans hRegistered, fun port hPort => ?_⟩,
        .moved (fun _ hEq => nomatch hEq) rfl rfl (.inl rfl) fun port hPort => ?_⟩
      · cases hPort
        exact (HostState.forwardOf_removeForward ..).trans (if_pos ⟨rfl, rfl⟩)
      · apply (HostState.forwardOf_removeForward ..).trans (if_neg _)
        rintro ⟨-, rfl⟩
        exact hPort rfl
  | drained hTear =>
      cases hOwner
      rw [(tearDown_tables hTear).1]
      exact ⟨⟨rfl, rfl, hRegistered, hCleared⟩, .moved_same (fun _ hEq => nomatch hEq) rfl rfl (.inl rfl)⟩
  | noPort =>
      cases hOwner
      exact ⟨⟨rfl, rfl, hRegistered, fun _ hNone => nomatch hNone⟩,
        .refused (fun _ hEq => nomatch hEq) rfl rfl⟩
  | reserved =>
      cases hOwner
      exact ⟨⟨rfl, rfl, hRegistered, hCleared⟩,
        .moved (fun _ hEq => nomatch hEq) rfl rfl (.inl rfl) fun _ _ => rfl⟩
  | unbound =>
      cases hOwner
      exact ⟨⟨rfl, rfl, hRegistered, hCleared⟩,
        .moved_same (fun _ hEq => nomatch hEq) rfl rfl (.inl rfl)⟩
  | bound =>
      cases hOwner
      exact ⟨⟨rfl, rfl, hRegistered, hCleared⟩,
        .moved_same (fun _ hEq => nomatch hEq) rfl rfl (.inl rfl)⟩
  | released =>
      cases hOwner
      exact ⟨⟨rfl, rfl, hRegistered, fun _ hNone => nomatch hNone⟩,
        .refused (fun _ hEq => nomatch hEq) rfl rfl⟩
  | @inserted _ _ request _ targetPort hostPort listener now _ hInsert =>
      cases hOwner
      have hKept := HostState.registrationOf_insertForward hRegistered request.port targetPort
        (request.entered hostPort listener now)
      have hForward := fun other => HostState.forwardOf_insertForward hRegistered request.port targetPort other
        (request.entered hostPort listener now)
      rw [hInsert] at hKept hForward
      refine ⟨⟨rfl, rfl, hKept, fun _ hNone => nomatch hNone⟩,
        .finished (fun _ hEq => nomatch hEq) rfl rfl (fun _ => rfl) (fun _ => .inl ?_)
          (fun _ hNone => nomatch hNone) fun other hOther => ?_⟩
      · rw [hForward, if_pos rfl]
        rfl
      · rw [hForward, if_neg hOther]
  | gone hInsert =>
      cases hOwner
      have hGone := (insertForward_snd_false (congrArg Prod.snd hInsert)).1
      rw [← HostState.registrationOf_eq_none_iff, hRegistered] at hGone
      cases hGone
  | mapped =>
      cases hOwner
      exact ⟨⟨rfl, rfl, hRegistered, fun _ hNone => nomatch hNone⟩,
        .moved_same (fun _ hEq => nomatch hEq) rfl rfl (.inl rfl)⟩
  | acknowledged =>
      cases hOwner
      exact ⟨⟨rfl, rfl, hRegistered, fun _ hNone => nomatch hNone⟩,
        .moved_same (fun _ hEq => nomatch hEq) rfl rfl (.inr ⟨true, rfl⟩)⟩
  | unacknowledged => cases hOpen

theorem nextUnforward_effect (hIn : handler.InSession containerId registrationId ctx.state)
    (h : nextUnforward ctx handler hostInput = some (afterCtx, next)) :
    next.InSession containerId registrationId afterCtx.state ∧
      HandlerEffect containerId ctx.state handler hostInput afterCtx.state next := by
  obtain ⟨hOwner, -, hRegistered, -⟩ := hIn
  -- the port is gone from the host, whether it was there or not
  have gone : ∀ {port : UInt16} {following : Handler}, following.word = none → following.refuses = none →
      HandlerEffect containerId ctx.state (.unforwardRemove containerId registrationId port) .proceed
        (ctx.state.removeForward containerId port).1 following := by
    intro port following hWord hRefuses
    have hForward := HostState.forwardOf_removeForward ctx.state containerId containerId port
    refine .finished (fun _ hEq => nomatch hEq) rfl hWord (fun hHere => ?_) (fun hEq => nomatch hEq)
      (fun other hOther => ?_) fun other hOther => ?_
    · rw [hForward, if_pos ⟨rfl, rfl⟩] at hHere
      cases hHere
    · rw [hRefuses] at hOther
      cases hOther
    · rw [hForward, if_neg fun hHere => hOther hHere.2]
  have kept : ∀ {port : UInt16},
      (ctx.state.removeForward containerId port).1.registrationOf containerId = some registrationId :=
    (HostState.registrationOf_removeForward ctx.state containerId containerId _).trans hRegistered
  cases nextUnforward_cases h with
  | owned =>
      cases hOwner
      exact ⟨⟨rfl, rfl, hRegistered, fun _ hNone => nomatch hNone⟩,
        .moved_same (fun _ hEq => nomatch hEq) rfl rfl (.inl rfl)⟩
  | disowned hStranger =>
      cases hOwner
      exact absurd hRegistered hStranger
  | missing hRemove =>
      cases hOwner
      obtain rfl := congrArg Prod.fst hRemove
      exact ⟨⟨rfl, rfl, kept, fun _ hNone => nomatch hNone⟩, gone rfl rfl⟩
  | removed hRemove =>
      cases hOwner
      obtain rfl := congrArg Prod.fst hRemove
      exact ⟨⟨rfl, rfl, kept, fun _ hNone => nomatch hNone⟩, gone rfl rfl⟩
  | drained hTear =>
      cases hOwner
      rw [(tearDown_tables hTear).1]
      exact ⟨⟨rfl, rfl, hRegistered, fun _ hNone => nomatch hNone⟩,
        .moved_same (fun _ hEq => nomatch hEq) rfl rfl (.inl rfl)⟩
  | unmapped =>
      cases hOwner
      exact ⟨⟨rfl, rfl, hRegistered, fun _ hNone => nomatch hNone⟩,
        .moved_same (fun _ hEq => nomatch hEq) rfl rfl (.inl rfl)⟩
  | _ => cases hOwner

theorem nextServing_effect (hIn : handler.InSession containerId registrationId ctx.state)
    (hOpen : hostInput.whileOpen = true)
    (h : nextServing hcfg ctx handler hostInput = some (afterCtx, next)) :
    next.InSession containerId registrationId afterCtx.state ∧
      HandlerEffect containerId ctx.state handler hostInput afterCtx.state next := by
  obtain ⟨hOwner, hStays, hRegistered, -⟩ := hIn
  have hServing : Handler.InSession containerId registrationId ctx.state
      (.serving containerId registrationId) :=
    ⟨rfl, rfl, hRegistered, fun _ hNone => nomatch hNone⟩
  cases nextServing_cases h with
  | dispatched message =>
      cases hOwner
      exact ⟨dispatchContainer_inSession message hRegistered,
        .received rfl ⟨rfl, rfl⟩ (dispatchContainer_word message) rfl⟩
  | closed => cases hOpen
  | requestFlushed =>
      cases hOwner
      exact ⟨hServing, .moved_same (fun _ hEq => nomatch hEq) rfl rfl (.inl rfl)⟩
  | requestLost =>
      cases hOwner
      exact ⟨hServing, .moved_same (fun _ hEq => nomatch hEq) rfl rfl (.inl rfl)⟩
  | messageFlushed =>
      cases hOwner
      exact ⟨hServing, .moved_same (fun _ hEq => nomatch hEq) rfl rfl (.inl rfl)⟩
  | ponged =>
      cases hOwner
      exact ⟨hServing, .moved_same (fun _ hEq => nomatch hEq) rfl rfl (.inl rfl)⟩
  | unponged => cases hOpen
  | connectCancelled =>
      cases hOwner
      exact ⟨hServing, .moved_same (fun _ hEq => nomatch hEq) rfl rfl (.inl rfl)⟩
  | superseded => cases hStays
  | taken => cases hStays
  | _ => cases hOwner

theorem nextAuxiliary_effect (hIn : handler.InSession containerId registrationId ctx.state)
    (hOpen : hostInput.whileOpen = true)
    (h : nextAuxiliary ctx handler hostInput = some (afterCtx, next)) :
    next.InSession containerId registrationId afterCtx.state ∧
      HandlerEffect containerId ctx.state handler hostInput afterCtx.state next := by
  obtain ⟨hOwner, -, hRegistered, -⟩ := hIn
  cases nextAuxiliary_cases h with
  | prepared =>
      exact ⟨⟨hOwner, rfl, hRegistered, fun _ hNone => nomatch hNone⟩,
        .moved_same (fun _ hEq => nomatch hEq) rfl rfl (.inl rfl)⟩
  | rejected =>
      exact ⟨⟨hOwner, rfl, hRegistered, fun _ hNone => nomatch hNone⟩,
        .moved_same (fun _ hEq => nomatch hEq) rfl rfl (.inl rfl)⟩
  | launched =>
      exact ⟨⟨hOwner, rfl, hRegistered, fun _ hNone => nomatch hNone⟩,
        .moved_same (fun _ hEq => nomatch hEq) rfl rfl (.inl rfl)⟩
  | answered => cases hOwner
  | unacknowledged => cases hOpen
  | _ =>
      cases hOwner
      exact ⟨⟨rfl, rfl, hRegistered, fun _ hNone => nomatch hNone⟩,
        .moved_same (fun _ hEq => nomatch hEq) rfl rfl (.inl rfl)⟩

/-- What a step of the task does while its connection and its registration last. -/
theorem nextHandler_effect (hIn : handler.InSession containerId registrationId ctx.state)
    (hOpen : hostInput.whileOpen = true)
    (h : nextHandler hcfg ctx handler hostInput = some (afterCtx, next)) :
    next.InSession containerId registrationId afterCtx.state ∧
      HandlerEffect containerId ctx.state handler hostInput afterCtx.state next := by
  have hOwner := hIn.owner
  unfold nextHandler at h
  split at h
  all_goals first
    | exact nextForward_effect hIn hOpen h
    | exact nextUnforward_effect hIn h
    | exact nextServing_effect hIn hOpen h
    | exact nextAuxiliary_effect hIn hOpen h
    | cases hOwner

end DevcontainerBridge
