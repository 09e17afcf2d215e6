import DevcontainerBridge.Host.Listeners
import DevcontainerBridge.Host.Authentication
import DevcontainerBridge.Ledger.Updates

/-! The way of a socket update from the scanner to a container. A registration
is told what exists when it starts, written directly to its connection, and
what changes later through a bounded queue that its handler empties. -/
namespace DevcontainerBridge

open Table Transition Ledger

/-- The SocketForward message of a socket. -/
def SocketInfo.announcement (info : SocketInfo) : Message :=
  .socketForward info.socketId info.hostPath info.containerPath

/-- The socket id that a message adds or takes away. -/
def Message.socketUpdate : Message → Option (String × Bool)
  | .socketForward socketId _ _ => some (socketId, true)
  | .socketUnforward socketId => some (socketId, false)
  | _ => none

/-- What is left to broadcast. -/
def Handler.sends : Handler → List (Message × Nat)
  | .broadcasting sends => sends
  | _ => []

def Handler.isScanner : Handler → Bool
  | .scanning | .broadcasting _ => true
  | _ => false

/-- The task has a registration number and has yet to reach its message loop. -/
def Handler.isEntering : Handler → Bool
  | .registerInsert .. | .registerReplay .. => true
  | _ => false

/-- The registration number that a task goes by. -/
def Handler.number : Handler → Option Nat
  | .registerInsert _ _ registrationId | .registerReplay _ registrationId => some registrationId
  | handler => handler.owner.map Prod.snd

/-- The messages of a broadcast that go to one registration. -/
def messagesTo (registrationId : Nat) (sends : List (Message × Nat)) : List Message :=
  sends.filterMap fun send => if send.2 = registrationId then some send.1 else none

/-- What is written of a replay in which some sends may fail. -/
def replayMessages (order : List (Σ _ : String, SocketInfo)) (sent : String → Bool) : List Message :=
  (order.filter fun entry => sent entry.1).map fun entry => entry.2.announcement

/-- SocketForward of the socket is among the messages and no SocketUnforward
comes after it. -/
def HeldAfter (messages : List Message) (socketId : String) : Prop :=
  ∃ before after hostPath containerPath,
    messages = before ++ .socketForward socketId hostPath containerPath :: after ∧
      .socketUnforward socketId ∉ after

/-- The host daemon and what it has written about sockets to each registered
connection. Other messages on the connections say nothing about sockets. -/
structure SocketFeed where
  daemon : Daemon
  /-- written and not read yet -/
  wire : Nat → List Message
  /-- handled by `run_session` of the container, in order -/
  handled : Nat → List Message

/-- A step of the feed. Only the replay after Register and the outbound queue
of a registration write socket messages. -/
inductive FeedAction where
  | host (action : Action)
  /-- the replay in some order; a send may fail and the others go on -/
  | replay (id : Nat) (order : List (Σ _ : String, SocketInfo)) (sent : String → Bool)
  | flush (id : Nat) (sent : Bool)
  /-- the container handles the next message of its connection -/
  | handle (registrationId : Nat)

/-- The action is the replay or takes a message out of an outbound queue. -/
def Daemon.writesSockets (d : Daemon) : Action → Bool
  | .task id input =>
      match d.tasks id, input with
      | .registerReplay .., .proceed => true
      | .serving .., .flushMessage => true
      | _, _ => false
  | _ => false

namespace SocketFeed

def start (cfg : HostConfig) : SocketFeed where
  daemon := Daemon.start cfg
  wire := fun _ => []
  handled := fun _ => []

def write (feed : SocketFeed) (registrationId : Nat) (messages : List Message) : SocketFeed :=
  { feed with wire := Function.update feed.wire registrationId (feed.wire registrationId ++ messages) }

def step (cfg : HostConfig) (feed : SocketFeed) : FeedAction → Option SocketFeed
  | .host action =>
      if feed.daemon.writesSockets action then none
      else (Daemon.step cfg feed.daemon action).map fun daemon => { feed with daemon := daemon }
  | .replay id order sent =>
      match feed.daemon.tasks id with
      | .registerReplay _ registrationId =>
          if Enumerates order feed.daemon.ctx.state.socketForwards then
            (Daemon.step cfg feed.daemon (.task id .proceed)).map fun daemon =>
              { feed with daemon := daemon }.write registrationId (replayMessages order sent)
          else
            none
      | _ => none
  | .flush id sent =>
      match feed.daemon.tasks id with
      | .serving _ registrationId =>
          match feed.daemon.ctx.proxy.outboundMessages registrationId with
          | [] => none
          | message :: _ =>
              (Daemon.step cfg feed.daemon (.task id .flushMessage)).map fun daemon =>
                { feed with daemon := daemon }.write registrationId (if sent then [message] else [])
      | _ => none
  | .handle registrationId =>
      match feed.wire registrationId with
      | [] => none
      | message :: rest =>
          let handled := feed.handled registrationId ++ [message]
          some
            { feed with
              wire := Function.update feed.wire registrationId rest
              handled := Function.update feed.handled registrationId handled }

def Registered (feed : SocketFeed) (registrationId : Nat) : Prop :=
  ∃ containerId, feed.daemon.ctx.state.registrationOf containerId = some registrationId

/-- The container has handled SocketForward for the socket and no later
SocketUnforward. -/
def Holds (feed : SocketFeed) (registrationId : Nat) (socketId : String) : Prop :=
  HeldAfter (feed.handled registrationId) socketId

/-- Nothing is on its way to the container of a registration: not in the
replay, a broadcast, its queue or its connection. -/
structure Emptied (feed : SocketFeed) (registrationId : Nat) : Prop where
  replay : ∀ id containerId, feed.daemon.tasks id ≠ .registerReplay containerId registrationId
  broadcast : ∀ id, messagesTo registrationId (feed.daemon.tasks id).sends = []
  queue : feed.daemon.ctx.proxy.outboundMessages registrationId = []
  wire : feed.wire registrationId = []

/-- As long as the registration stands, `try_send` finds its queue open and
not full, and no message about a socket fails to be written. -/
def Delivers (feed : SocketFeed) (registrationId : Nat) : FeedAction → Prop
  | .host action =>
      ∀ id message rest, action = .task id .proceed →
        feed.daemon.tasks id = .broadcasting ((message, registrationId) :: rest) →
        feed.Registered registrationId →
        feed.daemon.ctx.proxy.channelOpen registrationId = true ∧
          (feed.daemon.ctx.proxy.outboundMessages registrationId).length < outboundChannelCapacity
  | .replay id order sent =>
      (feed.daemon.tasks id).number = some registrationId → feed.Registered registrationId →
        ∀ entry ∈ order, sent entry.1 = true
  | .flush id sent =>
      (feed.daemon.tasks id).number = some registrationId → feed.Registered registrationId → sent = true
  | .handle _ => True

end SocketFeed

/-- One step of a task, by what it does to the way of the socket updates. -/
inductive FeedEffect (ctx : DaemonContext) (handler : Handler) (input : Input) (after : DaemonContext)
    (next : Handler) : Prop
  /-- the step has nothing to do with sockets -/
  | still (hSockets : after.state.socketForwards = ctx.state.socketForwards)
      (hQueues : after.proxy.outboundMessages = ctx.proxy.outboundMessages)
      (hCount : after.nextRegistrationId = ctx.nextRegistrationId)
      (hSends : handler.sends = [] ∧ next.sends = []) (hScanner : next.isScanner = true → handler.isScanner = true)
      (hNumber : next.number = none ∨ next.number = handler.number)
      (hOutside : handler.isEntering = false ∧ next.isEntering = false)
  | epoch {containerId hostname : String} (hBefore : handler = .registerEpoch containerId hostname)
      (hNext : next = .registerInsert containerId hostname ctx.nextRegistrationId)
      (hAfter : after = { ctx with nextRegistrationId := ctx.nextRegistrationId + 1 })
  | insert {containerId hostname : String} {registrationId : Nat}
      (hBefore : handler = .registerInsert containerId hostname registrationId)
      (hNext : next = .registerReplay containerId registrationId)
      (hAfter : after = { ctx with
        state := ctx.state.insertContainer containerId hostname registrationId
        proxy := ctx.proxy.setChannel registrationId true })
  | replay {containerId : String} {registrationId : Nat} (hInput : input = .proceed)
      (hBefore : handler = .registerReplay containerId registrationId)
      (hNext : next = .serving containerId registrationId) (hAfter : after = ctx)
  | flush {containerId : String} {registrationId : Nat} {message : Message} {rest : List Message}
      (hInput : input = .flushMessage) (hBefore : handler = .serving containerId registrationId)
      (hNext : next = handler) (hQueue : ctx.proxy.outboundMessages registrationId = message :: rest)
      (hAfter : after = { ctx with proxy :=
        { ctx.proxy with
          outboundMessages := Function.update ctx.proxy.outboundMessages registrationId rest } })
  | scan {newSockets removedSockets : List SocketInfo} {order : List (Σ _ : String, ContainerState)}
      (hInput : input = .scan newSockets removedSockets order) (hBefore : handler = .scanning)
      (hOrder : Enumerates order ctx.state.containers)
      (hNext : next = .broadcasting (scanMessages newSockets removedSockets
        (order.map fun entry => entry.2.outboundMsgTx)))
      (hAfter : after = { ctx with state := ctx.state.updateSockets newSockets removedSockets })
  | broadcast {message : Message} {tx : Nat} {rest : List (Message × Nat)} (hInput : input = .proceed)
      (hBefore : handler = .broadcasting ((message, tx) :: rest)) (hNext : next = .broadcasting rest)
      (hAfter : after = { ctx with proxy := ctx.proxy.tryBroadcast message tx })

variable {cfg : HostConfig} {ctx after : DaemonContext} {handler next : Handler} {input : Input}
  {p p' : ProxyState} {task task' : ProxyTask}

/-- A step of a task that stays away from the sockets. -/
theorem FeedEffect.apart (hBefore : handler.sends = [] ∧ handler.isEntering = false)
    (hAfter : next.isScanner = false ∧ next.isEntering = false)
    (hNumber : next.number = none ∨ next.number = handler.number)
    (hSockets : after.state.socketForwards = ctx.state.socketForwards)
    (hQueues : after.proxy.outboundMessages = ctx.proxy.outboundMessages)
    (hCount : after.nextRegistrationId = ctx.nextRegistrationId) :
    FeedEffect ctx handler input after next := by
  have hSends : next.sends = [] := by
    obtain ⟨hScanner, -⟩ := hAfter
    cases next <;> first | rfl | cases hScanner
  refine .still hSockets hQueues hCount ⟨hBefore.1, hSends⟩ (fun hScanner => ?_) hNumber ⟨hBefore.2, hAfter.2⟩
  rw [hAfter.1] at hScanner
  cases hScanner

theorem tearDown_feed {forwards : Forwards} {timedOut : List Nat}
    (h : ctx.tearDown forwards timedOut = some after) :
    after.state.socketForwards = ctx.state.socketForwards ∧
      after.proxy.outboundMessages = ctx.proxy.outboundMessages ∧
      after.nextRegistrationId = ctx.nextRegistrationId := by
  obtain ⟨-, rfl⟩ := DaemonContext.tearDown_frame h
  exact ⟨rfl, rfl, rfl⟩

/-- A teardown outside the lock stays away from the sockets. -/
theorem tearDown_apart {forwards : Forwards} {timedOut : List Nat}
    (h : ctx.tearDown forwards timedOut = some after) (hBefore : handler.sends = [] ∧ handler.isEntering = false)
    (hAfter : next.isScanner = false ∧ next.isEntering = false)
    (hNumber : next.number = none ∨ next.number = handler.number) : FeedEffect ctx handler input after next := by
  obtain ⟨hSockets, hQueues, hCount⟩ := tearDown_feed h
  exact .apart hBefore hAfter hNumber hSockets hQueues hCount

theorem drainOne_feed {old rest : Forwards} {port : UInt16} {timedOut : Bool}
    (h : ctx.drainOne old port timedOut = some (after, rest)) :
    after.state.socketForwards = ctx.state.socketForwards ∧
      after.proxy.outboundMessages = ctx.proxy.outboundMessages ∧
      after.nextRegistrationId = ctx.nextRegistrationId := by
  obtain ⟨fstate, -, -, hTear⟩ := drainOne_some h
  exact tearDown_feed hTear

theorem dispatchFirst_feed (message : Message) :
    (dispatchFirst cfg message).isScanner = false ∧ (dispatchFirst cfg message).isEntering = false ∧
      (dispatchFirst cfg message).number = none := by
  cases message <;> unfold dispatchFirst <;> dsimp only <;> (try split_ifs) <;> exact ⟨rfl, rfl, rfl⟩

theorem dispatchContainer_feed (containerId : String) (registrationId : Nat) (message : Message) :
    (dispatchContainer cfg containerId registrationId message).isScanner = false ∧
      (dispatchContainer cfg containerId registrationId message).isEntering = false ∧
      (dispatchContainer cfg containerId registrationId message).number = some registrationId := by
  cases message <;> unfold dispatchContainer <;> dsimp only <;> (try split_ifs) <;> exact ⟨rfl, rfl, rfl⟩

theorem nextRegister_feed (h : nextRegister cfg ctx handler input = some (after, next)) :
    FeedEffect ctx handler input after next := by
  cases nextRegister_cases h with
  | dispatched message =>
      obtain ⟨hScanner, hEntering, hNumber⟩ := @dispatchFirst_feed cfg message
      exact .apart ⟨rfl, rfl⟩ ⟨hScanner, hEntering⟩ (.inl hNumber) rfl rfl rfl
  | unknown hStale =>
      obtain rfl := removeStale_eq_none hStale
      exact .apart ⟨rfl, rfl⟩ ⟨rfl, rfl⟩ (.inl rfl) rfl rfl rfl
  | stale hStale =>
      obtain ⟨cstate, -, -, rfl⟩ := HostState.removeStale_some hStale
      exact .apart ⟨rfl, rfl⟩ ⟨rfl, rfl⟩ (.inl rfl) rfl rfl rfl
  | drained hTear => exact tearDown_apart hTear ⟨rfl, rfl⟩ ⟨rfl, rfl⟩ (.inl rfl)
  | drainedOne hDrain =>
      obtain ⟨hSockets, hQueues, hCount⟩ := drainOne_feed hDrain
      exact .apart ⟨rfl, rfl⟩ ⟨rfl, rfl⟩ (.inl rfl) hSockets hQueues hCount
  | numbered => exact .epoch rfl rfl rfl
  | inserted => exact .insert rfl rfl rfl
  | replayed => exact .replay rfl rfl rfl rfl
  | _ => exact .apart ⟨rfl, rfl⟩ ⟨rfl, rfl⟩ (.inl rfl) rfl rfl rfl

theorem removeForward_socketForwards {s state : HostState} {containerId : String} {port : UInt16}
    {old : Option ForwardState} (h : s.removeForward containerId port = (state, old)) :
    state.socketForwards = s.socketForwards := by
  have hKept := s.socketForwards_removeForward containerId port
  rwa [h] at hKept

theorem takeForward_socketForwards {s state : HostState} {containerId : String} {port : UInt16}
    {old : Option ForwardState} (h : s.takeForward containerId port = some (state, old)) :
    state.socketForwards = s.socketForwards := by
  obtain ⟨rfl, -⟩ := takeForward_cases h
  exact s.socketForwards_removeForward containerId port

theorem insertForward_socketForwards {s state : HostState} {containerId : String} {port targetPort : UInt16}
    {fstate : ForwardState} {inserted : Bool}
    (h : s.insertForward containerId port targetPort fstate = (state, inserted)) :
    state.socketForwards = s.socketForwards := by
  unfold HostState.insertForward at h
  split at h
  · dsimp only at h
    split_ifs at h <;> cases h <;> rfl
  · cases h
    rfl

theorem nextForward_feed (h : nextForward ctx handler input = some (after, next)) :
    FeedEffect ctx handler input after next := by
  cases nextForward_cases h with
  | taken hTake =>
      exact .apart ⟨rfl, rfl⟩ ⟨rfl, rfl⟩ (.inr rfl) (takeForward_socketForwards hTake) rfl rfl
  | replaced hTake =>
      exact .apart ⟨rfl, rfl⟩ ⟨rfl, rfl⟩ (.inr rfl) (takeForward_socketForwards hTake) rfl rfl
  | drained hTear => exact tearDown_apart hTear ⟨rfl, rfl⟩ ⟨rfl, rfl⟩ (.inr rfl)
  | inserted hInsert =>
      exact .apart ⟨rfl, rfl⟩ ⟨rfl, rfl⟩ (.inr rfl) (insertForward_socketForwards hInsert) rfl rfl
  | gone hInsert =>
      exact .apart ⟨rfl, rfl⟩ ⟨rfl, rfl⟩ (.inr rfl) (insertForward_socketForwards hInsert) rfl rfl
  | _ => exact .apart ⟨rfl, rfl⟩ ⟨rfl, rfl⟩ (.inr rfl) rfl rfl rfl

theorem nextUnforward_feed (h : nextUnforward ctx handler input = some (after, next)) :
    FeedEffect ctx handler input after next := by
  cases nextUnforward_cases h with
  | missing hRemove =>
      exact .apart ⟨rfl, rfl⟩ ⟨rfl, rfl⟩ (.inr rfl) (removeForward_socketForwards hRemove) rfl rfl
  | removed hRemove =>
      exact .apart ⟨rfl, rfl⟩ ⟨rfl, rfl⟩ (.inr rfl) (removeForward_socketForwards hRemove) rfl rfl
  | drained hTear => exact tearDown_apart hTear ⟨rfl, rfl⟩ ⟨rfl, rfl⟩ (.inr rfl)
  | nobody => exact .apart ⟨rfl, rfl⟩ ⟨rfl, rfl⟩ (.inl rfl) rfl rfl rfl
  | globalMissing _ _ hRemove =>
      exact .apart ⟨rfl, rfl⟩ ⟨rfl, rfl⟩ (.inl rfl) (removeForward_socketForwards hRemove) rfl rfl
  | globalRemoved _ _ hRemove =>
      exact .apart ⟨rfl, rfl⟩ ⟨rfl, rfl⟩ (.inl rfl) (removeForward_socketForwards hRemove) rfl rfl
  | globalUnmapped => exact .apart ⟨rfl, rfl⟩ ⟨rfl, rfl⟩ (.inl rfl) rfl rfl rfl
  | globalDrained hTear => exact tearDown_apart hTear ⟨rfl, rfl⟩ ⟨rfl, rfl⟩ (.inl rfl)
  | _ => exact .apart ⟨rfl, rfl⟩ ⟨rfl, rfl⟩ (.inr rfl) rfl rfl rfl

theorem nextServing_feed (h : nextServing cfg ctx handler input = some (after, next)) :
    FeedEffect ctx handler input after next := by
  cases nextServing_cases h with
  | @dispatched containerId registrationId message =>
      obtain ⟨hScanner, hEntering, hNumber⟩ := @dispatchContainer_feed cfg containerId registrationId message
      exact .apart ⟨rfl, rfl⟩ ⟨hScanner, hEntering⟩ (.inr hNumber) rfl rfl rfl
  | messageFlushed hQueue => exact .flush rfl rfl rfl hQueue rfl
  | superseded => exact .apart ⟨rfl, rfl⟩ ⟨rfl, rfl⟩ (.inl rfl) rfl rfl rfl
  | taken hTake =>
      obtain ⟨cstate, -, -, -, rfl⟩ := HostState.takeContainer_some hTake
      exact .apart ⟨rfl, rfl⟩ ⟨rfl, rfl⟩ (.inl rfl) rfl rfl rfl
  | unmapped => exact .apart ⟨rfl, rfl⟩ ⟨rfl, rfl⟩ (.inl rfl) rfl rfl rfl
  | drained hTear => exact tearDown_apart hTear ⟨rfl, rfl⟩ ⟨rfl, rfl⟩ (.inl rfl)
  | drainedOne hDrain =>
      obtain ⟨hSockets, hQueues, hCount⟩ := drainOne_feed hDrain
      exact .apart ⟨rfl, rfl⟩ ⟨rfl, rfl⟩ (.inl rfl) hSockets hQueues hCount
  | idle => exact .apart ⟨rfl, rfl⟩ ⟨rfl, rfl⟩ (.inl rfl) rfl rfl rfl
  | busy => exact .apart ⟨rfl, rfl⟩ ⟨rfl, rfl⟩ (.inl rfl) rfl rfl rfl
  | signalled => exact .apart ⟨rfl, rfl⟩ ⟨rfl, rfl⟩ (.inl rfl) rfl rfl rfl
  | _ => exact .apart ⟨rfl, rfl⟩ ⟨rfl, rfl⟩ (.inr rfl) rfl rfl rfl

theorem nextAuxiliary_feed (h : nextAuxiliary ctx handler input = some (after, next)) :
    FeedEffect ctx handler input after next := by
  cases nextAuxiliary_cases h with
  | registered hRegister =>
      obtain ⟨_, _, _, rfl⟩ := ProxyState.register_frame hRegister
      exact .apart ⟨rfl, rfl⟩ ⟨rfl, rfl⟩ (.inr rfl) rfl rfl rfl
  | unregistered hRegister =>
      obtain ⟨_, _, _, rfl⟩ := ProxyState.register_frame hRegister
      exact .apart ⟨rfl, rfl⟩ ⟨rfl, rfl⟩ (.inr rfl) rfl rfl rfl
  | answered => exact .apart ⟨rfl, rfl⟩ ⟨rfl, rfl⟩ (.inl rfl) rfl rfl rfl
  | _ => exact .apart ⟨rfl, rfl⟩ ⟨rfl, rfl⟩ (.inr rfl) rfl rfl rfl

theorem nextScanner_feed (h : nextScanner ctx handler input = some (after, next)) :
    FeedEffect ctx handler input after next := by
  cases nextScanner_cases h with
  | unchanged => exact .still rfl rfl rfl ⟨rfl, rfl⟩ (fun hScanner => hScanner) (.inl rfl) ⟨rfl, rfl⟩
  | scanned _ hOrder => exact .scan rfl rfl hOrder rfl rfl
  | stopped => exact .apart ⟨rfl, rfl⟩ ⟨rfl, rfl⟩ (.inl rfl) rfl rfl rfl
  | broadcast => exact .still rfl rfl rfl ⟨rfl, rfl⟩ (fun _ => rfl) (.inl rfl) ⟨rfl, rfl⟩
  | sent => exact .broadcast rfl rfl rfl rfl

theorem nextIdle_feed (h : nextIdle ctx input = some (after, next)) :
    FeedEffect ctx .idle input after next := by
  cases nextIdle_cases h <;> exact .apart ⟨rfl, rfl⟩ ⟨rfl, rfl⟩ (.inl rfl) rfl rfl rfl

theorem nextClient_outboundMessages {s : HostState} (h : nextClient s p task input = some (p', task')) :
    p'.outboundMessages = p.outboundMessages := by
  cases nextClient_cases h with
  | @counted _ route => cases route.tracker <;> rfl
  | registered hRegister =>
      obtain ⟨_, _, _, rfl⟩ := ProxyState.register_frame hRegister
      rfl
  | unregistered hRegister =>
      obtain ⟨_, _, _, rfl⟩ := ProxyState.register_frame hRegister
      rfl
  | @uncounted route => cases route.tracker <;> rfl
  | _ => rfl

theorem dispatchData_outboundMessages (message : Message) :
    (dispatchData cfg p message).1.outboundMessages = p.outboundMessages := by
  cases message with
  | clipboardRead =>
      dsimp only [dispatchData]
      split_ifs <;> rfl
  | connectReady =>
      dsimp only [dispatchData]
      split_ifs <;> rfl
  | _ => rfl

theorem nextData_outboundMessages (h : nextData cfg p task input = some (p', task')) :
    p'.outboundMessages = p.outboundMessages := by
  cases nextData_cases h with
  | dispatched message => exact dispatchData_outboundMessages message
  | resolved hResolve =>
      obtain ⟨_, _, rfl⟩ := ProxyState.resolve_frame hResolve
      rfl
  | _ => rfl

theorem nextProxy_feed (h : nextProxy cfg ctx task input = some (after, next)) :
    FeedEffect ctx (.proxy task) input after next := by
  obtain ⟨proxy, task', rfl, rfl, hTask⟩ := nextProxy_cases h
  have hQueues : proxy.outboundMessages = ctx.proxy.outboundMessages := by
    rcases hTask with hClient | hData
    · exact nextClient_outboundMessages hClient
    · exact nextData_outboundMessages hData
  exact .apart ⟨rfl, rfl⟩ ⟨rfl, rfl⟩ (.inl rfl) rfl hQueues rfl

theorem nextHandler_feed (h : nextHandler cfg ctx handler input = some (after, next)) :
    FeedEffect ctx handler input after next := by
  unfold nextHandler at h
  split at h
  case h_1 => exact nextIdle_feed h
  case h_2 => cases h
  case h_3 => exact nextProxy_feed h
  all_goals first
    | exact nextRegister_feed h
    | exact nextForward_feed h
    | exact nextUnforward_feed h
    | exact nextServing_feed h
    | exact nextAuxiliary_feed h
    | exact nextScanner_feed h

/-- What a container's entry was before its forwards changed. -/
theorem HostState.entry_of_removeForward {s : HostState} {owner containerId : String} {port : UInt16}
    {cstate : ContainerState}
    (h : (s.removeForward owner port).1.containers.lookup containerId = some cstate) :
    ∃ old forwards, s.containers.lookup containerId = some old ∧ cstate = { old with forwards := forwards } := by
  unfold removeForward at h
  split at h
  case h_1 => exact ⟨cstate, cstate.forwards, h, rfl⟩
  case h_2 old hOld =>
    split at h
    case h_1 => exact ⟨cstate, cstate.forwards, h, rfl⟩
    case h_2 =>
      simp only [releasePort, setContainer, lookup_insert] at h
      split_ifs at h with hHere
      · cases h
        exact ⟨old, _, hHere ▸ hOld, rfl⟩
      · exact ⟨cstate, cstate.forwards, h, rfl⟩

/-- A container that is registered after a step was registered before with the
same channels, or the step has inserted it. -/
theorem HostStep.entry (hStep : HostStep ctx handler after next) (hBound : handler.WellBound)
    {containerId : String} {cstate : ContainerState}
    (h : after.state.containers.lookup containerId = some cstate) :
    (∃ old forwards, ctx.state.containers.lookup containerId = some old ∧
      cstate = { old with forwards := forwards }) ∨
    ∃ hostname registrationId, handler = .registerInsert containerId hostname registrationId ∧
      cstate = HostState.newRegistration hostname registrationId := by
  have kept : ctx.state.containers.lookup containerId = some cstate →
      ∃ old forwards, ctx.state.containers.lookup containerId = some old ∧
        cstate = { old with forwards := forwards } :=
    fun hOld => ⟨cstate, cstate.forwards, hOld, rfl⟩
  have removed : ∀ {owner : String} {forwards : Forwards},
      ((ctx.state.removeContainer owner).releaseForwards forwards).containers.lookup containerId =
        some cstate → ctx.state.containers.lookup containerId = some cstate := by
    intro owner forwards hLookup
    simp only [HostState.releaseForwards, HostState.removeContainer, lookup_erase] at hLookup
    split_ifs at hLookup
    exact hLookup
  cases hStep with
  | quiet _ _ hSame =>
      rw [hSame.containers] at h
      exact .inl (kept h)
  | advance _ hSame =>
      rw [hSame.containers] at h
      exact .inl (kept h)
  | registerRemove hRemove =>
      obtain ⟨old, -, -, rfl⟩ := HostState.removeStale_some hRemove
      exact .inl (kept (removed h))
  | cleanup hTake =>
      obtain ⟨old, -, -, -, rfl⟩ := HostState.takeContainer_some hTake
      exact .inl (kept (removed h))
  | @registerInsert inserted hostname registrationId =>
      simp only [HostState.insertContainer, HostState.setContainer, lookup_insert] at h
      split_ifs at h with hHere
      · cases h
        exact .inr ⟨hostname, registrationId, by rw [hHere], rfl⟩
      · exact .inl (kept h)
  | forwardTake => exact .inl (HostState.entry_of_removeForward h)
  | unforwardRemove => exact .inl (HostState.entry_of_removeForward h)
  | unforwardGlobal => exact .inl (HostState.entry_of_removeForward h)
  | @forwardInsert owner _ request _ _ hostPort listener fstate hPort _ hInserted =>
      obtain ⟨old, hContainer, hState⟩ := HostState.insertForward_bound hInserted (hPort.trans hBound)
      rw [hState] at h
      simp only [HostState.setContainer, lookup_insert] at h
      split_ifs at h with hHere
      · cases h
        exact .inl ⟨old, _, hHere ▸ hContainer, rfl⟩
      · exact .inl (kept h)
  | forwardGone _ hState _ =>
      rw [hState] at h
      exact .inl (kept h)
  | _ => exact .inl (kept h)

end DevcontainerBridge
