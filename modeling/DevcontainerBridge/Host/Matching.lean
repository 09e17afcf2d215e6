import DevcontainerBridge.Host.Isolation
import DevcontainerBridge.Host.Listeners

/-! How a step changes what matches data connections with pending entries: the
entries, their receivers, the queued requests and the bridges. What other tasks
can do to one conn_id is derived from this classification. -/
namespace DevcontainerBridge

open Table Transition

/-- The conn_id and the receiver that a task holds. -/
def Handler.ticket : Handler → Option (String × Nat)
  | .socketConnect _ _ connId receiver => some (connId, receiver)
  | .proxy (.clientSend _ _ connId receiver) | .proxy (.clientSubscribe _ connId receiver)
  | .proxy (.clientBridge _ connId receiver _) | .proxy (.socketBridge connId receiver) =>
      some (connId, receiver)
  | _ => none

/-- The conn_id that a data connection is being matched under. -/
def Handler.resolves : Handler → Option String
  | .proxy (.resolving connId) => some connId
  | _ => none

/-- A step that matches nothing. It may take a client from the queue. -/
structure SameMatching (p p' : ProxyState) : Prop where
  pending : p'.pending = p.pending
  receivers : p'.receivers = p.receivers
  count : p'.nextReceiver = p.nextReceiver
  requests : p'.connectRequests = p.connectRequests
  bridges : p'.bridges = p.bridges
  queue : p'.clientQueue.length ≤ p.clientQueue.length

def Handler.bridged : Handler → Bool
  | .proxy (.socketBridge ..) | .proxy (.socketBridgeCancel _) => true
  | _ => false

/-- The task has no receiver in hand, matches no data connection and is not
the task of a socket bridge. -/
structure Handler.Unmatched (handler : Handler) : Prop where
  ticket : handler.ticket = none
  resolves : handler.resolves = none
  bridged : handler.bridged = false

/-- The queue of requests after its first one has been sent. -/
def ProxyState.dropRequest (p : ProxyState) (channel : Nat) (rest : List OutboundConnectRequest) : ProxyState :=
  { p with connectRequests := Function.update p.connectRequests channel rest }

inductive MatchStep (p : ProxyState) (handler : Handler) (input : Input) (p' : ProxyState) (next : Handler) :
    Prop where
  | quiet (hSame : SameMatching p p') (hNext : next.Unmatched)
  | arrive (connId : String) (hHandler : handler = .proxy .handshake)
      (hInput : input = .receive (.connectReady connId)) (hSame : p' = p)
      (hNext : next = .proxy (.resolving connId))
  | retry (connId : String) (hHandler : handler = .proxy (.resolving connId)) (hSame : p' = p)
      (hNext : next = .proxy (.resolving connId))
  | resolve (connId : String) (hHandler : handler = .proxy (.resolving connId))
      (hResolve : p.resolve connId = some p') (hNext : next.Unmatched)
  | cancel (owner : Option String) (connId : String) (hActs : handler.actsUnder = some (owner, connId))
      (hCancel : p' = p.cancelPending connId) (hNext : next.Unmatched)
  | flush (channel : Nat) (request : OutboundConnectRequest) (rest : List OutboundConnectRequest)
      (hQueue : p.connectRequests channel = request :: rest)
      (hFlush : p' = p.dropRequest channel rest ∨ p' = (p.dropRequest channel rest).cancelPending request.connId)
      (hNext : next.Unmatched)
  | register (owner connId : String) (receiver : Nat)
      (hOrigin : handler.names input = some (owner, connId) ∨ handler.actsUnder = some (some owner, connId))
      (hRegister : p.register connId = (p', some receiver)) (hTicket : next.ticket = some (connId, receiver))
      (hResolves : next.resolves = none)
  | refuse (connId : String) (hRegister : p.register connId = (p', none)) (hNext : next.Unmatched)
  | enqueue (channel receiver : Nat) (request : OutboundConnectRequest)
      (hBefore : handler.ticket = some (request.connId, receiver))
      (hQueue : p' = p.queueRequest channel request)
      (hTicket : next.ticket = some (request.connId, receiver)) (hResolves : next.resolves = none)
  | hold (connId : String) (receiver : Nat) (hSame : p' = p)
      (hBefore : handler.ticket = some (connId, receiver)) (hTicket : next.ticket = some (connId, receiver))
      (hResolves : next.resolves = none)
  | close (connId : String) (receiver : Nat) (hBefore : handler.ticket = some (connId, receiver))
      (hClose : p' = p.closeReceiver receiver) (hTicket : next.ticket = none) (hResolves : next.resolves = none)
      (hActs : ∀ origin, next.actsUnder = some origin → handler.actsUnder = some origin)
  | launch (connId : String) (receiver : Nat) (hBefore : handler.ticket = some (connId, receiver))
      (hLaunch : p' = { p with bridges := p.bridges ++ [(connId, receiver)] }) (hNext : next.Unmatched)
  | spawn (connId : String) (receiver : Nat) (rest : List (String × Nat))
      (hBridges : p.bridges = (connId, receiver) :: rest) (hSpawn : p' = { p with bridges := rest })
      (hTask : handler = .idle) (hNext : next = .proxy (.socketBridge connId receiver))

variable {cfg : HostConfig} {ctx after : DaemonContext} {handler next : Handler} {input : Input}
  {p p' : ProxyState} {connId : String}

theorem SameMatching.refl (p : ProxyState) : SameMatching p p := ⟨rfl, rfl, rfl, rfl, rfl, le_refl _⟩

theorem setChannel_sameMatching (p : ProxyState) (channel : Nat) (isOpen : Bool) :
    SameMatching p (p.setChannel channel isOpen) := ⟨rfl, rfl, rfl, rfl, rfl, le_refl _⟩

theorem tearDown_sameMatching {forwards : Forwards} {timedOut : List Nat}
    (h : ctx.tearDown forwards timedOut = some after) : SameMatching ctx.proxy after.proxy := by
  obtain ⟨-, rfl⟩ := DaemonContext.tearDown_frame h
  exact ⟨rfl, rfl, rfl, rfl, rfl, le_refl _⟩

theorem drainOne_sameMatching {old rest : Forwards} {port : UInt16} {timedOut : Bool}
    (h : ctx.drainOne old port timedOut = some (after, rest)) : SameMatching ctx.proxy after.proxy := by
  obtain ⟨fstate, -, -, hTear⟩ := drainOne_some h
  exact tearDown_sameMatching hTear

theorem dispatchFirst_unmatched (message : Message) : (dispatchFirst cfg message).Unmatched := by
  cases message <;> unfold dispatchFirst <;> dsimp only <;> (try split_ifs) <;> exact ⟨rfl, rfl, rfl⟩

theorem dispatchContainer_unmatched (containerId : String) (registrationId : Nat) (message : Message) :
    (dispatchContainer cfg containerId registrationId message).Unmatched := by
  cases message <;> unfold dispatchContainer <;> dsimp only <;> (try split_ifs) <;> exact ⟨rfl, rfl, rfl⟩

theorem nextRegister_sameMatching (h : nextRegister cfg ctx handler input = some (after, next)) :
    SameMatching ctx.proxy after.proxy ∧ next.Unmatched := by
  cases nextRegister_cases h with
  | dispatched message => exact ⟨.refl ctx.proxy, dispatchFirst_unmatched message⟩
  | drained hTear => exact ⟨tearDown_sameMatching hTear, rfl, rfl, rfl⟩
  | drainedOne hDrain => exact ⟨drainOne_sameMatching hDrain, rfl, rfl, rfl⟩
  | inserted => exact ⟨setChannel_sameMatching ctx.proxy _ true, rfl, rfl, rfl⟩
  | _ => exact ⟨.refl ctx.proxy, rfl, rfl, rfl⟩

theorem nextForward_sameMatching (h : nextForward ctx handler input = some (after, next)) :
    SameMatching ctx.proxy after.proxy ∧ next.Unmatched := by
  cases nextForward_cases h with
  | disowned => exact ⟨setChannel_sameMatching ctx.proxy _ false, rfl, rfl, rfl⟩
  | drained hTear => exact ⟨tearDown_sameMatching hTear, rfl, rfl, rfl⟩
  | unacknowledged => exact ⟨setChannel_sameMatching ctx.proxy _ false, rfl, rfl, rfl⟩
  | _ => exact ⟨.refl ctx.proxy, rfl, rfl, rfl⟩

theorem nextUnforward_sameMatching (h : nextUnforward ctx handler input = some (after, next)) :
    SameMatching ctx.proxy after.proxy ∧ next.Unmatched := by
  cases nextUnforward_cases h with
  | disowned => exact ⟨setChannel_sameMatching ctx.proxy _ false, rfl, rfl, rfl⟩
  | drained hTear => exact ⟨tearDown_sameMatching hTear, rfl, rfl, rfl⟩
  | globalDrained hTear => exact ⟨tearDown_sameMatching hTear, rfl, rfl, rfl⟩
  | _ => exact ⟨.refl ctx.proxy, rfl, rfl, rfl⟩

theorem nextScanner_sameMatching (h : nextScanner ctx handler input = some (after, next)) :
    SameMatching ctx.proxy after.proxy ∧ next.Unmatched := by
  cases nextScanner_cases h with
  | @sent message tx =>
      obtain ⟨queues, hBroadcast⟩ := ctx.proxy.tryBroadcast_frame message tx
      rw [hBroadcast]
      exact ⟨⟨rfl, rfl, rfl, rfl, rfl, le_refl _⟩, rfl, rfl, rfl⟩
  | _ => exact ⟨.refl ctx.proxy, rfl, rfl, rfl⟩

theorem nextServing_matchStep (h : nextServing cfg ctx handler input = some (after, next)) :
    MatchStep ctx.proxy handler input after.proxy next := by
  cases nextServing_cases h with
  | @dispatched containerId registrationId message =>
      exact .quiet (.refl ctx.proxy) (dispatchContainer_unmatched containerId registrationId message)
  | closed => exact .quiet (setChannel_sameMatching ctx.proxy _ false) ⟨rfl, rfl, rfl⟩
  | @requestFlushed _ registrationId request rest hQueue =>
      exact .flush registrationId request rest hQueue (.inl rfl) ⟨rfl, rfl, rfl⟩
  | @requestLost _ registrationId request rest hQueue =>
      exact .flush registrationId request rest hQueue (.inr rfl) ⟨rfl, rfl, rfl⟩
  | messageFlushed => exact .quiet ⟨rfl, rfl, rfl, rfl, rfl, le_refl _⟩ ⟨rfl, rfl, rfl⟩
  | unponged => exact .quiet (setChannel_sameMatching ctx.proxy _ false) ⟨rfl, rfl, rfl⟩
  | @connectCancelled containerId named => exact .cancel (some containerId) named rfl rfl ⟨rfl, rfl, rfl⟩
  | drained hTear => exact .quiet (tearDown_sameMatching hTear) ⟨rfl, rfl, rfl⟩
  | drainedOne hDrain => exact .quiet (drainOne_sameMatching hDrain) ⟨rfl, rfl, rfl⟩
  | _ => exact .quiet (.refl ctx.proxy) ⟨rfl, rfl, rfl⟩

theorem nextAuxiliary_matchStep (h : nextAuxiliary ctx handler input = some (after, next)) :
    MatchStep ctx.proxy handler input after.proxy next := by
  cases nextAuxiliary_cases h with
  | @registered containerId named _ _ _ hRegister =>
      exact .register containerId named _ (.inr rfl) hRegister rfl rfl
  | @unregistered _ named _ _ hRegister => exact .refuse named hRegister ⟨rfl, rfl, rfl⟩
  | @connected _ named _ receiver => exact .launch named receiver rfl rfl ⟨rfl, rfl, rfl⟩
  | @cancelled containerId named => exact .cancel (some containerId) named rfl rfl ⟨rfl, rfl, rfl⟩
  | unacknowledged => exact .quiet (setChannel_sameMatching ctx.proxy _ false) ⟨rfl, rfl, rfl⟩
  | _ => exact .quiet (.refl ctx.proxy) ⟨rfl, rfl, rfl⟩

theorem nextIdle_matchStep (h : nextIdle ctx input = some (after, next)) :
    MatchStep ctx.proxy .idle input after.proxy next := by
  cases nextIdle_cases h with
  | client hQueue =>
      refine .quiet ⟨rfl, rfl, rfl, rfl, rfl, ?_⟩ ⟨rfl, rfl, rfl⟩
      simp [hQueue]
  | @bridge named receiver rest hBridges => exact .spawn named receiver rest hBridges rfl rfl rfl
  | _ => exact .quiet (.refl ctx.proxy) ⟨rfl, rfl, rfl⟩

theorem increment_sameMatching (p : ProxyState) (tracker : Option Nat) :
    SameMatching p (p.increment tracker) := by
  cases tracker <;> exact ⟨rfl, rfl, rfl, rfl, rfl, le_refl _⟩

theorem decrement_sameMatching (p : ProxyState) (tracker : Option Nat) :
    SameMatching p (p.decrement tracker) := by
  cases tracker <;> exact ⟨rfl, rfl, rfl, rfl, rfl, le_refl _⟩

theorem nextClient_matchStep {s : HostState} {task task' : ProxyTask}
    (h : nextClient s p task input = some (p', task')) : MatchStep p (.proxy task) input p' (.proxy task') := by
  cases nextClient_cases h with
  | @counted _ route => exact .quiet (increment_sameMatching p route.tracker) ⟨rfl, rfl, rfl⟩
  | @registered _ route named _ _ hRegister =>
      exact .register route.containerId named _ (.inl rfl) hRegister rfl rfl
  | @unregistered _ _ named _ hRegister => exact .refuse named hRegister ⟨rfl, rfl, rfl⟩
  | @queued _ _ _ receiver channel => exact .enqueue channel receiver _ rfl rfl rfl rfl
  | @unsent _ _ named receiver => exact .close named receiver rfl rfl rfl rfl fun _ hActs => hActs
  | @subscribed _ named receiver => exact .hold named receiver rfl rfl rfl rfl
  | @unsubscribed _ named receiver => exact .hold named receiver rfl rfl rfl rfl
  | @bridged _ named receiver => exact .close named receiver rfl rfl rfl rfl fun _ hActs => (nomatch hActs)
  | @expired _ named receiver => exact .close named receiver rfl rfl rfl rfl fun _ hActs => hActs
  | @interrupted _ named receiver => exact .close named receiver rfl rfl rfl rfl fun _ hActs => (nomatch hActs)
  | @withdrawn route named => exact .cancel (some route.containerId) named rfl rfl ⟨rfl, rfl, rfl⟩
  | @cancelled route named => exact .cancel (some route.containerId) named rfl rfl ⟨rfl, rfl, rfl⟩
  | @uncounted route => exact .quiet (decrement_sameMatching p route.tracker) ⟨rfl, rfl, rfl⟩
  | _ => exact .quiet (.refl p) ⟨rfl, rfl, rfl⟩

theorem dispatchData_matchStep (cfg : HostConfig) (p : ProxyState) (message : Message) :
    MatchStep p (.proxy .handshake) (.receive message) (dispatchData cfg p message).1
      (.proxy (dispatchData cfg p message).2) := by
  unfold dispatchData
  split
  case h_1 =>
    split_ifs
    · exact .quiet ⟨rfl, rfl, rfl, rfl, rfl, le_refl _⟩ ⟨rfl, rfl, rfl⟩
    · exact .quiet (.refl _) ⟨rfl, rfl, rfl⟩
  case h_2 named =>
    split_ifs
    · exact .quiet (.refl _) ⟨rfl, rfl, rfl⟩
    · exact .arrive named rfl rfl rfl rfl
  case h_3 => exact .quiet (.refl _) ⟨rfl, rfl, rfl⟩

theorem nextData_matchStep {task task' : ProxyTask} (h : nextData cfg p task input = some (p', task')) :
    MatchStep p (.proxy task) input p' (.proxy task') := by
  cases nextData_cases h with
  | @bridged named receiver => exact .close named receiver rfl rfl rfl rfl fun _ hActs => (nomatch hActs)
  | @expired named receiver => exact .close named receiver rfl rfl rfl rfl fun _ hActs => hActs
  | @cancelled named => exact .cancel none named rfl rfl ⟨rfl, rfl, rfl⟩
  | dispatched message => exact dispatchData_matchStep cfg p message
  | @resolved named _ hResolve => exact .resolve named rfl hResolve ⟨rfl, rfl, rfl⟩
  | @unresolved named => exact .retry named rfl rfl rfl
  | captured => exact .quiet ⟨rfl, rfl, rfl, rfl, rfl, le_refl _⟩ ⟨rfl, rfl, rfl⟩
  | _ => exact .quiet (.refl p) ⟨rfl, rfl, rfl⟩

theorem nextHandler_matchStep (h : nextHandler cfg ctx handler input = some (after, next)) :
    MatchStep ctx.proxy handler input after.proxy next := by
  have quiet : SameMatching ctx.proxy after.proxy ∧ next.Unmatched →
      MatchStep ctx.proxy handler input after.proxy next := fun h => .quiet h.1 h.2
  unfold nextHandler at h
  split at h
  case h_1 => exact nextIdle_matchStep h
  case h_2 => cases h
  case h_3 task =>
    obtain ⟨proxy, task', rfl, rfl, hClient | hData⟩ := nextProxy_cases h
    · exact nextClient_matchStep hClient
    · exact nextData_matchStep hData
  all_goals first
    | exact quiet (nextRegister_sameMatching h)
    | exact quiet (nextForward_sameMatching h)
    | exact quiet (nextUnforward_sameMatching h)
    | exact quiet (nextScanner_sameMatching h)
    | exact nextServing_matchStep h
    | exact nextAuxiliary_matchStep h

/-- The queue of accepted clients does not grow under a step of a task. -/
theorem MatchStep.clientQueue_le (h : MatchStep p handler input p' next) :
    p'.clientQueue.length ≤ p.clientQueue.length := by
  cases h with
  | quiet hSame => exact hSame.queue
  | arrive named hHandler hInput hSame => rw [hSame]
  | retry named hHandler hSame => rw [hSame]
  | resolve named hHandler hResolve =>
      obtain ⟨_, _, rfl⟩ := ProxyState.resolve_frame hResolve
      exact le_refl _
  | cancel owner named hActs hCancel => rw [hCancel]; rfl
  | flush channel request rest hQueue hFlush => rcases hFlush with rfl | rfl <;> rfl
  | register owner named receiver hOrigin hRegister =>
      obtain ⟨_, _, _, rfl⟩ := ProxyState.register_frame hRegister
      exact le_refl _
  | refuse named hRegister =>
      obtain ⟨_, _, _, rfl⟩ := ProxyState.register_frame hRegister
      exact le_refl _
  | enqueue channel receiver request hBefore hQueue => rw [hQueue]; rfl
  | hold named receiver hSame => rw [hSame]
  | close named receiver hBefore hClose => rw [hClose]; rfl
  | launch named receiver hBefore hLaunch => rw [hLaunch]
  | spawn named receiver rest hBridges hSpawn => rw [hSpawn]

end DevcontainerBridge
