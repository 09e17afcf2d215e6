import DevcontainerBridge.Host.Daemon

/-! What one step of a task can do, case by case. Whatever is said later about
the steps of a task starts from these lists. -/
namespace DevcontainerBridge

open Table

/-- Registering touches the pending map and the receivers only. -/
theorem ProxyState.register_frame {p p' : ProxyState} {connId : String} {receiver : Option Nat}
    (h : p.register connId = (p', receiver)) :
    ∃ pending receivers count,
      p' = { p with pending := pending, receivers := receivers, nextReceiver := count } := by
  unfold ProxyState.register at h
  split at h <;> cases h <;> exact ⟨_, _, _, rfl⟩

/-- A lookup that finds an entry touches the pending map and its receiver. -/
theorem ProxyState.resolve_frame {p p' : ProxyState} {connId : String} (h : p.resolve connId = some p') :
    ∃ pending receivers, p' = { p with pending := pending, receivers := receivers } := by
  unfold ProxyState.resolve at h
  split at h
  case h_1 => cases h
  case h_2 =>
    cases h
    dsimp only
    split <;> exact ⟨_, _, rfl⟩

theorem ProxyState.tryBroadcast_frame (p : ProxyState) (message : Message) (channel : Nat) :
    ∃ queues, p.tryBroadcast message channel = { p with outboundMessages := queues } := by
  unfold ProxyState.tryBroadcast
  dsimp only
  split <;> exact ⟨_, rfl⟩

/-- A teardown outside the lock joins listeners and cancels trackers only. -/
theorem DaemonContext.tearDown_frame {ctx after : DaemonContext} {forwards : Forwards} {timedOut : List Nat}
    (h : ctx.tearDown forwards timedOut = some after) :
    ctx.proxy.canDrain forwards timedOut = true ∧
      after = { ctx.joinListeners forwards with proxy := ctx.proxy.cancelTrackers timedOut } := by
  unfold DaemonContext.tearDown at h
  split at h
  case isTrue hDrain =>
    cases h
    exact ⟨hDrain, rfl⟩
  case isFalse => cases h

/-- A client that has been accepted waits behind the others. -/
theorem DaemonContext.acceptClient_frame {ctx after : DaemonContext} {listener : Nat}
    (h : ctx.acceptClient listener = some after) :
    ∃ l, ctx.listeners listener = some l ∧
      after = { ctx with proxy := { ctx.proxy with clientQueue :=
        ctx.proxy.clientQueue ++ [{ containerPort := l.containerPort, listener := listener }] } } := by
  unfold DaemonContext.acceptClient at h
  split at h
  case h_1 => cases h
  case h_2 l hListener =>
    split at h <;> cases h
    exact ⟨l, hListener, rfl⟩

/-- Steps of a control connection up to the end of its registration. -/
inductive RegisterStep (cfg : HostConfig) (ctx : DaemonContext) :
    Handler → Input → DaemonContext → Handler → Prop where
  | dispatched (message : Message) :
      RegisterStep cfg ctx .awaitFirst (.receive message) ctx (dispatchFirst cfg message)
  | closed : RegisterStep cfg ctx .awaitFirst .fail ctx .finished
  | replied (message : Message) (ok : Bool) : RegisterStep cfg ctx (.replying message) (.sent ok) ctx .finished
  | listed : RegisterStep cfg ctx .listForwards .proceed ctx .finished
  | refused {containerId hostname : String} (hStale : ctx.state.removeStale containerId = none) :
      RegisterStep cfg ctx (.registerRemove containerId hostname) .proceed ctx (.replying (.registerAck false))
  | unknown {containerId hostname : String} {state : HostState}
      (hStale : ctx.state.removeStale containerId = some (state, none)) :
      RegisterStep cfg ctx (.registerRemove containerId hostname) .proceed { ctx with state := state }
        (.registerAck containerId hostname)
  | stale {containerId hostname : String} {state : HostState} {old : Forwards}
      (hStale : ctx.state.removeStale containerId = some (state, some old)) :
      RegisterStep cfg ctx (.registerRemove containerId hostname) .proceed { ctx with state := state }
        (.registerBrowser containerId hostname old)
  | unmapped {containerId hostname : String} {old : Forwards} :
      RegisterStep cfg ctx (.registerBrowser containerId hostname old) .proceed
        { ctx with browser := ctx.browser.removePortMappings old } (.registerDrain containerId hostname old)
  | drained {containerId hostname : String} {old : Forwards} {timedOut : List Nat} {after : DaemonContext}
      (hTear : ctx.tearDown old timedOut = some after) :
      RegisterStep cfg ctx (.registerDrain containerId hostname old) (.drained timedOut) after
        (.registerAck containerId hostname)
  | drainedOne {containerId hostname : String} {old rest : Forwards} {port : UInt16} {timedOut : Bool}
      {after : DaemonContext} (hDrain : ctx.drainOne old port timedOut = some (after, rest)) :
      RegisterStep cfg ctx (.registerDrain containerId hostname old) (.drainedOne port timedOut) after
        (.registerDrain containerId hostname rest)
  | acknowledged {containerId hostname : String} :
      RegisterStep cfg ctx (.registerAck containerId hostname) (.sent true) ctx
        (.registerEpoch containerId hostname)
  | unacknowledged {containerId hostname : String} :
      RegisterStep cfg ctx (.registerAck containerId hostname) (.sent false) ctx .finished
  | numbered {containerId hostname : String} :
      RegisterStep cfg ctx (.registerEpoch containerId hostname) .proceed
        { ctx with nextRegistrationId := ctx.nextRegistrationId + 1 }
        (.registerInsert containerId hostname ctx.nextRegistrationId)
  | inserted {containerId hostname : String} {registrationId : Nat} :
      RegisterStep cfg ctx (.registerInsert containerId hostname registrationId) .proceed
        { ctx with
          state := ctx.state.insertContainer containerId hostname registrationId
          proxy := ctx.proxy.setChannel registrationId true }
        (.registerReplay containerId registrationId)
  | replayed {containerId : String} {registrationId : Nat} :
      RegisterStep cfg ctx (.registerReplay containerId registrationId) .proceed ctx
        (.serving containerId registrationId)

/-- What a forward enters once its listener is bound. -/
def ForwardRequest.entered (request : ForwardRequest) (hostPort : UInt16) (listener : Nat) (now : String) :
    ForwardState :=
  { hostPort := hostPort
    listener := listener
    processName := request.processName
    pid := request.pid
    since := now
    tracker := listener }

/-- Steps of a forward. -/
inductive ForwardStep (ctx : DaemonContext) : Handler → Input → DaemonContext → Handler → Prop where
  | owned {containerId : String} {registrationId : Nat} {request : ForwardRequest}
      (hOwner : ctx.state.registrationOf containerId = some registrationId) :
      ForwardStep ctx (.forwardCheck containerId registrationId request) .proceed ctx
        (.forwardTake containerId registrationId request)
  | disowned {containerId : String} {registrationId : Nat} {request : ForwardRequest}
      (hOwner : ctx.state.registrationOf containerId ≠ some registrationId) :
      ForwardStep ctx (.forwardCheck containerId registrationId request) .proceed
        { ctx with proxy := ctx.proxy.setChannel registrationId false } (.cleanup containerId registrationId)
  | limited {containerId : String} {registrationId : Nat} {request : ForwardRequest}
      (hTake : ctx.state.takeForward containerId request.port = none) :
      ForwardStep ctx (.forwardTake containerId registrationId request) .proceed ctx
        (.forwardAck containerId registrationId request.port none)
  | taken {containerId : String} {registrationId : Nat} {request : ForwardRequest} {state : HostState}
      (hTake : ctx.state.takeForward containerId request.port = some (state, none)) :
      ForwardStep ctx (.forwardTake containerId registrationId request) .proceed { ctx with state := state }
        (.forwardReserve containerId registrationId request none)
  | replaced {containerId : String} {registrationId : Nat} {request : ForwardRequest} {state : HostState}
      {old : ForwardState} (hTake : ctx.state.takeForward containerId request.port = some (state, some old)) :
      ForwardStep ctx (.forwardTake containerId registrationId request) .proceed { ctx with state := state }
        (.forwardDrain containerId registrationId request old)
  | drained {containerId : String} {registrationId : Nat} {request : ForwardRequest} {old : ForwardState}
      {timedOut : List Nat} {after : DaemonContext}
      (hTear : ctx.tearDown (singleForward request.port old) timedOut = some after) :
      ForwardStep ctx (.forwardDrain containerId registrationId request old) (.drained timedOut) after
        (.forwardReserve containerId registrationId request (some old.hostPort))
  | noPort {containerId : String} {registrationId : Nat} {request : ForwardRequest} {replaced : Option UInt16}
      (hFull : ctx.state.findAvailablePort request.port = some none) :
      ForwardStep ctx (.forwardReserve containerId registrationId request replaced) .proceed ctx
        (.forwardAck containerId registrationId request.port none)
  | reserved {containerId : String} {registrationId : Nat} {request : ForwardRequest} {replaced : Option UInt16}
      {targetPort : UInt16} (hFree : ctx.state.findAvailablePort request.port = some (some targetPort)) :
      ForwardStep ctx (.forwardReserve containerId registrationId request replaced) .proceed
        { ctx with state := ctx.state.reservePort targetPort containerId }
        (.forwardBind containerId registrationId request replaced targetPort)
  | unbound {containerId : String} {registrationId : Nat} {request : ForwardRequest} {replaced : Option UInt16}
      {targetPort : UInt16} :
      ForwardStep ctx (.forwardBind containerId registrationId request replaced targetPort) (.bound none) ctx
        (.forwardRelease containerId registrationId request replaced targetPort)
  | bound {containerId : String} {registrationId : Nat} {request : ForwardRequest} {replaced : Option UInt16}
      {targetPort boundPort : UInt16} (hBound : ¬(targetPort ≠ 0 ∧ boundPort ≠ targetPort)) :
      ForwardStep ctx (.forwardBind containerId registrationId request replaced targetPort)
        (.bound (some boundPort)) (ctx.startListener boundPort request.port)
        (.forwardInsert containerId registrationId request replaced targetPort boundPort ctx.nextListener)
  | released {containerId : String} {registrationId : Nat} {request : ForwardRequest} {replaced : Option UInt16}
      {targetPort : UInt16} :
      ForwardStep ctx (.forwardRelease containerId registrationId request replaced targetPort) .proceed
        { ctx with state := ctx.state.releasePort targetPort }
        (.forwardAck containerId registrationId request.port none)
  | inserted {containerId : String} {registrationId : Nat} {request : ForwardRequest} {replaced : Option UInt16}
      {targetPort hostPort : UInt16} {listener : Nat} {now : String} {state : HostState}
      (hInsert : ctx.state.insertForward containerId request.port targetPort
        (request.entered hostPort listener now) = (state, true)) :
      ForwardStep ctx (.forwardInsert containerId registrationId request replaced targetPort hostPort listener)
        (.timestamp now) { ctx with state := state }
        (.forwardBrowser containerId registrationId request.port hostPort)
  | gone {containerId : String} {registrationId : Nat} {request : ForwardRequest} {replaced : Option UInt16}
      {targetPort hostPort : UInt16} {listener : Nat} {now : String} {state : HostState}
      (hInsert : ctx.state.insertForward containerId request.port targetPort
        (request.entered hostPort listener now) = (state, false)) :
      ForwardStep ctx (.forwardInsert containerId registrationId request replaced targetPort hostPort listener)
        (.timestamp now)
        ({ ctx with state := state }.joinListeners
          (singleForward request.port (request.entered hostPort listener now)))
        (.forwardAck containerId registrationId request.port none)
  | mapped {containerId : String} {registrationId : Nat} {port hostPort : UInt16} :
      ForwardStep ctx (.forwardBrowser containerId registrationId port hostPort) .proceed
        { ctx with browser := ctx.browser.addPortMapping port hostPort }
        (.forwardAck containerId registrationId port (some hostPort))
  | acknowledged {containerId : String} {registrationId : Nat} {port : UInt16} {result : Option UInt16} :
      ForwardStep ctx (.forwardAck containerId registrationId port result) (.sent true) ctx
        (.serving containerId registrationId)
  | unacknowledged {containerId : String} {registrationId : Nat} {port : UInt16} {result : Option UInt16} :
      ForwardStep ctx (.forwardAck containerId registrationId port result) (.sent false)
        { ctx with proxy := ctx.proxy.setChannel registrationId false } (.cleanup containerId registrationId)

/-- Steps of an unforward. -/
inductive UnforwardStep (ctx : DaemonContext) : Handler → Input → DaemonContext → Handler → Prop where
  | owned {containerId : String} {registrationId : Nat} {port : UInt16}
      (hOwner : ctx.state.registrationOf containerId = some registrationId) :
      UnforwardStep ctx (.unforwardCheck containerId registrationId port) .proceed ctx
        (.unforwardRemove containerId registrationId port)
  | disowned {containerId : String} {registrationId : Nat} {port : UInt16}
      (hOwner : ctx.state.registrationOf containerId ≠ some registrationId) :
      UnforwardStep ctx (.unforwardCheck containerId registrationId port) .proceed
        { ctx with proxy := ctx.proxy.setChannel registrationId false } (.cleanup containerId registrationId)
  | missing {containerId : String} {registrationId : Nat} {port : UInt16} {state : HostState}
      (hRemove : ctx.state.removeForward containerId port = (state, none)) :
      UnforwardStep ctx (.unforwardRemove containerId registrationId port) .proceed { ctx with state := state }
        (.unforwardBrowser containerId registrationId port)
  | removed {containerId : String} {registrationId : Nat} {port : UInt16} {state : HostState} {old : ForwardState}
      (hRemove : ctx.state.removeForward containerId port = (state, some old)) :
      UnforwardStep ctx (.unforwardRemove containerId registrationId port) .proceed { ctx with state := state }
        (.unforwardDrain containerId registrationId port old)
  | drained {containerId : String} {registrationId : Nat} {port : UInt16} {old : ForwardState}
      {timedOut : List Nat} {after : DaemonContext}
      (hTear : ctx.tearDown (singleForward port old) timedOut = some after) :
      UnforwardStep ctx (.unforwardDrain containerId registrationId port old) (.drained timedOut) after
        (.unforwardBrowser containerId registrationId port)
  | unmapped {containerId : String} {registrationId : Nat} {port : UInt16} :
      UnforwardStep ctx (.unforwardBrowser containerId registrationId port) .proceed
        { ctx with browser := ctx.browser.removePortMapping port } (.serving containerId registrationId)
  | nobody {port : UInt16} {order : List (Σ _ : String, ContainerState)}
      (hOrder : Enumerates order ctx.state.containers)
      (hOwner : HostState.findContainerForPort order port = none) :
      UnforwardStep ctx (.unforwardGlobal port) (.enumerate order) ctx .finished
  | globalMissing {port : UInt16} {order : List (Σ _ : String, ContainerState)} {owner : String}
      {state : HostState} (hOrder : Enumerates order ctx.state.containers)
      (hOwner : HostState.findContainerForPort order port = some owner)
      (hRemove : ctx.state.removeForward owner port = (state, none)) :
      UnforwardStep ctx (.unforwardGlobal port) (.enumerate order) { ctx with state := state } .finished
  | globalRemoved {port : UInt16} {order : List (Σ _ : String, ContainerState)} {owner : String}
      {state : HostState} {old : ForwardState} (hOrder : Enumerates order ctx.state.containers)
      (hOwner : HostState.findContainerForPort order port = some owner)
      (hRemove : ctx.state.removeForward owner port = (state, some old)) :
      UnforwardStep ctx (.unforwardGlobal port) (.enumerate order) { ctx with state := state }
        (.unforwardGlobalBrowser port old)
  | globalUnmapped {port : UInt16} {old : ForwardState} :
      UnforwardStep ctx (.unforwardGlobalBrowser port old) .proceed
        { ctx with browser := ctx.browser.removePortMapping port } (.unforwardGlobalDrain port old)
  | globalDrained {port : UInt16} {old : ForwardState} {timedOut : List Nat} {after : DaemonContext}
      (hTear : ctx.tearDown (singleForward port old) timedOut = some after) :
      UnforwardStep ctx (.unforwardGlobalDrain port old) (.drained timedOut) after .finished

/-- Steps of the message loop itself and of its end. -/
inductive ServingStep (cfg : HostConfig) (ctx : DaemonContext) :
    Handler → Input → DaemonContext → Handler → Prop where
  | dispatched {containerId : String} {registrationId : Nat} (message : Message) :
      ServingStep cfg ctx (.serving containerId registrationId) (.receive message) ctx
        (dispatchContainer cfg containerId registrationId message)
  | closed {containerId : String} {registrationId : Nat} :
      ServingStep cfg ctx (.serving containerId registrationId) .fail
        { ctx with proxy := ctx.proxy.setChannel registrationId false } (.cleanup containerId registrationId)
  | requestFlushed {containerId : String} {registrationId : Nat} {request : OutboundConnectRequest}
      {rest : List OutboundConnectRequest} (hQueue : ctx.proxy.connectRequests registrationId = request :: rest) :
      ServingStep cfg ctx (.serving containerId registrationId) (.flushRequest true)
        { ctx with
          proxy :=
            { ctx.proxy with
              connectRequests := Function.update ctx.proxy.connectRequests registrationId rest } }
        (.serving containerId registrationId)
  | requestLost {containerId : String} {registrationId : Nat} {request : OutboundConnectRequest}
      {rest : List OutboundConnectRequest} (hQueue : ctx.proxy.connectRequests registrationId = request :: rest) :
      ServingStep cfg ctx (.serving containerId registrationId) (.flushRequest false)
        { ctx with
          proxy :=
            { ctx.proxy with
              connectRequests :=
                Function.update ctx.proxy.connectRequests registrationId rest }.cancelPending request.connId }
        (.serving containerId registrationId)
  | messageFlushed {containerId : String} {registrationId : Nat} {message : Message} {rest : List Message}
      (hQueue : ctx.proxy.outboundMessages registrationId = message :: rest) :
      ServingStep cfg ctx (.serving containerId registrationId) .flushMessage
        { ctx with
          proxy :=
            { ctx.proxy with
              outboundMessages := Function.update ctx.proxy.outboundMessages registrationId rest } }
        (.serving containerId registrationId)
  | ponged {containerId : String} {registrationId : Nat} :
      ServingStep cfg ctx (.sendPong containerId registrationId) (.sent true) ctx
        (.serving containerId registrationId)
  | unponged {containerId : String} {registrationId : Nat} :
      ServingStep cfg ctx (.sendPong containerId registrationId) (.sent false)
        { ctx with proxy := ctx.proxy.setChannel registrationId false } (.cleanup containerId registrationId)
  | connectCancelled {containerId connId : String} {registrationId : Nat} :
      ServingStep cfg ctx (.cancelConnect containerId registrationId connId) .proceed
        { ctx with proxy := ctx.proxy.cancelPending connId } (.serving containerId registrationId)
  | superseded {containerId : String} {registrationId : Nat}
      (hTake : ctx.state.takeContainer containerId registrationId = none) :
      ServingStep cfg ctx (.cleanup containerId registrationId) .proceed ctx .idleCheck
  | taken {containerId : String} {registrationId : Nat} {state : HostState} {old : Forwards}
      (hTake : ctx.state.takeContainer containerId registrationId = some (state, old)) :
      ServingStep cfg ctx (.cleanup containerId registrationId) .proceed { ctx with state := state }
        (.cleanupBrowser old)
  | unmapped {old : Forwards} :
      ServingStep cfg ctx (.cleanupBrowser old) .proceed
        { ctx with browser := ctx.browser.removePortMappings old } (.cleanupDrain old)
  | drained {old : Forwards} {timedOut : List Nat} {after : DaemonContext}
      (hTear : ctx.tearDown old timedOut = some after) :
      ServingStep cfg ctx (.cleanupDrain old) (.drained timedOut) after .idleCheck
  | drainedOne {old rest : Forwards} {port : UInt16} {timedOut : Bool} {after : DaemonContext}
      (hDrain : ctx.drainOne old port timedOut = some (after, rest)) :
      ServingStep cfg ctx (.cleanupDrain old) (.drainedOne port timedOut) after (.cleanupDrain rest)
  | idle (hIdle : (cfg.exitOnIdle && ctx.state.containers.keys.card = 0) = true) :
      ServingStep cfg ctx .idleCheck .proceed { ctx with shutdownSignal := true } .finished
  | busy (hBusy : (cfg.exitOnIdle && ctx.state.containers.keys.card = 0) = false) :
      ServingStep cfg ctx .idleCheck .proceed ctx .finished
  | signalled : ServingStep cfg ctx .signalShutdown .proceed { ctx with shutdownSignal := true } .finished

/-- Steps of the socket scanner. -/
inductive ScannerStep (ctx : DaemonContext) : Handler → Input → DaemonContext → Handler → Prop where
  | unchanged {order : List (Σ _ : String, ContainerState)} :
      ScannerStep ctx .scanning (.scan [] [] order) ctx .scanning
  | scanned {newSockets removedSockets : List SocketInfo} {order : List (Σ _ : String, ContainerState)}
      (hSome : ¬(newSockets = [] ∧ removedSockets = [])) (hOrder : Enumerates order ctx.state.containers) :
      ScannerStep ctx .scanning (.scan newSockets removedSockets order)
        { ctx with state := ctx.state.updateSockets newSockets removedSockets }
        (.broadcasting (scanMessages newSockets removedSockets (order.map fun entry => entry.2.outboundMsgTx)))
  | stopped : ScannerStep ctx .scanning .fail ctx .finished
  | broadcast : ScannerStep ctx (.broadcasting []) .proceed ctx .scanning
  | sent {message : Message} {tx : Nat} {rest : List (Message × Nat)} :
      ScannerStep ctx (.broadcasting ((message, tx) :: rest)) .proceed
        { ctx with proxy := ctx.proxy.tryBroadcast message tx } (.broadcasting rest)

/-- Steps of a socket connection request and of opening a URL. -/
inductive AuxiliaryStep (ctx : DaemonContext) : Handler → Input → DaemonContext → Handler → Prop where
  | known {containerId socketId connId : String} {registrationId : Nat}
      (hSocket : socketId ∈ ctx.state.socketForwards) :
      AuxiliaryStep ctx (.socketLookup containerId registrationId socketId connId) .proceed ctx
        (.socketRegister containerId registrationId connId)
  | unknown {containerId socketId connId : String} {registrationId : Nat}
      (hSocket : socketId ∉ ctx.state.socketForwards) :
      AuxiliaryStep ctx (.socketLookup containerId registrationId socketId connId) .proceed ctx
        (.socketReply containerId registrationId)
  | registered {containerId connId : String} {registrationId receiver : Nat} {proxy : ProxyState}
      (hRegister : ctx.proxy.register connId = (proxy, some receiver)) :
      AuxiliaryStep ctx (.socketRegister containerId registrationId connId) .proceed { ctx with proxy := proxy }
        (.socketConnect containerId registrationId connId receiver)
  | unregistered {containerId connId : String} {registrationId : Nat} {proxy : ProxyState}
      (hRegister : ctx.proxy.register connId = (proxy, none)) :
      AuxiliaryStep ctx (.socketRegister containerId registrationId connId) .proceed { ctx with proxy := proxy }
        (.serving containerId registrationId)
  | connected {containerId connId : String} {registrationId receiver : Nat} :
      AuxiliaryStep ctx (.socketConnect containerId registrationId connId receiver) (.launched true)
        { ctx with proxy := { ctx.proxy with bridges := ctx.proxy.bridges ++ [(connId, receiver)] } }
        (.serving containerId registrationId)
  | unconnected {containerId connId : String} {registrationId receiver : Nat} :
      AuxiliaryStep ctx (.socketConnect containerId registrationId connId receiver) (.launched false) ctx
        (.socketCancel containerId registrationId connId)
  | cancelled {containerId connId : String} {registrationId : Nat} :
      AuxiliaryStep ctx (.socketCancel containerId registrationId connId) .proceed
        { ctx with proxy := ctx.proxy.cancelPending connId } (.socketReply containerId registrationId)
  | replied {containerId : String} {registrationId : Nat} {ok : Bool} :
      AuxiliaryStep ctx (.socketReply containerId registrationId) (.sent ok) ctx
        (.serving containerId registrationId)
  | prepared {url : String} {origin : Option (String × Nat)} {now : Nat} {browser : BrowserOpener}
      {target : String × Option String} (hPrepare : ctx.browser.prepare url now = (browser, .ok target)) :
      AuxiliaryStep ctx (.openUrl url origin) (.clock now) { ctx with browser := browser } (.openUrlLaunch origin)
  | rejected {url : String} {origin : Option (String × Nat)} {now : Nat} {browser : BrowserOpener}
      {error : BrowserError} (hPrepare : ctx.browser.prepare url now = (browser, .error error)) :
      AuxiliaryStep ctx (.openUrl url origin) (.clock now) { ctx with browser := browser } (.openUrlAck origin)
  | launched {origin : Option (String × Nat)} {ok : Bool} :
      AuxiliaryStep ctx (.openUrlLaunch origin) (.launched ok) ctx (.openUrlAck origin)
  | answered {ok : Bool} : AuxiliaryStep ctx (.openUrlAck none) (.sent ok) ctx .finished
  | acknowledged {containerId : String} {registrationId : Nat} :
      AuxiliaryStep ctx (.openUrlAck (some (containerId, registrationId))) (.sent true) ctx
        (.serving containerId registrationId)
  | unacknowledged {containerId : String} {registrationId : Nat} :
      AuxiliaryStep ctx (.openUrlAck (some (containerId, registrationId))) (.sent false)
        { ctx with proxy := ctx.proxy.setChannel registrationId false } (.cleanup containerId registrationId)

/-- Steps of a task that has not been spawned yet. -/
inductive IdleStep (ctx : DaemonContext) : Input → DaemonContext → Handler → Prop where
  | accepted : IdleStep ctx .connect ctx .awaitFirst
  | acceptedData : IdleStep ctx .connectData ctx (.proxy .handshake)
  | client {client : ClientConnection} {rest : List ClientConnection}
      (hQueue : ctx.proxy.clientQueue = client :: rest) :
      IdleStep ctx .spawnClient { ctx with proxy := { ctx.proxy with clientQueue := rest } }
        (.proxy (.clientLookup client))
  | bridge {connId : String} {receiver : Nat} {rest : List (String × Nat)}
      (hQueue : ctx.proxy.bridges = (connId, receiver) :: rest) :
      IdleStep ctx .spawnBridge { ctx with proxy := { ctx.proxy with bridges := rest } }
        (.proxy (.socketBridge connId receiver))

/-- Steps of a client handler. -/
inductive ClientMove (s : HostState) (p : ProxyState) : ProxyTask → Input → ProxyState → ProxyTask → Prop where
  | routed {client : ClientConnection} {route : ClientRoute} {order : List (Σ _ : String, ContainerState)}
      (hOrder : Enumerates order s.containers) (hRoute : s.routeClient order client.containerPort = some route) :
      ClientMove s p (.clientLookup client) (.enumerate order) p (.clientIncrement client route)
  | unrouted {client : ClientConnection} {order : List (Σ _ : String, ContainerState)}
      (hOrder : Enumerates order s.containers) (hRoute : s.routeClient order client.containerPort = none) :
      ClientMove s p (.clientLookup client) (.enumerate order) p .finished
  | counted {client : ClientConnection} {route : ClientRoute} {channel : Nat}
      (hChannel : route.connectTx = some channel) :
      ClientMove s p (.clientIncrement client route) .proceed (p.increment route.tracker)
        (.clientRegister client route)
  | unconnected {client : ClientConnection} {route : ClientRoute} (hChannel : route.connectTx = none) :
      ClientMove s p (.clientIncrement client route) .proceed p .finished
  | registered {client : ClientConnection} {route : ClientRoute} {connId : String} {receiver : Nat}
      {p' : ProxyState} (hRegister : p.register connId = (p', some receiver)) :
      ClientMove s p (.clientRegister client route) (.uuid connId) p' (.clientSend client route connId receiver)
  | unregistered {client : ClientConnection} {route : ClientRoute} {connId : String} {p' : ProxyState}
      (hRegister : p.register connId = (p', none)) :
      ClientMove s p (.clientRegister client route) (.uuid connId) p' (.clientDone route)
  | queued {client : ClientConnection} {route : ClientRoute} {connId : String} {receiver channel : Nat}
      (hChannel : route.connectTx = some channel)
      (hRoom : p.channelOpen channel ∧ (p.connectRequests channel).length < outboundChannelCapacity) :
      ClientMove s p (.clientSend client route connId receiver) (.sent true)
        (p.queueRequest channel { port := client.containerPort, connId := connId })
        (.clientSubscribe route connId receiver)
  | unsent {client : ClientConnection} {route : ClientRoute} {connId : String} {receiver channel : Nat}
      (hChannel : route.connectTx = some channel) (hClosed : ¬p.channelOpen channel = true) :
      ClientMove s p (.clientSend client route connId receiver) (.sent false) (p.closeReceiver receiver)
        (.clientCancel route connId)
  | subscribed {route : ClientRoute} {connId : String} {receiver n : Nat} (hTracker : route.tracker = some n) :
      ClientMove s p (.clientSubscribe route connId receiver) .proceed p
        (.clientBridge route connId receiver (p.trackers n).cancelled)
  | unsubscribed {route : ClientRoute} {connId : String} {receiver : Nat} (hTracker : route.tracker = none) :
      ClientMove s p (.clientSubscribe route connId receiver) .proceed p
        (.clientBridge route connId receiver true)
  | bridged {route : ClientRoute} {connId : String} {receiver : Nat} {seen : Bool}
      (hDelivered : p.receivers receiver = .delivered) :
      ClientMove s p (.clientBridge route connId receiver seen) .proceed (p.closeReceiver receiver)
        (.clientDone route)
  | expired {route : ClientRoute} {connId : String} {receiver : Nat} {seen : Bool}
      (hDelivered : p.receivers receiver ≠ .delivered) :
      ClientMove s p (.clientBridge route connId receiver seen) .fail (p.closeReceiver receiver)
        (.clientBridgeCancel route connId seen)
  | interrupted {route : ClientRoute} {connId : String} {receiver n : Nat} {seen : Bool}
      (hTracker : route.tracker = some n) (hSignal : (p.trackers n).cancelled = true ∧ seen = false) :
      ClientMove s p (.clientBridge route connId receiver seen) .cancelled (p.closeReceiver receiver)
        (.clientDone route)
  | withdrawn {route : ClientRoute} {connId : String} {seen : Bool} :
      ClientMove s p (.clientBridgeCancel route connId seen) .proceed (p.cancelPending connId) (.clientDone route)
  | abandoned {route : ClientRoute} {connId : String} {n : Nat} {seen : Bool}
      (hTracker : route.tracker = some n) (hSignal : (p.trackers n).cancelled = true ∧ seen = false) :
      ClientMove s p (.clientBridgeCancel route connId seen) .cancelled p (.clientDone route)
  | cancelled {route : ClientRoute} {connId : String} :
      ClientMove s p (.clientCancel route connId) .proceed (p.cancelPending connId) (.clientDone route)
  | uncounted {route : ClientRoute} :
      ClientMove s p (.clientDone route) .proceed (p.decrement route.tracker) .finished

/-- Steps of a data connection or of a socket bridge. -/
inductive DataMove (cfg : HostConfig) (p : ProxyState) : ProxyTask → Input → ProxyState → ProxyTask → Prop where
  | bridged {connId : String} {receiver : Nat} (hDelivered : p.receivers receiver = .delivered) :
      DataMove cfg p (.socketBridge connId receiver) .proceed (p.closeReceiver receiver) .finished
  | expired {connId : String} {receiver : Nat} (hDelivered : p.receivers receiver ≠ .delivered) :
      DataMove cfg p (.socketBridge connId receiver) .fail (p.closeReceiver receiver) (.socketBridgeCancel connId)
  | cancelled {connId : String} :
      DataMove cfg p (.socketBridgeCancel connId) .proceed (p.cancelPending connId) .finished
  | dispatched (message : Message) :
      DataMove cfg p .handshake (.receive message) (dispatchData cfg p message).1 (dispatchData cfg p message).2
  | closed : DataMove cfg p .handshake .fail p .finished
  | resolved {connId : String} {p' : ProxyState} (hResolve : p.resolve connId = some p') :
      DataMove cfg p (.resolving connId) .proceed p' .finished
  | unresolved {connId : String} (hResolve : p.resolve connId = none) :
      DataMove cfg p (.resolving connId) .proceed p (.resolving connId)
  | gaveUp {connId : String} : DataMove cfg p (.resolving connId) .fail p .finished
  | captured (input : Input) (hEnd : input = .proceed ∨ input = .fail) :
      DataMove cfg p .capturing input { p with transferActive := false } .finished

variable {cfg : HostConfig} {ctx after : DaemonContext} {handler next : Handler} {input : Input}

theorem nextRegister_cases (h : nextRegister cfg ctx handler input = some (after, next)) :
    RegisterStep cfg ctx handler input after next := by
  unfold nextRegister at h
  split at h
  case h_5 =>
    split at h <;> cases h
    case h_1 hStale => exact .refused hStale
    case h_2 hStale => exact .unknown hStale
    case h_3 hStale => exact .stale hStale
  case h_7 =>
    obtain ⟨middle, hTear, hPair⟩ := Option.map_eq_some_iff.mp h
    cases hPair
    exact .drained hTear
  case h_8 ok =>
    cases ok <;> cases h
    case false => exact .unacknowledged
    case true => exact .acknowledged
  case h_12 =>
    obtain ⟨⟨middle, rest⟩, hDrain, hPair⟩ := Option.map_eq_some_iff.mp h
    cases hPair
    exact .drainedOne hDrain
  case h_13 => cases h
  all_goals
    cases h
    constructor

theorem nextForward_cases (h : nextForward ctx handler input = some (after, next)) :
    ForwardStep ctx handler input after next := by
  unfold nextForward at h
  split at h
  case h_1 =>
    split at h <;> cases h
    case isTrue hOwner => exact .owned hOwner
    case isFalse hOwner => exact .disowned hOwner
  case h_2 =>
    split at h <;> cases h
    case h_1 hTake => exact .limited hTake
    case h_2 hTake => exact .taken hTake
    case h_3 hTake => exact .replaced hTake
  case h_3 =>
    obtain ⟨middle, hTear, hPair⟩ := Option.map_eq_some_iff.mp h
    cases hPair
    exact .drained hTear
  case h_4 =>
    split at h <;> cases h
    case h_2 hFull => exact .noPort hFull
    case h_3 hFree => exact .reserved hFree
  case h_5 =>
    split at h
    case h_1 =>
      cases h
      exact .unbound
    case h_2 =>
      split at h <;> cases h
      case isFalse hBound => exact .bound hBound
  case h_7 =>
    dsimp only at h
    split at h <;> cases h
    case h_1 hInsert => exact .inserted hInsert
    case h_2 hInsert => exact .gone hInsert
  case h_9 ok =>
    cases ok <;> cases h
    case false => exact .unacknowledged
    case true => exact .acknowledged
  case h_10 => cases h
  all_goals
    cases h
    constructor

theorem nextUnforward_cases (h : nextUnforward ctx handler input = some (after, next)) :
    UnforwardStep ctx handler input after next := by
  unfold nextUnforward at h
  split at h
  case h_1 =>
    split at h <;> cases h
    case isTrue hOwner => exact .owned hOwner
    case isFalse hOwner => exact .disowned hOwner
  case h_2 =>
    split at h <;> cases h
    case h_1 hRemove => exact .missing hRemove
    case h_2 hRemove => exact .removed hRemove
  case h_3 =>
    obtain ⟨middle, hTear, hPair⟩ := Option.map_eq_some_iff.mp h
    cases hPair
    exact .drained hTear
  case h_5 =>
    split at h
    case isFalse => cases h
    case isTrue hOrder =>
      split at h
      case h_1 hOwner =>
        cases h
        exact .nobody hOrder hOwner
      case h_2 hOwner =>
        split at h <;> cases h
        case h_1 hRemove => exact .globalRemoved hOrder hOwner hRemove
        case h_2 hRemove => exact .globalMissing hOrder hOwner hRemove
  case h_7 =>
    obtain ⟨middle, hTear, hPair⟩ := Option.map_eq_some_iff.mp h
    cases hPair
    exact .globalDrained hTear
  case h_8 => cases h
  all_goals
    cases h
    constructor

theorem nextServing_cases (h : nextServing cfg ctx handler input = some (after, next)) :
    ServingStep cfg ctx handler input after next := by
  unfold nextServing at h
  split at h
  case h_1 =>
    split at h
    case h_3 ok =>
      split at h
      case h_1 => cases h
      case h_2 hQueue =>
        cases ok <;> cases h
        case false => exact .requestLost hQueue
        case true => exact .requestFlushed hQueue
    case h_4 =>
      split at h <;> cases h
      case h_2 hQueue => exact .messageFlushed hQueue
    case h_5 => cases h
    all_goals
      cases h
      constructor
  case h_2 ok =>
    cases ok <;> cases h
    case false => exact .unponged
    case true => exact .ponged
  case h_4 =>
    split at h <;> cases h
    case h_1 hTake => exact .superseded hTake
    case h_2 hTake => exact .taken hTake
  case h_6 =>
    obtain ⟨middle, hTear, hPair⟩ := Option.map_eq_some_iff.mp h
    cases hPair
    exact .drained hTear
  case h_7 =>
    split at h <;> cases h
    case isTrue hIdle => exact .idle hIdle
    case isFalse hBusy => exact .busy (by simpa using hBusy)
  case h_9 =>
    obtain ⟨⟨middle, rest⟩, hDrain, hPair⟩ := Option.map_eq_some_iff.mp h
    cases hPair
    exact .drainedOne hDrain
  case h_10 => cases h
  all_goals
    cases h
    constructor

theorem nextScanner_cases (h : nextScanner ctx handler input = some (after, next)) :
    ScannerStep ctx handler input after next := by
  unfold nextScanner at h
  split at h
  case h_1 =>
    split at h
    case isTrue hNone =>
      cases h
      obtain ⟨rfl, rfl⟩ := hNone
      exact .unchanged
    case isFalse hSome =>
      split at h <;> cases h
      case isTrue hOrder => exact .scanned hSome hOrder
  case h_5 => cases h
  all_goals
    cases h
    constructor

theorem nextAuxiliary_cases (h : nextAuxiliary ctx handler input = some (after, next)) :
    AuxiliaryStep ctx handler input after next := by
  unfold nextAuxiliary at h
  split at h
  case h_1 =>
    split at h <;> cases h
    case isTrue hSocket => exact .known hSocket
    case isFalse hSocket => exact .unknown hSocket
  case h_2 =>
    split at h <;> cases h
    case h_1 hRegister => exact .registered hRegister
    case h_2 hRegister => exact .unregistered hRegister
  case h_3 ok =>
    cases ok <;> cases h
    case false => exact .unconnected
    case true => exact .connected
  case h_6 =>
    split at h <;> cases h
    case h_1 hPrepare => exact .prepared hPrepare
    case h_2 hPrepare => exact .rejected hPrepare
  case h_8 ok =>
    split at h
    case h_1 =>
      cases h
      exact .answered
    case h_2 =>
      cases ok <;> cases h
      case false => exact .unacknowledged
      case true => exact .acknowledged
  case h_9 => cases h
  all_goals
    cases h
    constructor

theorem nextIdle_cases (h : nextIdle ctx input = some (after, next)) : IdleStep ctx input after next := by
  unfold nextIdle at h
  split at h
  case h_3 =>
    split at h <;> cases h
    case h_2 hQueue => exact .client hQueue
  case h_4 =>
    split at h <;> cases h
    case h_2 hQueue => exact .bridge hQueue
  case h_5 => cases h
  all_goals
    cases h
    constructor

variable {s : HostState} {p p' : ProxyState} {task task' : ProxyTask}

theorem nextClient_cases (h : nextClient s p task input = some (p', task')) : ClientMove s p task input p' task' := by
  unfold nextClient at h
  split at h
  case h_1 =>
    split at h
    case isFalse => cases h
    case isTrue hOrder =>
      split at h <;> cases h
      case h_1 hRoute => exact .routed hOrder hRoute
      case h_2 hRoute => exact .unrouted hOrder hRoute
  case h_2 =>
    split at h <;> cases h
    case h_1 hChannel => exact .counted hChannel
    case h_2 hChannel => exact .unconnected hChannel
  case h_3 =>
    split at h <;> cases h
    case h_1 hRegister => exact .registered hRegister
    case h_2 hRegister => exact .unregistered hRegister
  case h_4 ok =>
    split at h
    case h_1 => cases h
    case h_2 channel hChannel =>
      cases ok
      case false =>
        simp only [Bool.false_eq_true, if_false] at h
        split at h
        case isTrue => cases h
        case isFalse hClosed =>
          cases h
          exact .unsent hChannel hClosed
      case true =>
        simp only [if_true] at h
        split at h
        case isFalse => cases h
        case isTrue hRoom =>
          cases h
          exact .queued hChannel hRoom
  case h_5 route connId receiver =>
    cases h
    cases hTracker : route.tracker with
    | none => exact .unsubscribed hTracker
    | some n => exact .subscribed hTracker
  case h_6 =>
    split at h
    case h_1 =>
      split at h <;> cases h
      case isTrue hDelivered => exact .bridged hDelivered
    case h_2 =>
      split at h <;> cases h
      case isFalse hDelivered => exact .expired hDelivered
    case h_3 =>
      split at h
      case h_2 => cases h
      case h_1 hTracker =>
        split at h <;> cases h
        case isTrue hSignal => exact .interrupted hTracker hSignal
    case h_4 => cases h
  case h_7 =>
    split at h
    case h_1 =>
      cases h
      exact .withdrawn
    case h_2 =>
      split at h
      case h_2 => cases h
      case h_1 hTracker =>
        split at h <;> cases h
        case isTrue hSignal => exact .abandoned hTracker hSignal
    case h_3 => cases h
  case h_8 =>
    cases h
    exact .cancelled
  case h_9 =>
    cases h
    exact .uncounted
  case h_10 => cases h

theorem nextData_cases (h : nextData cfg p task input = some (p', task')) : DataMove cfg p task input p' task' := by
  unfold nextData at h
  split at h
  case h_1 =>
    split at h
    case h_1 =>
      split at h <;> cases h
      case isTrue hDelivered => exact .bridged hDelivered
    case h_2 =>
      split at h <;> cases h
      case isFalse hDelivered => exact .expired hDelivered
    case h_3 => cases h
  case h_2 =>
    cases h
    exact .cancelled
  case h_3 =>
    split at h
    case h_1 message =>
      have hMove : DataMove cfg p .handshake (.receive message) (dispatchData cfg p message).1
          (dispatchData cfg p message).2 := .dispatched message
      rw [Option.some.inj h] at hMove
      exact hMove
    case h_2 =>
      cases h
      exact .closed
    case h_3 => cases h
  case h_4 =>
    split at h
    case h_1 =>
      split at h <;> cases h
      case h_1 hResolve => exact .resolved hResolve
      case h_2 hResolve => exact .unresolved hResolve
    case h_2 =>
      cases h
      exact .gaveUp
    case h_3 => cases h
  case h_5 =>
    split at h <;> cases h
    case h_1 => exact .captured .proceed (.inl rfl)
    case h_2 => exact .captured .fail (.inr rfl)
  case h_6 => cases h

end DevcontainerBridge
