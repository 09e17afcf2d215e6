import DevcontainerBridge.Host.Browser
import DevcontainerBridge.Host.Proxy
import DevcontainerBridge.Transition.Run

/-! The host daemon as a transition system. Every task takes one step at a
time: one critical section, one await or one message. All interleavings of
the steps of all tasks are runs of the daemon. -/
namespace DevcontainerBridge

open Table Transition

/-- A started port listener. It accepts clients until it has been joined. -/
structure Listener where
  boundPort : UInt16
  containerPort : UInt16
  joined : Bool
  deriving DecidableEq, Repr

/-- Shared resources of the control connection handlers. -/
structure DaemonContext where
  state : HostState
  browser : BrowserOpener
  proxy : ProxyState
  listeners : Nat → Option Listener
  nextListener : Nat
  nextRegistrationId : Nat
  shutdownSignal : Bool

/-- The content of a Forward message that the host keeps. -/
structure ForwardRequest where
  port : UInt16
  processName : Option String
  pid : Option UInt32
  deriving DecidableEq, Repr

/-- A task of the host daemon by where it waits. Constructors with a container
id and a registration number belong to a registered container's connection. -/
inductive Handler where
  | idle
  | finished
  /-- `handle_control_connection` before the first message -/
  | awaitFirst
  /-- about to send a last message and to close the connection -/
  | replying (message : Message)
  | listForwards
  /-- Register: identity and token are valid, about to lock the state -/
  | registerRemove (containerId hostname : String)
  | registerBrowser (containerId hostname : String) (old : Forwards)
  | registerDrain (containerId hostname : String) (old : Forwards)
  | registerAck (containerId hostname : String)
  | registerEpoch (containerId hostname : String)
  | registerInsert (containerId hostname : String) (registrationId : Nat)
  | registerReplay (containerId : String) (registrationId : Nat)
  /-- `handle_container_messages` between two messages -/
  | serving (containerId : String) (registrationId : Nat)
  | sendPong (containerId : String) (registrationId : Nat)
  /-- Forward: the epoch check, then `handle_forward` up to its return -/
  | forwardCheck (containerId : String) (registrationId : Nat) (request : ForwardRequest)
  | forwardTake (containerId : String) (registrationId : Nat) (request : ForwardRequest)
  | forwardDrain (containerId : String) (registrationId : Nat) (request : ForwardRequest)
      (old : ForwardState)
  | forwardReserve (containerId : String) (registrationId : Nat) (request : ForwardRequest)
      (replaced : Option UInt16)
  | forwardBind (containerId : String) (registrationId : Nat) (request : ForwardRequest)
      (replaced : Option UInt16) (targetPort : UInt16)
  | forwardRelease (containerId : String) (registrationId : Nat) (request : ForwardRequest)
      (replaced : Option UInt16) (targetPort : UInt16)
  | forwardInsert (containerId : String) (registrationId : Nat) (request : ForwardRequest)
      (replaced : Option UInt16) (targetPort hostPort : UInt16) (listener : Nat)
  /-- Forward: `handle_forward` has returned -/
  | forwardBrowser (containerId : String) (registrationId : Nat) (port hostPort : UInt16)
  | forwardAck (containerId : String) (registrationId : Nat) (port : UInt16) (result : Option UInt16)
  /-- Unforward on a registered connection -/
  | unforwardCheck (containerId : String) (registrationId : Nat) (port : UInt16)
  | unforwardRemove (containerId : String) (registrationId : Nat) (port : UInt16)
  | unforwardDrain (containerId : String) (registrationId : Nat) (port : UInt16) (old : ForwardState)
  | unforwardBrowser (containerId : String) (registrationId : Nat) (port : UInt16)
  | cancelConnect (containerId : String) (registrationId : Nat) (connId : String)
  /-- SocketConnectRequest on a registered connection -/
  | socketLookup (containerId : String) (registrationId : Nat) (socketId connId : String)
  | socketRegister (containerId : String) (registrationId : Nat) (connId : String)
  | socketConnect (containerId : String) (registrationId : Nat) (connId : String) (receiver : Nat)
  | socketCancel (containerId : String) (registrationId : Nat) (connId : String)
  | socketReply (containerId : String) (registrationId : Nat)
  /-- OpenUrl, from a registered connection or as a first message -/
  | openUrl (url : String) (origin : Option (String × Nat))
  | openUrlLaunch (origin : Option (String × Nat))
  | openUrlAck (origin : Option (String × Nat))
  /-- `cleanup_container` and what follows it -/
  | cleanup (containerId : String) (registrationId : Nat)
  | cleanupBrowser (old : Forwards)
  | cleanupDrain (old : Forwards)
  | idleCheck
  /-- `handle_unforward_global` -/
  | unforwardGlobal (port : UInt16)
  | unforwardGlobalBrowser (port : UInt16) (old : ForwardState)
  | unforwardGlobalDrain (port : UInt16) (old : ForwardState)
  | signalShutdown
  /-- `run_socket_scanner` between two scans, and while it broadcasts -/
  | scanning
  | broadcasting (sends : List (Message × Nat))
  /-- client handlers, socket bridges and data connections -/
  | proxy (task : ProxyTask)

def DaemonContext.new (cfg : HostConfig) : DaemonContext where
  state := HostState.new
  browser := BrowserOpener.withCmd cfg.browserCmd
  proxy := ProxyState.new
  listeners := fun _ => none
  nextListener := 0
  nextRegistrationId := 1
  shutdownSignal := false

namespace DaemonContext

def joinListeners (ctx : DaemonContext) (forwards : Forwards) : DaemonContext :=
  { ctx with listeners := fun n => (ctx.listeners n).map fun l =>
      if forwards.any fun _ fstate => fstate.listener = n then { l with joined := true } else l }

/-- Join the listeners of removed forwards and drain their connections. The
trackers in `timedOut` are cancelled; all others must have drained. -/
def tearDown (ctx : DaemonContext) (forwards : Forwards) (timedOut : List Nat) : Option DaemonContext :=
  if ctx.proxy.canDrain forwards timedOut then
    some ((ctx.joinListeners forwards) |> fun ctx =>
      { ctx with proxy := ctx.proxy.cancelTrackers timedOut })
  else
    none

def startListener (ctx : DaemonContext) (boundPort containerPort : UInt16) : DaemonContext :=
  let listener := { boundPort := boundPort, containerPort := containerPort, joined := false }
  { ctx with
    listeners := Function.update ctx.listeners ctx.nextListener (some listener)
    nextListener := ctx.nextListener + 1 }

end DaemonContext

/-- The forwards of a teardown that concerns one forward. -/
def singleForward (port : UInt16) (fstate : ForwardState) : Forwards :=
  Finmap.singleton port fstate

/-- The drain of one forward of a teardown returns. What is left waits on. -/
def DaemonContext.drainOne (ctx : DaemonContext) (old : Forwards) (port : UInt16) (timedOut : Bool) :
    Option (DaemonContext × Forwards) :=
  match old.lookup port with
  | none => none
  | some fstate =>
      (ctx.tearDown (singleForward port fstate) (if timedOut then [fstate.tracker] else [])).map
        fun ctx => (ctx, old.erase port)

/-- Whether a presented token passes where authentication is enabled. -/
def HostConfig.accepts (cfg : HostConfig) (authToken : String) : Bool :=
  match cfg.authToken with
  | some expected => authToken == expected
  | none => true

/-- `handle_control_connection` on the first message. -/
def dispatchFirst (cfg : HostConfig) : Message → Handler
  | .register containerId hostname authToken =>
      if !isValidIdentifier cfg.tables containerId || !isValidIdentifier cfg.tables hostname then
        .replying (.registerAck false)
      else if !cfg.accepts authToken then
        .replying (.registerAck false)
      else
        .registerRemove containerId hostname
  | .listRequest => .listForwards
  | .ping => .replying .pong
  | .unforward port => .unforwardGlobal port
  | .openUrl url => .openUrl url none
  | .shutdown authToken => if cfg.accepts authToken then .signalShutdown else .finished
  | _ => .finished

/-- `dispatch_container_message` up to its first await. -/
def dispatchContainer (cfg : HostConfig) (containerId : String) (registrationId : Nat) :
    Message → Handler
  | .forward port _ processName pid =>
      .forwardCheck containerId registrationId { port := port, processName := processName, pid := pid }
  | .unforward port => .unforwardCheck containerId registrationId port
  | .connectFailed connId _ =>
      if connId.utf8ByteSize > maxConnIdLength then
        .serving containerId registrationId
      else
        .cancelConnect containerId registrationId connId
  | .openUrl url => .openUrl url (some (containerId, registrationId))
  | .ping => .sendPong containerId registrationId
  | .socketConnectRequest socketId connId =>
      if isValidIdentifier cfg.tables socketId && isValidIdentifier cfg.tables connId then
        .socketLookup containerId registrationId socketId connId
      else
        .serving containerId registrationId
  | _ => .serving containerId registrationId

/-- Leave the message loop: its receivers are dropped and cleanup follows. -/
def leaveLoop (ctx : DaemonContext) (containerId : String) (registrationId : Nat) :
    DaemonContext × Handler :=
  ({ ctx with proxy := ctx.proxy.setChannel registrationId false }, .cleanup containerId registrationId)

/-- Go on with the message loop after a send, or leave it where that failed. -/
def afterSend (ctx : DaemonContext) (containerId : String) (registrationId : Nat) (ok : Bool) :
    DaemonContext × Handler :=
  if ok then (ctx, .serving containerId registrationId) else leaveLoop ctx containerId registrationId

/-- Steps of a control connection up to the end of its registration. -/
def nextRegister (cfg : HostConfig) (ctx : DaemonContext) : Handler → Input → Option (DaemonContext × Handler)
  | .awaitFirst, .receive message => some (ctx, dispatchFirst cfg message)
  | .awaitFirst, .fail => some (ctx, .finished)
  | .replying _, .sent _ => some (ctx, .finished)
  | .listForwards, .proceed => some (ctx, .finished)
  | .registerRemove containerId hostname, .proceed =>
      match ctx.state.removeStale containerId with
      | none => some (ctx, .replying (.registerAck false))
      | some (state, none) => some ({ ctx with state := state }, .registerAck containerId hostname)
      | some (state, some old) =>
          some ({ ctx with state := state }, .registerBrowser containerId hostname old)
  | .registerBrowser containerId hostname old, .proceed =>
      some ({ ctx with browser := ctx.browser.removePortMappings old },
        .registerDrain containerId hostname old)
  | .registerDrain containerId hostname old, .drained timedOut =>
      (ctx.tearDown old timedOut).map fun ctx => (ctx, .registerAck containerId hostname)
  | .registerAck containerId hostname, .sent ok =>
      some (ctx, if ok then .registerEpoch containerId hostname else .finished)
  | .registerEpoch containerId hostname, .proceed =>
      some ({ ctx with nextRegistrationId := ctx.nextRegistrationId + 1 },
        .registerInsert containerId hostname ctx.nextRegistrationId)
  | .registerInsert containerId hostname registrationId, .proceed =>
      some ({ ctx with
          state := ctx.state.insertContainer containerId hostname registrationId
          proxy := ctx.proxy.setChannel registrationId true },
        .registerReplay containerId registrationId)
  | .registerReplay containerId registrationId, .proceed =>
      some (ctx, .serving containerId registrationId)
  | .registerDrain containerId hostname old, .drainedOne port timedOut =>
      (ctx.drainOne old port timedOut).map fun (ctx, rest) => (ctx, .registerDrain containerId hostname rest)
  | _, _ => none

/-- Steps of `dispatch_container_message` for Forward. -/
def nextForward (ctx : DaemonContext) : Handler → Input → Option (DaemonContext × Handler)
  | .forwardCheck containerId registrationId request, .proceed =>
      if ctx.state.registrationOf containerId = some registrationId then
        some (ctx, .forwardTake containerId registrationId request)
      else
        some (leaveLoop ctx containerId registrationId)
  | .forwardTake containerId registrationId request, .proceed =>
      match ctx.state.takeForward containerId request.port with
      | none => some (ctx, .forwardAck containerId registrationId request.port none)
      | some (state, none) =>
          some ({ ctx with state := state }, .forwardReserve containerId registrationId request none)
      | some (state, some old) =>
          some ({ ctx with state := state }, .forwardDrain containerId registrationId request old)
  | .forwardDrain containerId registrationId request old, .drained timedOut =>
      (ctx.tearDown (singleForward request.port old) timedOut).map fun ctx =>
        (ctx, .forwardReserve containerId registrationId request (some old.hostPort))
  | .forwardReserve containerId registrationId request replaced, .proceed =>
      match ctx.state.findAvailablePort request.port with
      | none => none
      | some none => some (ctx, .forwardAck containerId registrationId request.port none)
      | some (some targetPort) =>
          some ({ ctx with state := ctx.state.reservePort targetPort containerId },
            .forwardBind containerId registrationId request replaced targetPort)
  | .forwardBind containerId registrationId request replaced targetPort, .bound result =>
      match result with
      | none => some (ctx, .forwardRelease containerId registrationId request replaced targetPort)
      | some boundPort =>
          -- binding a nonzero port yields that port
          if targetPort ≠ 0 ∧ boundPort ≠ targetPort then
            none
          else
            some (ctx.startListener boundPort request.port,
              .forwardInsert containerId registrationId request replaced targetPort boundPort
                ctx.nextListener)
  | .forwardRelease containerId registrationId request _ targetPort, .proceed =>
      some ({ ctx with state := ctx.state.releasePort targetPort },
        .forwardAck containerId registrationId request.port none)
  | .forwardInsert containerId registrationId request _ targetPort hostPort listener, .timestamp now =>
      let fstate : ForwardState :=
        { hostPort := hostPort
          listener := listener
          processName := request.processName
          pid := request.pid
          since := now
          tracker := listener }
      match ctx.state.insertForward containerId request.port targetPort fstate with
      | (state, true) =>
          some ({ ctx with state := state }, .forwardBrowser containerId registrationId request.port hostPort)
      | (state, false) =>
          some ({ ctx with state := state }.joinListeners (singleForward request.port fstate),
            .forwardAck containerId registrationId request.port none)
  | .forwardBrowser containerId registrationId port hostPort, .proceed =>
      some ({ ctx with browser := ctx.browser.addPortMapping port hostPort },
        .forwardAck containerId registrationId port (some hostPort))
  | .forwardAck containerId registrationId _ _, .sent ok =>
      some (afterSend ctx containerId registrationId ok)
  | _, _ => none

/-- Steps of Unforward, both on a registered connection and as a first message. -/
def nextUnforward (ctx : DaemonContext) : Handler → Input → Option (DaemonContext × Handler)
  | .unforwardCheck containerId registrationId port, .proceed =>
      if ctx.state.registrationOf containerId = some registrationId then
        some (ctx, .unforwardRemove containerId registrationId port)
      else
        some (leaveLoop ctx containerId registrationId)
  | .unforwardRemove containerId registrationId port, .proceed =>
      match ctx.state.removeForward containerId port with
      | (state, none) =>
          some ({ ctx with state := state }, .unforwardBrowser containerId registrationId port)
      | (state, some old) =>
          some ({ ctx with state := state }, .unforwardDrain containerId registrationId port old)
  | .unforwardDrain containerId registrationId port old, .drained timedOut =>
      (ctx.tearDown (singleForward port old) timedOut).map fun ctx =>
        (ctx, .unforwardBrowser containerId registrationId port)
  | .unforwardBrowser containerId registrationId port, .proceed =>
      some ({ ctx with browser := ctx.browser.removePortMapping port },
        .serving containerId registrationId)
  | .unforwardGlobal port, .enumerate order =>
      if Enumerates order ctx.state.containers then
        match HostState.findContainerForPort order port with
        | none => some (ctx, .finished)
        | some owner =>
            match ctx.state.removeForward owner port with
            | (state, some old) => some ({ ctx with state := state }, .unforwardGlobalBrowser port old)
            | (state, none) => some ({ ctx with state := state }, .finished)
      else
        none
  | .unforwardGlobalBrowser port old, .proceed =>
      some ({ ctx with browser := ctx.browser.removePortMapping port }, .unforwardGlobalDrain port old)
  | .unforwardGlobalDrain port old, .drained timedOut =>
      (ctx.tearDown (singleForward port old) timedOut).map fun ctx => (ctx, .finished)
  | _, _ => none

/-- Steps of the message loop itself and of its end. -/
def nextServing (cfg : HostConfig) (ctx : DaemonContext) : Handler → Input → Option (DaemonContext × Handler)
  | .serving containerId registrationId, input =>
      match input with
      | .receive message => some (ctx, dispatchContainer cfg containerId registrationId message)
      | .fail => some (leaveLoop ctx containerId registrationId)
      | .flushRequest ok =>
          match ctx.proxy.connectRequests registrationId with
          | [] => none
          | request :: rest =>
              let proxy :=
                { ctx.proxy with
                  connectRequests := Function.update ctx.proxy.connectRequests registrationId rest }
              some ({ ctx with proxy := if ok then proxy else proxy.cancelPending request.connId },
                .serving containerId registrationId)
      | .flushMessage =>
          match ctx.proxy.outboundMessages registrationId with
          | [] => none
          | _ :: rest =>
              let proxy :=
                { ctx.proxy with
                  outboundMessages := Function.update ctx.proxy.outboundMessages registrationId rest }
              some ({ ctx with proxy := proxy }, .serving containerId registrationId)
      | _ => none
  | .sendPong containerId registrationId, .sent ok => some (afterSend ctx containerId registrationId ok)
  | .cancelConnect containerId registrationId connId, .proceed =>
      some ({ ctx with proxy := ctx.proxy.cancelPending connId }, .serving containerId registrationId)
  | .cleanup containerId registrationId, .proceed =>
      match ctx.state.takeContainer containerId registrationId with
      | none => some (ctx, .idleCheck)
      | some (state, old) => some ({ ctx with state := state }, .cleanupBrowser old)
  | .cleanupBrowser old, .proceed =>
      some ({ ctx with browser := ctx.browser.removePortMappings old }, .cleanupDrain old)
  | .cleanupDrain old, .drained timedOut =>
      (ctx.tearDown old timedOut).map fun ctx => (ctx, .idleCheck)
  | .idleCheck, .proceed =>
      if cfg.exitOnIdle && ctx.state.containers.keys.card = 0 then
        some ({ ctx with shutdownSignal := true }, .finished)
      else
        some (ctx, .finished)
  | .signalShutdown, .proceed => some ({ ctx with shutdownSignal := true }, .finished)
  | .cleanupDrain old, .drainedOne port timedOut =>
      (ctx.drainOne old port timedOut).map fun (ctx, rest) => (ctx, .cleanupDrain rest)
  | _, _ => none

/-- The messages of one scan, each to every snapshotted sender. -/
def scanMessages (newSockets removedSockets : List SocketInfo) (senders : List Nat) :
    List (Message × Nat) :=
  (newSockets.flatMap fun info =>
      senders.map fun tx => (.socketForward info.socketId info.hostPath info.containerPath, tx))
    ++ removedSockets.flatMap fun info => senders.map fun tx => (.socketUnforward info.socketId, tx)

/-- Steps of the socket scanner. -/
def nextScanner (ctx : DaemonContext) : Handler → Input → Option (DaemonContext × Handler)
  | .scanning, .scan newSockets removedSockets order =>
      if newSockets = [] ∧ removedSockets = [] then
        some (ctx, .scanning)
      else if Enumerates order ctx.state.containers then
        let senders := order.map fun entry => entry.2.outboundMsgTx
        some ({ ctx with state := ctx.state.updateSockets newSockets removedSockets },
          .broadcasting (scanMessages newSockets removedSockets senders))
      else
        none
  | .scanning, .fail => some (ctx, .finished)
  | .broadcasting [], .proceed => some (ctx, .scanning)
  | .broadcasting ((message, tx) :: rest), .proceed =>
      some ({ ctx with proxy := ctx.proxy.tryBroadcast message tx }, .broadcasting rest)
  | _, _ => none

/-- Steps of SocketConnectRequest and OpenUrl. -/
def nextAuxiliary (ctx : DaemonContext) : Handler → Input → Option (DaemonContext × Handler)
  | .socketLookup containerId registrationId socketId connId, .proceed =>
      if socketId ∈ ctx.state.socketForwards then
        some (ctx, .socketRegister containerId registrationId connId)
      else
        some (ctx, .socketReply containerId registrationId)
  | .socketRegister containerId registrationId connId, .proceed =>
      match ctx.proxy.register connId with
      | (proxy, some receiver) =>
          some ({ ctx with proxy := proxy }, .socketConnect containerId registrationId connId receiver)
      | (proxy, none) => some ({ ctx with proxy := proxy }, .serving containerId registrationId)
  | .socketConnect containerId registrationId connId receiver, .launched ok =>
      if ok then
        let bridges := ctx.proxy.bridges ++ [(connId, receiver)]
        some ({ ctx with proxy := { ctx.proxy with bridges := bridges } },
          .serving containerId registrationId)
      else
        some (ctx, .socketCancel containerId registrationId connId)
  | .socketCancel containerId registrationId connId, .proceed =>
      some ({ ctx with proxy := ctx.proxy.cancelPending connId }, .socketReply containerId registrationId)
  | .socketReply containerId registrationId, .sent _ => some (ctx, .serving containerId registrationId)
  | .openUrl url origin, .clock now =>
      match ctx.browser.prepare url now with
      | (browser, .ok _) => some ({ ctx with browser := browser }, .openUrlLaunch origin)
      | (browser, .error _) => some ({ ctx with browser := browser }, .openUrlAck origin)
  | .openUrlLaunch origin, .launched _ => some (ctx, .openUrlAck origin)
  | .openUrlAck origin, .sent ok =>
      match origin with
      | none => some (ctx, .finished)
      | some (containerId, registrationId) => some (afterSend ctx containerId registrationId ok)
  | _, _ => none

/-- A task that has not been spawned yet starts as one of four kinds. -/
def nextIdle (ctx : DaemonContext) : Input → Option (DaemonContext × Handler)
  | .connect => some (ctx, .awaitFirst)
  | .connectData => some (ctx, .proxy .handshake)
  | .spawnClient =>
      match ctx.proxy.clientQueue with
      | [] => none
      | client :: rest =>
          some ({ ctx with proxy := { ctx.proxy with clientQueue := rest } },
            .proxy (.clientLookup client))
  | .spawnBridge =>
      match ctx.proxy.bridges with
      | [] => none
      | (connId, receiver) :: rest =>
          some ({ ctx with proxy := { ctx.proxy with bridges := rest } },
            .proxy (.socketBridge connId receiver))
  | _ => none

/-- Steps of the tasks that only read the host state. -/
def nextProxy (cfg : HostConfig) (ctx : DaemonContext) (task : ProxyTask) (input : Input) :
    Option (DaemonContext × Handler) :=
  (nextClient ctx.state ctx.proxy task input <|> nextData cfg ctx.proxy task input).map
    fun (proxy, task) => ({ ctx with proxy := proxy }, .proxy task)

/-- One step of a task. -/
def nextHandler (cfg : HostConfig) (ctx : DaemonContext) (handler : Handler) (input : Input) :
    Option (DaemonContext × Handler) :=
  match handler with
  | .idle => nextIdle ctx input
  | .finished => none
  | .proxy task => nextProxy cfg ctx task input
  | .awaitFirst | .replying .. | .listForwards | .registerRemove .. | .registerBrowser ..
  | .registerDrain .. | .registerAck .. | .registerEpoch .. | .registerInsert ..
  | .registerReplay .. => nextRegister cfg ctx handler input
  | .forwardCheck .. | .forwardTake .. | .forwardDrain .. | .forwardReserve .. | .forwardBind ..
  | .forwardRelease .. | .forwardInsert .. | .forwardBrowser .. | .forwardAck .. =>
      nextForward ctx handler input
  | .unforwardCheck .. | .unforwardRemove .. | .unforwardDrain .. | .unforwardBrowser ..
  | .unforwardGlobal .. | .unforwardGlobalBrowser .. | .unforwardGlobalDrain .. =>
      nextUnforward ctx handler input
  | .serving .. | .sendPong .. | .cancelConnect .. | .cleanup .. | .cleanupBrowser ..
  | .cleanupDrain .. | .idleCheck | .signalShutdown => nextServing cfg ctx handler input
  | .socketLookup .. | .socketRegister .. | .socketConnect .. | .socketCancel .. | .socketReply ..
  | .openUrl .. | .openUrlLaunch .. | .openUrlAck .. => nextAuxiliary ctx handler input
  | .scanning | .broadcasting .. => nextScanner ctx handler input

/-- The host daemon: its shared resources, its tasks and its main loop. -/
structure Daemon where
  ctx : DaemonContext
  tasks : Nat → Handler
  running : Bool

def Daemon.start (cfg : HostConfig) : Daemon where
  ctx := DaemonContext.new cfg
  tasks := fun id => if cfg.scanSockets ∧ id = 0 then .scanning else .idle
  running := true

inductive Action where
  | task (id : Nat) (input : Input)
  /-- a client connects to a port listener, which hands it to the main loop -/
  | clientConnects (listener : Nat)
  /-- the main loop ends on the shutdown signal or on a process signal -/
  | stop

/-- A listener accepts a client while the client channel has room. -/
def DaemonContext.acceptClient (ctx : DaemonContext) (listener : Nat) : Option DaemonContext :=
  match ctx.listeners listener with
  | none => none
  | some l =>
      if l.joined = false ∧ ctx.proxy.clientQueue.length < clientChannelCapacity then
        let client := { listener := listener, containerPort := l.containerPort }
        let queue := ctx.proxy.clientQueue ++ [client]
        some { ctx with proxy := { ctx.proxy with clientQueue := queue } }
      else
        none

/-- `drain_all_forwards`, performed while the main loop holds the state lock. -/
def DaemonContext.drainAll (ctx : DaemonContext) : DaemonContext :=
  { ctx with
    state := { ctx.state with containers := ∅, usedHostPorts := ∅ }
    browser := ctx.state.containers.foldl
      (fun browser _ cstate => browser.removePortMappings cstate.forwards)
      (fun _ _ _ _ _ => BrowserOpener.removePortMappings_comm _ _ _) ctx.browser }

/-- One step of the daemon. Nothing happens after the main loop has ended. -/
def Daemon.step (cfg : HostConfig) (d : Daemon) (action : Action) : Option Daemon :=
  if d.running then
    match action with
    | .task id input =>
        (nextHandler cfg d.ctx (d.tasks id) input).map fun (ctx, handler) =>
          { d with ctx := ctx, tasks := Function.update d.tasks id handler }
    | .clientConnects listener =>
        (d.ctx.acceptClient listener).map fun ctx => { d with ctx := ctx }
    | .stop => some { d with ctx := d.ctx.drainAll, running := false }
  else
    none

/-- The daemon after a step of one task. -/
def Daemon.withTask (d : Daemon) (id : Nat) (ctx : DaemonContext) (next : Handler) : Daemon :=
  { d with ctx := ctx, tasks := Function.update d.tasks id next }

/-- Settings without authentication, clipboard access and socket scanning. -/
def HostConfig.basic : HostConfig where
  authToken := none
  exitOnIdle := false
  allowClipboard := false
  browserCmd := none
  scanSockets := false
  tables := .asciiOnly

/-- A connection sends Register and gets as far as its registration number. -/
def announceSchedule (task : Nat) (containerId hostname authToken : String) : List Action :=
  [.connect, .receive (.register containerId hostname authToken), .proceed, .sent true,
    .proceed].map (.task task)

/-- The same for a container id that is registered, with nothing to drain. -/
def reannounceSchedule (task : Nat) (containerId hostname authToken : String) : List Action :=
  [.connect, .receive (.register containerId hostname authToken), .proceed, .proceed, .drained [],
    .sent true, .proceed].map (.task task)

/-- An announced registration is inserted and its message loop starts. -/
def enterSchedule (task : Nat) : List Action :=
  [.proceed, .proceed].map (.task task)

/-- A registered connection forwards a port that it does not forward yet. -/
def forwardSchedule (task : Nat) (port hostPort : UInt16) : List Action :=
  [.receive (.forward port .tcp none none), .proceed, .proceed, .proceed, .bound (some hostPort),
    .timestamp "0", .proceed, .sent true].map (.task task)

/-- One container forwards one port. -/
def singleSchedule : List Action :=
  announceSchedule 1 "c" "h" "" ++ enterSchedule 1 ++ forwardSchedule 1 8080 8080

/-- The only forward of a schedule, as the host keeps it. -/
def onlyForward : ForwardState where
  hostPort := 8080
  listener := 0
  processName := none
  pid := none
  since := "0"
  tracker := 0

/-- A client connects and gets as far as its pending entry. -/
def clientSchedule (task : Nat) (order : List (Σ _ : String, ContainerState)) (connId : String) :
    List Action :=
  .clientConnects 0 :: [.spawnClient, .enumerate order, .proceed, .uuid connId].map (.task task)

/-- Two containers forward the same container port. -/
def conflictSchedule : List Action :=
  announceSchedule 1 "a" "h" "" ++ enterSchedule 1 ++ forwardSchedule 1 8080 8080
    ++ announceSchedule 2 "b" "h" "" ++ enterSchedule 2 ++ forwardSchedule 2 8080 8081

/-- Two containers forward different ports, and the first one takes one of its
two away again. -/
def withdrawnSchedule : List Action :=
  announceSchedule 1 "a" "h" "" ++ enterSchedule 1 ++ forwardSchedule 1 8080 8080
    ++ announceSchedule 2 "b" "h" "" ++ enterSchedule 2 ++ forwardSchedule 2 9090 9090
    ++ forwardSchedule 1 3000 3000
    ++ [.receive (.unforward 8080), .proceed, .proceed, .drained [], .proceed].map (.task 1)

/-- Two connections announce the same container id before either is inserted. -/
def overlapSchedule : List Action :=
  announceSchedule 1 "c" "h" "" ++ announceSchedule 2 "c" "h" "" ++ enterSchedule 1
    ++ forwardSchedule 1 8080 8080 ++ enterSchedule 2

/-- A registered connection has bound a listener for a forward when another
connection registers its container id. -/
def takeoverSchedule : List Action :=
  announceSchedule 1 "c" "h" "" ++ enterSchedule 1 ++ (forwardSchedule 1 8080 8080).take 5
    ++ reannounceSchedule 2 "c" "h" "" ++ enterSchedule 2

/-- A container id of a given length. -/
def repeatedId (length : Nat) : String := String.ofList (List.replicate length 'a')

/-- Some connections announce different container ids before any is inserted. -/
def crowdSchedule (size : Nat) : List Action :=
  (List.range size).flatMap (fun task => announceSchedule task (repeatedId (task + 1)) "h" "")
    ++ (List.range size).flatMap enterSchedule

/-- The registered container sends Forward for the same port again and the
host cannot bind the port any more. -/
def failedReplaceSchedule : List Action :=
  singleSchedule ++ [.receive (.forward 8080 .tcp none none), .proceed, .proceed, .drained [], .proceed,
    .bound none, .proceed, .sent true].map (.task 1)

/-- Two containers forward the same container port and one disconnects. -/
def sharedPortSchedule : List Action :=
  conflictSchedule ++ [.fail, .proceed, .proceed, .drained [], .proceed].map (.task 2)

/-- The task that an action belongs to. -/
def Action.task? : Action → Option Nat
  | .task id _ => some id
  | _ => none

/-- The tasks that a schedule mentions. -/
def taskIds (actions : List Action) : List Nat :=
  actions.filterMap Action.task?

/-- A schedule leaves the tasks alone that it does not mention. -/
theorem Daemon.exec_frame {cfg : HostConfig} {d finish : Daemon} {actions : List Action} {id : Nat}
    (h : exec (Daemon.step cfg) d actions = some finish) (hId : id ∉ taskIds actions) :
    finish.tasks id = d.tasks id := by
  induction actions generalizing d with
  | nil =>
      cases h
      rfl
  | cons action rest ih =>
      obtain ⟨middle, hStep, hRest⟩ := exec_cons.mp h
      have hRestId : id ∉ taskIds rest := by
        intro hMember
        exact hId (List.mem_filterMap.mpr (by
          obtain ⟨other, hOther, hTask⟩ := List.mem_filterMap.mp hMember
          exact ⟨other, List.mem_cons_of_mem action hOther, hTask⟩))
      rw [ih hRest hRestId]
      unfold Daemon.step at hStep
      split_ifs at hStep
      split at hStep
      case h_1 other input =>
        obtain ⟨⟨ctx, handler⟩, _, rfl⟩ := Option.map_eq_some_iff.mp hStep
        have hOther : id ≠ other := by
          rintro rfl
          exact hId (List.mem_filterMap.mpr ⟨_, List.mem_cons_self, rfl⟩)
        exact Function.update_of_ne hOther handler d.tasks
      case h_2 listener =>
        obtain ⟨ctx, _, rfl⟩ := Option.map_eq_some_iff.mp hStep
        rfl
      case h_3 =>
        cases hStep
        rfl

/-- A property of all tasks after a schedule, from the tasks that it mentions. -/
theorem Daemon.exec_forall_tasks {finish : Daemon} {actions : List Action} {P : Handler → Prop}
    (h : exec (Daemon.step .basic) (Daemon.start .basic) actions = some finish) (hIdle : P .idle)
    (hMentioned : ∀ id ∈ taskIds actions, P (finish.tasks id)) : ∀ id, P (finish.tasks id) := by
  intro id
  by_cases hId : id ∈ taskIds actions
  · exact hMentioned id hId
  · rw [Daemon.exec_frame h hId]
    simpa [Daemon.start, HostConfig.basic] using hIdle

end DevcontainerBridge
