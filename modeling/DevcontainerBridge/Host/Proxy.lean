import DevcontainerBridge.Host.State
import Mathlib.Logic.Function.Basic

/-! Client connections, data connections and the pending map that matches
them. The tasks of this file read the host state and never write it. -/
namespace DevcontainerBridge

open Table

/-- Maximum number of pending connections before pruning stale entries. -/
def maxPending : Nat := 1024

/-- Capacity of the channel from the port listeners to the main loop. -/
def clientChannelCapacity : Nat := 256

/-- Capacity of each registration's outbound channels. -/
def outboundChannelCapacity : Nat := 64

/-- A client connection accepted by a port listener. The stream is known by
the listener that accepted it. -/
structure ClientConnection where
  listener : Nat
  containerPort : UInt16
  deriving DecidableEq, Repr

structure OutboundConnectRequest where
  port : UInt16
  connId : String
  deriving DecidableEq, Repr

/-- The receiving end of a one-shot channel for a data stream. -/
inductive Receiver where
  | unused
  | waiting
  | delivered
  | closed
  deriving DecidableEq, Repr

/-- Active proxy connections of one forward, and whether the cancellation
signal has been sent. -/
structure Tracker where
  count : Nat
  cancelled : Bool
  deriving DecidableEq, Repr

structure ProxyState where
  /-- Pending reverse connections, conn_id to the receiver of the one-shot. -/
  pending : Map String Nat
  receivers : Nat → Receiver
  nextReceiver : Nat
  trackers : Nat → Tracker
  /-- Accepted clients that the main loop has not spawned a task for. -/
  clientQueue : List ClientConnection
  /-- Queued ConnectRequests and messages, by registration. -/
  connectRequests : Nat → List OutboundConnectRequest
  outboundMessages : Nat → List Message
  channelOpen : Nat → Bool
  /-- Socket bridges spawned and not started. -/
  bridges : List (String × Nat)
  transferActive : Bool
  /-- How often the clipboard has been captured. -/
  captures : Nat

def ProxyState.new : ProxyState where
  pending := ∅
  receivers := fun _ => .unused
  nextReceiver := 0
  trackers := fun _ => { count := 0, cancelled := false }
  clientQueue := []
  connectRequests := fun _ => []
  outboundMessages := fun _ => []
  channelOpen := fun _ => false
  bridges := []
  transferActive := false
  captures := 0

/-- Insert a pending entry, pruning entries of closed receivers when the map
is full. The second component tells whether the entry was accepted. -/
def registerPending (receivers : Nat → Receiver) (pending : Map String Nat) (connId : String)
    (receiver : Nat) : Map String Nat × Bool :=
  if pending.keys.card ≥ maxPending then
    let pending := retain (fun _ other => receivers other ≠ .closed) pending
    if pending.keys.card ≥ maxPending then
      (pending, false)
    else
      (pending.insert connId receiver, true)
  else
    (pending.insert connId receiver, true)

/-- What the client handler captures under the state lock. -/
structure ClientRoute where
  containerId : String
  tracker : Option Nat
  connectTx : Option Nat
  deriving DecidableEq, Repr

/-- Find which container owns the port, its tracker and its request channel. -/
def HostState.routeClient (s : HostState) (order : List (Σ _ : String, ContainerState))
    (port : UInt16) : Option ClientRoute :=
  (HostState.findContainerForPort order port).map fun containerId =>
    { containerId := containerId
      tracker := ((s.containers.lookup containerId).bind fun c => c.forwards.lookup port).map
        ForwardState.tracker
      connectTx := (s.containers.lookup containerId).map ContainerState.connectRequestTx }

namespace ProxyState

def increment (p : ProxyState) (tracker : Option Nat) : ProxyState :=
  match tracker with
  | none => p
  | some n =>
      let tracker := p.trackers n
      { p with trackers := Function.update p.trackers n { tracker with count := tracker.count + 1 } }

def decrement (p : ProxyState) (tracker : Option Nat) : ProxyState :=
  match tracker with
  | none => p
  | some n =>
      let tracker := p.trackers n
      { p with trackers := Function.update p.trackers n { tracker with count := tracker.count - 1 } }

/-- Send the cancellation signal of every listed tracker. -/
def cancelTrackers (p : ProxyState) (timedOut : List Nat) : ProxyState :=
  { p with trackers := fun n =>
      if n ∈ timedOut then { p.trackers n with cancelled := true } else p.trackers n }

/-- Whether the forwards of a teardown have all drained, apart from the ones
whose drain has timed out. -/
def canDrain (p : ProxyState) (forwards : Forwards) (timedOut : List Nat) : Bool :=
  forwards.all (fun _ fstate => fstate.tracker ∈ timedOut || (p.trackers fstate.tracker).count = 0)
    && timedOut.all fun n => forwards.any fun _ fstate => fstate.tracker = n

def closeReceiver (p : ProxyState) (receiver : Nat) : ProxyState :=
  { p with receivers := Function.update p.receivers receiver .closed }

def cancelPending (p : ProxyState) (connId : String) : ProxyState :=
  { p with pending := p.pending.erase connId }

/-- `register_pending` with a fresh one-shot channel. The receiver is handed
back where the entry was accepted. -/
def register (p : ProxyState) (connId : String) : ProxyState × Option Nat :=
  match registerPending p.receivers p.pending connId p.nextReceiver with
  | (pending, true) =>
      ({ p with
          pending := pending
          receivers := Function.update p.receivers p.nextReceiver .waiting
          nextReceiver := p.nextReceiver + 1 }, some p.nextReceiver)
  | (pending, false) => ({ p with pending := pending }, none)

/-- One lookup of `resolve_pending_with_grace`. Absent when no entry matches
and the search is to be retried. -/
def resolve (p : ProxyState) (connId : String) : Option ProxyState :=
  match p.pending.lookup connId with
  | none => none
  | some receiver =>
      let p := { p with pending := p.pending.erase connId }
      some (match p.receivers receiver with
        | .waiting => { p with receivers := Function.update p.receivers receiver .delivered }
        | _ => p)

def queueRequest (p : ProxyState) (channel : Nat) (request : OutboundConnectRequest) : ProxyState :=
  let queue := p.connectRequests channel ++ [request]
  { p with connectRequests := Function.update p.connectRequests channel queue }

def setChannel (p : ProxyState) (channel : Nat) (isOpen : Bool) : ProxyState :=
  { p with channelOpen := Function.update p.channelOpen channel isOpen }

/-- `try_send` of a message to one registration's outbound channel. -/
def tryBroadcast (p : ProxyState) (message : Message) (channel : Nat) : ProxyState :=
  if p.channelOpen channel ∧ (p.outboundMessages channel).length < outboundChannelCapacity then
    let queue := p.outboundMessages channel ++ [message]
    { p with outboundMessages := Function.update p.outboundMessages channel queue }
  else
    p

end ProxyState

/-- What the environment supplies to a step: messages, outcomes of I/O, the
clock, fresh identifiers and the order of a hash map's enumeration. -/
inductive Input where
  | connect
  | connectData
  | spawnClient
  | spawnBridge
  | receive (message : Message)
  | fail
  | proceed
  | sent (ok : Bool)
  | bound (result : Option UInt16)
  | timestamp (now : String)
  | clock (now : Nat)
  | launched (ok : Bool)
  | uuid (connId : String)
  | enumerate (order : List (Σ _ : String, ContainerState))
  | drained (timedOut : List Nat)
  /-- one of the drains of a teardown returns before the others -/
  | drainedOne (port : UInt16) (timedOut : Bool)
  | cancelled
  | flushRequest (ok : Bool)
  | flushMessage
  | scan (newSockets removedSockets : List SocketInfo) (order : List (Σ _ : String, ContainerState))

/-- Settings of the host daemon that its handlers read. -/
structure HostConfig where
  authToken : Option String
  exitOnIdle : Bool
  allowClipboard : Bool
  browserCmd : Option String
  /-- socket forwarding is enabled and has paths to watch -/
  scanSockets : Bool
  tables : UnicodeTables

/-- Client handlers, socket bridges and data connections by where they wait. -/
inductive ProxyTask where
  /-- `handle_client_connection` -/
  | clientLookup (client : ClientConnection)
  | clientIncrement (client : ClientConnection) (route : ClientRoute)
  | clientRegister (client : ClientConnection) (route : ClientRoute)
  | clientSend (client : ClientConnection) (route : ClientRoute) (connId : String) (receiver : Nat)
  | clientSubscribe (route : ClientRoute) (connId : String) (receiver : Nat)
  | clientBridge (route : ClientRoute) (connId : String) (receiver : Nat) (seen : Bool)
  /-- in `bridge_connection` about to cancel the entry, where a drain can still close the handler -/
  | clientBridgeCancel (route : ClientRoute) (connId : String) (seen : Bool)
  | clientCancel (route : ClientRoute) (connId : String)
  | clientDone (route : ClientRoute)
  /-- the bridge task of `SocketConnectRequest` -/
  | socketBridge (connId : String) (receiver : Nat)
  | socketBridgeCancel (connId : String)
  /-- `handle_data_connection` -/
  | handshake
  | resolving (connId : String)
  | capturing
  | finished

/-- The permission check of `ClipboardService::serve`. -/
def HostConfig.clipboardPermits (cfg : HostConfig) (token : String) : Bool :=
  cfg.allowClipboard
    && (match cfg.authToken with
      | some expected => expected ≠ "" && expected == token
      | none => false)

/-- The first and only message of a data connection. -/
def dispatchData (cfg : HostConfig) (p : ProxyState) : Message → ProxyState × ProxyTask
  | .clipboardRead _ token =>
      if cfg.clipboardPermits token = true ∧ p.transferActive = false then
        ({ p with transferActive := true, captures := p.captures + 1 }, .capturing)
      else
        (p, .finished)
  | .connectReady connId =>
      if connId.utf8ByteSize > maxConnIdLength then (p, .finished) else (p, .resolving connId)
  | _ => (p, .finished)

/-- One step of a client handler. -/
def nextClient (s : HostState) (p : ProxyState) : ProxyTask → Input → Option (ProxyState × ProxyTask)
  | .clientLookup client, .enumerate order =>
      if Enumerates order s.containers then
        match s.routeClient order client.containerPort with
        | some route => some (p, .clientIncrement client route)
        | none => some (p, .finished)
      else
        none
  | .clientIncrement client route, .proceed =>
      match route.connectTx with
      | some _ => some (p.increment route.tracker, .clientRegister client route)
      | none => some (p, .finished)
  | .clientRegister client route, .uuid connId =>
      match p.register connId with
      | (p, some receiver) => some (p, .clientSend client route connId receiver)
      | (p, none) => some (p, .clientDone route)
  | .clientSend client route connId receiver, .sent ok =>
      match route.connectTx with
      | none => none
      | some channel =>
          if ok then
            if p.channelOpen channel ∧ (p.connectRequests channel).length < outboundChannelCapacity then
              some (p.queueRequest channel { port := client.containerPort, connId := connId },
                .clientSubscribe route connId receiver)
            else
              none
          else if p.channelOpen channel then
            none
          else
            some (p.closeReceiver receiver, .clientCancel route connId)
  | .clientSubscribe route connId receiver, .proceed =>
      -- the receiver regards a signal sent before this point as already seen
      let seen := match route.tracker with
        | some n => (p.trackers n).cancelled
        | none => true
      some (p, .clientBridge route connId receiver seen)
  | .clientBridge route connId receiver seen, input =>
      match input with
      | .proceed =>
          if p.receivers receiver = .delivered then some (p.closeReceiver receiver, .clientDone route)
          else none
      | .fail =>
          if p.receivers receiver = .delivered then none
          else some (p.closeReceiver receiver, .clientBridgeCancel route connId seen)
      | .cancelled =>
          match route.tracker with
          | some n =>
              if (p.trackers n).cancelled = true ∧ seen = false then
                some (p.closeReceiver receiver, .clientDone route)
              else
                none
          | none => none
      | _ => none
  | .clientBridgeCancel route connId seen, input =>
      match input with
      | .proceed => some (p.cancelPending connId, .clientDone route)
      | .cancelled =>
          match route.tracker with
          | some n =>
              if (p.trackers n).cancelled = true ∧ seen = false then some (p, .clientDone route) else none
          | none => none
      | _ => none
  | .clientCancel route connId, .proceed => some (p.cancelPending connId, .clientDone route)
  | .clientDone route, .proceed => some (p.decrement route.tracker, .finished)
  | _, _ => none

/-- One step of a data connection or of a socket bridge. -/
def nextData (cfg : HostConfig) (p : ProxyState) : ProxyTask → Input → Option (ProxyState × ProxyTask)
  | .socketBridge connId receiver, input =>
      match input with
      | .proceed =>
          if p.receivers receiver = .delivered then some (p.closeReceiver receiver, .finished) else none
      | .fail =>
          if p.receivers receiver = .delivered then none
          else some (p.closeReceiver receiver, .socketBridgeCancel connId)
      | _ => none
  | .socketBridgeCancel connId, .proceed => some (p.cancelPending connId, .finished)
  | .handshake, input =>
      match input with
      | .receive message => some (dispatchData cfg p message)
      | .fail => some (p, .finished)
      | _ => none
  | .resolving connId, input =>
      match input with
      | .proceed =>
          match p.resolve connId with
          | some p => some (p, .finished)
          | none => some (p, .resolving connId)
      | .fail => some (p, .finished)
      | _ => none
  | .capturing, input =>
      match input with
      | .proceed => some ({ p with transferActive := false }, .finished)
      | .fail => some ({ p with transferActive := false }, .finished)
      | _ => none
  | _, _ => none

end DevcontainerBridge
