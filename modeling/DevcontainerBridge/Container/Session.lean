import DevcontainerBridge.Protocol.Message
import DevcontainerBridge.Table.Lookup

/-! The container daemon: the reconnection loop of `run` with the message loop
of `run_session`, cut at every await. The map of forwarded ports outlives the
connections. -/
namespace DevcontainerBridge

open Table

/-- A listening port, as one scan reports it. -/
structure ListeningPort where
  port : UInt16
  processName : Option String
  pid : Option UInt32
  deriving DecidableEq, Repr

/-- Which listening ports are forwarded. The regex is its `is_match`. -/
structure PortFilter where
  excludePorts : List UInt16
  includePorts : List UInt16
  excludeProcess : Option (String → Bool)

namespace PortFilter

/-- `should_forward`. -/
def shouldForward (filter : PortFilter) (port : ListeningPort) : Bool :=
  if port.port ∈ filter.excludePorts then
    false
  else if filter.includePorts ≠ [] ∧ port.port ∉ filter.includePorts then
    false
  else
    match filter.excludeProcess, port.processName with
    | some isMatch, some name => !isMatch name
    | _, _ => true

/-- `PortFilter::filter`. -/
def filter (filter : PortFilter) (ports : List ListeningPort) : List ListeningPort :=
  ports.filter filter.shouldForward

end PortFilter

/-- Settings of the container daemon that its loop reads. -/
structure ContainerConfig where
  controlPort : UInt16
  dataPort : UInt16
  excludePorts : List UInt16
  includePorts : List UInt16
  containerId : String
  authToken : String

/-- The ports that are never forwarded, the daemon's own ones included. -/
def ContainerConfig.excluded (cfg : ContainerConfig) : List UInt16 :=
  cfg.controlPort :: cfg.dataPort :: cfg.excludePorts

/-- The filter that `run` builds. -/
def ContainerConfig.portFilter (cfg : ContainerConfig) : PortFilter where
  excludePorts := cfg.excluded
  includePorts := cfg.includePorts
  excludeProcess := none

/-- Ports with what a scan has found on them. -/
abbrev ForwardedPorts := Map UInt16 ListeningPort

/-- `current_map`: what passes the filter, by port. -/
def ContainerConfig.currentMap (cfg : ContainerConfig) (scan : List ListeningPort) : ForwardedPorts :=
  (cfg.portFilter.filter scan).foldl (fun ports lp => ports.insert lp.port lp) ∅

/-- What connect handlers and mirror sockets pass on to the session loop. -/
inductive RelayMessage where
  | connectFailed (connId error : String)
  | socketConnectRequest (socketId connId : String)
  deriving DecidableEq, Repr

def RelayMessage.msg : RelayMessage → Message
  | .connectFailed connId error => .connectFailed connId error
  | .socketConnectRequest socketId connId => .socketConnectRequest socketId connId

/-- Where the container daemon waits. Positions within a scan tick carry the
result of the scan. -/
inductive Position where
  | connecting
  | sendingRegister
  | awaitingAck
  | backingOff
  | registered
  /-- `re_forward_ports` -/
  | reForwarding (rest : List (Σ _ : UInt16, ListeningPort))
  /-- `run_session` at the head of its loop -/
  | loopHead
  /-- the loop over `current_map` -/
  | forwarding (scan : List ListeningPort) (rest : List (Σ _ : UInt16, ListeningPort))
  /-- the loop over the removed ports -/
  | unforwarding (scan : List ListeningPort) (rest : List UInt16)
  | sendingPong
  | relaying (relay : RelayMessage)
  /-- the Unforwards before a shutdown -/
  | farewell (rest : List UInt16)
  | exited
  deriving DecidableEq

/-- What a connection has seen that concerns forwarded ports. -/
inductive SessionEvent where
  | forwarded (port : UInt16)
  | unforwarded (port : UInt16)
  | rejected (port : UInt16)
  deriving DecidableEq, Repr

structure ContainerDaemon where
  position : Position
  forwarded : ForwardedPorts
  /-- the events of the current connection, in order -/
  events : List SessionEvent

inductive SessionInput where
  | connected (ok : Bool)
  | sent (ok : Bool)
  | receive (message : Message)
  | fail
  | proceed
  | waited (isShutdown : Bool)
  /-- a scan tick, with the order in which the map of its result is enumerated -/
  | scanned (scan : List ListeningPort) (order : List (Σ _ : UInt16, ListeningPort))
  | scanFailed
  /-- the order in which the map of forwarded ports is enumerated -/
  | enumerate (order : List (Σ _ : UInt16, ListeningPort))
  | relay (relay : RelayMessage)
  | shutdown (order : List (Σ _ : UInt16, ListeningPort))

/-- The Forward message for an entry. -/
def forwardMessage (entry : Σ _ : UInt16, ListeningPort) : Message :=
  .forward entry.1 .tcp entry.2.processName entry.2.pid

namespace ContainerDaemon

/-- A daemon that has forwarded nothing yet. -/
def start : ContainerDaemon where
  position := .connecting
  forwarded := ∅
  events := []

/-- The message that is being sent. -/
def outgoing (cfg : ContainerConfig) (c : ContainerDaemon) : Option Message :=
  match c.position with
  | .sendingRegister => some (.register cfg.containerId cfg.containerId cfg.authToken)
  | .reForwarding (entry :: _) => some (forwardMessage entry)
  | .forwarding _ (entry :: _) => if entry.1 ∈ c.forwarded then none else some (forwardMessage entry)
  | .unforwarding _ (port :: _) => some (.unforward port)
  | .sendingPong => some .pong
  | .relaying relay => some relay.msg
  | .farewell (port :: _) => some (.unforward port)
  | _ => none

def moveTo (c : ContainerDaemon) (position : Position) : ContainerDaemon :=
  { c with position := position }

def record (c : ContainerDaemon) (event : SessionEvent) : ContainerDaemon :=
  { c with events := c.events ++ [event] }

/-- A message that `run_session` receives. -/
def handleMessage (c : ContainerDaemon) : Message → ContainerDaemon
  | .ping => c.moveTo .sendingPong
  | .forwardAck port false _ => { c.record (.rejected port) with forwarded := c.forwarded.erase port }
  | _ => c

/-- Steps of `run` outside `run_session`. -/
def stepRun (c : ContainerDaemon) : Position → SessionInput → Option ContainerDaemon
  | .connecting, .connected ok =>
      some (if ok then { c with position := .sendingRegister, events := [] } else c.moveTo .backingOff)
  | .sendingRegister, .sent ok => some (c.moveTo (if ok then .awaitingAck else .backingOff))
  | .awaitingAck, .receive message =>
      some (c.moveTo (match message with
        | .registerAck true => .registered
        | .registerAck false => .exited
        | _ => .backingOff))
  | .awaitingAck, .fail => some (c.moveTo .backingOff)
  | .backingOff, .waited isShutdown => some (c.moveTo (if isShutdown then .exited else .connecting))
  | .registered, .enumerate order =>
      if Enumerates order c.forwarded then some (c.moveTo (.reForwarding order)) else none
  | .reForwarding (entry :: rest), .sent ok =>
      some (if ok then (c.record (.forwarded entry.1)).moveTo (.reForwarding rest)
        else c.moveTo .backingOff)
  | .reForwarding [], .proceed => some (c.moveTo .loopHead)
  | _, _ => none

/-- Steps of a scan tick after the scan. -/
def stepScan (c : ContainerDaemon) : Position → SessionInput → Option ContainerDaemon
  | .forwarding scan (entry :: rest), .proceed =>
      if entry.1 ∈ c.forwarded then some (c.moveTo (.forwarding scan rest)) else none
  | .forwarding scan (entry :: rest), .sent ok =>
      if entry.1 ∈ c.forwarded then
        none
      else if ok then
        some { c.record (.forwarded entry.1) with
          position := .forwarding scan rest
          forwarded := c.forwarded.insert entry.1 entry.2 }
      else
        some (c.moveTo .backingOff)
  | .unforwarding scan (port :: rest), .sent ok =>
      if ok then
        some { c.record (.unforwarded port) with
          position := .unforwarding scan rest
          forwarded := c.forwarded.erase port }
      else
        some (c.moveTo .backingOff)
  | .unforwarding _ [], .proceed => some (c.moveTo .loopHead)
  | _, _ => none

/-- The ports of an enumeration that the scan has not found. -/
def removedPorts (cfg : ContainerConfig) (scan : List ListeningPort)
    (order : List (Σ _ : UInt16, ListeningPort)) : List UInt16 :=
  (order.map Sigma.fst).filter fun port => port ∉ cfg.currentMap scan

/-- Steps of `run_session` outside the two loops of a scan tick. -/
def stepSession (cfg : ContainerConfig) (c : ContainerDaemon) :
    Position → SessionInput → Option ContainerDaemon
  | .loopHead, .scanned scan order =>
      if Enumerates order (cfg.currentMap scan) then some (c.moveTo (.forwarding scan order)) else none
  | .loopHead, .scanFailed => some c
  | .loopHead, .receive message => some (c.handleMessage message)
  | .loopHead, .fail => some (c.moveTo .backingOff)
  | .loopHead, .relay relay => some (c.moveTo (.relaying relay))
  | .loopHead, .shutdown order =>
      if Enumerates order c.forwarded then some (c.moveTo (.farewell (order.map Sigma.fst))) else none
  | .forwarding scan [], .enumerate order =>
      if Enumerates order c.forwarded then
        some (c.moveTo (.unforwarding scan (removedPorts cfg scan order)))
      else
        none
  | .sendingPong, .sent ok | .relaying _, .sent ok =>
      some (c.moveTo (if ok then .loopHead else .backingOff))
  | .farewell (_ :: rest), .sent _ => some (c.moveTo (.farewell rest))
  | .farewell [], .proceed => some (c.moveTo .exited)
  | _, _ => none

/-- One step of the container daemon. -/
def step (cfg : ContainerConfig) (c : ContainerDaemon) (input : SessionInput) : Option ContainerDaemon :=
  c.stepRun c.position input <|> c.stepScan c.position input <|> c.stepSession cfg c.position input

end ContainerDaemon
end DevcontainerBridge
