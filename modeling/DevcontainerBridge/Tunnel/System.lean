import DevcontainerBridge.Container.Dialing
import DevcontainerBridge.Host.Tickets

/-! The host daemon together with the sessions of its containers. ConnectRequests
travel to a session, relayed messages travel back, and the dialling tasks of
the containers open data connections to the host. Whatever else reaches the
host comes from peers that the model leaves open. -/
namespace DevcontainerBridge

open Table Transition

/-- Who a conn_id was generated for. A conn_id that an unknown peer has
presented first is foreign. -/
inductive Issue where
  | client (id : Nat) (client : ClientConnection) (route : ClientRoute)
  | mirror (dialer : Nat)
  | foreign
  deriving DecidableEq, Repr

structure Tunnel where
  host : Daemon
  /-- ConnectRequests written on the control connection of a registration and not read -/
  requests : Nat → List OutboundConnectRequest
  /-- the relay channel of a session, with the tasks that wait for a confirmation -/
  relayChannel : Nat → List (Nat × RelayMessage)
  /-- what a session has written on its control connection and the host has not read -/
  relayed : Nat → List RelayMessage
  sessionOpen : Nat → Bool
  dialers : Nat → Option DialTask
  nextDialer : Nat
  /-- the dialling task at the other end of a data connection, by host task -/
  dialled : Nat → Option Nat
  /-- the data connection whose stream a receiver was handed, by host task -/
  delivered : Nat → Option Nat
  /-- the socket id and the host path that were looked up for a conn_id -/
  hostPaths : String → Option (String × String)
  issued : String → Option Issue

inductive TunnelAction where
  /-- a step of the host daemon -/
  | host (action : Action)
  /-- a session starts on a control connection -/
  | openSession (registration : Nat)
  | closeSession (registration : Nat)
  /-- a session reads a ConnectRequest and spawns a connect handler -/
  | spawn (registration : Nat)
  /-- a mirror socket of the session accepts a client -/
  | accept (registration : Nat) (socketId connId : String)
  /-- a step of a dialling task that concerns nobody else -/
  | dialer (dialer : Nat) (input : DialInput)
  /-- a dialling task connects to the data port and a host task accepts it -/
  | dial (dialer id : Nat)
  /-- the host reads the handshake line of a dialling task -/
  | handshake (id : Nat)
  /-- a dialling task hands its message to the session loop -/
  | enqueue (dialer : Nat)
  /-- the session loop writes a relayed message and confirms it -/
  | relay (registration : Nat)
  /-- the control handler of the host reads a relayed message -/
  | read (id : Nat)

/-- Capacity of the relay channel of a session. -/
def relayChannelCapacity : Nat := 64

namespace Tunnel

def start (cfg : HostConfig) : Tunnel where
  host := Daemon.start cfg
  requests := fun _ => []
  relayChannel := fun _ => []
  relayed := fun _ => []
  sessionOpen := fun _ => false
  dialers := fun _ => none
  nextDialer := 0
  dialled := fun _ => none
  delivered := fun _ => none
  hostPaths := fun _ => none
  issued := fun _ => none

def issue (t : Tunnel) (connId : String) (origin : Issue) : Tunnel :=
  { t with issued := Function.update t.issued connId (some origin) }

/-- A peer outside the model presents a conn_id. -/
def present (t : Tunnel) (connId : String) : Tunnel :=
  match t.issued connId with
  | none => t.issue connId .foreign
  | some _ => t

/-- A ConnectRequest is written on the control connection of a registration. -/
def writeRequest (t : Tunnel) (registration : Nat) : Tunnel :=
  match t.host.ctx.proxy.connectRequests registration with
  | [] => t
  | request :: _ =>
      let queue := t.requests registration ++ [request]
      { t with requests := Function.update t.requests registration queue }

/-- A data connection is matched with the entry under its conn_id. -/
def deliver (t : Tunnel) (id : Nat) (connId : String) : Tunnel :=
  match t.host.ctx.proxy.pending.lookup connId with
  | none => t
  | some receiver =>
      if t.host.ctx.proxy.receivers receiver = .waiting then
        { t with delivered := Function.update t.delivered receiver (some id) }
      else
        t

/-- The host looks a socket id up for a conn_id. -/
def lookUp (t : Tunnel) (socketId connId : String) : Tunnel :=
  match t.host.ctx.state.socketForwards.lookup socketId with
  | none => t
  | some info => { t with hostPaths := Function.update t.hostPaths connId (some (socketId, info.hostPath)) }

/-- What the containers and the records see of a step of a host task. -/
def observe (t : Tunnel) (id : Nat) (input : Input) : Tunnel :=
  match t.host.tasks id, input with
  | .proxy (.clientRegister client route), .uuid connId => t.issue connId (.client id client route)
  | .proxy .handshake, .receive (.connectReady connId) => t.present connId
  | .serving _ _, .receive (.socketConnectRequest _ connId) => t.present connId
  | .serving _ registrationId, .flushRequest true =>
      if t.sessionOpen registrationId then t.writeRequest registrationId else t
  | .proxy (.resolving connId), .proceed => t.deliver id connId
  | .socketLookup _ _ socketId connId, .proceed => t.lookUp socketId connId
  | _, _ => t

/-- What a data connection sends is up to the task that has dialled it. -/
def ownsContent (t : Tunnel) : Action → Bool
  | .task id (.receive _) => (t.dialled id).isSome
  | _ => false

def observed (t : Tunnel) : Action → Tunnel
  | .task id input => t.observe id input
  | _ => t

/-- The host takes a step, and what it sends and matches is recorded. -/
def stepHost (cfg : HostConfig) (t : Tunnel) (action : Action) : Option Tunnel :=
  (Daemon.step cfg t.host action).map fun host => { t.observed action with host := host }

def addDialer (t : Tunnel) (task : DialTask) : Tunnel :=
  { t with
    dialers := Function.update t.dialers t.nextDialer (some task)
    nextDialer := t.nextDialer + 1 }

def setDialer (t : Tunnel) (dialer : Nat) (task : DialTask) (next : Dialer) : Tunnel :=
  { t with dialers := Function.update t.dialers dialer (some { task with dialer := next }) }

def closeSession (t : Tunnel) (registration : Nat) : Tunnel :=
  { t with
    sessionOpen := Function.update t.sessionOpen registration false
    requests := Function.update t.requests registration []
    relayChannel := Function.update t.relayChannel registration [] }

/-- Whether a step of a dialling task concerns nobody else. A message is taken
by an open relay channel only, and confirmed by the session loop only. -/
def isLocal (t : Tunnel) (task : DialTask) : DialInput → Bool
  | .attempt .connected => !task.dialer.dials
  | .relayed ok => !ok && !t.sessionOpen task.registration
  | .acked ok => !ok && !t.sessionOpen task.registration
  | _ => true

def stepDialer (hostDataAddr : String) (t : Tunnel) (dialer : Nat) (input : DialInput) : Option Tunnel :=
  (t.dialers dialer).bind fun task =>
    if t.isLocal task input then
      (task.dialer.step hostDataAddr input).map fun next => t.setDialer dialer task next
    else
      none

/-- The dialling task and the host task that accepts it make the data connection. -/
def dial (cfg : HostConfig) (hostDataAddr : String) (t : Tunnel) (dialer id : Nat) : Option Tunnel :=
  (t.dialers dialer).bind fun task =>
    if task.dialer.dials then
      (task.dialer.step hostDataAddr (.attempt .connected)).bind fun next =>
        (Daemon.step cfg t.host (.task id .connectData)).map fun host =>
          { t.setDialer dialer task next with
            host := host
            dialled := Function.update t.dialled id (some dialer) }
    else
      none

/-- The host reads the line that a dialling task writes. -/
def handshake (cfg : HostConfig) (t : Tunnel) (id : Nat) : Option Tunnel :=
  ((t.dialled id).bind t.dialers).bind fun task =>
    (Daemon.step cfg t.host (.task id (.receive (.connectReady task.connId)))).map fun host =>
      { t with host := host }

def enqueue (hostDataAddr : String) (t : Tunnel) (dialer : Nat) : Option Tunnel :=
  (t.dialers dialer).bind fun task =>
    (task.dialer.relay task.connId).bind fun message =>
      let channel := t.relayChannel task.registration
      if t.sessionOpen task.registration ∧ channel.length < relayChannelCapacity then
        (task.dialer.step hostDataAddr (.relayed true)).map fun next =>
          { t.setDialer dialer task next with
            relayChannel :=
              Function.update t.relayChannel task.registration (channel ++ [(dialer, message)]) }
      else
        none

/-- A confirmed task goes on. Nobody waits for a ConnectFailed. -/
def confirm (hostDataAddr : String) (t : Tunnel) (dialer : Nat) : Tunnel :=
  match t.dialers dialer with
  | none => t
  | some task =>
      match task.dialer.step hostDataAddr (.acked true) with
      | none => t
      | some next => t.setDialer dialer task next

/-- The session loop takes a message from its relay channel and writes it. -/
def writeRelay (t : Tunnel) (registration : Nat) (message : RelayMessage)
    (rest : List (Nat × RelayMessage)) : Tunnel :=
  { t with
    relayChannel := Function.update t.relayChannel registration rest
    relayed := Function.update t.relayed registration (t.relayed registration ++ [message]) }

def relay (hostDataAddr : String) (t : Tunnel) (registration : Nat) : Option Tunnel :=
  match t.relayChannel registration with
  | [] => none
  | (dialer, message) :: rest => some ((t.writeRelay registration message rest).confirm hostDataAddr dialer)

def read (cfg : HostConfig) (t : Tunnel) (id : Nat) : Option Tunnel :=
  match t.host.tasks id with
  | .serving _ registrationId =>
      match t.relayed registrationId with
      | [] => none
      | message :: rest =>
          (Daemon.step cfg t.host (.task id (.receive message.msg))).map fun host =>
            { t with host := host, relayed := Function.update t.relayed registrationId rest }
  | _ => none

/-- One step of the host, of a session or of a dialling task. -/
def step (cfg : HostConfig) (hostDataAddr : String) (t : Tunnel) : TunnelAction → Option Tunnel
  | .host action => if t.ownsContent action then none else t.stepHost cfg action
  | .openSession registration =>
      some { t with sessionOpen := Function.update t.sessionOpen registration true }
  | .closeSession registration => some (t.closeSession registration)
  | .spawn registration =>
      match t.requests registration with
      | [] => none
      | request :: rest =>
          some ({ t with requests := Function.update t.requests registration rest }.addDialer
            { registration := registration
              connId := request.connId
              dialer := .connect request.port .ipv4 })
  | .accept registration socketId connId =>
      some ((t.issue connId (.mirror t.nextDialer)).addDialer
        { registration := registration, connId := connId, dialer := .mirror socketId .requesting })
  | .dialer dialer input => t.stepDialer hostDataAddr dialer input
  | .dial dialer id => t.dial cfg hostDataAddr dialer id
  | .handshake id => t.handshake cfg id
  | .enqueue dialer => t.enqueue hostDataAddr dialer
  | .relay registration => t.relay hostDataAddr registration
  | .read id => t.read cfg id

end Tunnel

/-- The conn_id that an action generates. -/
def TunnelAction.generates : TunnelAction → Option String
  | .host (.task _ (.uuid connId)) | .accept _ _ connId => some connId
  | _ => none

/-- The conn_id that a peer outside the model presents. -/
def TunnelAction.presents : TunnelAction → Option String
  | .host (.task _ (.receive (.connectReady connId)))
  | .host (.task _ (.receive (.socketConnectRequest _ connId))) => some connId
  | _ => none

/-- A conn_id is generated anew, and peers outside the model present none that
was generated for others. -/
structure Tunnel.Unguessed (t : Tunnel) (action : TunnelAction) : Prop where
  fresh : ∀ connId ∈ action.generates, t.issued connId = none
  foreign : ∀ connId ∈ action.presents, t.issued connId = none ∨ t.issued connId = some .foreign

instance (t : Tunnel) (action : TunnelAction) : Decidable (t.Unguessed action) :=
  decidable_of_iff ((∀ connId ∈ action.generates, t.issued connId = none) ∧
      ∀ connId ∈ action.presents, t.issued connId = none ∨ t.issued connId = some .foreign)
    ⟨fun h => ⟨h.1, h.2⟩, fun h => ⟨h.fresh, h.foreign⟩⟩

end DevcontainerBridge
