import DevcontainerBridge.Protocol.Message
import DevcontainerBridge.Table.Lookup

/-! The state behind the host daemon's lock and the operations performed on it
in one critical section each. Tasks, channels and trackers are named by the
numbers that the daemon hands out when it creates them. -/
namespace DevcontainerBridge

open Table

/-- Maximum number of concurrent containers. -/
def maxContainers : Nat := 64

/-- Maximum number of port forwards per container. -/
def maxForwardsPerContainer : Nat := 128

/-- Maximum length in bytes of a container_id or hostname. -/
def maxIdentifierLength : Nat := 256

/-- Maximum length in bytes of a conn_id. -/
def maxConnIdLength : Nat := 128

/-- Rust's `char::is_alphanumeric`. Outside ASCII it reads the Unicode tables,
which are a parameter here. -/
structure UnicodeTables where
  isAlphanumeric : Char → Bool
  ascii : ∀ c : Char, c.val < 128 → isAlphanumeric c = c.isAlphanum

/-- Tables under which no character outside ASCII is alphanumeric. -/
def UnicodeTables.asciiOnly : UnicodeTables where
  isAlphanumeric := fun c => c.isAlphanum
  ascii := fun _ _ => rfl

/-- Check whether a container_id, hostname or similar identifier is safe. -/
def isValidIdentifier (tables : UnicodeTables) (s : String) : Bool :=
  !s.isEmpty
    && s.utf8ByteSize ≤ maxIdentifierLength
    && s.toList.all fun c => tables.isAlphanumeric c || c == '-' || c == '_' || c == '.'

/-- Per-port forwarding state. The listener number stands for the task's
shutdown sender and join handle, the tracker number for the shared tracker. -/
structure ForwardState where
  hostPort : UInt16
  listener : Nat
  processName : Option String
  pid : Option UInt32
  since : String
  tracker : Nat
  deriving DecidableEq, Repr

/-- Active forwards, container port to forward. -/
abbrev Forwards := Map UInt16 ForwardState

/-- Per-container state while a container is registered. The two channel
fields name the registration whose message loop holds the receivers. -/
structure ContainerState where
  registrationId : Nat
  hostname : String
  forwards : Forwards
  connectRequestTx : Nat
  outboundMsgTx : Nat
  deriving DecidableEq

/-- What the socket scanner knows about one host socket. -/
structure SocketInfo where
  socketId : String
  hostPath : String
  containerPath : String
  deriving DecidableEq, Repr

/-- Top-level mutable state of the host daemon, protected by one lock. -/
structure HostState where
  containers : Map String ContainerState
  usedHostPorts : Map UInt16 String
  socketForwards : Map String SocketInfo

namespace HostState

def new : HostState :=
  { containers := ∅, usedHostPorts := ∅, socketForwards := ∅ }

/-- The loop of `findAvailablePort`. The result is absent while the loop has
not ended within `fuel` iterations. -/
def searchPort (used : Map UInt16 String) (preferred : UInt16) :
    Nat → UInt16 → Option (Option UInt16)
  | 0, _ => none
  | fuel + 1, port =>
      if port ∈ used then
        let next := port + 1
        -- skip privileged ports unless that was the user's preference
        let next := if next < 1024 ∧ next ≠ preferred then 1024 else next
        if next = preferred then some none else searchPort used preferred fuel next
      else
        some (some port)

/-- Iterations granted to a port search: one for each port number. -/
def portSearchFuel : Nat := 65536

/-- Find the next available host port starting from `preferred`. The outer
option is absent where the loop does not come to an end. -/
def findAvailablePort (s : HostState) (preferred : UInt16) : Option (Option UInt16) :=
  if preferred = 0 then some none else searchPort s.usedHostPorts preferred portSearchFuel preferred

/-- Find which container owns a container port forward: the first one in the
order in which the containers are enumerated. -/
def findContainerForPort (order : List (Σ _ : String, ContainerState)) (containerPort : UInt16) :
    Option String :=
  (order.find? fun entry => containerPort ∈ entry.2.forwards).map Sigma.fst

/-- Build the `ForwardInfo` list of a `ListResponse`, for one enumeration of
the containers and of each container's forwards. -/
def collectForwardInfo (order : List (Σ _ : String, ContainerState))
    (orderOf : String → List (Σ _ : UInt16, ForwardState)) : List ForwardInfo :=
  order.flatMap fun entry => (orderOf entry.1).map fun forward =>
    { containerId := entry.1
      hostname := entry.2.hostname
      port := forward.1
      hostPort := forward.2.hostPort
      protocol := .tcp
      processName := forward.2.processName
      pid := forward.2.pid
      since := forward.2.since }

/-- Build the `SocketForwardInfo` list of a `ListResponse`. -/
def collectSocketForwardInfo (order : List (Σ _ : String, SocketInfo)) : List SocketForwardInfo :=
  order.map fun entry =>
    { socketId := entry.2.socketId
      hostPath := entry.2.hostPath
      containerPath := entry.2.containerPath }

/-- The registration that currently owns a container id. -/
def registrationOf (s : HostState) (containerId : String) : Option Nat :=
  (s.containers.lookup containerId).map ContainerState.registrationId

/-- Free the host ports of a removed container's forwards. -/
def releaseForwards (s : HostState) (forwards : Forwards) : HostState :=
  { s with usedHostPorts := eraseEach (fun _ fstate => fstate.hostPort) forwards s.usedHostPorts }

def setContainer (s : HostState) (containerId : String) (cstate : ContainerState) : HostState :=
  { s with containers := s.containers.insert containerId cstate }

def removeContainer (s : HostState) (containerId : String) : HostState :=
  { s with containers := s.containers.erase containerId }

def reservePort (s : HostState) (hostPort : UInt16) (containerId : String) : HostState :=
  { s with usedHostPorts := s.usedHostPorts.insert hostPort containerId }

def releasePort (s : HostState) (hostPort : UInt16) : HostState :=
  { s with usedHostPorts := s.usedHostPorts.erase hostPort }

/-- First critical section of Register: the container limit, and the removal
of a stale registration together with the host ports of its forwards. Absent
when the limit rejects the registration. -/
def removeStale (s : HostState) (containerId : String) : Option (HostState × Option Forwards) :=
  match s.containers.lookup containerId with
  | none => if s.containers.keys.card ≥ maxContainers then none else some (s, none)
  | some cstate =>
      some ((s.removeContainer containerId).releaseForwards cstate.forwards, some cstate.forwards)

/-- The state of a container that has just been registered. -/
def newRegistration (hostname : String) (registrationId : Nat) : ContainerState :=
  { registrationId := registrationId
    hostname := hostname
    forwards := ∅
    connectRequestTx := registrationId
    outboundMsgTx := registrationId }

/-- Second critical section of Register. -/
def insertContainer (s : HostState) (containerId hostname : String) (registrationId : Nat) : HostState :=
  s.setContainer containerId (newRegistration hostname registrationId)

/-- Remove one forward of one container and free its host port. -/
def removeForward (s : HostState) (containerId : String) (port : UInt16) :
    HostState × Option ForwardState :=
  match s.containers.lookup containerId with
  | none => (s, none)
  | some cstate =>
      match cstate.forwards.lookup port with
      | none => (s, none)
      | some fstate =>
          ((s.setContainer containerId { cstate with forwards := cstate.forwards.erase port }).releasePort
            fstate.hostPort, some fstate)

/-- First critical section of `handle_forward`: the forward limit, and the
removal of an existing forward of the same port. Absent when the limit
rejects the forward. -/
def takeForward (s : HostState) (containerId : String) (port : UInt16) :
    Option (HostState × Option ForwardState) :=
  match s.containers.lookup containerId with
  | none => some (s, none)
  | some cstate =>
      if cstate.forwards.keys.card ≥ maxForwardsPerContainer ∧ port ∉ cstate.forwards then
        none
      else
        some (s.removeForward containerId port)

/-- Last critical section of `handle_forward`. The second component tells
whether the container was still there. -/
def insertForward (s : HostState) (containerId : String) (port targetPort : UInt16)
    (fstate : ForwardState) : HostState × Bool :=
  match s.containers.lookup containerId with
  | some cstate =>
      let s := s.setContainer containerId { cstate with forwards := cstate.forwards.insert port fstate }
      if fstate.hostPort ≠ targetPort then
        ((s.releasePort targetPort).reservePort fstate.hostPort containerId, true)
      else
        (s, true)
  | none => (s.releasePort fstate.hostPort, false)

/-- Critical section of `cleanup_container`. Absent when a newer registration
owns the state. -/
def takeContainer (s : HostState) (containerId : String) (expectedRegId : Nat) :
    Option (HostState × Forwards) :=
  match s.containers.lookup containerId with
  | none => none
  | some cstate =>
      if cstate.registrationId ≠ expectedRegId then
        none
      else
        some ((s.removeContainer containerId).releaseForwards cstate.forwards, cstate.forwards)

/-- Critical section of a socket scan that found changes. -/
def updateSockets (s : HostState) (newSockets removedSockets : List SocketInfo) : HostState :=
  let added := newSockets.foldl (fun m info => m.insert info.socketId info) s.socketForwards
  { s with socketForwards := removedSockets.foldl (fun m info => m.erase info.socketId) added }

end HostState
end DevcontainerBridge
