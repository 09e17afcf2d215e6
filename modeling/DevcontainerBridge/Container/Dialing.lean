import DevcontainerBridge.Container.Session

/-! The tasks of a container that open data connections to the host: the
handlers of ConnectRequests, and the handlers of clients of mirror sockets. -/
namespace DevcontainerBridge

/-- The loopback address on which the local service has answered. -/
inductive LocalAddr where
  | ipv4
  | ipv6
  deriving DecidableEq, Repr

/-- I/O errors are known by their texts. -/
inductive DataError where
  | localConnect (port : UInt16) (source : String)
  | hostConnect (addr source : String)
  | handshake (source : String)
  | bridge (source : String)
  deriving DecidableEq, Repr

/-- The text that ConnectFailed carries. -/
def DataError.text : DataError → String
  | .localConnect port source => "failed to connect to local port " ++ toString port ++ ": " ++ source
  | .hostConnect addr source => "failed to connect to host data port " ++ addr ++ ": " ++ source
  | .handshake source => "failed to send ConnectReady handshake: " ++ source
  | .bridge source => "bridge I/O error: " ++ source

/-- How a connection attempt ends. -/
inductive Attempt where
  | connected
  | failed (error : String)
  | timedOut
  deriving DecidableEq, Repr

/-- What the environment of a dialling task supplies to a step. -/
inductive DialInput where
  | attempt (result : Attempt)
  /-- the handshake line is written and flushed -/
  | sent (result : Except String Unit)
  | copied (result : Except String Unit)
  /-- the relay channel takes the message, or is closed -/
  | relayed (ok : Bool)
  /-- the session loop confirms the message, or drops the confirmation -/
  | acked (ok : Bool)
  deriving DecidableEq

/-- The task of `spawn_connect_handler` by where it waits. -/
inductive Connecting where
  | ipv4
  | ipv6 (ipv4Err : String)
  | hostConnect (addr : LocalAddr)
  | handshake (addr : LocalAddr)
  | bridging (addr : LocalAddr)
  /-- `handle_connect_request` has failed and ConnectFailed is to be relayed -/
  | failing (error : DataError)
  | finished (result : Except DataError Unit)
  deriving DecidableEq

/-- `handle_connect_request`, and what `spawn_connect_handler` does after it. -/
def Connecting.step (port : UInt16) (hostDataAddr : String) : Connecting → DialInput → Option Connecting
  | .ipv4, .attempt result =>
      some (match result with
        | .connected => .hostConnect .ipv4
        | .failed ipv4Err => .ipv6 ipv4Err
        | .timedOut => .failing (.localConnect port "IPv4 connect timed out"))
  | .ipv6 ipv4Err, .attempt result =>
      some (match result with
        | .connected => .hostConnect .ipv6
        | .failed ipv6Err =>
            .failing (.localConnect port ("IPv4: " ++ ipv4Err ++ ", IPv6: " ++ ipv6Err))
        | .timedOut => .failing (.localConnect port "IPv6 connect timed out"))
  | .hostConnect addr, .attempt result =>
      some (match result with
        | .connected => .handshake addr
        | .failed error => .failing (.hostConnect hostDataAddr error)
        | .timedOut => .failing (.hostConnect hostDataAddr "host data port connect timed out"))
  | .handshake addr, .sent result =>
      some (match result with
        | .ok () => .bridging addr
        | .error error => .failing (.handshake error))
  | .bridging _, .copied result =>
      some (match result with
        | .ok () => .finished (.ok ())
        | .error error => .failing (.bridge error))
  -- a relay channel that is closed is not reported any further
  | .failing error, .relayed _ => some (.finished (.error error))
  | _, _ => none

/-- The local service has accepted and the data connection is open, or was. -/
def Connecting.hasDialled : Connecting → Bool
  | .handshake _ | .bridging _ | .finished (.ok ()) => true
  | .failing error | .finished (.error error) =>
      match error with
      | .handshake _ | .bridge _ => true
      | _ => false
  | _ => false

/-- `handle_socket_client` by where it waits. -/
inductive Mirroring where
  | requesting
  | awaitingAck
  | hostConnect
  | handshake
  | bridging
  | finished
  deriving DecidableEq, Repr

/-- `handle_socket_client`. Its connection attempt has no timeout. -/
def Mirroring.step : Mirroring → DialInput → Option Mirroring
  | .requesting, .relayed ok => some (if ok then .awaitingAck else .finished)
  | .awaitingAck, .acked ok => some (if ok then .hostConnect else .finished)
  | .hostConnect, .attempt result =>
      match result with
      | .connected => some .handshake
      | .failed _ => some .finished
      | .timedOut => none
  | .handshake, .sent result =>
      some (match result with
        | .ok () => .bridging
        | .error _ => .finished)
  | .bridging, .copied _ => some .finished
  | _, _ => none

/-- What a dialling task is for. -/
inductive Dialer where
  | connect (port : UInt16) (position : Connecting)
  | mirror (socketId : String) (position : Mirroring)
  deriving DecidableEq

/-- A dialling task of the session of one registration. -/
structure DialTask where
  registration : Nat
  connId : String
  dialer : Dialer
  deriving DecidableEq

namespace Dialer

def step (hostDataAddr : String) (dialer : Dialer) (input : DialInput) : Option Dialer :=
  match dialer with
  | .connect port position => (position.step port hostDataAddr input).map (.connect port)
  | .mirror socketId position => (position.step input).map (.mirror socketId)

/-- The task is connecting to the data port of the host. -/
def dials : Dialer → Bool
  | .connect _ (.hostConnect _) | .mirror _ .hostConnect => true
  | _ => false

/-- The message that the task has for the session loop. -/
def relay (connId : String) : Dialer → Option RelayMessage
  | .connect _ (.failing error) => some (.connectFailed connId error.text)
  | .mirror socketId .requesting => some (.socketConnectRequest socketId connId)
  | _ => none

end Dialer
end DevcontainerBridge
