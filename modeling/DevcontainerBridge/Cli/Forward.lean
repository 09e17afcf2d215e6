import DevcontainerBridge.Socket.Broadcast

/-! The command `dbr forward`. Any number of them run against one host daemon.
Each has a control connection of its own, and the task of the host that serves
it goes by the same number. -/
namespace DevcontainerBridge

open Table Transition

/-- The container id and the hostname of `register_cli_client`. -/
def cliContainerId : String := "cli-manual"

def cliHostname : String := "cli"

/-- What `run_forward` is given. -/
structure ForwardArgs where
  addr : String
  port : UInt16
  authToken : String

/-- What ends `run_forward` with an error. A response that was not expected is
printed into the text of a `connection` error; it is kept as it is here. -/
inductive CliError where
  | connection (reason : String)
  | unexpectedResponse (other : Message)
  | control
  | registrationRejected
  deriving DecidableEq, Repr

/-- Where `run_forward` waits. From `forwarding` on it has printed the host
port of the forward. -/
inductive ForwardPosition where
  | connecting
  /-- there is no connection -/
  | refused (error : CliError)
  | sendingRegister
  | awaitingRegisterAck
  | sendingForward
  | awaitingForwardAck
  | forwarding (hostPort : UInt16)
  | replying (hostPort : UInt16) (message : Message)
  | stopping (hostPort : UInt16)
  | finished
  | failed (error : CliError)
  /-- ended by a signal other than the Ctrl-C that the loop waits for -/
  | killed
  deriving DecidableEq

inductive CliInput where
  | connected (ok : Bool)
  | sent (ok : Bool)
  | receive (message : Message)
  | fail
  | ctrlC
  | kill

namespace ForwardPosition

/-- The message that is being sent. -/
def outgoing (args : ForwardArgs) : ForwardPosition → Option Message
  | .sendingRegister => some (.register cliContainerId cliHostname args.authToken)
  | .sendingForward => some (.forward args.port .tcp none none)
  | .replying _ message => some message
  | .stopping _ => some (.unforward args.port)
  | _ => none

/-- The answer to the first message of `register_cli_client`. -/
def onRegisterAck : Message → ForwardPosition
  | .registerAck true => .sendingForward
  | _ => .failed .registrationRejected

/-- The answer to the Forward, whatever message comes next. -/
def onForwardAck (args : ForwardArgs) : Message → ForwardPosition
  | .forwardAck _ true hostPort => .forwarding hostPort
  | .forwardAck _ false _ =>
      .failed (.connection ("host daemon failed to forward port " ++ toString args.port.toNat))
  | other => .failed (.unexpectedResponse other)

/-- A message in the loop that keeps the connection alive. -/
def onMessage (hostPort : UInt16) : Message → ForwardPosition
  | .ping => .replying hostPort .pong
  | .connectRequest _ connId =>
      .replying hostPort (.connectFailed connId "manual forward does not support proxying")
  | _ => .forwarding hostPort

/-- One step of `run_forward`. -/
def step (args : ForwardArgs) : ForwardPosition → CliInput → Option ForwardPosition
  | .connecting, .connected ok =>
      some (if ok then .sendingRegister
        else .refused (.connection ("could not connect to host daemon at " ++ args.addr
          ++ ". Is it running? Try `dbr ensure` first.")))
  | .sendingRegister, .sent ok => some (if ok then .awaitingRegisterAck else .failed .control)
  | .awaitingRegisterAck, .receive message => some (onRegisterAck message)
  | .awaitingRegisterAck, .fail => some (.failed .control)
  | .sendingForward, .sent ok => some (if ok then .awaitingForwardAck else .failed .control)
  | .awaitingForwardAck, .receive message => some (onForwardAck args message)
  | .awaitingForwardAck, .fail => some (.failed .control)
  | .forwarding hostPort, .receive message => some (onMessage hostPort message)
  | .forwarding _, .fail => some (.failed (.connection "lost connection to host daemon"))
  | .forwarding hostPort, .ctrlC => some (.stopping hostPort)
  | .replying hostPort _, .sent _ => some (.forwarding hostPort)
  | .stopping _, .sent _ => some .finished
  | .connecting, _ | .refused _, _ | .finished, _ | .failed _, _ | .killed, _ => none
  | _, .kill => some .killed
  | _, _ => none

/-- A connection has been made. -/
def isConnected : ForwardPosition → Bool
  | .connecting | .refused _ => false
  | _ => true

/-- The host port that is printed as forwarded. -/
def announced : ForwardPosition → Option UInt16
  | .forwarding hostPort => some hostPort
  | _ => none

end ForwardPosition

/-- A `run_forward` process and its connection. -/
structure ForwardClient where
  position : ForwardPosition
  /-- the host port that it has reported as forwarded -/
  reported : Option UInt16
  toHost : List Message
  toClient : List Message
  /-- all that the host has written, read or not -/
  written : List Message

namespace ForwardClient

def start : ForwardClient where
  position := .connecting
  reported := none
  toHost := []
  toClient := []
  written := []

def moveTo (c : ForwardClient) (position : ForwardPosition) : ForwardClient :=
  { c with position := position, reported := position.announced <|> c.reported }

/-- The host writes to the connection. -/
def hear (c : ForwardClient) (messages : List Message) : ForwardClient :=
  { c with toClient := c.toClient ++ messages, written := c.written ++ messages }

/-- A step of the process. It reads what has been written before it finds that
the connection is lost. -/
def step (args : ForwardArgs) (c : ForwardClient) (input : CliInput) : Option ForwardClient :=
  match input, c.toClient with
  | .receive message, first :: rest =>
      if message = first then
        (c.position.step args input).map fun position => { c.moveTo position with toClient := rest }
      else
        none
  | .receive _, [] => none
  | .fail, _ :: _ => none
  | .sent true, _ =>
      (c.position.step args input).map fun position =>
        { c.moveTo position with toHost := c.toHost ++ (c.position.outgoing args).toList }
  | _, _ => (c.position.step args input).map c.moveTo

/-- What is left to read of the host's side after an input of its task. -/
def unread (c : ForwardClient) : Input → Option ForwardClient
  | .receive message =>
      match c.toHost with
      | [] => none
      | first :: rest => if message = first then some { c with toHost := rest } else none
  | _ => some c

end ForwardClient

/-- The answer that a task is about to send on its control connection. -/
def Handler.reply : Handler → Option Message
  | .replying message => some message
  | .registerAck .. => some (.registerAck true)
  | .forwardAck _ _ port result => some (.forwardAck port result.isSome (result.getD 0))
  | .sendPong .. => some .pong
  | _ => none

/-- What a step of a task writes to its control connection. Messages about
sockets are left to the steps `replay` and `flush`. -/
def Handler.writes (ctx : DaemonContext) (handler : Handler) (input : Input) : List Message :=
  match handler, input with
  | .serving _ registrationId, .flushRequest true =>
      ((ctx.proxy.connectRequests registrationId).take 1).map fun request =>
        .connectRequest request.port request.connId
  | _, .sent true => handler.reply.toList
  | _, _ => []

/-- The host daemon with the forward commands that are connected to it. -/
structure Fleet where
  daemon : Daemon
  clients : Nat → ForwardClient

inductive FleetAction where
  /-- a process connects to the control port -/
  | connect (id : Nat)
  | client (id : Nat) (input : CliInput)
  /-- a step of the task that serves a process -/
  | host (id : Nat) (input : Input)
  /-- the replay after Register in some order; a send may fail and the others go on -/
  | replay (id : Nat) (order : List (Σ _ : String, SocketInfo)) (sent : String → Bool)
  /-- the next message of the outbound queue -/
  | flush (id : Nat) (sent : Bool)
  /-- a heartbeat -/
  | heartbeat (id : Nat)
  /-- a step of the daemon that has nothing to do with these connections -/
  | other (action : Action)

/-- The process that an action is about. -/
def FleetAction.process? : FleetAction → Option Nat
  | .connect id | .client id _ | .host id _ | .replay id _ _ | .flush id _ | .heartbeat id => some id
  | .other _ => none

/-- What the daemon does in a step of the fleet. -/
def FleetAction.daemonAction : FleetAction → Option Action
  | .connect id => some (.task id .connect)
  | .host id input => some (.task id input)
  | .replay id _ _ => some (.task id .proceed)
  | .flush id _ => some (.task id .flushMessage)
  | .other action => some action
  | .client .. | .heartbeat _ => none

namespace Fleet

def start (cfg : HostConfig) : Fleet where
  daemon := Daemon.start cfg
  clients := fun _ => .start

def setClient (f : Fleet) (id : Nat) (c : ForwardClient) : Fleet :=
  { f with clients := Function.update f.clients id c }

/-- The task serves the connection of a process. -/
def serves (f : Fleet) (id : Nat) : Bool :=
  (f.clients id).position.isConnected

def step (cfg : HostConfig) (args : Nat → ForwardArgs) (f : Fleet) : FleetAction → Option Fleet
  | .connect id =>
      match f.daemon.tasks id with
      | .idle =>
          ((f.clients id).step (args id) (.connected true)).bind fun c =>
            (Daemon.step cfg f.daemon (.task id .connect)).map fun daemon =>
              { f with daemon := daemon }.setClient id c
      | _ => none
  | .client id input =>
      match input with
      | .connected true => none
      | _ => ((f.clients id).step (args id) input).map (f.setClient id)
  | .host id input =>
      if f.serves id && !f.daemon.writesSockets (.task id input) then
        ((f.clients id).unread input).bind fun c =>
          (Daemon.step cfg f.daemon (.task id input)).map fun daemon =>
            { f with daemon := daemon }.setClient id
              (c.hear ((f.daemon.tasks id).writes f.daemon.ctx input))
      else
        none
  | .replay id order sent =>
      match f.daemon.tasks id with
      | .registerReplay .. =>
          if f.serves id ∧ Enumerates order f.daemon.ctx.state.socketForwards then
            (Daemon.step cfg f.daemon (.task id .proceed)).map fun daemon =>
              { f with daemon := daemon }.setClient id ((f.clients id).hear (replayMessages order sent))
          else
            none
      | _ => none
  | .flush id sent =>
      match f.daemon.tasks id with
      | .serving _ registrationId =>
          if f.serves id then
            (Daemon.step cfg f.daemon (.task id .flushMessage)).map fun daemon =>
              { f with daemon := daemon }.setClient id ((f.clients id).hear
                (if sent then (f.daemon.ctx.proxy.outboundMessages registrationId).take 1 else []))
          else
            none
      | _ => none
  | .heartbeat id =>
      match f.daemon.tasks id with
      | .serving .. =>
          if f.serves id && f.daemon.running then some (f.setClient id ((f.clients id).hear [.ping]))
          else none
      | _ => none
  | .other action =>
      if action.task?.all fun id => !f.serves id then
        (Daemon.step cfg f.daemon action).map fun daemon => { f with daemon := daemon }
      else
        none

@[simp] theorem setClient_self (f : Fleet) (id : Nat) (c : ForwardClient) : (f.setClient id c).clients id = c :=
  Function.update_self ..

theorem setClient_of_ne (f : Fleet) (c : ForwardClient) {id other : Nat} (h : other ≠ id) :
    (f.setClient id c).clients other = f.clients other :=
  Function.update_of_ne h ..

end Fleet

/-- What one step of the fleet does. -/
inductive FleetStep (cfg : HostConfig) (args : Nat → ForwardArgs) (f : Fleet) : FleetAction → Fleet → Prop where
  | connect {id : Nat} {c : ForwardClient} {daemon : Daemon} (hIdle : f.daemon.tasks id = .idle)
      (hClient : (f.clients id).step (args id) (.connected true) = some c)
      (hTask : Daemon.step cfg f.daemon (.task id .connect) = some daemon) :
      FleetStep cfg args f (.connect id) ({ f with daemon := daemon }.setClient id c)
  | client {id : Nat} {input : CliInput} {c : ForwardClient} (hInput : input ≠ .connected true)
      (hClient : (f.clients id).step (args id) input = some c) :
      FleetStep cfg args f (.client id input) (f.setClient id c)
  | host {id : Nat} {input : Input} {c : ForwardClient} {daemon : Daemon} (hServes : f.serves id = true)
      (hUnread : (f.clients id).unread input = some c)
      (hTask : Daemon.step cfg f.daemon (.task id input) = some daemon) :
      FleetStep cfg args f (.host id input)
        ({ f with daemon := daemon }.setClient id (c.hear ((f.daemon.tasks id).writes f.daemon.ctx input)))
  | replay {id : Nat} {order : List (Σ _ : String, SocketInfo)} {sent : String → Bool} {daemon : Daemon}
      {containerId : String} {registrationId : Nat} (hServes : f.serves id = true)
      (hReplay : f.daemon.tasks id = .registerReplay containerId registrationId)
      (hTask : Daemon.step cfg f.daemon (.task id .proceed) = some daemon) :
      FleetStep cfg args f (.replay id order sent)
        ({ f with daemon := daemon }.setClient id ((f.clients id).hear (replayMessages order sent)))
  | flush {id : Nat} {sent : Bool} {daemon : Daemon} {containerId : String} {registrationId : Nat}
      (hServes : f.serves id = true) (hServing : f.daemon.tasks id = .serving containerId registrationId)
      (hTask : Daemon.step cfg f.daemon (.task id .flushMessage) = some daemon) :
      FleetStep cfg args f (.flush id sent) ({ f with daemon := daemon }.setClient id ((f.clients id).hear
        (if sent then (f.daemon.ctx.proxy.outboundMessages registrationId).take 1 else [])))
  | heartbeat {id : Nat} {containerId : String} {registrationId : Nat} (hServes : f.serves id = true)
      (hServing : f.daemon.tasks id = .serving containerId registrationId) :
      FleetStep cfg args f (.heartbeat id) (f.setClient id ((f.clients id).hear [.ping]))
  | other {action : Action} {daemon : Daemon} (hApart : action.task?.all (fun id => !f.serves id) = true)
      (hTask : Daemon.step cfg f.daemon action = some daemon) :
      FleetStep cfg args f (.other action) { f with daemon := daemon }

namespace Fleet

variable {cfg : HostConfig} {args : Nat → ForwardArgs} {f f' : Fleet} {action : FleetAction}

theorem step_cases (h : f.step cfg args action = some f') : FleetStep cfg args f action f' := by
  unfold step at h
  split at h
  case h_1 id =>
    split at h
    case h_2 => cases h
    case h_1 hIdle =>
      obtain ⟨c, hClient, hDaemon⟩ := Option.bind_eq_some_iff.mp h
      obtain ⟨daemon, hTask, rfl⟩ := Option.map_eq_some_iff.mp hDaemon
      exact .connect hIdle hClient hTask
  case h_2 id input =>
    split at h
    case h_1 => cases h
    case h_2 hInput =>
      obtain ⟨c, hClient, rfl⟩ := Option.map_eq_some_iff.mp h
      exact .client hInput hClient
  case h_3 id input =>
    split_ifs at h with hGuard
    obtain ⟨c, hUnread, hDaemon⟩ := Option.bind_eq_some_iff.mp h
    obtain ⟨daemon, hTask, rfl⟩ := Option.map_eq_some_iff.mp hDaemon
    exact .host (Bool.and_eq_true_iff.mp hGuard).1 hUnread hTask
  case h_4 id order sent =>
    split at h
    case h_2 => cases h
    case h_1 hReplay =>
      split_ifs at h with hGuard
      obtain ⟨daemon, hTask, rfl⟩ := Option.map_eq_some_iff.mp h
      exact .replay hGuard.1 hReplay hTask
  case h_5 id sent =>
    split at h
    case h_2 => cases h
    case h_1 hServing =>
      split at h
      case isTrue hServes =>
        obtain ⟨daemon, hTask, rfl⟩ := Option.map_eq_some_iff.mp h
        exact .flush hServes hServing hTask
      case isFalse => cases h
  case h_6 id =>
    split at h
    case h_2 => cases h
    case h_1 hServing =>
      split_ifs at h with hGuard
      cases h
      exact .heartbeat (Bool.and_eq_true_iff.mp hGuard).1 hServing
  case h_7 action =>
    split_ifs at h with hApart
    obtain ⟨daemon, hTask, rfl⟩ := Option.map_eq_some_iff.mp h
    exact .other hApart hTask

/-- A step of the fleet is one of the daemon, or the daemon rests. -/
theorem step_daemon (h : f.step cfg args action = some f') :
    f'.daemon = f.daemon ∨
      ∃ act, action.daemonAction = some act ∧ Daemon.step cfg f.daemon act = some f'.daemon := by
  cases step_cases h with
  | connect _ _ hTask => exact .inr ⟨_, rfl, hTask⟩
  | client => exact .inl rfl
  | host _ _ hTask => exact .inr ⟨_, rfl, hTask⟩
  | replay _ _ hTask => exact .inr ⟨_, rfl, hTask⟩
  | flush _ _ hTask => exact .inr ⟨_, rfl, hTask⟩
  | heartbeat => exact .inl rfl
  | other _ hTask => exact .inr ⟨_, rfl, hTask⟩

/-- A step about one process leaves the others alone. -/
theorem step_clients (h : f.step cfg args action = some f') {id : Nat} (hOther : action.process? ≠ some id) :
    f'.clients id = f.clients id := by
  have ne : ∀ {other : Nat}, some other ≠ some id → id ≠ other := fun hNe hSame => hNe (congrArg some hSame.symm)
  cases step_cases h with
  | connect => exact setClient_of_ne _ _ (ne hOther)
  | client => exact setClient_of_ne _ _ (ne hOther)
  | host => exact setClient_of_ne _ _ (ne hOther)
  | replay => exact setClient_of_ne _ _ (ne hOther)
  | flush => exact setClient_of_ne _ _ (ne hOther)
  | heartbeat => exact setClient_of_ne _ _ (ne hOther)
  | other => rfl

end Fleet
end DevcontainerBridge
