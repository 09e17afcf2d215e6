import DevcontainerBridge.Cli.Ensure
import DevcontainerBridge.Transition.Run

/-! The commands that start and stop the host daemon. Any number of `ensure`,
`stop` and `restart` processes, the daemons that they spawn and other programs
compete for the control port, cut at every await and every system call. -/
namespace DevcontainerBridge

open Transition

/-- A daemon process by where its `run` is. -/
inductive DaemonPhase where
  | unborn
  /-- up to the bind of the control port -/
  | starting
  /-- in its accept loop, with whether the shutdown signal is sent to it -/
  | serving (signalled : Bool)
  /-- behind its loop, where the port is still bound -/
  | draining
  | exited
  deriving DecidableEq, Repr

def DaemonPhase.listens : DaemonPhase → Bool
  | .serving _ | .draining => true
  | _ => false

structure DaemonProcess where
  phase : DaemonPhase
  /-- none where authentication is disabled -/
  authToken : Option String

/-- Whether a Shutdown with this token is obeyed. -/
def DaemonProcess.obeys (process : DaemonProcess) (token : String) : Bool :=
  HostConfig.accepts { HostConfig.basic with authToken := process.authToken } token

/-- What listens on the control port. -/
inductive Peer where
  | foreign
  | daemon (id : Nat)
  deriving DecidableEq, Repr

/-- A connection of a command. The system accepts it for a program that
listens, and its accept loop takes it from there. -/
structure Link where
  peer : Peer
  accepted : Bool
  /-- the message is dealt with, and a Ping is answered -/
  handled : Bool
  deriving DecidableEq, Repr

/-- Connections that a command makes. -/
inductive LaunchStage where
  | stop
  /-- whether a daemon is running already -/
  | check
  /-- whether the spawned daemon is ready -/
  | poll (pid : Nat)
  deriving DecidableEq, Repr

inductive LaunchKind where
  | ensure
  | stop
  | restart
  deriving DecidableEq, Repr

structure LaunchArgs where
  kind : LaunchKind
  /-- the token that `stop` and `restart` have resolved -/
  token : String

inductive LaunchPosition where
  | connecting (stage : LaunchStage)
  | sending (stage : LaunchStage) (link : Link)
  | waiting (stage : LaunchStage) (link : Link)
  | removingPid
  /-- the small delay for port release of `restart` -/
  | delaying
  /-- up to the spawn, where the token is resolved and the paths are looked up -/
  | securing
  | spawning (authToken : Option String)
  | recording (pid : Nat)
  | sleeping (pid : Nat)
  | finished (result : Except EnsureError Unit)

inductive LaunchInput where
  | connect (ok : Bool)
  | sent (ok : Bool)
  | pong
  /-- anything but a Pong: another message, an error or a timeout -/
  | silence
  | secured (outcome : Except EnsureError (Option String))
  | proceed (ok : Bool)
  | spawnFails (reason : String)
  | deadline

inductive LaunchAction where
  | command (id : Nat) (input : LaunchInput)
  /-- the accept loop of the daemon takes the connection of a command -/
  | accept (id : Nat)
  /-- the task of that connection deals with its message -/
  | handle (id : Nat)
  | bind (daemon : Nat)
  /-- the daemon leaves its accept loop, on the shutdown signal or another one -/
  | leave (daemon : Nat)
  | unrecord (daemon : Nat)
  | exit (daemon : Nat)
  | foreignBinds
  | foreignLeaves

structure Launch where
  /-- what the control port is bound by -/
  port : Option Peer
  daemons : Nat → DaemonProcess
  nextDaemon : Nat
  pidFile : Option Nat
  commands : Nat → LaunchPosition

/-- `SPAWN_TIMEOUT`, in seconds. -/
def spawnTimeout : Nat := 5

/-- The start of a command. -/
def LaunchKind.begin : LaunchKind → LaunchPosition
  | .ensure => .connecting .check
  | .stop | .restart => .connecting .stop

/-- The end of `run_stop`, whose result `restart` ignores. -/
def LaunchKind.stopped (kind : LaunchKind) (result : Except EnsureError Unit) : LaunchPosition :=
  match kind with
  | .stop => .finished result
  | _ => .delaying

/-- The way on where nobody listens. -/
def LaunchKind.refused (kind : LaunchKind) (controlPort : UInt16) : LaunchStage → LaunchPosition
  | .stop => kind.stopped (.error (.notRunning controlPort))
  | .check => .securing
  | .poll pid => .sleeping pid

/-- The way on where the message cannot be sent. -/
def LaunchKind.unsent (kind : LaunchKind) (controlPort : UInt16) : LaunchStage → LaunchPosition
  | .stop => kind.stopped (.error (.notRunning controlPort))
  | .check => .finished (.error (.portConflict controlPort))
  | .poll pid => .sleeping pid

/-- The way on where no Pong comes. -/
def LaunchKind.unanswered (controlPort : UInt16) : LaunchStage → LaunchPosition
  | .stop => .removingPid
  | .check => .finished (.error (.portConflict controlPort))
  | .poll pid => .sleeping pid

namespace LaunchPosition

def link : LaunchPosition → Option (LaunchStage × Link)
  | .sending stage link | .waiting stage link => some (stage, link)
  | _ => none

/-- The same position on another connection. -/
def withLink (link : Link) : LaunchPosition → LaunchPosition
  | .sending stage _ => .sending stage link
  | .waiting stage _ => .waiting stage link
  | position => position

end LaunchPosition

namespace Launch

def start (args : Nat → LaunchArgs) : Launch where
  port := none
  daemons := fun _ => { phase := .unborn, authToken := none }
  nextDaemon := 0
  pidFile := none
  commands := fun id => (args id).kind.begin

def setCommand (s : Launch) (id : Nat) (position : LaunchPosition) : Launch :=
  { s with commands := Function.update s.commands id position }

def setPhase (s : Launch) (daemon : Nat) (phase : DaemonPhase) : Launch :=
  { s with daemons := Function.update s.daemons daemon { s.daemons daemon with phase } }

/-- One step of a command. -/
def stepCommand (controlPort : UInt16) (kind : LaunchKind) (s : Launch) (id : Nat) (input : LaunchInput) :
    Option Launch :=
  match s.commands id, input with
  | .connecting stage, .connect true =>
      s.port.map fun peer => s.setCommand id (.sending stage { peer, accepted := false, handled := false })
  | .connecting stage, .connect false => some (s.setCommand id (kind.refused controlPort stage))
  | .sending stage link, .sent true => some (s.setCommand id (.waiting stage link))
  | .sending stage _, .sent false => some (s.setCommand id (kind.unsent controlPort stage))
  | .waiting stage link, .pong =>
      if link.handled = true ∧ stage ≠ .stop then some (s.setCommand id (.finished (.ok ()))) else none
  | .waiting stage _, .silence => some (s.setCommand id (LaunchKind.unanswered controlPort stage))
  | .removingPid, .proceed ok =>
      some ({ s with pidFile := if ok then none else s.pidFile }.setCommand id (kind.stopped (.ok ())))
  | .delaying, .proceed _ => some (s.setCommand id (.connecting .check))
  | .securing, .secured (.ok authToken) => some (s.setCommand id (.spawning authToken))
  | .securing, .secured (.error e) => some (s.setCommand id (.finished (.error e)))
  | .spawning authToken, .proceed _ =>
      some ({ s with
        daemons := Function.update s.daemons s.nextDaemon { phase := .starting, authToken }
        nextDaemon := s.nextDaemon + 1 }.setCommand id (.recording s.nextDaemon))
  | .spawning _, .spawnFails reason => some (s.setCommand id (.finished (.error (.spawnFailed reason))))
  | .recording pid, .proceed ok =>
      some ({ s with pidFile := if ok then some pid else s.pidFile }.setCommand id (.sleeping pid))
  | .sleeping pid, .proceed _ => some (s.setCommand id (.connecting (.poll pid)))
  | .sleeping _, .deadline => some (s.setCommand id (.finished (.error (.spawnTimeout spawnTimeout))))
  | _, _ => none

/-- The accept loop takes the connection of a command. -/
def stepAccept (s : Launch) (id : Nat) : Option Launch :=
  match (s.commands id).link with
  | some (_, { peer := .daemon daemon, accepted := false, handled }) =>
      match (s.daemons daemon).phase with
      | .serving _ => some (s.setCommand id ((s.commands id).withLink
          { peer := .daemon daemon, accepted := true, handled }))
      | _ => none
  | _ => none

/-- The first message of a connection is dealt with, by a task that goes on
while the daemon drains. -/
def stepHandle (token : String) (s : Launch) (id : Nat) : Option Launch :=
  match s.commands id with
  | .waiting stage { peer := .daemon daemon, accepted := true, handled := false } =>
      let after := s.setCommand id (.waiting stage { peer := .daemon daemon, accepted := true, handled := true })
      match (s.daemons daemon).phase with
      | .serving signalled =>
          let obeyed := stage == .stop && (s.daemons daemon).obeys token
          some (after.setPhase daemon (.serving (signalled || obeyed)))
      | .draining => some after
      | _ => none
  | _ => none

/-- One step of a command, of a daemon or of another program. -/
def step (controlPort : UInt16) (args : Nat → LaunchArgs) (s : Launch) : LaunchAction → Option Launch
  | .command id input => s.stepCommand controlPort (args id).kind id input
  | .accept id => s.stepAccept id
  | .handle id => s.stepHandle (args id).token id
  | .bind daemon =>
      if (s.daemons daemon).phase = .starting then
        match s.port with
        | none => some ({ s with port := some (.daemon daemon) }.setPhase daemon (.serving false))
        | some _ => some (s.setPhase daemon .exited)
      else
        none
  | .leave daemon =>
      match (s.daemons daemon).phase with
      | .serving _ => some (s.setPhase daemon .draining)
      | _ => none
  | .unrecord daemon =>
      if (s.daemons daemon).phase = .draining then some { s with pidFile := none } else none
  | .exit daemon =>
      match (s.daemons daemon).phase with
      | .unborn | .exited => none
      | .starting => some (s.setPhase daemon .exited)
      | .serving _ | .draining => some ({ s with port := none }.setPhase daemon .exited)
  | .foreignBinds => if s.port = none then some { s with port := some .foreign } else none
  | .foreignLeaves => if s.port = some .foreign then some { s with port := none } else none

end Launch

/-- Positions of `run_ensure` between two attempts to connect. -/
def LaunchPosition.ensuring : LaunchPosition → Bool
  | .connecting (.poll _) | .securing | .spawning _ | .recording _ | .sleeping _ | .finished (.error _) => true
  | _ => false

/-- What a command goes on to. -/
inductive CommandMove (controlPort : UInt16) (kind : LaunchKind) (port : Option Peer) :
    LaunchPosition → LaunchInput → LaunchPosition → Prop
  | connected {stage : LaunchStage} {peer : Peer} (hPort : port = some peer) : CommandMove controlPort kind port
      (.connecting stage) (.connect true) (.sending stage { peer, accepted := false, handled := false })
  | refused (stage : LaunchStage) :
      CommandMove controlPort kind port (.connecting stage) (.connect false) (kind.refused controlPort stage)
  | sent (stage : LaunchStage) (link : Link) :
      CommandMove controlPort kind port (.sending stage link) (.sent true) (.waiting stage link)
  | unsent (stage : LaunchStage) (link : Link) :
      CommandMove controlPort kind port (.sending stage link) (.sent false) (kind.unsent controlPort stage)
  | ponged {stage : LaunchStage} {link : Link} (hHandled : link.handled = true) (hStage : stage ≠ .stop) :
      CommandMove controlPort kind port (.waiting stage link) .pong (.finished (.ok ()))
  | silent (stage : LaunchStage) (link : Link) :
      CommandMove controlPort kind port (.waiting stage link) .silence (LaunchKind.unanswered controlPort stage)
  | removed (ok : Bool) :
      CommandMove controlPort kind port .removingPid (.proceed ok) (kind.stopped (.ok ()))
  | delayed (ok : Bool) : CommandMove controlPort kind port .delaying (.proceed ok) (.connecting .check)
  | onward {position next : LaunchPosition} (input : LaunchInput) (hPosition : position.ensuring = true)
      (hNext : next.ensuring = true) : CommandMove controlPort kind port position input next

variable {controlPort : UInt16} {args : Nat → LaunchArgs} {s s' : Launch} {id : Nat} {kind : LaunchKind}
  {input : LaunchInput} {action : LaunchAction}

namespace Launch

@[simp] theorem setCommand_daemons (position : LaunchPosition) : (s.setCommand id position).daemons = s.daemons := rfl

/-- A command moves on, and the daemon processes stay as they are but for one
that it may spawn. -/
structure CommandStep (controlPort : UInt16) (kind : LaunchKind) (s : Launch) (id : Nat) (input : LaunchInput)
    (s' : Launch) : Prop where
  moved : ∃ position, CommandMove controlPort kind s.port (s.commands id) input position ∧
    s'.commands = Function.update s.commands id position
  port : s'.port = s.port
  daemons : s'.daemons = s.daemons ∧ s'.nextDaemon = s.nextDaemon ∨ ∃ authToken,
    s'.daemons = Function.update s.daemons s.nextDaemon { phase := .starting, authToken } ∧
      s'.nextDaemon = s.nextDaemon + 1

theorem stepCommand_cases (h : s.stepCommand controlPort kind id input = some s') :
    CommandStep controlPort kind s id input s' := by
  unfold stepCommand at h
  split at h
  case h_1 stage hAt =>
    obtain ⟨peer, hPort, rfl⟩ := Option.map_eq_some_iff.mp h
    exact ⟨⟨_, hAt ▸ .connected hPort, rfl⟩, rfl, .inl ⟨rfl, rfl⟩⟩
  case h_2 stage hAt =>
    cases h
    exact ⟨⟨_, hAt ▸ .refused stage, rfl⟩, rfl, .inl ⟨rfl, rfl⟩⟩
  case h_3 stage link hAt =>
    cases h
    exact ⟨⟨_, hAt ▸ .sent stage link, rfl⟩, rfl, .inl ⟨rfl, rfl⟩⟩
  case h_4 stage link hAt =>
    cases h
    exact ⟨⟨_, hAt ▸ .unsent stage link, rfl⟩, rfl, .inl ⟨rfl, rfl⟩⟩
  case h_5 stage link hAt =>
    split_ifs at h with hPong
    cases h
    exact ⟨⟨_, hAt ▸ .ponged hPong.1 hPong.2, rfl⟩, rfl, .inl ⟨rfl, rfl⟩⟩
  case h_6 stage link hAt =>
    cases h
    exact ⟨⟨_, hAt ▸ .silent stage link, rfl⟩, rfl, .inl ⟨rfl, rfl⟩⟩
  case h_7 ok hAt =>
    cases h
    exact ⟨⟨_, hAt ▸ .removed ok, rfl⟩, rfl, .inl ⟨rfl, rfl⟩⟩
  case h_8 ok hAt =>
    cases h
    exact ⟨⟨_, hAt ▸ .delayed ok, rfl⟩, rfl, .inl ⟨rfl, rfl⟩⟩
  case h_11 authToken ok hAt =>
    cases h
    exact ⟨⟨_, hAt ▸ .onward _ rfl rfl, rfl⟩, rfl, .inr ⟨authToken, rfl, rfl⟩⟩
  case h_16 => cases h
  all_goals
    rename_i hAt
    cases h
    exact ⟨⟨_, hAt ▸ .onward _ rfl rfl, rfl⟩, rfl, .inl ⟨rfl, rfl⟩⟩

@[simp] theorem setPhase_authToken (daemon other : Nat) (phase : DaemonPhase) :
    ((s.setPhase daemon phase).daemons other).authToken = (s.daemons other).authToken := by
  by_cases h : other = daemon
  · subst h
    simp [setPhase]
  · simp [setPhase, Function.update_of_ne h]

@[simp] theorem setPhase_self (daemon : Nat) (phase : DaemonPhase) :
    ((s.setPhase daemon phase).daemons daemon).phase = phase := by
  simp [setPhase]

theorem setPhase_of_ne {daemon other : Nat} (h : other ≠ daemon) (phase : DaemonPhase) :
    (s.setPhase daemon phase).daemons other = s.daemons other := by
  simp [setPhase, Function.update_of_ne h]

/-- What a step does. -/
inductive StepCase (controlPort : UInt16) (args : Nat → LaunchArgs) (s : Launch) : LaunchAction → Launch → Prop
  | command {id : Nat} {input : LaunchInput} {s' : Launch}
      (h : CommandStep controlPort (args id).kind s id input s') :
      StepCase controlPort args s (.command id input) s'
  | accepted {id daemon : Nat} {stage : LaunchStage} {link : Link} {signalled : Bool}
      (hLink : (s.commands id).link = some (stage, link)) (hPeer : link.peer = .daemon daemon)
      (hPhase : (s.daemons daemon).phase = .serving signalled) : StepCase controlPort args s (.accept id)
        (s.setCommand id ((s.commands id).withLink { link with accepted := true }))
  | handled {id daemon : Nat} {stage : LaunchStage} {link : Link} {signalled : Bool}
      (hAt : s.commands id = .waiting stage link) (hPeer : link.peer = .daemon daemon) (hAccepted : link.accepted = true)
      (hPhase : (s.daemons daemon).phase = .serving signalled) : StepCase controlPort args s (.handle id)
        ((s.setCommand id (.waiting stage { link with handled := true })).setPhase daemon
          (.serving (signalled || (stage == .stop && (s.daemons daemon).obeys (args id).token))))
  | handledLate {id daemon : Nat} {stage : LaunchStage} {link : Link} (hAt : s.commands id = .waiting stage link)
      (hPeer : link.peer = .daemon daemon) (hAccepted : link.accepted = true)
      (hPhase : (s.daemons daemon).phase = .draining) : StepCase controlPort args s (.handle id)
        (s.setCommand id (.waiting stage { link with handled := true }))
  | bound {daemon : Nat} (hPhase : (s.daemons daemon).phase = .starting) (hPort : s.port = none) :
      StepCase controlPort args s (.bind daemon)
        ({ s with port := some (.daemon daemon) }.setPhase daemon (.serving false))
  | failed {daemon : Nat} (action : LaunchAction) (hPhase : (s.daemons daemon).phase = .starting) :
      StepCase controlPort args s action (s.setPhase daemon .exited)
  | left {daemon : Nat} {signalled : Bool} (hPhase : (s.daemons daemon).phase = .serving signalled) :
      StepCase controlPort args s (.leave daemon) (s.setPhase daemon .draining)
  | unrecorded (daemon : Nat) : StepCase controlPort args s (.unrecord daemon) { s with pidFile := none }
  | exited {daemon : Nat} (hPhase : (s.daemons daemon).phase.listens = true) :
      StepCase controlPort args s (.exit daemon) ({ s with port := none }.setPhase daemon .exited)
  | foreignBound (hPort : s.port = none) :
      StepCase controlPort args s .foreignBinds { s with port := some .foreign }
  | foreignLeft (hPort : s.port = some .foreign) : StepCase controlPort args s .foreignLeaves { s with port := none }

theorem stepAccept_cases (h : s.stepAccept id = some s') : StepCase controlPort args s (.accept id) s' := by
  unfold stepAccept at h
  split at h
  case h_1 stage daemon handled hLink =>
    split at h
    case h_1 signalled hPhase =>
      cases h
      exact .accepted hLink rfl hPhase
    case h_2 => cases h
  case h_2 => cases h

theorem stepHandle_cases (h : s.stepHandle (args id).token id = some s') :
    StepCase controlPort args s (.handle id) s' := by
  unfold stepHandle at h
  split at h
  case h_1 stage daemon hAt =>
    split at h
    case h_1 signalled hPhase =>
      cases h
      exact .handled hAt rfl rfl hPhase
    case h_2 hPhase =>
      cases h
      exact .handledLate hAt rfl rfl hPhase
    case h_3 => cases h
  case h_2 => cases h

theorem step_cases (h : step controlPort args s action = some s') : StepCase controlPort args s action s' := by
  cases action with
  | command id input => exact .command (stepCommand_cases h)
  | accept id => exact stepAccept_cases h
  | handle id => exact stepHandle_cases h
  | bind daemon =>
      simp only [step] at h
      split_ifs at h with hPhase
      split at h
      case h_1 hPort =>
        cases h
        exact .bound hPhase hPort
      case h_2 =>
        cases h
        exact .failed _ hPhase
  | leave daemon =>
      simp only [step] at h
      split at h
      case h_1 hPhase =>
        cases h
        exact .left hPhase
      case h_2 => cases h
  | unrecord daemon =>
      simp only [step] at h
      split_ifs at h with hPhase
      cases h
      exact .unrecorded daemon
  | exit daemon =>
      simp only [step] at h
      split at h
      case h_1 => cases h
      case h_2 => cases h
      case h_3 hPhase =>
        cases h
        exact .failed _ hPhase
      case h_4 hPhase =>
        cases h
        exact .exited (by rw [hPhase]; rfl)
      case h_5 hPhase =>
        cases h
        exact .exited (by rw [hPhase]; rfl)
  | foreignBinds =>
      simp only [step] at h
      split_ifs at h with hPort
      cases h
      exact .foreignBound hPort
  | foreignLeaves =>
      simp only [step] at h
      split_ifs at h with hPort
      cases h
      exact .foreignLeft hPort

/-- Daemons have numbers in the order of their spawns, and the one that listens
holds the port. -/
structure Sound (s : Launch) : Prop where
  unborn : ∀ daemon, s.nextDaemon ≤ daemon → (s.daemons daemon).phase = .unborn
  port : ∀ daemon, (s.daemons daemon).phase.listens = true ↔ s.port = some (.daemon daemon)

theorem start_sound : (start args).Sound where
  unborn := fun _ _ => rfl
  port := fun _ => by simp [start, DaemonPhase.listens]

/-- A daemon process that is there changes its phase. -/
theorem Sound.setPhase {daemon : Nat} {phase : DaemonPhase} {port : Option Peer} (h : s.Sound)
    (hBorn : (s.daemons daemon).phase ≠ .unborn) (hHere : phase.listens = true ↔ port = some (.daemon daemon))
    (hOthers : ∀ other, other ≠ daemon → (s.port = some (.daemon other) ↔ port = some (.daemon other))) :
    ({ s with port }.setPhase daemon phase).Sound where
  unborn := by
    intro other hOther
    by_cases hSame : other = daemon
    · subst hSame
      exact absurd (h.unborn other hOther) hBorn
    · rw [setPhase_of_ne hSame]
      exact h.unborn other hOther
  port := by
    intro other
    by_cases hSame : other = daemon
    · subst hSame
      rw [setPhase_self]
      exact hHere
    · rw [setPhase_of_ne hSame]
      exact (h.port other).trans (hOthers other hSame)

theorem born_of_listens {daemon : Nat} (h : (s.daemons daemon).phase.listens = true) :
    (s.daemons daemon).phase ≠ .unborn := by
  intro hPhase
  rw [hPhase] at h
  cases h

theorem Sound.command (h : s.Sound) (hStep : CommandStep controlPort kind s id input s') : s'.Sound := by
  rcases hStep.daemons with ⟨hDaemons, hNext⟩ | ⟨authToken, hDaemons, hNext⟩
  · refine ⟨fun daemon hDaemon => ?_, fun daemon => ?_⟩
    · rw [hDaemons]
      exact h.unborn daemon (hNext ▸ hDaemon)
    · rw [hDaemons, hStep.port]
      exact h.port daemon
  · refine ⟨fun daemon hDaemon => ?_, fun daemon => ?_⟩
    · rw [hDaemons, Function.update_of_ne (by omega)]
      exact h.unborn daemon (by omega)
    · rw [hDaemons, hStep.port]
      by_cases hSame : daemon = s.nextDaemon
      · subst hSame
        rw [Function.update_self, ← h.port, h.unborn _ (Nat.le_refl _)]
        rfl
      · rw [Function.update_of_ne hSame]
        exact h.port daemon

theorem Sound.step (h : s.Sound) (hStep : StepCase controlPort args s action s') : s'.Sound := by
  cases hStep with
  | command hCommand => exact h.command hCommand
  | accepted hLink hPeer hPhase => exact ⟨h.unborn, h.port⟩
  | @handled id daemon stage link signalled hAt hPeer hAccepted hPhase =>
      have hListens : (s.daemons daemon).phase.listens = true := by rw [hPhase]; rfl
      have hCommand : (s.setCommand id (.waiting stage { link with handled := true })).Sound := ⟨h.unborn, h.port⟩
      exact hCommand.setPhase (born_of_listens hListens) ⟨fun _ => (h.port daemon).mp hListens, fun _ => rfl⟩
        fun other _ => Iff.rfl
  | handledLate hAt hPeer hAccepted hPhase => exact ⟨h.unborn, h.port⟩
  | @bound daemon hPhase hPort =>
      refine h.setPhase (by rw [hPhase]; nofun) ⟨fun _ => rfl, fun _ => rfl⟩ fun other hOther => ?_
      rw [hPort]
      refine ⟨nofun, fun hSome => ?_⟩
      cases hSome
      exact absurd rfl hOther
  | @failed daemon action hPhase =>
      have hSilent : s.port ≠ some (.daemon daemon) := by
        rw [Ne, ← h.port, hPhase]
        nofun
      exact h.setPhase (by rw [hPhase]; nofun) ⟨nofun, fun hPort => absurd hPort hSilent⟩ fun other _ => Iff.rfl
  | @left daemon signalled hPhase =>
      have hListens : (s.daemons daemon).phase.listens = true := by rw [hPhase]; rfl
      exact h.setPhase (born_of_listens hListens) ⟨fun _ => (h.port daemon).mp hListens, fun _ => rfl⟩
        fun other _ => Iff.rfl
  | unrecorded daemon => exact ⟨h.unborn, h.port⟩
  | @exited daemon hListens =>
      refine h.setPhase (born_of_listens hListens) ⟨nofun, nofun⟩ fun other hOther => ?_
      rw [(h.port daemon).mp hListens]
      refine ⟨fun hSome => ?_, nofun⟩
      cases hSome
      exact absurd rfl hOther
  | foreignBound hPort =>
      refine ⟨h.unborn, fun daemon => ?_⟩
      rw [h.port, hPort]
      exact ⟨nofun, nofun⟩
  | foreignLeft hPort =>
      refine ⟨h.unborn, fun daemon => ?_⟩
      rw [h.port, hPort]
      exact ⟨nofun, nofun⟩

/-- A daemon serves because it did or because it has just bound the port, and a
signal that is sent stays sent. -/
theorem serving_of_step {daemon : Nat} {signalled : Bool} (hStep : StepCase controlPort args s action s')
    (h : (s'.daemons daemon).phase = .serving signalled) :
    action = .bind daemon ∨ ∃ before, (s.daemons daemon).phase = .serving before ∧
      (signalled = false → before = false) := by
  have kept (phase : DaemonPhase) {other : Nat} {s' : Launch} (hOther : ∀ now, phase ≠ .serving now)
      (hDaemons : s'.daemons = (s.setPhase other phase).daemons) (h : (s'.daemons daemon).phase = .serving signalled) :
      ∃ before, (s.daemons daemon).phase = .serving before ∧ (signalled = false → before = false) := by
    rw [hDaemons] at h
    by_cases hSame : daemon = other
    · subst hSame
      rw [setPhase_self] at h
      exact absurd h (hOther signalled)
    · rw [setPhase_of_ne hSame] at h
      exact ⟨signalled, h, id⟩
  cases hStep with
  | command hCommand =>
      rcases hCommand.daemons with ⟨hDaemons, -⟩ | ⟨authToken, hDaemons, -⟩
      · exact .inr ⟨signalled, hDaemons ▸ h, id⟩
      · rw [hDaemons] at h
        by_cases hSame : daemon = s.nextDaemon
        · subst hSame
          rw [Function.update_self] at h
          cases h
        · rw [Function.update_of_ne hSame] at h
          exact .inr ⟨signalled, h, id⟩
  | accepted hLink hPeer hPhase => exact .inr ⟨signalled, h, id⟩
  | @handled id other stage link before hAt hPeer hAccepted hPhase =>
      by_cases hSame : daemon = other
      · subst hSame
        rw [setPhase_self] at h
        cases h
        refine .inr ⟨before, hPhase, fun hFalse => ?_⟩
        rw [Bool.or_eq_false_iff] at hFalse
        exact hFalse.1
      · rw [setPhase_of_ne hSame] at h
        exact .inr ⟨signalled, h, fun hFalse => hFalse⟩
  | handledLate hAt hPeer hAccepted hPhase => exact .inr ⟨signalled, h, id⟩
  | @bound other hPhase hPort =>
      by_cases hSame : daemon = other
      · subst hSame
        exact .inl rfl
      · rw [setPhase_of_ne hSame] at h
        exact .inr ⟨signalled, h, id⟩
  | failed hPhase => exact .inr (kept .exited nofun rfl h)
  | left hPhase => exact .inr (kept .draining nofun rfl h)
  | unrecorded other => exact .inr ⟨signalled, h, id⟩
  | exited hListens => exact .inr (kept .exited nofun rfl h)
  | foreignBound hPort => exact .inr ⟨signalled, h, id⟩
  | foreignLeft hPort => exact .inr ⟨signalled, h, id⟩

/-- A daemon process keeps its token. -/
theorem Sound.obeys_step {daemon : Nat} (h : s.Sound) (hStep : StepCase controlPort args s action s')
    (hBorn : (s.daemons daemon).phase ≠ .unborn) (token : String) :
    (s'.daemons daemon).obeys token = (s.daemons daemon).obeys token := by
  have hToken : (s'.daemons daemon).authToken = (s.daemons daemon).authToken := by
    cases hStep with
    | command hCommand =>
        rcases hCommand.daemons with ⟨hDaemons, -⟩ | ⟨authToken, hDaemons, -⟩
        · rw [hDaemons]
        · have hOther : daemon ≠ s.nextDaemon := by
            rintro rfl
            exact hBorn (h.unborn _ (Nat.le_refl _))
          rw [hDaemons, Function.update_of_ne hOther]
    | _ => simp
  rw [DaemonProcess.obeys, hToken, ← DaemonProcess.obeys]

/-- What a step does to the command that it belongs to. -/
inductive TurnCase (controlPort : UInt16) (args : Nat → LaunchArgs) (s s' : Launch) (id : Nat) :
    LaunchAction → LaunchPosition → Prop
  | moved {input : LaunchInput} {position : LaunchPosition}
      (hMove : CommandMove controlPort (args id).kind s.port (s.commands id) input position) :
      TurnCase controlPort args s s' id (.command id input) position
  | accepted {daemon : Nat} {stage : LaunchStage} {link : Link} {signalled : Bool}
      (hLink : (s.commands id).link = some (stage, link)) (hPeer : link.peer = .daemon daemon)
      (hPhase : (s.daemons daemon).phase = .serving signalled) :
      TurnCase controlPort args s s' id (.accept id) ((s.commands id).withLink { link with accepted := true })
  | handled {daemon : Nat} {stage : LaunchStage} {link : Link} (hAt : s.commands id = .waiting stage link)
      (hPeer : link.peer = .daemon daemon) (hAccepted : link.accepted = true)
      (hSignal : stage = .stop → (s'.daemons daemon).phase = .serving false →
        (s.daemons daemon).obeys (args id).token = false) :
      TurnCase controlPort args s s' id (.handle id) (.waiting stage { link with handled := true })

theorem turn_of_step (hStep : StepCase controlPort args s action s') (id : Nat) :
    s'.commands id = s.commands id ∨ TurnCase controlPort args s s' id action (s'.commands id) := by
  have turned {other : Nat} {position : LaunchPosition}
      (hCommands : s'.commands = Function.update s.commands other position)
      (hTurn : other = id → TurnCase controlPort args s s' id action position) :
      s'.commands id = s.commands id ∨ TurnCase controlPort args s s' id action (s'.commands id) := by
    rw [hCommands]
    by_cases hSame : other = id
    · have hTurn := hTurn hSame
      subst hSame
      rw [Function.update_self]
      exact .inr hTurn
    · rw [Function.update_of_ne (Ne.symm hSame)]
      exact .inl rfl
  cases hStep with
  | command hCommand =>
      obtain ⟨position, hMove, hCommands⟩ := hCommand.moved
      refine turned hCommands ?_
      rintro rfl
      exact .moved hMove
  | accepted hLink hPeer hPhase =>
      refine turned rfl ?_
      rintro rfl
      exact .accepted hLink hPeer hPhase
  | handled hAt hPeer hAccepted hPhase =>
      refine turned rfl ?_
      rintro rfl
      refine .handled hAt hPeer hAccepted fun hStop hServing => ?_
      subst hStop
      rw [setPhase_self, DaemonPhase.serving.injEq, Bool.or_eq_false_iff] at hServing
      exact hServing.2
  | handledLate hAt hPeer hAccepted hPhase =>
      refine turned rfl ?_
      rintro rfl
      refine .handled hAt hPeer hAccepted fun _ hServing => ?_
      rw [setCommand_daemons, hPhase] at hServing
      cases hServing
  | _ => exact .inl rfl

end Launch

end DevcontainerBridge
