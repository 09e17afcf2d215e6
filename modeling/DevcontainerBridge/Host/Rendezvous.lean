import DevcontainerBridge.Host.Tickets

/-! A socket connection. Its request arrives on the control connection and its
data on a connection of its own, in either order. The daemon runs with a clock
here, and what happens to one conn_id is recorded. -/
namespace DevcontainerBridge

open Table Transition

/-- Grace period of a data connection that comes before its request, in
milliseconds. -/
def earlyDataGracePeriod : Nat := 1000

/-- How long a bridge waits for its data connection, in milliseconds. -/
def connectTimeout : Nat := 10000

/-- The timer that a step of a task starts. -/
def Handler.timer : Handler → Handler → Option Nat
  | .proxy .handshake, .proxy (.resolving _) => some earlyDataGracePeriod
  | .idle, .proxy (.socketBridge ..) => some connectTimeout
  | _, _ => none

structure Rendezvous where
  daemon : Daemon
  now : Nat
  deadline : Nat → Nat
  /-- the last lookup of the data connection has found nothing, and its
  deadline has not been compared with the clock since -/
  missed : Nat → Bool
  /-- a SocketConnectRequest with the conn_id has been received -/
  asked : Bool
  /-- the receiver of its pending entry -/
  registered : Option Nat
  /-- its host socket has been reached -/
  accepted : Bool
  /-- the task that has received ConnectReady with the conn_id -/
  arrived : Option Nat
  /-- what has become of the data: delivered to a receiver, or dropped -/
  outcome : Option (Option Nat)
  /-- the bridge has given up -/
  expired : Bool

inductive RendezvousAction where
  | tick (elapsed : Nat)
  /-- the deadline of a data connection has not come; it looks again later -/
  | sleep (id : Nat)
  | act (action : Action)

namespace Rendezvous

def start (cfg : HostConfig) : Rendezvous where
  daemon := Daemon.start cfg
  now := 0
  deadline := fun _ => 0
  missed := fun _ => false
  asked := false
  registered := none
  accepted := false
  arrived := none
  outcome := none
  expired := false

/-- Whether the clock and the sender's end of a one-shot channel let a task
take a step. -/
def inTime (s : Rendezvous) (id : Nat) (input : Input) : Bool :=
  match s.daemon.tasks id, input with
  | .proxy (.resolving _), .proceed => !s.missed id
  | .proxy (.resolving _), .fail => s.missed id && s.deadline id ≤ s.now
  | .proxy (.socketBridge connId receiver), .fail =>
      s.deadline id ≤ s.now || s.daemon.ctx.proxy.pending.lookup connId != some receiver
  | _, _ => true

/-- Where the data goes that is looked up now. -/
def delivery (p : ProxyState) (connId : String) : Option (Option Nat) :=
  (p.pending.lookup connId).map fun receiver =>
    if p.receivers receiver = .waiting then some receiver else none

/-- What a step tells about the conn_id. -/
def record (connId : String) (s : Rendezvous) (id : Nat) (input : Input) (next : Handler) : Rendezvous :=
  match s.daemon.tasks id, input with
  | .serving .., .receive (.socketConnectRequest _ named) =>
      if named = connId then { s with asked := true } else s
  | .socketRegister _ _ named, .proceed =>
      if named = connId then { s with registered := next.ticket.map Prod.snd } else s
  | .socketConnect _ _ named _, .launched ok => if named = connId then { s with accepted := ok } else s
  | .proxy .handshake, .receive (.connectReady named) =>
      if named = connId then { s with arrived := some id } else s
  | .proxy (.resolving named), .proceed =>
      if named = connId then { s with outcome := delivery s.daemon.ctx.proxy connId } else s
  | .proxy (.resolving named), .fail => if named = connId then { s with outcome := some none } else s
  | .proxy (.socketBridge named _), .fail => if named = connId then { s with expired := true } else s
  | _, _ => s

/-- The timers after a step of a task. A lookup leaves the task where it was
exactly if it has found nothing. -/
def setTimers (s : Rendezvous) (id : Nat) (handler next : Handler) : Rendezvous :=
  { s with
    deadline := match handler.timer next with
      | some period => Function.update s.deadline id (s.now + period)
      | none => s.deadline
    missed := Function.update s.missed id (handler.resolves.isSome && next.resolves.isSome) }

def step (cfg : HostConfig) (connId : String) (s : Rendezvous) : RendezvousAction → Option Rendezvous
  | .tick elapsed => some { s with now := s.now + elapsed }
  | .sleep id =>
      if s.missed id ∧ s.now < s.deadline id then
        some { s with missed := Function.update s.missed id false }
      else
        none
  | .act (.task id input) =>
      if s.inTime id input then
        (Daemon.step cfg s.daemon (.task id input)).map fun d =>
          { (s.record connId id input (d.tasks id)).setTimers id (s.daemon.tasks id) (d.tasks id) with
            daemon := d }
      else
        none
  | .act action => (Daemon.step cfg s.daemon action).map fun d => { s with daemon := d }

/-- Where a request has been accepted and its data has arrived, the data has
been delivered to the bridge, or its next lookup delivers it. -/
def Met (connId : String) (s : Rendezvous) : Prop :=
  s.accepted = true → ∀ task, s.arrived = some task →
    ∃ receiver, s.registered = some receiver ∧
      (s.outcome = some (some receiver) ∨
        s.outcome = none ∧ s.daemon.tasks task = .proxy (.resolving connId) ∧
          delivery s.daemon.ctx.proxy connId = some (some receiver))

/-- The conn_id is used once; its request is registered before the data
connection gives up, and the bridge gives up only while no data is there. -/
structure Orderly (connId : String) (s : Rendezvous) (id : Nat) (input : Input) : Prop where
  once : ∀ containerId, (s.daemon.tasks id).names input = some (containerId, connId) →
    s.asked = false ∧ ∃ socketId, input = .receive (.socketConnectRequest socketId connId)
  single : s.daemon.tasks id = .proxy .handshake → input = .receive (.connectReady connId) →
    s.arrived = none ∧ s.expired = false ∧ connId.utf8ByteSize ≤ maxConnIdLength
  /-- ConnectReady has been received less than the grace period ago, or its
  task is still to look again -/
  early : ∀ containerId registrationId, s.daemon.tasks id = .socketRegister containerId registrationId connId →
    ∀ task, s.arrived = some task →
      s.now < s.deadline task ∨ s.daemon.tasks task = .proxy (.resolving connId)
  /-- the request is not registered between the last lookup and the check of
  the deadline -/
  apart : s.daemon.tasks id = .proxy (.resolving connId) → input = .fail → s.registered = none
  patient : ∀ receiver, s.daemon.tasks id = .proxy (.socketBridge connId receiver) → input = .fail →
    s.arrived = none

def Prompt (connId : String) (s : Rendezvous) : RendezvousAction → Prop
  | .act (.task id input) => s.Orderly connId id input
  | _ => True

end Rendezvous

/-- How far the request has come. A stage names the task that acts under the
conn_id, if there is one, and the receiver of the pending entry. -/
inductive Stage where
  | unasked
  | asking (id : Nat)
  | connecting (id receiver : Nat)
  | queued (receiver : Nat)
  | bridging (id receiver : Nat)
  | ended (keeper : Option Nat)

namespace Stage

def keeper : Stage → Option Nat
  | .asking id | .connecting id _ | .bridging id _ => some id
  | .ended keeper => keeper
  | .unasked | .queued _ => none

def receiver : Stage → Option Nat
  | .connecting _ receiver | .queued receiver | .bridging _ receiver => some receiver
  | .unasked | .asking _ | .ended _ => none

/-- Bridges of the conn_id that wait to be started. -/
def bridges (connId : String) : Stage → List (String × Nat)
  | .queued receiver => [(connId, receiver)]
  | _ => []

/-- Where the task waits that acts under the conn_id. -/
def waitsAt (connId : String) : Stage → Handler → Prop
  | .asking _, handler => (∃ containerId registrationId socketId,
        handler = .socketLookup containerId registrationId socketId connId) ∨
      ∃ containerId registrationId, handler = .socketRegister containerId registrationId connId
  | .connecting _ receiver, handler => ∃ containerId registrationId,
      handler = .socketConnect containerId registrationId connId receiver
  | .bridging _ receiver, handler => handler = .proxy (.socketBridge connId receiver)
  | .ended _, handler =>
      (∃ containerId registrationId, handler = .socketCancel containerId registrationId connId) ∨
        handler = .proxy (.socketBridgeCancel connId)
  | _, _ => False

structure Control (connId : String) (stage : Stage) (d : Daemon) : Prop where
  sole : ∀ id owner, (d.tasks id).actsUnder = some (owner, connId) → stage.keeper = some id
  place : ∀ id, stage.keeper = some id → stage.waitsAt connId (d.tasks id)
  bridges : d.ctx.proxy.bridges.filter (·.1 = connId) = stage.bridges connId
  unrequested : Unrequested connId d.ctx.proxy

end Stage

/-- Nothing is registered yet, and a data connection that is gone has waited
for its grace period. -/
structure Rendezvous.Vacant (connId : String) (s : Rendezvous) : Prop where
  registered : s.registered = none
  accepted : s.accepted = false
  pending : s.daemon.ctx.proxy.pending.lookup connId = none
  late : ∀ result, s.outcome = some result →
    result = none ∧ ∀ task, s.arrived = some task → s.deadline task ≤ s.now

/-- A pending entry waits for the data, or it has been given the data. -/
structure Rendezvous.Offered (connId : String) (s : Rendezvous) (receiver : Nat) : Prop where
  registered : s.registered = some receiver
  open_or_delivered :
    s.outcome = none ∧ s.daemon.ctx.proxy.pending.lookup connId = some receiver ∧
        s.daemon.ctx.proxy.receivers receiver = .waiting ∨
      s.outcome = some (some receiver) ∧ s.daemon.ctx.proxy.receivers receiver = .delivered

def Rendezvous.Concluded (s : Rendezvous) : Prop :=
  s.accepted = true → s.arrived = none ∧ s.expired = true ∨
    ∃ receiver, s.registered = some receiver ∧ s.outcome = some (some receiver)

/-- What is recorded and what the pending map holds in each stage. -/
def Stage.Ledger (connId : String) (s : Rendezvous) : Stage → Prop
  | .unasked | .asking _ => s.Vacant connId
  | .connecting _ receiver | .queued receiver | .bridging _ receiver => s.Offered connId receiver
  | .ended _ => s.Concluded

/-- The data connection of the conn_id. -/
structure Rendezvous.Data (connId : String) (s : Rendezvous) : Prop where
  sole : ∀ id, (s.daemon.tasks id).resolves = some connId → s.arrived = some id ∧ s.outcome = none
  here : ∀ id, s.arrived = some id → s.outcome = none → s.daemon.tasks id = .proxy (.resolving connId)
  gone : ∀ id, s.arrived = some id → s.outcome ≠ none → s.daemon.tasks id = .proxy .finished
  undecided : s.arrived = none → s.outcome = none

structure Rendezvous.Sound (connId : String) (s : Rendezvous) : Prop where
  tickets : ∃ owner, Tickets owner s.daemon.ctx.proxy s.daemon.tasks
  data : s.Data connId
  stage : ∃ stage : Stage, (s.asked = false → stage = .unasked) ∧ stage.Control connId s.daemon ∧
    stage.Ledger connId s

variable {cfg : HostConfig} {connId : String} {s s' : Rendezvous} {stage stage' : Stage} {d : Daemon}
  {ctx after : DaemonContext} {handler next : Handler} {input : Input} {id : Nat} {owner : Nat → String}
  {p' : ProxyState}

/-- Whoever holds an offered receiver waits at a place that acts under the
conn_id. -/
theorem Stage.waitsAt_actsUnder (h : stage.waitsAt connId handler) :
    ∃ owner, handler.actsUnder = some (owner, connId) := by
  unfold Stage.waitsAt at h
  split at h
  case h_1 =>
    rcases h with ⟨_, _, _, rfl⟩ | ⟨_, _, rfl⟩ <;> exact ⟨_, rfl⟩
  case h_2 =>
    obtain ⟨_, _, rfl⟩ := h
    exact ⟨_, rfl⟩
  case h_3 =>
    subst h
    exact ⟨_, rfl⟩
  case h_4 =>
    rcases h with ⟨_, _, rfl⟩ | rfl <;> exact ⟨_, rfl⟩
  case h_5 => exact h.elim

/-- The receiver of a stage has been handed out under the conn_id. -/
theorem Stage.Control.owned (h : stage.Control connId d) (hTickets : Tickets owner d.ctx.proxy d.tasks)
    {receiver : Nat} (hReceiver : stage.receiver = some receiver) :
    owner receiver = connId ∧ receiver < d.ctx.proxy.nextReceiver := by
  cases stage with
  | connecting id held =>
      obtain rfl : held = receiver := Option.some.inj hReceiver
      obtain ⟨containerId, registrationId, hPlace⟩ := h.place id rfl
      apply hTickets.tasks id
      rw [hPlace]
      rfl
  | queued held =>
      obtain rfl : held = receiver := Option.some.inj hReceiver
      apply hTickets.bridges
      have hHere : (connId, held) ∈ d.ctx.proxy.bridges.filter (·.1 = connId) := by
        rw [h.bridges]
        exact List.mem_singleton.mpr rfl
      exact (List.mem_filter.mp hHere).1
  | bridging id held =>
      obtain rfl : held = receiver := Option.some.inj hReceiver
      have hPlace : d.tasks id = .proxy (.socketBridge connId held) := h.place id rfl
      apply hTickets.tasks id
      rw [hPlace]
      rfl
  | unasked => cases hReceiver
  | asking id => cases hReceiver
  | ended keeper => cases hReceiver

/-- A step of the task that acts under the conn_id, or of one that comes to. -/
theorem Stage.Control.keeper_step (h : stage.Control connId d)
    (hKeeper : ∀ other, stage.keeper = some other → other = id)
    (hNext : stage'.keeper = some id ∧ stage'.waitsAt connId next ∨
      stage'.keeper = none ∧ ∀ owner, next.actsUnder ≠ some (owner, connId))
    (hBridges : after.proxy.bridges.filter (·.1 = connId) = stage'.bridges connId)
    (hUnrequested : Unrequested connId after.proxy) : stage'.Control connId (d.withTask id after next) where
  sole := by
    intro other owner hActs
    by_cases hOther : other = id
    · subst hOther
      change (Function.update d.tasks other next other).actsUnder = _ at hActs
      rw [Function.update_self] at hActs
      rcases hNext with ⟨hHere, -⟩ | ⟨-, hNone⟩
      · exact hHere
      · exact absurd hActs (hNone owner)
    · change (Function.update d.tasks id next other).actsUnder = _ at hActs
      rw [Function.update_of_ne hOther] at hActs
      exact absurd (hKeeper other (h.sole other owner hActs)) hOther
  place := by
    intro other hHolds
    rcases hNext with ⟨hHere, hPlace⟩ | ⟨hNone, -⟩
    · rw [hHere] at hHolds
      cases hHolds
      show stage'.waitsAt connId (Function.update d.tasks id next id)
      rw [Function.update_self]
      exact hPlace
    · rw [hNone] at hHolds
      cases hHolds
  bridges := hBridges
  unrequested := hUnrequested

/-- A step of a task that acts under the conn_id neither before nor after it. -/
theorem Stage.Control.other_step (h : stage.Control connId d)
    (hBridges : after.proxy.bridges.filter (·.1 = connId) = d.ctx.proxy.bridges.filter (·.1 = connId))
    (hUnrequested : Unrequested connId after.proxy)
    (hBefore : ∀ owner, (d.tasks id).actsUnder ≠ some (owner, connId))
    (hAfter : ∀ owner, next.actsUnder ≠ some (owner, connId)) :
    stage.Control connId (d.withTask id after next) where
  sole := by
    intro other owner hActs
    by_cases hOther : other = id
    · subst hOther
      change (Function.update d.tasks other next other).actsUnder = _ at hActs
      rw [Function.update_self] at hActs
      exact absurd hActs (hAfter owner)
    · change (Function.update d.tasks id next other).actsUnder = _ at hActs
      rw [Function.update_of_ne hOther] at hActs
      exact h.sole other owner hActs
  place := by
    intro other hHolds
    have hPlace := h.place other hHolds
    have hOther : other ≠ id := by
      intro hHere
      obtain ⟨owner, hActs⟩ := Stage.waitsAt_actsUnder hPlace
      rw [hHere] at hActs
      exact hBefore owner hActs
    show stage.waitsAt connId (Function.update d.tasks id next other)
    rw [Function.update_of_ne hOther]
    exact hPlace
  bridges := hBridges.trans h.bridges
  unrequested := hUnrequested

/-- A step that records nothing. Time may pass. -/
structure Rendezvous.SameRecord (s s' : Rendezvous) : Prop where
  asked : s'.asked = s.asked
  registered : s'.registered = s.registered
  accepted : s'.accepted = s.accepted
  arrived : s'.arrived = s.arrived
  outcome : s'.outcome = s.outcome
  expired : s'.expired = s.expired
  now : s.now ≤ s'.now
  deadline : ∀ task, s.arrived = some task → s'.deadline task = s.deadline task

theorem Rendezvous.Vacant.framed (h : s.Vacant connId) (hSame : s.SameRecord s')
    (hFramed : Framed owner connId s.daemon.ctx.proxy s'.daemon.ctx.proxy) : s'.Vacant connId where
  registered := hSame.registered.trans h.registered
  accepted := hSame.accepted.trans h.accepted
  pending := hFramed.vacant h.pending
  late := by
    intro result hResult
    rw [hSame.outcome] at hResult
    obtain ⟨hNone, hLate⟩ := h.late result hResult
    refine ⟨hNone, fun task hTask => ?_⟩
    rw [hSame.arrived] at hTask
    rw [hSame.deadline task hTask]
    exact le_trans (hLate task hTask) hSame.now

theorem Rendezvous.Offered.framed {receiver : Nat} (h : s.Offered connId receiver) (hSame : s.SameRecord s')
    (hFramed : Framed owner connId s.daemon.ctx.proxy s'.daemon.ctx.proxy)
    (hOwned : owner receiver = connId ∧ receiver < s.daemon.ctx.proxy.nextReceiver) :
    s'.Offered connId receiver where
  registered := hSame.registered.trans h.registered
  open_or_delivered := by
    rw [hSame.outcome, hFramed.receivers receiver hOwned.1 hOwned.2]
    refine h.open_or_delivered.imp_left ?_
    rintro ⟨hNone, hLookup, hWaiting⟩
    refine ⟨hNone, hFramed.entry receiver hLookup ?_, hWaiting⟩
    rw [hWaiting]
    exact Receiver.noConfusion

/-- A step that leaves the stage alone. -/
theorem Stage.Ledger.map (h : stage.Ledger connId s) (hVacant : s.Vacant connId → s'.Vacant connId)
    (hOffered : ∀ receiver, s.Offered connId receiver → s'.Offered connId receiver)
    (hConcluded : s.Concluded → s'.Concluded) : stage.Ledger connId s' := by
  cases stage with
  | unasked => exact hVacant h
  | asking id => exact hVacant h
  | connecting id receiver => exact hOffered receiver h
  | queued receiver => exact hOffered receiver h
  | bridging id receiver => exact hOffered receiver h
  | ended keeper => exact hConcluded h

/-- What is recorded goes on to fit while others act. -/
theorem Stage.Ledger.framed (h : stage.Ledger connId s) (hSame : s.SameRecord s')
    (hFramed : Framed owner connId s.daemon.ctx.proxy s'.daemon.ctx.proxy)
    (hOwned : ∀ receiver, stage.receiver = some receiver →
      owner receiver = connId ∧ receiver < s.daemon.ctx.proxy.nextReceiver) : stage.Ledger connId s' := by
  cases stage with
  | unasked => exact Rendezvous.Vacant.framed h hSame hFramed
  | asking id => exact Rendezvous.Vacant.framed h hSame hFramed
  | connecting id receiver => exact Rendezvous.Offered.framed h hSame hFramed (hOwned receiver rfl)
  | queued receiver => exact Rendezvous.Offered.framed h hSame hFramed (hOwned receiver rfl)
  | bridging id receiver => exact Rendezvous.Offered.framed h hSame hFramed (hOwned receiver rfl)
  | ended keeper =>
      intro hAccepted
      rw [hSame.accepted] at hAccepted
      rw [hSame.arrived, hSame.expired, hSame.registered, hSame.outcome]
      exact h hAccepted

/-- The state after a step of one task. -/
def Rendezvous.advance (connId : String) (s : Rendezvous) (id : Nat) (input : Input) (after : DaemonContext)
    (next : Handler) : Rendezvous :=
  { (s.record connId id input next).setTimers id (s.daemon.tasks id) next with
    daemon := s.daemon.withTask id after next }

theorem Rendezvous.step_task (h : s.step cfg connId (.act (.task id input)) = some s') :
    s.inTime id input = true ∧ ∃ after next,
      nextHandler cfg s.daemon.ctx (s.daemon.tasks id) input = some (after, next) ∧
        s' = s.advance connId id input after next := by
  unfold Rendezvous.step at h
  dsimp only at h
  split_ifs at h with hTime
  obtain ⟨d, hStep, rfl⟩ := Option.map_eq_some_iff.mp h
  cases (Daemon.step_cases hStep).2 with
  | @task _ _ after next hNext =>
      refine ⟨hTime, after, next, hNext, ?_⟩
      simp only [Rendezvous.advance, Daemon.withTask, Function.update_self]

/-- A data connection that has ended takes no step. -/
theorem nextHandler_ended : nextHandler cfg ctx (.proxy .finished) input = none := rfl

/-- Steps of other tasks leave the data connection where it is. -/
theorem Rendezvous.Data.other_step (h : s.Data connId) (hArrived : s'.arrived = s.arrived)
    (hOutcome : s'.outcome = s.outcome) (hTasks : s'.daemon.tasks = Function.update s.daemon.tasks id next)
    (hNext : nextHandler cfg s.daemon.ctx (s.daemon.tasks id) input = some (after, next))
    (hBefore : (s.daemon.tasks id).resolves ≠ some connId) (hAfter : next.resolves ≠ some connId) :
    s'.Data connId where
  sole := by
    intro other hResolves
    rw [hTasks] at hResolves
    rw [hArrived, hOutcome]
    by_cases hOther : other = id
    · rw [hOther, Function.update_self] at hResolves
      exact absurd hResolves hAfter
    · rw [Function.update_of_ne hOther] at hResolves
      exact h.sole other hResolves
  here := by
    intro other hHere hNone
    rw [hArrived] at hHere
    rw [hOutcome] at hNone
    have hTask := h.here other hHere hNone
    rw [hTasks, Function.update_of_ne]
    · exact hTask
    · rintro rfl
      rw [hTask] at hBefore
      exact hBefore rfl
  gone := by
    intro other hHere hDecided
    rw [hArrived] at hHere
    rw [hOutcome] at hDecided
    have hTask := h.gone other hHere hDecided
    rw [hTasks, Function.update_of_ne]
    · exact hTask
    · rintro rfl
      rw [hTask, nextHandler_ended] at hNext
      cases hNext
  undecided := by
    intro hNone
    rw [hArrived] at hNone
    rw [hOutcome]
    exact h.undecided hNone

/-- The deadline of the data connection is set once. -/
theorem Rendezvous.Data.deadline_kept (h : s.Data connId) {task : Nat} (hArrived : s.arrived = some task)
    (s' : Rendezvous) (hDeadline : s'.deadline = s.deadline) :
    (s'.setTimers id (s.daemon.tasks id) next).deadline task = s.deadline task := by
  by_cases hTask : task = id
  · subst hTask
    have hTimer : (s.daemon.tasks task).timer next = none := by
      by_cases hNone : s.outcome = none
      · rw [h.here task hArrived hNone]
        rfl
      · rw [h.gone task hArrived hNone]
        rfl
    unfold Rendezvous.setTimers
    rw [hTimer]
    exact congrFun hDeadline task
  · unfold Rendezvous.setTimers
    dsimp only
    cases (s.daemon.tasks id).timer next with
    | none => exact congrFun hDeadline task
    | some period => exact (Function.update_of_ne hTask ..).trans (congrFun hDeadline task)

theorem Rendezvous.record_deadline : (s.record connId id input next).deadline = s.deadline := by
  unfold Rendezvous.record
  split <;> (try split_ifs) <;> rfl

theorem Rendezvous.record_now : (s.record connId id input next).now = s.now := by
  unfold Rendezvous.record
  split <;> (try split_ifs) <;> rfl

/-- A step that has nothing to do with the conn_id records nothing. -/
theorem Rendezvous.record_stranger (hStranger : Stranger connId (s.daemon.tasks id) input)
    (hArrive : ¬(s.daemon.tasks id = .proxy .handshake ∧ input = .receive (.connectReady connId))) :
    s.record connId id input next = s := by
  unfold Rendezvous.record
  split
  case h_1 hTask =>
    apply if_neg
    rintro rfl
    apply hStranger.names
    rw [hTask]
    rfl
  case h_2 hTask =>
    apply if_neg
    rintro rfl
    apply hStranger.acts
    rw [hTask]
    rfl
  case h_3 hTask =>
    apply if_neg
    rintro rfl
    apply hStranger.acts
    rw [hTask]
    rfl
  case h_4 hTask =>
    apply if_neg
    rintro rfl
    exact hArrive ⟨hTask, rfl⟩
  case h_5 hTask =>
    apply if_neg
    rintro rfl
    apply hStranger.resolves
    rw [hTask]
    rfl
  case h_6 hTask =>
    apply if_neg
    rintro rfl
    apply hStranger.resolves
    rw [hTask]
    rfl
  case h_7 hTask =>
    apply if_neg
    rintro rfl
    apply hStranger.acts
    rw [hTask]
    rfl
  case h_8 => rfl

theorem Rendezvous.Data.sameRecord (h : s.Data connId) (hRecord : s.record connId id input next = s) :
    s.SameRecord (s.advance connId id input after next) := by
  unfold Rendezvous.advance
  rw [hRecord]
  exact ⟨rfl, rfl, rfl, rfl, rfl, rfl, le_refl _, fun task hTask => h.deadline_kept hTask s rfl⟩

end DevcontainerBridge
