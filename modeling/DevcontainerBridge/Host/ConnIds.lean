import DevcontainerBridge.Host.Tickets
import DevcontainerBridge.Socket.Delivery

/-! The three checks that a conn_id of a container meets: when its socket
request is accepted, when its data connection arrives, and when the container
gives up on it. They do not agree on its length. -/
namespace DevcontainerBridge

open Table Transition

/-- The conn_id that a SocketConnectRequest has passed the checks with. -/
def Handler.socketRequest : Handler → Option String
  | .socketRegister _ _ connId => some connId
  | _ => none

/-- The host has accepted a SocketConnectRequest and registered its conn_id,
and the entry still waits. -/
structure SocketPending (cfg : HostConfig) (connId : String) (receiver : Nat) (d : Daemon) : Prop where
  registered : ∃ before after id, Reachable (Daemon.step cfg) (Daemon.start cfg) before ∧
    (before.tasks id).socketRequest = some connId ∧
    Daemon.step cfg before (.task id .proceed) = some after ∧
    (after.tasks id).ticket = some (connId, receiver) ∧ Reachable (Daemon.step cfg) after d
  running : d.running = true
  pending : d.ctx.proxy.pending.lookup connId = some receiver

/-- A task receives a message and goes on for some steps. -/
def Daemon.deal (cfg : HostConfig) (d : Daemon) (id : Nat) (message : Message) (steps : Nat) : Option Daemon :=
  exec (Daemon.step cfg) d (.task id (.receive message) :: List.replicate steps (.task id .proceed))

/-- The data connection that sends ConnectReady is handed to the receiver. -/
def ReadyResolves (cfg : HostConfig) (d : Daemon) (id : Nat) (connId : String) (receiver : Nat) : Prop :=
  ∃ steps after, d.deal cfg id (.connectReady connId) steps = some after ∧
    after.ctx.proxy.pending.lookup connId = none ∧
    (d.ctx.proxy.receivers receiver = .waiting → after.ctx.proxy.receivers receiver = .delivered)

/-- The control connection that sends ConnectFailed cancels the entry. -/
def FailedCancels (cfg : HostConfig) (d : Daemon) (id : Nat) (connId error : String) : Prop :=
  ∃ steps after, d.deal cfg id (.connectFailed connId error) steps = some after ∧
    after.ctx.proxy.pending.lookup connId = none

variable {cfg : HostConfig} {d after : Daemon} {id receiver registrationId : Nat} {connId error containerId : String}

/-- A task that stops where it has received the message leaves the entry. -/
theorem deal_stopped {message : Message} {next : Handler} {steps : Nat} (hRunning : d.running = true)
    (hReceive : nextHandler cfg d.ctx (d.tasks id) (.receive message) = some (d.ctx, next))
    (hStop : nextHandler cfg d.ctx next .proceed = none)
    (h : d.deal cfg id message steps = some after) : after.ctx = d.ctx := by
  obtain ⟨middle, hFirst, hRest⟩ := exec_cons.mp h
  rw [Daemon.step_of_nextHandler hRunning hReceive] at hFirst
  cases hFirst
  cases steps with
  | zero =>
      cases hRest
      rfl
  | succ steps =>
      obtain ⟨later, hStep, -⟩ := exec_cons.mp hRest
      unfold Daemon.step at hStep
      rw [if_pos (show (d.withTask id d.ctx next).running = true from hRunning)] at hStep
      dsimp only at hStep
      rw [withTask_tasks, show (d.withTask id d.ctx next).ctx = d.ctx from rfl, hStop] at hStep
      cases hStep

/-- A task that takes one more step after it has received the message. -/
theorem deal_once {message : Message} {ctx : DaemonContext} {waiting next : Handler} (hRunning : d.running = true)
    (hReceive : nextHandler cfg d.ctx (d.tasks id) (.receive message) = some (d.ctx, waiting))
    (hProceed : nextHandler cfg d.ctx waiting .proceed = some (ctx, next)) :
    ∃ after, d.deal cfg id message 1 = some after ∧ after.ctx = ctx := by
  have hReceived := Daemon.step_of_nextHandler hRunning hReceive
  refine ⟨(d.withTask id d.ctx waiting).withTask id ctx next, exec_cons.mpr ⟨_, hReceived,
    exec_cons.mpr ⟨_, Daemon.step_of_nextHandler ?_ ?_, rfl⟩⟩, rfl⟩
  · exact hRunning
  · rw [withTask_tasks]
    exact hProceed

theorem ready_oversized (hRunning : d.running = true) (hTask : d.tasks id = .proxy .handshake)
    (hPending : d.ctx.proxy.pending.lookup connId = some receiver)
    (hLong : maxConnIdLength < connId.utf8ByteSize) : ¬ReadyResolves cfg d id connId receiver := by
  rintro ⟨steps, after, hDeal, hGone, -⟩
  have hReceive : nextHandler cfg d.ctx (d.tasks id) (.receive (.connectReady connId)) =
      some (d.ctx, .proxy .finished) := by
    rw [hTask]
    simp [nextHandler, nextProxy, nextClient, nextData, dispatchData, hLong]
  rw [deal_stopped hRunning hReceive rfl hDeal, hPending] at hGone
  cases hGone

theorem failed_oversized (hRunning : d.running = true)
    (hTask : d.tasks id = .serving containerId registrationId)
    (hPending : d.ctx.proxy.pending.lookup connId = some receiver)
    (hLong : maxConnIdLength < connId.utf8ByteSize) : ¬FailedCancels cfg d id connId error := by
  rintro ⟨steps, after, hDeal, hGone⟩
  have hReceive : nextHandler cfg d.ctx (d.tasks id) (.receive (.connectFailed connId error)) =
      some (d.ctx, .serving containerId registrationId) := by
    rw [hTask]
    change some (d.ctx, if connId.utf8ByteSize > maxConnIdLength then Handler.serving containerId registrationId
      else .cancelConnect containerId registrationId connId) = _
    rw [if_pos hLong]
  rw [deal_stopped hRunning hReceive rfl hDeal, hPending] at hGone
  cases hGone

theorem ready_fitting (hRunning : d.running = true) (hTask : d.tasks id = .proxy .handshake)
    (hPending : d.ctx.proxy.pending.lookup connId = some receiver)
    (hShort : connId.utf8ByteSize ≤ maxConnIdLength) : ReadyResolves cfg d id connId receiver := by
  have hReceive : nextHandler cfg d.ctx (d.tasks id) (.receive (.connectReady connId)) =
      some (d.ctx, .proxy (.resolving connId)) := by
    rw [hTask]
    simp [nextHandler, nextProxy, nextClient, nextData, dispatchData, not_lt.mpr hShort]
  obtain ⟨proxy, hResolve⟩ : ∃ proxy, d.ctx.proxy.resolve connId = some proxy := by
    unfold ProxyState.resolve
    rw [hPending]
    exact ⟨_, rfl⟩
  have hProceed : nextHandler cfg d.ctx (.proxy (.resolving connId)) .proceed =
      some ({ d.ctx with proxy := proxy }, .proxy .finished) := by
    simp [nextHandler, nextProxy, nextClient, nextData, hResolve]
  obtain ⟨after, hDeal, hCtx⟩ := deal_once hRunning hReceive hProceed
  obtain ⟨here, hHere, hErased, -, hDelivered, -⟩ := resolve_some hResolve
  obtain rfl : receiver = here := Option.some.inj (hPending.symm.trans hHere)
  refine ⟨1, after, hDeal, ?_, fun hWaiting => ?_⟩
  · rw [hCtx, hErased]
    exact Finmap.lookup_erase _ _
  · rw [hCtx]
    exact hDelivered hWaiting

theorem failed_fitting (hRunning : d.running = true)
    (hTask : d.tasks id = .serving containerId registrationId)
    (hShort : connId.utf8ByteSize ≤ maxConnIdLength) : FailedCancels cfg d id connId error := by
  have hReceive : nextHandler cfg d.ctx (d.tasks id) (.receive (.connectFailed connId error)) =
      some (d.ctx, .cancelConnect containerId registrationId connId) := by
    rw [hTask]
    change some (d.ctx, if connId.utf8ByteSize > maxConnIdLength then Handler.serving containerId registrationId
      else .cancelConnect containerId registrationId connId) = _
    rw [if_neg (not_lt.mpr hShort)]
  have hProceed : nextHandler cfg d.ctx (.cancelConnect containerId registrationId connId) .proceed =
      some ({ d.ctx with proxy := d.ctx.proxy.cancelPending connId }, .serving containerId registrationId) := rfl
  obtain ⟨after, hDeal, hCtx⟩ := deal_once hRunning hReceive hProceed
  refine ⟨1, after, hDeal, ?_⟩
  rw [hCtx]
  exact Finmap.lookup_erase _ _

/-- Where an accepted conn_id is registered, its container can complete the
connection and can cancel it exactly if it fits the shorter limit. -/
theorem socketPending_completes_iff (h : SocketPending cfg connId receiver d) (id : Nat) :
    (d.tasks id = .proxy .handshake →
        (ReadyResolves cfg d id connId receiver ↔ connId.utf8ByteSize ≤ maxConnIdLength)) ∧
      ∀ containerId registrationId error, d.tasks id = .serving containerId registrationId →
        (FailedCancels cfg d id connId error ↔ connId.utf8ByteSize ≤ maxConnIdLength) := by
  constructor
  · intro hTask
    constructor
    · intro hResolves
      by_contra hLong
      exact ready_oversized h.running hTask h.pending (not_le.mp hLong) hResolves
    · exact ready_fitting h.running hTask h.pending
  · intro containerId registrationId error hTask
    constructor
    · intro hCancels
      by_contra hLong
      exact failed_oversized h.running hTask h.pending (not_le.mp hLong) hCancels
    · exact failed_fitting h.running hTask

/-- A container whose host offers a socket asks for it up to the acceptance
of its request. -/
def acceptSchedule (connId : String) : List Action :=
  .task 0 (.scan [{ socketId := "s", hostPath := "/s", containerPath := "/s" }] [] []) :: .task 0 .proceed ::
    announceSchedule 1 "c" "h" "" ++ enterSchedule 1
    ++ [.receive (.socketConnectRequest "s" connId), .proceed].map (.task 1)

/-- Its conn_id is registered, and a data connection comes. -/
def completeSchedule : List Action :=
  [.task 1 (.launched true), .task 2 .connectData]

def Handler.isHandshake : Handler → Bool
  | .proxy .handshake => true
  | _ => false

def Handler.isServing : Handler → Bool
  | .serving .. => true
  | _ => false

theorem Handler.eq_of_isHandshake {handler : Handler} (h : handler.isHandshake = true) :
    handler = .proxy .handshake := by
  unfold Handler.isHandshake at h
  split at h
  · rfl
  · cases h

theorem Handler.eq_of_isServing {handler : Handler} (h : handler.isServing = true) :
    ∃ containerId registrationId, handler = .serving containerId registrationId := by
  unfold Handler.isServing at h
  split at h
  · exact ⟨_, _, rfl⟩
  · cases h

/-- A run of the schedules, checked where the conn_id is registered and at its end. -/
theorem socketPending_of_exec (connId : String)
    (hRun : (exec (Daemon.step .scanning) (Daemon.start .scanning) (acceptSchedule connId)).any (fun before =>
      (before.tasks 1).socketRequest == some connId &&
        (Daemon.step .scanning before (.task 1 .proceed)).any fun after =>
          (after.tasks 1).ticket == some (connId, 0) &&
            (exec (Daemon.step .scanning) after completeSchedule).any fun d =>
              d.running && d.ctx.proxy.pending.lookup connId == some 0 && (d.tasks 2).isHandshake &&
                (d.tasks 1).isServing) = true) :
    ∃ d, SocketPending .scanning connId 0 d ∧ d.tasks 2 = .proxy .handshake ∧
      ∃ containerId registrationId, d.tasks 1 = .serving containerId registrationId := by
  obtain ⟨before, hBefore, hFirst⟩ := (Option.any_eq_true _ _).mp hRun
  obtain ⟨hRequest, hSecond⟩ := Bool.and_eq_true_iff.mp hFirst
  obtain ⟨after, hStep, hThird⟩ := (Option.any_eq_true _ _).mp hSecond
  obtain ⟨hTicket, hLast⟩ := Bool.and_eq_true_iff.mp hThird
  obtain ⟨d, hExec, hState⟩ := (Option.any_eq_true _ _).mp hLast
  simp only [Bool.and_eq_true, beq_iff_eq] at hRequest hTicket hState
  obtain ⟨⟨⟨hRunning, hPending⟩, hData⟩, hControl⟩ := hState
  refine ⟨d, ⟨⟨before, after, 1, reachable_of_exec hBefore, hRequest, hStep, hTicket, reachable_of_exec hExec⟩,
    hRunning, hPending⟩, Handler.eq_of_isHandshake hData, Handler.eq_of_isServing hControl⟩

theorem socketPending_completes_short :
    ∃ d containerId registrationId, SocketPending .scanning "y" 0 d ∧ ReadyResolves .scanning d 2 "y" 0 ∧
      d.tasks 1 = .serving containerId registrationId ∧ FailedCancels .scanning d 1 "y" "refused" := by
  obtain ⟨d, hSocket, hData, containerId, registrationId, hControl⟩ :=
    socketPending_of_exec "y" (by decide +kernel)
  refine ⟨d, containerId, registrationId, hSocket, ?_, hControl, ?_⟩
  · exact ((socketPending_completes_iff hSocket 2).1 hData).mpr (by decide)
  · exact ((socketPending_completes_iff hSocket 1).2 containerId registrationId "refused" hControl).mpr (by decide)

/-- A conn_id of 129 bytes is accepted and can neither be completed nor cancelled. -/
theorem socketPending_incomplete_long :
    ∃ d containerId registrationId, SocketPending .scanning (repeatedId 129) 0 d ∧
      d.tasks 2 = .proxy .handshake ∧ ¬ReadyResolves .scanning d 2 (repeatedId 129) 0 ∧
      d.tasks 1 = .serving containerId registrationId ∧
      ¬FailedCancels .scanning d 1 (repeatedId 129) "refused" := by
  obtain ⟨d, hSocket, hData, containerId, registrationId, hControl⟩ :=
    socketPending_of_exec (repeatedId 129) (by decide +kernel)
  have hLong : maxConnIdLength < (repeatedId 129).utf8ByteSize := by decide +kernel
  exact ⟨d, containerId, registrationId, hSocket, hData, ready_oversized hSocket.running hData hSocket.pending hLong,
    hControl, failed_oversized hSocket.running hControl hSocket.pending hLong⟩

end DevcontainerBridge
