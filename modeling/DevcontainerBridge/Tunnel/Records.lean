import DevcontainerBridge.Host.Leftovers
import DevcontainerBridge.Tunnel.System

/-! What a step of the whole system is, and what is on record for good: who a
conn_id was generated for, which task has dialled a data connection, and what
the task does. -/
namespace DevcontainerBridge

open Table Transition

/-- A dialling task stays with its purpose, and a data connection stays dialled. -/
def Dialer.Becomes : Dialer → Dialer → Prop
  | .connect port position, .connect port' position' =>
      port' = port ∧ (position.hasDialled = true → position'.hasDialled = true)
  | .mirror socketId _, .mirror socketId' _ => socketId' = socketId
  | _, _ => False

/-- A host task that has accepted a data connection. -/
def Handler.isData : Handler → Bool
  | .proxy .handshake | .proxy (.resolving _) | .proxy .capturing | .proxy .finished => true
  | _ => false

namespace Tunnel

/-- What is on record stays on record. -/
structure Grows (t t' : Tunnel) : Prop where
  issued : ∀ connId origin, t.issued connId = some origin → t'.issued connId = some origin
  dialled : ∀ id dialer, t.dialled id = some dialer → t'.dialled id = some dialer
  dialers : ∀ dialer task, t.dialers dialer = some task →
    ∃ next, t'.dialers dialer = some { task with dialer := next } ∧ task.dialer.Becomes next

/-- The records are about tasks that exist. -/
structure Recorded (t : Tunnel) : Prop where
  numbered : ∀ dialer task, t.dialers dialer = some task → dialer < t.nextDialer
  dialled : ∀ id dialer, t.dialled id = some dialer → (t.host.tasks id).isData = true ∧
    ∃ task, t.dialers dialer = some task ∧
      ∀ port position, task.dialer = .connect port position → position.hasDialled = true

/-- What one step is. -/
inductive StepCase (t : Tunnel) (cfg : HostConfig) (hostDataAddr : String) : TunnelAction → Tunnel → Prop where
  | host {action : Action} {host : Daemon} (hOwns : t.ownsContent action = false)
      (hHost : Daemon.step cfg t.host action = some host) :
      t.StepCase cfg hostDataAddr (.host action) { t.observed action with host := host }
  | openSession {registration : Nat} :
      t.StepCase cfg hostDataAddr (.openSession registration)
        { t with sessionOpen := Function.update t.sessionOpen registration true }
  | closeSession {registration : Nat} :
      t.StepCase cfg hostDataAddr (.closeSession registration) (t.closeSession registration)
  | spawn {registration : Nat} {request : OutboundConnectRequest} {rest : List OutboundConnectRequest}
      (hRequests : t.requests registration = request :: rest) :
      t.StepCase cfg hostDataAddr (.spawn registration)
        ({ t with requests := Function.update t.requests registration rest }.addDialer
          { registration := registration
            connId := request.connId
            dialer := .connect request.port .ipv4 })
  | accept {registration : Nat} {socketId connId : String} :
      t.StepCase cfg hostDataAddr (.accept registration socketId connId)
        ((t.issue connId (.mirror t.nextDialer)).addDialer
          { registration := registration, connId := connId, dialer := .mirror socketId .requesting })
  | dialer {dialer : Nat} {input : DialInput} {task : DialTask} {next : Dialer}
      (hTask : t.dialers dialer = some task) (hLocal : t.isLocal task input = true)
      (hNext : task.dialer.step hostDataAddr input = some next) :
      t.StepCase cfg hostDataAddr (.dialer dialer input) (t.setDialer dialer task next)
  | dial {dialer id : Nat} {task : DialTask} {next : Dialer} {host : Daemon}
      (hTask : t.dialers dialer = some task) (hDials : task.dialer.dials = true)
      (hNext : task.dialer.step hostDataAddr (.attempt .connected) = some next)
      (hHost : Daemon.step cfg t.host (.task id .connectData) = some host) :
      t.StepCase cfg hostDataAddr (.dial dialer id)
        { t.setDialer dialer task next with
          host := host
          dialled := Function.update t.dialled id (some dialer) }
  | handshake {id dialer : Nat} {task : DialTask} {host : Daemon} (hDialled : t.dialled id = some dialer)
      (hTask : t.dialers dialer = some task)
      (hHost : Daemon.step cfg t.host (.task id (.receive (.connectReady task.connId))) = some host) :
      t.StepCase cfg hostDataAddr (.handshake id) { t with host := host }
  | enqueue {dialer : Nat} {task : DialTask} {message : RelayMessage} {next : Dialer}
      (hTask : t.dialers dialer = some task) (hMessage : task.dialer.relay task.connId = some message)
      (hOpen : t.sessionOpen task.registration = true)
      (hNext : task.dialer.step hostDataAddr (.relayed true) = some next) :
      t.StepCase cfg hostDataAddr (.enqueue dialer)
        { t.setDialer dialer task next with
          relayChannel :=
            Function.update t.relayChannel task.registration
              (t.relayChannel task.registration ++ [(dialer, message)]) }
  | relay {registration dialer : Nat} {message : RelayMessage} {rest : List (Nat × RelayMessage)}
      (hChannel : t.relayChannel registration = (dialer, message) :: rest) :
      t.StepCase cfg hostDataAddr (.relay registration)
        ((t.writeRelay registration message rest).confirm hostDataAddr dialer)
  | read {id registrationId : Nat} {containerId : String} {message : RelayMessage} {rest : List RelayMessage}
      {host : Daemon} (hTask : t.host.tasks id = .serving containerId registrationId)
      (hRelayed : t.relayed registrationId = message :: rest)
      (hHost : Daemon.step cfg t.host (.task id (.receive message.msg)) = some host) :
      t.StepCase cfg hostDataAddr (.read id)
        { t with host := host, relayed := Function.update t.relayed registrationId rest }

end Tunnel

variable {cfg : HostConfig} {hostDataAddr : String} {t t' : Tunnel} {action : TunnelAction}

theorem Tunnel.step_cases (h : t.step cfg hostDataAddr action = some t') :
    t.StepCase cfg hostDataAddr action t' := by
  unfold step at h
  split at h
  case h_1 action =>
    split_ifs at h with hOwns
    obtain ⟨host, hHost, rfl⟩ := Option.map_eq_some_iff.mp h
    exact .host (by simpa using hOwns) hHost
  case h_2 =>
    cases h
    exact .openSession
  case h_3 =>
    cases h
    exact .closeSession
  case h_4 registration =>
    split at h
    case h_1 => cases h
    case h_2 request rest hRequests =>
      cases h
      exact .spawn hRequests
  case h_5 =>
    cases h
    exact .accept
  case h_6 dialer input =>
    obtain ⟨task, hTask, h⟩ := Option.bind_eq_some_iff.mp h
    split_ifs at h with hLocal
    obtain ⟨next, hNext, rfl⟩ := Option.map_eq_some_iff.mp h
    exact .dialer hTask hLocal hNext
  case h_7 dialer id =>
    obtain ⟨task, hTask, h⟩ := Option.bind_eq_some_iff.mp h
    split_ifs at h with hDials
    obtain ⟨next, hNext, h⟩ := Option.bind_eq_some_iff.mp h
    obtain ⟨host, hHost, rfl⟩ := Option.map_eq_some_iff.mp h
    exact .dial hTask hDials hNext hHost
  case h_8 id =>
    obtain ⟨task, hTask, h⟩ := Option.bind_eq_some_iff.mp h
    obtain ⟨dialer, hDialled, hTask⟩ := Option.bind_eq_some_iff.mp hTask
    obtain ⟨host, hHost, rfl⟩ := Option.map_eq_some_iff.mp h
    exact .handshake hDialled hTask hHost
  case h_9 dialer =>
    obtain ⟨task, hTask, h⟩ := Option.bind_eq_some_iff.mp h
    obtain ⟨message, hMessage, h⟩ := Option.bind_eq_some_iff.mp h
    dsimp only at h
    split_ifs at h with hOpen
    obtain ⟨next, hNext, rfl⟩ := Option.map_eq_some_iff.mp h
    exact .enqueue hTask hMessage hOpen.1 hNext
  case h_10 registration =>
    unfold relay at h
    split at h
    case h_1 => cases h
    case h_2 dialer message rest hChannel =>
      cases h
      exact .relay hChannel
  case h_11 id =>
    unfold read at h
    split at h
    case h_1 containerId registrationId hTask =>
      split at h
      case h_1 => cases h
      case h_2 message rest hRelayed =>
        obtain ⟨host, hHost, rfl⟩ := Option.map_eq_some_iff.mp h
        exact .read hTask hRelayed hHost
    case h_2 => cases h

theorem Dialer.Becomes.refl (dialer : Dialer) : dialer.Becomes dialer := by
  cases dialer
  · exact ⟨rfl, id⟩
  · exact rfl

theorem Connecting.step_hasDialled {port : UInt16} {position next : Connecting} {input : DialInput}
    (h : position.step port hostDataAddr input = some next) (hDialled : position.hasDialled = true) :
    next.hasDialled = true := by
  unfold Connecting.step at h
  split at h
  case h_1 => cases hDialled
  case h_2 => cases hDialled
  case h_3 => cases hDialled
  case h_4 addr result => cases result <;> cases h <;> rfl
  case h_5 addr result => cases result <;> cases h <;> rfl
  case h_6 error ok =>
    cases h
    exact hDialled
  case h_7 => cases h

theorem Dialer.step_becomes {dialer next : Dialer} {input : DialInput}
    (h : dialer.step hostDataAddr input = some next) : dialer.Becomes next := by
  cases dialer with
  | connect port position =>
      obtain ⟨position', hStep, rfl⟩ := Option.map_eq_some_iff.mp h
      exact ⟨rfl, Connecting.step_hasDialled hStep⟩
  | mirror socketId position =>
      obtain ⟨position', _, rfl⟩ := Option.map_eq_some_iff.mp h
      exact rfl

/-- A task that is connecting to the host has dialled once it is connected. -/
theorem Dialer.hasDialled_of_dials {dialer : Dialer} {port : UInt16} {position : Connecting}
    (h : dialer.step hostDataAddr (.attempt .connected) = some (.connect port position))
    (hDials : dialer.dials = true) : position.hasDialled = true := by
  cases dialer with
  | mirror socketId position =>
      obtain ⟨_, _, hNext⟩ := Option.map_eq_some_iff.mp h
      cases hNext
  | connect port' position' =>
      obtain ⟨next, hStep, hNext⟩ := Option.map_eq_some_iff.mp h
      cases hNext
      cases position' with
      | hostConnect addr =>
          cases hStep
          rfl
      | _ => cases hDials

theorem nextHandler_isData {ctx after : DaemonContext} {handler next : Handler} {input : Input}
    (h : nextHandler cfg ctx handler input = some (after, next)) (hData : handler.isData = true) :
    next.isData = true := by
  cases handler with
  | proxy task =>
      obtain ⟨proxy, task', -, rfl, hClient | hMove⟩ := nextProxy_cases h
      · cases nextClient_cases hClient <;> cases hData
      · cases nextData_cases hMove with
        | bridged => cases hData
        | expired => cases hData
        | cancelled => cases hData
        | dispatched message =>
            unfold dispatchData
            split
            case h_1 => split_ifs <;> rfl
            case h_2 => split_ifs <;> rfl
            case h_3 => rfl
        | _ => rfl
  | _ => cases hData

/-- A connection is accepted by a task that has not been spawned before. -/
theorem nextHandler_connectData {ctx after : DaemonContext} {handler next : Handler}
    (h : nextHandler cfg ctx handler .connectData = some (after, next)) :
    handler = .idle ∧ next = .proxy .handshake := by
  cases handler with
  | idle =>
      cases h
      exact ⟨rfl, rfl⟩
  | proxy task =>
      obtain ⟨proxy, task', -, -, hClient | hMove⟩ := nextProxy_cases h
      · cases nextClient_cases hClient
      · cases nextData_cases hMove with
        | captured _ hEnd => rcases hEnd with hEnd | hEnd <;> cases hEnd
  | broadcasting sends => cases sends <;> cases h
  | _ => cases h

/-- A task has moved as its handler does, or it has stayed. -/
theorem Daemon.step_moves {d d' : Daemon} {action : Action} (h : Daemon.step cfg d action = some d') (id : Nat) :
    d'.tasks id = d.tasks id ∨ ∃ input after, action = .task id input ∧
      nextHandler cfg d.ctx (d.tasks id) input = some (after, d'.tasks id) := by
  cases (Daemon.step_cases h).2 with
  | clientConnects => exact .inl rfl
  | stop => exact .inl rfl
  | @task other input after next hNext _ =>
      by_cases hHere : id = other
      · subst hHere
        exact .inr ⟨input, after, rfl, by simpa only [Function.update_self] using hNext⟩
      · exact .inl (Function.update_of_ne hHere _ _)

theorem Daemon.step_isData {d d' : Daemon} {action : Action} (h : Daemon.step cfg d action = some d') {id : Nat}
    (hData : (d.tasks id).isData = true) : (d'.tasks id).isData = true := by
  rcases Daemon.step_moves h id with hSame | ⟨_, _, _, hNext⟩
  · rw [hSame]
    exact hData
  · exact nextHandler_isData hNext hData

namespace Tunnel

theorem Grows.refl (t : Tunnel) : t.Grows t where
  issued := fun _ _ h => h
  dialled := fun _ _ h => h
  dialers := fun _ task h => ⟨task.dialer, h, .refl task.dialer⟩

/-- A step that leaves the records alone. -/
theorem Grows.of_eq (hIssued : t'.issued = t.issued) (hDialled : t'.dialled = t.dialled)
    (hDialers : t'.dialers = t.dialers) : t.Grows t' where
  issued := fun _ _ h => by rwa [hIssued]
  dialled := fun _ _ h => by rwa [hDialled]
  dialers := fun _ task h => ⟨task.dialer, by rwa [hDialers], .refl task.dialer⟩

theorem present_grows (t : Tunnel) (connId : String) : t.Grows (t.present connId) := by
  unfold present
  split
  case h_1 hNew =>
    refine ⟨fun other origin h => ?_, fun _ _ h => h, fun _ task h => ⟨task.dialer, h, .refl _⟩⟩
    have hOther : other ≠ connId := by
      rintro rfl
      rw [hNew] at h
      cases h
    exact (Function.update_of_ne hOther _ _).trans h
  case h_2 => exact .refl t

theorem issue_grows {connId : String} (origin : Issue) (h : t.issued connId = none) :
    t.Grows (t.issue connId origin) := by
  refine ⟨fun other origin' hOld => ?_, fun _ _ h => h, fun _ task h => ⟨task.dialer, h, .refl _⟩⟩
  have hOther : other ≠ connId := by
    rintro rfl
    rw [h] at hOld
    cases hOld
  exact (Function.update_of_ne hOther _ _).trans hOld

theorem writeRequest_frame (t : Tunnel) (registration : Nat) :
    ∃ requests, t.writeRequest registration = { t with requests := requests } := by
  unfold writeRequest
  split
  · exact ⟨t.requests, rfl⟩
  · exact ⟨_, rfl⟩

theorem deliver_frame (t : Tunnel) (id : Nat) (connId : String) :
    ∃ delivered, t.deliver id connId = { t with delivered := delivered } := by
  unfold deliver
  split
  · exact ⟨t.delivered, rfl⟩
  · split_ifs
    · exact ⟨_, rfl⟩
    · exact ⟨t.delivered, rfl⟩

theorem lookUp_frame (t : Tunnel) (socketId connId : String) :
    ∃ hostPaths, t.lookUp socketId connId = { t with hostPaths := hostPaths } := by
  unfold lookUp
  split
  · exact ⟨t.hostPaths, rfl⟩
  · exact ⟨_, rfl⟩

theorem observe_grows {id : Nat} {input : Input} (h : t.Unguessed (.host (.task id input))) :
    t.Grows (t.observe id input) := by
  unfold observe
  split
  case h_1 => exact issue_grows _ (h.fresh _ rfl)
  case h_2 connId _ => exact present_grows t connId
  case h_3 connId _ => exact present_grows t connId
  case h_4 registrationId _ =>
    split_ifs
    · obtain ⟨requests, hFrame⟩ := t.writeRequest_frame registrationId
      rw [hFrame]
      exact .of_eq rfl rfl rfl
    · exact .refl t
  case h_5 connId _ =>
    obtain ⟨delivered, hFrame⟩ := t.deliver_frame id connId
    rw [hFrame]
    exact .of_eq rfl rfl rfl
  case h_6 socketId connId _ =>
    obtain ⟨hostPaths, hFrame⟩ := t.lookUp_frame socketId connId
    rw [hFrame]
    exact .of_eq rfl rfl rfl
  case h_7 => exact .refl t

/-- A step of the host leaves the containers alone. -/
theorem observe_frame (t : Tunnel) (id : Nat) (input : Input) : ∃ requests delivered hostPaths issued,
    t.observe id input =
      { t with requests := requests, delivered := delivered, hostPaths := hostPaths, issued := issued } := by
  have present (connId : String) : ∃ issued, t.present connId = { t with issued := issued } := by
    unfold present
    split <;> exact ⟨_, rfl⟩
  unfold observe
  split
  case h_1 => exact ⟨_, _, _, _, rfl⟩
  case h_2 connId _ =>
    obtain ⟨issued, hFrame⟩ := present connId
    exact ⟨_, _, _, _, hFrame⟩
  case h_3 connId _ =>
    obtain ⟨issued, hFrame⟩ := present connId
    exact ⟨_, _, _, _, hFrame⟩
  case h_4 registrationId _ =>
    split_ifs
    · obtain ⟨requests, hFrame⟩ := t.writeRequest_frame registrationId
      exact ⟨_, _, _, _, hFrame⟩
    · exact ⟨_, _, _, _, rfl⟩
  case h_5 connId _ =>
    obtain ⟨delivered, hFrame⟩ := t.deliver_frame id connId
    exact ⟨_, _, _, _, hFrame⟩
  case h_6 socketId connId _ =>
    obtain ⟨hostPaths, hFrame⟩ := t.lookUp_frame socketId connId
    exact ⟨_, _, _, _, hFrame⟩
  case h_7 => exact ⟨_, _, _, _, rfl⟩

theorem setDialer_grows {dialer : Nat} {task : DialTask} {next : Dialer}
    (hTask : t.dialers dialer = some task) (hNext : task.dialer.Becomes next) :
    t.Grows (t.setDialer dialer task next) where
  issued := fun _ _ h => h
  dialled := fun _ _ h => h
  dialers := by
    intro other task' h
    by_cases hHere : other = dialer
    · subst hHere
      rw [hTask] at h
      cases h
      exact ⟨next, Function.update_self .., hNext⟩
    · exact ⟨task'.dialer, (Function.update_of_ne hHere _ _).trans h, .refl _⟩

theorem addDialer_grows (h : ∀ dialer task, t.dialers dialer = some task → dialer < t.nextDialer)
    (task : DialTask) : t.Grows (t.addDialer task) where
  issued := fun _ _ h => h
  dialled := fun _ _ h => h
  dialers := by
    intro other task' hOther
    have hNew : other ≠ t.nextDialer := (h other task' hOther).ne
    exact ⟨task'.dialer, (Function.update_of_ne hNew _ _).trans hOther, .refl _⟩

theorem Grows.trans {t'' : Tunnel} (h : t.Grows t') (h' : t'.Grows t'') : t.Grows t'' where
  issued := fun connId origin hOld => h'.issued connId origin (h.issued connId origin hOld)
  dialled := fun id dialer hOld => h'.dialled id dialer (h.dialled id dialer hOld)
  dialers := by
    intro dialer task hOld
    obtain ⟨middle, hMiddle, hBecomes⟩ := h.dialers dialer task hOld
    obtain ⟨next, hNext, hBecomes'⟩ := h'.dialers dialer _ hMiddle
    refine ⟨next, hNext, ?_⟩
    dsimp only at hBecomes'
    cases hDialer : task.dialer with
    | connect port position =>
        rw [hDialer] at hBecomes
        cases middle with
        | connect port' position' =>
            cases next with
            | connect port'' position'' =>
                exact ⟨hBecomes'.1.trans hBecomes.1, fun hDialled => hBecomes'.2 (hBecomes.2 hDialled)⟩
            | mirror => exact hBecomes'.elim
        | mirror => exact hBecomes.elim
    | mirror socketId position =>
        rw [hDialer] at hBecomes
        cases middle with
        | connect => exact hBecomes.elim
        | mirror socketId' position' =>
            cases next with
            | connect => exact hBecomes'.elim
            | mirror socketId'' position'' => exact Eq.trans hBecomes' hBecomes

theorem confirm_cases (t : Tunnel) (hostDataAddr : String) (dialer : Nat) :
    t.confirm hostDataAddr dialer = t ∨ ∃ task next, t.dialers dialer = some task ∧
      task.dialer.Becomes next ∧ t.confirm hostDataAddr dialer = t.setDialer dialer task next := by
  unfold confirm
  split
  case h_1 => exact .inl rfl
  case h_2 task hTask =>
    split
    case h_1 => exact .inl rfl
    case h_2 next hNext => exact .inr ⟨task, next, hTask, Dialer.step_becomes hNext, rfl⟩

theorem observed_grows {action : Action} (h : t.Unguessed (.host action)) : t.Grows (t.observed action) := by
  cases action with
  | task id input => exact observe_grows h
  | clientConnects => exact .refl t
  | stop => exact .refl t

theorem observed_frame (t : Tunnel) (action : Action) : ∃ requests delivered hostPaths issued,
    t.observed action =
      { t with requests := requests, delivered := delivered, hostPaths := hostPaths, issued := issued } := by
  cases action with
  | task id input => exact t.observe_frame id input
  | clientConnects => exact ⟨_, _, _, _, rfl⟩
  | stop => exact ⟨_, _, _, _, rfl⟩

/-- The host may change beside the records. -/
theorem Grows.withHost (h : t.Grows t') (host : Daemon) : t.Grows { t' with host := host } :=
  ⟨h.issued, h.dialled, h.dialers⟩

theorem step_grows (h : t.Recorded) (hGuard : t.Unguessed action)
    (hStep : t.step cfg hostDataAddr action = some t') : t.Grows t' := by
  cases step_cases hStep with
  | host hOwns hHost => exact (observed_grows hGuard).withHost _
  | openSession => exact .of_eq rfl rfl rfl
  | closeSession => exact .of_eq rfl rfl rfl
  | @spawn registration request rest hRequests =>
      refine Grows.trans (.of_eq ?_ ?_ ?_) (addDialer_grows ?_ _)
      · rfl
      · rfl
      · rfl
      · exact h.numbered
  | @accept registration socketId connId =>
      refine (issue_grows _ (hGuard.fresh _ rfl)).trans (addDialer_grows ?_ _)
      exact h.numbered
  | dialer hTask hLocal hNext => exact setDialer_grows hTask (Dialer.step_becomes hNext)
  | @dial dialer id task next host hTask hDials hNext hHost =>
      have hDialer := setDialer_grows hTask (Dialer.step_becomes hNext)
      refine ⟨hDialer.issued, fun other held hOld => ?_, hDialer.dialers⟩
      have hOther : other ≠ id := by
        rintro rfl
        cases (Daemon.step_cases hHost).2 with
        | task hAccept =>
            have hData := (h.dialled other held hOld).1
            rw [(nextHandler_connectData hAccept).1] at hData
            cases hData
      exact (Function.update_of_ne hOther _ _).trans hOld
  | handshake => exact .of_eq rfl rfl rfl
  | enqueue hTask hMessage hOpen hNext =>
      have hDialer := setDialer_grows hTask (Dialer.step_becomes hNext)
      exact ⟨hDialer.issued, hDialer.dialled, hDialer.dialers⟩
  | @relay registration dialer message rest hChannel =>
      rcases (t.writeRelay registration message rest).confirm_cases hostDataAddr dialer with
        hSame | ⟨task, next, hTask, hBecomes, hSame⟩
      · rw [hSame]
        exact .of_eq rfl rfl rfl
      · rw [hSame]
        have hDialer := setDialer_grows (t := t) hTask hBecomes
        exact ⟨hDialer.issued, hDialer.dialled, hDialer.dialers⟩
  | read => exact .of_eq rfl rfl rfl

/-- Whoever has dialled has done so for good. -/
theorem Grows.hasDialled (h : t.Grows t') {dialer : Nat} {task : DialTask}
    (hTask : t.dialers dialer = some task)
    (hDialled : ∀ port position, task.dialer = .connect port position → position.hasDialled = true) :
    ∃ task, t'.dialers dialer = some task ∧
      ∀ port position, task.dialer = .connect port position → position.hasDialled = true := by
  obtain ⟨next, hNext, hBecomes⟩ := h.dialers dialer task hTask
  refine ⟨_, hNext, fun port position hConnect => ?_⟩
  dsimp only at hConnect
  subst hConnect
  cases hDialer : task.dialer with
  | connect port' position' =>
      rw [hDialer] at hBecomes
      exact hBecomes.2 (hDialled port' position' hDialer)
  | mirror =>
      rw [hDialer] at hBecomes
      exact hBecomes.elim

theorem Recorded.of_grows (h : t.Recorded) (hGrows : t.Grows t')
    (hNumbered : ∀ dialer task, t'.dialers dialer = some task → dialer < t'.nextDialer)
    (hHost : ∀ id, (t.host.tasks id).isData = true → (t'.host.tasks id).isData = true)
    (hDialled : t'.dialled = t.dialled) : t'.Recorded where
  numbered := hNumbered
  dialled := by
    intro id dialer hHere
    rw [hDialled] at hHere
    obtain ⟨hData, task, hTask, hPosition⟩ := h.dialled id dialer hHere
    exact ⟨hHost id hData, hGrows.hasDialled hTask hPosition⟩

theorem setDialer_numbered (h : t.Recorded) {dialer : Nat} {task : DialTask} (next : Dialer)
    (hTask : t.dialers dialer = some task) {other : Nat} {task' : DialTask}
    (hOther : (t.setDialer dialer task next).dialers other = some task') : other < t.nextDialer := by
  by_cases hHere : other = dialer
  · rw [hHere]
    exact h.numbered dialer task hTask
  · exact h.numbered other task' ((Function.update_of_ne hHere _ _).symm.trans hOther)

theorem addDialer_numbered (h : ∀ dialer task, t.dialers dialer = some task → dialer < t.nextDialer)
    {task task' : DialTask} {other : Nat} (hOther : (t.addDialer task).dialers other = some task') :
    other < (t.addDialer task).nextDialer := by
  by_cases hHere : other = t.nextDialer
  · rw [hHere]
    exact Nat.lt_succ_self _
  · exact Nat.lt_succ_of_lt (h other task' ((Function.update_of_ne hHere _ _).symm.trans hOther))

theorem start_recorded : (Tunnel.start cfg).Recorded :=
  ⟨fun _ _ h => (nomatch h), fun _ _ h => (nomatch h)⟩

theorem step_recorded (h : t.Recorded) (hGuard : t.Unguessed action)
    (hStep : t.step cfg hostDataAddr action = some t') : t'.Recorded := by
  have hGrows := step_grows h hGuard hStep
  cases step_cases hStep with
  | @host action host hOwns hHost =>
      obtain ⟨_, _, _, _, hFrame⟩ := t.observed_frame action
      rw [hFrame] at hGrows ⊢
      exact h.of_grows hGrows h.numbered (fun id => Daemon.step_isData hHost) rfl
  | openSession => exact ⟨h.numbered, h.dialled⟩
  | closeSession => exact ⟨h.numbered, h.dialled⟩
  | spawn => exact h.of_grows hGrows (fun _ _ => addDialer_numbered h.numbered) (fun _ hData => hData) rfl
  | accept => exact h.of_grows hGrows (fun _ _ => addDialer_numbered h.numbered) (fun _ hData => hData) rfl
  | dialer hTask =>
      exact h.of_grows hGrows (fun _ _ => setDialer_numbered h _ hTask) (fun _ hData => hData) rfl
  | @dial dialer id task next host hTask hDials hNext hHost =>
      refine ⟨fun _ _ => setDialer_numbered h _ hTask, fun other held hHeld => ?_⟩
      by_cases hHere : other = id
      · subst hHere
        cases (Function.update_self other (some dialer) t.dialled).symm.trans hHeld
        refine ⟨?_, _, Function.update_self .., fun port position hConnect => ?_⟩
        · cases (Daemon.step_cases hHost).2 with
          | task hAccept =>
              dsimp only
              rw [Function.update_self, (nextHandler_connectData hAccept).2]
              rfl
        · dsimp only at hConnect
          subst hConnect
          exact Dialer.hasDialled_of_dials hNext hDials
      · replace hHeld := (Function.update_of_ne hHere _ _).symm.trans hHeld
        obtain ⟨hData, held', hHeld', hPosition⟩ := h.dialled other held hHeld
        exact ⟨Daemon.step_isData hHost hData, hGrows.hasDialled hHeld' hPosition⟩
  | handshake _ _ hHost => exact h.of_grows hGrows h.numbered (fun id => Daemon.step_isData hHost) rfl
  | enqueue hTask =>
      exact h.of_grows hGrows (fun _ _ => setDialer_numbered h _ hTask) (fun _ hData => hData) rfl
  | @relay registration dialer message rest hChannel =>
      rcases (t.writeRelay registration message rest).confirm_cases hostDataAddr dialer with
        hSame | ⟨task, next, hTask, _, hSame⟩
      · rw [hSame]
        exact ⟨h.numbered, h.dialled⟩
      · rw [hSame] at hGrows ⊢
        exact h.of_grows hGrows (fun _ _ => setDialer_numbered h next hTask) (fun _ hData => hData) rfl
  | read _ _ hHost => exact h.of_grows hGrows h.numbered (fun id => Daemon.step_isData hHost) rfl

end Tunnel
end DevcontainerBridge
