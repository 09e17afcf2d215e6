import DevcontainerBridge.Tunnel.Records

/-! Connection requests on their way from a client to the container. Whatever
is queued, written or handled under a conn_id was asked for by the client that
the conn_id was generated for, and goes to the registration of its route. -/
namespace DevcontainerBridge

open Table Transition

/-- The client handler `id` waits under a conn_id that was generated for it. -/
def ProxyTask.IssuedTo (issued : String → Option Issue) (id : Nat) : ProxyTask → Prop
  | .clientSend client route connId _ => issued connId = some (.client id client route)
  | .clientSubscribe route connId _ | .clientBridge route connId _ _ =>
      ∃ client, issued connId = some (.client id client route)
  | _ => True

def Handler.IssuedTo (issued : String → Option Issue) (id : Nat) : Handler → Prop
  | .proxy task => task.IssuedTo issued id
  | _ => True

/-- A client has asked for this connection through this registration. -/
def Tunnel.Requested (t : Tunnel) (registration : Nat) (request : OutboundConnectRequest) : Prop :=
  ∃ id client route, t.issued request.connId = some (.client id client route) ∧
    request.port = client.containerPort ∧ route.connectTx = some registration

/-- A dialling task is one that its conn_id was generated for. -/
def Tunnel.Purposeful (t : Tunnel) (dialer : Nat) (task : DialTask) : Prop :=
  match task.dialer with
  | .connect port _ => t.Requested task.registration { port := port, connId := task.connId }
  | .mirror _ _ => t.issued task.connId = some (.mirror dialer)

structure Tunnel.Asked (t : Tunnel) : Prop where
  clients : ∀ id, (t.host.tasks id).IssuedTo t.issued id
  queued : ∀ channel, ∀ request ∈ t.host.ctx.proxy.connectRequests channel, t.Requested channel request
  written : ∀ registration, ∀ request ∈ t.requests registration, t.Requested registration request
  dialers : ∀ dialer task, t.dialers dialer = some task → t.Purposeful dialer task

/-- A step leaves the queues of requests alone, queues the request of a client
handler, or takes the first request of a queue for its control connection. -/
inductive QueueStep (p : ProxyState) : Handler → Input → ProxyState → Prop where
  | same {handler : Handler} {input : Input} {p' : ProxyState} (hSame : p'.connectRequests = p.connectRequests) :
      QueueStep p handler input p'
  | queued {p' : ProxyState} (client : ClientConnection) (route : ClientRoute) (connId : String)
      (receiver channel : Nat) (hChannel : route.connectTx = some channel)
      (hQueued : p'.connectRequests = Function.update p.connectRequests channel
        (p.connectRequests channel ++ [{ port := client.containerPort, connId := connId }])) :
      QueueStep p (.proxy (.clientSend client route connId receiver)) (.sent true) p'
  | flushed {p' : ProxyState} (containerId : String) (registrationId : Nat) (request : OutboundConnectRequest)
      (rest : List OutboundConnectRequest) (ok : Bool) (hQueue : p.connectRequests registrationId = request :: rest)
      (hFlushed : p'.connectRequests = Function.update p.connectRequests registrationId rest) :
      QueueStep p (.serving containerId registrationId) (.flushRequest ok) p'

variable {cfg : HostConfig} {hostDataAddr : String} {ctx after : DaemonContext} {handler next : Handler}
  {input : Input} {issued : String → Option Issue} {id : Nat} {t t' : Tunnel} {action : TunnelAction}

theorem Handler.IssuedTo.mono {issued' : String → Option Issue} (h : handler.IssuedTo issued id)
    (hMono : ∀ connId origin, issued connId = some origin → issued' connId = some origin) :
    handler.IssuedTo issued' id := by
  cases handler with
  | proxy task =>
      cases task with
      | clientSend => exact hMono _ _ h
      | clientSubscribe => exact Exists.imp (fun _ => hMono _ _) h
      | clientBridge => exact Exists.imp (fun _ => hMono _ _) h
      | _ => trivial
  | _ => trivial

/-- Who holds no receiver does not wait for a data connection. -/
theorem Handler.issuedTo_of_ticket (h : handler.ticket = none) : handler.IssuedTo issued id := by
  cases handler with
  | proxy task => cases task <;> trivial
  | _ => trivial

/-- A client handler keeps its conn_id, and gets it where it is generated. -/
theorem nextClient_issuedTo {s : HostState} {p p' : ProxyState} {task task' : ProxyTask}
    (h : nextClient s p task input = some (p', task')) (hBefore : task.IssuedTo issued id)
    (hIssue : ∀ client route connId, task = .clientRegister client route → input = .uuid connId →
      issued connId = some (.client id client route)) :
    task'.IssuedTo issued id := by
  cases nextClient_cases h with
  | registered => exact hIssue _ _ _ rfl rfl
  | queued => exact ⟨_, hBefore⟩
  | subscribed => exact hBefore
  | unsubscribed => exact hBefore
  | _ => trivial

theorem nextHandler_issuedTo (h : nextHandler cfg ctx handler input = some (after, next))
    (hBefore : handler.IssuedTo issued id)
    (hIssue : ∀ client route connId, handler = .proxy (.clientRegister client route) →
      input = .uuid connId → issued connId = some (.client id client route)) :
    next.IssuedTo issued id := by
  unfold nextHandler at h
  split at h
  case h_1 => cases nextIdle_cases h <;> trivial
  case h_2 => cases h
  case h_3 task =>
    obtain ⟨proxy, task', -, rfl, hClient | hData⟩ := nextProxy_cases h
    · exact nextClient_issuedTo hClient hBefore fun client route connId hTask =>
        hIssue client route connId (congrArg _ hTask)
    · cases nextData_cases hData with
      | dispatched message => exact Handler.issuedTo_of_ticket (dispatchData_ticket cfg ctx.proxy message)
      | _ => trivial
  all_goals first
    | exact Handler.issuedTo_of_ticket (nextRegister_sameMatching h).2.ticket
    | exact Handler.issuedTo_of_ticket (nextForward_sameMatching h).2.ticket
    | exact Handler.issuedTo_of_ticket (nextUnforward_sameMatching h).2.ticket
    | exact Handler.issuedTo_of_ticket (nextScanner_sameMatching h).2.ticket
    | exact Handler.issuedTo_of_ticket (nextServing_ticket h)
    | (cases nextAuxiliary_cases h <;> trivial)

theorem register_requests {p p' : ProxyState} {connId : String} {receiver : Option Nat}
    (h : p.register connId = (p', receiver)) : p'.connectRequests = p.connectRequests := by
  obtain ⟨_, _, _, rfl⟩ := ProxyState.register_frame h
  rfl

theorem mem_update_tail {queues : Nat → List OutboundConnectRequest} {channel other : Nat}
    {request held : OutboundConnectRequest} {rest : List OutboundConnectRequest}
    (hQueue : queues channel = request :: rest) (h : held ∈ Function.update queues channel rest other) :
    held ∈ queues other := by
  by_cases hHere : other = channel
  · rw [hHere, Function.update_self] at h
    rw [hHere, hQueue]
    exact List.mem_cons_of_mem _ h
  · rwa [Function.update_of_ne hHere] at h

theorem nextClient_queueStep {s : HostState} {task task' : ProxyTask} {proxy : ProxyState}
    (h : nextClient s ctx.proxy task input = some (proxy, task')) :
    QueueStep ctx.proxy (.proxy task) input proxy := by
  cases nextClient_cases h with
  | counted => exact .same (increment_sameMatching ctx.proxy _).requests
  | uncounted => exact .same (decrement_sameMatching ctx.proxy _).requests
  | registered hRegister => exact .same (register_requests hRegister)
  | unregistered hRegister => exact .same (register_requests hRegister)
  | @queued client route connId receiver channel hChannel => exact .queued client route connId receiver channel hChannel rfl
  | _ => exact .same rfl

theorem nextData_queueStep {task task' : ProxyTask} {proxy : ProxyState}
    (h : nextData cfg ctx.proxy task input = some (proxy, task')) :
    QueueStep ctx.proxy (.proxy task) input proxy := by
  cases nextData_cases h with
  | dispatched message =>
      refine .same ?_
      unfold dispatchData
      split
      case h_1 => split_ifs <;> rfl
      case h_2 => split_ifs <;> rfl
      case h_3 => rfl
  | resolved hResolve =>
      obtain ⟨_, _, _, _, _, _, hRequests, _⟩ := resolve_some hResolve
      exact .same hRequests
  | _ => exact .same rfl

theorem nextServing_queueStep (h : nextServing cfg ctx handler input = some (after, next)) :
    QueueStep ctx.proxy handler input after.proxy := by
  cases nextServing_cases h with
  | @requestFlushed containerId registrationId request rest hQueue =>
      exact .flushed containerId registrationId request rest true hQueue rfl
  | @requestLost containerId registrationId request rest hQueue =>
      exact .flushed containerId registrationId request rest false hQueue rfl
  | drained hTear => exact .same (tearDown_sameMatching hTear).requests
  | drainedOne hDrain => exact .same (drainOne_sameMatching hDrain).requests
  | _ => exact .same rfl

theorem nextAuxiliary_queueStep (h : nextAuxiliary ctx handler input = some (after, next)) :
    QueueStep ctx.proxy handler input after.proxy := by
  cases nextAuxiliary_cases h with
  | registered hRegister => exact .same (register_requests hRegister)
  | unregistered hRegister => exact .same (register_requests hRegister)
  | _ => exact .same rfl

theorem nextHandler_queueStep (h : nextHandler cfg ctx handler input = some (after, next)) :
    QueueStep ctx.proxy handler input after.proxy := by
  unfold nextHandler at h
  split at h
  case h_1 => cases nextIdle_cases h <;> exact .same rfl
  case h_2 => cases h
  case h_3 task =>
    obtain ⟨proxy, task', rfl, rfl, hClient | hData⟩ := nextProxy_cases h
    · exact nextClient_queueStep hClient
    · exact nextData_queueStep hData
  all_goals first
    | exact .same (nextRegister_sameMatching h).1.requests
    | exact .same (nextForward_sameMatching h).1.requests
    | exact .same (nextUnforward_sameMatching h).1.requests
    | exact .same (nextScanner_sameMatching h).1.requests
    | exact nextServing_queueStep h
    | exact nextAuxiliary_queueStep h

/-- A queued request was queued before, or a client handler has just queued it. -/
theorem QueueStep.request {p p' : ProxyState} (h : QueueStep p handler input p') {channel : Nat}
    {request : OutboundConnectRequest} (hRequest : request ∈ p'.connectRequests channel) :
    request ∈ p.connectRequests channel ∨ ∃ client route receiver,
      handler = .proxy (.clientSend client route request.connId receiver) ∧
        request.port = client.containerPort ∧ route.connectTx = some channel := by
  cases h with
  | same hSame => exact .inl (hSame ▸ hRequest)
  | flushed containerId registrationId first rest ok hQueue hSame =>
      rw [hSame] at hRequest
      exact .inl (mem_update_tail hQueue hRequest)
  | queued client route connId receiver other hChannel hSame =>
      rw [hSame] at hRequest
      by_cases hHere : channel = other
      · subst hHere
        rw [Function.update_self] at hRequest
        rcases List.mem_append.mp hRequest with hOld | hNew
        · exact .inl hOld
        · rw [List.mem_singleton.mp hNew]
          exact .inr ⟨client, route, receiver, rfl, rfl, hChannel⟩
      · exact .inl (by rwa [Function.update_of_ne hHere] at hRequest)

/-- What a step of the host does to the queues of requests. -/
theorem Daemon.step_queueStep {d d' : Daemon} {action : Action} (h : Daemon.step cfg d action = some d') :
    d'.ctx.proxy.connectRequests = d.ctx.proxy.connectRequests ∨
      ∃ id input, action = .task id input ∧ QueueStep d.ctx.proxy (d.tasks id) input d'.ctx.proxy := by
  cases (Daemon.step_cases h).2 with
  | clientConnects hAccept =>
      obtain ⟨l, -, rfl⟩ := DaemonContext.acceptClient_frame hAccept
      exact .inl rfl
  | stop => exact .inl rfl
  | @task id input after next hNext _ => exact .inr ⟨id, input, rfl, nextHandler_queueStep hNext⟩

namespace Tunnel

/-- What a step of the system is for the host: none, a step that is recorded,
or one whose input is supplied by a container. -/
inductive HostMove (cfg : HostConfig) (t t' : Tunnel) : Prop where
  | stays (hHost : t'.host = t.host) (hDelivered : t'.delivered = t.delivered)
      (hPaths : t'.hostPaths = t.hostPaths)
  | recorded (action : Action) (hOwns : t.ownsContent action = false)
      (hHost : Daemon.step cfg t.host action = some t'.host)
      (hRecorded : t' = { t.observed action with host := t'.host })
  | supplied (id : Nat) (input : Input) (hInput : input = .connectData ∨ ∃ message, input = .receive message)
      (hHost : Daemon.step cfg t.host (.task id input) = some t'.host) (hDelivered : t'.delivered = t.delivered)
      (hPaths : t'.hostPaths = t.hostPaths)

theorem step_hostMove (hStep : t.step cfg hostDataAddr action = some t') : HostMove cfg t t' := by
  cases step_cases hStep with
  | @host action host hOwns hHost => exact .recorded action hOwns hHost rfl
  | @dial dialer id task next host _ _ _ hHost => exact .supplied id .connectData (.inl rfl) hHost rfl rfl
  | @handshake id _ _ _ _ _ hHost => exact .supplied id _ (.inr ⟨_, rfl⟩) hHost rfl rfl
  | @read id _ _ _ _ _ _ _ hHost => exact .supplied id _ (.inr ⟨_, rfl⟩) hHost rfl rfl
  | @relay registration dialer message rest _ =>
      rcases (t.writeRelay registration message rest).confirm_cases hostDataAddr dialer with
        hSame | ⟨_, _, _, _, hSame⟩ <;> rw [hSame] <;> exact .stays rfl rfl rfl
  | _ => exact .stays rfl rfl rfl

/-- Where a client handler gets its conn_id, the conn_id goes on record. -/
theorem HostMove.task (h : HostMove cfg t t') (id : Nat) :
    t'.host.tasks id = t.host.tasks id ∨ ∃ input after,
      nextHandler cfg t.host.ctx (t.host.tasks id) input = some (after, t'.host.tasks id) ∧
        ∀ client route connId, t.host.tasks id = .proxy (.clientRegister client route) →
          input = .uuid connId → t'.issued connId = some (.client id client route) := by
  cases h with
  | stays hHost => exact .inl (by rw [hHost])
  | recorded action hOwns hHost hRecorded =>
      refine (Daemon.step_moves hHost id).imp_right fun ⟨input, after, hAction, hNext⟩ =>
        ⟨input, after, hNext, fun client route connId hTask hInput => ?_⟩
      subst hAction hInput
      rw [hRecorded]
      dsimp only [observed, observe]
      rw [hTask]
      exact Function.update_self ..
  | supplied other input hInput hHost =>
      refine (Daemon.step_moves hHost id).imp_right fun ⟨input', after, hAction, hNext⟩ =>
        ⟨input', after, hNext, fun client route connId _ hUuid => ?_⟩
      cases hAction
      subst hUuid
      rcases hInput with hInput | ⟨_, hInput⟩ <;> cases hInput

theorem HostMove.host (h : HostMove cfg t t') :
    t'.host = t.host ∨ ∃ action, Daemon.step cfg t.host action = some t'.host := by
  cases h with
  | stays hHost => exact .inl hHost
  | recorded action _ hHost => exact .inr ⟨action, hHost⟩
  | supplied id input _ hHost => exact .inr ⟨_, hHost⟩

theorem Requested.mono {registration : Nat} {request : OutboundConnectRequest}
    (h : t.Requested registration request) (hGrows : t.Grows t') : t'.Requested registration request := by
  obtain ⟨id, client, route, hIssued, hRest⟩ := h
  exact ⟨id, client, route, hGrows.issued _ _ hIssued, hRest⟩

theorem Purposeful.mono {dialer : Nat} {task : DialTask} {next : Dialer} (h : t.Purposeful dialer task)
    (hGrows : t.Grows t') (hNext : task.dialer.Becomes next) :
    t'.Purposeful dialer { task with dialer := next } := by
  unfold Purposeful at h ⊢
  dsimp only
  cases hDialer : task.dialer with
  | connect port position =>
      rw [hDialer] at h hNext
      cases next with
      | connect port' position' =>
          cases hNext.1
          exact h.mono hGrows
      | mirror => exact hNext.elim
  | mirror socketId position =>
      rw [hDialer] at h hNext
      cases next with
      | connect => exact hNext.elim
      | mirror => exact hGrows.issued _ _ h

theorem setDialer_purposeful {dialer : Nat} {task : DialTask} {next : Dialer} (h : t.Asked)
    (hTask : t.dialers dialer = some task) (hNext : task.dialer.Becomes next) (hGrows : t.Grows t')
    (hDialers : t'.dialers = (t.setDialer dialer task next).dialers) {other : Nat} {held : DialTask}
    (hHeld : t'.dialers other = some held) : t'.Purposeful other held := by
  rw [hDialers] at hHeld
  by_cases hHere : other = dialer
  · subst hHere
    cases (Function.update_self ..).symm.trans hHeld
    exact (h.dialers other task hTask).mono hGrows hNext
  · replace hHeld := (Function.update_of_ne hHere _ _).symm.trans hHeld
    exact (h.dialers other held hHeld).mono hGrows (.refl held.dialer)

theorem start_asked (cfg : HostConfig) : (Tunnel.start cfg).Asked where
  clients := by
    intro id
    change Handler.IssuedTo _ id (if cfg.scanSockets ∧ id = 0 then .scanning else .idle)
    split_ifs <;> trivial
  queued := fun _ _ h => (nomatch h)
  written := fun _ _ h => (nomatch h)
  dialers := fun _ _ h => (nomatch h)

theorem step_clients (h : t.Asked) (hGrows : t.Grows t')
    (hStep : t.step cfg hostDataAddr action = some t') (id : Nat) :
    (t'.host.tasks id).IssuedTo t'.issued id := by
  have hBefore := (h.clients id).mono hGrows.issued
  rcases (step_hostMove hStep).task id with hSame | ⟨input, after, hNext, hIssue⟩
  · rw [hSame]
    exact hBefore
  · exact nextHandler_issuedTo hNext hBefore hIssue

/-- A queued request is that of the client handler that queues it. -/
theorem step_queued (h : t.Asked) (hGrows : t.Grows t')
    (hStep : t.step cfg hostDataAddr action = some t') (channel : Nat) :
    ∀ request ∈ t'.host.ctx.proxy.connectRequests channel, t'.Requested channel request := by
  intro request hRequest
  rcases (step_hostMove hStep).host with hHost | ⟨hostAction, hHost⟩
  · rw [hHost] at hRequest
    exact (h.queued channel request hRequest).mono hGrows
  · rcases Daemon.step_queueStep hHost with hSame | ⟨id, input, -, hQueue⟩
    · exact (h.queued channel request (hSame ▸ hRequest)).mono hGrows
    · rcases hQueue.request hRequest with hOld | ⟨client, route, receiver, hTask, hPort, hRoute⟩
      · exact (h.queued channel request hOld).mono hGrows
      · have hIssued := h.clients id
        rw [hTask] at hIssued
        exact ⟨id, client, route, hGrows.issued _ _ hIssued, hPort, hRoute⟩

/-- A step of the host writes nothing, or the first request of a queue. -/
theorem observed_requests (t : Tunnel) (hostAction : Action) :
    (t.observed hostAction).requests = t.requests ∨
      ∃ registration, (t.observed hostAction).requests = (t.writeRequest registration).requests := by
  have present (connId : String) : (t.present connId).requests = t.requests := by
    unfold present
    split <;> rfl
  cases hostAction with
  | clientConnects => exact .inl rfl
  | stop => exact .inl rfl
  | task id input =>
      unfold observed observe
      dsimp only
      split
      case h_1 => exact .inl rfl
      case h_2 connId _ => exact .inl (present connId)
      case h_3 connId _ => exact .inl (present connId)
      case h_4 registration _ =>
        split_ifs
        · exact .inr ⟨registration, rfl⟩
        · exact .inl rfl
      case h_5 connId _ =>
        obtain ⟨delivered, hFrame⟩ := t.deliver_frame id connId
        exact .inl (by rw [hFrame])
      case h_6 socketId connId _ =>
        obtain ⟨hostPaths, hFrame⟩ := t.lookUp_frame socketId connId
        exact .inl (by rw [hFrame])
      case h_7 => exact .inl rfl

theorem writeRequest_asked (h : t.Asked) {written registration : Nat} {request : OutboundConnectRequest}
    (hRequest : request ∈ (t.writeRequest written).requests registration) :
    t.Requested registration request := by
  unfold writeRequest at hRequest
  split at hRequest
  case h_1 => exact h.written registration request hRequest
  case h_2 first rest hQueue =>
    by_cases hHere : registration = written
    · subst hHere
      replace hRequest : request ∈ t.requests registration ++ [first] := by
        simpa only [Function.update_self] using hRequest
      rcases List.mem_append.mp hRequest with hOld | hNew
      · exact h.written registration request hOld
      · refine h.queued registration request ?_
        rw [hQueue, List.mem_singleton.mp hNew]
        exact List.mem_cons_self
    · refine h.written registration request ?_
      simpa only [Function.update_of_ne hHere] using hRequest

theorem mem_update_nil {requests : Nat → List OutboundConnectRequest} {registration other : Nat}
    {request : OutboundConnectRequest} (h : request ∈ Function.update requests registration [] other) :
    request ∈ requests other := by
  by_cases hHere : other = registration
  · rw [hHere, Function.update_self] at h
    cases h
  · rwa [Function.update_of_ne hHere] at h

theorem step_written (h : t.Asked) (hGrows : t.Grows t')
    (hStep : t.step cfg hostDataAddr action = some t') (registration : Nat) :
    ∀ request ∈ t'.requests registration, t'.Requested registration request := by
  intro request hRequest
  have kept (hOld : request ∈ t.requests registration) : t'.Requested registration request :=
    (h.written registration request hOld).mono hGrows
  cases step_cases hStep with
  | @host action host hOwns hHost =>
      dsimp only at hRequest
      rcases t.observed_requests action with hSame | ⟨other, hWritten⟩
      · exact kept (hSame ▸ hRequest)
      · exact (writeRequest_asked h (hWritten ▸ hRequest)).mono hGrows
  | closeSession => exact kept (mem_update_nil hRequest)
  | spawn hRequests => exact kept (mem_update_tail hRequests hRequest)
  | @relay channel dialer message rest _ =>
      rcases (t.writeRelay channel message rest).confirm_cases hostDataAddr dialer with
        hSame | ⟨_, _, _, _, hSame⟩ <;> rw [hSame] at hRequest <;> exact kept hRequest
  | _ => exact kept hRequest

theorem addDialer_purposeful (h : t.Asked) (hGrows : t.Grows t') {task : DialTask} {dialers : Nat → Option DialTask}
    (hDialers : dialers = Function.update t.dialers t.nextDialer (some task))
    (hTask : t'.Purposeful t.nextDialer task) {dialer : Nat} {held : DialTask}
    (hHeld : dialers dialer = some held) : t'.Purposeful dialer held := by
  rw [hDialers] at hHeld
  by_cases hHere : dialer = t.nextDialer
  · subst hHere
    cases (Function.update_self t.nextDialer (some task) t.dialers).symm.trans hHeld
    exact hTask
  · replace hHeld := (Function.update_of_ne hHere _ _).symm.trans hHeld
    exact (h.dialers dialer held hHeld).mono hGrows (.refl held.dialer)

theorem step_purposeful (h : t.Asked) (hGrows : t.Grows t') (hStep : t.step cfg hostDataAddr action = some t')
    (dialer : Nat) (task : DialTask) (hTask : t'.dialers dialer = some task) : t'.Purposeful dialer task := by
  have kept (hOld : t.dialers dialer = some task) : t'.Purposeful dialer task :=
    (h.dialers dialer task hOld).mono hGrows (.refl task.dialer)
  cases step_cases hStep with
  | @host action host hOwns hHost =>
      obtain ⟨_, _, _, _, hFrame⟩ := t.observed_frame action
      rw [hFrame] at hTask
      exact kept hTask
  | @spawn registration request rest hRequests =>
      refine addDialer_purposeful h hGrows rfl ?_ hTask
      refine (h.written registration request ?_).mono hGrows
      rw [hRequests]
      exact List.mem_cons_self
  | @accept registration socketId connId =>
      refine addDialer_purposeful h hGrows rfl ?_ hTask
      change Function.update t.issued connId (some (.mirror t.nextDialer)) connId = _
      exact Function.update_self ..
  | dialer hHeld _ hNext => exact setDialer_purposeful h hHeld (Dialer.step_becomes hNext) hGrows rfl hTask
  | dial hHeld _ hNext => exact setDialer_purposeful h hHeld (Dialer.step_becomes hNext) hGrows rfl hTask
  | enqueue hHeld _ _ hNext => exact setDialer_purposeful h hHeld (Dialer.step_becomes hNext) hGrows rfl hTask
  | @relay registration other message rest _ =>
      rcases (t.writeRelay registration message rest).confirm_cases hostDataAddr other with
        hSame | ⟨held, next, hHeld, hNext, hSame⟩
      · rw [hSame] at hTask
        exact kept hTask
      · rw [hSame] at hTask hGrows ⊢
        exact setDialer_purposeful h hHeld hNext hGrows rfl hTask
  | _ => exact kept hTask

theorem step_asked (h : t.Asked) (hGrows : t.Grows t') (hStep : t.step cfg hostDataAddr action = some t') :
    t'.Asked where
  clients := step_clients h hGrows hStep
  queued := step_queued h hGrows hStep
  written := step_written h hGrows hStep
  dialers := step_purposeful h hGrows hStep

end Tunnel
end DevcontainerBridge
