import DevcontainerBridge.Host.Teardown
import DevcontainerBridge.Tunnel.Matching

/-! A client of a forwarded port talks to the service behind that port. The
stream that its handler is handed was dialled for the port of the listener that
the client has connected to, in the session of the registration that it was
routed to, after the service had accepted, and nobody else is handed it. -/
namespace DevcontainerBridge

open Table Transition

/-- The client of a handler that has not got a conn_id yet. -/
def Handler.asking : Handler → Option ClientConnection
  | .proxy (.clientLookup client) | .proxy (.clientIncrement client _) | .proxy (.clientRegister client _) =>
      some client
  | _ => none

/-- The client has connected to a listener of its container port. -/
def DaemonContext.Serves (ctx : DaemonContext) (client : ClientConnection) : Prop :=
  ∃ hostPort, ctx.listenerPorts client.listener = some (hostPort, client.containerPort)

/-- Every client that a conn_id is generated for comes from a listener. -/
structure Tunnel.Served (t : Tunnel) : Prop where
  asking : ∀ id client, (t.host.tasks id).asking = some client → t.host.ctx.Serves client
  issued : ∀ connId id client route, t.issued connId = some (.client id client route) →
    t.host.ctx.Serves client

/-- What is known of every state of a guarded run. -/
structure Tunnel.Sound (cfg : HostConfig) (t : Tunnel) : Prop where
  reached : Reachable (Daemon.step cfg) (Daemon.start cfg) t.host
  recorded : t.Recorded
  asked : t.Asked
  matched : t.Matched
  served : t.Served

/-- A receiver has been handed the stream of a data connection that the task
has dialled, and no other receiver has been. -/
structure Tunnel.Joins (t : Tunnel) (receiver : Nat) (task : DialTask) : Prop where
  handed : ∃ data dialer, t.delivered receiver = some data ∧ t.dialled data = some dialer ∧
    t.dialers dialer = some task ∧ ∀ other, t.delivered other = some data → other = receiver

variable {cfg : HostConfig} {hostDataAddr : String} {ctx after : DaemonContext} {handler next : Handler}
  {input : Input} {client : ClientConnection} {route : ClientRoute} {connId : String} {receiver id : Nat} {seen : Bool}
  {t t' : Tunnel} {action : TunnelAction} {trace : List (Tunnel × TunnelAction)}

theorem dispatchFirst_asking (message : Message) : (dispatchFirst cfg message).asking = none := by
  cases message <;> unfold dispatchFirst <;> dsimp only <;> (try split_ifs) <;> rfl

theorem dispatchContainer_asking (containerId : String) (registrationId : Nat) (message : Message) :
    (dispatchContainer cfg containerId registrationId message).asking = none := by
  cases message <;> unfold dispatchContainer <;> dsimp only <;> (try split_ifs) <;> rfl

theorem dispatchData_asking (p : ProxyState) (message : Message) :
    (Handler.proxy (dispatchData cfg p message).2).asking = none := by
  unfold dispatchData
  split
  case h_1 => split_ifs <;> rfl
  case h_2 => split_ifs <;> rfl
  case h_3 => rfl

theorem nextRegister_asking (h : nextRegister cfg ctx handler input = some (after, next)) :
    next.asking = none := by
  cases nextRegister_cases h with
  | dispatched message => exact dispatchFirst_asking message
  | _ => rfl

theorem nextForward_asking (h : nextForward ctx handler input = some (after, next)) : next.asking = none := by
  cases nextForward_cases h <;> rfl

theorem nextUnforward_asking (h : nextUnforward ctx handler input = some (after, next)) :
    next.asking = none := by
  cases nextUnforward_cases h <;> rfl

theorem nextScanner_asking (h : nextScanner ctx handler input = some (after, next)) : next.asking = none := by
  cases nextScanner_cases h <;> rfl

theorem nextServing_asking (h : nextServing cfg ctx handler input = some (after, next)) :
    next.asking = none := by
  cases nextServing_cases h with
  | dispatched message => exact dispatchContainer_asking _ _ message
  | _ => rfl

theorem nextAuxiliary_asking (h : nextAuxiliary ctx handler input = some (after, next)) :
    next.asking = none := by
  cases nextAuxiliary_cases h <;> rfl

/-- A client that is asking has been, or is taken from the queue. -/
theorem nextHandler_asking (h : nextHandler cfg ctx handler input = some (after, next))
    (hAsking : next.asking = some client) : handler.asking = some client ∨ client ∈ ctx.proxy.clientQueue := by
  have silent (hNone : next.asking = none) : handler.asking = some client ∨ client ∈ ctx.proxy.clientQueue := by
    rw [hNone] at hAsking
    cases hAsking
  unfold nextHandler at h
  split at h
  case h_1 =>
    cases nextIdle_cases h with
    | client hQueue =>
        cases hAsking
        rw [hQueue]
        exact .inr List.mem_cons_self
    | _ => cases hAsking
  case h_2 => cases h
  case h_3 task =>
    obtain ⟨proxy, task', rfl, rfl, hClient | hData⟩ := nextProxy_cases h
    · cases nextClient_cases hClient with
      | routed => exact .inl hAsking
      | counted => exact .inl hAsking
      | _ => cases hAsking
    · cases nextData_cases hData with
      | dispatched message => exact silent (dispatchData_asking ctx.proxy message)
      | _ => cases hAsking
  all_goals first
    | exact silent (nextRegister_asking h)
    | exact silent (nextForward_asking h)
    | exact silent (nextUnforward_asking h)
    | exact silent (nextScanner_asking h)
    | exact silent (nextServing_asking h)
    | exact silent (nextAuxiliary_asking h)

namespace Tunnel

theorem HostMove.reached (h : HostMove cfg t t') (hReached : Reachable (Daemon.step cfg) (Daemon.start cfg) t.host) :
    Reachable (Daemon.step cfg) (Daemon.start cfg) t'.host := by
  rcases h.host with hSame | ⟨hostAction, hHost⟩
  · rw [hSame]
    exact hReached
  · exact hReached.tail hHost

theorem HostMove.serves (h : HostMove cfg t t') (hReached : Reachable (Daemon.step cfg) (Daemon.start cfg) t.host)
    (hServes : t.host.ctx.Serves client) : t'.host.ctx.Serves client := by
  rcases h.host with hSame | ⟨hostAction, hHost⟩
  · rw [hSame]
    exact hServes
  · refine hServes.imp fun hostPort => ?_
    exact Daemon.step_listenerPorts (Daemon.reachable_listenersSound hReached).fresh hHost

theorem update_issued {issued : String → Option Issue} {named : String} {old new : Issue}
    (h : Function.update issued named (some new) connId = some old) : issued connId = some old ∨ new = old := by
  by_cases hHere : connId = named
  · rw [hHere, Function.update_self] at h
    exact .inr (Option.some.inj h)
  · exact .inl (by rwa [Function.update_of_ne hHere] at h)

theorem present_issued {named : String} {origin : Issue} (h : (t.present named).issued connId = some origin) :
    t.issued connId = some origin ∨ origin = .foreign := by
  unfold present at h
  split at h
  · exact (update_issued h).imp_right Eq.symm
  · exact .inl h

/-- The host generates a conn_id for a client that asks for one. -/
theorem observe_issued {other : Nat} {origin : Issue} (h : (t.observe other input).issued connId = some origin) :
    t.issued connId = some origin ∨ origin = .foreign ∨ ∃ client route,
      origin = .client other client route ∧ (t.host.tasks other).asking = some client := by
  unfold observe at h
  split at h
  case h_1 client route named hTask =>
    refine (update_issued h).imp_right fun hOrigin => .inr ⟨client, route, hOrigin.symm, ?_⟩
    rw [hTask]
    rfl
  case h_2 => exact (present_issued h).imp_right .inl
  case h_3 => exact (present_issued h).imp_right .inl
  case h_4 registration _ =>
    split_ifs at h
    · obtain ⟨requests, hFrame⟩ := t.writeRequest_frame registration
      exact .inl (by rwa [hFrame] at h)
    · exact .inl h
  case h_5 named _ =>
    obtain ⟨delivered, hFrame⟩ := t.deliver_frame other named
    exact .inl (by rwa [hFrame] at h)
  case h_6 socketId named _ =>
    obtain ⟨hostPaths, hFrame⟩ := t.lookUp_frame socketId named
    exact .inl (by rwa [hFrame] at h)
  case h_7 => exact .inl h

theorem step_issued_client (hStep : t.step cfg hostDataAddr action = some t')
    (h : t'.issued connId = some (.client id client route)) :
    t.issued connId = some (.client id client route) ∨ (t.host.tasks id).asking = some client := by
  cases step_cases hStep with
  | @host hostAction host =>
      cases hostAction with
      | clientConnects => exact .inl h
      | stop => exact .inl h
      | task other input =>
          rcases observe_issued h with hOld | hForeign | ⟨_, _, hOrigin, hAsking⟩
          · exact .inl hOld
          · cases hForeign
          · cases hOrigin
            exact .inr hAsking
  | accept =>
      rcases update_issued h with hOld | hOrigin
      · exact .inl hOld
      · cases hOrigin
  | @relay registration dialer message rest _ =>
      rcases (t.writeRelay registration message rest).confirm_cases hostDataAddr dialer with
        hSame | ⟨_, _, _, _, hSame⟩ <;> rw [hSame] at h <;> exact .inl h
  | _ => exact .inl h

theorem start_served (cfg : HostConfig) : (Tunnel.start cfg).Served where
  asking := by
    intro id client hAsking
    change Handler.asking (if cfg.scanSockets ∧ id = 0 then .scanning else .idle) = some client at hAsking
    split_ifs at hAsking <;> cases hAsking
  issued := fun _ _ _ _ h => (nomatch h)

theorem step_served (h : t.Served) (hReached : Reachable (Daemon.step cfg) (Daemon.start cfg) t.host)
    (hStep : t.step cfg hostDataAddr action = some t') : t'.Served where
  asking := by
    intro id client hAsking
    have hMove := step_hostMove hStep
    rcases hMove.task id with hSame | ⟨input, after, hNext, -⟩
    · exact hMove.serves hReached (h.asking id client (hSame ▸ hAsking))
    · rcases nextHandler_asking hNext hAsking with hBefore | hQueued
      · exact hMove.serves hReached (h.asking id client hBefore)
      · exact hMove.serves hReached ((Daemon.reachable_listenersSound hReached).queue client hQueued)
  issued := by
    intro connId id client route hIssued
    refine (step_hostMove hStep).serves hReached ?_
    rcases step_issued_client hStep hIssued with hOld | hAsking
    · exact h.issued connId id client route hOld
    · exact h.asking id client hAsking

theorem start_sound (cfg : HostConfig) : (Tunnel.start cfg).Sound cfg where
  reached := .refl _
  recorded := start_recorded
  asked := start_asked cfg
  matched := start_matched cfg
  served := start_served cfg

theorem step_sound (h : t.Sound cfg) (hGuard : t.Unguessed action) (hStep : t.step cfg hostDataAddr action = some t') :
    t'.Sound cfg := by
  have hGrows := step_grows h.recorded hGuard hStep
  exact {
    reached := (step_hostMove hStep).reached h.reached
    recorded := step_recorded h.recorded hGuard hStep
    asked := step_asked h.asked hGrows hStep
    matched := step_matched h.matched hGrows hGuard hStep
    served := step_served h.served h.reached hStep }

theorem run_sound (run : Run (Tunnel.step cfg hostDataAddr) (Tunnel.start cfg) trace t)
    (hGuard : Guarded Tunnel.Unguessed trace) : t.Sound cfg :=
  run.invariant hGuard (start_sound cfg) fun _ _ _ => step_sound

/-- A conn_id that is not foreign is presented by a dialling task for it. -/
theorem Sound.joins (h : t.Sound cfg) {origin : Issue} (hIssued : t.issued connId = some origin)
    (hOrigin : origin ≠ .foreign) (hHolds : t.host.Holds connId receiver)
    (hDelivered : t.host.ctx.proxy.receivers receiver = .delivered) :
    ∃ task, t.Joins receiver task ∧ task.connId = connId ∧
      (∃ dialer, t.dialers dialer = some task ∧ t.Purposeful dialer task) ∧
      ∀ port position, task.dialer = .connect port position → position.hasDialled = true := by
  obtain ⟨data, hData⟩ := h.matched.known receiver hDelivered
  have hSent := h.matched.held connId receiver data hHolds hData
  unfold SentBy at hSent
  split at hSent
  case h_1 dialer hDialled =>
    obtain ⟨task, hTask, hConnId⟩ := hSent
    obtain ⟨-, held, hHeld, hPosition⟩ := h.recorded.dialled data dialer hDialled
    cases hTask.symm.trans hHeld
    refine ⟨task, ⟨data, dialer, hData, hDialled, hTask, ?_⟩, hConnId, ?_, hPosition⟩
    · exact fun other hOther => h.matched.alone receiver other data hData hOther
    · exact ⟨dialer, hTask, h.asked.dialers dialer task hTask⟩
  case h_2 =>
    rw [hIssued] at hSent
    exact absurd (Option.some.inj hSent) hOrigin

end Tunnel

/-- The route of a client handler that holds a receiver, and what it holds. -/
def Handler.clientTicket : Handler → Option (ClientRoute × String × Nat)
  | .proxy (.clientSend _ route connId receiver) | .proxy (.clientSubscribe route connId receiver)
  | .proxy (.clientBridge route connId receiver _) => some (route, connId, receiver)
  | _ => none

theorem Handler.ticket_of_clientTicket {handler : Handler} {receiver : Nat}
    (h : handler.clientTicket = some (route, connId, receiver)) : handler.ticket = some (connId, receiver) := by
  unfold Handler.clientTicket at h
  split at h <;> cases h <;> rfl

/-- The conn_id of a client handler was generated for it. -/
theorem Handler.IssuedTo.of_clientTicket {handler : Handler} {receiver : Nat} {issued : String → Option Issue}
    (h : handler.IssuedTo issued id) (hTicket : handler.clientTicket = some (route, connId, receiver)) :
    ∃ client, issued connId = some (.client id client route) := by
  unfold Handler.clientTicket at hTicket
  split at hTicket
  · cases hTicket
    exact ⟨_, h⟩
  · cases hTicket
    exact h
  · cases hTicket
    exact h
  · cases hTicket

namespace Tunnel

/-- A client is joined to a task that has connected to the container port of
the client's listener, for the registration of the client's route. -/
theorem client_reaches_service (run : Run (Tunnel.step cfg hostDataAddr) (Tunnel.start cfg) trace t)
    (hGuard : Guarded Tunnel.Unguessed trace)
    (hTicket : (t.host.tasks id).clientTicket = some (route, connId, receiver))
    (hDelivered : t.host.ctx.proxy.receivers receiver = .delivered) :
    ∃ client task position, t.issued connId = some (.client id client route) ∧ t.Joins receiver task ∧
      task.connId = connId ∧ route.connectTx = some task.registration ∧
      task.dialer = .connect client.containerPort position ∧ position.hasDialled = true ∧
      t.host.ctx.Serves client := by
  have h := run_sound run hGuard
  obtain ⟨client, hIssued⟩ := (h.asked.clients id).of_clientTicket hTicket
  have hHolds : t.host.Holds connId receiver := .inl ⟨id, Handler.ticket_of_clientTicket hTicket⟩
  obtain ⟨task, hJoins, hConnId, ⟨dialer, -, hPurpose⟩, hPosition⟩ :=
    h.joins hIssued (fun hForeign => (nomatch hForeign)) hHolds hDelivered
  unfold Purposeful at hPurpose
  split at hPurpose
  case h_1 port position hDialer =>
    obtain ⟨id', client', route', hIssued', hPort, hRoute⟩ := hPurpose
    dsimp only at hIssued' hPort
    rw [hConnId, hIssued] at hIssued'
    cases hIssued'
    refine ⟨client, task, position, hIssued, hJoins, hConnId, hRoute, ?_, hPosition port position hDialer, ?_⟩
    · rw [hDialer, hPort]
    · exact h.served.issued connId id client route hIssued
  case h_2 socketId position hDialer =>
    rw [hConnId, hIssued] at hPurpose
    cases hPurpose

/-- A client waits, its request reaches the container, and the container opens
the data connection. -/
def serviceSchedule : List TunnelAction :=
  (bridgeSchedule 7).map .host ++
    [.openSession 1, .host (.task 1 (.flushRequest true)), .spawn 1, .dialer 0 (.attempt .connected),
      .dial 0 3, .dialer 0 (.sent (.ok ())), .handshake 3, .host (.task 3 .proceed)]

theorem client_reaches_service_bridged :
    ∃ trace t, trace.map Prod.snd = serviceSchedule ∧
      Run (Tunnel.step .basic "host") (Tunnel.start .basic) trace t ∧
      ∃ route, (t.host.tasks 2).clientTicket = some (route, "x", 0) ∧
        ∃ client task position, t.issued "x" = some (.client 2 client route) ∧ t.Joins 0 task ∧
          task.connId = "x" ∧ route.connectTx = some task.registration ∧
          task.dialer = .connect client.containerPort position ∧ position.hasDialled = true ∧
          t.host.ctx.Serves client := by
  have hRun : (execWhile (Tunnel.step .basic "host") (fun t action => decide (t.Unguessed action))
      (Tunnel.start .basic) serviceSchedule).any fun t =>
        (t.host.tasks 2).clientTicket.any (fun held => held.2 == ("x", 0)) &&
          t.host.ctx.proxy.receivers 0 == .delivered := by
    decide
  obtain ⟨t, hExec, hEnd⟩ := (Option.any_eq_true _ _).mp hRun
  obtain ⟨hTask, hDelivered⟩ := (Bool.and_eq_true _ _).mp hEnd
  obtain ⟨⟨route, held⟩, hTicket, hHeld⟩ := (Option.any_eq_true _ _).mp hTask
  obtain ⟨trace, hActions, run, hCheck⟩ := run_of_execWhile hExec
  have hGuard : Guarded Tunnel.Unguessed trace := fun entry hEntry => of_decide_eq_true (hCheck entry hEntry)
  obtain rfl : held = ("x", 0) := beq_iff_eq.mp hHeld
  exact ⟨trace, t, hActions, run, route, hTicket,
    client_reaches_service run hGuard hTicket (beq_iff_eq.mp hDelivered)⟩

end Tunnel
end DevcontainerBridge
