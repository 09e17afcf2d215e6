import DevcontainerBridge.Ledger.Places
import DevcontainerBridge.Tunnel.Clients

/-! No connection is dialled twice. The conn_id of a client is at one place at a
time on its way to the container: with the client handler, in the queue of a
registration, on its control connection, or with one dialling task. -/
namespace DevcontainerBridge

open Table Transition

/-- Where the request for a conn_id is. -/
inductive Spot where
  | client (id : Nat)
  | queued (channel : Nat)
  | written (registration : Nat)
  | dialling (dialer : Nat)
  | gone

def connIds (requests : List OutboundConnectRequest) : List String :=
  requests.map OutboundConnectRequest.connId

structure Tracked (place : String → Spot) (tasks : Nat → Handler)
    (queues requests : Nat → List OutboundConnectRequest) (dialers : Nat → Option DialTask) : Prop where
  sending : ∀ id client route connId receiver, tasks id = .proxy (.clientSend client route connId receiver) →
    place connId = .client id
  queued : Ledger.Placed place .queued fun channel => connIds (queues channel)
  written : Ledger.Placed place .written fun registration => connIds (requests registration)
  dialling : ∀ dialer task, dialers dialer = some task → place task.connId = .dialling dialer

def Tunnel.Tracked (place : String → Spot) (t : Tunnel) : Prop :=
  DevcontainerBridge.Tracked place t.host.tasks t.host.ctx.proxy.connectRequests t.requests t.dialers

variable {cfg : HostConfig} {hostDataAddr : String} {ctx after : DaemonContext} {handler next : Handler}
  {input : Input} {connId : String} {place : String → Spot} {id dialer : Nat} {tasks tasks' : Nat → Handler}
  {queues requests : Nat → List OutboundConnectRequest} {dialers : Nat → Option DialTask}
  {request : OutboundConnectRequest} {rest : List OutboundConnectRequest} {channel registration : Nat}
  {t t' : Tunnel} {action : TunnelAction} {trace : List (Tunnel × TunnelAction)}

theorem queued_injective : Function.Injective Spot.queued := fun _ _ h => Spot.queued.inj h

theorem written_injective : Function.Injective Spot.written := fun _ _ h => Spot.written.inj h

theorem update_connIds (queues : Nat → List OutboundConnectRequest) (channel : Nat)
    (queue : List OutboundConnectRequest) :
    (fun other => connIds (Function.update queues channel queue other)) =
      Function.update (fun other => connIds (queues other)) channel (connIds queue) := by
  funext other
  by_cases hHere : other = channel
  · rw [hHere, Function.update_self, Function.update_self]
  · rw [Function.update_of_ne hHere, Function.update_of_ne hHere]

/-- Tasks may leave the place where they are about to send. -/
theorem Tracked.leave (h : Tracked place tasks queues requests dialers)
    (hSending : ∀ id client route connId receiver, tasks' id = .proxy (.clientSend client route connId receiver) →
      tasks id = .proxy (.clientSend client route connId receiver)) :
    Tracked place tasks' queues requests dialers where
  sending := fun id client route connId receiver hTask =>
    h.sending id client route connId receiver (hSending id client route connId receiver hTask)
  queued := h.queued
  written := h.written
  dialling := h.dialling

/-- Nobody who is about to send notices that another conn_id moves. -/
theorem Tracked.still_sending (h : Tracked place tasks queues requests dialers)
    (hPlace : ∀ id, place connId ≠ .client id) (spot : Spot) :
    ∀ id client route named receiver, tasks id = .proxy (.clientSend client route named receiver) →
      Function.update place connId spot named = .client id := by
  intro id client route named receiver hTask
  have hNamed := h.sending id client route named receiver hTask
  have hOther : named ≠ connId := by
    rintro rfl
    exact hPlace id hNamed
  rw [Function.update_of_ne hOther, hNamed]

theorem Tracked.still_dialling (h : Tracked place tasks queues requests dialers)
    (hPlace : ∀ dialer, place connId ≠ .dialling dialer) (spot : Spot) :
    ∀ dialer task, dialers dialer = some task → Function.update place connId spot task.connId = .dialling dialer := by
  intro dialer task hTask
  have hNamed := h.dialling dialer task hTask
  have hOther : task.connId ≠ connId := by
    rintro rfl
    exact hPlace dialer hNamed
  rw [Function.update_of_ne hOther, hNamed]

/-- A client handler has sent its request to the queue of a registration. -/
theorem Tracked.enqueue (h : Tracked place tasks queues requests dialers) (port : UInt16) (channel : Nat)
    (hPlace : place connId = .client id)
    (hNext : ∀ client route named receiver, next ≠ .proxy (.clientSend client route named receiver)) :
    Tracked (Function.update place connId (.queued channel)) (Function.update tasks id next)
      (Function.update queues channel (queues channel ++ [{ port := port, connId := connId }])) requests dialers := by
  refine ⟨?_, ?_, ?_, ?_⟩
  · intro other client' route' named receiver' hOther
    by_cases hHere : other = id
    · rw [hHere, Function.update_self] at hOther
      exact absurd hOther (hNext client' route' named receiver')
    · rw [Function.update_of_ne hHere] at hOther
      have hNamed := h.sending other client' route' named receiver' hOther
      have hDifferent : named ≠ connId := by
        rintro rfl
        exact hHere (Spot.client.inj (hNamed.symm.trans hPlace))
      rw [Function.update_of_ne hDifferent, hNamed]
  · rw [update_connIds]
    simp only [connIds, List.map_append, List.map_cons, List.map_nil]
    exact h.queued.push (h.queued.absent fun _ hSame => (nomatch hPlace.symm.trans hSame)) channel
  · exact h.written.moved (h.written.absent fun _ hSame => (nomatch hPlace.symm.trans hSame)) _
  · exact h.still_dialling (fun _ hSame => (nomatch hPlace.symm.trans hSame)) _

theorem Tracked.place_queued (h : Tracked place tasks queues requests dialers)
    (hQueue : queues channel = request :: rest) : place request.connId = .queued channel := by
  refine h.queued.place channel request.connId ?_
  rw [hQueue]
  exact List.mem_cons_self

/-- The first request of a queue is lost. -/
theorem Tracked.lose (h : Tracked place tasks queues requests dialers) (hQueue : queues channel = request :: rest) :
    Tracked (Function.update place request.connId .gone) tasks (Function.update queues channel rest) requests
      dialers := by
  have hPlace := h.place_queued hQueue
  refine ⟨?_, ?_, ?_, ?_⟩
  · exact h.still_sending (fun _ hSame => (nomatch hPlace.symm.trans hSame)) _
  · rw [update_connIds]
    exact h.queued.pop queued_injective (congrArg connIds hQueue) _
  · exact h.written.moved (h.written.absent fun _ hSame => (nomatch hPlace.symm.trans hSame)) _
  · exact h.still_dialling (fun _ hSame => (nomatch hPlace.symm.trans hSame)) _

/-- The first request of a queue is written. -/
theorem Tracked.write (h : Tracked place tasks queues requests dialers) (hQueue : queues channel = request :: rest) :
    Tracked (Function.update place request.connId (.written channel)) tasks (Function.update queues channel rest)
      (Function.update requests channel (requests channel ++ [request])) dialers := by
  have hPlace := h.place_queued hQueue
  refine ⟨?_, ?_, ?_, ?_⟩
  · exact h.still_sending (fun _ hSame => (nomatch hPlace.symm.trans hSame)) _
  · rw [update_connIds]
    exact h.queued.pop queued_injective (congrArg connIds hQueue) _
  · rw [update_connIds]
    simp only [connIds, List.map_append, List.map_cons, List.map_nil]
    exact h.written.push (h.written.absent fun _ hSame => (nomatch hPlace.symm.trans hSame)) channel
  · exact h.still_dialling (fun _ hSame => (nomatch hPlace.symm.trans hSame)) _

/-- A written request is read, and a dialling task is spawned for it. -/
theorem Tracked.spawn (h : Tracked place tasks queues requests dialers)
    (hRequests : requests registration = request :: rest) {task : DialTask} (hTask : task.connId = request.connId) :
    Tracked (Function.update place request.connId (.dialling dialer)) tasks queues
      (Function.update requests registration rest) (Function.update dialers dialer (some task)) := by
  have hPlace : place request.connId = .written registration := by
    refine h.written.place registration request.connId ?_
    rw [hRequests]
    exact List.mem_cons_self
  refine ⟨?_, ?_, ?_, ?_⟩
  · exact h.still_sending (fun _ hSame => (nomatch hPlace.symm.trans hSame)) _
  · exact h.queued.moved (h.queued.absent fun _ hSame => (nomatch hPlace.symm.trans hSame)) _
  · rw [update_connIds]
    exact h.written.pop written_injective (congrArg connIds hRequests) _
  · intro other held hHeld
    by_cases hHere : other = dialer
    · rw [hHere, Function.update_self] at hHeld
      cases hHeld
      rw [hTask, Function.update_self, hHere]
    · rw [Function.update_of_ne hHere] at hHeld
      exact h.still_dialling (fun _ hSame => (nomatch hPlace.symm.trans hSame)) _ other held hHeld

/-- Nothing that is on its way has this conn_id. -/
structure Unused (connId : String) (tasks : Nat → Handler) (queues requests : Nat → List OutboundConnectRequest)
    (dialers : Nat → Option DialTask) : Prop where
  sending : ∀ id client route receiver, tasks id ≠ .proxy (.clientSend client route connId receiver)
  queued : ∀ channel, connId ∉ connIds (queues channel)
  written : ∀ registration, connId ∉ connIds (requests registration)
  dialling : ∀ dialer task, dialers dialer = some task → task.connId ≠ connId

/-- A conn_id that is new goes to a client handler or to a dialling task. -/
theorem Tracked.fresh (h : Tracked place tasks queues requests dialers)
    (hUnused : Unused connId tasks queues requests dialers) (spot : Spot) :
    Tracked (Function.update place connId spot) tasks queues requests dialers where
  sending := by
    intro id client route named receiver hTask
    have hOther : named ≠ connId := by
      rintro rfl
      exact hUnused.sending id client route receiver hTask
    rw [Function.update_of_ne hOther]
    exact h.sending id client route named receiver hTask
  queued := h.queued.moved hUnused.queued spot
  written := h.written.moved hUnused.written spot
  dialling := by
    intro dialer task hTask
    rw [Function.update_of_ne (hUnused.dialling dialer task hTask)]
    exact h.dialling dialer task hTask

/-- A client handler comes to hold the conn_id that is generated for it. -/
theorem Tracked.generate (h : Tracked place tasks queues requests dialers)
    (hUnused : Unused connId tasks queues requests dialers)
    (hNext : ∀ client route named receiver, next = .proxy (.clientSend client route named receiver) →
      named = connId) :
    Tracked (Function.update place connId (.client id)) (Function.update tasks id next) queues requests dialers := by
  have hFresh := h.fresh hUnused (.client id)
  refine ⟨fun other client route named receiver hTask => ?_, hFresh.queued, hFresh.written, hFresh.dialling⟩
  by_cases hHere : other = id
  · rw [hHere, Function.update_self] at hTask
    rw [hNext client route named receiver hTask, Function.update_self, hHere]
  · rw [Function.update_of_ne hHere] at hTask
    exact hFresh.sending other client route named receiver hTask

theorem Tracked.addDialer (h : Tracked place tasks queues requests dialers) {task : DialTask}
    (hUnused : Unused task.connId tasks queues requests dialers) :
    Tracked (Function.update place task.connId (.dialling dialer)) tasks queues requests
      (Function.update dialers dialer (some task)) := by
  have hFresh := h.fresh hUnused (.dialling dialer)
  refine ⟨hFresh.sending, hFresh.queued, hFresh.written, fun other held hHeld => ?_⟩
  by_cases hHere : other = dialer
  · rw [hHere, Function.update_self] at hHeld
    cases hHeld
    rw [Function.update_self, hHere]
  · rw [Function.update_of_ne hHere] at hHeld
    exact hFresh.dialling other held hHeld

/-- A dialling task keeps its conn_id. -/
theorem Tracked.setDialer (h : Tracked place tasks queues requests dialers) {task held : DialTask}
    (hTask : dialers dialer = some task) (hHeld : held.connId = task.connId) :
    Tracked place tasks queues requests (Function.update dialers dialer (some held)) := by
  refine ⟨h.sending, h.queued, h.written, fun other held' hOther => ?_⟩
  by_cases hHere : other = dialer
  · rw [hHere, Function.update_self] at hOther
    cases hOther
    rw [hHeld, hHere]
    exact h.dialling dialer task hTask
  · rw [Function.update_of_ne hHere] at hOther
    exact h.dialling other held' hOther

/-- The written requests of a session that ends are lost. -/
theorem Tracked.clear (h : Tracked place tasks queues requests dialers) (registration : Nat) :
    Tracked place tasks queues (Function.update requests registration []) dialers := by
  refine ⟨h.sending, h.queued, ?_, h.dialling⟩
  rw [update_connIds]
  exact h.written.sublist (List.nil_sublist _)

/-- Where a handler comes to hold a conn_id that it is to send. -/
theorem nextHandler_sending {client : ClientConnection} {route : ClientRoute} {receiver : Nat}
    (h : nextHandler cfg ctx handler input = some (after, .proxy (.clientSend client route connId receiver))) :
    handler = .proxy (.clientRegister client route) ∧ input = .uuid connId := by
  have silent {p : Prop} (hNone : (Handler.proxy (.clientSend client route connId receiver)).ticket = none) : p :=
    nomatch hNone
  unfold nextHandler at h
  split at h
  case h_1 => cases nextIdle_cases h
  case h_2 => cases h
  case h_3 task =>
    obtain ⟨proxy, task', -, hTask, hClient | hData⟩ := nextProxy_cases h
    · cases hTask
      cases nextClient_cases hClient with
      | registered => exact ⟨rfl, rfl⟩
    · cases nextData_cases hData with
      | dispatched message => exact silent (hTask ▸ dispatchData_ticket cfg ctx.proxy message)
      | _ => cases hTask
  all_goals first
    | exact silent (nextRegister_sameMatching h).2.ticket
    | exact silent (nextForward_sameMatching h).2.ticket
    | exact silent (nextUnforward_sameMatching h).2.ticket
    | exact silent (nextScanner_sameMatching h).2.ticket
    | exact silent (nextServing_ticket h)
    | cases nextAuxiliary_cases h

/-- The message loop takes the first request of its queue. -/
theorem nextServing_flushRequest {ok : Bool}
    (h : nextServing cfg ctx handler (.flushRequest ok) = some (after, next)) :
    ∃ containerId registrationId request rest, handler = .serving containerId registrationId ∧
      ctx.proxy.connectRequests registrationId = request :: rest ∧
      after.proxy.connectRequests = Function.update ctx.proxy.connectRequests registrationId rest ∧
      next = .serving containerId registrationId := by
  cases nextServing_cases h with
  | requestFlushed hQueue => exact ⟨_, _, _, _, rfl, hQueue, rfl, rfl⟩
  | requestLost hQueue => exact ⟨_, _, _, _, rfl, hQueue, rfl, rfl⟩

theorem nextHandler_flushRequest {ok : Bool}
    (h : nextHandler cfg ctx handler (.flushRequest ok) = some (after, next)) :
    ∃ containerId registrationId request rest, handler = .serving containerId registrationId ∧
      ctx.proxy.connectRequests registrationId = request :: rest ∧
      after.proxy.connectRequests = Function.update ctx.proxy.connectRequests registrationId rest ∧
      next = .serving containerId registrationId := by
  unfold nextHandler at h
  split at h
  case h_1 => cases nextIdle_cases h
  case h_2 => cases h
  case h_3 task =>
    obtain ⟨proxy, task', -, -, hClient | hData⟩ := nextProxy_cases h
    · cases nextClient_cases hClient
    · cases nextData_cases hData with
      | captured _ hEnd => rcases hEnd with hEnd | hEnd <;> cases hEnd
  all_goals first
    | cases nextRegister_cases h
    | cases nextForward_cases h
    | cases nextUnforward_cases h
    | cases nextScanner_cases h
    | exact nextServing_flushRequest h
    | cases nextAuxiliary_cases h

namespace Tunnel

/-- What is on its way has a conn_id that was generated. -/
theorem Asked.unused (h : t.Asked) (hNone : t.issued connId = none) :
    Unused connId t.host.tasks t.host.ctx.proxy.connectRequests t.requests t.dialers := by
  have requested {registration : Nat} {request : OutboundConnectRequest} (hHere : request.connId = connId)
      (hRequested : t.Requested registration request) : False := by
    obtain ⟨_, _, _, hIssued, -⟩ := hRequested
    rw [hHere, hNone] at hIssued
    cases hIssued
  refine ⟨?_, ?_, ?_, ?_⟩
  · intro id client route receiver hTask
    have hIssued := h.clients id
    rw [hTask] at hIssued
    cases hNone.symm.trans hIssued
  · intro channel hMember
    obtain ⟨request, hRequest, hHere⟩ := List.mem_map.mp hMember
    exact requested hHere (h.queued channel request hRequest)
  · intro registration hMember
    obtain ⟨request, hRequest, hHere⟩ := List.mem_map.mp hMember
    exact requested hHere (h.written registration request hRequest)
  · intro dialer task hTask hHere
    have hPurpose := h.dialers dialer task hTask
    unfold Purposeful at hPurpose
    split at hPurpose
    · exact requested hHere hPurpose
    · rw [hHere, hNone] at hPurpose
      cases hPurpose

/-- Only the message loop of a session writes on its control connection. -/
theorem observe_requests {id : Nat} (hInput : ∀ ok, input ≠ .flushRequest ok) :
    (t.observe id input).requests = t.requests := by
  have present (connId : String) : (t.present connId).requests = t.requests := by
    unfold present
    split <;> rfl
  unfold observe
  split
  case h_1 => rfl
  case h_2 connId _ => exact present connId
  case h_3 connId _ => exact present connId
  case h_4 => exact absurd rfl (hInput true)
  case h_5 connId _ =>
    obtain ⟨delivered, hFrame⟩ := t.deliver_frame id connId
    rw [hFrame]
  case h_6 socketId connId _ =>
    obtain ⟨hostPaths, hFrame⟩ := t.lookUp_frame socketId connId
    rw [hFrame]
  case h_7 => rfl

/-- A request is taken for the control connection. It is written there, or lost. -/
theorem Tracked.flush (h : t.Tracked place) {containerId : String} {ok : Bool}
    (hTask : t.host.tasks id = .serving containerId registration)
    (hQueue : t.host.ctx.proxy.connectRequests registration = request :: rest) :
    ∃ place', DevcontainerBridge.Tracked place' t.host.tasks
      (Function.update t.host.ctx.proxy.connectRequests registration rest)
      (t.observe id (.flushRequest ok)).requests t.dialers := by
  unfold observe
  rw [hTask]
  cases ok with
  | false => exact ⟨_, h.lose hQueue⟩
  | true =>
      dsimp only
      split_ifs
      · unfold writeRequest
        rw [hQueue]
        exact ⟨_, h.write hQueue⟩
      · exact ⟨_, h.lose hQueue⟩

theorem step_tracked_host (h : t.Tracked place) (hAsked : t.Asked) {hostAction : Action} {host : Daemon}
    (hGuard : t.Unguessed (.host hostAction)) (hHost : Daemon.step cfg t.host hostAction = some host) :
    ∃ place', Tunnel.Tracked place' { t.observed hostAction with host := host } := by
  have hDialers : (t.observed hostAction).dialers = t.dialers := by
    obtain ⟨_, _, _, _, hFrame⟩ := t.observed_frame hostAction
    rw [hFrame]
  cases (Daemon.step_cases hHost).2 with
  | clientConnects hAccept =>
      obtain ⟨l, -, rfl⟩ := DaemonContext.acceptClient_frame hAccept
      exact ⟨place, h⟩
  | stop => exact ⟨place, h⟩
  | @task id input after next hNext _ =>
      unfold Tunnel.Tracked
      dsimp only
      rw [hDialers]
      dsimp only [observed]
      by_cases hFlush : ∃ ok, input = .flushRequest ok
      · obtain ⟨ok, rfl⟩ := hFlush
        obtain ⟨containerId, registration, request, rest, hTask, hQueue, hAfter, rfl⟩ :=
          nextHandler_flushRequest hNext
        rw [hAfter, ← hTask, Function.update_eq_self]
        exact h.flush hTask hQueue
      · have hInput : ∀ ok, input ≠ .flushRequest ok := fun ok hSame => hFlush ⟨ok, hSame⟩
        rw [observe_requests hInput]
        have hQueue := nextHandler_queueStep hNext
        generalize hTask : t.host.tasks id = handler at hQueue hNext
        cases hQueue with
        | flushed => exact absurd rfl (hInput _)
        | @queued _ client route connId receiver channel hChannel hQueued =>
            rw [hQueued]
            refine ⟨_, h.enqueue client.containerPort channel (h.sending id client route connId receiver hTask) ?_⟩
            rintro client' route' named receiver' rfl
            cases (nextHandler_sending hNext).2
        | same hSame =>
            rw [hSame]
            by_cases hSend : ∃ client route named receiver, next = .proxy (.clientSend client route named receiver)
            · obtain ⟨client, route, named, receiver, rfl⟩ := hSend
              obtain ⟨-, rfl⟩ := nextHandler_sending hNext
              refine ⟨_, h.generate (hAsked.unused (hGuard.fresh named rfl)) ?_⟩
              rintro _ _ _ _ hSame
              cases hSame
              rfl
            · refine ⟨place, h.leave fun other client route connId receiver hOther => ?_⟩
              by_cases hHere : other = id
              · rw [hHere, Function.update_self] at hOther
                exact absurd ⟨client, route, connId, receiver, hOther⟩ hSend
              · rwa [Function.update_of_ne hHere] at hOther

/-- What a container supplies moves no request on the side of the host. -/
theorem Tracked.supplied (h : t.Tracked place) {host : Daemon}
    (hInput : input = .connectData ∨ ∃ message, input = .receive message)
    (hHost : Daemon.step cfg t.host (.task id input) = some host) :
    DevcontainerBridge.Tracked place host.tasks host.ctx.proxy.connectRequests t.requests t.dialers := by
  cases (Daemon.step_cases hHost).2 with
  | @task _ _ after next hNext _ =>
      have hSend : ∀ client route named receiver, next ≠ .proxy (.clientSend client route named receiver) := by
        rintro client route named receiver rfl
        obtain ⟨-, rfl⟩ := nextHandler_sending hNext
        rcases hInput with hInput | ⟨_, hInput⟩ <;> cases hInput
      have hQueue := nextHandler_queueStep hNext
      generalize t.host.tasks id = handler at hQueue
      cases hQueue with
      | flushed => rcases hInput with hInput | ⟨_, hInput⟩ <;> cases hInput
      | queued => rcases hInput with hInput | ⟨_, hInput⟩ <;> cases hInput
      | same hSame =>
          dsimp only
          rw [hSame]
          refine h.leave fun other client route connId receiver hOther => ?_
          by_cases hHere : other = id
          · rw [hHere, Function.update_self] at hOther
            exact absurd hOther (hSend client route connId receiver)
          · rwa [Function.update_of_ne hHere] at hOther

theorem start_tracked (cfg : HostConfig) : (Tunnel.start cfg).Tracked fun _ => .gone where
  sending := by
    intro id client route connId receiver hTask
    change (if cfg.scanSockets ∧ id = 0 then Handler.scanning else .idle) = _ at hTask
    split_ifs at hTask
  queued := .empty _ _
  written := .empty _ _
  dialling := fun _ _ h => (nomatch h)

theorem step_tracked (h : t.Tracked place) (hAsked : t.Asked) (hGuard : t.Unguessed action)
    (hStep : t.step cfg hostDataAddr action = some t') : ∃ place', t'.Tracked place' := by
  cases step_cases hStep with
  | host hOwns hHost => exact step_tracked_host h hAsked hGuard hHost
  | openSession => exact ⟨place, h⟩
  | @closeSession registration => exact ⟨place, Tracked.clear h registration⟩
  | spawn hRequests => exact ⟨_, Tracked.spawn h hRequests rfl⟩
  | @accept registration socketId connId => exact ⟨_, Tracked.addDialer h (hAsked.unused (hGuard.fresh connId rfl))⟩
  | dialer hTask => exact ⟨place, Tracked.setDialer h hTask rfl⟩
  | dial hTask _ _ hHost => exact ⟨place, Tracked.setDialer (Tracked.supplied h (.inl rfl) hHost) hTask rfl⟩
  | handshake _ _ hHost => exact ⟨place, Tracked.supplied h (.inr ⟨_, rfl⟩) hHost⟩
  | enqueue hTask => exact ⟨place, Tracked.setDialer h hTask rfl⟩
  | @relay registration dialer message rest _ =>
      rcases (t.writeRelay registration message rest).confirm_cases hostDataAddr dialer with
        hSame | ⟨task, next, hTask, _, hSame⟩ <;> rw [hSame]
      · exact ⟨place, h⟩
      · exact ⟨place, Tracked.setDialer h hTask rfl⟩
  | read _ _ hHost => exact ⟨place, Tracked.supplied h (.inr ⟨_, rfl⟩) hHost⟩

structure Single (cfg : HostConfig) (t : Tunnel) : Prop where
  sound : t.Sound cfg
  tracked : ∃ place, t.Tracked place

theorem step_single (h : t.Single cfg) (hGuard : t.Unguessed action)
    (hStep : t.step cfg hostDataAddr action = some t') : t'.Single cfg := by
  obtain ⟨place, hTracked⟩ := h.tracked
  exact ⟨step_sound h.sound hGuard hStep, step_tracked hTracked h.sound.asked hGuard hStep⟩

theorem run_single (run : Run (Tunnel.step cfg hostDataAddr) (Tunnel.start cfg) trace t)
    (hGuard : Guarded Tunnel.Unguessed trace) : t.Single cfg :=
  run.invariant hGuard ⟨start_sound cfg, _, start_tracked cfg⟩ fun _ _ _ => step_single

theorem Single.dialled_once (h : t.Single cfg) {first second : Nat} {task task' : DialTask}
    (hFirst : t.dialers first = some task) (hSecond : t.dialers second = some task')
    (hSame : task'.connId = task.connId) : second = first := by
  obtain ⟨place, hTracked⟩ := h.tracked
  have hPlace := hTracked.dialling second task' hSecond
  rw [hSame, hTracked.dialling first task hFirst] at hPlace
  exact (Spot.dialling.inj hPlace).symm

/-- A container connects to a local port for a client of the host only, which
has connected to a listener of that port, and no two dialling tasks have one
conn_id. -/
theorem dial_answers_client (run : Run (Tunnel.step cfg hostDataAddr) (Tunnel.start cfg) trace t)
    (hGuard : Guarded Tunnel.Unguessed trace) :
    (∀ dialer task port position, t.dialers dialer = some task → task.dialer = .connect port position →
      ∃ id client route, t.issued task.connId = some (.client id client route) ∧ port = client.containerPort ∧
        route.connectTx = some task.registration ∧ t.host.ctx.Serves client) ∧
      ∀ first second task other, t.dialers first = some task → t.dialers second = some other →
        other.connId = task.connId → second = first := by
  have h := run_single run hGuard
  refine ⟨fun dialer task port position hTask hConnect => ?_, fun _ _ _ _ => h.dialled_once⟩
  have hPurpose := h.sound.asked.dialers dialer task hTask
  unfold Purposeful at hPurpose
  rw [hConnect] at hPurpose
  obtain ⟨id, client, route, hIssued, hPort, hRoute⟩ := hPurpose
  exact ⟨id, client, route, hIssued, hPort, hRoute, h.sound.served.issued _ id client route hIssued⟩

theorem dial_answers_client_served :
    ∃ trace t, trace.map Prod.snd = serviceSchedule ∧
      Run (Tunnel.step .basic "host") (Tunnel.start .basic) trace t ∧
      ∃ task position, t.dialers 0 = some task ∧ task.dialer = .connect 8080 position ∧
        (∃ id client route, t.issued task.connId = some (.client id client route) ∧
          (8080 : UInt16) = client.containerPort ∧ route.connectTx = some task.registration ∧
          t.host.ctx.Serves client) ∧
        ∀ second other, t.dialers second = some other → other.connId = task.connId → second = 0 := by
  have hRun : (execWhile (Tunnel.step .basic "host") (fun t action => decide (t.Unguessed action))
      (Tunnel.start .basic) serviceSchedule).any fun t =>
        t.dialers 0 == some { registration := 1, connId := "x", dialer := .connect 8080 (.bridging .ipv4) } := by
    decide
  obtain ⟨t, hExec, hEnd⟩ := (Option.any_eq_true _ _).mp hRun
  obtain ⟨trace, hActions, run, hCheck⟩ := run_of_execWhile hExec
  have hGuard : Guarded Tunnel.Unguessed trace := fun entry hEntry => of_decide_eq_true (hCheck entry hEntry)
  have hTask := beq_iff_eq.mp hEnd
  have hBoth := dial_answers_client run hGuard
  exact ⟨trace, t, hActions, run, _, _, hTask, rfl, hBoth.1 0 _ _ _ hTask rfl,
    fun second other => hBoth.2 0 second _ other hTask⟩

end Tunnel
end DevcontainerBridge
