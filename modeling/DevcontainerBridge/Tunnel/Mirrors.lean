import DevcontainerBridge.Host.EarlyData
import DevcontainerBridge.Tunnel.Clients

/-! A client of a mirror socket talks to the host socket that the mirror stands
for. The host looks a socket id up under the conn_id of the client, which is the
socket id of the mirror that has accepted the client, and the stream that the
bridge of the host socket is handed comes from that client's task. -/
namespace DevcontainerBridge

open Table Transition

/-- The conn_id that a host socket is being connected for. -/
def Handler.mirrors : Handler → Option String
  | .socketRegister _ _ connId | .socketConnect _ _ connId _ | .proxy (.socketBridge connId _) => some connId
  | _ => none

/-- The socket id that is being looked up, and its conn_id. -/
def Handler.looking : Handler → Option (String × String)
  | .socketLookup _ _ socketId connId => some (socketId, connId)
  | _ => none

namespace Tunnel

/-- The conn_id stands for a client of a mirror of this socket, or is foreign. -/
def Stands (t : Tunnel) (connId socketId : String) : Prop :=
  t.issued connId = some .foreign ∨ ∃ dialer task position, t.issued connId = some (.mirror dialer) ∧
    t.dialers dialer = some task ∧ task.connId = connId ∧ task.dialer = .mirror socketId position

structure Mirrored (t : Tunnel) : Prop where
  channel : ∀ registration, ∀ entry ∈ t.relayChannel registration, ∀ socketId connId,
    entry.2 = .socketConnectRequest socketId connId → t.Stands connId socketId
  relayed : ∀ registration, ∀ message ∈ t.relayed registration, ∀ socketId connId,
    message = .socketConnectRequest socketId connId → t.Stands connId socketId
  looking : ∀ id socketId connId, (t.host.tasks id).looking = some (socketId, connId) → t.Stands connId socketId
  paths : ∀ connId socketId path, t.hostPaths connId = some (socketId, path) → t.Stands connId socketId
  connecting : ∀ id connId, (t.host.tasks id).mirrors = some connId → (t.hostPaths connId).isSome = true
  bridges : ∀ connId receiver, (connId, receiver) ∈ t.host.ctx.proxy.bridges →
    (t.hostPaths connId).isSome = true

end Tunnel

variable {cfg : HostConfig} {hostDataAddr : String} {ctx after : DaemonContext} {handler next : Handler}
  {input : Input} {connId socketId path : String} {id registrationId : Nat} {containerId : String} {t t' : Tunnel}
  {action : TunnelAction} {trace : List (Tunnel × TunnelAction)}

theorem dispatchContainer_mirrors (containerId : String) (registrationId : Nat) (message : Message) :
    (dispatchContainer cfg containerId registrationId message).mirrors = none := by
  cases message <;> unfold dispatchContainer <;> dsimp only <;> (try split_ifs) <;> rfl

theorem dispatchFirst_mirrors (message : Message) : (dispatchFirst cfg message).mirrors = none := by
  cases message <;> unfold dispatchFirst <;> dsimp only <;> (try split_ifs) <;> rfl

theorem dispatchData_mirrors (p : ProxyState) (message : Message) :
    (Handler.proxy (dispatchData cfg p message).2).mirrors = none := by
  unfold dispatchData
  split
  case h_1 => split_ifs <;> rfl
  case h_2 => split_ifs <;> rfl
  case h_3 => rfl

theorem nextRegister_mirrors (h : nextRegister cfg ctx handler input = some (after, next)) :
    next.mirrors = none := by
  cases nextRegister_cases h with
  | dispatched message => exact dispatchFirst_mirrors message
  | _ => rfl

theorem nextForward_mirrors (h : nextForward ctx handler input = some (after, next)) : next.mirrors = none := by
  cases nextForward_cases h <;> rfl

theorem nextUnforward_mirrors (h : nextUnforward ctx handler input = some (after, next)) :
    next.mirrors = none := by
  cases nextUnforward_cases h <;> rfl

theorem nextScanner_mirrors (h : nextScanner ctx handler input = some (after, next)) : next.mirrors = none := by
  cases nextScanner_cases h <;> rfl

theorem nextServing_mirrors (h : nextServing cfg ctx handler input = some (after, next)) :
    next.mirrors = none := by
  cases nextServing_cases h with
  | dispatched message => exact dispatchContainer_mirrors _ _ message
  | _ => rfl

/-- Why a host socket is being connected for a conn_id. -/
inductive Connects (ctx : DaemonContext) (connId : String) : Handler → Input → Prop where
  | kept {handler : Handler} {input : Input} (hMirrors : handler.mirrors = some connId) :
      Connects ctx connId handler input
  | known {containerId socketId : String} {registrationId : Nat} (hSocket : socketId ∈ ctx.state.socketForwards) :
      Connects ctx connId (.socketLookup containerId registrationId socketId connId) .proceed
  | bridge {handler : Handler} {input : Input} {receiver : Nat} (hBridge : (connId, receiver) ∈ ctx.proxy.bridges) :
      Connects ctx connId handler input

theorem nextAuxiliary_mirrors (h : nextAuxiliary ctx handler input = some (after, next))
    (hMirrors : next.mirrors = some connId) : Connects ctx connId handler input := by
  cases nextAuxiliary_cases h with
  | known hSocket =>
      cases hMirrors
      exact .known hSocket
  | registered => exact .kept hMirrors
  | _ => cases hMirrors

theorem nextHandler_mirrors (h : nextHandler cfg ctx handler input = some (after, next))
    (hMirrors : next.mirrors = some connId) : Connects ctx connId handler input := by
  have silent (hNone : next.mirrors = none) : Connects ctx connId handler input := by
    rw [hNone] at hMirrors
    cases hMirrors
  unfold nextHandler at h
  split at h
  case h_1 =>
    cases nextIdle_cases h with
    | bridge hBridges =>
        cases hMirrors
        exact .bridge (hBridges ▸ List.mem_cons_self)
    | _ => cases hMirrors
  case h_2 => cases h
  case h_3 task =>
    obtain ⟨proxy, task', rfl, rfl, hClient | hData⟩ := nextProxy_cases h
    · cases nextClient_cases hClient <;> cases hMirrors
    · cases nextData_cases hData with
      | dispatched message => exact silent (dispatchData_mirrors ctx.proxy message)
      | _ => cases hMirrors
  all_goals first
    | exact silent (nextRegister_mirrors h)
    | exact silent (nextForward_mirrors h)
    | exact silent (nextUnforward_mirrors h)
    | exact silent (nextScanner_mirrors h)
    | exact silent (nextServing_mirrors h)
    | exact nextAuxiliary_mirrors h hMirrors

theorem nextAuxiliary_launched (h : nextAuxiliary ctx handler input = some (after, next)) {receiver : Nat}
    (hBridge : (connId, receiver) ∈ after.proxy.bridges) :
    (connId, receiver) ∈ ctx.proxy.bridges ∨ handler.mirrors = some connId := by
  cases nextAuxiliary_cases h with
  | registered hRegister => exact .inl ((register_some hRegister).bridges ▸ hBridge)
  | unregistered hRegister => exact .inl ((register_none hRegister).2.2.2.2 ▸ hBridge)
  | connected =>
      rcases List.mem_append.mp hBridge with hOld | hNew
      · exact .inl hOld
      · cases List.mem_singleton.mp hNew
        exact .inr rfl
  | _ => exact .inl hBridge

/-- A bridge waits already, or its host socket has just been connected. -/
theorem nextHandler_launched (h : nextHandler cfg ctx handler input = some (after, next)) {receiver : Nat}
    (hBridge : (connId, receiver) ∈ after.proxy.bridges) :
    (connId, receiver) ∈ ctx.proxy.bridges ∨ handler.mirrors = some connId := by
  unfold nextHandler at h
  split at h
  case h_1 => exact .inl (nextIdle_bridges h hBridge)
  case h_2 => cases h
  case h_3 task =>
    obtain ⟨proxy, task', rfl, rfl, hClient | hData⟩ := nextProxy_cases h
    · exact .inl (nextClient_bridges hClient ▸ hBridge)
    · exact .inl (nextData_bridges hData ▸ hBridge)
  all_goals first
    | exact .inl (nextRegister_bridges h ▸ hBridge)
    | exact .inl (nextForward_bridges h ▸ hBridge)
    | exact .inl (nextUnforward_bridges h ▸ hBridge)
    | exact .inl (nextScanner_bridges h ▸ hBridge)
    | exact .inl (nextServing_bridges h ▸ hBridge)
    | exact nextAuxiliary_launched h hBridge

theorem dispatchContainer_looking {message : Message}
    (h : (dispatchContainer cfg containerId registrationId message).looking = some (socketId, connId)) :
    message = .socketConnectRequest socketId connId := by
  cases message <;> unfold dispatchContainer at h <;> dsimp only at h <;> (try split_ifs at h) <;> cases h
  rfl

theorem dispatchFirst_looking (message : Message) : (dispatchFirst cfg message).looking = none := by
  cases message <;> unfold dispatchFirst <;> dsimp only <;> (try split_ifs) <;> rfl

theorem nextRegister_looking (h : nextRegister cfg ctx handler input = some (after, next)) :
    next.looking = none := by
  cases nextRegister_cases h with
  | dispatched message => exact dispatchFirst_looking message
  | _ => rfl

theorem nextServing_looking (h : nextServing cfg ctx handler input = some (after, next))
    (hLooking : next.looking = some (socketId, connId)) :
    ∃ containerId registrationId, handler = .serving containerId registrationId ∧
      input = .receive (.socketConnectRequest socketId connId) := by
  cases nextServing_cases h with
  | dispatched message => exact ⟨_, _, rfl, congrArg _ (dispatchContainer_looking hLooking)⟩
  | _ => cases hLooking

/-- A socket id is looked up for a request that the message loop has read. -/
theorem nextHandler_looking (h : nextHandler cfg ctx handler input = some (after, next))
    (hLooking : next.looking = some (socketId, connId)) :
    ∃ containerId registrationId, handler = .serving containerId registrationId ∧
      input = .receive (.socketConnectRequest socketId connId) := by
  unfold nextHandler at h
  split at h
  case h_1 => cases nextIdle_cases h <;> cases hLooking
  case h_2 => cases h
  case h_3 task =>
    obtain ⟨_, _, _, rfl, _⟩ := nextProxy_cases h
    cases hLooking
  all_goals first
    | exact nextServing_looking h hLooking
    | (exfalso
       first
         | exact nomatch (nextRegister_looking h).symm.trans hLooking
         | (cases nextForward_cases h <;> cases hLooking)
         | (cases nextUnforward_cases h <;> cases hLooking)
         | (cases nextScanner_cases h <;> cases hLooking)
         | (cases nextAuxiliary_cases h <;> cases hLooking))

theorem Handler.eq_socketLookup (h : handler.looking = some (socketId, connId)) :
    ∃ containerId registrationId, handler = .socketLookup containerId registrationId socketId connId := by
  unfold Handler.looking at h
  split at h <;> cases h
  exact ⟨_, _, rfl⟩

namespace Tunnel

theorem Stands.mono (h : t.Stands connId socketId) (hGrows : t.Grows t') : t'.Stands connId socketId := by
  rcases h with hForeign | ⟨dialer, task, position, hIssued, hTask, hConnId, hDialer⟩
  · exact .inl (hGrows.issued _ _ hForeign)
  · obtain ⟨next, hNext, hBecomes⟩ := hGrows.dialers dialer task hTask
    rw [hDialer] at hBecomes
    cases next with
    | connect => exact hBecomes.elim
    | mirror socketId' position' =>
        cases hBecomes
        exact .inr ⟨dialer, _, position', hGrows.issued _ _ hIssued, hNext, hConnId, rfl⟩

theorem lookUp_cases (t : Tunnel) (socketId connId : String) :
    t.host.ctx.state.socketForwards.lookup socketId = none ∧ t.lookUp socketId connId = t ∨
      ∃ info, t.host.ctx.state.socketForwards.lookup socketId = some info ∧ t.lookUp socketId connId =
        { t with hostPaths := Function.update t.hostPaths connId (some (socketId, info.hostPath)) } := by
  unfold lookUp
  split
  case h_1 hNone => exact .inl ⟨hNone, rfl⟩
  case h_2 info hSome => exact .inr ⟨info, hSome, rfl⟩

/-- A step of the host records no path, or the one that it has looked up. -/
theorem observed_paths (t : Tunnel) (hostAction : Action) :
    (t.observed hostAction).hostPaths = t.hostPaths ∨
      ∃ id socketId connId info, hostAction = .task id .proceed ∧
        (t.host.tasks id).looking = some (socketId, connId) ∧
        t.host.ctx.state.socketForwards.lookup socketId = some info ∧
        (t.observed hostAction).hostPaths =
          Function.update t.hostPaths connId (some (socketId, info.hostPath)) := by
  have present (connId : String) : (t.present connId).hostPaths = t.hostPaths := by
    unfold present
    split <;> rfl
  cases hostAction with
  | clientConnects => exact .inl rfl
  | stop => exact .inl rfl
  | task id input =>
      unfold observed observe
      dsimp only
      split
      case h_1 => exact .inl rfl
      case h_2 connId _ => exact .inl (present connId)
      case h_3 connId _ => exact .inl (present connId)
      case h_4 registration _ =>
        split_ifs
        · obtain ⟨requests, hFrame⟩ := t.writeRequest_frame registration
          exact .inl (by rw [hFrame])
        · exact .inl rfl
      case h_5 connId _ =>
        obtain ⟨delivered, hFrame⟩ := t.deliver_frame id connId
        exact .inl (by rw [hFrame])
      case h_6 socketId connId hTask =>
        rcases t.lookUp_cases socketId connId with ⟨-, hSame⟩ | ⟨info, hInfo, hSame⟩ <;> rw [hSame]
        · exact .inl rfl
        · exact .inr ⟨id, socketId, connId, info, rfl, by rw [hTask]; rfl, hInfo, rfl⟩
      case h_7 => exact .inl rfl

/-- A path stays on record, or gives way to another one for the same conn_id. -/
theorem HostMove.paths (h : HostMove cfg t t') (hPath : (t.hostPaths connId).isSome = true) :
    (t'.hostPaths connId).isSome = true := by
  cases h with
  | stays _ _ hPaths => rwa [hPaths]
  | supplied _ _ _ _ _ hPaths => rwa [hPaths]
  | recorded hostAction _ _ hRecorded =>
      rw [hRecorded]
      dsimp only
      rcases t.observed_paths hostAction with hSame | ⟨_, socketId, named, info, -, -, -, hSame⟩ <;> rw [hSame]
      · exact hPath
      · by_cases hHere : connId = named
        · rw [hHere, Function.update_self]
          rfl
        · rwa [Function.update_of_ne hHere]

/-- A message of a dialling task is about the socket id of its mirror. -/
theorem Asked.stands (h : t.Asked) {dialer : Nat} {task : DialTask} (hTask : t.dialers dialer = some task)
    (hMessage : task.dialer.relay task.connId = some (.socketConnectRequest socketId connId)) :
    t.Stands connId socketId := by
  have hPurpose := h.dialers dialer task hTask
  unfold Purposeful at hPurpose
  cases hDialer : task.dialer with
  | connect port position =>
      rw [hDialer] at hMessage
      cases position <;> cases hMessage
  | mirror named position =>
      rw [hDialer] at hMessage hPurpose
      cases position with
      | requesting =>
          cases hMessage
          exact .inr ⟨dialer, task, _, hPurpose, hTask, rfl, hDialer⟩
      | _ => cases hMessage

theorem step_channel (h : t.Mirrored) (hAsked : t.Asked) (hGrows : t.Grows t')
    (hStep : t.step cfg hostDataAddr action = some t') (registration : Nat) :
    ∀ entry ∈ t'.relayChannel registration, ∀ socketId connId,
      entry.2 = .socketConnectRequest socketId connId → t'.Stands connId socketId := by
  intro entry hEntry socketId connId hMessage
  have kept (hOld : entry ∈ t.relayChannel registration) : t'.Stands connId socketId :=
    (h.channel registration entry hOld socketId connId hMessage).mono hGrows
  cases step_cases hStep with
  | @host hostAction host =>
      obtain ⟨_, _, _, _, hFrame⟩ := t.observed_frame hostAction
      rw [hFrame] at hEntry
      exact kept hEntry
  | @closeSession closed =>
      refine kept ?_
      change entry ∈ Function.update t.relayChannel closed [] registration at hEntry
      by_cases hHere : registration = closed
      · rw [hHere, Function.update_self] at hEntry
        cases hEntry
      · rwa [Function.update_of_ne hHere] at hEntry
  | @enqueue dialer task message next hTask hRelay =>
      dsimp only at hEntry
      by_cases hHere : registration = task.registration
      · subst hHere
        rw [Function.update_self] at hEntry
        rcases List.mem_append.mp hEntry with hOld | hNew
        · exact kept hOld
        · rw [List.mem_singleton.mp hNew] at hMessage
          cases hMessage
          exact (hAsked.stands hTask hRelay).mono hGrows
      · rw [Function.update_of_ne hHere] at hEntry
        exact kept hEntry
  | @relay written dialer message rest hChannel =>
      have hRelay : entry ∈ Function.update t.relayChannel written rest registration := by
        rcases (t.writeRelay written message rest).confirm_cases hostDataAddr dialer with
          hSame | ⟨_, _, _, _, hSame⟩ <;> rw [hSame] at hEntry <;> exact hEntry
      refine kept ?_
      by_cases hHere : registration = written
      · rw [hHere, Function.update_self] at hRelay
        rw [hHere, hChannel]
        exact List.mem_cons_of_mem _ hRelay
      · rwa [Function.update_of_ne hHere] at hRelay
  | _ => exact kept hEntry

theorem step_relayed (h : t.Mirrored) (hGrows : t.Grows t') (hStep : t.step cfg hostDataAddr action = some t')
    (registration : Nat) :
    ∀ message ∈ t'.relayed registration, ∀ socketId connId,
      message = .socketConnectRequest socketId connId → t'.Stands connId socketId := by
  rintro message hMember socketId connId rfl
  have kept (hOld : .socketConnectRequest socketId connId ∈ t.relayed registration) :
      t'.Stands connId socketId := (h.relayed registration _ hOld socketId connId rfl).mono hGrows
  cases step_cases hStep with
  | @host hostAction host =>
      obtain ⟨_, _, _, _, hFrame⟩ := t.observed_frame hostAction
      rw [hFrame] at hMember
      exact kept hMember
  | @relay written dialer message rest hChannel =>
      have hRelay : .socketConnectRequest socketId connId ∈
          Function.update t.relayed written (t.relayed written ++ [message]) registration := by
        rcases (t.writeRelay written message rest).confirm_cases hostDataAddr dialer with
          hSame | ⟨_, _, _, _, hSame⟩ <;> rw [hSame] at hMember <;> exact hMember
      by_cases hHere : registration = written
      · subst hHere
        rw [Function.update_self] at hRelay
        rcases List.mem_append.mp hRelay with hOld | hNew
        · exact kept hOld
        · refine (h.channel registration (dialer, message) ?_ socketId connId ?_).mono hGrows
          · rw [hChannel]
            exact List.mem_cons_self
          · exact (List.mem_singleton.mp hNew).symm
      · rw [Function.update_of_ne hHere] at hRelay
        exact kept hRelay
  | @read id registrationId containerId message rest host hTask hRelayed =>
      refine kept ?_
      dsimp only at hMember
      by_cases hHere : registration = registrationId
      · rw [hHere, Function.update_self] at hMember
        rw [hHere, hRelayed]
        exact List.mem_cons_of_mem _ hMember
      · rwa [Function.update_of_ne hHere] at hMember
  | _ => exact kept hMember

theorem step_looking (h : t.Mirrored) (hGrows : t.Grows t') (hGuard : t.Unguessed action)
    (hStep : t.step cfg hostDataAddr action = some t') {id : Nat}
    (hLooking : (t'.host.tasks id).looking = some (socketId, connId)) : t'.Stands connId socketId := by
  have kept (hBefore : (t.host.tasks id).looking = some (socketId, connId)) : t'.Stands connId socketId :=
    (h.looking id socketId connId hBefore).mono hGrows
  have moved {hostAction : Action} (hHost : Daemon.step cfg t.host hostAction = some t'.host)
      (hReads : ∀ containerId registrationId, t.host.tasks id = .serving containerId registrationId →
        hostAction = .task id (.receive (.socketConnectRequest socketId connId)) → t'.Stands connId socketId) :
      t'.Stands connId socketId := by
    rcases Daemon.step_moves hHost id with hSame | ⟨input, after, rfl, hNext⟩
    · exact kept (hSame ▸ hLooking)
    · obtain ⟨containerId, registrationId, hTask, rfl⟩ := nextHandler_looking hNext hLooking
      exact hReads containerId registrationId hTask rfl
  cases step_cases hStep with
  | @host hostAction host hOwns hHost =>
      refine moved hHost fun containerId registrationId hTask hAction => .inl ?_
      subst hAction
      dsimp only [observed, observe]
      rw [hTask]
      exact present_foreign (hGuard.foreign _ rfl)
  | dial _ _ _ hHost => exact moved hHost fun _ _ _ hAction => (nomatch hAction)
  | handshake _ _ hHost => exact moved hHost fun _ _ _ hAction => (nomatch hAction)
  | @read other registrationId containerId message rest host hTask hRelayed hHost =>
      refine moved hHost fun _ _ _ hAction => ?_
      have hMessage : message = .socketConnectRequest socketId connId := by
        cases message with
        | connectFailed => cases hAction
        | socketConnectRequest =>
            cases hAction
            rfl
      refine (h.relayed registrationId message ?_ socketId connId hMessage).mono hGrows
      rw [hRelayed]
      exact List.mem_cons_self
  | @relay registration dialer message rest _ =>
      rcases (t.writeRelay registration message rest).confirm_cases hostDataAddr dialer with
        hSame | ⟨_, _, _, _, hSame⟩ <;> rw [hSame] at hLooking <;> exact kept hLooking
  | _ => exact kept hLooking

/-- What is connected for a conn_id has been looked up for it. -/
theorem step_connecting (h : t.Mirrored) (hMove : HostMove cfg t t') {id : Nat}
    (hMirrors : (t'.host.tasks id).mirrors = some connId) : (t'.hostPaths connId).isSome = true := by
  have moved {hostAction : Action} (hHost : Daemon.step cfg t.host hostAction = some t'.host)
      (hKnown : ∀ socketId, hostAction = .task id .proceed → (t.host.tasks id).looking = some (socketId, connId) →
        socketId ∈ t.host.ctx.state.socketForwards → (t'.hostPaths connId).isSome = true) :
      (t'.hostPaths connId).isSome = true := by
    rcases Daemon.step_moves hHost id with hSame | ⟨input, after, rfl, hNext⟩
    · exact hMove.paths (h.connecting id connId (hSame ▸ hMirrors))
    · have hConnects := nextHandler_mirrors hNext hMirrors
      generalize hTask : t.host.tasks id = handler at hConnects
      cases hConnects with
      | kept hBefore => exact hMove.paths (h.connecting id connId (hTask ▸ hBefore))
      | known hSocket => exact hKnown _ rfl (by rw [hTask]; rfl) hSocket
      | @bridge _ _ receiver hBridge => exact hMove.paths (h.bridges connId receiver hBridge)
  cases hMove with
  | stays hHost _ hPaths =>
      rw [hPaths]
      exact h.connecting id connId (hHost ▸ hMirrors)
  | supplied other input hInput hHost =>
      refine moved hHost fun _ hAction => ?_
      cases hAction
      rcases hInput with hInput | ⟨_, hInput⟩ <;> cases hInput
  | recorded hostAction hOwns hHost hRecorded =>
      refine moved hHost fun socketId hAction hLooking hSocket => ?_
      subst hAction
      obtain ⟨containerId, registrationId, hTask⟩ := Handler.eq_socketLookup hLooking
      rw [hRecorded]
      dsimp only [observed, observe]
      rw [hTask]
      dsimp only
      rcases t.lookUp_cases socketId connId with ⟨hNone, -⟩ | ⟨info, -, hSame⟩
      · exact absurd hSocket (Finmap.lookup_eq_none.mp hNone)
      · rw [hSame]
        dsimp only
        rw [Function.update_self]
        rfl

theorem step_bridges (h : t.Mirrored) (hMove : HostMove cfg t t') {receiver : Nat}
    (hBridge : (connId, receiver) ∈ t'.host.ctx.proxy.bridges) : (t'.hostPaths connId).isSome = true := by
  refine hMove.paths ?_
  rcases hMove.host with hHost | ⟨hostAction, hHost⟩
  · exact h.bridges connId receiver (hHost ▸ hBridge)
  · generalize t'.host = after at hBridge hHost
    cases (Daemon.step_cases hHost).2 with
    | clientConnects hAccept =>
        obtain ⟨l, -, rfl⟩ := DaemonContext.acceptClient_frame hAccept
        exact h.bridges connId receiver hBridge
    | stop => exact h.bridges connId receiver hBridge
    | @task id input after next hNext _ =>
        rcases nextHandler_launched hNext hBridge with hOld | hMirrors
        · exact h.bridges connId receiver hOld
        · exact h.connecting id connId hMirrors

theorem step_paths (h : t.Mirrored) (hGrows : t.Grows t') (hMove : HostMove cfg t t')
    (hPath : t'.hostPaths connId = some (socketId, path)) : t'.Stands connId socketId := by
  have kept (hOld : t.hostPaths connId = some (socketId, path)) : t'.Stands connId socketId :=
    (h.paths connId socketId path hOld).mono hGrows
  cases hMove with
  | stays _ _ hPaths => exact kept (hPaths ▸ hPath)
  | supplied _ _ _ _ _ hPaths => exact kept (hPaths ▸ hPath)
  | recorded hostAction _ _ hRecorded =>
      have hPaths : t'.hostPaths = (t.observed hostAction).hostPaths := by rw [hRecorded]
      rw [hPaths] at hPath
      rcases t.observed_paths hostAction with hSame | ⟨id, named, other, info, -, hLooking, -, hSame⟩
      · exact kept (hSame ▸ hPath)
      · rw [hSame] at hPath
        by_cases hHere : connId = other
        · rw [hHere, Function.update_self] at hPath
          cases hPath
          exact hHere ▸ (h.looking id socketId other hLooking).mono hGrows
        · rw [Function.update_of_ne hHere] at hPath
          exact kept hPath

theorem start_mirrored (cfg : HostConfig) : (Tunnel.start cfg).Mirrored where
  channel := fun _ _ h => (nomatch h)
  relayed := fun _ _ h => (nomatch h)
  looking := by
    intro id socketId connId hLooking
    change Handler.looking (if cfg.scanSockets ∧ id = 0 then .scanning else .idle) = _ at hLooking
    split_ifs at hLooking <;> cases hLooking
  paths := fun _ _ _ h => (nomatch h)
  connecting := by
    intro id connId hMirrors
    change Handler.mirrors (if cfg.scanSockets ∧ id = 0 then .scanning else .idle) = _ at hMirrors
    split_ifs at hMirrors <;> cases hMirrors
  bridges := fun _ _ h => (nomatch h)

theorem step_mirrored (h : t.Mirrored) (hAsked : t.Asked) (hGrows : t.Grows t') (hGuard : t.Unguessed action)
    (hStep : t.step cfg hostDataAddr action = some t') : t'.Mirrored where
  channel := step_channel h hAsked hGrows hStep
  relayed := step_relayed h hGrows hStep
  looking := fun _ _ _ => step_looking h hGrows hGuard hStep
  paths := fun _ _ _ => step_paths h hGrows (step_hostMove hStep)
  connecting := fun _ _ => step_connecting h (step_hostMove hStep)
  bridges := fun _ _ => step_bridges h (step_hostMove hStep)

/-- A recorded path was the host path of its socket id when it was looked up. -/
theorem run_paths (run : Run (Tunnel.step cfg hostDataAddr) (Tunnel.start cfg) trace t)
    (hPath : t.hostPaths connId = some (socketId, path)) :
    ∃ entry ∈ trace, ∃ info, entry.1.host.ctx.state.socketForwards.lookup socketId = some info ∧
      info.hostPath = path := by
  induction run with
  | refl => cases hPath
  | @tail trace middle finish action prior last ih =>
      have kept (hOld : middle.hostPaths connId = some (socketId, path)) : ∃ entry ∈ trace ++ [(middle, action)],
          ∃ info, entry.1.host.ctx.state.socketForwards.lookup socketId = some info ∧ info.hostPath = path := by
        obtain ⟨entry, hEntry, hFound⟩ := ih hOld
        exact ⟨entry, List.mem_append_left _ hEntry, hFound⟩
      cases step_hostMove last with
      | stays _ _ hPaths => exact kept (hPaths ▸ hPath)
      | supplied _ _ _ _ _ hPaths => exact kept (hPaths ▸ hPath)
      | recorded hostAction _ _ hRecorded =>
          have hPaths : finish.hostPaths = (middle.observed hostAction).hostPaths := by rw [hRecorded]
          rw [hPaths] at hPath
          rcases middle.observed_paths hostAction with hSame | ⟨id, named, other, info, -, -, hInfo, hSame⟩
          · exact kept (hSame ▸ hPath)
          · rw [hSame] at hPath
            by_cases hHere : connId = other
            · rw [hHere, Function.update_self] at hPath
              cases hPath
              exact ⟨(middle, action), by simp, info, hInfo, rfl⟩
            · rw [Function.update_of_ne hHere] at hPath
              exact kept hPath

structure Reflected (cfg : HostConfig) (t : Tunnel) : Prop where
  sound : t.Sound cfg
  mirrored : t.Mirrored

theorem step_reflected (h : t.Reflected cfg) (hGuard : t.Unguessed action)
    (hStep : t.step cfg hostDataAddr action = some t') : t'.Reflected cfg where
  sound := step_sound h.sound hGuard hStep
  mirrored := step_mirrored h.mirrored h.sound.asked (step_grows h.sound.recorded hGuard hStep) hGuard hStep

theorem run_reflected (run : Run (Tunnel.step cfg hostDataAddr) (Tunnel.start cfg) trace t)
    (hGuard : Guarded Tunnel.Unguessed trace) : t.Reflected cfg :=
  run.invariant hGuard ⟨start_sound cfg, start_mirrored cfg⟩ fun _ _ _ => step_reflected

/-- A host socket is bridged with the client of a mirror of that socket, or
with an unknown peer that has asked for the socket itself. -/
theorem socket_reaches_mirror (run : Run (Tunnel.step cfg hostDataAddr) (Tunnel.start cfg) trace t)
    (hGuard : Guarded Tunnel.Unguessed trace) {receiver : Nat}
    (hTask : t.host.tasks id = .proxy (.socketBridge connId receiver))
    (hDelivered : t.host.ctx.proxy.receivers receiver = .delivered) :
    ∃ socketId path, t.hostPaths connId = some (socketId, path) ∧
      (∃ entry ∈ trace, ∃ info, entry.1.host.ctx.state.socketForwards.lookup socketId = some info ∧
        info.hostPath = path) ∧
      (t.issued connId = some .foreign ∨ ∃ task position, t.Joins receiver task ∧ task.connId = connId ∧
        task.dialer = .mirror socketId position) := by
  have h := run_reflected run hGuard
  have hSome := h.mirrored.connecting id connId (by rw [hTask]; rfl)
  obtain ⟨⟨socketId, path⟩, hPath⟩ := Option.isSome_iff_exists.mp hSome
  refine ⟨socketId, path, hPath, run_paths run hPath, ?_⟩
  rcases h.mirrored.paths connId socketId path hPath with hForeign | ⟨dialer, task, position, hIssued, hDialer⟩
  · exact .inl hForeign
  · right
    have hHolds : t.host.Holds connId receiver := .inl ⟨id, by rw [hTask]; rfl⟩
    obtain ⟨joined, hJoins, hConnId, ⟨other, hOther, hPurpose⟩, -⟩ :=
      h.sound.joins hIssued (fun hForeign => (nomatch hForeign)) hHolds hDelivered
    unfold Purposeful at hPurpose
    split at hPurpose
    case h_1 port held hConnect =>
      obtain ⟨_, _, _, hIssued', -⟩ := hPurpose
      dsimp only at hIssued'
      rw [hConnId, hIssued] at hIssued'
      cases hIssued'
    case h_2 named held hMirror =>
      rw [hConnId, hIssued] at hPurpose
      cases hPurpose
      cases hDialer.1.symm.trans hOther
      exact ⟨task, position, hJoins, hConnId, hDialer.2.2⟩

/-- A mirror of a host socket accepts a client, and the host connects to the
socket before the container opens the data connection. -/
def mirrorSchedule : List TunnelAction :=
  busySchedule.map .host ++
    [.openSession 1, .accept 1 "s" "y", .enqueue 0, .relay 1, .read 1, .host (.task 1 .proceed),
      .host (.task 1 .proceed), .host (.task 1 (.launched true)), .host (.task 4 .spawnBridge), .dial 0 3,
      .dialer 0 (.sent (.ok ())), .handshake 3, .host (.task 3 .proceed)]

end Tunnel

def Handler.isSocketBridge (connId : String) (receiver : Nat) : Handler → Bool
  | .proxy (.socketBridge named held) => named == connId && held == receiver
  | _ => false

theorem Handler.eq_socketBridge {receiver : Nat} (h : handler.isSocketBridge connId receiver = true) :
    handler = .proxy (.socketBridge connId receiver) := by
  unfold Handler.isSocketBridge at h
  split at h
  · obtain ⟨hConnId, hReceiver⟩ := (Bool.and_eq_true _ _).mp h
    rw [beq_iff_eq.mp hConnId, beq_iff_eq.mp hReceiver]
  · cases h

namespace Tunnel

theorem socket_reaches_mirror_bridged :
    ∃ trace t, trace.map Prod.snd = mirrorSchedule ∧
      Run (Tunnel.step .scanning "host") (Tunnel.start .scanning) trace t ∧
      t.issued "y" = some (.mirror 0) ∧
      ∃ socketId path, t.hostPaths "y" = some (socketId, path) ∧
        (∃ entry ∈ trace, ∃ info, entry.1.host.ctx.state.socketForwards.lookup socketId = some info ∧
          info.hostPath = path) ∧
        (t.issued "y" = some .foreign ∨ ∃ task position, t.Joins 1 task ∧ task.connId = "y" ∧
          task.dialer = .mirror socketId position) := by
  have hRun : (execWhile (Tunnel.step .scanning "host") (fun t action => decide (t.Unguessed action))
      (Tunnel.start .scanning) mirrorSchedule).any fun t =>
        (t.host.tasks 4).isSocketBridge "y" 1 && t.issued "y" == some (.mirror 0) &&
          t.host.ctx.proxy.receivers 1 == .delivered := by
    decide +kernel
  obtain ⟨t, hExec, hEnd⟩ := (Option.any_eq_true _ _).mp hRun
  obtain ⟨hBoth, hDelivered⟩ := (Bool.and_eq_true _ _).mp hEnd
  obtain ⟨hTask, hIssued⟩ := (Bool.and_eq_true _ _).mp hBoth
  obtain ⟨trace, hActions, run, hCheck⟩ := run_of_execWhile hExec
  have hGuard : Guarded Tunnel.Unguessed trace := fun entry hEntry => of_decide_eq_true (hCheck entry hEntry)
  exact ⟨trace, t, hActions, run, beq_iff_eq.mp hIssued,
    socket_reaches_mirror run hGuard (Handler.eq_socketBridge hTask) (beq_iff_eq.mp hDelivered)⟩

end Tunnel
end DevcontainerBridge
