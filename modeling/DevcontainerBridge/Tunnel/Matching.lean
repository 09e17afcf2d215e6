import DevcontainerBridge.Tunnel.Requests

/-! Which data connection a receiver is handed. It was opened under the conn_id
of the receiver by the dialling task that the conn_id belongs to, or by an
unknown peer where the conn_id is foreign, and no other receiver is handed it. -/
namespace DevcontainerBridge

open Table Transition

/-- Some task, or a bridge that waits for its task, holds the receiver. -/
def Daemon.Holds (d : Daemon) (connId : String) (receiver : Nat) : Prop :=
  (∃ id, (d.tasks id).ticket = some (connId, receiver)) ∨ (connId, receiver) ∈ d.ctx.proxy.bridges

/-- The peer of a data connection has a right to the conn_id. -/
def Tunnel.SentBy (t : Tunnel) (data : Nat) (connId : String) : Prop :=
  match t.dialled data with
  | some dialer => ∃ task, t.dialers dialer = some task ∧ task.connId = connId
  | none => t.issued connId = some .foreign

structure Tunnel.Matched (t : Tunnel) : Prop where
  waits : t.host.EntriesWait
  resolving : ∀ id connId, (t.host.tasks id).resolves = some connId → t.SentBy id connId
  held : ∀ connId receiver data, t.host.Holds connId receiver → t.delivered receiver = some data →
    t.SentBy data connId
  received : ∀ receiver data, t.delivered receiver = some data →
    receiver < t.host.ctx.proxy.nextReceiver ∧ t.host.tasks data = .proxy .finished
  known : ∀ receiver, t.host.ctx.proxy.receivers receiver = .delivered → ∃ data, t.delivered receiver = some data
  alone : ∀ receiver other data, t.delivered receiver = some data → t.delivered other = some data →
    other = receiver

/-- A data task takes an entry from the map and hands its stream to the
receiver, which waits for it. -/
structure Tunnel.Delivers (t t' : Tunnel) (data : Nat) (connId : String) (receiver : Nat) : Prop where
  task : t.host.tasks data = .proxy (.resolving connId)
  entry : t.host.ctx.proxy.pending.lookup connId = some receiver
  finished : t'.host.tasks data = .proxy .finished
  delivered : t'.delivered = Function.update t.delivered receiver (some data)

variable {cfg : HostConfig} {hostDataAddr : String} {p p' : ProxyState} {d d' : Daemon}
  {ctx after : DaemonContext} {handler next : Handler} {input : Input} {connId : String} {receiver data : Nat}
  {t t' : Tunnel} {action : TunnelAction}

theorem MatchStep.count_le (h : MatchStep p handler input p' next) : p.nextReceiver ≤ p'.nextReceiver := by
  cases h with
  | quiet hSame => exact hSame.count.ge
  | arrive named hHandler hInput hSame => rw [hSame]
  | retry named hHandler hSame => rw [hSame]
  | resolve named hHandler hResolve =>
      obtain ⟨_, _, _, _, _, hCount, _⟩ := resolve_some hResolve
      exact hCount.ge
  | cancel origin named hActs hCancel =>
      rw [hCancel]
      exact le_refl _
  | flush channel request rest hQueue hFlush => rcases hFlush with rfl | rfl <;> exact le_refl _
  | register container named new hOrigin hRegister =>
      have hRegistered := register_some hRegister
      rw [hRegistered.count, hRegistered.fresh]
      exact Nat.le_succ _
  | refuse named hRegister => exact (register_none hRegister).2.2.1.ge
  | enqueue channel held request hBefore hQueue =>
      rw [hQueue]
      exact le_refl _
  | hold named held hSame => rw [hSame]
  | close named held hBefore hClose =>
      rw [hClose]
      exact le_refl _
  | launch named held hBefore hLaunch => rw [hLaunch]
  | spawn named held rest hBridges hSpawn => rw [hSpawn]

/-- A receiver that is held after a step was held before, or is new. -/
theorem MatchStep.holds (h : MatchStep p handler input p' next)
    (hHolds : next.ticket = some (connId, receiver) ∨ (connId, receiver) ∈ p'.bridges) :
    handler.ticket = some (connId, receiver) ∨ (connId, receiver) ∈ p.bridges ∨ p.nextReceiver ≤ receiver := by
  have unmatched (hNone : next.ticket = none) (hBridges : p'.bridges = p.bridges) :
      handler.ticket = some (connId, receiver) ∨ (connId, receiver) ∈ p.bridges ∨ p.nextReceiver ≤ receiver := by
    rw [hNone, hBridges] at hHolds
    rcases hHolds with hTicket | hBridge
    · cases hTicket
    · exact .inr (.inl hBridge)
  have kept {held : Nat} {named : String} (hBefore : handler.ticket = some (named, held))
      (hTicket : next.ticket = some (named, held)) (hBridges : p'.bridges = p.bridges) :
      handler.ticket = some (connId, receiver) ∨ (connId, receiver) ∈ p.bridges ∨ p.nextReceiver ≤ receiver := by
    rw [hTicket, hBridges] at hHolds
    exact hHolds.imp hBefore.trans .inl
  cases h with
  | quiet hSame hNext => exact unmatched hNext.ticket hSame.bridges
  | arrive named hHandler hInput hSame hNext => exact unmatched (by rw [hNext]; rfl) (by rw [hSame])
  | retry named hHandler hSame hNext => exact unmatched (by rw [hNext]; rfl) (by rw [hSame])
  | resolve named hHandler hResolve hNext =>
      obtain ⟨_, _, _, _, _, _, _, hBridges⟩ := resolve_some hResolve
      exact unmatched hNext.ticket hBridges
  | cancel origin named hActs hCancel hNext => exact unmatched hNext.ticket (by rw [hCancel]; rfl)
  | flush channel request rest hQueue hFlush hNext =>
      refine unmatched hNext.ticket ?_
      rcases hFlush with rfl | rfl <;> rfl
  | register container named new hOrigin hRegister hTicket =>
      have hRegistered := register_some hRegister
      rw [hTicket, hRegistered.bridges] at hHolds
      rcases hHolds with hNew | hBridge
      · cases hNew
        exact .inr (.inr hRegistered.fresh.ge)
      · exact .inr (.inl hBridge)
  | refuse named hRegister hNext => exact unmatched hNext.ticket (register_none hRegister).2.2.2.2
  | enqueue channel held request hBefore hQueue hTicket => exact kept hBefore hTicket (by rw [hQueue]; rfl)
  | hold named held hSame hBefore hTicket => exact kept hBefore hTicket (by rw [hSame])
  | close named held hBefore hClose hTicket => exact unmatched hTicket (by rw [hClose]; rfl)
  | launch named held hBefore hLaunch hNext =>
      rw [hNext.ticket, hLaunch] at hHolds
      rcases hHolds with hTicket | hBridge
      · cases hTicket
      · rcases List.mem_append.mp hBridge with hOld | hNew
        · exact .inr (.inl hOld)
        · rw [List.mem_singleton.mp hNew]
          exact .inl hBefore
  | spawn named held rest hBridges hSpawn hTask hNext =>
      right; left
      rw [hBridges]
      rw [hNext, hSpawn] at hHolds
      rcases hHolds with hTicket | hBridge
      · cases hTicket
        exact List.mem_cons_self
      · exact List.mem_cons_of_mem _ hBridge

theorem Daemon.step_holds {hostAction : Action} (h : Daemon.step cfg d hostAction = some d')
    (hHolds : d'.Holds connId receiver) : d.Holds connId receiver ∨ d.ctx.proxy.nextReceiver ≤ receiver := by
  cases (Daemon.step_cases h).2 with
  | clientConnects hAccept =>
      obtain ⟨l, -, rfl⟩ := DaemonContext.acceptClient_frame hAccept
      exact .inl hHolds
  | stop => exact .inl hHolds
  | @task id input after next hNext _ =>
      have here (hHere : next.ticket = some (connId, receiver) ∨ (connId, receiver) ∈ after.proxy.bridges) :
          d.Holds connId receiver ∨ d.ctx.proxy.nextReceiver ≤ receiver := by
        rcases (nextHandler_matchStep hNext).holds hHere with hTask | hBridge | hNew
        · exact .inl (.inl ⟨id, hTask⟩)
        · exact .inl (.inr hBridge)
        · exact .inr hNew
      rcases hHolds with ⟨other, hTicket⟩ | hBridge
      · dsimp only at hTicket
        by_cases hOther : other = id
        · rw [hOther, Function.update_self] at hTicket
          exact here (.inl hTicket)
        · rw [Function.update_of_ne hOther] at hTicket
          exact .inl (.inl ⟨other, hTicket⟩)
      · exact here (.inr hBridge)

theorem Daemon.step_nextReceiver_le {hostAction : Action} (h : Daemon.step cfg d hostAction = some d') :
    d.ctx.proxy.nextReceiver ≤ d'.ctx.proxy.nextReceiver := by
  cases (Daemon.step_cases h).2 with
  | clientConnects hAccept =>
      obtain ⟨l, -, rfl⟩ := DaemonContext.acceptClient_frame hAccept
      exact le_refl _
  | stop => exact le_refl _
  | task hNext => exact (nextHandler_matchStep hNext).count_le

/-- A task that has finished takes no step. -/
theorem Daemon.step_finished {hostAction : Action} (h : Daemon.step cfg d hostAction = some d') {id : Nat}
    (hFinished : d.tasks id = .proxy .finished) : d'.tasks id = .proxy .finished := by
  rcases Daemon.step_moves h id with hSame | ⟨input, after, -, hNext⟩
  · rw [hSame, hFinished]
  · rw [hFinished] at hNext
    obtain ⟨proxy, task', -, -, hClient | hData⟩ := nextProxy_cases hNext
    · cases nextClient_cases hClient
    · cases nextData_cases hData

theorem nextHandler_resolving (h : nextHandler cfg ctx (.proxy (.resolving connId)) input = some (after, next)) :
    after = ctx ∨ input = .proceed ∧ next = .proxy .finished ∧
      ∃ p, ctx.proxy.resolve connId = some p ∧ after = { ctx with proxy := p } := by
  obtain ⟨proxy, task, rfl, rfl, hClient | hData⟩ := nextProxy_cases h
  · cases nextClient_cases hClient
  · cases nextData_cases hData with
    | resolved hResolve => exact .inr ⟨rfl, rfl, proxy, hResolve, rfl⟩
    | unresolved => exact .inl rfl
    | gaveUp => exact .inl rfl

theorem resolve_receivers (h : p.resolve connId = some p') (hEntry : p.pending.lookup connId = some receiver) :
    p'.receivers = if p.receivers receiver = .waiting then Function.update p.receivers receiver .delivered
      else p.receivers := by
  unfold ProxyState.resolve at h
  rw [hEntry] at h
  cases h
  dsimp only
  split
  case h_1 hWaiting => exact (if_pos hWaiting).symm
  case h_2 hOther => exact (if_neg hOther).symm

/-- A receiver is handed a stream where a data task takes its entry. -/
theorem nextHandler_receives (h : nextHandler cfg ctx handler input = some (after, next))
    (hHandler : ∀ connId, handler = .proxy (.resolving connId) → after = ctx)
    (hDelivered : after.proxy.receivers receiver = .delivered) : ctx.proxy.receivers receiver = .delivered := by
  cases nextHandler_matchStep h with
  | quiet hSame => rwa [hSame.receivers] at hDelivered
  | arrive named hTask hInput hSame => rwa [hSame] at hDelivered
  | retry named hTask hSame => rwa [hSame] at hDelivered
  | resolve named hTask => rwa [hHandler named hTask] at hDelivered
  | cancel origin named hActs hCancel => rwa [hCancel] at hDelivered
  | flush channel request rest hQueue hFlush => rcases hFlush with hFlush | hFlush <;> rwa [hFlush] at hDelivered
  | register container named new hOrigin hRegister =>
      rw [(register_some hRegister).receivers] at hDelivered
      by_cases hHere : receiver = new
      · rw [hHere, Function.update_self] at hDelivered
        cases hDelivered
      · rwa [Function.update_of_ne hHere] at hDelivered
  | refuse named hRegister => rwa [(register_none hRegister).2.1] at hDelivered
  | enqueue channel held request hBefore hQueue => rwa [hQueue] at hDelivered
  | hold named held hSame => rwa [hSame] at hDelivered
  | close named held hBefore hClose =>
      rw [hClose] at hDelivered
      change Function.update ctx.proxy.receivers held .closed receiver = .delivered at hDelivered
      by_cases hHere : receiver = held
      · rw [hHere, Function.update_self] at hDelivered
        cases hDelivered
      · rwa [Function.update_of_ne hHere] at hDelivered
  | launch named held hBefore hLaunch => rwa [hLaunch] at hDelivered
  | spawn named held rest hBridges hSpawn => rwa [hSpawn] at hDelivered

/-- A data task looks its entry up. -/
def Daemon.Resolves (d : Daemon) (action : Action) : Prop :=
  ∃ id connId, action = .task id .proceed ∧ d.tasks id = .proxy (.resolving connId)

theorem Daemon.step_receives {hostAction : Action} (h : Daemon.step cfg d hostAction = some d')
    (hNot : ¬d.Resolves hostAction) (hDelivered : d'.ctx.proxy.receivers receiver = .delivered) :
    d.ctx.proxy.receivers receiver = .delivered := by
  cases (Daemon.step_cases h).2 with
  | clientConnects hAccept =>
      obtain ⟨l, -, rfl⟩ := DaemonContext.acceptClient_frame hAccept
      exact hDelivered
  | stop => exact hDelivered
  | @task id input after next hNext _ =>
      refine nextHandler_receives hNext (fun connId hTask => ?_) hDelivered
      have hResolving := hNext
      rw [hTask] at hResolving
      rcases nextHandler_resolving hResolving with hSame | ⟨rfl, -⟩
      · exact hSame
      · exact absurd ⟨id, connId, rfl, hTask⟩ hNot

/-- A lookup finds nothing, or takes the entry and serves its receiver. -/
theorem Daemon.step_resolving {id : Nat} (h : Daemon.step cfg d (.task id .proceed) = some d')
    (hTask : d.tasks id = .proxy (.resolving connId)) :
    (d.ctx.proxy.pending.lookup connId = none ∧ d'.ctx.proxy.receivers = d.ctx.proxy.receivers) ∨
    ∃ receiver, d.ctx.proxy.pending.lookup connId = some receiver ∧ d'.tasks id = .proxy .finished ∧
      d'.ctx.proxy.receivers =
        if d.ctx.proxy.receivers receiver = .waiting then
          Function.update d.ctx.proxy.receivers receiver .delivered
        else d.ctx.proxy.receivers := by
  cases (Daemon.step_cases h).2 with
  | @task _ _ after next hNext _ =>
      rw [hTask] at hNext
      obtain ⟨proxy, task, rfl, rfl, hClient | hData⟩ := nextProxy_cases hNext
      · cases nextClient_cases hClient
      · cases nextData_cases hData with
        | resolved hResolve =>
            obtain ⟨receiver, hEntry, -⟩ := resolve_some hResolve
            exact .inr ⟨receiver, hEntry, Function.update_self .., resolve_receivers hResolve hEntry⟩
        | unresolved hResolve =>
            refine .inl ⟨?_, rfl⟩
            unfold ProxyState.resolve at hResolve
            split at hResolve
            · assumption
            · cases hResolve

namespace Tunnel

theorem observed_delivered {hostAction : Action} (h : ¬t.host.Resolves hostAction) :
    (t.observed hostAction).delivered = t.delivered := by
  have present (connId : String) : (t.present connId).delivered = t.delivered := by
    unfold present
    split <;> rfl
  cases hostAction with
  | clientConnects => rfl
  | stop => rfl
  | task id input =>
      unfold observed observe
      dsimp only
      split
      case h_1 => rfl
      case h_2 connId _ => exact present connId
      case h_3 connId _ => exact present connId
      case h_4 registration _ =>
        split_ifs
        · obtain ⟨requests, hFrame⟩ := t.writeRequest_frame registration
          rw [hFrame]
        · rfl
      case h_5 connId hTask => exact absurd ⟨id, connId, rfl, hTask⟩ h
      case h_6 socketId connId _ =>
        obtain ⟨hostPaths, hFrame⟩ := t.lookUp_frame socketId connId
        rw [hFrame]
      case h_7 => rfl

/-- What is handed over in a step: nothing, or one stream to one receiver. -/
theorem HostMove.delivered (h : HostMove cfg t t') :
    (t'.delivered = t.delivered ∧ ∀ receiver, t'.host.ctx.proxy.receivers receiver = .delivered →
      t.host.ctx.proxy.receivers receiver = .delivered) ∨
    ∃ data connId receiver, t.Delivers t' data connId receiver ∧ ∀ other, other ≠ receiver →
      t'.host.ctx.proxy.receivers other = .delivered → t.host.ctx.proxy.receivers other = .delivered := by
  cases h with
  | stays hHost hDelivered => exact .inl ⟨hDelivered, fun _ h => hHost ▸ h⟩
  | supplied id input hInput hHost hDelivered =>
      refine .inl ⟨hDelivered, fun _ => Daemon.step_receives hHost ?_⟩
      rintro ⟨_, _, hAction, -⟩
      cases hAction
      rcases hInput with hInput | ⟨_, hInput⟩ <;> cases hInput
  | recorded hostAction hOwns hHost hRecorded =>
      by_cases hResolves : t.host.Resolves hostAction
      · obtain ⟨id, connId, rfl, hTask⟩ := hResolves
        have hDelivered : t'.delivered = (t.deliver id connId).delivered := by
          rw [hRecorded]
          dsimp only [observed, observe]
          rw [hTask]
        unfold deliver at hDelivered
        rcases Daemon.step_resolving hHost hTask with ⟨hNone, hSame⟩ | ⟨receiver, hEntry, hFinished, hAfter⟩
        · rw [hNone] at hDelivered
          exact .inl ⟨hDelivered, fun _ h => hSame ▸ h⟩
        · rw [hEntry] at hDelivered
          dsimp only at hDelivered
          rw [hAfter]
          split_ifs at hDelivered ⊢ with hWaiting
          · refine .inr ⟨id, connId, receiver, ⟨hTask, hEntry, hFinished, hDelivered⟩, fun other hOther h => ?_⟩
            rwa [Function.update_of_ne hOther] at h
          · exact .inl ⟨hDelivered, fun _ h => h⟩
      · refine .inl ⟨?_, fun _ => Daemon.step_receives hHost hResolves⟩
        rw [hRecorded]
        exact observed_delivered hResolves

/-- Whoever has accepted a data connection goes on talking to the same peer. -/
theorem step_dialled (hStep : t.step cfg hostDataAddr action = some t')
    (hData : (t.host.tasks data).isData = true) : t'.dialled data = t.dialled data := by
  cases step_cases hStep with
  | @host action host =>
      obtain ⟨_, _, _, _, hFrame⟩ := t.observed_frame action
      rw [hFrame]
  | @dial dialer id task next host _ _ _ hHost =>
      refine Function.update_of_ne ?_ _ _
      rintro rfl
      cases (Daemon.step_cases hHost).2 with
      | task hAccept =>
          rw [(nextHandler_connectData hAccept).1] at hData
          cases hData
  | @relay registration dialer message rest _ =>
      rcases (t.writeRelay registration message rest).confirm_cases hostDataAddr dialer with
        hSame | ⟨_, _, _, _, hSame⟩ <;> rw [hSame] <;> rfl
  | _ => rfl

theorem SentBy.mono (h : t.SentBy data connId) (hGrows : t.Grows t') (hDialled : t'.dialled data = t.dialled data) :
    t'.SentBy data connId := by
  unfold SentBy at h ⊢
  rw [hDialled]
  split at h
  case h_1 dialer _ =>
    obtain ⟨task, hTask, hConnId⟩ := h
    obtain ⟨next, hNext, -⟩ := hGrows.dialers dialer task hTask
    exact ⟨_, hNext, hConnId⟩
  case h_2 => exact hGrows.issued _ _ h

end Tunnel

theorem Handler.isData_of_resolves (h : handler.resolves = some connId) : handler.isData = true := by
  unfold Handler.resolves at h
  split at h <;> cases h
  rfl

namespace Tunnel

/-- An unknown peer presents a conn_id that belongs to nobody else. -/
theorem present_foreign (h : t.issued connId = none ∨ t.issued connId = some .foreign) :
    (t.present connId).issued connId = some .foreign := by
  unfold present
  split
  case h_1 => exact Function.update_self ..
  case h_2 origin hOld => exact h.resolve_left (by simp [hOld])

theorem step_resolving (h : t.Matched) (hGrows : t.Grows t') (hGuard : t.Unguessed action)
    (hStep : t.step cfg hostDataAddr action = some t') {id : Nat}
    (hResolves : (t'.host.tasks id).resolves = some connId) : t'.SentBy id connId := by
  have kept (hBefore : (t.host.tasks id).resolves = some connId) : t'.SentBy id connId :=
    (h.resolving id connId hBefore).mono hGrows (step_dialled hStep (Handler.isData_of_resolves hBefore))
  have moved {hostAction : Action} (hHost : Daemon.step cfg t.host hostAction = some t'.host)
      (hArrives : t.host.tasks id = .proxy .handshake → hostAction = .task id (.receive (.connectReady connId)) →
        t'.SentBy id connId) : t'.SentBy id connId := by
    rcases Daemon.step_moves hHost id with hSame | ⟨input, after, rfl, hNext⟩
    · exact kept (hSame ▸ hResolves)
    · by_cases hBefore : (t.host.tasks id).resolves = some connId
      · exact kept hBefore
      · obtain ⟨hTask, rfl, -⟩ := nextHandler_arrives hNext hBefore hResolves
        exact hArrives hTask rfl
  cases step_cases hStep with
  | @host hostAction host hOwns hHost =>
      refine moved hHost fun hTask hAction => ?_
      subst hAction
      have hDialled : t.dialled id = none := by simpa [ownsContent] using hOwns
      unfold SentBy
      obtain ⟨_, _, _, _, hFrame⟩ := t.observe_frame id (.receive (.connectReady connId))
      have hSame : (t.observe id (.receive (.connectReady connId))).dialled id = none := by
        rw [hFrame]
        exact hDialled
      dsimp only [observed]
      rw [hSame]
      dsimp only [observe]
      rw [hTask]
      exact present_foreign (hGuard.foreign _ rfl)
  | @dial dialer other task next host hTask hDials hNext hHost =>
      exact moved hHost fun _ hAction => (nomatch hAction)
  | @handshake other dialer task host hDialled hTask hHost =>
      refine moved hHost fun _ hAction => ?_
      cases hAction
      unfold SentBy
      dsimp only
      rw [hDialled]
      exact ⟨task, hTask, rfl⟩
  | @read other registrationId containerId message rest host hTask hRelayed hHost =>
      refine moved hHost fun hHandshake hAction => ?_
      cases (Action.task.inj hAction).1
      rw [hTask] at hHandshake
      cases hHandshake
  | @relay registration dialer message rest _ =>
      rcases (t.writeRelay registration message rest).confirm_cases hostDataAddr dialer with
        hSame | ⟨_, _, _, _, hSame⟩ <;> rw [hSame] at hResolves <;> exact kept hResolves
  | _ => exact kept hResolves

theorem start_matched (cfg : HostConfig) : (Tunnel.start cfg).Matched where
  waits := Daemon.start_entriesWait
  resolving := by
    intro id connId hResolves
    change Handler.resolves (if cfg.scanSockets ∧ id = 0 then .scanning else .idle) = some connId at hResolves
    split_ifs at hResolves <;> cases hResolves
  held := fun _ _ _ _ h => (nomatch h)
  received := fun _ _ h => (nomatch h)
  known := fun _ h => (nomatch h)
  alone := fun _ _ _ h => (nomatch h)

theorem HostMove.waits (h : HostMove cfg t t') (hWaits : t.host.EntriesWait) : t'.host.EntriesWait := by
  rcases h.host with hSame | ⟨hostAction, hHost⟩
  · rw [hSame]
    exact hWaits
  · exact hWaits.step hHost

theorem HostMove.holds (h : HostMove cfg t t') (hHolds : t'.host.Holds connId receiver) :
    t.host.Holds connId receiver ∨ t.host.ctx.proxy.nextReceiver ≤ receiver := by
  rcases h.host with hSame | ⟨hostAction, hHost⟩
  · exact .inl (hSame ▸ hHolds)
  · exact Daemon.step_holds hHost hHolds

theorem HostMove.received (h : HostMove cfg t t') (hData : t.host.tasks data = .proxy .finished)
    (hReceiver : receiver < t.host.ctx.proxy.nextReceiver) :
    receiver < t'.host.ctx.proxy.nextReceiver ∧ t'.host.tasks data = .proxy .finished := by
  rcases h.host with hSame | ⟨hostAction, hHost⟩
  · rw [hSame]
    exact ⟨hReceiver, hData⟩
  · exact ⟨hReceiver.trans_le (Daemon.step_nextReceiver_le hHost), Daemon.step_finished hHost hData⟩

/-- The conn_id of an entry is the one under which its receiver is held. -/
theorem Matched.named (h : t.Matched) (hEntry : t.host.ctx.proxy.pending.lookup connId = some receiver)
    {other : String} (hHolds : t.host.Holds other receiver) : other = connId := by
  obtain ⟨owner, hTickets⟩ := h.waits.tickets
  rw [← (hTickets.entries connId receiver hEntry).1]
  rcases hHolds with ⟨id, hTicket⟩ | hBridge
  · exact (hTickets.tasks id other receiver hTicket).1.symm
  · exact (hTickets.bridges other receiver hBridge).1.symm

theorem Matched.entry_lt (h : t.Matched) (hEntry : t.host.ctx.proxy.pending.lookup connId = some receiver) :
    receiver < t.host.ctx.proxy.nextReceiver := by
  obtain ⟨owner, hTickets⟩ := h.waits.tickets
  exact (hTickets.entries connId receiver hEntry).2

/-- What a receiver was handed before a step. -/
theorem Matched.kept (h : t.Matched) (hGrows : t.Grows t') (hStep : t.step cfg hostDataAddr action = some t')
    (hHolds : t'.host.Holds connId receiver) (hDelivered : t.delivered receiver = some data) :
    t'.SentBy data connId := by
  obtain ⟨hLt, hData⟩ := h.received receiver data hDelivered
  have hDialled : t'.dialled data = t.dialled data := step_dialled hStep (by rw [hData]; rfl)
  rcases (step_hostMove hStep).holds hHolds with hOld | hNew
  · exact (h.held connId receiver data hOld hDelivered).mono hGrows hDialled
  · exact absurd hLt hNew.not_gt

/-- A stream that is handed over comes from the peer of its data connection. -/
theorem Matched.handed (h : t.Matched) (hGrows : t.Grows t') (hStep : t.step cfg hostDataAddr action = some t')
    {named : String} (hDelivers : t.Delivers t' data named receiver) (hHolds : t'.host.Holds connId receiver) :
    t'.SentBy data connId := by
  have hResolves : (t.host.tasks data).resolves = some named := by
    rw [hDelivers.task]
    rfl
  have hDialled := step_dialled hStep (Handler.isData_of_resolves hResolves)
  rcases (step_hostMove hStep).holds hHolds with hOld | hNew
  · rw [h.named hDelivers.entry hOld]
    exact (h.resolving data named hResolves).mono hGrows hDialled
  · exact absurd (h.entry_lt hDelivers.entry) hNew.not_gt

theorem step_matched (h : t.Matched) (hGrows : t.Grows t') (hGuard : t.Unguessed action)
    (hStep : t.step cfg hostDataAddr action = some t') : t'.Matched := by
  have hMove := step_hostMove hStep
  have hResolving : ∀ id connId, (t'.host.tasks id).resolves = some connId → t'.SentBy id connId :=
    fun _ _ => step_resolving h hGrows hGuard hStep
  rcases hMove.delivered with ⟨hSame, hKnown⟩ | ⟨taken, named, served, hDelivers, hKnown⟩
  · refine ⟨hMove.waits h.waits, hResolving, ?_, ?_, ?_, ?_⟩
    · intro connId receiver data hHolds hDelivered
      rw [hSame] at hDelivered
      exact h.kept hGrows hStep hHolds hDelivered
    · intro receiver data hDelivered
      rw [hSame] at hDelivered
      obtain ⟨hLt, hData⟩ := h.received receiver data hDelivered
      exact hMove.received hData hLt
    · intro receiver hDelivered
      rw [hSame]
      exact h.known receiver (hKnown receiver hDelivered)
    · rw [hSame]
      exact h.alone
  · have split {receiver data : Nat} (hDelivered : t'.delivered receiver = some data) :
        receiver = served ∧ data = taken ∨ receiver ≠ served ∧ t.delivered receiver = some data := by
      rw [hDelivers.delivered] at hDelivered
      by_cases hHere : receiver = served
      · rw [hHere, Function.update_self] at hDelivered
        exact .inl ⟨hHere, (Option.some.inj hDelivered).symm⟩
      · exact .inr ⟨hHere, (Function.update_of_ne hHere _ _).symm.trans hDelivered⟩
    have fresh {receiver : Nat} : t.delivered receiver ≠ some taken := by
      intro hOld
      have hFinished := (h.received receiver taken hOld).2
      rw [hDelivers.task] at hFinished
      cases hFinished
    refine ⟨hMove.waits h.waits, hResolving, ?_, ?_, ?_, ?_⟩
    · intro connId receiver data hHolds hDelivered
      rcases split hDelivered with ⟨rfl, rfl⟩ | ⟨-, hOld⟩
      · exact h.handed hGrows hStep hDelivers hHolds
      · exact h.kept hGrows hStep hHolds hOld
    · intro receiver data hDelivered
      rcases split hDelivered with ⟨rfl, rfl⟩ | ⟨-, hOld⟩
      · refine ⟨?_, hDelivers.finished⟩
        rcases hMove.host with hSame | ⟨hostAction, hHost⟩
        · rw [hSame]
          exact h.entry_lt hDelivers.entry
        · exact (h.entry_lt hDelivers.entry).trans_le (Daemon.step_nextReceiver_le hHost)
      · obtain ⟨hLt, hData⟩ := h.received receiver data hOld
        exact hMove.received hData hLt
    · intro receiver hDelivered
      rw [hDelivers.delivered]
      by_cases hHere : receiver = served
      · exact ⟨taken, by rw [hHere, Function.update_self]⟩
      · obtain ⟨data, hData⟩ := h.known receiver (hKnown receiver hHere hDelivered)
        exact ⟨data, (Function.update_of_ne hHere _ _).trans hData⟩
    · intro receiver other data hDelivered hOther
      rcases split hDelivered with ⟨rfl, rfl⟩ | ⟨-, hOld⟩ <;> rcases split hOther with ⟨rfl, hData⟩ | ⟨-, hOld'⟩
      · rfl
      · exact absurd hOld' fresh
      · exact absurd (hData ▸ hOld) fresh
      · exact h.alone receiver other data hOld hOld'

end Tunnel
end DevcontainerBridge
