import DevcontainerBridge.Host.Rendezvous
import DevcontainerBridge.Socket.Delivery

/-! Data connections that come before their request. The stages of a request
are kept by every step of the daemon, and as long as a request is registered in
time, its data reaches its bridge. -/
namespace DevcontainerBridge

open Table Transition

variable {cfg : HostConfig} {connId : String} {s s' : Rendezvous} {stage stage' : Stage}
  {after : DaemonContext} {next : Handler} {input : Input} {id : Nat}

theorem Rendezvous.Sound.tickets_step (h : s.Sound connId)
    (hNext : nextHandler cfg s.daemon.ctx (s.daemon.tasks id) input = some (after, next)) :
    ∃ owner, Tickets owner after.proxy (Function.update s.daemon.tasks id next) := by
  obtain ⟨owner, hTickets⟩ := h.tickets
  exact hTickets.step (nextHandler_matchStep hNext)

/-- A step that has nothing to do with the conn_id. -/
theorem Rendezvous.Sound.stranger_step (h : s.Sound connId)
    (hNext : nextHandler cfg s.daemon.ctx (s.daemon.tasks id) input = some (after, next))
    (hStranger : Stranger connId (s.daemon.tasks id) input)
    (hActs : ∀ owner, next.actsUnder ≠ some (owner, connId)) (hResolves : next.resolves ≠ some connId)
    (hArrive : ¬(s.daemon.tasks id = .proxy .handshake ∧ input = .receive (.connectReady connId))) :
    (s.advance connId id input after next).Sound connId := by
  obtain ⟨owner, hTickets⟩ := h.tickets
  obtain ⟨stage, hUnasked, hControl, hLedger⟩ := h.stage
  have hSame : s.SameRecord (s.advance connId id input after next) :=
    h.data.sameRecord (Rendezvous.record_stranger hStranger hArrive)
  have hFramed : Framed owner connId s.daemon.ctx.proxy after.proxy := by
    apply (nextHandler_matchStep hNext).framed hTickets hStranger hControl.unrequested
    intro receiver hTicket
    obtain ⟨origin, hOrigin⟩ := Handler.actsUnder_of_ticket hTicket
    exact hActs origin hOrigin
  constructor
  · exact h.tickets_step hNext
  · exact h.data.other_step hSame.arrived hSame.outcome rfl hNext hStranger.resolves hResolves
  · refine ⟨stage, fun hAsked => hUnasked (hSame.asked ▸ hAsked), ?_, ?_⟩
    · exact hControl.other_step hFramed.bridges hFramed.unrequested hStranger.acts hActs
    · exact hLedger.framed hSame hFramed fun receiver hReceiver => hControl.owned hTickets hReceiver

/-- The bridge of the conn_id is started. -/
theorem Rendezvous.Sound.spawn_step (h : s.Sound connId)
    (hNext : nextHandler cfg s.daemon.ctx (s.daemon.tasks id) input = some (after, next))
    (hStranger : Stranger connId (s.daemon.tasks id) input) {origin : Option String}
    (hActs : next.actsUnder = some (origin, connId)) : (s.advance connId id input after next).Sound connId := by
  obtain ⟨stage, hUnasked, hControl, hLedger⟩ := h.stage
  obtain ⟨receiver, rest, hIdle, hBridges, hProxy, hBridge⟩ := nextHandler_takesOver hNext hStranger hActs
  have hArrive : ¬(s.daemon.tasks id = .proxy .handshake ∧ input = .receive (.connectReady connId)) := by
    rintro ⟨hHandshake, -⟩
    rw [hIdle] at hHandshake
    cases hHandshake
  have hSame : s.SameRecord (s.advance connId id input after next) :=
    h.data.sameRecord (Rendezvous.record_stranger hStranger hArrive)
  have hQueued : (connId, receiver) :: rest.filter (·.1 = connId) = stage.bridges connId := by
    rw [← hControl.bridges, hBridges, List.filter_cons_of_pos (by simp)]
  cases stage with
  | queued held =>
      obtain ⟨hHead, hRest⟩ := List.cons.inj hQueued
      obtain rfl : receiver = held := congrArg Prod.snd hHead
      constructor
      · exact h.tickets_step hNext
      · apply h.data.other_step hSame.arrived hSame.outcome rfl hNext hStranger.resolves
        rw [hBridge]
        exact fun hNone => nomatch hNone
      · refine ⟨.bridging id receiver, fun hAsked => (nomatch hUnasked (hSame.asked ▸ hAsked)), ?_, ?_⟩
        · refine hControl.keeper_step (fun _ hNone => nomatch hNone) (.inl ⟨rfl, hBridge⟩) ?_ ?_
          · rw [hProxy]
            exact hRest
          · rw [hProxy]
            exact hControl.unrequested
        · refine ⟨hSame.registered.trans hLedger.registered, ?_⟩
          rw [hSame.outcome]
          show s.outcome = none ∧ after.proxy.pending.lookup connId = some receiver ∧
              after.proxy.receivers receiver = .waiting ∨ _ ∧ after.proxy.receivers receiver = .delivered
          rw [hProxy]
          exact hLedger.open_or_delivered
  | _ => cases hQueued

/-- The data connection arrives. -/
theorem Rendezvous.Sound.arrive_step (h : s.Sound connId)
    (hNext : nextHandler cfg s.daemon.ctx (s.daemon.tasks id) input = some (after, next))
    (hOrderly : s.Orderly connId id input) (hHandshake : s.daemon.tasks id = .proxy .handshake)
    (hInput : input = .receive (.connectReady connId)) : (s.advance connId id input after next).Sound connId := by
  obtain ⟨hNone, hPatient, hLength⟩ := hOrderly.single hHandshake hInput
  obtain ⟨stage, hUnasked, hControl, hLedger⟩ := h.stage
  subst hInput
  have hHere : after.proxy = s.daemon.ctx.proxy ∧ next = .proxy (.resolving connId) := by
    rw [hHandshake] at hNext
    have hPair : dispatchData cfg s.daemon.ctx.proxy (.connectReady connId) =
        (s.daemon.ctx.proxy, .resolving connId) := if_neg (Nat.not_lt.mpr hLength)
    obtain ⟨proxy, task', rfl, rfl, hClient | hData⟩ := nextProxy_cases hNext
    · cases hClient
    · cases hPair.symm.trans (Option.some.inj hData)
      exact ⟨rfl, rfl⟩
  obtain ⟨hProxy, rfl⟩ := hHere
  have hUndecided := h.data.undecided hNone
  have hRecord : s.record connId id (.receive (.connectReady connId)) (.proxy (.resolving connId)) =
      { s with arrived := some id } := by
    unfold Rendezvous.record
    rw [hHandshake]
    exact if_pos rfl
  have hFramed : Framed (fun _ => connId) connId s.daemon.ctx.proxy after.proxy := by
    rw [hProxy]
    exact .of_eq rfl rfl hControl.unrequested rfl
  generalize hAfter : s.advance connId id (.receive (.connectReady connId)) after (.proxy (.resolving connId)) = s'
  have hTasks : s'.daemon.tasks = Function.update s.daemon.tasks id (.proxy (.resolving connId)) := by
    rw [← hAfter]
    rfl
  have hPending : s'.daemon.ctx.proxy = s.daemon.ctx.proxy := by
    rw [← hAfter]
    exact hProxy
  have hArrived : s'.arrived = some id := by
    rw [← hAfter]
    exact congrArg Rendezvous.arrived hRecord
  have hOutcome : s'.outcome = none := by
    rw [← hAfter]
    exact (congrArg Rendezvous.outcome hRecord).trans hUndecided
  have hAccepted : s'.accepted = s.accepted := by
    rw [← hAfter]
    exact (congrArg Rendezvous.accepted hRecord).trans rfl
  have hRegistered : s'.registered = s.registered := by
    rw [← hAfter]
    exact (congrArg Rendezvous.registered hRecord).trans rfl
  constructor
  · rw [hTasks, hPending, ← hProxy]
    exact h.tickets_step hNext
  · constructor
    · intro other hResolves
      rw [hTasks] at hResolves
      by_cases hOther : other = id
      · rw [hOther]
        exact ⟨hArrived, hOutcome⟩
      · rw [Function.update_of_ne hOther] at hResolves
        have hEarlier := (h.data.sole other hResolves).1
        rw [hNone] at hEarlier
        cases hEarlier
    · intro other hOther _
      rw [hArrived] at hOther
      cases hOther
      rw [hTasks, Function.update_self]
    · exact fun other _ hDecided => absurd hOutcome hDecided
    · exact fun _ => hOutcome
  · have hAsked : s'.asked = s.asked := by
      rw [← hAfter]
      exact (congrArg Rendezvous.asked hRecord).trans rfl
    refine ⟨stage, fun hNever => hUnasked (hAsked ▸ hNever), ?_, ?_⟩
    · rw [← hAfter]
      apply hControl.other_step hFramed.bridges hFramed.unrequested
      · rw [hHandshake]
        exact fun _ hActs => nomatch hActs
      · exact fun _ hActs => nomatch hActs
    · apply hLedger.map
      · intro hVacant
        refine ⟨hRegistered.trans hVacant.registered, hAccepted.trans hVacant.accepted, ?_, ?_⟩
        · rw [hPending]
          exact hVacant.pending
        · rw [hOutcome]
          exact fun _ hResult => nomatch hResult
      · intro receiver hOffered
        refine ⟨hRegistered.trans hOffered.registered, ?_⟩
        have hPlace := hOffered.open_or_delivered
        rw [hUndecided] at hPlace
        rw [hOutcome, hPending]
        exact hPlace
      · intro hConcluded hHere
        rw [hAccepted] at hHere
        rcases hConcluded hHere with ⟨-, hExpired⟩ | ⟨receiver, -, hDelivered⟩
        · rw [hPatient] at hExpired
          cases hExpired
        · rw [hUndecided] at hDelivered
          cases hDelivered

/-- A step of no task. It may change the queue of accepted clients. -/
theorem Rendezvous.Sound.congr (h : s.Sound connId) (hSame : s.SameRecord s')
    (hTasks : s'.daemon.tasks = s.daemon.tasks) {queue : List ClientConnection}
    (hProxy : s'.daemon.ctx.proxy = { s.daemon.ctx.proxy with clientQueue := queue }) : s'.Sound connId := by
  obtain ⟨owner, hTickets⟩ := h.tickets
  obtain ⟨stage, hUnasked, hControl, hLedger⟩ := h.stage
  have hFramed : Framed owner connId s.daemon.ctx.proxy s'.daemon.ctx.proxy := by
    rw [hProxy]
    exact .of_eq rfl rfl hControl.unrequested rfl
  constructor
  · rw [hTasks, hProxy]
    exact ⟨owner, hTickets.entries, hTickets.tasks, hTickets.bridges⟩
  · constructor
    · rw [hTasks, hSame.arrived, hSame.outcome]
      exact h.data.sole
    · rw [hTasks, hSame.arrived, hSame.outcome]
      exact h.data.here
    · rw [hTasks, hSame.arrived, hSame.outcome]
      exact h.data.gone
    · rw [hSame.arrived, hSame.outcome]
      exact h.data.undecided
  · refine ⟨stage, fun hNever => hUnasked (hSame.asked ▸ hNever), ⟨?_, ?_, ?_, hFramed.unrequested⟩, ?_⟩
    · rw [hTasks]
      exact hControl.sole
    · rw [hTasks]
      exact hControl.place
    · exact hFramed.bridges.trans hControl.bridges
    · exact hLedger.framed hSame hFramed fun receiver hReceiver => hControl.owned hTickets hReceiver

/-- While a data connection is being matched, no request has been given up. -/
theorem Rendezvous.Concluded.resolving (h : s.Concluded) (hArrived : s.arrived = some id)
    (hOutcome : s.outcome = none) (hAccepted : s'.accepted = s.accepted) : s'.Concluded := by
  intro hHere
  rw [hAccepted] at hHere
  rcases h hHere with ⟨hNone, -⟩ | ⟨receiver, -, hDelivered⟩
  · rw [hArrived] at hNone
    cases hNone
  · rw [hOutcome] at hDelivered
    cases hDelivered

/-- The data connection comes to its end. -/
theorem Rendezvous.Data.decide (h : s.Data connId) (hTask : s.daemon.tasks id = .proxy (.resolving connId))
    (hTasks : s'.daemon.tasks = Function.update s.daemon.tasks id (.proxy .finished))
    (hArrived : s'.arrived = s.arrived) (hDecided : s'.outcome ≠ none) : s'.Data connId := by
  obtain ⟨hHere, -⟩ := h.sole id (by rw [hTask]; rfl)
  constructor
  · intro other hResolves
    rw [hTasks] at hResolves
    by_cases hOther : other = id
    · rw [hOther, Function.update_self] at hResolves
      cases hResolves
    · rw [Function.update_of_ne hOther] at hResolves
      obtain ⟨hThere, -⟩ := h.sole other hResolves
      rw [hHere] at hThere
      exact absurd (Option.some.inj hThere).symm hOther
  · exact fun other _ hNone => absurd hNone hDecided
  · intro other hOther _
    rw [hArrived, hHere] at hOther
    cases hOther
    rw [hTasks, Function.update_self]
  · intro hNone
    rw [hArrived, hHere] at hNone
    cases hNone

/-- The data connection finds the pending entry. -/
theorem Rendezvous.Sound.resolved_step (h : s.Sound connId) {proxy : ProxyState}
    (hNext : nextHandler cfg s.daemon.ctx (s.daemon.tasks id) .proceed =
      some ({ s.daemon.ctx with proxy := proxy }, .proxy .finished))
    (hTask : s.daemon.tasks id = .proxy (.resolving connId))
    (hResolve : s.daemon.ctx.proxy.resolve connId = some proxy) :
    (s.advance connId id .proceed { s.daemon.ctx with proxy := proxy } (.proxy .finished)).Sound connId := by
  obtain ⟨stage, hUnasked, hControl, hLedger⟩ := h.stage
  obtain ⟨hArrived, hOutcome⟩ := h.data.sole id (by rw [hTask]; rfl)
  obtain ⟨receiver, hEntry, hPending, hOthers, hSent, hCount, hRequests, hBridges⟩ := resolve_some hResolve
  obtain ⟨result, hResult⟩ : ∃ result, result =
    if s.daemon.ctx.proxy.receivers receiver = .waiting then some receiver else none := ⟨_, rfl⟩
  have hRecord : s.record connId id .proceed (.proxy .finished) = { s with outcome := some result } := by
    unfold Rendezvous.record Rendezvous.delivery
    rw [hTask, hEntry, hResult]
    exact if_pos rfl
  refine ⟨h.tickets_step hNext, h.data.decide hTask rfl ((congrArg Rendezvous.arrived hRecord).trans rfl) ?_, ?_⟩
  · intro hNone
    cases (congrArg Rendezvous.outcome hRecord).symm.trans hNone
  refine ⟨stage, fun hNever => hUnasked ((congrArg Rendezvous.asked hRecord).symm.trans hNever), ?_, ?_⟩
  · refine hControl.other_step ?_ ?_ ?_ fun _ hActs => nomatch hActs
    · rw [hBridges]
    · unfold Unrequested
      rw [hRequests]
      exact hControl.unrequested
    · rw [hTask]
      exact fun _ hActs => nomatch hActs
  · apply hLedger.map
    · intro hVacant
      rw [hVacant.pending] at hEntry
      cases hEntry
    · intro held hOffered
      rcases hOffered.open_or_delivered with ⟨-, hHeld, hWaiting⟩ | ⟨hDelivered, -⟩
      · obtain rfl : held = receiver := Option.some.inj (hHeld.symm.trans hEntry)
        refine ⟨?_, .inr ⟨?_, hSent hWaiting⟩⟩
        · exact (congrArg Rendezvous.registered hRecord).trans hOffered.registered
        · exact (congrArg Rendezvous.outcome hRecord).trans (congrArg some (hResult.trans (if_pos hWaiting)))
      · rw [hOutcome] at hDelivered
        cases hDelivered
    · intro hConcluded
      exact hConcluded.resolving hArrived hOutcome ((congrArg Rendezvous.accepted hRecord).trans rfl)

/-- The data connection finds nothing and goes on waiting. -/
theorem Rendezvous.Sound.unresolved_step (h : s.Sound connId)
    (hTask : s.daemon.tasks id = .proxy (.resolving connId))
    (hMiss : s.daemon.ctx.proxy.resolve connId = none) :
    (s.advance connId id .proceed s.daemon.ctx (.proxy (.resolving connId))).Sound connId := by
  obtain ⟨-, hOutcome⟩ := h.data.sole id (by rw [hTask]; rfl)
  have hNowhere : Rendezvous.delivery s.daemon.ctx.proxy connId = s.outcome := by
    unfold ProxyState.resolve at hMiss
    unfold Rendezvous.delivery
    rw [hOutcome]
    split at hMiss
    case h_1 hNone => rw [hNone]; rfl
    case h_2 => cases hMiss
  have hRecord : s.record connId id .proceed (.proxy (.resolving connId)) = s := by
    unfold Rendezvous.record
    rw [hTask]
    refine (if_pos rfl).trans ?_
    rw [hNowhere]
  have hTasks : (s.advance connId id .proceed s.daemon.ctx (.proxy (.resolving connId))).daemon.tasks =
      s.daemon.tasks := by
    show Function.update s.daemon.tasks id _ = _
    rw [← hTask, Function.update_eq_self]
  exact h.congr (h.data.sameRecord hRecord) hTasks rfl

/-- The data connection gives up after its grace period. -/
theorem Rendezvous.Sound.expired_step (h : s.Sound connId)
    (hNext : nextHandler cfg s.daemon.ctx (s.daemon.tasks id) .fail = some (s.daemon.ctx, .proxy .finished))
    (hTime : s.inTime id .fail = true) (hOrderly : s.Orderly connId id .fail)
    (hTask : s.daemon.tasks id = .proxy (.resolving connId)) :
    (s.advance connId id .fail s.daemon.ctx (.proxy .finished)).Sound connId := by
  obtain ⟨stage, hUnasked, hControl, hLedger⟩ := h.stage
  obtain ⟨hArrived, hOutcome⟩ := h.data.sole id (by rw [hTask]; rfl)
  have hUnregistered := hOrderly.apart hTask rfl
  have hRecord : s.record connId id .fail (.proxy .finished) = { s with outcome := some none } := by
    unfold Rendezvous.record
    rw [hTask]
    exact if_pos rfl
  have hLate : s.deadline id ≤ s.now := by
    unfold Rendezvous.inTime at hTime
    rw [hTask] at hTime
    exact of_decide_eq_true (Bool.and_eq_true_iff.mp hTime).2
  refine ⟨h.tickets_step hNext, h.data.decide hTask rfl ((congrArg Rendezvous.arrived hRecord).trans rfl) ?_, ?_⟩
  · intro hNone
    cases (congrArg Rendezvous.outcome hRecord).symm.trans hNone
  refine ⟨stage, fun hNever => hUnasked ((congrArg Rendezvous.asked hRecord).symm.trans hNever), ?_, ?_⟩
  · refine hControl.other_step rfl hControl.unrequested ?_ fun _ hActs => nomatch hActs
    rw [hTask]
    exact fun _ hActs => nomatch hActs
  · apply hLedger.map
    · intro hVacant
      refine ⟨(congrArg Rendezvous.registered hRecord).trans hVacant.registered,
        (congrArg Rendezvous.accepted hRecord).trans hVacant.accepted, hVacant.pending, ?_⟩
      intro result hResult
      cases (congrArg Rendezvous.outcome hRecord).symm.trans hResult
      refine ⟨rfl, fun task hHere => ?_⟩
      obtain rfl : id = task :=
        Option.some.inj (hArrived.symm.trans ((congrArg Rendezvous.arrived hRecord).symm.trans hHere))
      calc
        _ = s.deadline id := h.data.deadline_kept hArrived _ Rendezvous.record_deadline
        _ ≤ s.now := hLate
        _ = _ := Rendezvous.record_now.symm
    · intro held hOffered
      cases hUnregistered.symm.trans hOffered.registered
    · intro hConcluded
      exact hConcluded.resolving hArrived hOutcome ((congrArg Rendezvous.accepted hRecord).trans rfl)

/-- A step of the data connection. -/
theorem Rendezvous.Sound.data_step (h : s.Sound connId)
    (hNext : nextHandler cfg s.daemon.ctx (s.daemon.tasks id) input = some (after, next))
    (hTime : s.inTime id input = true) (hOrderly : s.Orderly connId id input)
    (hTask : s.daemon.tasks id = .proxy (.resolving connId)) :
    (s.advance connId id input after next).Sound connId := by
  have hData : ∃ proxy task', after = { s.daemon.ctx with proxy := proxy } ∧ next = .proxy task' ∧
      nextData cfg s.daemon.ctx.proxy (.resolving connId) input = some (proxy, task') := by
    rw [hTask] at hNext
    obtain ⟨proxy, task', hAfter, hProxy, hClient | hData⟩ := nextProxy_cases hNext
    · cases hClient
    · exact ⟨proxy, task', hAfter, hProxy, hData⟩
  obtain ⟨proxy, task', rfl, rfl, hData⟩ := hData
  cases nextData_cases hData with
  | resolved hResolve => exact h.resolved_step hNext hTask hResolve
  | unresolved hMiss => exact h.unresolved_step hTask hMiss
  | gaveUp => exact h.expired_step hNext hTime hOrderly hTask

/-- Tasks that act under the conn_id tell nothing about the data. -/
theorem Rendezvous.record_acting (input : Input) (next : Handler) {origin : Option String}
    (hActs : (s.daemon.tasks id).actsUnder = some (origin, connId)) :
    (s.record connId id input next).asked = s.asked ∧ (s.record connId id input next).arrived = s.arrived ∧
      (s.record connId id input next).outcome = s.outcome := by
  have other {handler : Handler} (hTask : s.daemon.tasks id = handler)
      (hNone : handler.actsUnder = none) : False := by
    rw [hTask, hNone] at hActs
    cases hActs
  unfold Rendezvous.record
  split
  case h_1 hTask => exact (other hTask rfl).elim
  case h_4 hTask => exact (other hTask rfl).elim
  case h_5 hTask => exact (other hTask rfl).elim
  case h_6 hTask => exact (other hTask rfl).elim
  case h_8 => exact ⟨rfl, rfl, rfl⟩
  all_goals split_ifs <;> exact ⟨rfl, rfl, rfl⟩

/-- A step of the task that acts under the conn_id, by the stage it leads to. -/
theorem Rendezvous.Sound.acting_step (h : s.Sound connId) (stage' : Stage)
    (hNext : nextHandler cfg s.daemon.ctx (s.daemon.tasks id) input = some (after, next)) {origin : Option String}
    (hActs : (s.daemon.tasks id).actsUnder = some (origin, connId)) (hAsked : s.asked = true)
    (hControl : stage'.Control connId (s.daemon.withTask id after next))
    (hLedger : stage'.Ledger connId (s.advance connId id input after next)) :
    (s.advance connId id input after next).Sound connId := by
  obtain ⟨hSameAsked, hArrived, hOutcome⟩ := Rendezvous.record_acting input next hActs
  have hBefore : (s.daemon.tasks id).resolves ≠ some connId := by
    intro hResolves
    unfold Handler.resolves at hResolves
    split at hResolves
    case h_1 hTask =>
      rw [hTask] at hActs
      cases hActs
    case h_2 => cases hResolves
  constructor
  · exact h.tickets_step hNext
  · refine h.data.other_step hArrived hOutcome rfl hNext hBefore fun hResolves => ?_
    obtain ⟨hTask, -⟩ := nextHandler_arrives hNext hBefore hResolves
    rw [hTask] at hActs
    cases hActs
  · refine ⟨stage', fun hNever => ?_, hControl, hLedger⟩
    rw [hSameAsked.symm.trans hNever] at hAsked
    cases hAsked

/-- The request looks its socket up. -/
theorem Rendezvous.Sound.lookup_step (h : s.Sound connId)
    (hNext : nextHandler cfg s.daemon.ctx (s.daemon.tasks id) input = some (after, next)) (hAsked : s.asked = true)
    (hControl : (Stage.asking id).Control connId s.daemon) (hVacant : s.Vacant connId)
    {containerId socketId : String} {registrationId : Nat}
    (hTask : s.daemon.tasks id = .socketLookup containerId registrationId socketId connId) :
    (s.advance connId id input after next).Sound connId := by
  have hActs : (s.daemon.tasks id).actsUnder = some (some containerId, connId) := by rw [hTask]; rfl
  have hRecord : s.record connId id input next = s := by
    unfold Rendezvous.record
    rw [hTask]
  have hSame : s.SameRecord (s.advance connId id input after next) := h.data.sameRecord hRecord
  have hFramed : Framed (fun _ => connId) connId s.daemon.ctx.proxy s.daemon.ctx.proxy :=
    .of_eq rfl rfl hControl.unrequested rfl
  have hKeeper : ∀ other, (Stage.asking id).keeper = some other → other = id := fun _ hHere =>
    (Option.some.inj hHere).symm
  have hLookup : nextAuxiliary s.daemon.ctx (.socketLookup containerId registrationId socketId connId) input =
      some (after, next) := by
    rw [hTask] at hNext
    exact hNext
  cases nextAuxiliary_cases hLookup with
  | known =>
      apply h.acting_step (.asking id) hNext hActs hAsked
      · exact hControl.keeper_step hKeeper (.inl ⟨rfl, .inr ⟨containerId, registrationId, rfl⟩⟩)
          hControl.bridges hControl.unrequested
      · exact hVacant.framed hSame hFramed
  | unknown =>
      apply h.acting_step (.ended none) hNext hActs hAsked
      · exact hControl.keeper_step hKeeper (.inr ⟨rfl, fun _ hNone => nomatch hNone⟩) hControl.bridges
          hControl.unrequested
      · intro hAccepted
        rw [hSame.accepted, hVacant.accepted] at hAccepted
        cases hAccepted

/-- The data connection has not given up when the request is registered. -/
theorem Rendezvous.Sound.undecided (h : s.Sound connId) (hVacant : s.Vacant connId)
    (hEarly : ∀ task, s.arrived = some task →
      s.now < s.deadline task ∨ s.daemon.tasks task = .proxy (.resolving connId)) : s.outcome = none := by
  by_contra hDecided
  obtain ⟨result, hResult⟩ := Option.ne_none_iff_exists'.mp hDecided
  cases hArrived : s.arrived with
  | none => exact hDecided (h.data.undecided hArrived)
  | some task =>
      rcases hEarly task hArrived with hNow | hTask
      · exact absurd ((hVacant.late result hResult).2 task hArrived) (Nat.not_le.mpr hNow)
      · rw [h.data.gone task hArrived hDecided] at hTask
        cases hTask

/-- The request is registered, or the pending map is full. -/
theorem Rendezvous.Sound.register_step (h : s.Sound connId)
    (hNext : nextHandler cfg s.daemon.ctx (s.daemon.tasks id) input = some (after, next)) (hAsked : s.asked = true)
    (hOrderly : s.Orderly connId id input)
    (hControl : (Stage.asking id).Control connId s.daemon) (hVacant : s.Vacant connId)
    {containerId : String} {registrationId : Nat}
    (hTask : s.daemon.tasks id = .socketRegister containerId registrationId connId) :
    (s.advance connId id input after next).Sound connId := by
  have hActs : (s.daemon.tasks id).actsUnder = some (some containerId, connId) := by rw [hTask]; rfl
  have hUndecided := h.undecided hVacant (hOrderly.early containerId registrationId hTask)
  obtain ⟨-, -, hOutcome⟩ := Rendezvous.record_acting input next hActs
  have hKeeper : ∀ other, (Stage.asking id).keeper = some other → other = id := fun _ hHere =>
    (Option.some.inj hHere).symm
  have hRecord : input = .proceed →
      s.record connId id input next = { s with registered := next.ticket.map Prod.snd } := by
    rintro rfl
    unfold Rendezvous.record
    rw [hTask]
    exact if_pos rfl
  have hStep : nextAuxiliary s.daemon.ctx (.socketRegister containerId registrationId connId) input =
      some (after, next) := by
    rw [hTask] at hNext
    exact hNext
  cases nextAuxiliary_cases hStep with
  | @registered _ _ _ receiver proxy hRegister =>
      have hRegistered := register_some hRegister
      apply h.acting_step (.connecting id receiver) hNext hActs hAsked
      · refine hControl.keeper_step hKeeper (.inl ⟨rfl, containerId, registrationId, rfl⟩) ?_ ?_
        · show proxy.bridges.filter (·.1 = connId) = _
          rw [hRegistered.bridges]
          exact hControl.bridges
        · unfold Unrequested
          show ∀ channel, ∀ request ∈ proxy.connectRequests channel, _
          rw [hRegistered.requests]
          exact hControl.unrequested
      · refine ⟨congrArg Rendezvous.registered (hRecord rfl), .inl ⟨?_, hRegistered.entry, ?_⟩⟩
        · exact hOutcome.trans hUndecided
        show proxy.receivers receiver = .waiting
        rw [hRegistered.receivers, Function.update_self]
  | @unregistered _ _ _ proxy hRegister =>
      obtain ⟨-, -, -, hRequests, hBridges⟩ := register_none hRegister
      apply h.acting_step (.ended none) hNext hActs hAsked
      · refine hControl.keeper_step hKeeper (.inr ⟨rfl, fun _ hNone => nomatch hNone⟩) ?_ ?_
        · show proxy.bridges.filter (·.1 = connId) = _
          rw [hBridges]
          exact hControl.bridges
        · unfold Unrequested
          show ∀ channel, ∀ request ∈ proxy.connectRequests channel, _
          rw [hRequests]
          exact hControl.unrequested
      · intro hAccepted
        cases hVacant.accepted.symm.trans ((congrArg Rendezvous.accepted (hRecord rfl)).symm.trans hAccepted)

/-- The host socket of the request is reached, or it is not. -/
theorem Rendezvous.Sound.connect_step (h : s.Sound connId)
    (hNext : nextHandler cfg s.daemon.ctx (s.daemon.tasks id) input = some (after, next)) (hAsked : s.asked = true)
    {receiver : Nat} (hControl : (Stage.connecting id receiver).Control connId s.daemon)
    (hOffered : s.Offered connId receiver) {containerId : String} {registrationId : Nat}
    (hTask : s.daemon.tasks id = .socketConnect containerId registrationId connId receiver) :
    (s.advance connId id input after next).Sound connId := by
  have hActs : (s.daemon.tasks id).actsUnder = some (some containerId, connId) := by rw [hTask]; rfl
  have hKeeper : ∀ other, (Stage.connecting id receiver).keeper = some other → other = id := fun _ hHere =>
    (Option.some.inj hHere).symm
  have hStep := hNext
  rw [hTask] at hStep
  cases input with
  | launched ok =>
      have hRecord : s.record connId id (.launched ok) next = { s with accepted := ok } := by
        unfold Rendezvous.record
        rw [hTask]
        exact if_pos rfl
      cases ok with
      | true =>
          cases hStep
          apply h.acting_step (.queued receiver) hNext hActs hAsked
          · refine hControl.keeper_step hKeeper (.inr ⟨rfl, fun _ hNone => nomatch hNone⟩) ?_
              hControl.unrequested
            show (s.daemon.ctx.proxy.bridges ++ [(connId, receiver)]).filter (·.1 = connId) = _
            rw [List.filter_append, hControl.bridges]
            simp [Stage.bridges]
          · refine ⟨(congrArg Rendezvous.registered hRecord).trans hOffered.registered, ?_⟩
            have hOutcome := congrArg Rendezvous.outcome hRecord
            exact hOffered.open_or_delivered.imp (fun hOpen => ⟨hOutcome.trans hOpen.1, hOpen.2⟩)
              fun hDone => ⟨hOutcome.trans hDone.1, hDone.2⟩
      | false =>
          cases hStep
          apply h.acting_step (.ended (some id)) hNext hActs hAsked
          · exact hControl.keeper_step hKeeper (.inl ⟨rfl, .inl ⟨containerId, registrationId, rfl⟩⟩)
              hControl.bridges hControl.unrequested
          · intro hAccepted
            cases (congrArg Rendezvous.accepted hRecord).symm.trans hAccepted
  | _ => cases hStep

/-- The bridge gets its data, or it gives up before the data is there. -/
theorem Rendezvous.Sound.bridge_step (h : s.Sound connId)
    (hNext : nextHandler cfg s.daemon.ctx (s.daemon.tasks id) input = some (after, next)) (hAsked : s.asked = true)
    (hOrderly : s.Orderly connId id input)
    {receiver : Nat} (hControl : (Stage.bridging id receiver).Control connId s.daemon)
    (hOffered : s.Offered connId receiver) : (s.advance connId id input after next).Sound connId := by
  have hTask : s.daemon.tasks id = .proxy (.socketBridge connId receiver) := hControl.place id rfl
  have hActs : (s.daemon.tasks id).actsUnder = some (none, connId) := by rw [hTask]; rfl
  have hKeeper : ∀ other, (Stage.bridging id receiver).keeper = some other → other = id := fun _ hHere =>
    (Option.some.inj hHere).symm
  have hData : ∃ proxy task', after = { s.daemon.ctx with proxy := proxy } ∧ next = .proxy task' ∧
      nextData cfg s.daemon.ctx.proxy (.socketBridge connId receiver) input = some (proxy, task') := by
    rw [hTask] at hNext
    obtain ⟨proxy, task', hAfter, hProxy, hClient | hData⟩ := nextProxy_cases hNext
    · cases hClient
    · exact ⟨proxy, task', hAfter, hProxy, hData⟩
  obtain ⟨proxy, task', rfl, rfl, hData⟩ := hData
  cases nextData_cases hData with
  | bridged hDelivered =>
      have hRecord : s.record connId id .proceed (.proxy .finished) = s := by
        unfold Rendezvous.record
        rw [hTask]
      have hSent : s.outcome = some (some receiver) := by
        rcases hOffered.open_or_delivered with ⟨-, -, hWaiting⟩ | ⟨hSent, -⟩
        · rw [hWaiting] at hDelivered
          cases hDelivered
        · exact hSent
      apply h.acting_step (.ended none) hNext hActs hAsked
      · exact hControl.keeper_step hKeeper (.inr ⟨rfl, fun _ hNone => nomatch hNone⟩) hControl.bridges
          hControl.unrequested
      · exact fun _ => .inr ⟨receiver, (congrArg Rendezvous.registered hRecord).trans hOffered.registered,
          (congrArg Rendezvous.outcome hRecord).trans hSent⟩
  | expired =>
      have hRecord : s.record connId id .fail (.proxy (.socketBridgeCancel connId)) =
          { s with expired := true } := by
        unfold Rendezvous.record
        rw [hTask]
        exact if_pos rfl
      have hNone := hOrderly.patient receiver hTask rfl
      apply h.acting_step (.ended (some id)) hNext hActs hAsked
      · exact hControl.keeper_step hKeeper (.inl ⟨rfl, .inr rfl⟩) hControl.bridges hControl.unrequested
      · intro _
        exact .inl ⟨(congrArg Rendezvous.arrived hRecord).trans hNone, congrArg Rendezvous.expired hRecord⟩

/-- The entry of a request that has failed is removed. -/
theorem Rendezvous.Sound.cancel_step (h : s.Sound connId)
    (hNext : nextHandler cfg s.daemon.ctx (s.daemon.tasks id) input = some (after, next)) (hAsked : s.asked = true)
    (hControl : (Stage.ended (some id)).Control connId s.daemon) (hConcluded : s.Concluded) :
    (s.advance connId id input after next).Sound connId := by
  have hKeeper : ∀ other, (Stage.ended (some id)).keeper = some other → other = id := fun _ hHere =>
    (Option.some.inj hHere).symm
  have conclude (hRecord : s.record connId id input next = s) :
      (s.advance connId id input after next).Concluded := by
    have hSame : s.SameRecord (s.advance connId id input after next) := h.data.sameRecord hRecord
    intro hAccepted
    rw [hSame.accepted] at hAccepted
    rw [hSame.arrived, hSame.expired, hSame.registered, hSame.outcome]
    exact hConcluded hAccepted
  rcases hControl.place id rfl with ⟨containerId, registrationId, hTask⟩ | hTask
  · have hActs : (s.daemon.tasks id).actsUnder = some (some containerId, connId) := by rw [hTask]; rfl
    have hRecord : s.record connId id input next = s := by
      unfold Rendezvous.record
      rw [hTask]
    have hStep := hNext
    rw [hTask] at hStep
    cases input with
    | proceed =>
        cases hStep
        apply h.acting_step (.ended none) hNext hActs hAsked
        · exact hControl.keeper_step hKeeper (.inr ⟨rfl, fun _ hNone => nomatch hNone⟩) hControl.bridges
            hControl.unrequested
        · exact conclude hRecord
    | _ => cases hStep
  · have hActs : (s.daemon.tasks id).actsUnder = some (none, connId) := by rw [hTask]; rfl
    have hRecord : s.record connId id input next = s := by
      unfold Rendezvous.record
      rw [hTask]
    have hStep := hNext
    rw [hTask] at hStep
    cases input with
    | proceed =>
        cases hStep
        apply h.acting_step (.ended none) hNext hActs hAsked
        · exact hControl.keeper_step hKeeper (.inr ⟨rfl, fun _ hNone => nomatch hNone⟩) hControl.bridges
            hControl.unrequested
        · exact conclude hRecord
    | _ => cases hStep

/-- The request is received. -/
theorem Rendezvous.Sound.asked_step (h : s.Sound connId)
    (hNext : nextHandler cfg s.daemon.ctx (s.daemon.tasks id) input = some (after, next))
    (hOrderly : s.Orderly connId id input) {container : String}
    (hNames : (s.daemon.tasks id).names input = some (container, connId)) :
    (s.advance connId id input after next).Sound connId := by
  obtain ⟨hAsked, socketId, rfl⟩ := hOrderly.once container hNames
  obtain ⟨stage, hUnasked, hControl, hLedger⟩ := h.stage
  obtain rfl := hUnasked hAsked
  have hServing : ∃ containerId registrationId, s.daemon.tasks id = .serving containerId registrationId := by
    unfold Handler.names at hNames
    split at hNames
    case h_1 containerId registrationId message hTask hInput => exact ⟨containerId, registrationId, hTask⟩
    case h_2 hInput => cases hInput
    case h_3 => cases hNames
  obtain ⟨containerId, registrationId, hTask⟩ := hServing
  have hRecord : s.record connId id (.receive (.socketConnectRequest socketId connId)) next =
      { s with asked := true } := by
    unfold Rendezvous.record
    rw [hTask]
    exact if_pos rfl
  have hStep := hNext
  rw [hTask] at hStep
  cases hStep
  have hData : (s.advance connId id (.receive (.socketConnectRequest socketId connId)) s.daemon.ctx
      (dispatchContainer cfg containerId registrationId (.socketConnectRequest socketId connId))).Data connId := by
    refine h.data.other_step ((congrArg Rendezvous.arrived hRecord).trans rfl)
      ((congrArg Rendezvous.outcome hRecord).trans rfl) rfl hNext ?_ ?_
    · rw [hTask]
      exact fun hNone => nomatch hNone
    · rw [(dispatchContainer_unmatched containerId registrationId _).resolves]
      exact fun hNone => nomatch hNone
  have hKeeper : ∀ other, Stage.unasked.keeper = some other → other = id := fun _ hNone => nomatch hNone
  have asked {stage : Stage} : (s.advance connId id (.receive (.socketConnectRequest socketId connId)) s.daemon.ctx
      (dispatchContainer cfg containerId registrationId (.socketConnectRequest socketId connId))).asked = false →
        stage = .unasked := by
    intro hNever
    cases (congrArg Rendezvous.asked hRecord).symm.trans hNever
  refine ⟨h.tickets_step hNext, hData, ?_⟩
  by_cases hValid : isValidIdentifier cfg.tables socketId && isValidIdentifier cfg.tables connId
  · have hLookup : dispatchContainer cfg containerId registrationId (.socketConnectRequest socketId connId) =
        .socketLookup containerId registrationId socketId connId := if_pos hValid
    refine ⟨.asking id, asked, ?_, ?_⟩
    · exact hControl.keeper_step hKeeper (.inl ⟨rfl, .inl ⟨containerId, registrationId, socketId, hLookup⟩⟩)
        hControl.bridges hControl.unrequested
    · refine ⟨(congrArg Rendezvous.registered hRecord).trans hLedger.registered,
        (congrArg Rendezvous.accepted hRecord).trans hLedger.accepted, hLedger.pending, ?_⟩
      intro result hResult
      obtain ⟨hNone, hLate⟩ := hLedger.late result ((congrArg Rendezvous.outcome hRecord).symm.trans hResult)
      refine ⟨hNone, fun task hArrived => ?_⟩
      have hHere : s.arrived = some task := (congrArg Rendezvous.arrived hRecord).symm.trans hArrived
      calc
        _ = s.deadline task := h.data.deadline_kept hHere _ Rendezvous.record_deadline
        _ ≤ s.now := hLate task hHere
        _ = _ := Rendezvous.record_now.symm
  · have hLoop : dispatchContainer cfg containerId registrationId (.socketConnectRequest socketId connId) =
        .serving containerId registrationId := if_neg hValid
    refine ⟨.ended none, asked, ?_, ?_⟩
    · refine hControl.keeper_step hKeeper (.inr ⟨rfl, ?_⟩) hControl.bridges hControl.unrequested
      rw [hLoop]
      exact fun _ hNone => nomatch hNone
    · intro hAccepted
      cases hLedger.accepted.symm.trans ((congrArg Rendezvous.accepted hRecord).symm.trans hAccepted)

/-- A step of the task that acts under the conn_id. -/
theorem Rendezvous.Sound.keeper_step (h : s.Sound connId)
    (hNext : nextHandler cfg s.daemon.ctx (s.daemon.tasks id) input = some (after, next))
    (hOrderly : s.Orderly connId id input) {origin : Option String}
    (hActs : (s.daemon.tasks id).actsUnder = some (origin, connId)) :
    (s.advance connId id input after next).Sound connId := by
  obtain ⟨stage, hUnasked, hControl, hLedger⟩ := h.stage
  have hKeeper := hControl.sole id origin hActs
  have hAsked : s.asked = true := by
    by_contra hNever
    rw [hUnasked (Bool.eq_false_of_not_eq_true hNever)] at hKeeper
    cases hKeeper
  cases stage with
  | unasked => cases hKeeper
  | asking other =>
      cases hKeeper
      rcases hControl.place id rfl with ⟨_, _, _, hTask⟩ | ⟨_, _, hTask⟩
      · exact h.lookup_step hNext hAsked hControl hLedger hTask
      · exact h.register_step hNext hAsked hOrderly hControl hLedger hTask
  | connecting other receiver =>
      cases hKeeper
      obtain ⟨containerId, registrationId, hTask⟩ := hControl.place id rfl
      exact h.connect_step hNext hAsked hControl hLedger hTask
  | queued receiver => cases hKeeper
  | bridging other receiver =>
      cases hKeeper
      exact h.bridge_step hNext hAsked hOrderly hControl hLedger
  | ended keeper =>
      cases hKeeper
      exact h.cancel_step hNext hAsked hControl hLedger

theorem Rendezvous.Sound.task_step (h : s.Sound connId)
    (hNext : nextHandler cfg s.daemon.ctx (s.daemon.tasks id) input = some (after, next))
    (hTime : s.inTime id input = true) (hOrderly : s.Orderly connId id input) :
    (s.advance connId id input after next).Sound connId := by
  by_cases hNames : ∃ container, (s.daemon.tasks id).names input = some (container, connId)
  · obtain ⟨container, hNames⟩ := hNames
    exact h.asked_step hNext hOrderly hNames
  by_cases hActs : ∃ origin, (s.daemon.tasks id).actsUnder = some (origin, connId)
  · obtain ⟨origin, hActs⟩ := hActs
    exact h.keeper_step hNext hOrderly hActs
  by_cases hResolves : (s.daemon.tasks id).resolves = some connId
  · have hTask : s.daemon.tasks id = .proxy (.resolving connId) := by
      unfold Handler.resolves at hResolves
      split at hResolves
      case h_1 hTask =>
        cases hResolves
        exact hTask
      case h_2 => cases hResolves
    exact h.data_step hNext hTime hOrderly hTask
  have hStranger : Stranger connId (s.daemon.tasks id) input :=
    ⟨fun origin hHere => hActs ⟨origin, hHere⟩, fun container hHere => hNames ⟨container, hHere⟩,
      hResolves⟩
  by_cases hBridge : ∃ origin, next.actsUnder = some (origin, connId)
  · obtain ⟨origin, hBridge⟩ := hBridge
    exact h.spawn_step hNext hStranger hBridge
  by_cases hArrive : s.daemon.tasks id = .proxy .handshake ∧ input = .receive (.connectReady connId)
  · exact h.arrive_step hNext hOrderly hArrive.1 hArrive.2
  refine h.stranger_step hNext hStranger (fun origin hHere => hBridge ⟨origin, hHere⟩) ?_ hArrive
  intro hHere
  obtain ⟨hTask, hInput, -⟩ := nextHandler_arrives hNext hResolves hHere
  exact hArrive ⟨hTask, hInput⟩

theorem Rendezvous.Sound.step (h : s.Sound connId) {action : RendezvousAction} (hPrompt : s.Prompt connId action)
    (hStep : s.step cfg connId action = some s') : s'.Sound connId := by
  cases action with
  | tick elapsed =>
      cases hStep
      exact h.congr ⟨rfl, rfl, rfl, rfl, rfl, rfl, Nat.le_add_right .., fun _ _ => rfl⟩ rfl rfl
  | sleep id =>
      obtain ⟨-, hHere⟩ := Option.ite_none_right_eq_some.mp hStep
      cases hHere
      exact h.congr ⟨rfl, rfl, rfl, rfl, rfl, rfl, le_refl _, fun _ _ => rfl⟩ rfl rfl
  | act action =>
      cases action with
      | task id input =>
          obtain ⟨hTime, after, next, hNext, rfl⟩ := Rendezvous.step_task hStep
          exact h.task_step hNext hTime hPrompt
      | clientConnects listener =>
          obtain ⟨d, hDaemon, rfl⟩ := Option.map_eq_some_iff.mp hStep
          cases (Daemon.step_cases hDaemon).2 with
          | @clientConnects _ after hAccept =>
              obtain ⟨l, -, rfl⟩ := DaemonContext.acceptClient_frame hAccept
              exact h.congr ⟨rfl, rfl, rfl, rfl, rfl, rfl, le_refl _, fun _ _ => rfl⟩ rfl rfl
      | stop =>
          obtain ⟨d, hDaemon, rfl⟩ := Option.map_eq_some_iff.mp hStep
          cases (Daemon.step_cases hDaemon).2 with
          | stop => exact h.congr ⟨rfl, rfl, rfl, rfl, rfl, rfl, le_refl _, fun _ _ => rfl⟩ rfl rfl

theorem Rendezvous.start_sound (cfg : HostConfig) (connId : String) : (Rendezvous.start cfg).Sound connId := by
  have hIdle : ∀ id, (Daemon.start cfg).tasks id = .scanning ∨ (Daemon.start cfg).tasks id = .idle := by
    intro id
    unfold Daemon.start
    dsimp only
    split_ifs
    · exact .inl rfl
    · exact .inr rfl
  have hTicket : ∀ id, ((Daemon.start cfg).tasks id).ticket = none := by
    intro id
    rcases hIdle id with hTask | hTask <;> rw [hTask] <;> rfl
  have hResolves : ∀ id, ((Daemon.start cfg).tasks id).resolves = none := by
    intro id
    rcases hIdle id with hTask | hTask <;> rw [hTask] <;> rfl
  have hActs : ∀ id, ((Daemon.start cfg).tasks id).actsUnder = none := by
    intro id
    rcases hIdle id with hTask | hTask <;> rw [hTask] <;> rfl
  constructor
  · refine ⟨fun _ => connId, fun _ _ hEntry => (nomatch hEntry), fun id _ _ hHolds => ?_, ?_⟩
    · cases (hTicket id).symm.trans hHolds
    · exact fun _ _ hBridge => nomatch hBridge
  · refine ⟨fun id hHere => ?_, fun _ hHere => (nomatch hHere), fun _ hHere => (nomatch hHere), fun _ => rfl⟩
    cases (hResolves id).symm.trans hHere
  · refine ⟨.unasked, fun _ => rfl, ⟨fun id owner hHere => ?_, fun _ hNone => (nomatch hNone), rfl, ?_⟩, ?_⟩
    · cases (hActs id).symm.trans hHere
    · exact fun _ _ hRequest => nomatch hRequest
    · exact ⟨rfl, rfl, rfl, fun _ hResult => nomatch hResult⟩

/-- In every stage the data has been delivered, or it will be at the next lookup. -/
theorem Rendezvous.Sound.met (h : s.Sound connId) : s.Met connId := by
  obtain ⟨stage, -, hControl, hLedger⟩ := h.stage
  intro hAccepted task hArrived
  have vacant : ¬s.Vacant connId := by
    intro hVacant
    cases hVacant.accepted.symm.trans hAccepted
  have offered {receiver : Nat} (hOffered : s.Offered connId receiver) :
      ∃ receiver, s.registered = some receiver ∧ (s.outcome = some (some receiver) ∨
        s.outcome = none ∧ s.daemon.tasks task = .proxy (.resolving connId) ∧
          Rendezvous.delivery s.daemon.ctx.proxy connId = some (some receiver)) := by
    refine ⟨receiver, hOffered.registered, ?_⟩
    rcases hOffered.open_or_delivered with ⟨hNone, hEntry, hWaiting⟩ | ⟨hSent, -⟩
    · refine .inr ⟨hNone, h.data.here task hArrived hNone, ?_⟩
      unfold Rendezvous.delivery
      rw [hEntry]
      exact congrArg some (if_pos hWaiting)
    · exact .inl hSent
  cases stage with
  | unasked => exact absurd hLedger vacant
  | asking id => exact absurd hLedger vacant
  | connecting id receiver => exact offered hLedger
  | queued receiver => exact offered hLedger
  | bridging id receiver => exact offered hLedger
  | ended keeper =>
      rcases hLedger hAccepted with ⟨hNone, -⟩ | ⟨receiver, hRegistered, hSent⟩
      · rw [hNone] at hArrived
        cases hArrived
      · exact ⟨receiver, hRegistered, .inl hSent⟩

/-- A container registers and forwards a port, the host finds a socket, and a
client is connected to the forwarded port. -/
def busySchedule : List Action :=
  let cstate := { HostState.newRegistration "h" 1 with forwards := Finmap.singleton 8080 onlyForward }
  singleSchedule ++ [.task 0 (.scan [{ socketId := "s", hostPath := "/s", containerPath := "/s" }] []
      [⟨"c", cstate⟩]), .task 0 .proceed, .task 0 .proceed]
    ++ clientSchedule 2 [⟨"c", cstate⟩] "x"

/-- Steps of one task with the clock running. -/
def timedActions (id : Nat) (inputs : List Input) : List RendezvousAction :=
  inputs.map fun input => .act (.task id input)

/-- The container asks for a socket. Its data connection comes first and waits. -/
def promptSchedule : List RendezvousAction :=
  busySchedule.map RendezvousAction.act
    ++ timedActions 3 [.connectData, .receive (.connectReady "y"), .proceed]
    ++ RendezvousAction.tick 10 :: RendezvousAction.sleep 3 ::
      timedActions 1 [.receive (.socketConnectRequest "s" "y"), .proceed, .proceed, .launched true]
    ++ timedActions 3 [.proceed] ++ timedActions 4 [.spawnBridge, .proceed]

def Input.isRequestFor (connId : String) : Input → Bool
  | .receive (.socketConnectRequest _ named) => named == connId
  | _ => false

def Input.isReadyFor (connId : String) : Input → Bool
  | .receive (.connectReady named) => named == connId
  | _ => false

def Input.isFail : Input → Bool
  | .fail => true
  | _ => false

/-- A simple check for schedules in which nobody gives up. -/
def Rendezvous.isPrompt (connId : String) (s : Rendezvous) : RendezvousAction → Bool
  | .act (.task id input) =>
      ((s.daemon.tasks id).names input).all (fun origin =>
          origin.2 != connId || (!s.asked && input.isRequestFor connId)) &&
        (!input.isReadyFor connId || (s.arrived == none && !s.expired)) && !input.isFail &&
        s.arrived.all fun task => s.now < s.deadline task
  | _ => true

theorem Rendezvous.prompt_of_isPrompt (hLength : connId.utf8ByteSize ≤ maxConnIdLength)
    {action : RendezvousAction} (h : s.isPrompt connId action = true) : s.Prompt connId action := by
  cases action with
  | act action =>
      cases action with
      | task id input =>
          unfold Rendezvous.isPrompt at h
          simp only [Bool.and_eq_true] at h
          obtain ⟨⟨⟨hNames, hReady⟩, hFail⟩, hEarly⟩ := h
          constructor
          · intro container hHere
            rw [hHere] at hNames
            simp only [Option.all_some, bne_self_eq_false, Bool.false_or, Bool.and_eq_true,
              Bool.not_eq_true'] at hNames
            obtain ⟨hAsked, hRequest⟩ := hNames
            refine ⟨hAsked, ?_⟩
            unfold Input.isRequestFor at hRequest
            split at hRequest
            case h_1 socketId named =>
              obtain rfl := beq_iff_eq.mp hRequest
              exact ⟨socketId, rfl⟩
            case h_2 => cases hRequest
          · rintro - rfl
            simp [Input.isReadyFor] at hReady
            exact ⟨hReady.1, hReady.2, hLength⟩
          · intro containerId registrationId _ task hArrived
            rw [hArrived] at hEarly
            exact .inl (of_decide_eq_true hEarly)
          · rintro - rfl
            cases hFail
          · rintro receiver - rfl
            cases hFail
      | clientConnects listener => trivial
      | stop => trivial
  | tick elapsed => trivial
  | sleep id => trivial

/-- Whatever else the daemon does meanwhile, the data of an accepted request
reaches its bridge as long as the request is registered in time. -/
theorem Rendezvous.run_met {trace : List (Rendezvous × RendezvousAction)} {finish : Rendezvous}
    (run : Run (Rendezvous.step cfg connId) (Rendezvous.start cfg) trace finish)
    (hPrompt : Guarded (fun s action => s.Prompt connId action) trace) :
    Throughout (fun s => s.Met connId) trace finish := by
  have hSound : Throughout (fun s => s.Sound connId) trace finish :=
    run.throughout hPrompt (Rendezvous.start_sound cfg connId) fun s action s' h hAction hStep =>
      h.step hAction hStep
  exact ⟨fun entry hEntry => (hSound.1 entry hEntry).met, hSound.2.met⟩

theorem Rendezvous.run_met_early :
    ∃ trace finish, trace.map Prod.snd = promptSchedule ∧
      Run (Rendezvous.step .scanning "y") (Rendezvous.start .scanning) trace finish ∧
      Guarded (fun s action => s.Prompt "y" action) trace ∧ finish.accepted = true ∧
      finish.outcome = some (some 1) ∧ Throughout (fun s => s.Met "y") trace finish := by
  have hRun : (execWhile (Rendezvous.step .scanning "y") (Rendezvous.isPrompt "y") (Rendezvous.start .scanning)
      promptSchedule).any fun s => s.accepted && s.outcome == some (some 1) := by
    decide +kernel
  obtain ⟨finish, hExec, hState⟩ := (Option.any_eq_true _ _).mp hRun
  obtain ⟨hAccepted, hOutcome⟩ := Bool.and_eq_true_iff.mp hState
  obtain ⟨trace, hActions, run, hCheck⟩ := run_of_execWhile hExec
  have hPrompt : Guarded (fun s action => s.Prompt "y" action) trace :=
    fun entry hEntry => Rendezvous.prompt_of_isPrompt (by decide) (hCheck entry hEntry)
  exact ⟨trace, finish, hActions, run, hPrompt, hAccepted, beq_iff_eq.mp hOutcome,
    Rendezvous.run_met run hPrompt⟩

/-- The container unforwards the port while its client is connected, and asks
for a socket. Its data connection is there before the drain has timed out. -/
def drainingSchedule : List RendezvousAction :=
  busySchedule.map RendezvousAction.act
    ++ timedActions 1 [.receive (.unforward 8080), .proceed, .proceed]
    ++ timedActions 3 [.connectData, .receive (.connectReady "y"), .proceed]
    ++ RendezvousAction.tick 1000 :: timedActions 3 [.fail]
    ++ RendezvousAction.tick 4000 :: timedActions 1 [.drained [0], .proceed,
      .receive (.socketConnectRequest "s" "y"), .proceed, .proceed, .launched true]

/-- The data of an accepted request has been dropped. -/
theorem Rendezvous.run_unmet :
    ∃ trace finish, trace.map Prod.snd = drainingSchedule ∧
      Run (Rendezvous.step .scanning "y") (Rendezvous.start .scanning) trace finish ∧
      finish.accepted = true ∧ finish.arrived = some 3 ∧ finish.outcome = some none ∧ ¬finish.Met "y" := by
  have hRun : (exec (Rendezvous.step .scanning "y") (Rendezvous.start .scanning) drainingSchedule).any fun s =>
      s.accepted && s.arrived == some 3 && s.outcome == some none := by
    decide +kernel
  obtain ⟨finish, hExec, hState⟩ := (Option.any_eq_true _ _).mp hRun
  simp only [Bool.and_eq_true, beq_iff_eq] at hState
  obtain ⟨⟨hAccepted, hArrived⟩, hOutcome⟩ := hState
  obtain ⟨trace, hActions, run⟩ := run_of_exec hExec
  refine ⟨trace, finish, hActions, run, hAccepted, hArrived, hOutcome, fun hMet => ?_⟩
  obtain ⟨receiver, -, hSent | ⟨hNone, -⟩⟩ := hMet hAccepted 3 hArrived
  · cases hOutcome.symm.trans hSent
  · cases hOutcome.symm.trans hNone

end DevcontainerBridge
