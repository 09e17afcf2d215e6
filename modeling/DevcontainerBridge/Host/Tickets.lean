import DevcontainerBridge.Host.Matching

/-! Receivers and conn_ids. Every receiver has been handed out under one
conn_id, and a task that has nothing to do with a conn_id leaves alone what is
registered under it. -/
namespace DevcontainerBridge

open Table Transition

/-- Every receiver has been handed out under one conn_id. -/
structure Tickets (owner : Nat → String) (p : ProxyState) (tasks : Nat → Handler) : Prop where
  entries : ∀ connId receiver, p.pending.lookup connId = some receiver →
    owner receiver = connId ∧ receiver < p.nextReceiver
  tasks : ∀ id connId receiver, (tasks id).ticket = some (connId, receiver) →
    owner receiver = connId ∧ receiver < p.nextReceiver
  bridges : ∀ connId receiver, (connId, receiver) ∈ p.bridges →
    owner receiver = connId ∧ receiver < p.nextReceiver

/-- What an accepted registration changes apart from the map. -/
structure Registered (p : ProxyState) (connId : String) (p' : ProxyState) (receiver : Nat) : Prop where
  fresh : receiver = p.nextReceiver
  entry : p'.pending.lookup connId = some receiver
  receivers : p'.receivers = Function.update p.receivers receiver .waiting
  count : p'.nextReceiver = receiver + 1
  requests : p'.connectRequests = p.connectRequests
  bridges : p'.bridges = p.bridges

/-- The task does not act under the conn_id, does not name it now and has no
data connection for it. -/
structure Stranger (connId : String) (handler : Handler) (input : Input) : Prop where
  acts : ∀ owner, handler.actsUnder ≠ some (owner, connId)
  names : ∀ containerId, handler.names input ≠ some (containerId, connId)
  resolves : handler.resolves ≠ some connId

/-- No request for the conn_id is queued for a container. -/
def Unrequested (connId : String) (p : ProxyState) : Prop :=
  ∀ channel, ∀ request ∈ p.connectRequests channel, request.connId ≠ connId

/-- What a conn_id keeps while others act. Receivers that wait under it are
those that `owner` maps to it. -/
structure Framed (owner : Nat → String) (connId : String) (p p' : ProxyState) : Prop where
  vacant : p.pending.lookup connId = none → p'.pending.lookup connId = none
  entry : ∀ receiver, p.pending.lookup connId = some receiver → p.receivers receiver ≠ .closed →
    p'.pending.lookup connId = some receiver
  receivers : ∀ receiver, owner receiver = connId → receiver < p.nextReceiver →
    p'.receivers receiver = p.receivers receiver
  unrequested : Unrequested connId p'
  bridges : p'.bridges.filter (·.1 = connId) = p.bridges.filter (·.1 = connId)

variable {cfg : HostConfig} {ctx after : DaemonContext} {handler next : Handler} {input : Input}
  {p p' : ProxyState} {connId : String} {owner : Nat → String} {tasks : Nat → Handler} {id : Nat}

/-- Whoever holds a receiver acts under its conn_id. -/
theorem Handler.actsUnder_of_ticket {receiver : Nat} (h : handler.ticket = some (connId, receiver)) :
    ∃ owner, handler.actsUnder = some (owner, connId) := by
  unfold Handler.ticket at h
  split at h <;> cases h <;> exact ⟨_, rfl⟩

/-- What `register_pending` leaves in the map was there, or is the new entry. -/
theorem registerPending_origin {receivers : Nat → Receiver} {pending : Map String Nat} {other : String}
    {new receiver : Nat} (h : (registerPending receivers pending connId new).1.lookup other = some receiver) :
    pending.lookup other = some receiver ∨
      other = connId ∧ receiver = new ∧ (registerPending receivers pending connId new).2 = true := by
  have kept : (retain (fun _ other => receivers other ≠ .closed) pending).lookup other = some receiver →
      pending.lookup other = some receiver := by
    intro hKept
    rw [lookup_retain] at hKept
    exact hKept.1
  have inserted (table : Map String Nat)
      (hTable : table.lookup other = some receiver → pending.lookup other = some receiver)
      (hInsert : (table.insert connId new).lookup other = some receiver) :
      pending.lookup other = some receiver ∨ other = connId ∧ receiver = new := by
    rw [lookup_insert] at hInsert
    split_ifs at hInsert with hHere
    · exact .inr ⟨hHere, (Option.some.inj hInsert).symm⟩
    · exact .inl (hTable hInsert)
  unfold registerPending at h ⊢
  dsimp only at h ⊢
  split_ifs at h ⊢
  · exact .inl (kept h)
  · exact (inserted _ kept h).imp_right fun hNew => ⟨hNew.1, hNew.2, rfl⟩
  · exact (inserted _ id h).imp_right fun hNew => ⟨hNew.1, hNew.2, rfl⟩

theorem registerPending_here {receivers : Nat → Receiver} {pending : Map String Nat} {new : Nat}
    (h : (registerPending receivers pending connId new).2 = true) :
    (registerPending receivers pending connId new).1.lookup connId = some new := by
  unfold registerPending at h ⊢
  dsimp only at h ⊢
  split_ifs at h ⊢ <;> exact (lookup_insert ..).trans (if_pos rfl)

theorem register_some {receiver : Nat} (h : p.register connId = (p', some receiver)) :
    Registered p connId p' receiver := by
  unfold ProxyState.register at h
  split at h
  case h_1 pending hPending =>
    cases h
    refine ⟨rfl, ?_, rfl, rfl, rfl, rfl⟩
    have hHere := registerPending_here (congrArg Prod.snd hPending)
    rw [hPending] at hHere
    exact hHere
  case h_2 => cases h

theorem registerPending_refused {receivers : Nat → Receiver} {pending : Map String Nat} {new : Nat}
    (h : (registerPending receivers pending connId new).2 = false) :
    (registerPending receivers pending connId new).1 =
      retain (fun _ other => receivers other ≠ .closed) pending := by
  unfold registerPending at h ⊢
  dsimp only at h ⊢
  split_ifs at h ⊢
  rfl

/-- A refused registration only takes away what is closed. -/
theorem register_none (h : p.register connId = (p', none)) :
    p'.pending = retain (fun _ other => p.receivers other ≠ .closed) p.pending ∧
      p'.receivers = p.receivers ∧ p'.nextReceiver = p.nextReceiver ∧
      p'.connectRequests = p.connectRequests ∧ p'.bridges = p.bridges := by
  unfold ProxyState.register at h
  split at h
  case h_1 => cases h
  case h_2 pending hPending =>
    cases h
    refine ⟨?_, rfl, rfl, rfl, rfl⟩
    have hRefused := registerPending_refused (congrArg Prod.snd hPending)
    rw [hPending] at hRefused
    exact hRefused

/-- A step after which no new ticket is there. -/
theorem Tickets.mono (h : Tickets owner p tasks)
    (hEntries : ∀ connId receiver, p'.pending.lookup connId = some receiver →
      p.pending.lookup connId = some receiver)
    (hCount : p'.nextReceiver = p.nextReceiver)
    (hTicket : ∀ connId receiver, next.ticket = some (connId, receiver) →
      (tasks id).ticket = some (connId, receiver) ∨ (connId, receiver) ∈ p.bridges)
    (hBridges : ∀ connId receiver, (connId, receiver) ∈ p'.bridges →
      (connId, receiver) ∈ p.bridges ∨ (tasks id).ticket = some (connId, receiver)) :
    Tickets owner p' (Function.update tasks id next) where
  entries := fun connId receiver hEntry => hCount ▸ h.entries connId receiver (hEntries connId receiver hEntry)
  tasks := by
    intro other connId receiver hHolds
    rw [hCount]
    by_cases hOther : other = id
    · rw [hOther, Function.update_self] at hHolds
      rcases hTicket connId receiver hHolds with hKept | hBridge
      · exact h.tasks id connId receiver hKept
      · exact h.bridges connId receiver hBridge
    · rw [Function.update_of_ne hOther] at hHolds
      exact h.tasks other connId receiver hHolds
  bridges := by
    intro connId receiver hBridge
    rw [hCount]
    rcases hBridges connId receiver hBridge with hKept | hHeld
    · exact h.bridges connId receiver hKept
    · exact h.tasks id connId receiver hHeld

/-- The new receiver belongs to the conn_id that it is registered under. -/
theorem Tickets.register (h : Tickets owner p tasks) {receiver : Nat}
    (hRegister : p.register connId = (p', some receiver)) (hTicket : next.ticket = some (connId, receiver)) :
    Tickets (Function.update owner receiver connId) p' (Function.update tasks id next) := by
  have hRegistered := register_some hRegister
  have hOld : ∀ {named other}, owner other = named ∧ other < p.nextReceiver →
      Function.update owner receiver connId other = named ∧ other < p'.nextReceiver := by
    intro named other hOther
    have hLt : other < receiver := hRegistered.fresh ▸ hOther.2
    rw [Function.update_of_ne (Nat.ne_of_lt hLt), hRegistered.count]
    exact ⟨hOther.1, Nat.lt_succ_of_lt hLt⟩
  have hNew : Function.update owner receiver connId receiver = connId ∧ receiver < p'.nextReceiver := by
    rw [Function.update_self, hRegistered.count]
    exact ⟨rfl, Nat.lt_succ_self receiver⟩
  constructor
  · intro named other hEntry
    have hMap := register_pending_fst p connId
    rw [hRegister] at hMap
    rw [hMap] at hEntry
    rcases registerPending_origin hEntry with hKept | ⟨rfl, rfl, -⟩
    · exact hOld (h.entries named other hKept)
    · rw [← hRegistered.fresh]
      exact hNew
  · intro other named otherReceiver hHolds
    by_cases hOther : other = id
    · rw [hOther, Function.update_self, hTicket] at hHolds
      cases hHolds
      exact hNew
    · rw [Function.update_of_ne hOther] at hHolds
      exact hOld (h.tasks other named otherReceiver hHolds)
  · intro named other hBridge
    rw [hRegistered.bridges] at hBridge
    exact hOld (h.bridges named other hBridge)

theorem lookup_cancelPending {other : String} {receiver : Nat}
    (h : (p.cancelPending connId).pending.lookup other = some receiver) :
    p.pending.lookup other = some receiver ∧ other ≠ connId := by
  change (p.pending.erase connId).lookup other = some receiver at h
  rw [lookup_erase] at h
  split_ifs at h with hHere
  exact ⟨h, hHere⟩

/-- What a successful lookup of a data connection changes. -/
theorem resolve_some (h : p.resolve connId = some p') : ∃ receiver,
    p.pending.lookup connId = some receiver ∧ p'.pending = p.pending.erase connId ∧
      (∀ other, other ≠ receiver → p'.receivers other = p.receivers other) ∧
      (p.receivers receiver = .waiting → p'.receivers receiver = .delivered) ∧
      p'.nextReceiver = p.nextReceiver ∧ p'.connectRequests = p.connectRequests ∧ p'.bridges = p.bridges := by
  unfold ProxyState.resolve at h
  split at h
  case h_1 => cases h
  case h_2 receiver hEntry =>
    cases h
    refine ⟨receiver, hEntry, ?_⟩
    dsimp only
    split
    case h_1 hWaiting =>
      refine ⟨rfl, fun other hOther => Function.update_of_ne hOther _ _, fun _ => Function.update_self .., ?_⟩
      exact ⟨rfl, rfl, rfl⟩
    case h_2 hElse => exact ⟨rfl, fun _ _ => rfl, fun hWaiting => absurd hWaiting hElse, rfl, rfl, rfl⟩

/-- Tickets are kept by every step, whatever the new receivers stand for. -/
theorem Tickets.step (h : Tickets owner p tasks) (hStep : MatchStep p (tasks id) input p' next) :
    ∃ owner', Tickets owner' p' (Function.update tasks id next) := by
  have none (hNone : next.ticket = none) : ∀ named receiver, next.ticket = some (named, receiver) →
      (tasks id).ticket = some (named, receiver) ∨ (named, receiver) ∈ p.bridges := by
    rw [hNone]
    exact fun _ _ h => nomatch h
  have kept {ticket : String × Nat} (hBefore : (tasks id).ticket = some ticket)
      (hAfter : next.ticket = some ticket) : ∀ named receiver, next.ticket = some (named, receiver) →
        (tasks id).ticket = some (named, receiver) ∨ (named, receiver) ∈ p.bridges := by
    rw [hBefore, hAfter]
    exact fun _ _ => .inl
  have entries : ∀ named receiver, p.pending.lookup named = some receiver →
      p.pending.lookup named = some receiver := fun _ _ hEntry => hEntry
  have bridges : ∀ named receiver, (named, receiver) ∈ p.bridges →
      (named, receiver) ∈ p.bridges ∨ (tasks id).ticket = some (named, receiver) := fun _ _ => .inl
  cases hStep with
  | quiet hSame hNext =>
      refine ⟨owner, h.mono ?_ hSame.count (none hNext.ticket) ?_⟩
      · rw [hSame.pending]
        exact entries
      · rw [hSame.bridges]
        exact bridges
  | arrive named hHandler hInput hSame hNext =>
      subst hSame hNext
      exact ⟨owner, h.mono entries rfl (none rfl) bridges⟩
  | retry named hHandler hSame hNext =>
      subst hSame hNext
      exact ⟨owner, h.mono entries rfl (none rfl) bridges⟩
  | resolve named hHandler hResolve hNext =>
      obtain ⟨receiver, -, hPending, -, -, hCount, -, hBridges⟩ := resolve_some hResolve
      refine ⟨owner, h.mono ?_ hCount (none hNext.ticket) ?_⟩
      · rw [hPending]
        exact fun _ _ hEntry => (lookup_cancelPending hEntry).1
      · rw [hBridges]
        exact bridges
  | cancel origin named hActs hCancel hNext =>
      subst hCancel
      exact ⟨owner, h.mono (fun _ _ hEntry => (lookup_cancelPending hEntry).1) rfl (none hNext.ticket) bridges⟩
  | flush channel request rest hQueue hFlush hNext =>
      rcases hFlush with rfl | rfl
      · exact ⟨owner, h.mono entries rfl (none hNext.ticket) bridges⟩
      · exact ⟨owner, h.mono (fun _ _ hEntry => (lookup_cancelPending hEntry).1) rfl (none hNext.ticket)
          bridges⟩
  | register container named receiver hOrigin hRegister hTicket => exact ⟨_, h.register hRegister hTicket⟩
  | refuse named hRegister hNext =>
      obtain ⟨hPending, -, hCount, -, hBridges⟩ := register_none hRegister
      refine ⟨owner, h.mono ?_ hCount (none hNext.ticket) ?_⟩
      · intro other receiver hEntry
        rw [hPending, lookup_retain] at hEntry
        exact hEntry.1
      · rw [hBridges]
        exact bridges
  | enqueue channel receiver request hBefore hQueue hTicket =>
      subst hQueue
      exact ⟨owner, h.mono entries rfl (kept hBefore hTicket) bridges⟩
  | hold named receiver hSame hBefore hTicket =>
      subst hSame
      exact ⟨owner, h.mono entries rfl (kept hBefore hTicket) bridges⟩
  | close named receiver hBefore hClose hTicket =>
      subst hClose
      exact ⟨owner, h.mono entries rfl (none hTicket) bridges⟩
  | launch named receiver hBefore hLaunch hNext =>
      subst hLaunch
      refine ⟨owner, h.mono entries rfl (none hNext.ticket) fun other otherReceiver hBridge => ?_⟩
      rcases List.mem_append.mp hBridge with hKept | hNew
      · exact .inl hKept
      · cases List.mem_singleton.mp hNew
        exact .inr hBefore
  | spawn named receiver rest hBridges hSpawn hTask hNext =>
      subst hSpawn hNext
      refine ⟨owner, h.mono entries rfl ?_ ?_⟩
      · intro other otherReceiver hHolds
        cases hHolds
        rw [hBridges]
        exact .inr List.mem_cons_self
      · intro other otherReceiver hBridge
        rw [hBridges]
        exact .inl (List.mem_cons_of_mem _ hBridge)

/-- A step that changes neither the map nor the receivers. -/
theorem Framed.of_eq (hPending : p'.pending = p.pending) (hReceivers : p'.receivers = p.receivers)
    (hUnrequested : Unrequested connId p')
    (hBridges : p'.bridges.filter (·.1 = connId) = p.bridges.filter (·.1 = connId)) :
    Framed owner connId p p' where
  vacant := fun hNone => hPending ▸ hNone
  entry := fun receiver hEntry _ => hPending ▸ hEntry
  receivers := fun receiver _ _ => by rw [hReceivers]
  unrequested := hUnrequested
  bridges := hBridges

/-- The entry of another conn_id is removed. -/
theorem Framed.cancelPending {named : String} (hUnrequested : Unrequested connId p) (hOther : connId ≠ named) :
    Framed owner connId p (p.cancelPending named) where
  vacant := by
    intro hNone
    show (p.pending.erase named).lookup connId = none
    rw [lookup_erase, if_neg hOther]
    exact hNone
  entry := fun receiver hEntry _ => cancelPending_other hEntry hOther
  receivers := fun _ _ _ => rfl
  unrequested := hUnrequested
  bridges := rfl

theorem Framed.trans {p'' : ProxyState} (h : Framed owner connId p p') (h' : Framed owner connId p' p'')
    (hReceivers : p'.receivers = p.receivers) (hCount : p'.nextReceiver = p.nextReceiver) :
    Framed owner connId p p'' where
  vacant := fun hNone => h'.vacant (h.vacant hNone)
  entry := fun receiver hEntry hOpen => h'.entry receiver (h.entry receiver hEntry hOpen) (hReceivers ▸ hOpen)
  receivers := by
    intro receiver hOwner hLt
    rw [h'.receivers receiver hOwner (hCount ▸ hLt), hReceivers]
  unrequested := h'.unrequested
  bridges := h'.bridges.trans h.bridges

/-- A registration under another conn_id. -/
theorem Framed.register {named : String} {new : Nat} (hUnrequested : Unrequested connId p)
    (hRegister : p.register named = (p', some new)) (hOther : connId ≠ named) : Framed owner connId p p' := by
  have hRegistered := register_some hRegister
  have hMap := register_pending_fst p named
  rw [hRegister] at hMap
  constructor
  · intro hNone
    by_contra hSome
    obtain ⟨receiver, hEntry⟩ := Option.ne_none_iff_exists'.mp hSome
    rw [hMap] at hEntry
    rcases registerPending_origin hEntry with hKept | ⟨hHere, -⟩
    · rw [hNone] at hKept
      cases hKept
    · exact hOther hHere
  · intro receiver hHere hOpen
    rw [hMap]
    exact registerPending_other hHere hOpen hOther
  · intro other _ hLt
    rw [hRegistered.receivers, Function.update_of_ne (Nat.ne_of_lt (hRegistered.fresh ▸ hLt))]
  · unfold Unrequested
    rw [hRegistered.requests]
    exact hUnrequested
  · rw [hRegistered.bridges]

/-- A refused registration, under whatever conn_id. -/
theorem Framed.refuse {named : String} (hUnrequested : Unrequested connId p)
    (hRegister : p.register named = (p', none)) : Framed owner connId p p' := by
  obtain ⟨hPending, hReceivers, -, hRequests, hBridges⟩ := register_none hRegister
  constructor
  · intro hNone
    by_contra hSome
    obtain ⟨receiver, hEntry⟩ := Option.ne_none_iff_exists'.mp hSome
    rw [hPending, lookup_retain, hNone] at hEntry
    cases hEntry.1
  · intro receiver hEntry hOpen
    rw [hPending, lookup_retain]
    exact ⟨hEntry, decide_eq_true hOpen⟩
  · intro other _ _
    rw [hReceivers]
  · unfold Unrequested
    rw [hRequests]
    exact hUnrequested
  · rw [hBridges]

/-- A data connection finds the entry of another conn_id. -/
theorem Framed.resolve {named : String} (hTickets : Tickets owner p tasks) (hUnrequested : Unrequested connId p)
    (hResolve : p.resolve named = some p') (hOther : connId ≠ named) : Framed owner connId p p' := by
  obtain ⟨receiver, hEntry, hPending, hReceivers, -, -, hRequests, hBridges⟩ := resolve_some hResolve
  constructor
  · intro hNone
    rw [hPending, lookup_erase, if_neg hOther]
    exact hNone
  · intro other hHere _
    rw [hPending, lookup_erase, if_neg hOther]
    exact hHere
  · intro other hOwner _
    apply hReceivers
    intro hSame
    apply hOther
    rw [← hOwner, hSame]
    exact (hTickets.entries named receiver hEntry).1
  · unfold Unrequested
    rw [hRequests]
    exact hUnrequested
  · rw [hBridges]

/-- One channel comes to hold other requests. -/
theorem Unrequested.update (h : Unrequested connId p) {channel : Nat} {requests : List OutboundConnectRequest}
    (hRequests : ∀ request ∈ requests, request.connId ≠ connId) :
    Unrequested connId { p with connectRequests := Function.update p.connectRequests channel requests } := by
  intro other request hRequest
  dsimp only at hRequest
  by_cases hChannel : other = channel
  · subst hChannel
    rw [Function.update_self] at hRequest
    exact hRequests request hRequest
  · rw [Function.update_of_ne hChannel] at hRequest
    exact h other request hRequest

/-- A stranger to a conn_id leaves it alone. -/
theorem MatchStep.framed (h : MatchStep p (tasks id) input p' next) (hTickets : Tickets owner p tasks)
    (hStranger : Stranger connId (tasks id) input) (hUnrequested : Unrequested connId p)
    (hSpawn : ∀ receiver, next.ticket ≠ some (connId, receiver)) : Framed owner connId p p' := by
  cases h with
  | quiet hSame hNext =>
      refine .of_eq hSame.pending hSame.receivers ?_ (by rw [hSame.bridges])
      unfold Unrequested
      rw [hSame.requests]
      exact hUnrequested
  | arrive named hHandler hInput hSame hNext =>
      subst hSame
      exact .of_eq rfl rfl hUnrequested rfl
  | retry named hHandler hSame hNext =>
      subst hSame
      exact .of_eq rfl rfl hUnrequested rfl
  | resolve named hHandler hResolve hNext =>
      refine .resolve hTickets hUnrequested hResolve fun hHere => hStranger.resolves ?_
      rw [hHandler, hHere]
      rfl
  | cancel origin named hActs hCancel hNext =>
      subst hCancel
      exact .cancelPending hUnrequested fun hHere => hStranger.acts origin (hHere ▸ hActs)
  | flush channel request rest hQueue hFlush hNext =>
      have hRequest : connId ≠ request.connId := by
        intro hHere
        apply hUnrequested channel request
        · rw [hQueue]
          exact List.mem_cons_self
        · exact hHere.symm
      have hRest : Unrequested connId (p.dropRequest channel rest) := by
        apply hUnrequested.update
        intro entry hEntry
        apply hUnrequested channel
        rw [hQueue]
        exact List.mem_cons_of_mem _ hEntry
      have hDrop : Framed owner connId p (p.dropRequest channel rest) := .of_eq rfl rfl hRest rfl
      rcases hFlush with rfl | rfl
      · exact hDrop
      · exact hDrop.trans (.cancelPending hRest hRequest) rfl rfl
  | register container named receiver hOrigin hRegister hTicket =>
      refine .register hUnrequested hRegister fun hHere => ?_
      subst hHere
      rcases hOrigin with hNames | hActs
      · exact hStranger.names container hNames
      · exact hStranger.acts (some container) hActs
  | refuse named hRegister hNext =>
      exact .refuse hUnrequested hRegister
  | enqueue channel receiver request hBefore hQueue hTicket =>
      subst hQueue
      refine .of_eq rfl rfl (hUnrequested.update fun entry hEntry => ?_) rfl
      rcases List.mem_append.mp hEntry with hKept | hNew
      · exact hUnrequested channel entry hKept
      · rw [List.mem_singleton.mp hNew]
        intro hHere
        exact hSpawn receiver (hHere ▸ hTicket)
  | hold named receiver hSame hBefore hTicket =>
      subst hSame
      exact .of_eq rfl rfl hUnrequested rfl
  | close named receiver hBefore hClose hTicket =>
      subst hClose
      refine ⟨fun hNone => hNone, fun _ hEntry _ => hEntry, fun other hOwner _ => ?_, hUnrequested, rfl⟩
      show Function.update p.receivers receiver _ other = p.receivers other
      rw [Function.update_of_ne]
      intro hSame
      obtain ⟨origin, hActs⟩ := Handler.actsUnder_of_ticket hBefore
      apply hStranger.acts origin
      rw [hActs, ← hOwner, hSame, (hTickets.tasks id named receiver hBefore).1]
  | launch named receiver hBefore hLaunch hNext =>
      subst hLaunch
      refine .of_eq rfl rfl hUnrequested ?_
      obtain ⟨origin, hActs⟩ := Handler.actsUnder_of_ticket hBefore
      have hOther : ¬named = connId := fun hHere => hStranger.acts origin (hHere ▸ hActs)
      simp [List.filter_append, hOther]
  | spawn named receiver rest hBridges hSpawned hTask hNext =>
      subst hSpawned hNext
      refine .of_eq rfl rfl hUnrequested ?_
      have hOther : ¬named = connId := by
        intro hHere
        apply hSpawn receiver
        rw [hHere]
        rfl
      rw [hBridges, List.filter_cons_of_neg (by simpa using hOther)]

/-- A stranger comes to act under a conn_id only as the task of its bridge. -/
theorem nextHandler_takesOver (h : nextHandler cfg ctx handler input = some (after, next))
    (hStranger : Stranger connId handler input) {origin : Option String}
    (hActs : next.actsUnder = some (origin, connId)) :
    ∃ receiver rest, handler = .idle ∧ ctx.proxy.bridges = (connId, receiver) :: rest ∧
      after.proxy = { ctx.proxy with bridges := rest } ∧ next = .proxy (.socketBridge connId receiver) := by
  have hBridged : next.bridged = true := by
    rcases nextHandler_actsUnder h hActs with hKept | ⟨container, hNames, -⟩ | ⟨hNone, -⟩
    · exact absurd hKept (hStranger.acts origin)
    · exact absurd hNames (hStranger.names container)
    · obtain rfl : origin = none := hNone
      cases next with
      | proxy task => cases task <;> first | rfl | cases hActs
      | _ => cases hActs
  have unbridged : next.Unmatched → False := by
    intro hNext
    rw [hNext.bridged] at hBridged
    cases hBridged
  -- whoever keeps a ticket acts under its conn_id before and after the step
  have kept {named : String} {receiver : Nat} (hBefore : ∃ owner, handler.actsUnder = some (owner, named))
      (hTicket : next.ticket = some (named, receiver)) : False := by
    obtain ⟨owner, hOwner⟩ := hBefore
    obtain ⟨owner', hOwner'⟩ := Handler.actsUnder_of_ticket hTicket
    rw [hActs] at hOwner'
    cases hOwner'
    exact hStranger.acts owner hOwner
  cases nextHandler_matchStep h with
  | quiet hSame hNext => exact (unbridged hNext).elim
  | arrive named hHandler hInput hSame hNext =>
      rw [hNext] at hBridged
      cases hBridged
  | retry named hHandler hSame hNext =>
      rw [hNext] at hBridged
      cases hBridged
  | resolve named hHandler hResolve hNext => exact (unbridged hNext).elim
  | cancel owner named hOwner hCancel hNext => exact (unbridged hNext).elim
  | flush channel request rest hQueue hFlush hNext => exact (unbridged hNext).elim
  | register container named receiver hOrigin hRegister hTicket =>
      rcases hOrigin with hNames | hOwner
      · obtain ⟨owner', hOwner'⟩ := Handler.actsUnder_of_ticket hTicket
        rw [hActs] at hOwner'
        cases hOwner'
        exact (hStranger.names container hNames).elim
      · exact (kept ⟨_, hOwner⟩ hTicket).elim
  | refuse named hRegister hNext => exact (unbridged hNext).elim
  | enqueue channel receiver request hBefore hQueue hTicket =>
      exact (kept (Handler.actsUnder_of_ticket hBefore) hTicket).elim
  | hold named receiver hSame hBefore hTicket =>
      exact (kept (Handler.actsUnder_of_ticket hBefore) hTicket).elim
  | close named receiver hBefore hClose hTicket hResolves hKept =>
      exact absurd (hKept _ hActs) (hStranger.acts origin)
  | launch named receiver hBefore hLaunch hNext => exact (unbridged hNext).elim
  | spawn named receiver rest hBridges hSpawn hTask hNext =>
      rw [hNext] at hActs
      cases hActs
      exact ⟨receiver, rest, hTask, hBridges, hSpawn, hNext⟩

/-- A data connection is matched under a conn_id from its ConnectReady on. -/
theorem nextHandler_arrives (h : nextHandler cfg ctx handler input = some (after, next))
    (hBefore : handler.resolves ≠ some connId) (hResolves : next.resolves = some connId) :
    handler = .proxy .handshake ∧ input = .receive (.connectReady connId) ∧ after.proxy = ctx.proxy ∧
      next = .proxy (.resolving connId) := by
  have unmatched : next.resolves = none → False := by
    intro hNone
    rw [hNone] at hResolves
    cases hResolves
  cases nextHandler_matchStep h with
  | arrive named hHandler hInput hSame hNext =>
      rw [hNext] at hResolves
      cases hResolves
      exact ⟨hHandler, hInput, hSame, hNext⟩
  | retry named hHandler hSame hNext =>
      rw [hNext] at hResolves
      cases hResolves
      rw [hHandler] at hBefore
      exact absurd rfl hBefore
  | quiet hSame hNext => exact (unmatched hNext.resolves).elim
  | resolve named hHandler hResolve hNext => exact (unmatched hNext.resolves).elim
  | cancel owner named hOwner hCancel hNext => exact (unmatched hNext.resolves).elim
  | flush channel request rest hQueue hFlush hNext => exact (unmatched hNext.resolves).elim
  | register container named receiver hOrigin hRegister hTicket hNone => exact (unmatched hNone).elim
  | refuse named hRegister hNext => exact (unmatched hNext.resolves).elim
  | enqueue channel receiver request hBefore hQueue hTicket hNone => exact (unmatched hNone).elim
  | hold named receiver hSame hBefore hTicket hNone => exact (unmatched hNone).elim
  | close named receiver hBefore hClose hTicket hNone => exact (unmatched hNone).elim
  | launch named receiver hBefore hLaunch hNext => exact (unmatched hNext.resolves).elim
  | spawn named receiver rest hBridges hSpawn hTask hNext =>
      rw [hNext] at hResolves
      cases hResolves

end DevcontainerBridge
