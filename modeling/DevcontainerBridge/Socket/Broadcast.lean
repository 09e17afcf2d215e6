import DevcontainerBridge.Socket.Feed

/-! What is pending for a registration. A step of the host changes the messages
that are queued or still to be broadcast to a registered container just as it
changes the sockets that the host knows, while no message is dropped. -/
namespace DevcontainerBridge

open Table Transition Ledger

/-- What messages say about socket ids. -/
def updatesOf (messages : List Message) : List (String × Bool) :=
  messages.filterMap Message.socketUpdate

/-- What a scan says about socket ids, in the order in which it is broadcast. -/
def scanUpdates (newSockets removedSockets : List SocketInfo) : List (String × Bool) :=
  (newSockets.map fun info => (info.socketId, true)) ++ removedSockets.map fun info => (info.socketId, false)

/-- The sockets that the host knows. -/
def HostState.knows (s : HostState) (socketId : String) : Bool :=
  decide (socketId ∈ s.socketForwards)

theorem updatesOf_append (left right : List Message) :
    updatesOf (left ++ right) = updatesOf left ++ updatesOf right :=
  List.filterMap_append

theorem messagesTo_append (registrationId : Nat) (left right : List (Message × Nat)) :
    messagesTo registrationId (left ++ right) = messagesTo registrationId left ++ messagesTo registrationId right :=
  List.filterMap_append

theorem heldAfter_concat (messages : List Message) (message : Message) (socketId : String) :
    HeldAfter (messages ++ [message]) socketId ↔
      (∃ hostPath containerPath, message = .socketForward socketId hostPath containerPath) ∨
        HeldAfter messages socketId ∧ message ≠ .socketUnforward socketId := by
  constructor
  · rintro ⟨before, after, hostPath, containerPath, hSplit, hNone⟩
    induction after using List.reverseRecOn with
    | nil =>
        obtain ⟨-, hLast⟩ := List.append_inj' hSplit rfl
        exact .inl ⟨hostPath, containerPath, List.singleton_inj.mp hLast⟩
    | append_singleton after last _ =>
        rw [← List.cons_append, ← List.append_assoc] at hSplit
        obtain ⟨hBefore, hLast⟩ := List.append_inj' hSplit rfl
        cases List.singleton_inj.mp hLast
        refine .inr ⟨⟨before, after, hostPath, containerPath, hBefore, fun hMember => ?_⟩, ?_⟩
        · exact hNone (List.mem_append_left _ hMember)
        · rintro rfl
          exact hNone (List.mem_append_right _ (List.mem_singleton_self _))
  · rintro (⟨hostPath, containerPath, rfl⟩ | ⟨⟨before, after, hostPath, containerPath, rfl, hNone⟩, hOther⟩)
    · exact ⟨messages, [], hostPath, containerPath, rfl, List.not_mem_nil⟩
    · refine ⟨before, after ++ [message], hostPath, containerPath, by simp, fun hMember => ?_⟩
      rcases List.mem_append.mp hMember with hAfter | hLast
      · exact hNone hAfter
      · exact hOther (List.mem_singleton.mp hLast).symm

/-- Which sockets are held is what the updates build from nothing. -/
theorem heldAfter_iff (messages : List Message) (socketId : String) :
    HeldAfter messages socketId ↔ applyUpdates socketId false (updatesOf messages) = true := by
  induction messages using List.reverseRecOn with
  | nil => simp [HeldAfter, updatesOf]
  | append_singleton messages message ih =>
      rw [heldAfter_concat, updatesOf_append, applyUpdates_append, ih]
      cases message with
      | socketForward other hostPath containerPath =>
          show _ ↔ (if other = socketId then true else _) = true
          split_ifs with hHere <;> simp [hHere]
      | socketUnforward other =>
          show _ ↔ (if other = socketId then false else _) = true
          split_ifs with hHere <;> simp [hHere]
      | _ =>
          show _ ↔ applyUpdates socketId false (updatesOf messages) = true
          simp

theorem knows_foldl_insert (sockets : List SocketInfo) (table : Map String SocketInfo) (socketId : String) :
    decide (socketId ∈ sockets.foldl (fun m info => m.insert info.socketId info) table) =
      applyUpdates socketId (decide (socketId ∈ table)) (sockets.map fun info => (info.socketId, true)) := by
  induction sockets generalizing table with
  | nil => rfl
  | cons info sockets ih =>
      rw [List.foldl_cons, ih, List.map_cons, applyUpdates_cons]
      congr 1
      show _ = if info.socketId = socketId then true else _
      split_ifs with hHere
      · simp [hHere]
      · simp [Ne.symm hHere]

theorem knows_foldl_erase (sockets : List SocketInfo) (table : Map String SocketInfo) (socketId : String) :
    decide (socketId ∈ sockets.foldl (fun m info => m.erase info.socketId) table) =
      applyUpdates socketId (decide (socketId ∈ table)) (sockets.map fun info => (info.socketId, false)) := by
  induction sockets generalizing table with
  | nil => rfl
  | cons info sockets ih =>
      rw [List.foldl_cons, ih, List.map_cons, applyUpdates_cons]
      congr 1
      show _ = if info.socketId = socketId then false else _
      split_ifs with hHere
      · simp [hHere]
      · simp [Ne.symm hHere]

/-- The critical section of a scan applies what the scan broadcasts. -/
theorem HostState.knows_updateSockets (s : HostState) (newSockets removedSockets : List SocketInfo)
    (socketId : String) :
    (s.updateSockets newSockets removedSockets).knows socketId =
      applyUpdates socketId (s.knows socketId) (scanUpdates newSockets removedSockets) := by
  unfold knows updateSockets scanUpdates
  rw [knows_foldl_erase, knows_foldl_insert, applyUpdates_append]

/-- One message to every sender reaches a registration once for each time it
is among the senders. -/
theorem updatesOf_messagesTo_senders (sockets : List SocketInfo) (message : SocketInfo → Message) (present : Bool)
    (hMessage : ∀ info, (message info).socketUpdate = some (info.socketId, present)) (senders : List Nat)
    (registrationId : Nat) :
    updatesOf (messagesTo registrationId (sockets.flatMap fun info => senders.map fun tx => (message info, tx))) =
      (sockets.map fun info => (info.socketId, present)).flatMap fun update =>
        List.replicate (senders.count registrationId) update := by
  induction sockets with
  | nil => rfl
  | cons info sockets ih =>
      have hHead : updatesOf (messagesTo registrationId (senders.map fun tx => (message info, tx))) =
          List.replicate (senders.count registrationId) (info.socketId, present) := by
        clear ih
        induction senders with
        | nil => rfl
        | cons tx senders ih =>
            by_cases hHere : tx = registrationId
            · simp_all [updatesOf, messagesTo, List.replicate_succ]
            · simp_all [updatesOf, messagesTo]
      rw [List.flatMap_cons, messagesTo_append, updatesOf_append, ih, hHead]
      rfl

/-- A sender of the snapshot gets all updates of the scan. -/
theorem applyUpdates_scanMessages {senders : List Nat} {registrationId : Nat} (hSender : registrationId ∈ senders)
    (newSockets removedSockets : List SocketInfo) (socketId : String) (present : Bool) :
    applyUpdates socketId present
        (updatesOf (messagesTo registrationId (scanMessages newSockets removedSockets senders))) =
      applyUpdates socketId present (scanUpdates newSockets removedSockets) := by
  obtain ⟨count, hCount⟩ := Nat.exists_eq_succ_of_ne_zero (List.count_pos_iff.mpr hSender).ne'
  have hNew := updatesOf_messagesTo_senders newSockets SocketInfo.announcement true (fun _ => rfl) senders
    registrationId
  have hRemoved := updatesOf_messagesTo_senders removedSockets (fun info => .socketUnforward info.socketId) false
    (fun _ => rfl) senders registrationId
  unfold scanMessages scanUpdates
  rw [messagesTo_append, updatesOf_append, applyUpdates_append, applyUpdates_append]
  show applyUpdates socketId (applyUpdates socketId present (updatesOf (messagesTo registrationId
    (newSockets.flatMap fun info => senders.map fun tx => (info.announcement, tx))))) _ = _
  rw [hNew, hRemoved, hCount, applyUpdates_flatMap_replicate, applyUpdates_flatMap_replicate]

/-- The replay in any order builds what the host knows. -/
theorem builds_replay {s : HostState} {order : List (Σ _ : String, SocketInfo)}
    (hOrder : Enumerates order s.socketForwards)
    (hNamed : ∀ key info, s.socketForwards.lookup key = some info → info.socketId = key) :
    Builds s.knows (updatesOf (order.map fun entry => entry.2.announcement)) := by
  intro socketId
  have hKnown : s.knows socketId = true ↔ ∃ entry ∈ order, entry.2.socketId = socketId := by
    unfold HostState.knows
    rw [decide_eq_true_iff, Finmap.mem_iff]
    constructor
    · rintro ⟨info, hInfo⟩
      exact ⟨⟨socketId, info⟩, (mem_of_enumerates hOrder _ _).mpr hInfo, hNamed _ _ hInfo⟩
    · rintro ⟨⟨key, info⟩, hEntry, rfl⟩
      have hInfo := (mem_of_enumerates hOrder _ _).mp hEntry
      rw [hNamed _ _ hInfo]
      exact ⟨info, hInfo⟩
  rw [Bool.eq_iff_iff, hKnown, ← heldAfter_iff]
  constructor
  · rintro ⟨before, after, hostPath, containerPath, hSplit, -⟩
    have hMember : Message.socketForward socketId hostPath containerPath ∈
        order.map fun entry => entry.2.announcement := by
      rw [hSplit]
      simp
    obtain ⟨entry, hEntry, hMessage⟩ := List.mem_map.mp hMember
    cases hMessage
    exact ⟨entry, hEntry, rfl⟩
  · rintro ⟨entry, hEntry, rfl⟩
    obtain ⟨before, after, rfl⟩ := List.append_of_mem hEntry
    refine ⟨before.map fun entry => entry.2.announcement, after.map fun entry => entry.2.announcement,
      entry.2.hostPath, entry.2.containerPath, by simp [SocketInfo.announcement], fun hMember => ?_⟩
    obtain ⟨other, -, hMessage⟩ := List.mem_map.mp hMember
    cases hMessage

/-- The registration number has been handed out and the registration inserted. -/
def Daemon.Entered (d : Daemon) (registrationId : Nat) : Prop :=
  registrationId < d.ctx.nextRegistrationId ∧
    ∀ id containerId hostname, d.tasks id ≠ .registerInsert containerId hostname registrationId

/-- What the delivery rests on: one scanner, one task for each registration
number, and queues of inserted registrations only. -/
structure Daemon.FeedSound (d : Daemon) : Prop where
  bound : ∀ id, (d.tasks id).WellBound
  scanner : ∀ id, (d.tasks id).isScanner = true → id = 0
  named : ∀ key info, d.ctx.state.socketForwards.lookup key = some info → info.socketId = key
  channel : ∀ containerId cstate, d.ctx.state.containers.lookup containerId = some cstate →
    cstate.outboundMsgTx = cstate.registrationId
  counted : ∀ id registrationId, (d.tasks id).number = some registrationId →
    registrationId < d.ctx.nextRegistrationId
  exclusive : ∀ id other registrationId, (d.tasks id).number = some registrationId →
    (d.tasks other).number = some registrationId → id = other
  registered : ∀ containerId cstate, d.ctx.state.containers.lookup containerId = some cstate →
    d.Entered cstate.registrationId
  queued : ∀ registrationId, d.ctx.proxy.outboundMessages registrationId ≠ [] → d.Entered registrationId
  sending : ∀ id registrationId, messagesTo registrationId (d.tasks id).sends ≠ [] →
    d.Entered registrationId

variable {cfg : HostConfig} {ctx after : DaemonContext} {handler next : Handler} {input : Input}
  {d d' : Daemon} {action : Action} {id registrationId : Nat}

/-- A registration number stays with its task and a new one is the next. -/
theorem FeedEffect.number (h : FeedEffect ctx handler input after next)
    (hNumber : next.number = some registrationId) :
    handler.number = some registrationId ∨
      registrationId = ctx.nextRegistrationId ∧ after.nextRegistrationId = ctx.nextRegistrationId + 1 := by
  cases h with
  | still _ _ _ _ _ hKept _ =>
      rcases hKept with hNone | hSame
      · rw [hNone] at hNumber
        cases hNumber
      · exact .inl (hSame.symm.trans hNumber)
  | epoch _ hNext hAfter =>
      subst hNext hAfter
      exact .inr ⟨(Option.some.inj hNumber).symm, rfl⟩
  | insert hBefore hNext _ => subst hBefore hNext; exact .inl hNumber
  | replay _ hBefore hNext _ => subst hBefore hNext; exact .inl hNumber
  | flush _ _ hNext _ _ => subst hNext; exact .inl hNumber
  | scan _ _ _ hNext _ => subst hNext; cases hNumber
  | broadcast _ _ hNext _ => subst hNext; cases hNumber

theorem FeedEffect.count (h : FeedEffect ctx handler input after next) :
    ctx.nextRegistrationId ≤ after.nextRegistrationId := by
  cases h with
  | still _ _ hCount _ _ _ _ => exact hCount.ge
  | epoch _ _ hAfter => subst hAfter; exact Nat.le_succ _
  | insert _ _ hAfter => subst hAfter; exact le_rfl
  | replay _ _ _ hAfter => subst hAfter; exact le_rfl
  | flush _ _ _ _ hAfter => subst hAfter; exact le_rfl
  | scan _ _ _ _ hAfter => subst hAfter; exact le_rfl
  | broadcast _ _ _ hAfter => subst hAfter; exact le_rfl

/-- A task comes before its insertion with a number that is handed out just now. -/
theorem FeedEffect.inserting (h : FeedEffect ctx handler input after next) {containerId hostname : String}
    (hInsert : next = .registerInsert containerId hostname registrationId) :
    registrationId = ctx.nextRegistrationId := by
  subst hInsert
  cases h with
  | still _ _ _ _ _ _ hOutside => cases hOutside.2
  | epoch _ hNext _ => cases hNext; rfl
  | insert _ hNext _ => cases hNext
  | replay _ _ hNext _ => cases hNext
  | flush _ hBefore hNext _ _ => rw [hBefore] at hNext; cases hNext
  | scan _ _ _ hNext _ => cases hNext
  | broadcast _ _ hNext _ => cases hNext

theorem FeedEffect.scanner (h : FeedEffect ctx handler input after next) (hScanner : next.isScanner = true) :
    handler.isScanner = true := by
  cases h with
  | still _ _ _ _ hKept _ _ => exact hKept hScanner
  | epoch _ hNext _ => subst hNext; cases hScanner
  | insert _ hNext _ => subst hNext; cases hScanner
  | replay _ _ hNext _ => subst hNext; cases hScanner
  | flush _ _ hNext _ _ => subst hNext; exact hScanner
  | scan _ hBefore _ _ _ => subst hBefore; rfl
  | broadcast _ hBefore _ _ => subst hBefore; rfl

theorem lookup_foldl_erase_of_some {sockets : List SocketInfo} {table : Map String SocketInfo} {key : String}
    {info : SocketInfo}
    (h : (sockets.foldl (fun m info => m.erase info.socketId) table).lookup key = some info) :
    table.lookup key = some info := by
  induction sockets generalizing table with
  | nil => exact h
  | cons first sockets ih =>
      have hErased := ih h
      rw [lookup_erase] at hErased
      split_ifs at hErased
      exact hErased

theorem named_foldl_insert {sockets : List SocketInfo} {table : Map String SocketInfo}
    (hNamed : ∀ key info, table.lookup key = some info → info.socketId = key) {key : String} {info : SocketInfo}
    (h : (sockets.foldl (fun m info => m.insert info.socketId info) table).lookup key = some info) :
    info.socketId = key := by
  induction sockets generalizing table with
  | nil => exact hNamed key info h
  | cons first sockets ih =>
      refine ih (fun other known hKnown => ?_) h
      rw [lookup_insert] at hKnown
      split_ifs at hKnown with hHere
      · cases hKnown
        exact hHere.symm
      · exact hNamed other known hKnown

/-- The table of the sockets is keyed by their ids. -/
theorem FeedEffect.named (h : FeedEffect ctx handler input after next)
    (hNamed : ∀ key info, ctx.state.socketForwards.lookup key = some info → info.socketId = key) :
    ∀ key info, after.state.socketForwards.lookup key = some info → info.socketId = key := by
  cases h with
  | still hSockets _ _ _ _ _ _ => rw [hSockets]; exact hNamed
  | epoch _ _ hAfter => subst hAfter; exact hNamed
  | insert _ _ hAfter => subst hAfter; exact hNamed
  | replay _ _ _ hAfter => subst hAfter; exact hNamed
  | flush _ _ _ _ hAfter => subst hAfter; exact hNamed
  | scan _ _ _ _ hAfter =>
      subst hAfter
      exact fun key info hInfo => named_foldl_insert hNamed (lookup_foldl_erase_of_some hInfo)
  | broadcast _ _ _ hAfter => subst hAfter; exact hNamed

theorem tryBroadcast_of_ne {p : ProxyState} {message : Message} {tx : Nat} (hOther : registrationId ≠ tx) :
    (p.tryBroadcast message tx).outboundMessages registrationId = p.outboundMessages registrationId := by
  unfold ProxyState.tryBroadcast
  split_ifs
  · exact Function.update_of_ne hOther _ _
  · rfl

theorem tryBroadcast_self {p : ProxyState} {message : Message}
    (hRoom : p.channelOpen registrationId = true ∧
      (p.outboundMessages registrationId).length < outboundChannelCapacity) :
    (p.tryBroadcast message registrationId).outboundMessages registrationId =
      p.outboundMessages registrationId ++ [message] := by
  unfold ProxyState.tryBroadcast
  rw [if_pos hRoom]
  exact Function.update_self _ _ _

theorem messagesTo_cons_self (message : Message) (rest : List (Message × Nat)) :
    messagesTo registrationId ((message, registrationId) :: rest) = message :: messagesTo registrationId rest := by
  simp [messagesTo]

theorem messagesTo_cons_of_ne {message : Message} {tx : Nat} (rest : List (Message × Nat))
    (hOther : registrationId ≠ tx) :
    messagesTo registrationId ((message, tx) :: rest) = messagesTo registrationId rest := by
  simp [messagesTo, Ne.symm hOther]

/-- Messages get into a queue from a broadcast. -/
theorem FeedEffect.queued (h : FeedEffect ctx handler input after next)
    (hQueue : after.proxy.outboundMessages registrationId ≠ []) :
    ctx.proxy.outboundMessages registrationId ≠ [] ∨ messagesTo registrationId handler.sends ≠ [] := by
  cases h with
  | still _ hQueues _ _ _ _ _ => rw [hQueues] at hQueue; exact .inl hQueue
  | epoch _ _ hAfter => subst hAfter; exact .inl hQueue
  | insert _ _ hAfter => subst hAfter; exact .inl hQueue
  | replay _ _ _ hAfter => subst hAfter; exact .inl hQueue
  | @flush _ other message rest _ _ _ hBefore hAfter =>
      subst hAfter
      dsimp only at hQueue
      by_cases hHere : registrationId = other
      · rw [hHere, hBefore]
        exact .inl (List.cons_ne_nil message rest)
      · exact .inl (by rwa [Function.update_of_ne hHere] at hQueue)
  | scan _ _ _ _ hAfter => subst hAfter; exact .inl hQueue
  | @broadcast message tx rest _ hBefore _ hAfter =>
      subst hAfter hBefore
      by_cases hHere : registrationId = tx
      · subst hHere
        rw [Handler.sends, messagesTo_cons_self]
        exact .inr (List.cons_ne_nil _ _)
      · rw [tryBroadcast_of_ne hHere] at hQueue
        exact .inl hQueue

/-- A broadcast goes to registrations that the scan has found registered. -/
theorem FeedEffect.sending (h : FeedEffect ctx handler input after next)
    (hSends : messagesTo registrationId next.sends ≠ []) :
    messagesTo registrationId handler.sends ≠ [] ∨
      ∃ containerId cstate, ctx.state.containers.lookup containerId = some cstate ∧
        cstate.outboundMsgTx = registrationId := by
  cases h with
  | still _ _ _ hNone _ _ _ => rw [hNone.2] at hSends; exact absurd rfl hSends
  | epoch _ hNext _ => subst hNext; exact absurd rfl hSends
  | insert _ hNext _ => subst hNext; exact absurd rfl hSends
  | replay _ _ hNext _ => subst hNext; exact absurd rfl hSends
  | flush _ _ hNext _ _ => subst hNext; exact .inl hSends
  | @scan newSockets removedSockets order _ _ hOrder hNext _ =>
      subst hNext
      refine .inr ?_
      obtain ⟨message, hMessage⟩ := List.exists_mem_of_ne_nil _ hSends
      obtain ⟨⟨sent, tx⟩, hSend, hHere⟩ := List.mem_filterMap.mp hMessage
      have hSender : tx ∈ order.map fun entry => entry.2.outboundMsgTx := by
        rcases List.mem_append.mp hSend with hNew | hRemoved
        · obtain ⟨info, -, hInfo⟩ := List.mem_flatMap.mp hNew
          obtain ⟨other, hOther, hPair⟩ := List.mem_map.mp hInfo
          cases hPair
          exact hOther
        · obtain ⟨info, -, hInfo⟩ := List.mem_flatMap.mp hRemoved
          obtain ⟨other, hOther, hPair⟩ := List.mem_map.mp hInfo
          cases hPair
          exact hOther
      obtain ⟨⟨containerId, cstate⟩, hEntry, hTx⟩ := List.mem_map.mp hSender
      refine ⟨containerId, cstate, (mem_of_enumerates hOrder _ _).mp hEntry, hTx.trans ?_⟩
      split_ifs at hHere with hSame
      exact hSame
  | @broadcast message tx rest _ hBefore hNext _ =>
      subst hBefore hNext
      refine .inl fun hNone => hSends ?_
      exact (List.append_eq_nil_iff.mp ((messagesTo_append registrationId [(message, tx)] rest).symm.trans hNone)).2

theorem acceptClient_feed {listener : Nat} (h : ctx.acceptClient listener = some after) :
    after.state = ctx.state ∧ after.nextRegistrationId = ctx.nextRegistrationId ∧
      after.proxy.outboundMessages = ctx.proxy.outboundMessages := by
  obtain ⟨l, -, rfl⟩ := DaemonContext.acceptClient_frame h
  exact ⟨rfl, rfl, rfl⟩

theorem Daemon.step_entered (hStep : Daemon.step cfg d action = some d') (h : d.Entered registrationId) :
    d'.Entered registrationId := by
  cases (Daemon.step_cases hStep).2 with
  | clientConnects hAccept _ _ =>
      obtain ⟨-, hCount, -⟩ := acceptClient_feed hAccept
      exact ⟨hCount ▸ h.1, h.2⟩
  | stop => exact h
  | @task id input after next hNext _ =>
      have hEffect := nextHandler_feed hNext
      refine ⟨h.1.trans_le hEffect.count, fun other containerId hostname hTask => ?_⟩
      dsimp only at hTask
      by_cases hHere : other = id
      · subst hHere
        rw [Function.update_self] at hTask
        exact h.1.ne (hEffect.inserting hTask)
      · rw [Function.update_of_ne hHere] at hTask
        exact h.2 other containerId hostname hTask

theorem Daemon.start_feedSound (cfg : HostConfig) : (Daemon.start cfg).FeedSound := by
  have idle : ∀ id, (Daemon.start cfg).tasks id = .idle ∨ (Daemon.start cfg).tasks id = .scanning ∧ id = 0 := by
    intro id
    unfold Daemon.start
    dsimp only
    split_ifs with hScanner
    · exact .inr ⟨rfl, hScanner.2⟩
    · exact .inl rfl
  have hNumber : ∀ id, ((Daemon.start cfg).tasks id).number = none := by
    intro id
    rcases idle id with hTask | ⟨hTask, -⟩ <;> rw [hTask] <;> rfl
  refine ⟨Daemon.start_wellBound, ?_, ?_, ?_, ?_, ?_, ?_, ?_, ?_⟩
  · intro id hScanner
    rcases idle id with hTask | ⟨-, rfl⟩
    · rw [hTask] at hScanner
      cases hScanner
    · rfl
  · intro key info hInfo
    cases hInfo
  · intro containerId cstate hContainer
    cases hContainer
  · intro id registrationId hSome
    rw [hNumber id] at hSome
    cases hSome
  · intro id other registrationId hSome
    rw [hNumber id] at hSome
    cases hSome
  · intro containerId cstate hContainer
    cases hContainer
  · intro registrationId hQueue
    exact absurd rfl hQueue
  · intro id registrationId hSends
    rcases idle id with hTask | ⟨hTask, -⟩ <;> rw [hTask] at hSends <;> exact absurd rfl hSends

/-- The tasks keep what they are while a client connects or the daemon stops. -/
theorem Daemon.FeedSound.rest (h : d.FeedSound) (hTasks : d'.tasks = d.tasks)
    (hSockets : d'.ctx.state.socketForwards = d.ctx.state.socketForwards)
    (hContainers : ∀ containerId cstate, d'.ctx.state.containers.lookup containerId = some cstate →
      d.ctx.state.containers.lookup containerId = some cstate)
    (hCount : d'.ctx.nextRegistrationId = d.ctx.nextRegistrationId)
    (hQueues : d'.ctx.proxy.outboundMessages = d.ctx.proxy.outboundMessages) : d'.FeedSound := by
  have hEntered : ∀ registrationId, d.Entered registrationId → d'.Entered registrationId := by
    intro registrationId hBefore
    unfold Daemon.Entered
    rw [hTasks, hCount]
    exact hBefore
  refine ⟨?_, ?_, ?_, ?_, ?_, ?_, ?_, ?_, ?_⟩
  · rw [hTasks]
    exact h.bound
  · rw [hTasks]
    exact h.scanner
  · rw [hSockets]
    exact h.named
  · exact fun containerId cstate hContainer => h.channel containerId cstate (hContainers _ _ hContainer)
  · rw [hTasks, hCount]
    exact h.counted
  · rw [hTasks]
    exact h.exclusive
  · exact fun containerId cstate hContainer =>
      hEntered _ (h.registered containerId cstate (hContainers _ _ hContainer))
  · intro registrationId hQueue
    rw [hQueues] at hQueue
    exact hEntered _ (h.queued registrationId hQueue)
  · intro id registrationId hSends
    rw [hTasks] at hSends
    exact hEntered _ (h.sending id registrationId hSends)

/-- A number that another task goes by is not handed out again. -/
theorem Daemon.FeedSound.number_of_effect (h : d.FeedSound)
    (hEffect : FeedEffect d.ctx (d.tasks id) input after next) {other : Nat} (hOther : other ≠ id)
    (hNumber : (d.tasks other).number = some registrationId) : next.number ≠ some registrationId := by
  intro hNext
  rcases hEffect.number hNext with hBefore | ⟨hNew, -⟩
  · exact hOther (h.exclusive other id registrationId hNumber hBefore)
  · exact (h.counted other registrationId hNumber).ne hNew

theorem Daemon.step_feedSound (hStep : Daemon.step cfg d action = some d') (h : d.FeedSound) : d'.FeedSound := by
  have hEntered : ∀ registrationId, d.Entered registrationId → d'.Entered registrationId :=
    fun registrationId hBefore => Daemon.step_entered hStep hBefore
  have hBound := Daemon.step_wellBound hStep h.bound
  cases (Daemon.step_cases hStep).2 with
  | clientConnects hAccept _ _ =>
      obtain ⟨hState, hCount, hQueues⟩ := acceptClient_feed hAccept
      exact h.rest rfl (congrArg _ hState) (fun _ _ hContainer => hState ▸ hContainer) hCount hQueues
  | stop => exact h.rest rfl rfl (fun _ _ hContainer => (nomatch hContainer)) rfl rfl
  | @task id input after next hNext hHost =>
      have hEffect := nextHandler_feed hNext
      refine ⟨hBound, ?_, hEffect.named h.named, ?_, ?_, ?_, ?_, ?_, ?_⟩
      · intro other hScanner
        dsimp only at hScanner
        by_cases hHere : other = id
        · subst hHere
          rw [Function.update_self] at hScanner
          exact h.scanner other (hEffect.scanner hScanner)
        · rw [Function.update_of_ne hHere] at hScanner
          exact h.scanner other hScanner
      · intro containerId cstate hContainer
        rcases hHost.entry (h.bound id) hContainer with ⟨old, forwards, hOld, rfl⟩ | ⟨_, _, _, rfl⟩
        · exact h.channel containerId old hOld
        · rfl
      · intro other registrationId hNumber
        dsimp only at hNumber ⊢
        by_cases hHere : other = id
        · subst hHere
          rw [Function.update_self] at hNumber
          rcases hEffect.number hNumber with hBefore | ⟨rfl, hCount⟩
          · exact (h.counted other registrationId hBefore).trans_le hEffect.count
          · rw [hCount]
            exact Nat.lt_succ_self _
        · rw [Function.update_of_ne hHere] at hNumber
          exact (h.counted other registrationId hNumber).trans_le hEffect.count
      · intro first second registrationId hFirst hSecond
        dsimp only at hFirst hSecond
        by_cases hFirstHere : first = id
        · by_cases hSecondHere : second = id
          · exact hFirstHere.trans hSecondHere.symm
          · rw [hFirstHere, Function.update_self] at hFirst
            rw [Function.update_of_ne hSecondHere] at hSecond
            exact absurd hFirst (h.number_of_effect hEffect hSecondHere hSecond)
        · rw [Function.update_of_ne hFirstHere] at hFirst
          by_cases hSecondHere : second = id
          · rw [hSecondHere, Function.update_self] at hSecond
            exact absurd hSecond (h.number_of_effect hEffect hFirstHere hFirst)
          · rw [Function.update_of_ne hSecondHere] at hSecond
            exact h.exclusive first second registrationId hFirst hSecond
      · intro containerId cstate hContainer
        rcases hHost.entry (h.bound id) hContainer with
          ⟨old, forwards, hOld, rfl⟩ | ⟨hostname, registrationId, hInsert, rfl⟩
        · exact hEntered _ (h.registered containerId old hOld)
        · have hNumber : (d.tasks id).number = some registrationId := by rw [hInsert]; rfl
          refine ⟨(h.counted id registrationId hNumber).trans_le hEffect.count, ?_⟩
          intro other otherId otherName hTask
          dsimp only at hTask
          by_cases hHere : other = id
          · rw [hHere, Function.update_self] at hTask
            exact (h.counted id registrationId hNumber).ne (hEffect.inserting hTask)
          · rw [Function.update_of_ne hHere] at hTask
            have hOther : (d.tasks other).number = some registrationId := by rw [hTask]; rfl
            exact hHere (h.exclusive other id registrationId hOther hNumber)
      · intro registrationId hQueue
        rcases hEffect.queued hQueue with hBefore | hSends
        · exact hEntered _ (h.queued registrationId hBefore)
        · exact hEntered _ (h.sending id registrationId hSends)
      · intro other registrationId hSends
        dsimp only at hSends
        by_cases hHere : other = id
        · subst hHere
          rw [Function.update_self] at hSends
          rcases hEffect.sending hSends with hBefore | ⟨containerId, cstate, hContainer, rfl⟩
          · exact hEntered _ (h.sending other registrationId hBefore)
          · rw [h.channel containerId cstate hContainer]
            exact hEntered _ (h.registered containerId cstate hContainer)
        · rw [Function.update_of_ne hHere] at hSends
          exact hEntered _ (h.sending other registrationId hSends)

/-- The messages to a registration that have not been written: the queue, and
then what the scanner is still broadcasting. -/
def Daemon.pending (d : Daemon) (registrationId : Nat) : List Message :=
  d.ctx.proxy.outboundMessages registrationId ++ messagesTo registrationId (d.tasks 0).sends

def Daemon.Registers (d : Daemon) (registrationId : Nat) : Prop :=
  ∃ containerId, d.ctx.state.registrationOf containerId = some registrationId

theorem Daemon.Registers.entry (h : d.Registers registrationId) :
    ∃ containerId cstate, d.ctx.state.containers.lookup containerId = some cstate ∧
      cstate.registrationId = registrationId := by
  obtain ⟨containerId, hContainer⟩ := h
  obtain ⟨cstate, hLookup, hRegistration⟩ := Option.map_eq_some_iff.mp hContainer
  exact ⟨containerId, cstate, hLookup, hRegistration⟩

theorem Daemon.pending_of_silent (hQueues : after.proxy.outboundMessages = d.ctx.proxy.outboundMessages)
    (hSends : (d.tasks id).sends = [] ∧ next.sends = []) :
    (d.withTask id after next).pending registrationId = d.pending registrationId := by
  unfold Daemon.pending Daemon.withTask
  dsimp only
  rw [hQueues]
  by_cases hHere : id = 0
  · subst hHere
    rw [Function.update_self, hSends.1, hSends.2]
  · rw [Function.update_of_ne (Ne.symm hHere)]

theorem Daemon.pending_of_scanner (d : Daemon) :
    (d.withTask 0 after next).pending registrationId =
      after.proxy.outboundMessages registrationId ++ messagesTo registrationId next.sends := by
  unfold Daemon.pending Daemon.withTask
  dsimp only
  rw [Function.update_self]

/-- A step that is not a replay changes what is pending for a registration just
as it changes the sockets that the host knows. -/
theorem Daemon.FeedSound.pending_of_effect (h : d.FeedSound)
    (hEffect : FeedEffect d.ctx (d.tasks id) input after next) (hRegisters : d.Registers registrationId)
    (hRoom : ∀ message rest, input = .proceed →
      d.tasks id = .broadcasting ((message, registrationId) :: rest) →
      d.ctx.proxy.channelOpen registrationId = true ∧
        (d.ctx.proxy.outboundMessages registrationId).length < outboundChannelCapacity)
    (hQueue : ∀ containerId number, d.tasks id = .serving containerId number → input ≠ .flushMessage) :
    ∃ new, updatesOf ((d.withTask id after next).pending registrationId) =
        updatesOf (d.pending registrationId) ++ new ∧
      ∀ socketId, after.state.knows socketId = applyUpdates socketId (d.ctx.state.knows socketId) new := by
  -- a step that leaves the queues alone and broadcasts nothing
  have silent : after.state.socketForwards = d.ctx.state.socketForwards →
      after.proxy.outboundMessages = d.ctx.proxy.outboundMessages →
      (d.tasks id).sends = [] ∧ next.sends = [] →
      ∃ new, updatesOf ((d.withTask id after next).pending registrationId) =
          updatesOf (d.pending registrationId) ++ new ∧
        ∀ socketId, after.state.knows socketId = applyUpdates socketId (d.ctx.state.knows socketId) new := by
    intro hSockets hQueues hSends
    refine ⟨[], ?_, fun socketId => ?_⟩
    · rw [Daemon.pending_of_silent hQueues hSends, List.append_nil]
    · unfold HostState.knows
      rw [hSockets]
      rfl
  cases hEffect with
  | still hSockets hQueues _ hSends _ _ _ => exact silent hSockets hQueues hSends
  | epoch hBefore hNext hAfter =>
      subst hNext hAfter
      exact silent rfl rfl ⟨by rw [hBefore]; rfl, rfl⟩
  | insert hBefore hNext hAfter =>
      subst hNext hAfter
      exact silent rfl rfl ⟨by rw [hBefore]; rfl, rfl⟩
  | replay _ hBefore hNext hAfter =>
      subst hNext hAfter
      exact silent rfl rfl ⟨by rw [hBefore]; rfl, rfl⟩
  | flush hInput hBefore => exact absurd hInput (hQueue _ _ hBefore)
  | @scan newSockets removedSockets order _ hBefore hOrder hNext hAfter =>
      subst hNext hAfter
      obtain rfl := h.scanner id (by rw [hBefore]; rfl)
      obtain ⟨containerId, cstate, hContainer, rfl⟩ := hRegisters.entry
      have hSender : cstate.registrationId ∈ order.map fun entry => entry.2.outboundMsgTx := by
        rw [← h.channel containerId cstate hContainer]
        exact List.mem_map.mpr ⟨⟨containerId, cstate⟩, (mem_of_enumerates hOrder _ _).mpr hContainer, rfl⟩
      refine ⟨updatesOf (messagesTo cstate.registrationId (scanMessages newSockets removedSockets
        (order.map fun entry => entry.2.outboundMsgTx))), ?_, fun socketId => ?_⟩
      · rw [Daemon.pending_of_scanner, updatesOf_append, Daemon.pending, hBefore]
        show _ = updatesOf (_ ++ []) ++ _
        rw [List.append_nil]
        rfl
      · rw [applyUpdates_scanMessages hSender]
        exact HostState.knows_updateSockets _ _ _ _
  | @broadcast message tx rest hInput hBefore hNext hAfter =>
      subst hNext hAfter
      obtain rfl := h.scanner id (by rw [hBefore]; rfl)
      refine ⟨[], ?_, fun _ => rfl⟩
      rw [List.append_nil]
      congr 1
      rw [Daemon.pending_of_scanner, Daemon.pending, hBefore]
      show (d.ctx.proxy.tryBroadcast message tx).outboundMessages registrationId ++
        messagesTo registrationId rest = _ ++ messagesTo registrationId ((message, tx) :: rest)
      by_cases hHere : registrationId = tx
      · subst hHere
        rw [tryBroadcast_self (hRoom message rest hInput hBefore), messagesTo_cons_self, List.append_assoc]
        rfl
      · rw [tryBroadcast_of_ne hHere, messagesTo_cons_of_ne rest hHere]

/-- Only a scan changes the sockets that the host knows or makes a message pending. -/
theorem Daemon.FeedSound.pending_subset (h : d.FeedSound) (hStep : Daemon.step cfg d action = some d')
    (hNoScan : ∀ id newSockets removedSockets order, action ≠ .task id (.scan newSockets removedSockets order)) :
    d'.ctx.state.socketForwards = d.ctx.state.socketForwards ∧
      ∀ message ∈ d'.pending registrationId, message ∈ d.pending registrationId := by
  cases (Daemon.step_cases hStep).2 with
  | clientConnects hAccept _ _ =>
      obtain ⟨hState, -, hQueues⟩ := acceptClient_feed hAccept
      refine ⟨by rw [hState], fun message hMember => ?_⟩
      unfold Daemon.pending at hMember ⊢
      dsimp only at hMember
      rwa [hQueues] at hMember
  | stop => exact ⟨rfl, fun _ hMember => hMember⟩
  | @task id input after next hNext _ =>
      show after.state.socketForwards = _ ∧
        ∀ message ∈ (d.withTask id after next).pending registrationId, message ∈ d.pending registrationId
      -- a step that leaves the queues alone and broadcasts nothing
      have silent : after.proxy.outboundMessages = d.ctx.proxy.outboundMessages →
          (d.tasks id).sends = [] ∧ next.sends = [] →
          ∀ message ∈ (d.withTask id after next).pending registrationId, message ∈ d.pending registrationId := by
        intro hQueues hSends message hMember
        rwa [Daemon.pending_of_silent hQueues hSends] at hMember
      cases nextHandler_feed hNext with
      | still hSockets hQueues _ hSends _ _ _ => exact ⟨hSockets, silent hQueues hSends⟩
      | epoch hBefore hNext hAfter =>
          subst hNext hAfter
          exact ⟨rfl, silent rfl ⟨by rw [hBefore]; rfl, rfl⟩⟩
      | insert hBefore hNext hAfter =>
          subst hNext hAfter
          exact ⟨rfl, silent rfl ⟨by rw [hBefore]; rfl, rfl⟩⟩
      | replay _ hBefore hNext hAfter =>
          subst hNext hAfter
          exact ⟨rfl, silent rfl ⟨by rw [hBefore]; rfl, rfl⟩⟩
      | @flush _ number first rest _ hBefore hSame hQueue hAfter =>
          subst hAfter
          refine ⟨rfl, fun message hMember => ?_⟩
          rcases List.mem_append.mp hMember with hQueued | hSending
          · apply List.mem_append_left
            dsimp only [Daemon.withTask] at hQueued
            by_cases hHere : registrationId = number
            · rw [hHere, Function.update_self] at hQueued
              rw [hHere, hQueue]
              exact List.mem_cons_of_mem first hQueued
            · rwa [Function.update_of_ne hHere] at hQueued
          · apply List.mem_append_right
            rw [Daemon.withTask, hSame, Function.update_eq_self] at hSending
            exact hSending
      | scan hInput => exact absurd (congrArg (Action.task id) hInput) (hNoScan id _ _ _)
      | @broadcast message tx rest _ hBefore hNext hAfter =>
          subst hNext hAfter
          obtain rfl := h.scanner id (by rw [hBefore]; rfl)
          refine ⟨rfl, fun other hMember => ?_⟩
          rw [Daemon.pending_of_scanner] at hMember
          unfold Daemon.pending
          rw [hBefore]
          show other ∈ _ ++ messagesTo registrationId ((message, tx) :: rest)
          by_cases hHere : registrationId = tx
          · subst hHere
            rw [messagesTo_cons_self]
            rcases List.mem_append.mp hMember with hQueued | hSending
            · dsimp only [ProxyState.tryBroadcast] at hQueued
              split_ifs at hQueued
              · dsimp only at hQueued
                rw [Function.update_self] at hQueued
                rcases List.mem_append.mp hQueued with hOld | hNew
                · exact List.mem_append_left _ hOld
                · rw [List.mem_singleton.mp hNew]
                  exact List.mem_append_right _ List.mem_cons_self
              · exact List.mem_append_left _ hQueued
            · exact List.mem_append_right _ (List.mem_cons_of_mem message hSending)
          · rw [messagesTo_cons_of_ne rest hHere]
            rwa [tryBroadcast_of_ne hHere] at hMember

end DevcontainerBridge
