import DevcontainerBridge.Socket.Broadcast

/-! Delivery of socket updates. What a container has handled, what is on its
connection and what is pending for it lead, one after the other, to the sockets
that the host knows. -/
namespace DevcontainerBridge

open Table Transition Ledger

variable {cfg : HostConfig} {ctx after : DaemonContext} {handler next : Handler} {input : Input}
  {d d' : Daemon} {action : Action} {feed feed' : SocketFeed} {feedAction : FeedAction}
  {id registrationId : Nat}

/-- What a step of the feed is. -/
inductive FeedStep (cfg : HostConfig) (feed : SocketFeed) : FeedAction → SocketFeed → Prop where
  | host {action : Action} {d' : Daemon} (hSilent : feed.daemon.writesSockets action = false)
      (hStep : Daemon.step cfg feed.daemon action = some d') :
      FeedStep cfg feed (.host action) { feed with daemon := d' }
  | replay {id : Nat} {order : List (Σ _ : String, SocketInfo)} {sent : String → Bool} {containerId : String}
      {registrationId : Nat} {d' : Daemon}
      (hTask : feed.daemon.tasks id = .registerReplay containerId registrationId)
      (hOrder : Enumerates order feed.daemon.ctx.state.socketForwards)
      (hStep : Daemon.step cfg feed.daemon (.task id .proceed) = some d')
      (hDaemon : d' = feed.daemon.withTask id feed.daemon.ctx (.serving containerId registrationId)) :
      FeedStep cfg feed (.replay id order sent)
        ({ feed with daemon := d' }.write registrationId (replayMessages order sent))
  | flush {id : Nat} {sent : Bool} {containerId : String} {registrationId : Nat} {message : Message}
      {rest : List Message} {d' : Daemon} {proxy : ProxyState}
      (hTask : feed.daemon.tasks id = .serving containerId registrationId)
      (hQueue : feed.daemon.ctx.proxy.outboundMessages registrationId = message :: rest)
      (hStep : Daemon.step cfg feed.daemon (.task id .flushMessage) = some d')
      (hProxy : proxy.outboundMessages =
        Function.update feed.daemon.ctx.proxy.outboundMessages registrationId rest)
      (hDaemon : d' = feed.daemon.withTask id { feed.daemon.ctx with proxy := proxy }
        (.serving containerId registrationId)) :
      FeedStep cfg feed (.flush id sent)
        ({ feed with daemon := d' }.write registrationId (if sent then [message] else []))
  | handle {registrationId : Nat} {message : Message} {rest : List Message}
      (hWire : feed.wire registrationId = message :: rest) :
      FeedStep cfg feed (.handle registrationId)
        { feed with
          wire := Function.update feed.wire registrationId rest
          handled := Function.update feed.handled registrationId (feed.handled registrationId ++ [message]) }

theorem SocketFeed.step_cases (h : SocketFeed.step cfg feed feedAction = some feed') :
    FeedStep cfg feed feedAction feed' := by
  unfold SocketFeed.step at h
  split at h
  case h_1 action =>
    split_ifs at h with hWrites
    obtain ⟨d', hStep, rfl⟩ := Option.map_eq_some_iff.mp h
    exact .host (Bool.eq_false_of_not_eq_true hWrites) hStep
  case h_2 id order sent =>
    split at h
    case h_1 containerId registrationId hTask =>
      split_ifs at h with hOrder
      obtain ⟨d', hStep, rfl⟩ := Option.map_eq_some_iff.mp h
      refine .replay hTask hOrder hStep ?_
      cases (Daemon.step_cases hStep).2 with
      | task hNext _ =>
          rw [hTask] at hNext
          cases hNext
          rfl
    case h_2 => cases h
  case h_3 id sent =>
    split at h
    case h_1 containerId registrationId hTask =>
      split at h
      case h_1 => cases h
      case h_2 message rest hQueue =>
        obtain ⟨d', hStep, rfl⟩ := Option.map_eq_some_iff.mp h
        cases (Daemon.step_cases hStep).2 with
        | @task _ _ after next hNext _ =>
            have hServing : nextServing cfg feed.daemon.ctx (.serving containerId registrationId) .flushMessage =
                some (after, next) := by
              rw [hTask] at hNext
              exact hNext
            dsimp only [nextServing] at hServing
            rw [hQueue] at hServing
            cases hServing
            exact .flush hTask hQueue hStep rfl rfl
    case h_2 => cases h
  case h_4 registrationId =>
    split at h
    case h_1 => cases h
    case h_2 message rest hWire =>
      cases h
      exact .handle hWire

/-- The replay of a registration has yet to happen. -/
def Daemon.Replaying (d : Daemon) (registrationId : Nat) : Prop :=
  ∃ id containerId, d.tasks id = .registerReplay containerId registrationId

/-- Messages are written for a registration after its replay has begun. -/
structure SocketFeed.Sound (feed : SocketFeed) : Prop where
  daemon : feed.daemon.FeedSound
  written : ∀ registrationId, feed.wire registrationId ≠ [] ∨ feed.handled registrationId ≠ [] →
    feed.daemon.Entered registrationId ∧ ¬feed.daemon.Replaying registrationId

/-- Everything written and pending for a registration leads to what the host
knows. Before the replay the pending messages must not contradict it. -/
structure SocketFeed.Follows (feed : SocketFeed) (registrationId : Nat) : Prop where
  replaying : feed.daemon.Registers registrationId → feed.daemon.Replaying registrationId →
    Confirms feed.daemon.ctx.state.knows (updatesOf (feed.daemon.pending registrationId))
  replayed : feed.daemon.Registers registrationId → ¬feed.daemon.Replaying registrationId →
    Builds feed.daemon.ctx.state.knows (updatesOf
      (feed.handled registrationId ++ feed.wire registrationId ++ feed.daemon.pending registrationId))

namespace Daemon

/-- Nothing is pending for a number that no registration has yet. -/
theorem FeedSound.pending_of_not_entered (h : d.FeedSound) (hNot : ¬d.Entered registrationId) :
    d.pending registrationId = [] := by
  have hQueue : d.ctx.proxy.outboundMessages registrationId = [] := by
    by_contra hSome
    exact hNot (h.queued registrationId hSome)
  have hSends : messagesTo registrationId (d.tasks 0).sends = [] := by
    by_contra hSome
    exact hNot (h.sending 0 registrationId hSome)
  unfold pending
  rw [hQueue, hSends]
  rfl

/-- A task past its insertion has an inserted number. -/
theorem FeedSound.entered_of_number (h : d.FeedSound) (hNumber : (d.tasks id).number = some registrationId)
    (hPast : ∀ containerId hostname, d.tasks id ≠ .registerInsert containerId hostname registrationId) :
    d.Entered registrationId := by
  refine ⟨h.counted id registrationId hNumber, fun other containerId hostname hTask => ?_⟩
  have hOther : (d.tasks other).number = some registrationId := by
    rw [hTask]
    rfl
  rw [h.exclusive other id registrationId hOther hNumber] at hTask
  exact hPast containerId hostname hTask

/-- The task of a registration is past the replay. -/
theorem FeedSound.not_replaying_of_serving (h : d.FeedSound) {containerId : String}
    (hTask : d.tasks id = .serving containerId registrationId) : ¬d.Replaying registrationId := by
  rintro ⟨other, otherId, hOther⟩
  have hSame : other = id :=
    h.exclusive other id registrationId (by rw [hOther]; rfl) (by rw [hTask]; rfl)
  rw [hSame, hTask] at hOther
  cases hOther

theorem replaying_withTask {registrationId : Nat}
    (hBefore : ∀ containerId, d.tasks id ≠ .registerReplay containerId registrationId)
    (hNext : ∀ containerId, next ≠ .registerReplay containerId registrationId) :
    (d.withTask id after next).Replaying registrationId ↔ d.Replaying registrationId := by
  unfold Replaying withTask
  refine exists_congr fun other => exists_congr fun containerId => ?_
  dsimp only
  by_cases hHere : other = id
  · rw [hHere, Function.update_self]
    exact ⟨fun hSome => absurd hSome (hNext containerId), fun hSome => absurd hSome (hBefore containerId)⟩
  · rw [Function.update_of_ne hHere]

end Daemon

/-- A registration that stands after a step stood before or is inserted by it. -/
theorem Daemon.registers_of_withTask (hHost : HostStep d.ctx (d.tasks id) after next)
    (hBound : (d.tasks id).WellBound) (h : (d.withTask id after next).Registers registrationId) :
    d.Registers registrationId ∨
      ∃ containerId hostname, d.tasks id = .registerInsert containerId hostname registrationId := by
  obtain ⟨containerId, cstate, hContainer, rfl⟩ := h.entry
  rcases hHost.entry hBound hContainer with ⟨old, forwards, hOld, rfl⟩ | ⟨hostname, number, hInsert, rfl⟩
  · refine .inl ⟨containerId, ?_⟩
    unfold HostState.registrationOf
    rw [hOld]
    rfl
  · exact .inr ⟨containerId, hostname, hInsert⟩

theorem Daemon.pending_eq_nil (hQueue : after.proxy.outboundMessages registrationId = [])
    (hNext : next.sends = []) (hBefore : messagesTo registrationId (d.tasks 0).sends = []) :
    (d.withTask id after next).pending registrationId = [] := by
  unfold Daemon.pending Daemon.withTask
  dsimp only
  rw [hQueue]
  by_cases hHere : id = 0
  · subst hHere
    rw [Function.update_self, hNext]
    rfl
  · rw [Function.update_of_ne (Ne.symm hHere), hBefore]
    rfl

/-- A step into a replay inserts the registration. -/
theorem FeedEffect.entering (h : FeedEffect ctx handler input after next) {containerId : String}
    (hReplay : next = .registerReplay containerId registrationId) :
    ∃ hostname, handler = .registerInsert containerId hostname registrationId := by
  subst hReplay
  cases h with
  | still _ _ _ _ _ _ hOutside => cases hOutside.2
  | epoch _ hNext _ => cases hNext
  | insert hBefore hNext _ =>
      cases hNext
      exact ⟨_, hBefore⟩
  | replay _ _ hNext _ => cases hNext
  | flush _ hBefore hNext _ _ => rw [hBefore] at hNext; cases hNext
  | scan _ _ _ hNext _ => cases hNext
  | broadcast _ _ hNext _ => cases hNext

/-- A step from the insertion of a registration leads to its replay. -/
theorem FeedEffect.inserted (h : FeedEffect ctx handler input after next) {containerId hostname : String}
    (hInsert : handler = .registerInsert containerId hostname registrationId) :
    next = .registerReplay containerId registrationId ∧ next.sends = [] := by
  subst hInsert
  cases h with
  | still _ _ _ _ _ _ hOutside => cases hOutside.1
  | epoch hBefore _ _ => cases hBefore
  | insert hBefore hNext _ => cases hBefore; cases hNext; exact ⟨rfl, rfl⟩
  | replay _ hBefore _ _ => cases hBefore
  | flush _ hBefore _ _ _ => cases hBefore
  | scan _ hBefore _ _ _ => cases hBefore
  | broadcast _ hBefore _ _ => cases hBefore

/-- A step out of a replay is the replay. -/
theorem FeedEffect.replaying (h : FeedEffect ctx handler input after next) {containerId : String}
    (hReplay : handler = .registerReplay containerId registrationId) : input = .proceed := by
  subst hReplay
  cases h with
  | still _ _ _ _ _ _ hOutside => cases hOutside.1
  | epoch hBefore _ _ => cases hBefore
  | insert hBefore _ _ => cases hBefore
  | replay hInput _ _ _ => exact hInput
  | flush _ hBefore _ _ _ => cases hBefore
  | scan _ hBefore _ _ _ => cases hBefore
  | broadcast _ hBefore _ _ => cases hBefore

namespace SocketFeed

/-- When a registration is inserted, its replay is next and nothing is pending. -/
theorem Follows.insert (hSound : feed.daemon.FeedSound) {containerId hostname : String}
    (hTask : feed.daemon.tasks id = .registerInsert containerId hostname registrationId)
    (hEffect : FeedEffect feed.daemon.ctx (feed.daemon.tasks id) input after next) :
    Follows { feed with daemon := feed.daemon.withTask id after next } registrationId := by
  obtain ⟨hReplay, hNoSends⟩ := hEffect.inserted hTask
  have hNothing := hSound.pending_of_not_entered fun hEntered => hEntered.2 id containerId hostname hTask
  have hSilentTask : (feed.daemon.tasks id).sends = [] := by
    rw [hTask]
    rfl
  have hQueues : after.proxy.outboundMessages registrationId = [] := by
    by_contra hSome
    rcases hEffect.queued hSome with hBefore | hSends
    · exact hBefore (List.append_eq_nil_iff.mp hNothing).1
    · rw [hSilentTask] at hSends
      exact hSends rfl
  constructor
  · intro _ _
    have hPending : (feed.daemon.withTask id after next).pending registrationId = [] :=
      Daemon.pending_eq_nil hQueues hNoSends (List.append_eq_nil_iff.mp hNothing).2
    show Confirms _ (updatesOf ((feed.daemon.withTask id after next).pending registrationId))
    rw [hPending]
    exact .nil
  · intro _ hReplayed
    exact absurd ⟨id, containerId, by rw [← hReplay]; exact Function.update_self _ _ _⟩ hReplayed

/-- A step of the host that writes nothing keeps what a registration follows. -/
theorem Follows.host (hSound : feed.daemon.FeedSound) (h : feed.Follows registrationId)
    (hSilent : feed.daemon.writesSockets action = false)
    (hDelivers : feed.Delivers registrationId (.host action))
    (hStep : Daemon.step cfg feed.daemon action = some d') :
    Follows { feed with daemon := d' } registrationId := by
  cases (Daemon.step_cases hStep).2 with
  | clientConnects hAccept _ _ =>
      obtain ⟨hState, -, hQueues⟩ := acceptClient_feed hAccept
      constructor
      · intro hRegisters hReplaying
        have hBefore := h.replaying (by simpa [Daemon.Registers, hState] using hRegisters) hReplaying
        simpa [Daemon.pending, hState, hQueues] using hBefore
      · intro hRegisters hReplayed
        have hBefore := h.replayed (by simpa [Daemon.Registers, hState] using hRegisters) hReplayed
        simpa [Daemon.pending, hState, hQueues] using hBefore
  | stop =>
      constructor
      all_goals
        rintro ⟨containerId, hNone⟩
        cases hNone
  | @task id input after next hNext hHost =>
      have hEffect := nextHandler_feed hNext
      by_cases hInsert : ∃ containerId hostname,
          feed.daemon.tasks id = .registerInsert containerId hostname registrationId
      · obtain ⟨containerId, hostname, hTask⟩ := hInsert
        exact Follows.insert hSound hTask hEffect
      · have hReplaying : (feed.daemon.withTask id after next).Replaying registrationId ↔
            feed.daemon.Replaying registrationId := by
          apply Daemon.replaying_withTask
          · intro containerId hTask
            have hInput := hEffect.replaying hTask
            rw [hInput] at hSilent
            simp [Daemon.writesSockets, hTask] at hSilent
          · intro containerId hReplay
            obtain ⟨hostname, hTask⟩ := hEffect.entering hReplay
            exact hInsert ⟨containerId, hostname, hTask⟩
        have hBefore : (feed.daemon.withTask id after next).Registers registrationId →
            feed.daemon.Registers registrationId := fun hRegisters =>
          (Daemon.registers_of_withTask hHost (hSound.bound id) hRegisters).resolve_right hInsert
        have hPending : feed.daemon.Registers registrationId → _ := fun hRegisters =>
          hSound.pending_of_effect hEffect hRegisters
            (fun message rest hInput hTask => hDelivers id message rest (by rw [hInput]) hTask hRegisters)
            (fun containerId number hTask hInput => by simp [Daemon.writesSockets, hTask, hInput] at hSilent)
        constructor
        · intro hRegisters hNow
          obtain ⟨new, hNew, hKnows⟩ := hPending (hBefore hRegisters)
          have hConfirms := (h.replaying (hBefore hRegisters) (hReplaying.mp hNow)).extend new
          rw [← hNew] at hConfirms
          exact hConfirms.congr hKnows
        · intro hRegisters hNow
          obtain ⟨new, hNew, hKnows⟩ := hPending (hBefore hRegisters)
          have hBuilds := (h.replayed (hBefore hRegisters) fun hThen => hNow (hReplaying.mpr hThen)).extend new
          rw [updatesOf_append, List.append_assoc, ← hNew, ← updatesOf_append] at hBuilds
          exact hBuilds.congr hKnows

/-- A step that only moves messages on. -/
theorem Follows.move (h : feed.Follows registrationId)
    (hState : feed'.daemon.ctx.state = feed.daemon.ctx.state)
    (hReplaying : feed'.daemon.Replaying registrationId ↔ feed.daemon.Replaying registrationId)
    (hPending : feed'.daemon.Replaying registrationId →
      feed'.daemon.pending registrationId = feed.daemon.pending registrationId)
    (hStream : feed'.handled registrationId ++ feed'.wire registrationId ++ feed'.daemon.pending registrationId =
      feed.handled registrationId ++ feed.wire registrationId ++ feed.daemon.pending registrationId) :
    feed'.Follows registrationId := by
  have hRegisters : feed'.daemon.Registers registrationId → feed.daemon.Registers registrationId := by
    unfold Daemon.Registers
    rw [hState]
    exact id
  constructor
  · intro hHere hNow
    rw [hPending hNow, hState]
    exact h.replaying (hRegisters hHere) (hReplaying.mp hNow)
  · intro hHere hNow
    rw [hStream, hState]
    exact h.replayed (hRegisters hHere) fun hThen => hNow (hReplaying.mpr hThen)

theorem write_wire_self (messages : List Message) :
    (feed.write registrationId messages).wire registrationId = feed.wire registrationId ++ messages :=
  Function.update_self _ _ _

theorem write_wire_of_ne {number : Nat} (messages : List Message) (hOther : registrationId ≠ number) :
    (feed.write number messages).wire registrationId = feed.wire registrationId :=
  Function.update_of_ne hOther _ _

/-- The replay of a registration writes what the host knows. -/
theorem Follows.replay (hSound : feed.Sound) (h : feed.Follows registrationId) {containerId : String} {number : Nat}
    {order : List (Σ _ : String, SocketInfo)} {sent : String → Bool}
    (hTask : feed.daemon.tasks id = .registerReplay containerId number)
    (hOrder : Enumerates order feed.daemon.ctx.state.socketForwards)
    (hDelivers : feed.Delivers registrationId (.replay id order sent)) :
    Follows ({ feed with daemon := feed.daemon.withTask id feed.daemon.ctx (.serving containerId number) }.write
      number (replayMessages order sent)) registrationId := by
  have hNumber : (feed.daemon.tasks id).number = some number := by
    rw [hTask]
    rfl
  have hPending : (feed.daemon.withTask id feed.daemon.ctx (.serving containerId number)).pending
      registrationId = feed.daemon.pending registrationId :=
    Daemon.pending_of_silent rfl ⟨by rw [hTask]; rfl, rfl⟩
  by_cases hHere : registrationId = number
  · subst hHere
    have hReplaying : feed.daemon.Replaying registrationId := ⟨id, containerId, hTask⟩
    have hEmpty : feed.wire registrationId = [] ∧ feed.handled registrationId = [] := by
      by_contra hSome
      rw [not_and_or] at hSome
      exact (hSound.written registrationId hSome).2 hReplaying
    constructor
    · rintro - ⟨other, otherId, hOther⟩
      dsimp only [write, Daemon.withTask] at hOther
      by_cases hSame : other = id
      · rw [hSame, Function.update_self] at hOther
        cases hOther
      · rw [Function.update_of_ne hSame] at hOther
        exact absurd (hSound.daemon.exclusive other id registrationId (by rw [hOther]; rfl) hNumber) hSame
    · intro hRegisters _
      have hSent : replayMessages order sent = order.map fun entry => entry.2.announcement := by
        unfold replayMessages
        rw [List.filter_eq_self.mpr (hDelivers hNumber hRegisters)]
      have hBuilds := (h.replaying hRegisters hReplaying).prepend
        (builds_replay hOrder hSound.daemon.named)
      rw [write_wire_self, hSent]
      show Builds feed.daemon.ctx.state.knows (updatesOf (feed.handled registrationId ++
        (feed.wire registrationId ++ _) ++ (feed.daemon.withTask id feed.daemon.ctx _).pending registrationId))
      rw [hEmpty.1, hEmpty.2, List.nil_append, List.nil_append, hPending, updatesOf_append]
      exact hBuilds
  · apply h.move
    · rfl
    · apply Daemon.replaying_withTask
      · intro otherId hOther
        rw [hTask] at hOther
        cases hOther
        exact hHere rfl
      · exact fun _ hOther => (nomatch hOther)
    · exact fun _ => hPending
    · rw [write_wire_of_ne _ hHere]
      show _ ++ _ ++ (feed.daemon.withTask id feed.daemon.ctx _).pending registrationId = _
      rw [hPending]
      rfl

/-- A handler writes the first message of its queue. -/
theorem Follows.flush (hSound : feed.Sound) (h : feed.Follows registrationId) {containerId : String} {number : Nat}
    {message : Message} {rest : List Message} {sent : Bool} {proxy : ProxyState}
    (hTask : feed.daemon.tasks id = .serving containerId number)
    (hQueue : feed.daemon.ctx.proxy.outboundMessages number = message :: rest)
    (hProxy : proxy.outboundMessages = Function.update feed.daemon.ctx.proxy.outboundMessages number rest)
    (hDelivers : feed.Delivers registrationId (.flush id sent)) :
    let ctx := { feed.daemon.ctx with proxy := proxy }
    Follows ({ feed with daemon := feed.daemon.withTask id ctx (.serving containerId number) }.write number
      (if sent then [message] else [])) registrationId := by
  intro ctx
  have hNumber : (feed.daemon.tasks id).number = some number := by
    rw [hTask]
    rfl
  have hReplaying : (feed.daemon.withTask id { feed.daemon.ctx with proxy := proxy }
      (.serving containerId number)).Replaying registrationId ↔ feed.daemon.Replaying registrationId := by
    apply Daemon.replaying_withTask
    · intro otherId hOther
      rw [hTask] at hOther
      cases hOther
    · exact fun _ hOther => (nomatch hOther)
  have hSends : ∀ queue, proxy.outboundMessages registrationId = queue →
      (feed.daemon.withTask id { feed.daemon.ctx with proxy := proxy } (.serving containerId number)).pending
        registrationId = queue ++ messagesTo registrationId (feed.daemon.tasks 0).sends := by
    rintro queue rfl
    unfold Daemon.pending Daemon.withTask
    dsimp only
    by_cases hScanner : id = 0
    · subst hScanner
      rw [Function.update_self, hTask]
    · rw [Function.update_of_ne (Ne.symm hScanner)]
  by_cases hHere : registrationId = number
  · subst hHere
    have hNot : ¬feed.daemon.Replaying registrationId :=
      hSound.daemon.not_replaying_of_serving hTask
    have hRest := hSends rest (by rw [hProxy, Function.update_self])
    constructor
    · exact fun _ hNow => absurd (hReplaying.mp hNow) hNot
    · intro hRegisters _
      have hSent : sent = true := hDelivers hNumber hRegisters
      have hBuilds := h.replayed hRegisters hNot
      rw [write_wire_self, hSent]
      show Builds feed.daemon.ctx.state.knows (updatesOf (feed.handled registrationId ++
        (feed.wire registrationId ++ [message]) ++ (feed.daemon.withTask id _ _).pending registrationId))
      rw [hRest]
      unfold Daemon.pending at hBuilds
      rw [hQueue] at hBuilds
      simpa using hBuilds
  · have hSame := hSends _ (by rw [hProxy, Function.update_of_ne hHere])
    apply h.move
    · rfl
    · exact hReplaying
    · exact fun _ => hSame
    · rw [write_wire_of_ne _ hHere]
      show _ ++ _ ++ (feed.daemon.withTask id _ _).pending registrationId = _
      rw [hSame]
      rfl

/-- Every step of the feed that delivers to a registration. -/
theorem Follows.step (hSound : feed.Sound) (h : feed.Follows registrationId)
    (hDelivers : feed.Delivers registrationId feedAction) (hStep : FeedStep cfg feed feedAction feed') :
    feed'.Follows registrationId := by
  cases hStep with
  | host hSilent hStep => exact h.host hSound.daemon hSilent hDelivers hStep
  | replay hTask hOrder _ hDaemon =>
      subst hDaemon
      exact h.replay hSound hTask hOrder hDelivers
  | flush hTask hQueue _ hProxy hDaemon =>
      subst hDaemon
      exact h.flush hSound hTask hQueue hProxy hDelivers
  | @handle number message rest hWire =>
      apply h.move
      · rfl
      · rfl
      · exact fun _ => rfl
      · dsimp only
        by_cases hHere : registrationId = number
        · subst hHere
          rw [Function.update_self, Function.update_self, hWire]
          simp
        · rw [Function.update_of_ne hHere, Function.update_of_ne hHere]

/-- A replay begins with the step that inserts its registration. -/
theorem replaying_of_step (hStep : Daemon.step cfg d action = some d') (hEntered : d.Entered registrationId)
    (hReplaying : d'.Replaying registrationId) : d.Replaying registrationId := by
  obtain ⟨other, containerId, hOther⟩ := hReplaying
  cases (Daemon.step_cases hStep).2 with
  | clientConnects => exact ⟨other, containerId, hOther⟩
  | stop => exact ⟨other, containerId, hOther⟩
  | @task id input after next hNext _ =>
      dsimp only at hOther
      by_cases hHere : other = id
      · subst hHere
        rw [Function.update_self] at hOther
        obtain ⟨hostname, hInsert⟩ := (nextHandler_feed hNext).entering hOther
        exact absurd hInsert (hEntered.2 other containerId hostname)
      · rw [Function.update_of_ne hHere] at hOther
        exact ⟨other, containerId, hOther⟩

/-- A task writes for the registration that it has inserted. -/
theorem Sound.write (h : feed.Sound) (hStep : Daemon.step cfg feed.daemon action = some d') {number : Nat}
    (hEntered : feed.daemon.Entered number) (hReplayed : ¬d'.Replaying number) (messages : List Message) :
    ({ feed with daemon := d' }.write number messages).Sound := by
  refine ⟨Daemon.step_feedSound hStep h.daemon, fun registrationId hWritten => ?_⟩
  by_cases hHere : registrationId = number
  · subst hHere
    exact ⟨Daemon.step_entered hStep hEntered, hReplayed⟩
  · rw [write_wire_of_ne messages hHere] at hWritten
    obtain ⟨hOther, hNot⟩ := h.written registrationId hWritten
    exact ⟨Daemon.step_entered hStep hOther, fun hNow => hNot (replaying_of_step hStep hOther hNow)⟩

theorem Sound.step (h : feed.Sound) (hStep : FeedStep cfg feed feedAction feed') : feed'.Sound := by
  cases hStep with
  | host _ hStep =>
      refine ⟨Daemon.step_feedSound hStep h.daemon, fun registrationId hWritten => ?_⟩
      obtain ⟨hEntered, hNot⟩ := h.written registrationId hWritten
      exact ⟨Daemon.step_entered hStep hEntered, fun hNow => hNot (replaying_of_step hStep hEntered hNow)⟩
  | @replay id order sent containerId number d' hTask _ hStep hDaemon =>
      have hNumber : (feed.daemon.tasks id).number = some number := by
        rw [hTask]
        rfl
      refine h.write hStep (h.daemon.entered_of_number hNumber fun _ _ hOther => ?_) ?_ _
      · rw [hTask] at hOther
        cases hOther
      · subst hDaemon
        exact (Daemon.step_feedSound hStep h.daemon).not_replaying_of_serving (Function.update_self _ _ _)
  | @flush id sent containerId number message rest d' proxy hTask _ hStep _ hDaemon =>
      have hNumber : (feed.daemon.tasks id).number = some number := by
        rw [hTask]
        rfl
      refine h.write hStep (h.daemon.entered_of_number hNumber fun _ _ hOther => ?_) ?_ _
      · rw [hTask] at hOther
        cases hOther
      · subst hDaemon
        exact (Daemon.step_feedSound hStep h.daemon).not_replaying_of_serving (Function.update_self _ _ _)
  | @handle number message rest hWire =>
      refine ⟨h.daemon, fun registrationId hWritten => ?_⟩
      by_cases hHere : registrationId = number
      · subst hHere
        exact h.written registrationId (.inl (by rw [hWire]; exact List.cons_ne_nil _ _))
      · dsimp only at hWritten
        rw [Function.update_of_ne hHere, Function.update_of_ne hHere] at hWritten
        exact h.written registrationId hWritten

theorem start_sound (cfg : HostConfig) : (SocketFeed.start cfg).Sound :=
  ⟨Daemon.start_feedSound cfg, fun _ hWritten => absurd hWritten (by simp [SocketFeed.start])⟩

theorem start_follows (cfg : HostConfig) (registrationId : Nat) :
    (SocketFeed.start cfg).Follows registrationId := by
  constructor
  all_goals
    rintro ⟨containerId, hNone⟩
    cases hNone

/-- With nothing on its way a container holds what the host knows. -/
theorem Follows.holds_iff (h : feed.Follows registrationId)
    (hRegistered : feed.Registered registrationId) (hEmptied : feed.Emptied registrationId) (socketId : String) :
    feed.Holds registrationId socketId ↔ socketId ∈ feed.daemon.ctx.state.socketForwards := by
  have hNot : ¬feed.daemon.Replaying registrationId := by
    rintro ⟨id, containerId, hTask⟩
    exact hEmptied.replay id containerId hTask
  have hBuilds := h.replayed hRegistered hNot socketId
  unfold Daemon.pending at hBuilds
  rw [hEmptied.wire, hEmptied.queue, hEmptied.broadcast 0] at hBuilds
  simp only [List.append_nil] at hBuilds
  unfold Holds
  rw [heldAfter_iff, hBuilds]
  exact decide_eq_true_iff

theorem reachable_sound (hReach : Reachable (SocketFeed.step cfg) (SocketFeed.start cfg) feed) : feed.Sound :=
  hReach.invariant SocketFeed.Sound (start_sound cfg) fun _ _ _ hSound hStep => hSound.step (step_cases hStep)

/-- Nothing is on its way to a container that has handled something when its
queue and its connection are empty and the scanner broadcasts nothing. -/
theorem Sound.emptied (h : feed.Sound) (hSends : (feed.daemon.tasks 0).sends = [])
    (hQueue : feed.daemon.ctx.proxy.outboundMessages registrationId = []) (hWire : feed.wire registrationId = [])
    (hHandled : feed.handled registrationId ≠ []) : feed.Emptied registrationId where
  replay := fun id containerId hTask => (h.written registrationId (.inr hHandled)).2 ⟨id, containerId, hTask⟩
  broadcast := by
    intro id
    by_cases hScanner : (feed.daemon.tasks id).isScanner = true
    · rw [h.daemon.scanner id hScanner, hSends]
      rfl
    · cases hTask : feed.daemon.tasks id with
      | broadcasting => simp [hTask, Handler.isScanner] at hScanner
      | _ => rfl
  queue := hQueue
  wire := hWire

/-- A check for steps that drop nothing. -/
def isPrompt (feed : SocketFeed) : FeedAction → Bool
  | .host (.task id .proceed) =>
      match feed.daemon.tasks id with
      | .broadcasting ((_, tx) :: _) =>
          feed.daemon.ctx.proxy.channelOpen tx &&
            (feed.daemon.ctx.proxy.outboundMessages tx).length < outboundChannelCapacity
      | _ => true
  | .replay _ order sent => order.all fun entry => sent entry.1
  | .flush _ sent => sent
  | _ => true

theorem delivers_of_isPrompt (h : feed.isPrompt feedAction = true) : feed.Delivers registrationId feedAction := by
  cases feedAction with
  | host action =>
      rintro id message rest rfl hTask -
      simp only [isPrompt, hTask, Bool.and_eq_true, decide_eq_true_eq] at h
      exact h
  | replay id order sent => exact fun _ _ entry hEntry => List.all_eq_true.mp h entry hEntry
  | flush id sent => exact fun _ _ => h
  | handle number => trivial

end SocketFeed

/-- In every run in which no update to a registered container is dropped, the
container holds exactly the sockets that the host knows whenever nothing is on
its way to it. -/
theorem updates_delivered {cfg : HostConfig} {trace : List (SocketFeed × FeedAction)} {finish : SocketFeed}
    (run : Run (SocketFeed.step cfg) (SocketFeed.start cfg) trace finish) {registrationId : Nat}
    (hDelivers : Guarded (fun feed action => feed.Delivers registrationId action) trace) :
    Throughout (fun feed => feed.Registered registrationId → feed.Emptied registrationId →
      ∀ socketId, feed.Holds registrationId socketId ↔ socketId ∈ feed.daemon.ctx.state.socketForwards)
      trace finish := by
  have hBoth : Throughout (fun feed => feed.Sound ∧ feed.Follows registrationId) trace finish := by
    apply run.throughout hDelivers
    · exact ⟨SocketFeed.start_sound cfg, SocketFeed.start_follows cfg registrationId⟩
    · intro feed action feed' hFeed hAction hStep
      have hCases := SocketFeed.step_cases hStep
      exact ⟨hFeed.1.step hCases, hFeed.2.step hFeed.1 hAction hCases⟩
  refine ⟨fun entry hEntry hRegistered hEmptied => ?_, fun hRegistered hEmptied => ?_⟩
  · exact (hBoth.1 entry hEntry).2.holds_iff hRegistered hEmptied
  · exact hBoth.2.2.holds_iff hRegistered hEmptied

/-- Settings under which the host scans for sockets. -/
def HostConfig.scanning : HostConfig :=
  { HostConfig.basic with scanSockets := true }

/-- Some sockets that a scan may find. -/
def someSockets (count : Nat) : List SocketInfo :=
  (List.range count).map fun n =>
    let path := "/tmp/" ++ repeatedId (n + 1)
    { socketId := repeatedId (n + 1), hostPath := path, containerPath := path }

/-- A container registers, one scan finds some sockets and broadcasts them, and
only then does the container's handler empty its queue. -/
def feedSchedule (found queued : Nat) : List FeedAction :=
  let registration := announceSchedule 1 "c" "h" "" ++ [Action.task 1 .proceed]
  let order := [⟨"c", HostState.newRegistration "h" 1⟩]
  registration.map FeedAction.host ++ .replay 1 [] (fun _ => true) ::
    .host (.task 0 (.scan (someSockets found) [] order)) ::
    List.replicate (found + 1) (.host (.task 0 .proceed)) ++
    List.replicate queued (.flush 1 true) ++ List.replicate queued (.handle 1)

/-- The container learns of two sockets, and then a scan no longer finds the
first of them. -/
def removalSchedule : List FeedAction :=
  feedSchedule 2 2 ++ .host (.task 0 (.scan [] (someSockets 1) [⟨"c", HostState.newRegistration "h" 1⟩])) ::
    List.replicate 2 (.host (.task 0 .proceed)) ++ [.flush 1 true, .handle 1]

theorem updates_delivered_removal :
    ∃ trace finish, trace.map Prod.snd = removalSchedule ∧
      Run (SocketFeed.step .scanning) (SocketFeed.start .scanning) trace finish ∧
      Guarded (fun feed action => feed.Delivers 1 action) trace ∧ finish.Registered 1 ∧ finish.Emptied 1 ∧
      finish.Holds 1 "aa" ∧ ¬finish.Holds 1 "a" ∧
      Throughout (fun feed => feed.Registered 1 → feed.Emptied 1 →
        ∀ socketId, feed.Holds 1 socketId ↔ socketId ∈ feed.daemon.ctx.state.socketForwards) trace finish := by
  have hRun : (execWhile (SocketFeed.step .scanning) SocketFeed.isPrompt (SocketFeed.start .scanning)
      removalSchedule).any fun feed => (feed.daemon.tasks 0).sends == [] &&
        feed.daemon.ctx.proxy.outboundMessages 1 == [] && feed.wire 1 == [] && feed.handled 1 != [] &&
        feed.daemon.ctx.state.registrationOf "c" == some 1 && feed.daemon.ctx.state.knows "aa" &&
        !feed.daemon.ctx.state.knows "a" := by
    decide +kernel
  obtain ⟨finish, hExec, hState⟩ := (Option.any_eq_true _ _).mp hRun
  simp only [Bool.and_eq_true, beq_iff_eq, bne_iff_ne, Bool.not_eq_true'] at hState
  obtain ⟨⟨⟨⟨⟨⟨hSends, hQueue⟩, hWire⟩, hHandled⟩, hRegistered⟩, hKnown⟩, hGone⟩ := hState
  obtain ⟨trace, hActions, run, hPrompt⟩ := run_of_execWhile hExec
  have hDelivers : Guarded (fun feed action => feed.Delivers 1 action) trace :=
    fun entry hEntry => SocketFeed.delivers_of_isPrompt (hPrompt entry hEntry)
  have hEmptied := (SocketFeed.reachable_sound ⟨trace, run⟩).emptied hSends hQueue hWire hHandled
  have hAgrees := updates_delivered run hDelivers
  have hHolds := (hAgrees.2 ⟨"c", hRegistered⟩ hEmptied "aa").mpr (of_decide_eq_true hKnown)
  have hLost : ¬finish.Holds 1 "a" := fun hHeld =>
    of_decide_eq_false hGone ((hAgrees.2 ⟨"c", hRegistered⟩ hEmptied "a").mp hHeld)
  exact ⟨trace, finish, hActions, run, hDelivers, ⟨"c", hRegistered⟩, hEmptied, hHolds, hLost, hAgrees⟩

/-- A scan finds one socket more than the queue of a slow handler has room
for. The container never hears of it. -/
theorem updates_dropped :
    ∃ feed, exec (SocketFeed.step .scanning) (SocketFeed.start .scanning) (feedSchedule 65 64) = some feed ∧
      feed.Registered 1 ∧ feed.Emptied 1 ∧ repeatedId 65 ∈ feed.daemon.ctx.state.socketForwards ∧
      ¬feed.Holds 1 (repeatedId 65) := by
  have hRun : (exec (SocketFeed.step .scanning) (SocketFeed.start .scanning) (feedSchedule 65 64)).any
      fun feed => (feed.daemon.tasks 0).sends == [] &&
        feed.daemon.ctx.proxy.outboundMessages 1 == [] && feed.wire 1 == [] && feed.handled 1 != [] &&
        feed.daemon.ctx.state.registrationOf "c" == some 1 && feed.daemon.ctx.state.knows (repeatedId 65) &&
        applyUpdates (repeatedId 65) false (updatesOf (feed.handled 1)) == false := by
    decide +kernel
  obtain ⟨feed, hExec, hState⟩ := (Option.any_eq_true _ _).mp hRun
  simp only [Bool.and_eq_true, beq_iff_eq, bne_iff_ne] at hState
  obtain ⟨⟨⟨⟨⟨⟨hSends, hQueue⟩, hWire⟩, hHandled⟩, hRegistered⟩, hKnown⟩, hDropped⟩ := hState
  have hEmptied := (SocketFeed.reachable_sound (reachable_of_exec hExec)).emptied hSends hQueue hWire hHandled
  refine ⟨feed, hExec, ⟨"c", hRegistered⟩, hEmptied, of_decide_eq_true hKnown, fun hHolds => ?_⟩
  have hHeld := (heldAfter_iff _ _).mp hHolds
  rw [hDropped] at hHeld
  cases hHeld

end DevcontainerBridge
