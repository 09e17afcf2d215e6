import DevcontainerBridge.Host.Teardown
import DevcontainerBridge.Host.Tickets

/-! What a client handler leaves behind. Its tracker is given back on every
path, and its pending entry on every path but one: where a drain closes the
handler while the entry waits, nobody is left who would remove it. -/
namespace DevcontainerBridge

open Table Transition

/-- The conn_id that a step registers a pending connection under. -/
def Handler.registers : Handler → Input → Option String
  | .proxy (.clientRegister ..), .uuid connId => some connId
  | .socketRegister _ _ connId, .proceed => some connId
  | _, _ => none

def Daemon.registers (d : Daemon) : Action → Option String
  | .task id input => (d.tasks id).registers input
  | _ => none

/-- UUIDs are distinct: whoever registers the conn_id is the client in task `id`. -/
def Daemon.Distinct (id : Nat) (connId : String) (d : Daemon) (action : Action) : Prop :=
  d.registers action = some connId → action = .task id (.uuid connId)

/-- A drain closes the client in task `id` only when its entry is gone. -/
def Daemon.ClosesClean (id : Nat) (connId : String) (d : Daemon) (action : Action) : Prop :=
  action = .task id .cancelled → d.ctx.proxy.pending.lookup connId = none

/-- The client handler has left its bridge, or has returned. -/
def Handler.leftBridge : Handler → Bool
  | .proxy (.clientDone _) | .proxy .finished => true
  | _ => false

/-- By how much an action of task `id` changes the count of tracker `n`. -/
def Daemon.countChange (cfg : HostConfig) (id n : Nat) (d : Daemon) (action : Action) : Int :=
  if action.task? = some id then
    match Daemon.step cfg d action with
    | some after => (after.ctx.proxy.trackers n).count - (d.ctx.proxy.trackers n).count
    | none => 0
  else
    0

/-- What a task contributes to the count of tracker `n`. -/
def Handler.contribution (n : Nat) (handler : Handler) : Int :=
  if handler.counted = some n then 1 else 0

/-- The client handler will remove the entry under its conn_id, unless it is
closed before or someone else removes it. -/
def ProxyTask.AnswersFor (connId : String) (receiver : Nat) : ProxyTask → Prop
  | .clientSend _ _ named held | .clientSubscribe _ named held | .clientBridge _ named held _ =>
      named = connId ∧ held = receiver
  | .clientBridgeCancel _ named _ | .clientCancel _ named => named = connId
  | _ => False

def Handler.AnswersFor (connId : String) (receiver : Nat) : Handler → Prop
  | .proxy task => task.AnswersFor connId receiver
  | _ => False

/-- Receivers are told apart by their conn_ids, and what an entry leads to has
not been delivered. -/
structure Daemon.EntriesWait (d : Daemon) : Prop where
  tickets : ∃ owner, Tickets owner d.ctx.proxy d.tasks
  undelivered : ∀ connId receiver, d.ctx.proxy.pending.lookup connId = some receiver →
    d.ctx.proxy.receivers receiver ≠ .delivered

variable {cfg : HostConfig} {ctx after : DaemonContext} {handler next : Handler} {input : Input}
  {p p' : ProxyState} {connId : String} {owner : Nat → String} {tasks : Nat → Handler} {id n receiver : Nat}
  {d d' : Daemon} {action : Action} {trace : List (Daemon × Action)}

theorem dispatchData_ticket (cfg : HostConfig) (p : ProxyState) (message : Message) :
    (Handler.proxy (dispatchData cfg p message).2).ticket = none := by
  unfold dispatchData
  split
  case h_1 => split_ifs <;> rfl
  case h_2 => split_ifs <;> rfl
  case h_3 => rfl

theorem nextServing_ticket (h : nextServing cfg ctx handler input = some (after, next)) : next.ticket = none := by
  cases nextServing_cases h with
  | @dispatched containerId registrationId message =>
      exact (dispatchContainer_unmatched containerId registrationId message).ticket
  | _ => rfl

theorem nextAuxiliary_ticket (h : nextAuxiliary ctx handler input = some (after, next))
    (hTicket : next.ticket = some (connId, receiver)) : handler.registers input = some connId := by
  cases nextAuxiliary_cases h with
  | registered =>
      cases hTicket
      rfl
  | _ => cases hTicket

/-- A ticket is kept, taken over from a bridge that waits, or registered. -/
theorem nextHandler_ticket (h : nextHandler cfg ctx handler input = some (after, next))
    (hTicket : next.ticket = some (connId, receiver)) :
    handler.ticket = some (connId, receiver) ∨ (connId, receiver) ∈ ctx.proxy.bridges ∨
      handler.registers input = some connId := by
  have unmatched (hNext : next.ticket = none) : False := by
    rw [hNext] at hTicket
    cases hTicket
  unfold nextHandler at h
  split at h
  case h_1 =>
    cases nextIdle_cases h with
    | bridge hBridges =>
        cases hTicket
        rw [hBridges]
        exact .inr (.inl List.mem_cons_self)
    | _ => cases hTicket
  case h_2 => cases h
  case h_3 task =>
    obtain ⟨proxy, task', rfl, rfl, hClient | hData⟩ := nextProxy_cases h
    · cases nextClient_cases hClient with
      | registered =>
          cases hTicket
          exact .inr (.inr rfl)
      | queued => exact .inl hTicket
      | subscribed => exact .inl hTicket
      | unsubscribed => exact .inl hTicket
      | _ => cases hTicket
    · cases nextData_cases hData with
      | dispatched message => exact (unmatched (dispatchData_ticket cfg ctx.proxy message)).elim
      | _ => cases hTicket
  all_goals first
    | exact (unmatched (nextRegister_sameMatching h).2.ticket).elim
    | exact (unmatched (nextForward_sameMatching h).2.ticket).elim
    | exact (unmatched (nextUnforward_sameMatching h).2.ticket).elim
    | exact (unmatched (nextScanner_sameMatching h).2.ticket).elim
    | exact (unmatched (nextServing_ticket h)).elim
    | exact .inr (.inr (nextAuxiliary_ticket h hTicket))

/-- An entry was there before the step, or it leads to the receiver that the
step has handed out. -/
theorem MatchStep.entry (h : MatchStep p handler input p' next)
    (hEntry : p'.pending.lookup connId = some receiver) :
    p.pending.lookup connId = some receiver ∨
      receiver = p.nextReceiver ∧ next.ticket = some (connId, receiver) ∧ p'.receivers receiver = .waiting := by
  cases h with
  | quiet hSame => exact .inl (hSame.pending ▸ hEntry)
  | arrive named hHandler hInput hSame => exact .inl (hSame ▸ hEntry)
  | retry named hHandler hSame => exact .inl (hSame ▸ hEntry)
  | resolve named hHandler hResolve =>
      obtain ⟨_, -, hPending, -⟩ := resolve_some hResolve
      rw [hPending] at hEntry
      exact .inl (lookup_cancelPending hEntry).1
  | cancel origin named hActs hCancel =>
      rw [hCancel] at hEntry
      exact .inl (lookup_cancelPending hEntry).1
  | flush channel request rest hQueue hFlush =>
      rcases hFlush with rfl | rfl
      · exact .inl hEntry
      · exact .inl (lookup_cancelPending hEntry).1
  | register container named new hOrigin hRegister hTicket =>
      have hRegistered := register_some hRegister
      have hMap := register_pending_fst p named
      rw [hRegister] at hMap
      rw [hMap] at hEntry
      rcases registerPending_origin hEntry with hKept | ⟨rfl, hNew, -⟩
      · exact .inl hKept
      · rw [hNew, ← hRegistered.fresh, hRegistered.receivers, Function.update_self]
        exact .inr ⟨rfl, hTicket, rfl⟩
  | refuse named hRegister =>
      rw [(register_none hRegister).1, lookup_retain] at hEntry
      exact .inl hEntry.1
  | enqueue channel held request hBefore hQueue => exact .inl (by rwa [hQueue] at hEntry)
  | hold named held hSame => exact .inl (hSame ▸ hEntry)
  | close named held hBefore hClose => exact .inl (by rwa [hClose] at hEntry)
  | launch named held hBefore hLaunch => exact .inl (by rwa [hLaunch] at hEntry)
  | spawn named held rest hBridges hSpawn => exact .inl (by rwa [hSpawn] at hEntry)

/-- What has been delivered was so before the step, or the step has taken its
entry from the map. -/
theorem MatchStep.delivered (h : MatchStep p handler input p' next)
    (hDelivered : p'.receivers receiver = .delivered) :
    p.receivers receiver = .delivered ∨
      ∃ named, p.pending.lookup named = some receiver ∧ p'.pending.lookup named = none := by
  cases h with
  | quiet hSame => exact .inl (hSame.receivers ▸ hDelivered)
  | arrive named hHandler hInput hSame => exact .inl (hSame ▸ hDelivered)
  | retry named hHandler hSame => exact .inl (hSame ▸ hDelivered)
  | resolve named hHandler hResolve =>
      obtain ⟨served, hServed, hPending, hReceivers, -⟩ := resolve_some hResolve
      by_cases hHere : receiver = served
      · refine .inr ⟨named, hHere ▸ hServed, ?_⟩
        rw [hPending]
        exact Finmap.lookup_erase _ _
      · exact .inl (hReceivers receiver hHere ▸ hDelivered)
  | cancel origin named hActs hCancel => exact .inl (by rwa [hCancel] at hDelivered)
  | flush channel request rest hQueue hFlush => rcases hFlush with rfl | rfl <;> exact .inl hDelivered
  | register container named new hOrigin hRegister =>
      rw [(register_some hRegister).receivers] at hDelivered
      by_cases hHere : receiver = new
      · rw [hHere, Function.update_self] at hDelivered
        cases hDelivered
      · exact .inl (by rwa [Function.update_of_ne hHere] at hDelivered)
  | refuse named hRegister => exact .inl ((register_none hRegister).2.1 ▸ hDelivered)
  | enqueue channel held request hBefore hQueue => exact .inl (by rwa [hQueue] at hDelivered)
  | hold named held hSame => exact .inl (hSame ▸ hDelivered)
  | close named held hBefore hClose =>
      rw [hClose] at hDelivered
      change Function.update p.receivers held .closed receiver = .delivered at hDelivered
      by_cases hHere : receiver = held
      · rw [hHere, Function.update_self] at hDelivered
        cases hDelivered
      · exact .inl (by rwa [Function.update_of_ne hHere] at hDelivered)
  | launch named held hBefore hLaunch => exact .inl (by rwa [hLaunch] at hDelivered)
  | spawn named held rest hBridges hSpawn => exact .inl (by rwa [hSpawn] at hDelivered)

/-- An entry was there before the step, or the step has registered it. -/
theorem nextHandler_entry (hTickets : Tickets owner ctx.proxy tasks)
    (h : nextHandler cfg ctx (tasks id) input = some (after, next))
    (hEntry : after.proxy.pending.lookup connId = some receiver) :
    ctx.proxy.pending.lookup connId = some receiver ∨ (tasks id).registers input = some connId := by
  rcases (nextHandler_matchStep h).entry hEntry with hKept | ⟨rfl, hTicket, -⟩
  · exact .inl hKept
  · rcases nextHandler_ticket h hTicket with hHeld | hBridge | hRegisters
    · exact absurd (hTickets.tasks id _ _ hHeld).2 (lt_irrefl _)
    · exact absurd (hTickets.bridges _ _ hBridge).2 (lt_irrefl _)
    · exact .inr hRegisters

theorem Daemon.start_entriesWait : (Daemon.start cfg).EntriesWait := by
  refine ⟨⟨fun _ => "", ?_, ?_, ?_⟩, ?_⟩
  · intro connId receiver hEntry
    cases hEntry
  · intro id connId receiver hTicket
    unfold Daemon.start at hTicket
    dsimp only at hTicket
    split_ifs at hTicket <;> cases hTicket
  · intro connId receiver hBridge
    cases hBridge
  · intro connId receiver hEntry
    cases hEntry

theorem Daemon.EntriesWait.step (h : d.EntriesWait) (hStep : Daemon.step cfg d action = some d') :
    d'.EntriesWait := by
  obtain ⟨⟨owner, hTickets⟩, hOpen⟩ := h
  cases (Daemon.step_cases hStep).2 with
  | task hNext =>
      have hMatch := nextHandler_matchStep hNext
      refine ⟨hTickets.step hMatch, fun connId receiver hEntry hDelivered => ?_⟩
      rcases hMatch.entry hEntry with hBefore | ⟨-, -, hWaiting⟩
      · rcases hMatch.delivered hDelivered with hOld | ⟨named, hNamed, hGone⟩
        · exact hOpen connId receiver hBefore hOld
        · have hSame : connId = named :=
            (hTickets.entries _ _ hBefore).1.symm.trans (hTickets.entries _ _ hNamed).1
          rw [hSame, hGone] at hEntry
          cases hEntry
      · rw [hWaiting] at hDelivered
        cases hDelivered
  | clientConnects hAccept =>
      obtain ⟨l, -, rfl⟩ := DaemonContext.acceptClient_frame hAccept
      exact ⟨⟨owner, hTickets.entries, hTickets.tasks, hTickets.bridges⟩, hOpen⟩
  | stop => exact ⟨⟨owner, hTickets.entries, hTickets.tasks, hTickets.bridges⟩, hOpen⟩

/-- A client handler that is not closed goes on answering for an entry as long
as it is there. -/
theorem nextClient_answersFor {s : HostState} {task task' : ProxyTask}
    (h : nextClient s p task input = some (p', task')) (hAnswers : task.AnswersFor connId receiver)
    (hBefore : p.pending.lookup connId = some receiver) (hOpen : p.receivers receiver ≠ .delivered)
    (hInput : input ≠ .cancelled) (hEntry : p'.pending.lookup connId = some receiver) :
    task'.AnswersFor connId receiver := by
  cases nextClient_cases h with
  | queued => exact hAnswers
  | unsent => exact hAnswers.1
  | subscribed => exact hAnswers
  | unsubscribed => exact hAnswers
  | bridged hDelivered =>
      obtain ⟨-, rfl⟩ := hAnswers
      exact absurd hDelivered hOpen
  | expired => exact hAnswers.1
  | interrupted => exact absurd rfl hInput
  | abandoned => exact absurd rfl hInput
  | withdrawn => exact absurd hAnswers.symm (lookup_cancelPending hEntry).2
  | cancelled => exact absurd hAnswers.symm (lookup_cancelPending hEntry).2
  | _ => cases hAnswers

theorem nextHandler_answersFor (h : nextHandler cfg ctx handler input = some (after, next))
    (hAnswers : handler.AnswersFor connId receiver) (hBefore : ctx.proxy.pending.lookup connId = some receiver)
    (hOpen : ctx.proxy.receivers receiver ≠ .delivered) (hInput : input ≠ .cancelled)
    (hEntry : after.proxy.pending.lookup connId = some receiver) : next.AnswersFor connId receiver := by
  cases handler with
  | proxy task =>
      obtain ⟨proxy, task', rfl, rfl, hClient | hData⟩ := nextProxy_cases h
      · exact nextClient_answersFor hClient hAnswers hBefore hOpen hInput hEntry
      · cases nextData_cases hData <;> cases hAnswers
  | _ => cases hAnswers

/-- Whoever registers an entry for a client answers for it. -/
theorem nextHandler_generated (h : nextHandler cfg ctx handler (.uuid connId) = some (after, next))
    (hNone : ctx.proxy.pending.lookup connId = none)
    (hEntry : after.proxy.pending.lookup connId = some receiver)
    (hRegisters : handler.registers (.uuid connId) = some connId) : next.AnswersFor connId receiver := by
  unfold Handler.registers at hRegisters
  split at hRegisters
  case h_1 client route named hInput =>
    obtain ⟨proxy, task', rfl, rfl, hClient | hData⟩ := nextProxy_cases h
    · cases nextClient_cases hClient with
      | registered hRegister =>
          have hHere := (register_some hRegister).entry
          exact ⟨rfl, Option.some.inj (hHere.symm.trans hEntry)⟩
      | unregistered hRegister =>
          rw [(register_none hRegister).1, lookup_retain, hNone] at hEntry
          cases hEntry.1
    · cases hData
  case h_2 hInput => cases hInput
  case h_3 => cases hRegisters

theorem Handler.not_answersFor {named : String} (h : handler.registers input = some named) :
    ¬handler.AnswersFor connId receiver := by
  unfold Handler.registers at h
  split at h
  · exact id
  · exact id
  · cases h

/-- The client in task `id` answers for whatever is registered under its
conn_id. This carries the run: the entry goes before the handler does. -/
structure Daemon.Answered (id : Nat) (connId : String) (d : Daemon) : Prop where
  waits : d.EntriesWait
  answers : ∀ receiver, d.ctx.proxy.pending.lookup connId = some receiver →
    (d.tasks id).AnswersFor connId receiver

theorem Daemon.Answered.step (h : d.Answered id connId) (hDistinct : d.Distinct id connId action)
    (hCloses : d.ClosesClean id connId action) (hStep : Daemon.step cfg d action = some d') :
    d'.Answered id connId := by
  refine ⟨h.waits.step hStep, fun receiver hEntry => ?_⟩
  obtain ⟨owner, hTickets⟩ := h.waits.tickets
  cases (Daemon.step_cases hStep).2 with
  | clientConnects hAccept =>
      obtain ⟨l, -, rfl⟩ := DaemonContext.acceptClient_frame hAccept
      exact h.answers receiver hEntry
  | stop => exact h.answers receiver hEntry
  | @task other input after next hNext =>
      dsimp only at hEntry ⊢
      by_cases hHere : id = other
      · subst hHere
        rw [Function.update_self]
        rcases nextHandler_entry hTickets hNext hEntry with hBefore | hRegisters
        · have hInput : input ≠ .cancelled := by
            rintro rfl
            rw [hCloses rfl] at hBefore
            cases hBefore
          exact nextHandler_answersFor hNext (h.answers receiver hBefore) hBefore
            (h.waits.undelivered connId receiver hBefore) hInput hEntry
        · obtain rfl : input = .uuid connId := by
            cases hDistinct hRegisters
            rfl
          refine nextHandler_generated hNext ?_ hEntry hRegisters
          by_contra hSome
          obtain ⟨held, hBefore⟩ := Option.ne_none_iff_exists'.mp hSome
          exact Handler.not_answersFor hRegisters (h.answers held hBefore)
      · rw [Function.update_of_ne hHere]
        rcases nextHandler_entry hTickets hNext hEntry with hBefore | hRegisters
        · exact h.answers receiver hBefore
        · cases hDistinct hRegisters
          exact absurd rfl hHere

theorem Daemon.Answered.start : (Daemon.start cfg).Answered id connId :=
  ⟨Daemon.start_entriesWait, fun _ hNever => nomatch hNever⟩

/-- Who has left the bridge answers for nothing any more. -/
theorem Daemon.Answered.left (h : d.Answered id connId) (hLeft : (d.tasks id).leftBridge = true) :
    d.ctx.proxy.pending.lookup connId = none := by
  by_contra hSome
  obtain ⟨receiver, hEntry⟩ := Option.ne_none_iff_exists'.mp hSome
  have hAnswers := h.answers receiver hEntry
  unfold Handler.leftBridge at hLeft
  split at hLeft
  case h_1 hTask =>
    rw [hTask] at hAnswers
    exact hAnswers
  case h_2 hTask =>
    rw [hTask] at hAnswers
    exact hAnswers
  case h_3 => cases hLeft

/-- A drain that closes a client ends its bridge and leaves the map alone. -/
theorem nextHandler_closed (h : nextHandler cfg ctx handler .cancelled = some (after, next)) :
    next.leftBridge = true ∧ after.proxy.pending = ctx.proxy.pending := by
  unfold nextHandler at h
  split at h
  case h_1 => cases nextIdle_cases h
  case h_2 => cases h
  case h_3 task =>
    obtain ⟨proxy, task', rfl, rfl, hClient | hData⟩ := nextProxy_cases h
    · cases nextClient_cases hClient <;> exact ⟨rfl, rfl⟩
    · cases nextData_cases hData with
      | captured _ hEnd => cases hEnd <;> contradiction
  all_goals first
    | exact nomatch nextRegister_cases h
    | exact nomatch nextForward_cases h
    | exact nomatch nextUnforward_cases h
    | exact nomatch nextServing_cases h
    | exact nomatch nextAuxiliary_cases h
    | exact nomatch nextScanner_cases h

/-- The condition is exact: from the end of the bridge on nothing is pending
under the conn_id precisely if no drain closes the handler before. -/
theorem left_clean_iff (run : Run (Daemon.step cfg) (Daemon.start cfg) trace d)
    (hDistinct : Guarded (Daemon.Distinct id connId) trace) :
    Throughout (fun d => (d.tasks id).leftBridge = true → d.ctx.proxy.pending.lookup connId = none) trace d ↔
      Guarded (Daemon.ClosesClean id connId) trace := by
  constructor
  · clear hDistinct
    induction run with
    | refl => exact fun _ entry hNever => nomatch hNever
    | @tail trace middle finish action prior last ih =>
        intro hClean
        have hPrior := ih ⟨fun entry hEntry => hClean.1 entry (List.mem_append_left _ hEntry),
          hClean.1 (middle, action) (by simp)⟩
        refine hPrior.append fun entry hEntry hAction => ?_
        cases List.mem_singleton.mp hEntry
        dsimp only at hAction ⊢
        subst hAction
        cases (Daemon.step_cases last).2 with
        | task hNext =>
            obtain ⟨hLeft, hKept⟩ := nextHandler_closed hNext
            rw [← hKept]
            exact hClean.2 (by dsimp only; rw [Function.update_self]; exact hLeft)
  · intro hCloses
    have hGuard : Guarded (fun d action => d.Distinct id connId action ∧ d.ClosesClean id connId action) trace :=
      fun entry hEntry => ⟨hDistinct entry hEntry, hCloses entry hEntry⟩
    have hAnswered : Throughout (Daemon.Answered id connId) trace d :=
      run.throughout hGuard Daemon.Answered.start
        fun middle action after hMiddle hAllowed => hMiddle.step hAllowed.1 hAllowed.2
    exact ⟨fun entry hEntry => (hAnswered.1 entry hEntry).left, hAnswered.2.left⟩

/-- A step of a client handler changes a count as its own tracker says. -/
theorem Counting.change (h : Counting p p' handler.counted next.counted)
    (hCounted : handler.counted = some n → 0 < (p.trackers n).count) :
    ((p'.trackers n).count : Int) - (p.trackers n).count = next.contribution n - handler.contribution n := by
  unfold Handler.contribution
  cases h with
  | same hSame hCount => rw [hCount, hSame, sub_self, sub_self]
  | @increment m hBefore hAfter hCount =>
      rw [hCount]
      by_cases hHere : n = m
      · simp [hBefore, hAfter, hHere]
      · simp [hBefore, hAfter, hHere, Ne.symm hHere]
  | @decrement m hBefore hAfter hCount =>
      rw [hCount]
      by_cases hHere : n = m
      · subst hHere
        have hPos := hCounted hBefore
        simp only [hBefore, hAfter, if_true, reduceCtorEq, if_false]
        omega
      · simp [hBefore, hAfter, hHere, Ne.symm hHere]

/-- An action of task `id` changes a count by what it changes of the task's
contribution, and the actions of others leave that alone. -/
theorem Daemon.countChange_eq (hReach : Reachable (Daemon.step cfg) (Daemon.start cfg) d)
    (hStep : Daemon.step cfg d action = some d') :
    d.countChange cfg id n action = (d'.tasks id).contribution n - (d.tasks id).contribution n := by
  unfold Daemon.countChange
  rw [hStep]
  dsimp only
  cases (Daemon.step_cases hStep).2 with
  | clientConnects => simp [Action.task?]
  | stop => simp [Action.task?]
  | @task other input after next hNext =>
      dsimp only
      by_cases hHere : id = other
      · subst hHere
        rw [Function.update_self, Action.task?, if_pos rfl]
        refine (nextHandler_signals hNext).counting.change fun hCounted => ?_
        obtain ⟨ids, hIds, hCard⟩ := (Daemon.reachable_trackersSound hReach).2.counted n
        rw [← hCard]
        exact Finset.card_pos.mpr ⟨id, (hIds id).mpr hCounted⟩
      · rw [Function.update_of_ne hHere, Action.task?, if_neg fun hSame => hHere (Option.some.inj hSame).symm,
          sub_self]

theorem Daemon.start_contribution : ((Daemon.start cfg).tasks id).contribution n = 0 := by
  unfold Daemon.start
  dsimp only
  split_ifs <;> rfl

/-- A client handler that has returned has given its tracker back. Nothing is
pending under its conn_id either, unless a drain has closed it before its entry
was gone. -/
theorem client_leaves_nothing (run : Run (Daemon.step cfg) (Daemon.start cfg) trace d)
    (hReturned : d.tasks id = .proxy .finished) :
    (∀ n, total (Daemon.countChange cfg id n) trace = 0) ∧
      ∀ connId, Guarded (Daemon.Distinct id connId) trace → Guarded (Daemon.ClosesClean id connId) trace →
        d.ctx.proxy.pending.lookup connId = none := by
  constructor
  · intro n
    have hTotal := run.total_eq (fun d => (d.tasks id).contribution n)
      fun middle action after hReach hStep => Daemon.countChange_eq hReach hStep
    rw [hTotal, hReturned, Daemon.start_contribution]
    rfl
  · intro connId hDistinct hCloses
    exact ((left_clean_iff run hDistinct).mpr hCloses).2 (by rw [hReturned]; rfl)

def Action.generates : Action → Option (Nat × String)
  | .task id (.uuid connId) => some (id, connId)
  | _ => none

def Action.closes : Action → Option Nat
  | .task id .cancelled => some id
  | _ => none

def Handler.isReturned : Handler → Bool
  | .proxy .finished => true
  | _ => false

theorem Action.eq_of_generates (h : action.generates = some (id, connId)) : action = .task id (.uuid connId) := by
  unfold Action.generates at h
  split at h <;> cases h
  rfl

theorem Handler.eq_of_isReturned (h : handler.isReturned = true) : handler = .proxy .finished := by
  unfold Handler.isReturned at h
  split at h
  · rfl
  · cases h

/-- The action registers nothing under the conn_id, or is the client's own. -/
def Daemon.isDistinct (id : Nat) (connId : String) (d : Daemon) (action : Action) : Bool :=
  d.registers action != some connId || action.generates == some (id, connId)

theorem Daemon.distinct_of_isDistinct (h : d.isDistinct id connId action = true) : d.Distinct id connId action := by
  intro hRegisters
  unfold Daemon.isDistinct at h
  rw [hRegisters] at h
  simp only [bne_self_eq_false, Bool.false_or, beq_iff_eq] at h
  exact Action.eq_of_generates h

/-- A client is bridged, and its streams are closed. -/
def deliverSchedule : List Action :=
  bridgeSchedule 7 ++ [.connectData, .receive (.connectReady "x"), .proceed].map (.task 3)
    ++ [.proceed, .proceed].map (.task 2)

theorem client_leaves_nothing_bridged :
    ∃ trace d, trace.map Prod.snd = deliverSchedule ∧ Run (Daemon.step .basic) (Daemon.start .basic) trace d ∧
      d.tasks 2 = .proxy .finished ∧ (∀ n, total (Daemon.countChange .basic 2 n) trace = 0) ∧
      d.ctx.proxy.pending.lookup "x" = none := by
  have hRun : (execWhile (Daemon.step .basic)
      (fun d action => d.isDistinct 2 "x" action && action.closes == none)
      (Daemon.start .basic) deliverSchedule).any fun d => (d.tasks 2).isReturned := by
    decide
  obtain ⟨d, hExec, hEnd⟩ := (Option.any_eq_true _ _).mp hRun
  obtain ⟨trace, hActions, run, hGuard⟩ := run_of_execWhile hExec
  have hReturned := Handler.eq_of_isReturned hEnd
  have hDistinct : Guarded (Daemon.Distinct 2 "x") trace := fun entry hEntry =>
    Daemon.distinct_of_isDistinct ((Bool.and_eq_true _ _).mp (hGuard entry hEntry)).1
  have hCloses : Guarded (Daemon.ClosesClean 2 "x") trace := by
    intro entry hEntry hAction
    have hNone := ((Bool.and_eq_true _ _).mp (hGuard entry hEntry)).2
    rw [hAction] at hNone
    cases hNone
  obtain ⟨hCounts, hPending⟩ := client_leaves_nothing run hReturned
  exact ⟨trace, d, hActions, run, hReturned, hCounts, hPending "x" hDistinct hCloses⟩

/-- The container removes its forward while a client waits for its data
connection, and the drain times out before the container opens it. -/
def forcedSchedule : List Action :=
  bridgeSchedule 7 ++ removeSchedule ++ [.task 1 (.drained [0]), .task 2 .cancelled, .task 2 .proceed]

/-- The client is closed while its entry waits, and leaves it in the map. -/
theorem client_leaves_entry :
    ∃ trace d, trace.map Prod.snd = forcedSchedule ∧ Run (Daemon.step .basic) (Daemon.start .basic) trace d ∧
      Guarded (Daemon.Distinct 2 "x") trace ∧ d.tasks 2 = .proxy .finished ∧
      d.ctx.proxy.pending.lookup "x" = some 0 := by
  have hRun : (execWhile (Daemon.step .basic) (Daemon.isDistinct 2 "x") (Daemon.start .basic) forcedSchedule).any
      fun d => (d.tasks 2).isReturned && d.ctx.proxy.pending.lookup "x" == some 0 := by
    decide
  obtain ⟨d, hExec, hEnd⟩ := (Option.any_eq_true _ _).mp hRun
  obtain ⟨hReturned, hPending⟩ := (Bool.and_eq_true _ _).mp hEnd
  obtain ⟨trace, hActions, run, hGuard⟩ := run_of_execWhile hExec
  exact ⟨trace, d, hActions, run, fun entry hEntry => Daemon.distinct_of_isDistinct (hGuard entry hEntry),
    Handler.eq_of_isReturned hReturned, beq_iff_eq.mp hPending⟩

end DevcontainerBridge
