import DevcontainerBridge.Host.Trackers

/-! The end of a drain. A client handler looks its tracker up, counts itself
and subscribes to the cancel signal in separate steps, and the drain of the
tracker looks at the count once. -/
namespace DevcontainerBridge

open Table Transition

/-- Where a tracker is between the binding of its forward and the end of its
drain: with a live forward, or with the task that binds or drains it. -/
inductive TrackerPlace where
  | forward (containerId : String) (port : UInt16)
  | task (id : Nat) (port : UInt16)
  deriving DecidableEq

def Daemon.holds (d : Daemon) : TrackerPlace → Option Nat
  | .forward containerId port => d.ctx.state.trackerOf containerId port
  | .task id port => (d.tasks id).custody port

/-- How a step of a task hands trackers on. -/
inductive CustodyStep (ctx : DaemonContext) (handler : Handler) (after : DaemonContext) (next : Handler) :
    Prop where
  | kept (hCount : after.nextListener = ctx.nextListener)
      (hForwards : ∀ containerId port n, after.state.trackerOf containerId port = some n →
        ctx.state.trackerOf containerId port = some n)
      (hTask : ∀ port n, next.custody port = some n → handler.custody port = some n)
  /-- forwards are taken out of the state for a teardown -/
  | taken (owner : String) (hCount : after.nextListener = ctx.nextListener)
      (hDraining : handler.draining = ∅)
      (hForwards : ∀ containerId port n, after.state.trackerOf containerId port = some n →
        ctx.state.trackerOf containerId port = some n ∧ (containerId = owner → next.custody port = none))
      (hTask : ∀ port n, next.custody port = some n → ctx.state.trackerOf owner port = some n)
  /-- a bound forward is inserted -/
  | inserted (owner : String) (place : UInt16) (hCount : after.nextListener = ctx.nextListener)
      (hDraining : handler.draining = ∅)
      (hForwards : ∀ containerId port, after.state.trackerOf containerId port =
        if containerId = owner ∧ port = place then handler.custody place
        else ctx.state.trackerOf containerId port)
      (hTask : ∀ port, next.custody port = none)
  | bound (place : UInt16) (hCount : after.nextListener = ctx.nextListener + 1)
      (hDraining : handler.draining = ∅) (hState : after.state = ctx.state)
      (hTask : ∀ port n, next.custody port = some n → port = place ∧ n = ctx.nextListener)

variable {cfg : HostConfig} {ctx after : DaemonContext} {handler next : Handler} {input : Input}
  {d d' : Daemon} {action : Action} {id n : Nat} {port : UInt16}

theorem trackerOf_congr {s s' : HostState} (h : s'.containers = s.containers) : s'.trackerOf = s.trackerOf := by
  unfold HostState.trackerOf
  rw [HostState.forwardOf_congr h]

/-- Removing one forward of a container leaves the trackers of the others. -/
theorem trackerOf_removeForward {s : HostState} {owner containerId : String} {place port : UInt16} {n : Nat}
    (h : (s.removeForward owner place).1.trackerOf containerId port = some n) :
    s.trackerOf containerId port = some n ∧ ¬(containerId = owner ∧ port = place) := by
  unfold HostState.trackerOf at h
  rw [HostState.forwardOf_removeForward] at h
  split_ifs at h with hHere
  · cases h
  · exact ⟨h, hHere⟩

/-- A single forward is taken out of the state. -/
theorem CustodyStep.of_removeForward {owner : String} {place : UInt16} {old : ForwardState}
    (hCount : after.nextListener = ctx.nextListener) (hDraining : handler.draining = ∅)
    (hOld : (ctx.state.removeForward owner place).2 = some old)
    (hState : after.state = (ctx.state.removeForward owner place).1)
    (hNext : ∀ port, next.custody port = ((singleForward place old).lookup port).map ForwardState.tracker) :
    CustodyStep ctx handler after next := by
  rw [HostState.removeForward_snd] at hOld
  have hTask : ∀ port n, next.custody port = some n → port = place ∧ n = old.tracker := by
    intro port n hHere
    rw [hNext] at hHere
    obtain ⟨fstate, hLookup, rfl⟩ := Option.map_eq_some_iff.mp hHere
    obtain ⟨rfl, rfl⟩ := singleForward_lookup hLookup
    exact ⟨rfl, rfl⟩
  refine .taken owner hCount hDraining ?_ ?_
  · intro containerId port n hForward
    rw [hState] at hForward
    obtain ⟨hBefore, hOther⟩ := trackerOf_removeForward hForward
    refine ⟨hBefore, fun hOwner => ?_⟩
    cases hHere : next.custody port with
    | none => rfl
    | some m => exact absurd ⟨hOwner, (hTask port m hHere).1⟩ hOther
  · intro port n hHere
    obtain ⟨rfl, rfl⟩ := hTask port n hHere
    unfold HostState.trackerOf
    rw [hOld]
    rfl

/-- All forwards of a container are taken out of the state. -/
theorem CustodyStep.of_removeContainer {owner : String} {cstate : ContainerState}
    (hCount : after.nextListener = ctx.nextListener) (hDraining : handler.draining = ∅)
    (hContainer : ctx.state.containers.lookup owner = some cstate)
    (hState : after.state = (ctx.state.removeContainer owner).releaseForwards cstate.forwards)
    (hNext : ∀ port, next.custody port = (cstate.forwards.lookup port).map ForwardState.tracker) :
    CustodyStep ctx handler after next := by
  refine .taken owner hCount hDraining ?_ ?_
  · intro containerId port n hForward
    unfold HostState.trackerOf at hForward
    rw [hState, HostState.forwardOf_removeContainer] at hForward
    split_ifs at hForward with hOwner
    · cases hForward
    · exact ⟨hForward, fun hHere => absurd hHere hOwner⟩
  · intro port n hHere
    rw [hNext] at hHere
    unfold HostState.trackerOf HostState.forwardOf
    rw [hContainer]
    exact hHere

theorem nextHandler_custody (hNext : nextHandler cfg ctx handler input = some (after, next))
    (hHost : HostStep ctx handler after next) (hBound : handler.WellBound) :
    CustodyStep ctx handler after next := by
  rcases nextHandler_untouched hNext with hUntouched | ⟨_, _, request, _, _, hostPort, rfl, rfl, rfl⟩
  case inr =>
    refine .bound request.port rfl rfl rfl fun port n hHere => ?_
    rw [custody_forwardInsert] at hHere
    split_ifs at hHere with hPort
    cases hHere
    exact ⟨hPort, rfl⟩
  have hCount := hUntouched.count
  -- a step that leaves the forwards alone and has nothing in hand afterwards
  have idle : after.state.trackerOf = ctx.state.trackerOf → (∀ port, next.custody port = none) →
      CustodyStep ctx handler after next := by
    intro hState hNone
    refine .kept hCount (fun containerId port n hForward => hState ▸ hForward) fun port n hHere => ?_
    rw [hNone] at hHere
    cases hHere
  cases hHost with
  | quiet hBefore hAfter hSame =>
      have hState := trackerOf_congr hSame.containers
      rcases nextHandler_trackers hNext with ⟨-, -, -, hDetached⟩ | ⟨_, _, _, _, _, rfl, _⟩
      · refine .kept hCount (fun containerId port n hForward => hState ▸ hForward) ?_
        refine hDetached.waits.resolve_left fun hEngaged => ?_
        rw [hAfter] at hEngaged
        cases hEngaged
      · exact idle hState fun _ => rfl
  | advance hMove hSame =>
      have hState := trackerOf_congr hSame.containers
      cases hMove with
      | forwardBind => exact absurd hUntouched.bound (Option.some_ne_none _)
      | _ => exact idle hState fun _ => rfl
  | registerRemove hRemove =>
      obtain ⟨cstate, hContainer, rfl, rfl⟩ := HostState.removeStale_some hRemove
      exact .of_removeContainer hCount rfl hContainer rfl fun _ => rfl
  | registerInsert =>
      refine .kept hCount (fun containerId port n hForward => ?_) fun port n hHere => nomatch hHere
      unfold HostState.trackerOf at hForward
      rw [HostState.forwardOf_insertContainer] at hForward
      split_ifs at hForward
      · cases hForward
      · exact hForward
  | forwardTake hOld => exact .of_removeForward hCount rfl hOld rfl fun _ => rfl
  | unforwardRemove hOld => exact .of_removeForward hCount rfl hOld rfl fun _ => rfl
  | unforwardGlobal hOld => exact .of_removeForward hCount rfl hOld rfl fun _ => rfl
  | cleanup hTake =>
      obtain ⟨cstate, hContainer, rfl, -, rfl⟩ := HostState.takeContainer_some hTake
      exact .of_removeContainer hCount rfl hContainer rfl fun _ => rfl
  | @forwardInsert containerId _ request _ _ hostPort listener new hPort hListener hInserted =>
      obtain ⟨cstate, hContainer, hState⟩ :=
        HostState.insertForward_bound hInserted (hPort.trans hBound)
      refine .inserted containerId request.port hCount rfl (fun other port => ?_)
        fun _ => rfl
      dsimp only
      unfold HostState.trackerOf
      rw [hState, HostState.forwardOf_setForward hContainer]
      split_ifs with hHere
      · rw [custody_forwardInsert, if_pos rfl]
        exact congrArg some hListener.2
      · rfl
  | forwardGone _ hState _ => exact idle (by rw [hState]; rfl) fun _ => rfl
  | registerBrowser => exact .kept hCount (fun _ _ _ => id) fun _ _ => id
  | cleanupBrowser => exact .kept hCount (fun _ _ _ => id) fun _ _ => id
  | unforwardGlobalBrowser => exact .kept hCount (fun _ _ _ => id) fun _ _ => id
  | _ => exact idle rfl fun _ => rfl

/-- What is known of the trackers in every reachable state. -/
structure Daemon.TrackersSound (d : Daemon) : Prop where
  exclusive : ∀ x y n, d.holds x = some n → d.holds y = some n → x = y
  issued : ∀ x n, d.holds x = some n → n < d.ctx.nextListener
  /-- a tracker is cancelled after it has been given up -/
  cancelled : ∀ n, (d.ctx.proxy.trackers n).cancelled = true →
    n < d.ctx.nextListener ∧ ∀ x, d.holds x ≠ some n
  counted : ∀ n, ∃ ids : Finset Nat, (∀ id, id ∈ ids ↔ (d.tasks id).counted = some n) ∧
    ids.card = (d.ctx.proxy.trackers n).count
  /-- a signal that is regarded as seen has been sent -/
  subscribed : ∀ id n, (d.tasks id).subscribed = some (n, true) →
    (d.ctx.proxy.trackers n).cancelled = true

theorem holds_withTask_self (d : Daemon) (id : Nat) (port : UInt16) :
    (d.withTask id after next).holds (.task id port) = next.custody port := by
  unfold Daemon.withTask Daemon.holds
  dsimp only
  rw [Function.update_self]

theorem holds_withTask_of_ne (d : Daemon) {id other : Nat} (hOther : other ≠ id) (port : UInt16) :
    (d.withTask id after next).holds (.task other port) = d.holds (.task other port) := by
  unfold Daemon.withTask Daemon.holds
  dsimp only
  rw [Function.update_of_ne hOther]

/-- A tracker that a task hands on is new or was somewhere before, and no two
trackers come from one place. -/
theorem CustodyStep.holds (hStep : CustodyStep d.ctx (d.tasks id) after next) :
    d.ctx.nextListener ≤ after.nextListener ∧
      ((∃ origin : TrackerPlace → TrackerPlace,
        (∀ x n, (d.withTask id after next).holds x = some n → d.holds (origin x) = some n) ∧
        ∀ x y n, (d.withTask id after next).holds x = some n → (d.withTask id after next).holds y = some n →
          origin x = origin y → x = y) ∨
      ∃ place, after.nextListener = d.ctx.nextListener + 1 ∧
        ∀ x n, (d.withTask id after next).holds x = some n →
          d.holds x = some n ∨ x = place ∧ n = d.ctx.nextListener) := by
  cases hStep with
  | kept hCount hForwards hTask =>
      refine ⟨hCount.ge, .inl ⟨fun x => x, ?_, fun _ _ _ _ _ hEq => hEq⟩⟩
      rintro (⟨containerId, port⟩ | ⟨other, port⟩) n hHere
      · exact hForwards containerId port n hHere
      · by_cases hOther : other = id
        · subst hOther
          rw [holds_withTask_self] at hHere
          exact hTask port n hHere
        · rwa [holds_withTask_of_ne d hOther] at hHere
  | @taken owner hCount _ hForwards hTask =>
      refine ⟨hCount.ge, .inl ⟨fun
        | .task other port => if other = id then .forward owner port else .task other port
        | place => place, ?_, ?_⟩⟩
      · rintro (⟨containerId, port⟩ | ⟨other, port⟩) n hHere
        · exact (hForwards containerId port n hHere).1
        · dsimp only
          split_ifs with hOther
          · subst hOther
            rw [holds_withTask_self] at hHere
            exact hTask port n hHere
          · rwa [holds_withTask_of_ne d hOther] at hHere
      · -- a place of the task and a forward of the owner do not both have a tracker
        have hApart : ∀ port other m m', (d.withTask id after next).holds (.task id port) = some m →
            (d.withTask id after next).holds (.forward owner other) = some m' → port ≠ other := by
          rintro port other m m' hTaken hLeft rfl
          rw [holds_withTask_self, (hForwards owner port m' hLeft).2 rfl] at hTaken
          cases hTaken
        rintro (⟨containerId, port⟩ | ⟨other, port⟩) (⟨containerId', port'⟩ | ⟨other', port'⟩) n hx hy hEq
        · exact hEq
        · dsimp only at hEq
          split_ifs at hEq with hOther
          cases hEq
          exact absurd rfl (hApart _ _ n n (hOther ▸ hy) hx)
        · dsimp only at hEq
          split_ifs at hEq with hOther
          cases hEq
          exact absurd rfl (hApart port port n n (hOther ▸ hx) hy)
        · dsimp only at hEq
          split_ifs at hEq with hOther hOther'
          · cases hEq
            rw [hOther, hOther']
          · exact hEq
  | @inserted owner place hCount _ hForwards hTask =>
      refine ⟨hCount.ge, .inl ⟨fun x => if x = .forward owner place then .task id place else x, ?_, ?_⟩⟩
      · rintro (⟨containerId, port⟩ | ⟨other, port⟩) n hHere
        · have hForward := (hForwards containerId port).symm.trans hHere
          dsimp only
          split_ifs with hPlace
          · cases hPlace
            rw [if_pos ⟨rfl, rfl⟩] at hForward
            exact hForward
          · rw [if_neg fun hSame => hPlace (by rw [hSame.1, hSame.2])] at hForward
            exact hForward
        · dsimp only
          rw [if_neg fun hEq => nomatch hEq]
          by_cases hOther : other = id
          · subst hOther
            rw [holds_withTask_self, hTask] at hHere
            cases hHere
          · rwa [holds_withTask_of_ne d hOther] at hHere
      · have hNone : ∀ port n, (d.withTask id after next).holds (.task id port) ≠ some n := by
          intro port n hHere
          rw [holds_withTask_self, hTask] at hHere
          cases hHere
        intro x y n hx hy hEq
        dsimp only at hEq
        split_ifs at hEq with hxPlace hyPlace hyPlace
        · rw [hxPlace, hyPlace]
        · rw [← hEq] at hy
          exact absurd hy (hNone place n)
        · rw [hEq] at hx
          exact absurd hx (hNone place n)
        · exact hEq
  | @bound place hCount _ hState hTask =>
      refine ⟨le_of_le_of_eq (Nat.le_succ _) hCount.symm, .inr ⟨.task id place, hCount, ?_⟩⟩
      rintro (⟨containerId, port⟩ | ⟨other, port⟩) n hHere
      · left
        unfold Daemon.holds Daemon.withTask at hHere
        dsimp only at hHere
        rwa [hState] at hHere
      · by_cases hOther : other = id
        · subst hOther
          rw [holds_withTask_self] at hHere
          obtain ⟨rfl, hNew⟩ := hTask port n hHere
          exact .inr ⟨rfl, hNew⟩
        · rw [holds_withTask_of_ne d hOther] at hHere
          exact .inl hHere

/-- The drain of a tracker that the task does not keep gives the tracker up. -/
theorem CustodyStep.released (hStep : CustodyStep d.ctx (d.tasks id) after next) (h : d.TrackersSound)
    {fstate : ForwardState} (hDraining : (d.tasks id).draining.lookup port = some fstate)
    (hNext : next.custody port = none) : ∀ x, (d.withTask id after next).holds x ≠ some fstate.tracker := by
  have hHere : d.holds (.task id port) = some fstate.tracker := custody_of_draining hDraining
  have hEmpty : (d.tasks id).draining ≠ ∅ := by
    intro hNone
    rw [hNone] at hDraining
    cases hDraining
  cases hStep with
  | kept _ hForwards hTask =>
      rintro (⟨containerId, other⟩ | ⟨other, otherPort⟩) hLater
      · cases h.exclusive (.forward containerId other) _ _ (hForwards containerId other _ hLater) hHere
      · by_cases hOther : other = id
        · subst hOther
          rw [holds_withTask_self] at hLater
          cases h.exclusive (.task other otherPort) _ _ (hTask otherPort _ hLater) hHere
          rw [hNext] at hLater
          cases hLater
        · rw [holds_withTask_of_ne d hOther] at hLater
          cases h.exclusive _ _ _ hLater hHere
          exact hOther rfl
  | taken _ _ hNone => exact absurd hNone hEmpty
  | inserted _ _ _ hNone => exact absurd hNone hEmpty
  | bound _ _ hNone => exact absurd hNone hEmpty

/-- A client handler begins or ends to be counted, or all stays as it was. -/
theorem counted_step {tasks : Nat → Handler} {p p' : ProxyState} {next : Handler}
    (hCounting : Counting p p' (tasks id).counted next.counted) {m : Nat}
    (h : ∃ ids : Finset Nat, (∀ other, other ∈ ids ↔ (tasks other).counted = some m) ∧
      ids.card = (p.trackers m).count) :
    ∃ ids : Finset Nat, (∀ other, other ∈ ids ↔ (Function.update tasks id next other).counted = some m) ∧
      ids.card = (p'.trackers m).count := by
  obtain ⟨ids, hIds, hCard⟩ := h
  have hOthers : ∀ other, other ≠ id →
      (other ∈ ids ↔ (Function.update tasks id next other).counted = some m) := by
    intro other hOther
    rw [Function.update_of_ne hOther, hIds]
  have hSelf : (Function.update tasks id next id).counted = next.counted := by rw [Function.update_self]
  have unchanged : ((tasks id).counted = some m ↔ next.counted = some m) →
      (p'.trackers m).count = (p.trackers m).count →
      ∃ ids : Finset Nat, (∀ other, other ∈ ids ↔ (Function.update tasks id next other).counted = some m) ∧
        ids.card = (p'.trackers m).count := by
    intro hSame hCount
    refine ⟨ids, fun other => ?_, hCard.trans hCount.symm⟩
    by_cases hOther : other = id
    · rw [hOther, hSelf, hIds, hSame]
    · exact hOthers other hOther
  cases hCounting with
  | same hCounted hCount => exact unchanged (by rw [hCounted]) (hCount m)
  | @increment n hBefore hAfter hCount =>
      by_cases hHere : m = n
      · subst hHere
        have hNew : id ∉ ids := by
          rw [hIds, hBefore]
          exact fun hNever => nomatch hNever
        refine ⟨insert id ids, fun other => ?_, ?_⟩
        · by_cases hOther : other = id
          · rw [hOther, hSelf, hAfter]
            exact iff_of_true (Finset.mem_insert_self id ids) rfl
          · rw [Finset.mem_insert, or_iff_right hOther, hOthers other hOther]
        · rw [Finset.card_insert_of_notMem hNew, hCard, hCount, if_pos rfl]
      · apply unchanged
        · rw [hBefore, hAfter]
          exact iff_of_false (fun hNever => nomatch hNever) fun hSame => hHere (Option.some.inj hSame).symm
        · rw [hCount, if_neg hHere, Nat.add_zero]
  | @decrement n hBefore hAfter hCount =>
      by_cases hHere : m = n
      · subst hHere
        have hOld : id ∈ ids := (hIds id).mpr hBefore
        refine ⟨ids.erase id, fun other => ?_, ?_⟩
        · by_cases hOther : other = id
          · rw [hOther, hSelf, hAfter]
            exact iff_of_false (Finset.notMem_erase id ids) fun hNever => nomatch hNever
          · rw [Finset.mem_erase, and_iff_right hOther, hOthers other hOther]
        · rw [Finset.card_erase_of_mem hOld, hCard, hCount, if_pos rfl]
      · apply unchanged
        · rw [hBefore, hAfter]
          exact iff_of_false (fun hSame => hHere (Option.some.inj hSame).symm) fun hNever => nomatch hNever
        · rw [hCount, if_neg hHere, Nat.sub_zero]

theorem acceptClient_trackers {listener : Nat} (h : ctx.acceptClient listener = some after) :
    after.proxy.trackers = ctx.proxy.trackers := by
  obtain ⟨l, -, rfl⟩ := DaemonContext.acceptClient_frame h
  rfl

/-- A step of no task keeps what is known when no tracker gets a new place. -/
theorem Daemon.TrackersSound.of_tasks (h : d.TrackersSound) (hTasks : d'.tasks = d.tasks)
    (hTrackers : d'.ctx.proxy.trackers = d.ctx.proxy.trackers)
    (hCount : d'.ctx.nextListener = d.ctx.nextListener)
    (hHolds : ∀ x n, d'.holds x = some n → d.holds x = some n) : d'.TrackersSound where
  exclusive := fun x y n hx hy => h.exclusive x y n (hHolds x n hx) (hHolds y n hy)
  issued := fun x n hx => hCount ▸ h.issued x n (hHolds x n hx)
  cancelled := fun n hCancelled => by
    rw [hTrackers] at hCancelled
    obtain ⟨hIssued, hNone⟩ := h.cancelled n hCancelled
    exact ⟨hCount ▸ hIssued, fun x hx => hNone x (hHolds x n hx)⟩
  counted := fun n => by
    rw [hTasks, hTrackers]
    exact h.counted n
  subscribed := fun id n hSubscribed => by
    rw [hTrackers]
    exact h.subscribed id n (hTasks ▸ hSubscribed)

/-- What a step of a task does to the signals and to the counts. -/
structure SignalStep (d : Daemon) (id : Nat) (after : DaemonContext) (next : Handler) : Prop where
  counting : Counting d.ctx.proxy after.proxy (d.tasks id).counted next.counted
  keeps : ∀ n, (d.ctx.proxy.trackers n).cancelled = true → (after.proxy.trackers n).cancelled = true
  cancels : ∀ n, (after.proxy.trackers n).cancelled = true → (d.ctx.proxy.trackers n).cancelled = true ∨
    ∃ port fstate, (d.tasks id).draining.lookup port = some fstate ∧ fstate.tracker = n ∧
      next.custody port = none
  subscribed : ∀ n seen, next.subscribed = some (n, seen) →
    (d.tasks id).unsubscribed = some n ∧ seen = (d.ctx.proxy.trackers n).cancelled ∨
      (d.tasks id).subscribed = some (n, seen)
  looked : ∀ n, next.tracker = some n → (d.tasks id).tracker = some n ∨ ∃ x, d.holds x = some n
  waiting : ∀ n, next.unsubscribed = some n → (d.tasks id).unsubscribed = some n ∨ ∃ x, d.holds x = some n

/-- A task that has no tracker is neither counted nor subscribed. -/
theorem Handler.of_tracker_none (h : handler.tracker = none) :
    handler.counted = none ∧ handler.unsubscribed = none ∧ handler.subscribed = none := by
  cases handler with
  | proxy task =>
      cases task with
      | clientIncrement => exact ⟨rfl, h, rfl⟩
      | clientRegister => exact ⟨h, h, rfl⟩
      | clientSend => exact ⟨h, h, rfl⟩
      | clientSubscribe => exact ⟨h, h, rfl⟩
      | clientBridge => exact ⟨h, rfl, Option.map_eq_none_iff.mpr h⟩
      | clientBridgeCancel => exact ⟨h, rfl, Option.map_eq_none_iff.mpr h⟩
      | clientCancel => exact ⟨h, rfl, rfl⟩
      | clientDone => exact ⟨h, rfl, rfl⟩
      | _ => exact ⟨rfl, rfl, rfl⟩
  | _ => exact ⟨rfl, rfl, rfl⟩

theorem nextHandler_signals (h : nextHandler cfg d.ctx (d.tasks id) input = some (after, next)) :
    SignalStep d id after next := by
  rcases nextHandler_trackers h with ⟨hTracker, hCounted, hWaiting, hDetached⟩ |
    ⟨task, proxy, task', hTask, rfl, rfl, hStep⟩
  · obtain ⟨hNextCounted, hNextWaiting, hNextSubscribed⟩ := Handler.of_tracker_none hDetached.client
    refine ⟨.same (hNextCounted.trans hCounted.symm) hDetached.counts, hDetached.keeps, hDetached.cancels, ?_,
      ?_, ?_⟩
    · intro n seen hNext
      rw [hNextSubscribed] at hNext
      cases hNext
    · intro n hNext
      rw [hDetached.client] at hNext
      cases hNext
    · intro n hNext
      rw [hNextWaiting] at hNext
      cases hNext
  · have hLive : ∀ n, (∃ containerId port, d.ctx.state.trackerOf containerId port = some n) →
        ∃ x, d.holds x = some n :=
      fun n ⟨containerId, port, hForward⟩ => ⟨.forward containerId port, hForward⟩
    refine ⟨?_, fun n hBefore => ?_, fun n hAfter => .inl ?_, ?_, ?_, ?_⟩
    · rw [hTask]
      exact hStep.counting
    · exact (hStep.cancelled n).trans hBefore
    · exact (hStep.cancelled n).symm.trans hAfter
    · rw [hTask]
      exact hStep.subscribed
    · rw [hTask]
      exact fun n hNext => (hStep.looked n hNext).imp_right (hLive n)
    · rw [hTask]
      exact fun n hNext => (hStep.waiting n hNext).imp_right (hLive n)

theorem Daemon.step_trackersSound (hBound : ∀ id, (d.tasks id).WellBound) (h : d.TrackersSound)
    (hStep : Daemon.step cfg d action = some d') : d'.TrackersSound := by
  cases (Daemon.step_cases hStep).2 with
  | clientConnects hAccept hState _ =>
      refine h.of_tasks rfl (acceptClient_trackers hAccept) (acceptClient_listeners hAccept).2.1 ?_
      rintro (⟨containerId, port⟩ | ⟨other, port⟩) n hHere
      · unfold Daemon.holds at hHere ⊢
        dsimp only at hHere
        rwa [hState] at hHere
      · exact hHere
  | stop =>
      refine h.of_tasks rfl rfl rfl ?_
      rintro (⟨containerId, port⟩ | ⟨other, port⟩) n hHere
      · cases hHere
      · exact hHere
  | @task id input after next hNext hHost =>
      have hCustody := nextHandler_custody hNext hHost (hBound id)
      have hSignals := nextHandler_signals hNext
      obtain ⟨hCount, hPlaces⟩ := hCustody.holds
      have hUnissued : ∀ n, d.ctx.nextListener ≤ n → (after.proxy.trackers n).cancelled = false := by
        intro n hLater
        by_contra hCancelled
        rcases hSignals.cancels n (Bool.not_eq_false _ |>.mp hCancelled) with hBefore |
          ⟨port, fstate, hDraining, rfl, -⟩
        · exact absurd (h.cancelled n hBefore).1 (not_lt.mpr hLater)
        · exact absurd (h.issued (.task id port) _ (custody_of_draining hDraining)) (not_lt.mpr hLater)
      have hIssued : ∀ x n, (d.withTask id after next).holds x = some n → n < after.nextListener := by
        intro x n hHere
        rcases hPlaces with ⟨origin, hOrigin, -⟩ | ⟨place, hNew, hOld⟩
        · exact lt_of_lt_of_le (h.issued _ n (hOrigin x n hHere)) hCount
        · rcases hOld x n hHere with hBefore | ⟨-, rfl⟩
          · exact lt_of_lt_of_le (h.issued x n hBefore) hCount
          · exact hNew ▸ Nat.lt_succ_self _
      constructor
      · intro x y n hx hy
        rcases hPlaces with ⟨origin, hOrigin, hApart⟩ | ⟨place, -, hOld⟩
        · exact hApart x y n hx hy (h.exclusive _ _ n (hOrigin x n hx) (hOrigin y n hy))
        · rcases hOld x n hx with hxOld | ⟨hxPlace, hxNew⟩ <;> rcases hOld y n hy with hyOld | ⟨hyPlace, hyNew⟩
          · exact h.exclusive x y n hxOld hyOld
          · exact absurd (h.issued x n hxOld) (hyNew ▸ lt_irrefl _)
          · exact absurd (h.issued y n hyOld) (hxNew ▸ lt_irrefl _)
          · rw [hxPlace, hyPlace]
      · exact hIssued
      · intro n hCancelled
        constructor
        · by_contra hLater
          rw [hUnissued n (hCount.trans (not_lt.mp hLater))] at hCancelled
          cases hCancelled
        · intro x hHere
          rcases hSignals.cancels n hCancelled with hBefore | ⟨port, fstate, hDraining, rfl, hNone⟩
          · obtain ⟨hOldIssued, hNone⟩ := h.cancelled n hBefore
            rcases hPlaces with ⟨origin, hOrigin, -⟩ | ⟨place, -, hOld⟩
            · exact hNone _ (hOrigin x n hHere)
            · rcases hOld x n hHere with hBefore | ⟨-, rfl⟩
              · exact hNone x hBefore
              · exact lt_irrefl _ hOldIssued
          · exact hCustody.released h hDraining hNone x hHere
      · exact fun n => counted_step hSignals.counting (h.counted n)
      · intro other n hSubscribed
        apply hSignals.keeps
        by_cases hOther : other = id
        · subst hOther
          dsimp only at hSubscribed
          rw [Function.update_self] at hSubscribed
          rcases hSignals.subscribed n true hSubscribed with hNew | hOld
          · exact hNew.2.symm
          · exact h.subscribed other n hOld
        · dsimp only at hSubscribed
          rw [Function.update_of_ne hOther] at hSubscribed
          exact h.subscribed other n hSubscribed

theorem Daemon.start_trackersSound : (Daemon.start cfg).TrackersSound := by
  have hStart : ∀ id, (Daemon.start cfg).tasks id = .idle ∨ (Daemon.start cfg).tasks id = .scanning := by
    intro id
    unfold Daemon.start
    dsimp only
    split
    · exact .inr rfl
    · exact .inl rfl
  have hHolds : ∀ x, (Daemon.start cfg).holds x = none := by
    rintro (⟨containerId, port⟩ | ⟨id, port⟩)
    · rfl
    · unfold Daemon.holds
      rcases hStart id with hIdle | hScanning
      · dsimp only
        rw [hIdle]
        rfl
      · dsimp only
        rw [hScanning]
        rfl
  constructor
  · intro x y n hx
    rw [hHolds] at hx
    cases hx
  · intro x n hx
    rw [hHolds] at hx
    cases hx
  · intro n hCancelled
    cases hCancelled
  · intro n
    refine ⟨∅, fun id => ?_, rfl⟩
    rcases hStart id with hIdle | hScanning
    · rw [hIdle]
      exact iff_of_false (Finset.notMem_empty id) fun hNever => nomatch hNever
    · rw [hScanning]
      exact iff_of_false (Finset.notMem_empty id) fun hNever => nomatch hNever
  · intro id n hSubscribed
    rcases hStart id with hIdle | hScanning
    · rw [hIdle] at hSubscribed
      cases hSubscribed
    · rw [hScanning] at hSubscribed
      cases hSubscribed

theorem Daemon.reachable_trackersSound (hReach : Reachable (Daemon.step cfg) (Daemon.start cfg) d) :
    (∀ id, (d.tasks id).WellBound) ∧ d.TrackersSound := by
  refine hReach.invariant (fun d => (∀ id, (d.tasks id).WellBound) ∧ d.TrackersSound)
    ⟨Daemon.start_wellBound, Daemon.start_trackersSound⟩ ?_
  intro middle action after hMiddle hStep
  exact ⟨Daemon.step_wellBound hStep hMiddle.1, Daemon.step_trackersSound hMiddle.1 hMiddle.2 hStep⟩

/-- The drain of a forward's tracker returns on this input, at the latest. -/
def Input.drains (port : UInt16) : Input → Bool
  | .drained _ => true
  | .drainedOne other _ => other = port
  | _ => false

/-- `drain_forward_connections` returns for tracker `n`: all connections have
drained, or the timeout has expired and the cancel signal is sent. -/
def Daemon.DrainReturns (d : Daemon) (action : Action) (n : Nat) : Prop :=
  ∃ id input port fstate, action = .task id input ∧ (d.tasks id).draining.lookup port = some fstate ∧
    fstate.tracker = n ∧ input.drains port = true

/-- A task does not stand between the lookup of tracker `n` and the
subscription, and where it has subscribed the cancel signal ends its bridge. -/
def Daemon.Released (cfg : HostConfig) (d : Daemon) (n id : Nat) : Prop :=
  (d.tasks id).unsubscribed ≠ some n ∧
    ∀ seen, (d.tasks id).subscribed = some (n, seen) →
      ∃ ctx route, nextHandler cfg d.ctx (d.tasks id) .cancelled = some (ctx, .proxy (.clientDone route))

/-- The signal of a tracker reaches who has subscribed before it was sent. -/
theorem cancelled_step (hSubscribed : handler.subscribed = some (n, false))
    (hCancelled : (ctx.proxy.trackers n).cancelled = true) :
    ∃ after route, nextHandler cfg ctx handler .cancelled = some (after, .proxy (.clientDone route)) := by
  unfold Handler.subscribed at hSubscribed
  split at hSubscribed
  case h_1 task =>
    unfold ProxyTask.subscribed at hSubscribed
    split at hSubscribed
    case h_1 route connId receiver seen =>
      obtain ⟨m, hTracker, hPair⟩ := Option.map_eq_some_iff.mp hSubscribed
      cases hPair
      refine ⟨{ ctx with proxy := ctx.proxy.closeReceiver receiver }, route, ?_⟩
      simp only [nextHandler, nextProxy, nextClient, hTracker, hCancelled]
      rfl
    case h_2 route connId seen =>
      obtain ⟨m, hTracker, hPair⟩ := Option.map_eq_some_iff.mp hSubscribed
      cases hPair
      refine ⟨ctx, route, ?_⟩
      simp only [nextHandler, nextProxy, nextClient, hTracker, hCancelled]
      rfl
    case h_3 => cases hSubscribed
  case h_2 => cases hSubscribed

theorem Handler.counted_of_subscribed {seen : Bool} (h : handler.subscribed = some (n, seen)) :
    handler.counted = some n := by
  unfold subscribed at h
  split at h
  case h_1 task =>
    unfold ProxyTask.subscribed at h
    split at h
    case h_1 route connId receiver seen =>
      obtain ⟨m, hTracker, hPair⟩ := Option.map_eq_some_iff.mp h
      cases hPair
      exact hTracker
    case h_2 route connId seen =>
      obtain ⟨m, hTracker, hPair⟩ := Option.map_eq_some_iff.mp h
      cases hPair
      exact hTracker
    case h_3 => cases h
  case h_2 => cases h

/-- A task that drains is no client handler. -/
theorem Handler.tracker_of_draining {fstate : ForwardState} (h : handler.draining.lookup port = some fstate) :
    handler.tracker = none := by
  cases handler <;> first | rfl | cases h

theorem tearDown_drained {forwards : Forwards} {timedOut : List Nat} {fstate : ForwardState}
    (h : ctx.tearDown forwards timedOut = some after) (hLookup : forwards.lookup port = some fstate) :
    (after.proxy.trackers fstate.tracker).cancelled = true ∨ (ctx.proxy.trackers fstate.tracker).count = 0 := by
  obtain ⟨hProxy, -, hDrained⟩ := tearDown_trackers h
  rw [hProxy, cancelTrackers_cancelled]
  exact (hDrained port fstate hLookup).imp_left .inl

theorem drainOne_drained {old rest : Forwards} {timedOut : Bool} {fstate : ForwardState}
    (h : ctx.drainOne old port timedOut = some (after, rest)) (hLookup : old.lookup port = some fstate) :
    rest.lookup port = none ∧ ((after.proxy.trackers fstate.tracker).cancelled = true ∨
      (ctx.proxy.trackers fstate.tracker).count = 0) := by
  obtain ⟨other, hOld, rfl, hTear⟩ := drainOne_some h
  cases hOld.symm.trans hLookup
  exact ⟨(lookup_erase ..).trans (if_pos rfl), tearDown_drained hTear Finmap.lookup_singleton_eq⟩

/-- When a drain returns its forward is done with, and either nobody was
counted or the signal has been sent. -/
theorem nextHandler_drained {fstate : ForwardState}
    (h : nextHandler cfg ctx handler input = some (after, next))
    (hDraining : handler.draining.lookup port = some fstate) (hInput : input.drains port = true) :
    next.custody port = none ∧ ((after.proxy.trackers fstate.tracker).cancelled = true ∨
      (ctx.proxy.trackers fstate.tracker).count = 0) := by
  have all : ∀ {forwards timedOut target}, forwards.lookup port = some fstate →
      target.custody port = none →
        (ctx.tearDown forwards timedOut).map (fun ctx => (ctx, target)) = some (after, next) →
        next.custody port = none ∧ ((after.proxy.trackers fstate.tracker).cancelled = true ∨
          (ctx.proxy.trackers fstate.tracker).count = 0) := by
    intro forwards timedOut target hLookup hTarget hPair
    obtain ⟨middle, hTear, hPair⟩ := Option.map_eq_some_iff.mp hPair
    cases hPair
    exact ⟨hTarget, tearDown_drained hTear hLookup⟩
  cases input with
  | drained timedOut =>
      cases handler with
      | forwardDrain => exact all hDraining rfl h
      | registerDrain => exact all hDraining rfl h
      | cleanupDrain => exact all hDraining rfl h
      | unforwardDrain => exact all hDraining rfl h
      | unforwardGlobalDrain => exact all hDraining rfl h
      | registerBrowser => cases h
      | cleanupBrowser => cases h
      | unforwardGlobalBrowser => cases h
      | _ => cases hDraining
  | drainedOne other timedOut =>
      obtain rfl := of_decide_eq_true hInput
      cases handler with
      | registerDrain =>
          obtain ⟨⟨middle, rest⟩, hDrain, hPair⟩ := Option.map_eq_some_iff.mp h
          cases hPair
          obtain ⟨hGone, hDrained⟩ := drainOne_drained hDrain hDraining
          exact ⟨congrArg (Option.map ForwardState.tracker) hGone, hDrained⟩
      | cleanupDrain =>
          obtain ⟨⟨middle, rest⟩, hDrain, hPair⟩ := Option.map_eq_some_iff.mp h
          cases hPair
          obtain ⟨hGone, hDrained⟩ := drainOne_drained hDrain hDraining
          exact ⟨congrArg (Option.map ForwardState.tracker) hGone, hDrained⟩
      | forwardDrain => cases h
      | unforwardDrain => cases h
      | unforwardGlobalDrain => cases h
      | registerBrowser => cases h
      | cleanupBrowser => cases h
      | unforwardGlobalBrowser => cases h
      | _ => cases hDraining
  | _ => cases hInput

/-- Nobody is left who could bridge under tracker `n` unnoticed, and nobody
gets the tracker any more. -/
structure Daemon.Retired (d : Daemon) (n : Nat) : Prop where
  issued : n < d.ctx.nextListener
  unheld : ∀ x, d.holds x ≠ some n
  waiting : ∀ id, (d.tasks id).unsubscribed ≠ some n
  subscribed : ∀ id seen, (d.tasks id).subscribed = some (n, seen) →
    seen = false ∧ (d.ctx.proxy.trackers n).cancelled = true

theorem Daemon.Retired.released (h : d.Retired n) (id : Nat) : d.Released cfg n id := by
  refine ⟨h.waiting id, fun seen hSubscribed => ?_⟩
  obtain ⟨rfl, hCancelled⟩ := h.subscribed id seen hSubscribed
  exact cancelled_step hSubscribed hCancelled

theorem Daemon.Retired.step (h : d.Retired n) (hBound : ∀ id, (d.tasks id).WellBound)
    (hStep : Daemon.step cfg d action = some d') : d'.Retired n := by
  cases (Daemon.step_cases hStep).2 with
  | clientConnects hAccept hState _ =>
      have hTrackers := acceptClient_trackers hAccept
      refine ⟨?_, ?_, h.waiting, ?_⟩
      · dsimp only
        rw [(acceptClient_listeners hAccept).2.1]
        exact h.issued
      · rintro (⟨containerId, port⟩ | ⟨other, port⟩) hHere
        · unfold Daemon.holds at hHere
          dsimp only at hHere
          rw [hState] at hHere
          exact h.unheld (.forward containerId port) hHere
        · exact h.unheld (.task other port) hHere
      · dsimp only
        rw [hTrackers]
        exact h.subscribed
  | stop =>
      refine ⟨h.issued, ?_, h.waiting, h.subscribed⟩
      rintro (⟨containerId, port⟩ | ⟨other, port⟩) hHere
      · cases hHere
      · exact h.unheld (.task other port) hHere
  | @task id input after next hNext hHost =>
      obtain ⟨hCount, hPlaces⟩ := (nextHandler_custody hNext hHost (hBound id)).holds
      have hSignals := nextHandler_signals hNext
      refine ⟨lt_of_lt_of_le h.issued hCount, fun x hHere => ?_, fun other => ?_, fun other seen => ?_⟩
      · rcases hPlaces with ⟨origin, hOrigin, -⟩ | ⟨place, -, hOld⟩
        · exact h.unheld _ (hOrigin x n hHere)
        · rcases hOld x n hHere with hBefore | ⟨-, rfl⟩
          · exact h.unheld x hBefore
          · exact lt_irrefl _ h.issued
      · dsimp only
        by_cases hOther : other = id
        · subst hOther
          rw [Function.update_self]
          intro hWaiting
          rcases hSignals.waiting n hWaiting with hBefore | ⟨x, hHere⟩
          · exact h.waiting other hBefore
          · exact h.unheld x hHere
        · rw [Function.update_of_ne hOther]
          exact h.waiting other
      · dsimp only
        by_cases hOther : other = id
        · subst hOther
          rw [Function.update_self]
          intro hSubscribed
          rcases hSignals.subscribed n seen hSubscribed with hNew | hOld
          · exact absurd hNew.1 (h.waiting other)
          · exact (h.subscribed other seen hOld).imp_right (hSignals.keeps n)
        · rw [Function.update_of_ne hOther]
          exact fun hSubscribed => (h.subscribed other seen hSubscribed).imp_right (hSignals.keeps n)

/-- A drain that returns while nobody is about to subscribe retires the tracker. -/
theorem Daemon.DrainReturns.retired (hReturn : d.DrainReturns action n) (h : d.TrackersSound)
    (hBound : ∀ id, (d.tasks id).WellBound) (hStep : Daemon.step cfg d action = some d')
    (hWaiting : ∀ id, (d.tasks id).unsubscribed ≠ some n) : d'.Retired n := by
  obtain ⟨id, input, port, fstate, rfl, hDraining, rfl, hInput⟩ := hReturn
  cases (Daemon.step_cases hStep).2 with
  | @task id input after next hNext hHost =>
      have hHere : d.holds (.task id port) = some fstate.tracker := custody_of_draining hDraining
      have hCustody := nextHandler_custody hNext hHost (hBound id)
      have hSignals := nextHandler_signals hNext
      obtain ⟨hGone, hDrained⟩ := nextHandler_drained hNext hDraining hInput
      -- the signal has not been sent before, as the tracker was still in hand
      have hUnsent : (d.ctx.proxy.trackers fstate.tracker).cancelled = false := by
        by_contra hCancelled
        exact (h.cancelled _ (Bool.not_eq_false _ |>.mp hCancelled)).2 _ hHere
      refine ⟨lt_of_lt_of_le (h.issued _ _ hHere) hCustody.holds.1, hCustody.released h hDraining hGone,
        fun other => ?_, fun other seen => ?_⟩
      · dsimp only
        by_cases hOther : other = id
        · subst hOther
          rw [Function.update_self]
          rcases nextHandler_trackers hNext with ⟨-, -, -, hDetached⟩ | ⟨task, _, _, hTask, _⟩
          · rw [(Handler.of_tracker_none hDetached.client).2.1]
            exact fun hNever => nomatch hNever
          · rw [hTask] at hDraining
            cases hDraining
        · rw [Function.update_of_ne hOther]
          exact hWaiting other
      · dsimp only
        by_cases hOther : other = id
        · subst hOther
          rw [Function.update_self]
          intro hSubscribed
          rcases hSignals.subscribed _ seen hSubscribed with hNew | hOld
          · exact absurd hNew.1 (hWaiting other)
          · rw [(Handler.of_tracker_none (Handler.tracker_of_draining hDraining)).2.2] at hOld
            cases hOld
        · rw [Function.update_of_ne hOther]
          intro hSubscribed
          constructor
          · by_contra hSeen
            rw [Bool.not_eq_false _ |>.mp hSeen] at hSubscribed
            rw [h.subscribed other _ hSubscribed] at hUnsent
            cases hUnsent
          · refine hDrained.resolve_right fun hCount => ?_
            obtain ⟨ids, hIds, hCard⟩ := h.counted fstate.tracker
            have hMember := (hIds other).mpr (Handler.counted_of_subscribed hSubscribed)
            rw [hCount, Finset.card_eq_zero] at hCard
            rw [hCard] at hMember
            exact Finset.notMem_empty other hMember

/-- Once a drain has returned, every client handler that has the tracker is
done with it or is closed by the signal, in every state that follows, exactly
if no client handler is between its lookup and its subscription. -/
theorem teardown_releases_iff (hReach : Reachable (Daemon.step cfg) (Daemon.start cfg) d)
    (hStep : Daemon.step cfg d action = some d') (hReturn : d.DrainReturns action n) :
    (∀ later, Reachable (Daemon.step cfg) d' later → ∀ id, later.Released cfg n id) ↔
      ∀ id, (d.tasks id).unsubscribed ≠ some n := by
  obtain ⟨hBound, hSound⟩ := Daemon.reachable_trackersSound hReach
  constructor
  · intro hReleased id hWaiting
    obtain ⟨task, input, port, fstate, rfl, hDraining, rfl, -⟩ := hReturn
    have hOther : id ≠ task := by
      rintro rfl
      rw [(Handler.of_tracker_none (Handler.tracker_of_draining hDraining)).2.1] at hWaiting
      cases hWaiting
    cases (Daemon.step_cases hStep).2 with
    | task hNext hHost =>
        apply (hReleased _ (.refl _) id).1
        dsimp only
        rw [Function.update_of_ne hOther]
        exact hWaiting
  · intro hWaiting later hLater id
    have hRetired := hReturn.retired hSound hBound hStep hWaiting
    have hKept := hLater.invariant (fun d => (∀ id, (d.tasks id).WellBound) ∧ d.Retired n)
      ⟨Daemon.step_wellBound hStep hBound, hRetired⟩ fun middle action after hMiddle hNext =>
        ⟨Daemon.step_wellBound hNext hMiddle.1, hMiddle.2.step hMiddle.1 hNext⟩
    exact hKept.2.released id

/-- A container forwards a port and a client of it gets as far as its bridge,
or less far. -/
def bridgeSchedule (steps : Nat) : List Action :=
  let cstate := { HostState.newRegistration "h" 1 with forwards := Finmap.singleton 8080 onlyForward }
  let client : List Action :=
    clientSchedule 2 [⟨"c", cstate⟩] "x" ++ [.task 2 (.sent true), .task 2 .proceed]
  singleSchedule ++ client.take steps

/-- The container removes its forward, up to the drain. -/
def removeSchedule : List Action :=
  [.receive (.unforward 8080), .proceed, .proceed].map (.task 1)

/-- The drain of a bridged client times out. -/
theorem teardown_releases_iff_bridged :
    ∃ d d', exec (Daemon.step .basic) (Daemon.start .basic) (bridgeSchedule 7 ++ removeSchedule) = some d ∧
      Daemon.step .basic d (.task 1 (.drained [0])) = some d' ∧
      (d'.tasks 2).subscribed = some (0, false) ∧
      ∀ later, Reachable (Daemon.step .basic) d' later → ∀ id, later.Released .basic 0 id := by
  have hRun : (exec (Daemon.step .basic) (Daemon.start .basic) (bridgeSchedule 7 ++ removeSchedule)).any
      fun d => (d.tasks 1).draining.lookup 8080 == some onlyForward && (d.tasks 1).unsubscribed == none &&
        (d.tasks 2).unsubscribed == none &&
        (Daemon.step .basic d (.task 1 (.drained [0]))).any fun d' =>
          (d'.tasks 2).subscribed == some (0, false) := by
    decide
  obtain ⟨d, hExec, hState⟩ := (Option.any_eq_true _ _).mp hRun
  simp only [Bool.and_eq_true, beq_iff_eq] at hState
  obtain ⟨⟨⟨hDraining, hContainer⟩, hClient⟩, hStep⟩ := hState
  obtain ⟨d', hStep, hSubscribed⟩ := (Option.any_eq_true _ _).mp hStep
  have hWaiting : ∀ id, (d.tasks id).unsubscribed ≠ some 0 := by
    refine Daemon.exec_forall_tasks hExec (P := fun handler => handler.unsubscribed ≠ some 0)
      (fun hNever => (nomatch hNever)) fun id hId => ?_
    have hIds : id = 1 ∨ id = 2 := by
      have hTasks : ∀ id ∈ taskIds (bridgeSchedule 7 ++ removeSchedule), id = 1 ∨ id = 2 := by decide
      exact hTasks id hId
    rcases hIds with rfl | rfl
    · rw [hContainer]
      exact fun hNever => nomatch hNever
    · rw [hClient]
      exact fun hNever => nomatch hNever
  have hReturn : d.DrainReturns (.task 1 (.drained [0])) 0 :=
    ⟨1, .drained [0], 8080, onlyForward, rfl, hDraining, rfl, rfl⟩
  exact ⟨d, d', hExec, hStep, beq_iff_eq.mp hSubscribed,
    (teardown_releases_iff (reachable_of_exec hExec) hStep hReturn).mpr hWaiting⟩

/-- A client that has looked up its tracker goes on after the drain, and the
container opens the data connection for it. -/
def lateSteps : List Action :=
  [.proceed, .uuid "x", .sent true, .proceed].map (.task 2) ++
    [.connectData, .receive (.connectReady "x"), .proceed].map (.task 3)

/-- The drain finds nobody counted and returns at once, and the client is
bridged under a forward that is gone. No signal will ever end it. -/
theorem teardown_leaves_bridge :
    ∃ d d' later,
      exec (Daemon.step .basic) (Daemon.start .basic) (bridgeSchedule 3 ++ removeSchedule) = some d ∧
      Daemon.step .basic d (.task 1 (.drained [])) = some d' ∧ d.DrainReturns (.task 1 (.drained [])) 0 ∧
      Reachable (Daemon.step .basic) d' later ∧ later.ctx.state.forwardOf "c" 8080 = none ∧
      later.ctx.proxy.receivers 0 = .delivered ∧ (later.tasks 2).subscribed = some (0, false) ∧
      ¬later.Released .basic 0 2 := by
  have hRun : (exec (Daemon.step .basic) (Daemon.start .basic) (bridgeSchedule 3 ++ removeSchedule)).any
      fun d => (d.tasks 1).draining.lookup 8080 == some onlyForward &&
        (Daemon.step .basic d (.task 1 (.drained []))).any fun d' =>
          (exec (Daemon.step .basic) d' lateSteps).any fun later =>
            later.ctx.state.forwardOf "c" 8080 == none &&
              decide (later.ctx.proxy.receivers 0 = .delivered) &&
              (later.tasks 2).subscribed == some (0, false) &&
              (nextHandler .basic later.ctx (later.tasks 2) .cancelled).isNone := by
    decide
  obtain ⟨d, hExec, hState⟩ := (Option.any_eq_true _ _).mp hRun
  obtain ⟨hDraining, hStep⟩ := Bool.and_eq_true _ _ |>.mp hState
  obtain ⟨d', hStep, hLater⟩ := (Option.any_eq_true _ _).mp hStep
  obtain ⟨later, hLater, hEnd⟩ := (Option.any_eq_true _ _).mp hLater
  simp only [Bool.and_eq_true, beq_iff_eq, decide_eq_true_eq, Option.isNone_iff_eq_none] at hEnd
  obtain ⟨⟨⟨hForward, hDelivered⟩, hSubscribed⟩, hNone⟩ := hEnd
  refine ⟨d, d', later, hExec, hStep, ⟨1, .drained [], 8080, onlyForward, rfl, beq_iff_eq.mp hDraining, rfl, rfl⟩,
    reachable_of_exec hLater, hForward, hDelivered, hSubscribed, fun hReleased => ?_⟩
  obtain ⟨ctx, route, hClosed⟩ := hReleased.2 false hSubscribed
  rw [hNone] at hClosed
  cases hClosed

end DevcontainerBridge
