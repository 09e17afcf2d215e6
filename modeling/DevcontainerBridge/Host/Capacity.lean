import DevcontainerBridge.Host.Reservation
import DevcontainerBridge.Transition.Admission

/-! The limits on containers and on forwards per container. Both are checked
in an earlier critical section than the insertion that they guard. -/
namespace DevcontainerBridge

open Table Transition

/-- At most `maxContainers` containers are registered, each with at most
`maxForwardsPerContainer` forwards. -/
structure HostState.Capped (s : HostState) : Prop where
  containers : s.containers.keys.card ≤ maxContainers
  forwards : ∀ containerId cstate, s.containers.lookup containerId = some cstate →
    cstate.forwards.keys.card ≤ maxForwardsPerContainer

/-- The id of a Register that is past its check and before its insertion. -/
def Handler.idPending : Handler → Option String
  | .registerBrowser containerId _ _ | .registerDrain containerId _ _ | .registerAck containerId _
  | .registerEpoch containerId _ | .registerInsert containerId _ _ => some containerId
  | _ => none

/-- The port of a Forward for a container id that is past its check and before
its last insertion. -/
def Handler.portPending (containerId : String) : Handler → Option UInt16
  | .forwardDrain owner _ request _ | .forwardReserve owner _ request _
  | .forwardBind owner _ request _ _ | .forwardInsert owner _ request _ _ _ _ =>
      if owner = containerId then some request.port else none
  | _ => none

namespace HostState

variable {s state : HostState} {containerId other : String} {port q : UInt16}

def registeredIds (s : HostState) : Set String :=
  {containerId | containerId ∈ s.containers}

def forwardedPorts (s : HostState) (containerId : String) : Set UInt16 :=
  {port | (s.forwardOf containerId port).isSome}

theorem encard_registeredIds (s : HostState) : s.registeredIds.encard = s.containers.keys.card := by
  have hKeys : s.registeredIds = (s.containers.keys : Set String) := by
    ext containerId
    simp [registeredIds, Finmap.mem_keys]
  rw [hKeys, Set.encard_coe_eq_coe_finsetCard]

theorem encard_forwardedPorts {cstate : ContainerState}
    (hContainer : s.containers.lookup containerId = some cstate) :
    (s.forwardedPorts containerId).encard = cstate.forwards.keys.card := by
  have hKeys : s.forwardedPorts containerId = (cstate.forwards.keys : Set UInt16) := by
    ext port
    simp [forwardedPorts, forwardOf, hContainer, Finmap.mem_keys, Finmap.lookup_isSome]
  rw [hKeys, Set.encard_coe_eq_coe_finsetCard]

theorem forwardedPorts_unregistered (hContainer : s.containers.lookup containerId = none) :
    s.forwardedPorts containerId = ∅ := by
  ext port
  simp [forwardedPorts, forwardOf, hContainer]

/-- What a Register that is not refused has checked. -/
theorem removeStale_check {old : Option Forwards} (h : s.removeStale containerId = some (state, old)) :
    containerId ∈ s.registeredIds ∨ s.registeredIds.encard < maxContainers := by
  unfold removeStale at h
  split at h
  case h_1 =>
    split_ifs at h with hFull
    rw [encard_registeredIds]
    exact .inr (by exact_mod_cast Nat.lt_of_not_le hFull)
  case h_2 cstate hContainer => exact .inl (Finmap.mem_of_lookup_eq_some hContainer)

/-- What a Forward that is not refused has checked. A container that is gone
has no forwards. -/
theorem takeForward_check {old : Option ForwardState} (h : s.takeForward containerId port = some (state, old)) :
    port ∈ s.forwardedPorts containerId ∨
      (s.forwardedPorts containerId).encard < maxForwardsPerContainer := by
  unfold takeForward at h
  split at h
  case h_1 hContainer =>
    rw [forwardedPorts_unregistered hContainer, Set.encard_empty]
    exact .inr (by decide)
  case h_2 cstate hContainer =>
    split_ifs at h with hFull
    rw [encard_forwardedPorts hContainer]
    by_cases hPort : port ∈ cstate.forwards
    · left
      simpa [forwardedPorts, forwardOf, hContainer] using Finmap.lookup_isSome.mpr hPort
    · right
      have hRoom : cstate.forwards.keys.card < maxForwardsPerContainer :=
        Nat.lt_of_not_le fun hLimit => hFull ⟨hLimit, hPort⟩
      exact_mod_cast hRoom

theorem mem_containers_of_removeForward (h : other ∈ (s.removeForward containerId port).1.containers) :
    other ∈ s.containers := by
  unfold removeForward at h
  split at h
  case h_1 => exact h
  case h_2 cstate hContainer =>
    split at h
    case h_1 => exact h
    case h_2 =>
      rcases Finmap.mem_insert.mp h with rfl | hOther
      · exact Finmap.mem_of_lookup_eq_some hContainer
      · exact hOther

theorem mem_containers_of_insertForward {targetPort : UInt16} {fstate : ForwardState}
    (h : other ∈ (s.insertForward containerId port targetPort fstate).1.containers) :
    other ∈ s.containers := by
  unfold insertForward at h
  split at h
  case h_1 cstate hContainer =>
    have hInserted : other ∈ s.containers.insert containerId
        { cstate with forwards := cstate.forwards.insert port fstate } := by
      dsimp only at h
      split_ifs at h <;> exact h
    rcases Finmap.mem_insert.mp hInserted with rfl | hOther
    · exact Finmap.mem_of_lookup_eq_some hContainer
    · exact hOther
  case h_2 => exact h

/-- The last insertion of a Forward adds its own port at most. -/
theorem forwardOf_of_insertForward {targetPort : UInt16} {fstate : ForwardState}
    (h : ((s.insertForward containerId port targetPort fstate).1.forwardOf other q).isSome) :
    (s.forwardOf other q).isSome ∨ other = containerId ∧ q = port := by
  unfold insertForward at h
  split at h
  case h_1 cstate hContainer =>
    by_cases hHere : other = containerId ∧ q = port
    · exact .inr hHere
    · left
      have hSet := forwardOf_setForward hContainer port q fstate other
      rw [if_neg hHere] at hSet
      rw [← hSet]
      dsimp only at h
      split_ifs at h <;> exact h
  case h_2 => exact .inl h

end HostState

variable {cfg : HostConfig} {d d' : Daemon} {trace : List (Daemon × Action)}
  {ctx after : DaemonContext} {handler next : Handler} {input : Input} {containerId : String}

/-- A step registers no id but the one that its task was about to insert. -/
theorem HostStep.registeredIds_cases (hStep : HostStep ctx handler after next)
    (h : containerId ∈ after.state.registeredIds) :
    containerId ∈ ctx.state.registeredIds ∨ handler.idPending = some containerId := by
  cases hStep with
  | quiet _ _ hSame =>
      rw [HostState.registeredIds, hSame.containers] at h
      exact .inl h
  | advance _ hSame =>
      rw [HostState.registeredIds, hSame.containers] at h
      exact .inl h
  | registerRemove hRemove =>
      obtain ⟨cstate, -, -, rfl⟩ := HostState.removeStale_some hRemove
      exact .inl (Finmap.mem_erase.mp h).2
  | cleanup hTake =>
      obtain ⟨cstate, -, -, -, rfl⟩ := HostState.takeContainer_some hTake
      exact .inl (Finmap.mem_erase.mp h).2
  | registerInsert =>
      rcases Finmap.mem_insert.mp h with rfl | hOld
      · exact .inr rfl
      · exact .inl hOld
  | forwardTake => exact .inl (HostState.mem_containers_of_removeForward h)
  | unforwardRemove => exact .inl (HostState.mem_containers_of_removeForward h)
  | unforwardGlobal => exact .inl (HostState.mem_containers_of_removeForward h)
  | forwardInsert => exact .inl (HostState.mem_containers_of_insertForward h)
  | forwardGone _ hState _ =>
      rw [hState] at h
      exact .inl h
  | _ => exact .inl h

/-- A step forwards no port but the one that its task was about to insert. -/
theorem HostStep.forwardedPorts_cases {port : UInt16} (hStep : HostStep ctx handler after next)
    (h : port ∈ after.state.forwardedPorts containerId) :
    port ∈ ctx.state.forwardedPorts containerId ∨ handler.portPending containerId = some port := by
  obtain ⟨fstate, hForward⟩ := Option.isSome_iff_exists.mp h
  have hOld : ctx.state.forwardOf containerId port = some fstate →
      port ∈ ctx.state.forwardedPorts containerId := fun hSome => by
    rw [HostState.forwardedPorts, Set.mem_ofPred_eq, hSome]
    rfl
  cases hStep with
  | quiet _ _ hSame =>
      rw [HostState.forwardOf_congr hSame.containers] at hForward
      exact .inl (hOld hForward)
  | advance _ hSame =>
      rw [HostState.forwardOf_congr hSame.containers] at hForward
      exact .inl (hOld hForward)
  | registerRemove hRemove =>
      obtain ⟨cstate, -, -, rfl⟩ := HostState.removeStale_some hRemove
      exact .inl (hOld (HostState.forwardOf_of_removeContainer hForward))
  | cleanup hTake =>
      obtain ⟨cstate, -, -, -, rfl⟩ := HostState.takeContainer_some hTake
      exact .inl (hOld (HostState.forwardOf_of_removeContainer hForward))
  | registerInsert =>
      rw [HostState.forwardOf_insertContainer] at hForward
      split_ifs at hForward
      exact .inl (hOld hForward)
  | forwardTake => exact .inl (hOld (HostState.forwardOf_of_removeForward hForward))
  | unforwardRemove => exact .inl (hOld (HostState.forwardOf_of_removeForward hForward))
  | unforwardGlobal => exact .inl (hOld (HostState.forwardOf_of_removeForward hForward))
  | forwardInsert =>
      rcases HostState.forwardOf_of_insertForward h with hBefore | ⟨rfl, rfl⟩
      · exact .inl hBefore
      · exact .inr (if_pos rfl)
  | forwardGone _ hState _ =>
      rw [hState] at hForward
      exact .inl (hOld hForward)
  | _ => exact .inl (hOld hForward)

/-- How a task comes into the window between check and insertion. -/
inductive WindowMove (s : HostState) : Handler → Handler → Prop where
  | ended {handler next : Handler} (hId : next.idPending = none)
      (hPort : ∀ containerId, next.portPending containerId = none) : WindowMove s handler next
  | kept {handler next : Handler} (hId : next.idPending = handler.idPending)
      (hPort : ∀ containerId, next.portPending containerId = handler.portPending containerId) :
      WindowMove s handler next
  | registers {containerId hostname : String} {next : Handler}
      (hCheck : containerId ∈ s.registeredIds ∨ s.registeredIds.encard < maxContainers)
      (hId : next.idPending = some containerId) (hPort : ∀ other, next.portPending other = none) :
      WindowMove s (.registerRemove containerId hostname) next
  | forwards {containerId : String} {registrationId : Nat} {request : ForwardRequest} {next : Handler}
      (hCheck : request.port ∈ s.forwardedPorts containerId ∨
        (s.forwardedPorts containerId).encard < maxForwardsPerContainer)
      (hId : next.idPending = none)
      (hPort : ∀ other, next.portPending other = if containerId = other then some request.port else none) :
      WindowMove s (.forwardTake containerId registrationId request) next

namespace WindowMove

variable {s : HostState}

theorem idPending (h : WindowMove s handler next) :
    Admission maxContainers s.registeredIds handler.idPending next.idPending := by
  cases h with
  | ended hId _ => exact hId ▸ .ended
  | kept hId _ => exact hId ▸ .kept
  | registers hCheck hId _ => exact hId ▸ .passed hCheck
  | forwards _ hId _ => exact hId ▸ .ended

theorem portPending (h : WindowMove s handler next) (containerId : String) :
    Admission maxForwardsPerContainer (s.forwardedPorts containerId) (handler.portPending containerId)
      (next.portPending containerId) := by
  cases h with
  | ended _ hPort => exact hPort containerId ▸ .ended
  | kept _ hPort => exact hPort containerId ▸ .kept
  | registers _ _ hPort => exact hPort containerId ▸ .ended
  | @forwards owner _ _ _ hCheck _ hPort =>
      rw [hPort containerId]
      split_ifs with hOwner
      · exact .passed (hOwner ▸ hCheck)
      · exact .ended

/-- An id that has become pending was at its check before. -/
theorem registerRemove_of_idPending (h : WindowMove s handler next)
    (hNext : next.idPending = some containerId) (hBefore : handler.idPending ≠ some containerId) :
    ∃ hostname, handler = .registerRemove containerId hostname := by
  cases h with
  | ended hId _ => simp [hId] at hNext
  | kept hId _ => exact absurd (hId.symm.trans hNext) hBefore
  | registers _ hId _ =>
      cases hId.symm.trans hNext
      exact ⟨_, rfl⟩
  | forwards _ hId _ => simp [hId] at hNext

/-- A port that has become pending was at its check before. -/
theorem forwardTake_of_portPending {port : UInt16} (h : WindowMove s handler next)
    (hNext : next.portPending containerId = some port)
    (hBefore : handler.portPending containerId ≠ some port) :
    ∃ registrationId request, handler = .forwardTake containerId registrationId request ∧
      request.port = port := by
  cases h with
  | ended _ hPort => simp [hPort] at hNext
  | kept _ hPort => exact absurd ((hPort containerId).symm.trans hNext) hBefore
  | registers _ _ hPort => simp [hPort] at hNext
  | forwards _ _ hPort =>
      rw [hPort] at hNext
      split_ifs at hNext with hOwner
      exact ⟨_, _, by rw [hOwner], Option.some.inj hNext⟩

end WindowMove

theorem dispatchFirst_window (message : Message) :
    WindowMove ctx.state handler (dispatchFirst cfg message) := by
  have hOutside : (dispatchFirst cfg message).idPending = none ∧
      ∀ containerId, (dispatchFirst cfg message).portPending containerId = none := by
    cases message <;> unfold dispatchFirst <;> dsimp only <;> (try split_ifs) <;> exact ⟨rfl, fun _ => rfl⟩
  exact .ended hOutside.1 hOutside.2

theorem dispatchContainer_window {registrationId : Nat} (message : Message) :
    WindowMove ctx.state handler (dispatchContainer cfg containerId registrationId message) := by
  have hOutside : (dispatchContainer cfg containerId registrationId message).idPending = none ∧
      ∀ other, (dispatchContainer cfg containerId registrationId message).portPending other = none := by
    cases message <;> unfold dispatchContainer <;> dsimp only <;> (try split_ifs) <;>
      exact ⟨rfl, fun _ => rfl⟩
  exact .ended hOutside.1 hOutside.2

theorem nextRegister_window (h : nextRegister cfg ctx handler input = some (after, next)) :
    WindowMove ctx.state handler next := by
  cases nextRegister_cases h with
  | dispatched message => exact dispatchFirst_window message
  | unknown hStale => exact .registers (HostState.removeStale_check hStale) rfl fun _ => rfl
  | stale hStale => exact .registers (HostState.removeStale_check hStale) rfl fun _ => rfl
  | _ => first | exact .ended rfl fun _ => rfl | exact .kept rfl fun _ => rfl

theorem nextForward_window (h : nextForward ctx handler input = some (after, next)) :
    WindowMove ctx.state handler next := by
  cases nextForward_cases h with
  | taken hTake => exact .forwards (HostState.takeForward_check hTake) rfl fun _ => rfl
  | replaced hTake => exact .forwards (HostState.takeForward_check hTake) rfl fun _ => rfl
  | _ => first | exact .ended rfl fun _ => rfl | exact .kept rfl fun _ => rfl

/-- A task comes into the window by passing its check. -/
theorem nextHandler_window (h : nextHandler cfg ctx handler input = some (after, next)) :
    WindowMove ctx.state handler next := by
  unfold nextHandler at h
  split at h
  case h_1 => cases nextIdle_cases h <;> exact .ended rfl fun _ => rfl
  case h_2 => cases h
  case h_3 =>
    obtain ⟨_, _, hPair⟩ := Option.map_eq_some_iff.mp h
    cases hPair
    exact .ended rfl fun _ => rfl
  all_goals first
    | exact nextRegister_window h
    | exact nextForward_window h
    | cases nextUnforward_cases h <;> exact .ended rfl fun _ => rfl
    | cases nextServing_cases h <;>
        first | exact dispatchContainer_window _ | exact .ended rfl fun _ => rfl
    | cases nextAuxiliary_cases h <;> exact .ended rfl fun _ => rfl
    | cases nextScanner_cases h <;> exact .ended rfl fun _ => rfl

/-- Where a Register or a Forward passes its check while another one is between
check and insertion, the ids or ports entered or about to be leave room. -/
def Daemon.OverlapsFit (d : Daemon) : Action → Prop
  | .task id _ =>
      match d.tasks id with
      | .registerRemove containerId _ =>
          OverlapFits maxContainers d.ctx.state.registeredIds (fun task => (d.tasks task).idPending)
            containerId
      | .forwardTake containerId _ request =>
          OverlapFits maxForwardsPerContainer (d.ctx.state.forwardedPorts containerId)
            (fun task => (d.tasks task).portPending containerId) request.port
      | _ => True
  | _ => True

/-- The limits hold of what is entered and of what is about to be, together. -/
structure Daemon.Fits (d : Daemon) : Prop where
  containers : (committed d.ctx.state.registeredIds fun task => (d.tasks task).idPending).encard ≤
    maxContainers
  forwards : ∀ containerId, (committed (d.ctx.state.forwardedPorts containerId)
    fun task => (d.tasks task).portPending containerId).encard ≤ maxForwardsPerContainer

theorem Daemon.Fits.capped (h : d.Fits) : d.ctx.state.Capped := by
  constructor
  · have hEntered := (Set.encard_le_encard fun _ hKey => Or.inl hKey).trans h.containers
    rw [HostState.encard_registeredIds] at hEntered
    exact_mod_cast hEntered
  · intro containerId cstate hContainer
    have hEntered := (Set.encard_le_encard fun _ hKey => Or.inl hKey).trans (h.forwards containerId)
    rw [HostState.encard_forwardedPorts hContainer] at hEntered
    exact_mod_cast hEntered

theorem Daemon.start_fits : (Daemon.start cfg).Fits := by
  have hOutside : ∀ task, ((Daemon.start cfg).tasks task).idPending = none ∧
      ∀ containerId, ((Daemon.start cfg).tasks task).portPending containerId = none := by
    intro task
    unfold Daemon.start
    dsimp only
    split_ifs <;> exact ⟨rfl, fun _ => rfl⟩
  constructor
  · rw [committed_of_pending_none fun task => (hOutside task).1, HostState.encard_registeredIds]
    exact zero_le
  · intro containerId
    rw [committed_of_pending_none fun task => (hOutside task).2 containerId,
      HostState.forwardedPorts_unregistered rfl, Set.encard_empty]
    exact zero_le

/-- One step keeps the limits over what is entered and about to be. -/
theorem Daemon.step_fits {action : Action} (hStep : Daemon.step cfg d action = some d')
    (h : d.Fits) (hOverlaps : d.OverlapsFit action) : d'.Fits := by
  cases (Daemon.step_cases hStep).2 with
  | clientConnects _ hState _ =>
      constructor
      · rw [hState]
        exact h.containers
      · intro containerId
        rw [hState]
        exact h.forwards containerId
  | stop =>
      have hEmpty : d.ctx.drainAll.state.containers = ∅ := rfl
      constructor
      · refine (Set.encard_le_encard fun containerId hKey => ?_).trans h.containers
        refine hKey.imp_left fun hEntered => ?_
        rw [HostState.registeredIds, Set.mem_ofPred_eq, hEmpty] at hEntered
        exact absurd hEntered Finmap.notMem_empty
      · intro containerId
        refine (Set.encard_le_encard fun port hKey => ?_).trans (h.forwards containerId)
        refine hKey.imp_left fun hEntered => ?_
        rw [HostState.forwardedPorts_unregistered (by rw [hEmpty]; rfl)] at hEntered
        exact absurd hEntered (Set.notMem_empty port)
  | @task id input after next hNext hTask =>
      have hWindow := nextHandler_window hNext
      have hPending {Key : Type} (pendingOf : Handler → Option Key) :
          (fun task => pendingOf (Function.update d.tasks id next task)) =
            Function.update (fun task => pendingOf (d.tasks task)) id (pendingOf next) :=
        funext fun task => Function.apply_update (fun _ => pendingOf) d.tasks id next task
      constructor
      · simp only [hPending Handler.idPending]
        refine committed_step h.containers (fun _ hKey => hTask.registeredIds_cases hKey) hWindow.idPending ?_
        intro containerId hNew hBefore
        obtain ⟨hostname, hHere⟩ := hWindow.registerRemove_of_idPending hNew hBefore
        simpa only [Daemon.OverlapsFit, hHere] using hOverlaps
      · intro containerId
        simp only [hPending (Handler.portPending containerId)]
        refine committed_step (h.forwards containerId) (fun _ hKey => hTask.forwardedPorts_cases hKey)
          (hWindow.portPending containerId) ?_
        intro port hNew hBefore
        obtain ⟨registrationId, request, hHere, rfl⟩ := hWindow.forwardTake_of_portPending hNew hBefore
        simpa only [Daemon.OverlapsFit, hHere] using hOverlaps

/-- The limits hold in every state of a run in which every check that passes
while another operation is on its way leaves room for that one too. Where no
two operations overlap the checks do the work by themselves. -/
theorem capped_of_overlapsFit (run : Run (Daemon.step cfg) (Daemon.start cfg) trace d)
    (hOverlaps : Guarded Daemon.OverlapsFit trace) :
    Throughout (fun d => d.ctx.state.Capped) trace d := by
  have hFits : Throughout Daemon.Fits trace d :=
    run.throughout hOverlaps Daemon.start_fits fun _ _ _ h hOverlap hStep => Daemon.step_fits hStep h hOverlap
  exact ⟨fun entry hEntry => (hFits.1 entry hEntry).capped, hFits.2.capped⟩

/-- There is room for as many more entries as there are tasks. -/
def Daemon.uncrowded (ids : Finset Nat) (d : Daemon) : Bool :=
  decide (d.ctx.state.containers.keys.card + ids.card < maxContainers) &&
    !d.ctx.state.containers.any fun _ cstate =>
      decide (maxForwardsPerContainer ≤ cstate.forwards.keys.card + ids.card)

theorem Daemon.overlapsFit_of_uncrowded {ids : Finset Nat} {action : Action}
    (hOthers : ∀ other ∉ ids, (d.tasks other).idPending = none ∧
      ∀ containerId, (d.tasks other).portPending containerId = none)
    (h : d.uncrowded ids = true) : d.OverlapsFit action := by
  simp only [Daemon.uncrowded, Bool.and_eq_true, decide_eq_true_eq, Bool.not_eq_true'] at h
  obtain ⟨hContainers, hForwards⟩ := h
  unfold Daemon.OverlapsFit
  split
  case h_1 id input =>
    split
    case h_1 =>
      refine overlapFits_of_few (fun other hOther => (hOthers other hOther).1) ?_
      rw [HostState.encard_registeredIds]
      exact_mod_cast hContainers
    case h_2 containerId registrationId request _ =>
      refine overlapFits_of_few (fun other hOther => (hOthers other hOther).2 containerId) ?_
      cases hContainer : d.ctx.state.containers.lookup containerId with
      | none =>
          rw [HostState.forwardedPorts_unregistered hContainer, Set.encard_empty, zero_add]
          have hLimits : maxContainers ≤ maxForwardsPerContainer := by decide
          exact_mod_cast (by omega : ids.card < maxForwardsPerContainer)
      | some cstate =>
          rw [HostState.encard_forwardedPorts hContainer]
          have hFew : ¬maxForwardsPerContainer ≤ cstate.forwards.keys.card + ids.card := by
            intro hMany
            refine Bool.false_ne_true (hForwards.symm.trans ((any_iff _ _).mpr ?_))
            exact ⟨containerId, cstate, hContainer, decide_eq_true hMany⟩
          exact_mod_cast Nat.lt_of_not_le hFew
    case h_3 => trivial
  case h_2 => trivial

/-- The Registers of two containers overlap. One of them registers again from
a third connection while a Forward of the other one is between its check and
its insertion, and there a second Forward overlaps with the first. -/
def overlapsSchedule : List Action :=
  announceSchedule 1 "a" "h" "" ++ announceSchedule 2 "b" "h" "" ++ enterSchedule 1 ++ enterSchedule 2
    ++ (forwardSchedule 1 8080 8080).take 5 ++ reannounceSchedule 3 "a" "h" "" ++ enterSchedule 3
    ++ forwardSchedule 3 9090 9090 ++ (forwardSchedule 1 8080 8080).drop 5

/-- The limits on the run in which operations overlap. -/
theorem capped_of_overlapsFit_two_containers :
    ∃ trace finish, trace.map Prod.snd = overlapsSchedule ∧
      Run (Daemon.step .basic) (Daemon.start .basic) trace finish ∧
      (finish.ctx.state.forwardOf "a" 8080).isSome = true ∧
      (finish.ctx.state.forwardOf "a" 9090).isSome = true ∧ "b" ∈ finish.ctx.state.containers ∧
      Throughout (fun d => d.ctx.state.Capped) trace finish := by
  have hRun : (execWhile (Daemon.step .basic) (fun d _ => d.uncrowded {1, 2, 3}) (Daemon.start .basic)
      overlapsSchedule).any fun finish =>
        (finish.ctx.state.forwardOf "a" 8080).isSome && (finish.ctx.state.forwardOf "a" 9090).isSome &&
          decide ("b" ∈ finish.ctx.state.containers) := by
    decide
  obtain ⟨finish, hExec, hEnd⟩ := (Option.any_eq_true _ _).mp hRun
  simp only [Bool.and_eq_true, decide_eq_true_eq] at hEnd
  obtain ⟨trace, hActions, run, hGuard⟩ := run_of_execWhile hExec
  have hTasks : ∀ entry ∈ trace, ∀ id ∈ entry.2.task?, id ∈ [1, 2, 3] := by
    intro entry hEntry
    have hAll : ∀ action ∈ overlapsSchedule, ∀ id ∈ action.task?, id ∈ [1, 2, 3] := by
      simp [overlapsSchedule, announceSchedule, reannounceSchedule, enterSchedule, forwardSchedule, Action.task?]
    exact hAll entry.2 (hActions ▸ List.mem_map_of_mem hEntry)
  have hIdle := Daemon.tasks_unmentioned run hTasks
  have hOverlaps : Guarded Daemon.OverlapsFit trace := by
    intro entry hEntry
    refine Daemon.overlapsFit_of_uncrowded (fun other hOther => ?_) (hGuard entry hEntry)
    rw [hIdle.1 entry hEntry other (by simpa using hOther)]
    exact ⟨rfl, fun _ => rfl⟩
  exact ⟨trace, finish, hActions, run, hEnd.1.1, hEnd.1.2, hEnd.2, capped_of_overlapsFit run hOverlaps⟩

theorem repeatedId_injective : Function.Injective repeatedId := by
  intro left right hEq
  have hLists := congrArg String.toList hEq
  simp only [repeatedId, String.toList_ofList] at hLists
  simpa using congrArg List.length hLists

theorem utf8ByteSize_repeatedId (length : Nat) : (repeatedId length).utf8ByteSize = length := by
  induction length with
  | zero => rfl
  | succ length ih =>
      have hChar : 'a'.utf8Size = 1 := rfl
      unfold repeatedId at ih ⊢
      rw [List.replicate_succ, String.ofList_cons, String.utf8ByteSize_append,
        String.utf8ByteSize_singleton, ih, hChar]
      omega

theorem isValidIdentifier_repeatedId {length : Nat} (hPositive : 0 < length)
    (hBound : length ≤ maxIdentifierLength) :
    isValidIdentifier .asciiOnly (repeatedId length) = true := by
  have hSize := utf8ByteSize_repeatedId length
  have hNonempty : (repeatedId length).isEmpty = false := by
    simp [String.isEmpty, hSize]
    omega
  have hChars : ∀ c ∈ (repeatedId length).toList, UnicodeTables.asciiOnly.isAlphanumeric c = true := by
    intro c hChar
    simp only [repeatedId, String.toList_ofList, List.mem_replicate] at hChar
    rw [hChar.2]
    rfl
  simp only [isValidIdentifier, hSize, hNonempty, hBound]
  simpa using fun c hChar => .inl (.inl (.inl (hChars c hChar)))

/-- An accepted Register that finds its id free waits for its insertion. -/
theorem exec_announceSchedule {task : Nat} {containerId hostname : String}
    (hRunning : d.running = true) (hIdle : d.tasks task = .idle)
    (hId : isValidIdentifier .asciiOnly containerId = true)
    (hHost : isValidIdentifier .asciiOnly hostname = true)
    (hFree : d.ctx.state.containers.lookup containerId = none)
    (hRoom : d.ctx.state.containers.keys.card < maxContainers) :
    ∃ finish, exec (Daemon.step .basic) d (announceSchedule task containerId hostname "") = some finish ∧
      finish.running = true ∧ finish.ctx.state = d.ctx.state ∧
      finish.tasks = Function.update d.tasks task
        (.registerInsert containerId hostname d.ctx.nextRegistrationId) := by
  have hNotFull : ¬d.ctx.state.containers.keys.card ≥ maxContainers := by omega
  simp [announceSchedule, exec, Daemon.step, hRunning, hIdle, nextHandler, nextIdle, nextRegister,
    dispatchFirst, hId, hHost, HostConfig.basic, HostConfig.accepts, HostState.removeStale, hFree, hNotFull]

/-- A waiting registration is inserted whatever else has been inserted since. -/
theorem exec_enterSchedule {task registrationId : Nat} {containerId hostname : String}
    (hRunning : d.running = true)
    (hWaiting : d.tasks task = .registerInsert containerId hostname registrationId) :
    ∃ finish, exec (Daemon.step .basic) d (enterSchedule task) = some finish ∧
      finish.running = true ∧
      finish.ctx.state = d.ctx.state.insertContainer containerId hostname registrationId ∧
      finish.tasks = Function.update d.tasks task (.serving containerId registrationId) := by
  simp [enterSchedule, exec, Daemon.step, hRunning, hWaiting, nextHandler, nextRegister]

/-- Any number of connections pass the check while nobody is registered. -/
theorem exec_crowd_announced {size : Nat} (hSize : size ≤ maxIdentifierLength) :
    ∃ d, exec (Daemon.step .basic) (Daemon.start .basic)
        ((List.range size).flatMap fun task => announceSchedule task (repeatedId (task + 1)) "h" "") =
          some d ∧
      d.running = true ∧ d.ctx.state = HostState.new ∧
      (∀ task < size, ∃ registrationId,
        d.tasks task = .registerInsert (repeatedId (task + 1)) "h" registrationId) ∧
      ∀ task, size ≤ task → d.tasks task = .idle := by
  induction size with
  | zero => exact ⟨_, rfl, rfl, rfl, by simp, by simp [Daemon.start, HostConfig.basic]⟩
  | succ size ih =>
      obtain ⟨d, hExec, hRunning, hState, hWaiting, hIdle⟩ := ih (by omega)
      have hValid : isValidIdentifier .asciiOnly (repeatedId (size + 1)) = true :=
        isValidIdentifier_repeatedId (by omega) hSize
      have hHost : isValidIdentifier .asciiOnly "h" = true := by decide
      obtain ⟨finish, hLast, hRunning', hState', hTasks⟩ :=
        exec_announceSchedule hRunning (hIdle size le_rfl) hValid hHost (by rw [hState]; rfl)
          (by rw [hState]; decide)
      refine ⟨finish, ?_, hRunning', hState'.trans hState, ?_, ?_⟩
      · rw [List.range_succ, List.flatMap_append]
        exact exec_append.mpr ⟨d, hExec, by simpa using hLast⟩
      · intro task hTask
        by_cases hHere : task = size
        · subst hHere
          exact ⟨_, by rw [hTasks, Function.update_self]⟩
        · rw [hTasks, Function.update_of_ne hHere]
          exact hWaiting task (by omega)
      · intro task hTask
        rw [hTasks, Function.update_of_ne (by omega)]
        exact hIdle task (by omega)

/-- All waiting registrations with different ids are inserted. -/
theorem exec_crowd_entered {size : Nat} (hRunning : d.running = true) (hState : d.ctx.state = HostState.new)
    (hWaiting : ∀ task < size, ∃ registrationId,
      d.tasks task = .registerInsert (repeatedId (task + 1)) "h" registrationId) :
    ∃ finish, exec (Daemon.step .basic) d ((List.range size).flatMap enterSchedule) = some finish ∧
      finish.ctx.state.containers.keys.card = size ∧
      ∀ task, size ≤ task → finish.ctx.state.containers.lookup (repeatedId (task + 1)) = none := by
  have hPrefix : ∀ count ≤ size, ∃ finish,
      exec (Daemon.step .basic) d ((List.range count).flatMap enterSchedule) = some finish ∧
      finish.running = true ∧ finish.ctx.state.containers.keys.card = count ∧
      (∀ task, count ≤ task → finish.ctx.state.containers.lookup (repeatedId (task + 1)) = none) ∧
      ∀ task, count ≤ task → finish.tasks task = d.tasks task := by
    intro count
    induction count with
    | zero =>
        intro _
        refine ⟨d, rfl, hRunning, by rw [hState]; rfl, fun task _ => by rw [hState]; rfl, ?_⟩
        exact fun _ _ => rfl
    | succ count ih =>
        intro hCount
        obtain ⟨middle, hExec, hRunning', hCard, hFree, hTasks⟩ := ih (by omega)
        obtain ⟨registrationId, hTask⟩ := hWaiting count (by omega)
        obtain ⟨finish, hLast, hRunning'', hInserted, hUpdated⟩ :=
          exec_enterSchedule hRunning' ((hTasks count le_rfl).trans hTask)
        refine ⟨finish, ?_, hRunning'', ?_, ?_, ?_⟩
        · rw [List.range_succ, List.flatMap_append]
          exact exec_append.mpr ⟨middle, hExec, by simpa using hLast⟩
        · rw [hInserted]
          simp only [HostState.insertContainer, HostState.setContainer]
          rw [card_keys_insert_of_notMem _ _ _ (hFree count le_rfl), hCard]
        · intro task hLater
          rw [hInserted]
          have hOther : repeatedId (task + 1) ≠ repeatedId (count + 1) :=
            fun hEq => absurd (repeatedId_injective hEq) (by omega)
          simpa [HostState.insertContainer, HostState.setContainer, hOther] using hFree task (by omega)
        · intro task hLater
          rw [hUpdated, Function.update_of_ne (by omega)]
          exact hTasks task (by omega)
  obtain ⟨finish, hExec, _, hCard, hFree, _⟩ := hPrefix size le_rfl
  exact ⟨finish, hExec, hCard, hFree⟩

/-- The container limit does not hold: when sixty-five connections pass the
check before the first of them inserts, all of them are registered. -/
theorem capped_fails_for_crowd :
    ∃ d, exec (Daemon.step .basic) (Daemon.start .basic) (crowdSchedule 65) = some d ∧
      d.ctx.state.containers.keys.card = 65 ∧ ¬d.ctx.state.Capped := by
  obtain ⟨d, hExec, hRunning, hState, hWaiting, _⟩ := exec_crowd_announced (by decide : 65 ≤ _)
  obtain ⟨finish, hLast, hCard, -⟩ := exec_crowd_entered hRunning hState hWaiting
  refine ⟨finish, exec_append.mpr ⟨d, hExec, hLast⟩, hCard, fun hCapped => ?_⟩
  have hBound := hCapped.containers
  rw [hCard] at hBound
  exact absurd hBound (by decide)

end DevcontainerBridge
