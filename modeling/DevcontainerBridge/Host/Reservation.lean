import DevcontainerBridge.Host.Steps
import DevcontainerBridge.Ledger.Book

/-! Host ports as exclusive resources. The holders are the live forwards and
the Forward handlers that have reserved a port; `usedHostPorts` is the table
that records them. Every step of the daemon is a move of that book. -/
namespace DevcontainerBridge

open Table Transition Ledger

namespace HostState

/-- The live forward of a container port, if there is one. -/
def forwardOf (s : HostState) (containerId : String) (port : UInt16) : Option ForwardState :=
  (s.containers.lookup containerId).bind fun cstate => cstate.forwards.lookup port

theorem forwardOf_congr {s s' : HostState} (h : s'.containers = s.containers) :
    s'.forwardOf = s.forwardOf := by
  unfold forwardOf
  rw [h]

@[simp] theorem forwardOf_reservePort (s : HostState) (hostPort : UInt16) (containerId : String) :
    (s.reservePort hostPort containerId).forwardOf = s.forwardOf := rfl

@[simp] theorem forwardOf_releasePort (s : HostState) (hostPort : UInt16) :
    (s.releasePort hostPort).forwardOf = s.forwardOf := rfl

theorem removeForward_snd (s : HostState) (containerId : String) (port : UInt16) :
    (s.removeForward containerId port).2 = s.forwardOf containerId port := by
  unfold removeForward forwardOf
  cases hContainer : s.containers.lookup containerId with
  | none => rfl
  | some cstate => cases hForward : cstate.forwards.lookup port <;> simp [hForward]

/-- `removeForward` changes one container port only. -/
theorem forwardOf_removeForward (s : HostState) (containerId other : String) (port q : UInt16) :
    (s.removeForward containerId port).1.forwardOf other q =
      if other = containerId ∧ q = port then none else s.forwardOf other q := by
  cases hOld : s.forwardOf containerId port with
  | none =>
      rw [removeForward_fst_of_none (by rw [removeForward_snd, hOld])]
      by_cases hHere : other = containerId ∧ q = port
      · obtain ⟨rfl, rfl⟩ := hHere
        simpa using hOld
      · simp [hHere]
  | some old =>
      unfold forwardOf at hOld
      obtain ⟨cstate, hContainer, hForward⟩ := Option.bind_eq_some_iff.mp hOld
      by_cases hOther : other = containerId
      · subst hOther
        by_cases hPort : q = port <;>
          simp [removeForward, forwardOf, setContainer, releasePort, hContainer, hForward, hPort]
      · simp [removeForward, forwardOf, setContainer, releasePort, hContainer, hForward, hOther]

theorem usedHostPorts_removeForward {s : HostState} {containerId : String} {port : UInt16}
    {old : ForwardState} (hOld : s.forwardOf containerId port = some old) (hostPort : UInt16) :
    (s.removeForward containerId port).1.usedHostPorts.lookup hostPort =
      if hostPort = old.hostPort then none else s.usedHostPorts.lookup hostPort := by
  unfold forwardOf at hOld
  obtain ⟨cstate, hContainer, hForward⟩ := Option.bind_eq_some_iff.mp hOld
  simp [removeForward, hContainer, hForward, releasePort, setContainer]

/-- The removal of a whole container together with its host ports. -/
theorem forwardOf_removeContainer (s : HostState) (containerId other : String) (forwards : Forwards)
    (q : UInt16) :
    ((s.removeContainer containerId).releaseForwards forwards).forwardOf other q =
      if other = containerId then none else s.forwardOf other q := by
  by_cases hOther : other = containerId <;>
    simp [forwardOf, removeContainer, releaseForwards, hOther]

theorem usedHostPorts_removeContainer {s : HostState} {containerId : String} {cstate : ContainerState}
    (hContainer : s.containers.lookup containerId = some cstate) (hostPort : UInt16) (owner : String) :
    ((s.removeContainer containerId).releaseForwards cstate.forwards).usedHostPorts.lookup hostPort =
        some owner ↔
      s.usedHostPorts.lookup hostPort = some owner ∧
        ∀ port fstate, s.forwardOf containerId port = some fstate → fstate.hostPort ≠ hostPort := by
  simp only [releaseForwards, removeContainer, lookup_eraseEach, forwardOf, hContainer,
    Option.bind_some]

theorem removeStale_some {s state : HostState} {containerId : String} {old : Forwards}
    (h : s.removeStale containerId = some (state, some old)) :
    ∃ cstate, s.containers.lookup containerId = some cstate ∧ old = cstate.forwards ∧
      state = (s.removeContainer containerId).releaseForwards cstate.forwards := by
  unfold removeStale at h
  split at h
  case h_1 => split at h <;> cases h
  case h_2 cstate hContainer =>
    cases h
    exact ⟨cstate, hContainer, rfl, rfl⟩

theorem takeContainer_some {s state : HostState} {containerId : String} {registrationId : Nat}
    {old : Forwards} (h : s.takeContainer containerId registrationId = some (state, old)) :
    ∃ cstate, s.containers.lookup containerId = some cstate ∧ old = cstate.forwards ∧
      cstate.registrationId = registrationId ∧
      state = (s.removeContainer containerId).releaseForwards cstate.forwards := by
  unfold takeContainer at h
  split at h
  case h_1 => cases h
  case h_2 cstate hContainer =>
    split_ifs at h with hOther
    cases h
    exact ⟨cstate, hContainer, rfl, not_not.mp hOther, rfl⟩

/-- Taking one forward away leaves the others. -/
theorem forwardOf_of_removeForward {s : HostState} {containerId other : String}
    {port q : UInt16} {fstate : ForwardState}
    (h : (s.removeForward containerId port).1.forwardOf other q = some fstate) :
    s.forwardOf other q = some fstate := by
  rw [forwardOf_removeForward] at h
  split_ifs at h
  exact h

theorem forwardOf_of_removeContainer {s : HostState} {containerId other : String}
    {forwards : Forwards} {port : UInt16} {fstate : ForwardState}
    (h : ((s.removeContainer containerId).releaseForwards forwards).forwardOf other port = some fstate) :
    s.forwardOf other port = some fstate := by
  rw [forwardOf_removeContainer] at h
  split_ifs at h
  exact h

@[simp] theorem forwardOf_insertContainer (s : HostState) (containerId hostname other : String)
    (registrationId : Nat) (q : UInt16) :
    (s.insertContainer containerId hostname registrationId).forwardOf other q =
      if other = containerId then none else s.forwardOf other q := by
  by_cases hOther : other = containerId <;>
    simp [forwardOf, insertContainer, newRegistration, setContainer, hOther]

/-- The final insertion of `handle_forward` when the port is the reserved one. -/
theorem insertForward_bound {s : HostState} {containerId : String} {port targetPort : UInt16}
    {fstate : ForwardState} (hInserted : (s.insertForward containerId port targetPort fstate).2 = true)
    (hBound : fstate.hostPort = targetPort) :
    ∃ cstate, s.containers.lookup containerId = some cstate ∧
      (s.insertForward containerId port targetPort fstate).1 =
        s.setContainer containerId { cstate with forwards := cstate.forwards.insert port fstate } := by
  unfold insertForward at hInserted ⊢
  split at hInserted
  case h_1 cstate hContainer => exact ⟨cstate, hContainer, by simp [hBound]⟩
  case h_2 => cases hInserted

theorem forwardOf_setForward {s : HostState} {containerId : String} {cstate : ContainerState}
    (hContainer : s.containers.lookup containerId = some cstate) (port q : UInt16)
    (fstate : ForwardState) (other : String) :
    (s.setContainer containerId { cstate with forwards := cstate.forwards.insert port fstate }).forwardOf
        other q =
      if other = containerId ∧ q = port then some fstate else s.forwardOf other q := by
  by_cases hOther : other = containerId
  · subst hOther
    by_cases hPort : q = port <;> simp [forwardOf, setContainer, hContainer, hPort]
  · simp [forwardOf, setContainer, hOther]

end HostState

/-- A port search that ends with a port ends with a free one. Zero is never
chosen, because the walk skips the privileged range. -/
theorem searchPort_found {used : Map UInt16 String} {preferred port found : UInt16} {fuel : Nat}
    (hPort : port ≠ 0)
    (h : HostState.searchPort used preferred fuel port = some (some found)) :
    used.lookup found = none ∧ found ≠ 0 := by
  induction fuel generalizing port with
  | zero => cases h
  | succ fuel ih =>
      unfold HostState.searchPort at h
      by_cases hUsed : port ∈ used
      · rw [if_pos hUsed] at h
        dsimp only at h
        split_ifs at h with hSkip hPrivileged hWrap
        · cases h
        · exact ih (by decide) h
        · cases h
        · refine ih ?_ h
          intro hZero
          exact hSkip ⟨by rw [hZero]; decide, hWrap⟩
      · rw [if_neg hUsed] at h
        cases h
        exact ⟨Finmap.lookup_eq_none.mpr hUsed, hPort⟩

theorem findAvailablePort_found {s : HostState} {preferred found : UInt16}
    (h : s.findAvailablePort preferred = some (some found)) :
    s.usedHostPorts.lookup found = none ∧ found ≠ 0 := by
  unfold HostState.findAvailablePort at h
  split_ifs at h with hZero
  · cases h
  · exact searchPort_found hZero h

/-- Holders of host ports. -/
inductive PortHolder where
  | forward (containerId : String) (port : UInt16)
  | handler (task : Nat)
  deriving DecidableEq

/-- The reservation of a `handle_forward` call that has not returned. -/
def Handler.reservation : Handler → Option (String × UInt16)
  | .forwardBind containerId _ _ _ targetPort => some (containerId, targetPort)
  | .forwardRelease containerId _ _ _ targetPort => some (containerId, targetPort)
  | .forwardInsert containerId _ _ _ targetPort _ _ => some (containerId, targetPort)
  | _ => none

/-- The book of host ports. -/
def portBook (state : HostState) (tasks : Nat → Handler) : Book PortHolder String UInt16 where
  holds := fun
    | .forward containerId port =>
        (state.forwardOf containerId port).map fun fstate => (containerId, fstate.hostPort)
    | .handler task => (tasks task).reservation
  used := fun hostPort => state.usedHostPorts.lookup hostPort

/-- A reserved port is not zero, and a bound listener is on the reserved port. -/
def Handler.WellBound : Handler → Prop
  | .forwardBind _ _ _ _ targetPort => targetPort ≠ 0
  | .forwardInsert _ _ _ _ targetPort hostPort _ => hostPort = targetPort
  | _ => True

/-- The forwards whose place the task's next insertion takes. -/
def Handler.overwritten (state : HostState) : Handler → Set PortHolder
  | .registerInsert containerId _ _ => {holder | ∃ port, holder = .forward containerId port}
  | .forwardInsert containerId _ request _ _ _ _ =>
      {holder | (state.containers.lookup containerId).isSome ∧ holder = .forward containerId request.port}
  | _ => ∅

theorem Handler.reservation_of_not_engaged {handler : Handler} (h : handler.engaged = false) :
    handler.reservation = none := by
  cases handler <;> first | rfl | cases h

theorem Handler.overwritten_of_not_engaged {state : HostState} {handler : Handler}
    (h : handler.engaged = false) : handler.overwritten state = ∅ := by
  cases handler <;> first | rfl | cases h

theorem Handler.wellBound_of_not_engaged {handler : Handler} (h : handler.engaged = false) :
    handler.WellBound := by
  cases handler <;> trivial

theorem Advance.reservation {ctx : DaemonContext} {handler next : Handler}
    (h : Advance ctx handler next) : next.reservation = handler.reservation := by
  cases h <;> rfl

theorem Advance.overwritten {ctx : DaemonContext} {handler next : Handler}
    (h : Advance ctx handler next) (state : HostState) : handler.overwritten state = ∅ := by
  cases h <;> rfl

theorem HostStep.wellBound {ctx after : DaemonContext} {handler next : Handler}
    (h : HostStep ctx handler after next) (hBefore : handler.WellBound) : next.WellBound := by
  cases h with
  | quiet _ hAfter _ => exact Handler.wellBound_of_not_engaged hAfter
  | advance hMove _ =>
      cases hMove with
      | forwardBind hBound => exact hBound hBefore
      | _ => trivial
  | forwardReserve hFree => exact (findAvailablePort_found hFree).2
  | _ => trivial

section Book
variable {state : HostState} {tasks : Nat → Handler} {id : Nat} {next : Handler}

/-- A step that keeps the task's reservation keeps the handlers' part. -/
theorem portBook_update (h : next.reservation = (tasks id).reservation) :
    portBook state (Function.update tasks id next) = portBook state tasks := by
  unfold portBook
  congr 1
  funext holder
  cases holder with
  | forward containerId port => rfl
  | handler task =>
      by_cases hTask : task = id
      · subst hTask
        simp [h]
      · simp [Function.update_of_ne hTask]

theorem portBook_congr {state' : HostState} (hForwards : state'.forwardOf = state.forwardOf)
    (hUsed : state'.usedHostPorts = state.usedHostPorts) :
    portBook state' tasks = portBook state tasks := by
  unfold portBook
  rw [hForwards, hUsed]

private theorem book_ext {b b' : Book PortHolder String UInt16}
    (hForward : ∀ containerId port, b.holds (.forward containerId port) = b'.holds (.forward containerId port))
    (hHandler : ∀ task, b.holds (.handler task) = b'.holds (.handler task))
    (hUsed : ∀ hostPort owner, b.used hostPort = some owner ↔ b'.used hostPort = some owner) :
    b = b' := by
  obtain ⟨holds, used⟩ := b
  obtain ⟨holds', used'⟩ := b'
  congr 1
  · funext holder
    cases holder with
    | forward containerId port => exact hForward containerId port
    | handler task => exact hHandler task
  · funext hostPort
    exact Option.ext (hUsed hostPort)

/-- Removing one forward gives back its host port. -/
theorem portBook_removeForward {containerId : String} {port : UInt16} {old : ForwardState}
    (hOld : state.forwardOf containerId port = some old) :
    portBook (state.removeForward containerId port).1 tasks =
      (portBook state tasks).release {.forward containerId port} := by
  apply book_ext
  · intro other q
    by_cases hHere : other = containerId ∧ q = port
    · obtain ⟨rfl, rfl⟩ := hHere
      simp [portBook, Book.release, HostState.forwardOf_removeForward]
    · simp [portBook, Book.release, HostState.forwardOf_removeForward, hHere]
  · intro task
    simp [portBook, Book.release]
  · intro hostPort owner
    rw [Book.used_release]
    simp only [portBook, HostState.usedHostPorts_removeForward hOld, Set.mem_singleton_iff,
      forall_eq, hOld, Option.map_some, ne_eq, Option.some.injEq, Prod.mk.injEq]
    by_cases hPort : hostPort = old.hostPort
    · simp [hPort]
    · simp [hPort, Ne.symm hPort]

/-- Removing one container gives back the host ports of all its forwards. -/
theorem portBook_removeContainer {containerId : String} {cstate : ContainerState}
    (hContainer : state.containers.lookup containerId = some cstate) :
    portBook ((state.removeContainer containerId).releaseForwards cstate.forwards) tasks =
      (portBook state tasks).release {holder | ∃ port, holder = .forward containerId port} := by
  apply book_ext
  · intro other q
    by_cases hOther : other = containerId
    · simp [portBook, Book.release, HostState.forwardOf_removeContainer, hOther]
    · simp [portBook, Book.release, HostState.forwardOf_removeContainer, hOther]
  · intro task
    simp [portBook, Book.release]
  · intro hostPort owner
    rw [Book.used_release]
    refine (HostState.usedHostPorts_removeContainer hContainer hostPort owner).trans ?_
    refine and_congr_right fun _ => ⟨?_, ?_⟩
    · rintro h _ ⟨port, rfl⟩ owner' hHolds
      obtain ⟨fstate, hForward, hPair⟩ := Option.map_eq_some_iff.mp hHolds
      exact h port fstate hForward (congrArg Prod.snd hPair)
    · intro h port fstate hForward hPort
      refine h _ ⟨port, rfl⟩ containerId ?_
      simp [portBook, hForward, hPort]

/-- A fresh registration has no forwards; what an overwritten one had is lost. -/
theorem portBook_insertContainer (containerId hostname : String) (registrationId : Nat) :
    portBook (state.insertContainer containerId hostname registrationId) tasks =
      (portBook state tasks).forget {holder | ∃ port, holder = .forward containerId port} := by
  apply book_ext
  · intro other q
    by_cases hOther : other = containerId <;> simp [portBook, Book.forget, hOther]
  · intro task
    simp [portBook, Book.forget]
  · intro hostPort owner
    rfl

/-- A handler that gives up returns its reservation. -/
theorem portBook_releasePort {containerId : String} {hostPort : UInt16}
    (hBefore : (tasks id).reservation = some (containerId, hostPort))
    (hAfter : next.reservation = none) :
    portBook (state.releasePort hostPort) (Function.update tasks id next) =
      (portBook state tasks).release {.handler id} := by
  apply book_ext
  · intro other q
    simp [portBook, Book.release]
  · intro task
    by_cases hTask : task = id
    · subst hTask
      simp [portBook, Book.release, hAfter]
    · simp [portBook, Book.release, hTask]
  · intro found owner
    rw [Book.used_release]
    simp only [portBook, HostState.releasePort, lookup_erase, Set.mem_singleton_iff, forall_eq,
      hBefore, ne_eq, Option.some.injEq, Prod.mk.injEq]
    by_cases hPort : found = hostPort
    · simp [hPort]
    · simp [hPort, Ne.symm hPort]

theorem portBook_reservePort {containerId : String} {hostPort : UInt16}
    (hAfter : next.reservation = some (containerId, hostPort)) :
    portBook (state.reservePort hostPort containerId) (Function.update tasks id next) =
      (portBook state tasks).acquire (.handler id) containerId hostPort := by
  apply book_ext
  · intro other q
    simp [portBook, Book.acquire]
  · intro task
    by_cases hTask : task = id
    · subst hTask
      simp [portBook, Book.acquire, hAfter]
    · simp [portBook, Book.acquire, hTask]
  · intro found owner
    by_cases hPort : found = hostPort
    · simp [portBook, Book.acquire, HostState.reservePort, hPort]
    · simp [portBook, Book.acquire, HostState.reservePort, hPort]

/-- The final insertion hands the reservation over to the new forward. -/
theorem portBook_setForward {containerId : String} {cstate : ContainerState} {port : UInt16}
    {fstate : ForwardState} (hContainer : state.containers.lookup containerId = some cstate)
    (hBefore : (tasks id).reservation = some (containerId, fstate.hostPort))
    (hAfter : next.reservation = none) :
    portBook (state.setContainer containerId { cstate with forwards := cstate.forwards.insert port fstate })
        (Function.update tasks id next) =
      (portBook state tasks).transfer (.handler id) (.forward containerId port) := by
  apply book_ext
  · intro other q
    by_cases hHere : other = containerId ∧ q = port
    · obtain ⟨rfl, rfl⟩ := hHere
      simp [portBook, Book.transfer, HostState.forwardOf_setForward hContainer, hBefore]
    · simp [portBook, Book.transfer, HostState.forwardOf_setForward hContainer, hHere]
  · intro task
    by_cases hTask : task = id
    · subst hTask
      simp [portBook, Book.transfer, hAfter]
    · simp [portBook, Book.transfer, hTask]
  · intro found owner
    rfl

/-- Every step of a task is a move of the book. -/
theorem HostStep.portBook_move {ctx after : DaemonContext}
    (hStep : HostStep ctx (tasks id) after next) (hBound : (tasks id).WellBound) :
    Book.Move (portBook ctx.state tasks) ((tasks id).overwritten ctx.state)
      (portBook after.state (Function.update tasks id next)) := by
  generalize hTask : tasks id = handler at hStep hBound
  -- a step that keeps the tables and the reservation
  have stays : ∀ {after : DaemonContext}, after.state.containers = ctx.state.containers →
      after.state.usedHostPorts = ctx.state.usedHostPorts → next.reservation = handler.reservation →
      Book.Move (portBook ctx.state tasks) ∅ (portBook after.state (Function.update tasks id next)) := by
    intro after hContainers hUsed hReservation
    rw [portBook_update (by rw [hTask, hReservation]),
      portBook_congr (HostState.forwardOf_congr hContainers) hUsed]
    exact .stay
  cases hStep with
  | quiet hBefore hAfter hSame =>
      rw [Handler.overwritten_of_not_engaged hBefore]
      apply stays hSame.containers hSame.usedHostPorts
      rw [Handler.reservation_of_not_engaged hBefore, Handler.reservation_of_not_engaged hAfter]
  | advance hMove hSame =>
      rw [hMove.overwritten]
      exact stays hSame.containers hSame.usedHostPorts hMove.reservation
  | registerRemove hRemove =>
      obtain ⟨cstate, hContainer, -, rfl⟩ := HostState.removeStale_some hRemove
      rw [portBook_update (by rw [hTask]; rfl), portBook_removeContainer hContainer]
      exact .release _
  | registerBrowser => exact stays rfl rfl rfl
  | registerInsert =>
      rw [portBook_update (by rw [hTask]; rfl), portBook_insertContainer]
      exact .forget _
  | forwardTake hOld =>
      rw [portBook_update (by rw [hTask]; rfl),
        portBook_removeForward (by rw [← HostState.removeForward_snd, hOld])]
      exact .release _
  | forwardReserve hFree =>
      rw [portBook_reservePort rfl]
      refine .acquire (findAvailablePort_found hFree).1 ?_
      simp [portBook, hTask, Handler.reservation]
  | forwardRelease =>
      rw [portBook_releasePort (by rw [hTask]; rfl) rfl]
      exact .release _
  | @forwardInsert containerId _ request _ targetPort hostPort _ _ hPort _ hInserted =>
      have hTarget : hostPort = targetPort := hBound
      obtain ⟨cstate, hContainer, hState⟩ :=
        HostState.insertForward_bound hInserted (hPort.trans hTarget)
      rw [hState, portBook_setForward hContainer (by rw [hTask, hPort, hTarget]; rfl) rfl]
      rw [show Handler.overwritten ctx.state _ = {PortHolder.forward containerId request.port} by
        ext
        simp [Handler.overwritten, hContainer]]
      exact .transfer (by simp)
  | @forwardGone _ _ _ _ targetPort hostPort _ _ hGone hState _ =>
      have hTarget : hostPort = targetPort := hBound
      rw [hState, portBook_releasePort (by rw [hTask, hTarget]; rfl) rfl,
        show Handler.overwritten ctx.state _ = ∅ by
          ext
          simp [Handler.overwritten, hGone]]
      exact .release _
  | forwardBrowser => exact stays rfl rfl rfl
  | unforwardRemove hOld =>
      rw [portBook_update (by rw [hTask]; rfl),
        portBook_removeForward (by rw [← HostState.removeForward_snd, hOld])]
      exact .release _
  | unforwardBrowser => exact stays rfl rfl rfl
  | cleanup hTake =>
      obtain ⟨cstate, hContainer, -, -, rfl⟩ := HostState.takeContainer_some hTake
      rw [portBook_update (by rw [hTask]; rfl), portBook_removeContainer hContainer]
      exact .release _
  | cleanupBrowser => exact stays rfl rfl rfl
  | unforwardGlobal hOld =>
      rw [portBook_update (by rw [hTask]; rfl),
        portBook_removeForward (by rw [← HostState.removeForward_snd, hOld])]
      exact .release _
  | unforwardGlobalBrowser => exact stays rfl rfl rfl

end Book

/-- The book of the whole daemon. -/
def Daemon.portBook (d : Daemon) : Book PortHolder String UInt16 :=
  DevcontainerBridge.portBook d.ctx.state d.tasks

/-- The forwards whose place an action takes. -/
def Daemon.overwritten (d : Daemon) : Action → Set PortHolder
  | .task id _ => (d.tasks id).overwritten d.ctx.state
  | _ => ∅

/-- The strengthened invariant of the host port table. -/
structure Daemon.PortsSound (d : Daemon) : Prop where
  sound : d.running = true → d.portBook.Sound
  wellBound : ∀ id, (d.tasks id).WellBound

variable {cfg : HostConfig} {d d' : Daemon} {action : Action}

theorem Daemon.start_wellBound (id : Nat) : ((Daemon.start cfg).tasks id).WellBound := by
  unfold Daemon.start
  dsimp only
  split <;> trivial

theorem Daemon.start_portBook : (Daemon.start cfg).portBook.Sound ∧ (Daemon.start cfg).portBook.Balanced := by
  have hHolds : ∀ holder, (Daemon.start cfg).portBook.holds holder = none := by
    intro holder
    cases holder with
    | forward containerId port => rfl
    | handler task =>
        simp only [Daemon.portBook, DevcontainerBridge.portBook, Daemon.start]
        split <;> rfl
  have hUsed : ∀ hostPort, (Daemon.start cfg).portBook.used hostPort = none := fun _ => rfl
  refine ⟨⟨?_, ?_⟩, ?_⟩
  · intro x o r h
    rw [hHolds] at h
    cases h
  · intro x y o o' r h
    rw [hHolds] at h
    cases h
  · intro r o h
    rw [hUsed] at h
    cases h

theorem Daemon.step_wellBound (h : Daemon.step cfg d action = some d')
    (hBound : ∀ id, (d.tasks id).WellBound) : ∀ id, (d'.tasks id).WellBound := by
  intro other
  cases (Daemon.step_cases h).2 with
  | @task id _ _ _ _ hStep =>
      by_cases hOther : other = id
      · subst hOther
        simpa using hStep.wellBound (hBound other)
      · simpa [Function.update_of_ne hOther] using hBound other
  | clientConnects => exact hBound other
  | stop => exact hBound other

/-- While the daemon runs, every one of its steps is a move of the book. -/
theorem Daemon.step_portBook (h : Daemon.step cfg d action = some d')
    (hBound : ∀ id, (d.tasks id).WellBound) (hRunning : d'.running = true) :
    Book.Move d.portBook (d.overwritten action) d'.portBook := by
  cases (Daemon.step_cases h).2 with
  | @task id _ _ _ _ hStep => exact hStep.portBook_move (hBound id)
  | clientConnects _ hState _ =>
      unfold Daemon.portBook
      rw [hState]
      exact .stay
  | stop => cases hRunning

theorem Daemon.reachable_portsSound (hReach : Reachable (Daemon.step cfg) (Daemon.start cfg) d) :
    d.PortsSound := by
  refine hReach.invariant Daemon.PortsSound ⟨fun _ => Daemon.start_portBook.1, Daemon.start_wellBound⟩ ?_
  intro middle action after hMiddle hStep
  refine ⟨fun hRunning => ?_, Daemon.step_wellBound hStep hMiddle.wellBound⟩
  exact (hMiddle.sound (Daemon.step_cases hStep).1).move
    (Daemon.step_portBook hStep hMiddle.wellBound hRunning)

end DevcontainerBridge
