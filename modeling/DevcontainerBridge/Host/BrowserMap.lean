import DevcontainerBridge.Host.HostPorts

/-! The browser's port map against the live forwards. The map is keyed by the
container port alone and is updated under another lock than the forwards, so
each handler owes it an update between the two critical sections. -/
namespace DevcontainerBridge

open Table Transition

/-- The handler is about to remove the mapping of a port. -/
@[simp] def Handler.removes (port : UInt16) : Handler → Prop
  | .registerBrowser _ _ old | .cleanupBrowser old => port ∈ old
  | .unforwardDrain _ _ p _ | .unforwardBrowser _ _ p | .unforwardGlobalBrowser p _ => p = port
  | _ => False

/-- The handler is about to add the mapping of a forward that it has inserted. -/
@[simp] def Handler.adds (containerId : String) (port hostPort : UInt16) : Handler → Prop
  | .forwardBrowser c _ p h => c = containerId ∧ p = port ∧ h = hostPort
  | _ => False

/-- The handler has removed a forward of the port and is setting up another
one in its place, which will update the mapping. -/
@[simp] def Handler.replaces (port hostPort : UInt16) : Handler → Prop
  | .forwardDrain _ _ request old => request.port = port ∧ old.hostPort = hostPort
  | .forwardReserve _ _ request replaced | .forwardBind _ _ request replaced _
  | .forwardRelease _ _ request replaced _ | .forwardInsert _ _ request replaced _ _ _ =>
      request.port = port ∧ replaced = some hostPort
  | _ => False

/-- The handler is between an update of the host state and the matching update
of the port map. -/
def Handler.owesBrowser : Handler → Bool
  | .registerBrowser .. | .cleanupBrowser _ | .unforwardDrain .. | .unforwardBrowser ..
  | .unforwardGlobalBrowser .. | .forwardBrowser .. | .forwardDrain .. => true
  | .forwardReserve _ _ _ replaced | .forwardBind _ _ _ replaced _ | .forwardRelease _ _ _ replaced _
  | .forwardInsert _ _ _ replaced _ _ _ => replaced.isSome
  | _ => false

/-- What the handler still has to do accounts for a mapping. -/
def Handler.updates (port hostPort : UInt16) (handler : Handler) : Prop :=
  handler.removes port ∨ handler.replaces port hostPort ∨ ∃ containerId h, handler.adds containerId port h

/-- What the handler still has to do accounts for the lack of a mapping. -/
def Handler.supplies (containerId : String) (port hostPort : UInt16) (handler : Handler) : Prop :=
  handler.removes port ∨ handler.adds containerId port hostPort

/-- Some container forwards the port to the host port. -/
def HostState.IsForwarded (s : HostState) (port hostPort : UInt16) : Prop :=
  ∃ containerId fstate, s.forwardOf containerId port = some fstate ∧ fstate.hostPort = hostPort

/-- The conditions under which the handler's next step keeps the port map in
line with the forwards. A removal hides no forward whose addition is not still
to come, an addition is of a forward that is still there, a forward that was
to replace another does not fail, and no registration is inserted over mapped
forwards. `updated` and `supplied` tell what other handlers still owe. -/
def Handler.KeepsMap (ctx : DaemonContext) (updated : UInt16 → UInt16 → Prop)
    (supplied : String → UInt16 → UInt16 → Prop) : Handler → Prop
  | .registerBrowser _ _ old | .cleanupBrowser old =>
      ∀ port containerId fstate, port ∈ old → ctx.state.forwardOf containerId port = some fstate →
        supplied containerId port fstate.hostPort
  | .unforwardBrowser _ _ port | .unforwardGlobalBrowser port _ =>
      ∀ containerId fstate, ctx.state.forwardOf containerId port = some fstate →
        supplied containerId port fstate.hostPort
  | .forwardBrowser _ _ port hostPort => ctx.state.IsForwarded port hostPort ∨ updated port hostPort
  | .forwardReserve _ _ request (some hostPort) =>
      ctx.state.findAvailablePort request.port = some none →
      ctx.browser.portMap.lookup request.port = some hostPort →
      ctx.state.IsForwarded request.port hostPort ∨ updated request.port hostPort
  | .forwardRelease _ _ request (some hostPort) _ =>
      ctx.browser.portMap.lookup request.port = some hostPort →
      ctx.state.IsForwarded request.port hostPort ∨ updated request.port hostPort
  | .forwardInsert containerId _ request (some hostPort) _ _ _ =>
      ctx.state.containers.lookup containerId = none →
      ctx.browser.portMap.lookup request.port = some hostPort →
      ctx.state.IsForwarded request.port hostPort ∨ updated request.port hostPort
  | .registerInsert containerId _ _ =>
      ∀ port fstate, ctx.state.forwardOf containerId port = some fstate →
        ctx.browser.portMap.lookup port = some fstate.hostPort → updated port fstate.hostPort
  | _ => True

namespace Daemon

/-- No handler is between its two updates. -/
def Quiescent (d : Daemon) : Prop := ∀ task, (d.tasks task).owesBrowser = false

/-- Every mapping names a live forward, and a port that one container alone
forwards is mapped to its host port, as URLs to that port are rewritten. -/
structure MapAgrees (d : Daemon) : Prop where
  mapped : ∀ port hostPort, d.ctx.browser.portMap.lookup port = some hostPort →
    ∃ containerId fstate, d.forwardOf containerId port = some fstate ∧ fstate.hostPort = hostPort
  sole : ∀ containerId port fstate, d.forwardOf containerId port = some fstate →
    (∀ otherId other, d.forwardOf otherId port = some other → otherId = containerId) →
    d.ctx.browser.portMap.lookup port = some fstate.hostPort ∧
    ∀ scheme path : List Char, ':' ∉ scheme → (∀ c ∈ path.head?, c.isDigit = false) →
      rewriteUrl (String.ofList (scheme ++ "://".toList ++ ("localhost:".toList ++
          Nat.toDigits 10 port.toNat ++ path))) d.ctx.browser.portMap =
        String.ofList (scheme ++ "://".toList ++ ("localhost:".toList ++
          Nat.toDigits 10 fstate.hostPort.toNat ++ path))

/-- The action keeps the port map in line, with the other tasks as they are. -/
def KeepsMap (d : Daemon) : Action → Prop
  | .task id _ =>
      (d.tasks id).KeepsMap d.ctx
        (fun port hostPort => ∃ task, task ≠ id ∧ (d.tasks task).updates port hostPort)
        (fun containerId port hostPort => ∃ task, task ≠ id ∧
          (d.tasks task).supplies containerId port hostPort)
  | _ => True

/-- The invariant that carries the agreement through the states in which
updates are outstanding. -/
structure MapAccounted (d : Daemon) : Prop where
  mapped : ∀ port hostPort, d.ctx.browser.portMap.lookup port = some hostPort →
    d.ctx.state.IsForwarded port hostPort ∨ ∃ task, (d.tasks task).updates port hostPort
  forwarded : ∀ containerId port fstate, d.forwardOf containerId port = some fstate →
    d.ctx.browser.portMap.lookup port ≠ none ∨
      ∃ task, (d.tasks task).supplies containerId port fstate.hostPort

end Daemon

theorem Handler.not_updates_of_not_owes {handler : Handler} (h : handler.owesBrowser = false)
    (port hostPort : UInt16) : ¬handler.updates port hostPort := by
  cases handler <;>
    simp_all [Handler.owesBrowser, Handler.updates, Handler.removes, Handler.replaces, Handler.adds]

theorem Handler.not_supplies_of_not_owes {handler : Handler} (h : handler.owesBrowser = false)
    (containerId : String) (port hostPort : UInt16) : ¬handler.supplies containerId port hostPort := by
  cases handler <;>
    simp_all [Handler.owesBrowser, Handler.supplies, Handler.removes, Handler.adds]

theorem Handler.owesBrowser_of_not_engaged {handler : Handler} (h : handler.engaged = false) :
    handler.owesBrowser = false := by
  cases handler <;> first | rfl | cases h

/-- In a quiescent state nothing is outstanding and the two views agree. -/
theorem Daemon.MapAccounted.agrees {d : Daemon} (h : d.MapAccounted) (hQuiescent : d.Quiescent) :
    d.MapAgrees := by
  have hMapped : ∀ port hostPort, d.ctx.browser.portMap.lookup port = some hostPort →
      d.ctx.state.IsForwarded port hostPort := by
    intro port hostPort hLookup
    refine (h.mapped port hostPort hLookup).resolve_right ?_
    rintro ⟨task, hUpdates⟩
    exact Handler.not_updates_of_not_owes (hQuiescent task) port hostPort hUpdates
  refine ⟨hMapped, ?_⟩
  intro containerId port fstate hForward hSole
  have hSome : d.ctx.browser.portMap.lookup port ≠ none := by
    refine (h.forwarded containerId port fstate hForward).resolve_right ?_
    rintro ⟨task, hSupplies⟩
    exact Handler.not_supplies_of_not_owes (hQuiescent task) containerId port fstate.hostPort hSupplies
  obtain ⟨hostPort, hLookup⟩ := Option.ne_none_iff_exists'.mp hSome
  obtain ⟨otherId, other, hOther, hPort⟩ := hMapped port hostPort hLookup
  have hOwner := hSole otherId other hOther
  have hHostPort : hostPort = fstate.hostPort := by
    rw [hOwner] at hOther
    rw [← hPort, Option.some.inj (hOther.symm.trans hForward)]
  rw [hHostPort] at hLookup
  exact ⟨hLookup, fun scheme path hScheme hPath => rewriteUrl_localhost hLookup hScheme hPath⟩

variable {ctx after : DaemonContext} {handler next : Handler} {updated : UInt16 → UInt16 → Prop}
  {supplied : String → UInt16 → UInt16 → Prop}

namespace HostState.IsForwarded

variable {s : HostState} {containerId : String} {port hostPort : UInt16}

theorem congr {s' : HostState} (h : s.IsForwarded port hostPort) (hContainers : s'.containers = s.containers) :
    s'.IsForwarded port hostPort := by
  unfold HostState.IsForwarded
  rwa [HostState.forwardOf_congr hContainers]

/-- A forwarded port after one forward has been removed. -/
theorem removeForward (h : s.IsForwarded port hostPort) {removed : UInt16} {old : ForwardState}
    (hOld : (s.removeForward containerId removed).2 = some old) :
    (s.removeForward containerId removed).1.IsForwarded port hostPort ∨
      removed = port ∧ old.hostPort = hostPort := by
  obtain ⟨otherId, fstate, hForward, hPort⟩ := h
  by_cases hHere : otherId = containerId ∧ port = removed
  · obtain ⟨rfl, rfl⟩ := hHere
    rw [HostState.removeForward_snd, hForward] at hOld
    cases hOld
    exact .inr ⟨rfl, hPort⟩
  · refine .inl ⟨otherId, fstate, ?_, hPort⟩
    rw [HostState.forwardOf_removeForward, if_neg hHere, hForward]

theorem removeContainer (h : s.IsForwarded port hostPort) {cstate : ContainerState}
    (hContainer : s.containers.lookup containerId = some cstate) :
    ((s.removeContainer containerId).releaseForwards cstate.forwards).IsForwarded port hostPort ∨
      port ∈ cstate.forwards := by
  obtain ⟨otherId, fstate, hForward, hPort⟩ := h
  by_cases hHere : otherId = containerId
  · subst hHere
    rw [HostState.forwardOf, hContainer, Option.bind_some] at hForward
    exact .inr (Finmap.mem_of_lookup_eq_some hForward)
  · refine .inl ⟨otherId, fstate, ?_, hPort⟩
    rw [HostState.forwardOf_removeContainer, if_neg hHere, hForward]

theorem insertContainer (h : s.IsForwarded port hostPort) (hostname : String) (registrationId : Nat) :
    (s.insertContainer containerId hostname registrationId).IsForwarded port hostPort ∨
      ∃ fstate, s.forwardOf containerId port = some fstate ∧ fstate.hostPort = hostPort := by
  obtain ⟨otherId, fstate, hForward, hPort⟩ := h
  by_cases hHere : otherId = containerId
  · subst hHere
    exact .inr ⟨fstate, hForward, hPort⟩
  · refine .inl ⟨otherId, fstate, ?_, hPort⟩
    rw [HostState.forwardOf_insertContainer, if_neg hHere, hForward]

theorem setForward (h : s.IsForwarded port hostPort) {cstate : ContainerState}
    (hContainer : s.containers.lookup containerId = some cstate) (inserted : UInt16) (new : ForwardState) :
    (s.setContainer containerId
        { cstate with forwards := cstate.forwards.insert inserted new }).IsForwarded port hostPort ∨
      inserted = port := by
  obtain ⟨otherId, fstate, hForward, hPort⟩ := h
  by_cases hHere : otherId = containerId ∧ port = inserted
  · exact .inr hHere.2.symm
  · refine .inl ⟨otherId, fstate, ?_, hPort⟩
    rw [HostState.forwardOf_setForward hContainer, if_neg hHere, hForward]

end HostState.IsForwarded

theorem lookup_removePortMappings {b : BrowserOpener} {forwards : Forwards} {port hostPort : UInt16} :
    (b.removePortMappings forwards).portMap.lookup port = some hostPort ↔
      b.portMap.lookup port = some hostPort ∧ port ∉ forwards := by
  rw [BrowserOpener.removePortMappings_portMap, lookup_eraseEach]
  refine and_congr_right fun _ => ?_
  rw [← Finmap.lookup_eq_none, Option.eq_none_iff_forall_ne_some]
  constructor
  · intro h fstate hForward
    exact h port fstate hForward rfl
  · rintro h other fstate hForward rfl
    exact h fstate hForward

/-- Outstanding updates move on with the handler unless it gives up. -/
theorem Advance.updates (hMove : Advance ctx handler next) {port hostPort : UInt16}
    (hKeeps : handler.KeepsMap ctx updated supplied)
    (hLookup : ctx.browser.portMap.lookup port = some hostPort) (h : handler.updates port hostPort) :
    ctx.state.IsForwarded port hostPort ∨ next.updates port hostPort ∨ updated port hostPort := by
  cases hMove with
  | @forwardNoPort _ _ request replaced hFull =>
      obtain ⟨rfl, rfl⟩ : request.port = port ∧ replaced = some hostPort := by
        simpa [Handler.updates] using h
      exact (hKeeps hFull hLookup).imp_right .inr
  | _ => simp_all [Handler.updates]

/-- A step on its conditions accounts for every mapping that it leaves. -/
theorem HostStep.mapped (hStep : HostStep ctx handler after next) (hBound : handler.WellBound)
    (hKeeps : handler.KeepsMap ctx updated supplied) {port hostPort : UInt16}
    (hBefore : ctx.browser.portMap.lookup port = some hostPort →
      ctx.state.IsForwarded port hostPort ∨ handler.updates port hostPort ∨ updated port hostPort)
    (hLookup : after.browser.portMap.lookup port = some hostPort) :
    after.state.IsForwarded port hostPort ∨ next.updates port hostPort ∨ updated port hostPort := by
  -- the claim for a mapping that was there before, from what becomes of
  -- forwards and of the handler's own outstanding updates
  have keep : ctx.browser.portMap.lookup port = some hostPort →
      (ctx.state.IsForwarded port hostPort →
        after.state.IsForwarded port hostPort ∨ next.updates port hostPort ∨ updated port hostPort) →
      (handler.updates port hostPort →
        after.state.IsForwarded port hostPort ∨ next.updates port hostPort ∨ updated port hostPort) →
      after.state.IsForwarded port hostPort ∨ next.updates port hostPort ∨ updated port hostPort := by
    intro hOld hForwards hUpdates
    rcases hBefore hOld with hForward | hUpdate | hElse
    · exact hForwards hForward
    · exact hUpdates hUpdate
    · exact .inr (.inr hElse)
  cases hStep with
  | quiet hQuiet _ hSame =>
      rw [hSame.portMap] at hLookup
      refine keep hLookup (fun h => .inl (h.congr hSame.containers)) fun h => absurd h ?_
      exact Handler.not_updates_of_not_owes (Handler.owesBrowser_of_not_engaged hQuiet) port hostPort
  | advance hMove hSame =>
      rw [hSame.portMap] at hLookup
      refine keep hLookup (fun h => .inl (h.congr hSame.containers)) fun h => ?_
      exact (hMove.updates hKeeps hLookup h).imp_left fun h => h.congr hSame.containers
  | registerRemove hRemove =>
      obtain ⟨cstate, hContainer, rfl, rfl⟩ := HostState.removeStale_some hRemove
      refine keep hLookup (fun h => ?_) (by simp [Handler.updates])
      exact (h.removeContainer hContainer).imp_right fun hPort => .inl (.inl hPort)
  | registerBrowser =>
      obtain ⟨hOld, hNot⟩ := lookup_removePortMappings.mp hLookup
      refine keep hOld (fun h => .inl (h.congr rfl)) fun h => ?_
      simp [Handler.updates, hNot] at h
  | registerInsert =>
      refine keep hLookup (fun h => ?_) (by simp [Handler.updates])
      rcases h.insertContainer _ _ with hAfter | ⟨fstate, hForward, rfl⟩
      · exact .inl hAfter
      · exact .inr (.inr (hKeeps port fstate hForward hLookup))
  | forwardTake hOld =>
      refine keep hLookup (fun h => ?_) (by simp [Handler.updates])
      exact (h.removeForward hOld).imp_right fun hHere => .inl (.inr (.inl hHere))
  | forwardReserve => exact keep hLookup (fun h => .inl (h.congr rfl)) fun h => .inr (.inl h)
  | @forwardRelease _ _ request replaced _ =>
      refine keep hLookup (fun h => .inl (h.congr rfl)) fun h => ?_
      obtain ⟨rfl, rfl⟩ : request.port = port ∧ replaced = some hostPort := by
        simpa [Handler.updates] using h
      exact (hKeeps hLookup).imp (fun h => h.congr rfl) .inr
  | @forwardInsert containerId registrationId request _ _ bound _ _ hPort _ hInserted =>
      obtain ⟨cstate, hContainer, hState⟩ :=
        HostState.insertForward_bound hInserted (hPort.trans hBound)
      have hAdds : request.port = port →
          Handler.updates port hostPort
            (.forwardBrowser containerId registrationId request.port bound) :=
        fun hHere => .inr (.inr ⟨_, _, rfl, hHere, rfl⟩)
      rw [hState] at keep ⊢
      refine keep hLookup (fun h => ?_) fun h => .inr (.inl (hAdds ?_))
      · exact (h.setForward hContainer _ _).imp_right fun hHere => .inl (hAdds hHere)
      · simp only [Handler.updates, Handler.removes, Handler.replaces, Handler.adds] at h
        simp_all
  | @forwardGone _ _ request replaced _ _ _ _ hGone hState hBrowser =>
      rw [hBrowser] at hLookup
      refine keep hLookup (fun h => .inl (h.congr (by rw [hState]; rfl))) fun h => ?_
      obtain ⟨rfl, rfl⟩ : request.port = port ∧ replaced = some hostPort := by
        simpa [Handler.updates] using h
      exact (hKeeps hGone hLookup).imp (fun h => h.congr (by rw [hState]; rfl)) .inr
  | @forwardBrowser _ _ added bound =>
      simp only [BrowserOpener.addPortMapping_portMap, lookup_insert] at hLookup
      split_ifs at hLookup with hHere
      · subst hHere
        cases hLookup
        exact hKeeps.imp (fun h => h.congr rfl) .inr
      · refine keep hLookup (fun h => .inl (h.congr rfl)) fun h => ?_
        simp [Handler.updates, Ne.symm hHere] at h
  | unforwardRemove hOld =>
      refine keep hLookup (fun h => ?_) (by simp [Handler.updates])
      exact (h.removeForward hOld).imp_right fun hHere => .inl (.inl hHere.1)
  | unforwardBrowser =>
      simp only [BrowserOpener.removePortMapping_portMap, lookup_erase] at hLookup
      split_ifs at hLookup with hHere
      refine keep hLookup (fun h => .inl (h.congr rfl)) fun h => ?_
      simp [Handler.updates, Ne.symm hHere] at h
  | cleanup hTake =>
      obtain ⟨cstate, hContainer, rfl, -, rfl⟩ := HostState.takeContainer_some hTake
      refine keep hLookup (fun h => ?_) (by simp [Handler.updates])
      exact (h.removeContainer hContainer).imp_right fun hPort => .inl (.inl hPort)
  | cleanupBrowser =>
      obtain ⟨hOld, hNot⟩ := lookup_removePortMappings.mp hLookup
      refine keep hOld (fun h => .inl (h.congr rfl)) fun h => ?_
      simp [Handler.updates, hNot] at h
  | unforwardGlobal hOld =>
      refine keep hLookup (fun h => ?_) (by simp [Handler.updates])
      exact (h.removeForward hOld).imp_right fun hHere => .inl (.inl hHere.1)
  | unforwardGlobalBrowser =>
      simp only [BrowserOpener.removePortMapping_portMap, lookup_erase] at hLookup
      split_ifs at hLookup with hHere
      refine keep hLookup (fun h => .inl (h.congr rfl)) fun h => ?_
      simp [Handler.updates, Ne.symm hHere] at h

theorem Advance.supplies (hMove : Advance ctx handler next) {containerId : String} {port hostPort : UInt16}
    (h : handler.supplies containerId port hostPort) : next.supplies containerId port hostPort := by
  cases hMove <;> simp_all [Handler.supplies]

/-- A step on its conditions accounts for every forward without a mapping. -/
theorem HostStep.forwarded (hStep : HostStep ctx handler after next) (hBound : handler.WellBound)
    (hKeeps : handler.KeepsMap ctx updated supplied) {containerId : String} {port : UInt16}
    {fstate : ForwardState}
    (hBefore : ctx.state.forwardOf containerId port = some fstate →
      ctx.browser.portMap.lookup port ≠ none ∨ handler.supplies containerId port fstate.hostPort ∨
        supplied containerId port fstate.hostPort)
    (hForward : after.state.forwardOf containerId port = some fstate) :
    after.browser.portMap.lookup port ≠ none ∨ next.supplies containerId port fstate.hostPort ∨
      supplied containerId port fstate.hostPort := by
  -- the claim for a forward that was there before, from what becomes of its
  -- mapping and of the handler's own outstanding updates
  have keep : ctx.state.forwardOf containerId port = some fstate →
      (ctx.browser.portMap.lookup port ≠ none → after.browser.portMap.lookup port ≠ none ∨
        next.supplies containerId port fstate.hostPort ∨ supplied containerId port fstate.hostPort) →
      (handler.supplies containerId port fstate.hostPort → after.browser.portMap.lookup port ≠ none ∨
        next.supplies containerId port fstate.hostPort ∨ supplied containerId port fstate.hostPort) →
      after.browser.portMap.lookup port ≠ none ∨
        next.supplies containerId port fstate.hostPort ∨ supplied containerId port fstate.hostPort := by
    intro hOld hMapped hSupplies
    rcases hBefore hOld with hMap | hSupply | hElse
    · exact hMapped hMap
    · exact hSupplies hSupply
    · exact .inr (.inr hElse)
  cases hStep with
  | quiet hQuiet _ hSame =>
      rw [HostState.forwardOf_congr hSame.containers] at hForward
      refine keep hForward (fun h => .inl (by rwa [hSame.portMap])) fun h => absurd h ?_
      exact Handler.not_supplies_of_not_owes (Handler.owesBrowser_of_not_engaged hQuiet) _ _ _
  | advance hMove hSame =>
      rw [HostState.forwardOf_congr hSame.containers] at hForward
      exact keep hForward (fun h => .inl (by rwa [hSame.portMap])) fun h => .inr (.inl (hMove.supplies h))
  | registerRemove hRemove =>
      obtain ⟨cstate, -, -, rfl⟩ := HostState.removeStale_some hRemove
      exact keep (HostState.forwardOf_of_removeContainer hForward) .inl (by simp [Handler.supplies])
  | @registerBrowser _ _ old =>
      by_cases hHere : port ∈ old
      · exact .inr (.inr (hKeeps port containerId fstate hHere hForward))
      · refine keep hForward (fun h => .inl ?_) (by simp [Handler.supplies, hHere])
        obtain ⟨hostPort, hLookup⟩ := Option.ne_none_iff_exists'.mp h
        exact Option.ne_none_iff_exists'.mpr ⟨hostPort, lookup_removePortMappings.mpr ⟨hLookup, hHere⟩⟩
  | registerInsert =>
      rw [HostState.forwardOf_insertContainer] at hForward
      split_ifs at hForward
      exact keep hForward .inl (by simp [Handler.supplies])
  | forwardTake =>
      exact keep (HostState.forwardOf_of_removeForward hForward) .inl (by simp [Handler.supplies])
  | forwardReserve => exact keep hForward .inl (by simp [Handler.supplies])
  | forwardRelease => exact keep hForward .inl (by simp [Handler.supplies])
  | @forwardInsert inserted _ request _ _ bound _ new hPort _ hInserted =>
      obtain ⟨cstate, hContainer, hState⟩ :=
        HostState.insertForward_bound hInserted (hPort.trans hBound)
      rw [hState, HostState.forwardOf_setForward hContainer] at hForward
      split_ifs at hForward with hHere
      · cases hForward
        exact .inr (.inl (.inr ⟨hHere.1.symm, hHere.2.symm, hPort.symm⟩))
      · exact keep hForward .inl (by simp [Handler.supplies])
  | forwardGone _ hState hBrowser =>
      rw [hState] at hForward
      rw [hBrowser] at keep ⊢
      exact keep hForward .inl (by simp [Handler.supplies])
  | @forwardBrowser _ _ added bound =>
      by_cases hHere : port = added
      · exact .inl (by simp [hHere])
      · exact keep hForward (fun h => .inl (by simpa [hHere] using h))
          (by simp [Handler.supplies, Ne.symm hHere])
  | unforwardRemove =>
      exact keep (HostState.forwardOf_of_removeForward hForward) .inl (by simp [Handler.supplies])
  | @unforwardBrowser _ _ removed =>
      by_cases hHere : port = removed
      · subst hHere
        exact .inr (.inr (hKeeps containerId fstate hForward))
      · exact keep hForward (fun h => .inl (by simpa [hHere] using h))
          (by simp [Handler.supplies, Ne.symm hHere])
  | cleanup hTake =>
      obtain ⟨cstate, -, -, -, rfl⟩ := HostState.takeContainer_some hTake
      exact keep (HostState.forwardOf_of_removeContainer hForward) .inl (by simp [Handler.supplies])
  | @cleanupBrowser old =>
      by_cases hHere : port ∈ old
      · exact .inr (.inr (hKeeps port containerId fstate hHere hForward))
      · refine keep hForward (fun h => .inl ?_) (by simp [Handler.supplies, hHere])
        obtain ⟨hostPort, hLookup⟩ := Option.ne_none_iff_exists'.mp h
        exact Option.ne_none_iff_exists'.mpr ⟨hostPort, lookup_removePortMappings.mpr ⟨hLookup, hHere⟩⟩
  | unforwardGlobal =>
      exact keep (HostState.forwardOf_of_removeForward hForward) .inl (by simp [Handler.supplies])
  | @unforwardGlobalBrowser removed _ =>
      by_cases hHere : port = removed
      · subst hHere
        exact .inr (.inr (hKeeps containerId fstate hForward))
      · exact keep hForward (fun h => .inl (by simpa [hHere] using h))
          (by simp [Handler.supplies, Ne.symm hHere])

variable {cfg : HostConfig} {d d' : Daemon} {action : Action} {trace : List (Daemon × Action)}

/-- An existential over tasks, seen from the task that takes the step. -/
theorem exists_task_iff {tasks : Nat → Handler} (id : Nat) {P : Handler → Prop} :
    (∃ task, P (tasks task)) ↔ P (tasks id) ∨ ∃ task, task ≠ id ∧ P (tasks task) := by
  constructor
  · rintro ⟨task, hTask⟩
    by_cases hHere : task = id
    · subst hHere
      exact .inl hTask
    · exact .inr ⟨task, hHere, hTask⟩
  · rintro (hHere | ⟨task, _, hTask⟩)
    · exact ⟨id, hHere⟩
    · exact ⟨task, hTask⟩

theorem exists_task_update {tasks : Nat → Handler} {id : Nat} {P : Handler → Prop} :
    (∃ task, P (Function.update tasks id next task)) ↔
      P next ∨ ∃ task, task ≠ id ∧ P (tasks task) := by
  rw [exists_task_iff id, Function.update_self]
  refine or_congr_right (exists_congr fun task => and_congr_right fun hOther => ?_)
  rw [Function.update_of_ne hOther]

theorem lookup_foldl_removePortMappings (order : List (Σ _ : String, ContainerState))
    (b : BrowserOpener) {port hostPort : UInt16} :
    (order.foldl (fun b item => b.removePortMappings item.2.forwards) b).portMap.lookup port =
        some hostPort ↔
      b.portMap.lookup port = some hostPort ∧ ∀ item ∈ order, port ∉ item.2.forwards := by
  induction order generalizing b with
  | nil => simp
  | cons item rest ih =>
      rw [List.foldl_cons, ih, lookup_removePortMappings, List.forall_mem_cons, and_assoc]

/-- What the shutdown leaves in the port map was mapped before, and no
container forwarded it. -/
theorem lookup_drainAll {port hostPort : UInt16}
    (hLookup : ctx.drainAll.browser.portMap.lookup port = some hostPort) :
    ctx.browser.portMap.lookup port = some hostPort ∧
      ∀ containerId, ctx.state.forwardOf containerId port = none := by
  obtain ⟨order, hOrder⟩ := exists_enumerates ctx.state.containers
  simp only [DaemonContext.drainAll, foldl_eq_foldl hOrder] at hLookup
  obtain ⟨hOld, hNone⟩ := (lookup_foldl_removePortMappings order ctx.browser).mp hLookup
  refine ⟨hOld, fun containerId => ?_⟩
  unfold HostState.forwardOf
  cases hContainer : ctx.state.containers.lookup containerId with
  | none => rfl
  | some cstate =>
      have hMember := (mem_of_enumerates hOrder containerId cstate).mpr hContainer
      exact Finmap.lookup_eq_none.mpr (hNone _ hMember)

theorem Daemon.step_mapAccounted (hReach : Reachable (Daemon.step cfg) (Daemon.start cfg) d)
    (hStep : Daemon.step cfg d action = some d') (hKeeps : d.KeepsMap action) (h : d.MapAccounted) :
    d'.MapAccounted := by
  cases (Daemon.step_cases hStep).2 with
  | clientConnects _ hState hBrowser =>
      constructor
      · intro port hostPort hLookup
        rw [hBrowser] at hLookup
        rw [hState]
        exact h.mapped port hostPort hLookup
      · intro containerId port fstate hForward
        rw [hBrowser]
        simp only [Daemon.forwardOf, hState] at hForward
        exact h.forwarded containerId port fstate hForward
  | stop =>
      constructor
      · intro port hostPort hLookup
        obtain ⟨hOld, hNone⟩ := lookup_drainAll hLookup
        refine .inr ((h.mapped port hostPort hOld).resolve_left ?_)
        rintro ⟨containerId, fstate, hForward, _⟩
        rw [hNone containerId] at hForward
        cases hForward
      · intro containerId port fstate hForward
        cases hForward
  | @task id input after next _ hTask =>
      have hBound := (d.reachable_portsSound hReach).wellBound id
      unfold Daemon.KeepsMap at hKeeps
      constructor
      · intro port hostPort hLookup
        rw [exists_task_update]
        refine hTask.mapped hBound hKeeps (fun hOld => ?_) hLookup
        rw [← exists_task_iff id]
        exact h.mapped port hostPort hOld
      · intro containerId port fstate hForward
        rw [exists_task_update]
        refine hTask.forwarded hBound hKeeps (fun hOld => ?_) hForward
        rw [← exists_task_iff id]
        exact h.forwarded containerId port fstate hOld

/-- In a run whose steps all keep the port map in line, the map agrees with
the live forwards in every state in which no update is outstanding. -/
theorem browserMap_agrees (run : Run (Daemon.step cfg) (Daemon.start cfg) trace d)
    (hKeeps : Guarded Daemon.KeepsMap trace) :
    Throughout (fun d => d.Quiescent → d.MapAgrees) trace d := by
  have hStart : (Daemon.start cfg).MapAccounted := by
    constructor
    · intro port hostPort hLookup
      cases hLookup
    · intro containerId port fstate hForward
      cases hForward
  have hAccounted : Throughout (fun d => Reachable (Daemon.step cfg) (Daemon.start cfg) d ∧
      d.MapAccounted) trace d := by
    refine run.throughout hKeeps ⟨.refl _, hStart⟩ ?_
    rintro middle action after ⟨hReach, hMiddle⟩ hKeeps hStep
    exact ⟨hReach.tail hStep, Daemon.step_mapAccounted hReach hStep hKeeps hMiddle⟩
  exact ⟨fun entry hEntry => (hAccounted.1 entry hEntry).2.agrees, hAccounted.2.2.agrees⟩

/-- A condition on an action that can be evaluated: a registration is of a new
container id, an addition is of a live forward, a removal of a port that no
container forwards, and any other step is taken by a handler that owes no
update or drains. -/
def Daemon.isPlain (d : Daemon) : Action → Bool
  | .task id _ =>
      match d.tasks id with
      | .forwardBrowser containerId _ port hostPort =>
          (d.forwardOf containerId port).map ForwardState.hostPort == some hostPort
      | .registerInsert containerId _ _ => (d.ctx.state.containers.lookup containerId).isNone
      | .unforwardDrain .. => true
      | .unforwardBrowser _ _ port =>
          !d.ctx.state.containers.any fun _ cstate => (cstate.forwards.lookup port).isSome
      | handler => !handler.owesBrowser
  | _ => true

theorem Daemon.keepsMap_of_isPlain (h : d.isPlain action = true) : d.KeepsMap action := by
  cases action with
  | clientConnects => trivial
  | stop => trivial
  | task id input =>
      simp only [Daemon.isPlain] at h
      simp only [Daemon.KeepsMap]
      generalize d.tasks id = handler at h ⊢
      cases handler with
      | forwardBrowser containerId _ port hostPort =>
          obtain ⟨fstate, hForward, hPort⟩ := Option.map_eq_some_iff.mp (beq_iff_eq.mp h)
          exact .inl ⟨containerId, fstate, hForward, hPort⟩
      | registerInsert containerId _ _ =>
          intro port fstate hForward
          simp [HostState.forwardOf, Option.isNone_iff_eq_none.mp h] at hForward
      | unforwardBrowser _ _ port =>
          intro containerId fstate hForward
          obtain ⟨cstate, hContainer, hPort⟩ := Option.bind_eq_some_iff.mp hForward
          have hAny := (any_iff (fun _ (cstate : ContainerState) => (cstate.forwards.lookup port).isSome)
            d.ctx.state.containers).mpr ⟨containerId, cstate, hContainer, by rw [hPort]; rfl⟩
          dsimp only at h
          rw [hAny] at h
          cases h
      | forwardReserve _ _ _ replaced => cases replaced with
        | none => trivial
        | some => cases h
      | forwardRelease _ _ _ replaced _ => cases replaced with
        | none => trivial
        | some => cases h
      | forwardInsert _ _ _ replaced _ _ _ => cases replaced with
        | none => trivial
        | some => cases h
      | _ => trivial

/-- Two containers forward ports and one port is taken away again: each step
keeps the map in line, and the ports that are left are mapped in the end. -/
theorem browserMap_agrees_withdrawn :
    ∃ trace d, trace.map Prod.snd = withdrawnSchedule ∧
      Run (Daemon.step .basic) (Daemon.start .basic) trace d ∧ Guarded Daemon.KeepsMap trace ∧
      d.ctx.browser.portMap.lookup 8080 = none ∧ d.ctx.browser.portMap.lookup 9090 = some 9090 ∧
      Throughout (fun d => d.Quiescent → d.MapAgrees) trace d := by
  have hRun : (execWhile (Daemon.step .basic) Daemon.isPlain (Daemon.start .basic)
      withdrawnSchedule).any fun d =>
        d.ctx.browser.portMap.lookup 8080 == none && d.ctx.browser.portMap.lookup 9090 == some 9090 := by
    decide
  obtain ⟨d, hExec, hMapped⟩ := (Option.any_eq_true _ _).mp hRun
  simp only [Bool.and_eq_true, beq_iff_eq] at hMapped
  obtain ⟨trace, hActions, run, hPlain⟩ := run_of_execWhile hExec
  have hKeeps : Guarded Daemon.KeepsMap trace :=
    fun entry hEntry => Daemon.keepsMap_of_isPlain (hPlain entry hEntry)
  exact ⟨trace, d, hActions, run, hKeeps, hMapped.1, hMapped.2, browserMap_agrees run hKeeps⟩

/-- The map keeps a port whose forward was removed when its replacement
failed, and loses a port that another container still forwards. -/
theorem browserMap_fails :
    (∃ d, exec (Daemon.step .basic) (Daemon.start .basic) failedReplaceSchedule = some d ∧
      d.Quiescent ∧ ¬d.MapAgrees) ∧
    ∃ d, exec (Daemon.step .basic) (Daemon.start .basic) sharedPortSchedule = some d ∧
      d.Quiescent ∧ ¬d.MapAgrees := by
  constructor
  · have hRun : (exec (Daemon.step .basic) (Daemon.start .basic) failedReplaceSchedule).any fun d =>
        decide (d.ctx.state.containers = (∅ : Map _ _).insert "c" (HostState.newRegistration "h" 1)) &&
          d.ctx.browser.portMap.lookup 8080 == some 8080 &&
          (taskIds failedReplaceSchedule).all fun id => (d.tasks id).owesBrowser == false := by
      decide
    obtain ⟨d, hExec, hState⟩ := (Option.any_eq_true _ _).mp hRun
    simp only [Bool.and_eq_true, beq_iff_eq, decide_eq_true_eq, List.all_eq_true] at hState
    obtain ⟨⟨hContainers, hMapped⟩, hTasks⟩ := hState
    have hQuiescent : d.Quiescent :=
      Daemon.exec_forall_tasks (P := fun handler => handler.owesBrowser = false) hExec rfl hTasks
    refine ⟨d, hExec, hQuiescent, fun h => ?_⟩
    obtain ⟨containerId, fstate, hForward, -⟩ := h.mapped 8080 8080 hMapped
    by_cases hHere : containerId = "c" <;>
      simp [Daemon.forwardOf, HostState.forwardOf, HostState.newRegistration, hContainers, hHere]
        at hForward
  · have hRun : (exec (Daemon.step .basic) (Daemon.start .basic) sharedPortSchedule).any fun d =>
        decide (d.ctx.state.containers.keys = {"a"}) && (d.forwardOf "a" 8080).isSome &&
          d.ctx.browser.portMap.lookup 8080 == none &&
          (taskIds sharedPortSchedule).all fun id => (d.tasks id).owesBrowser == false := by
      decide
    obtain ⟨d, hExec, hState⟩ := (Option.any_eq_true _ _).mp hRun
    simp only [Bool.and_eq_true, beq_iff_eq, decide_eq_true_eq, List.all_eq_true] at hState
    obtain ⟨⟨⟨hContainers, hForward⟩, hMapped⟩, hTasks⟩ := hState
    have hQuiescent : d.Quiescent :=
      Daemon.exec_forall_tasks (P := fun handler => handler.owesBrowser = false) hExec rfl hTasks
    refine ⟨d, hExec, hQuiescent, fun h => ?_⟩
    obtain ⟨fstate, hForward⟩ := Option.isSome_iff_exists.mp hForward
    have hSole : ∀ otherId other, d.forwardOf otherId 8080 = some other → otherId = "a" := by
      intro otherId other hOther
      obtain ⟨cstate, hContainer, -⟩ := Option.bind_eq_some_iff.mp hOther
      have hMember := Finmap.mem_keys.mpr (Finmap.mem_of_lookup_eq_some hContainer)
      rw [hContainers] at hMember
      exact Finset.mem_singleton.mp hMember
    have hLookup := (h.sole "a" 8080 fstate hForward hSole).1
    rw [hMapped] at hLookup
    cases hLookup

end DevcontainerBridge
