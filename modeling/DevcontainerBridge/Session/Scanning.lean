import DevcontainerBridge.Container.PortScan
import DevcontainerBridge.Session.Agreement

/-! What the host forwards in a session is what the last scan of the container
has found under `/proc`, without the ports that the host has rejected since. -/
namespace DevcontainerBridge

open Table Transition Text

def SessionAction.isScan : SessionAction → Bool
  | .container (.scanned ..) => true
  | _ => false

/-- The ports whose rejections are delivered, in order. -/
def rejections (trace : List (Session × SessionAction)) : List UInt16 :=
  trace.filterMap fun entry => entry.2.rejection

/-- The head of the message loop and the sends that lead back to it. -/
def Position.atLoop : Position → Bool
  | .loopHead | .sendingPong | .relaying _ => true
  | _ => false

/-- Where a session is since its last scan. In the tick of the scan nothing is
rejected, and behind it the map holds what the scan has found. -/
def ContainerDaemon.Reflects (cfg : ContainerConfig) (scan : List ListeningPort) (rejected : List UInt16)
    (c : ContainerDaemon) : Prop :=
  rejected = [] ∧ ((∃ rest, c.position = .forwarding scan rest) ∨ ∃ rest, c.position = .unforwarding scan rest) ∨
    c.position.atLoop = true ∧ ∀ port, port ∈ c.forwarded ↔ port ∈ cfg.currentMap scan ∧ port ∉ rejected

variable {ccfg : ContainerConfig} {hcfg : HostConfig} {containerId : String} {registrationId : Nat}
  {c next : ContainerDaemon} {input : SessionInput} {scan : List ListeningPort} {rejected : List UInt16}

namespace ContainerDaemon

/-- Within a tick nothing is received. -/
theorem inTick_of_step (hTick : (∃ rest, c.position = .forwarding scan rest) ∨
      ∃ rest, c.position = .unforwarding scan rest) (hOpen : input.whileOpen = true)
    (hStep : c.step ccfg input = some next) : input.inTick = true := by
  unfold step at hStep
  cases input with
  | proceed | enumerate => rfl
  | sent ok =>
      cases ok with
      | true => rfl
      | false => cases hOpen
  | receive | scanned | scanFailed | relay =>
      obtain ⟨rest, hPosition⟩ | ⟨rest, hPosition⟩ := hTick <;> rw [hPosition] at hStep <;> cases rest <;>
        cases hStep
  | _ => cases hOpen

/-- The map stays where nothing is rejected. -/
theorem reflects_same (hMap : ∀ port, port ∈ c.forwarded ↔ port ∈ ccfg.currentMap scan ∧ port ∉ rejected)
    (hLoop : next.position.atLoop = true) (hSame : next.forwarded = c.forwarded)
    (hNone : (SessionAction.container input).rejection = none) :
    next.Reflects ccfg scan (rejected ++ (SessionAction.container input).rejection.toList) := by
  rw [hNone, Option.toList_none, List.append_nil]
  exact .inr ⟨hLoop, hSame ▸ hMap⟩

theorem Reflects.handleMessage (hHead : c.position = .loopHead)
    (h : ∀ port, port ∈ c.forwarded ↔ port ∈ ccfg.currentMap scan ∧ port ∉ rejected) (message : Message) :
    (c.handleMessage message).Reflects ccfg scan
      (rejected ++ (SessionAction.container (.receive message)).rejection.toList) := by
  unfold ContainerDaemon.handleMessage
  split
  case h_1 => exact reflects_same h rfl rfl rfl
  case h_2 port hostPort =>
    refine .inr ⟨by simp [hHead, record, Position.atLoop], fun other => ?_⟩
    show other ∈ c.forwarded.erase port ↔ _
    rw [Finmap.mem_erase, h other]
    simp only [SessionAction.rejection, Option.toList_some, List.mem_append, List.mem_singleton, not_or]
    tauto
  case h_3 hOther =>
    have hNone : (SessionAction.container (.receive message)).rejection = none := by
      unfold SessionAction.rejection
      split
      case h_1 port hostPort hEq =>
        cases hEq
        exact absurd rfl (hOther port hostPort)
      case h_2 => rfl
    exact reflects_same h (by rw [hHead]; rfl) rfl hNone

/-- Until the next scan, only a rejection changes what the last one has left. -/
theorem Reflects.step (h : c.Reflects ccfg scan rejected) (hSound : c.Sound ccfg) (hOpen : input.whileOpen = true)
    (hScan : (SessionAction.container input).isScan = false) (hStep : c.step ccfg input = some next) :
    next.Reflects ccfg scan (rejected ++ (SessionAction.container input).rejection.toList) := by
  rcases h with ⟨rfl, hTick⟩ | ⟨hLoop, hMap⟩
  · have hInput := inTick_of_step hTick hOpen hStep
    have hNone : (SessionAction.container input).rejection = none := by
      obtain rfl | rfl | ⟨order, rfl⟩ := inTick_cases hInput <;> rfl
    rw [hNone, Option.toList_none, List.append_nil]
    rcases InTick.step (hTick.elim .inl fun hUnforward => .inr (.inl hUnforward)) hSound hInput hStep with
      hForward | hUnforward | ⟨hHead, hSame⟩
    · exact .inl ⟨rfl, .inl hForward⟩
    · exact .inl ⟨rfl, .inr hUnforward⟩
    · exact .inr ⟨by rw [hHead]; rfl, by simpa using hSame⟩
  · unfold ContainerDaemon.step at hStep
    cases hPosition : c.position with
    | loopHead =>
        rw [hPosition] at hStep
        cases input with
        | receive message =>
            cases hStep
            exact .handleMessage hPosition hMap message
        | scanFailed =>
            cases hStep
            exact reflects_same hMap hLoop rfl rfl
        | relay message =>
            cases hStep
            exact reflects_same hMap rfl rfl rfl
        | scanned => cases hScan
        | fail => cases hOpen
        | shutdown => cases hOpen
        | _ => cases hStep
    | sendingPong | relaying =>
        rw [hPosition] at hStep
        cases input with
        | sent ok =>
            cases ok with
            | false => cases hOpen
            | true =>
                cases hStep
                exact reflects_same hMap rfl rfl rfl
        | _ => cases hStep
    | _ =>
        rw [hPosition] at hLoop
        cases hLoop

end ContainerDaemon

namespace Session

variable {s s' start finish : Session} {action : SessionAction} {trace : List (Session × SessionAction)}

/-- A step of the session is one of its container daemon, or leaves it alone. -/
theorem step_container (h : step ccfg hcfg containerId s action = some s') :
    (∃ input, action = .container input ∧ input.whileOpen = true ∧
        s.container.step ccfg input = some s'.container) ∨
      action.rejection = none ∧ s'.container = s.container := by
  unfold step at h
  cases action with
  | container input =>
      obtain ⟨hOpen, hStep, -⟩ := stepContainer_cases h
      exact .inl ⟨input, rfl, hOpen, hStep⟩
  | host input =>
      obtain ⟨-, -, hContainer, -⟩ := stepHost_cases h
      exact .inr ⟨rfl, hContainer⟩
  | notify message =>
      dsimp only at h
      split_ifs at h
      cases h
      exact .inr ⟨rfl, rfl⟩
  | others ctx =>
      dsimp only at h
      split_ifs at h
      cases h
      exact .inr ⟨rfl, rfl⟩

theorem sound_step (hSound : s.container.Sound ccfg) (h : step ccfg hcfg containerId s action = some s') :
    s'.container.Sound ccfg := by
  obtain ⟨input, -, -, hStep⟩ | ⟨-, hSame⟩ := step_container h
  · exact hSound.step hStep
  · exact hSame ▸ hSound

/-- The scan opens its tick. -/
theorem reflects_scanned {order : List (Σ _ : UInt16, ListeningPort)}
    (h : step ccfg hcfg containerId s (.container (.scanned scan order)) = some s') :
    s'.container.Reflects ccfg scan [] := by
  unfold step at h
  obtain ⟨-, hStep, -⟩ := stepContainer_cases h
  unfold ContainerDaemon.step at hStep
  cases hPosition : s.container.position with
  | loopHead =>
      rw [hPosition] at hStep
      have hSession : s.container.stepSession ccfg .loopHead (.scanned scan order) = some s'.container := hStep
      unfold ContainerDaemon.stepSession at hSession
      dsimp only at hSession
      split_ifs at hSession
      exact Option.some.inj hSession ▸ .inl ⟨rfl, .inl ⟨order, rfl⟩⟩
  | reForwarding rest | forwarding _ rest | unforwarding _ rest | farewell rest =>
      rw [hPosition] at hStep
      cases rest <;> cases hStep
  | _ =>
      rw [hPosition] at hStep
      cases hStep

/-- What holds of the container daemon behind a scan, as long as no other one
is made. -/
theorem run_reflects (run : Run (step ccfg hcfg containerId) start trace finish)
    (hSound : start.container.Sound ccfg) (hScan : start.container.Reflects ccfg scan [])
    (hLast : ∀ entry ∈ trace, entry.2.isScan = false) :
    finish.container.Sound ccfg ∧ finish.container.Reflects ccfg scan (rejections trace) := by
  induction run with
  | refl => exact ⟨hSound, hScan⟩
  | @tail trace middle finish action prior last ih =>
      obtain ⟨hMiddle, hReflects⟩ := ih fun entry hEntry => hLast entry (List.mem_append_left _ hEntry)
      have hAction : action.isScan = false := hLast (middle, action) (by simp)
      have hMore : rejections (trace ++ [(middle, action)]) = rejections trace ++ action.rejection.toList := by
        unfold rejections
        rw [List.filterMap_append]
        cases hRejection : action.rejection <;> simp [hRejection]
      rw [hMore]
      refine ⟨sound_step hMiddle last, ?_⟩
      obtain ⟨input, rfl, hOpen, hStep⟩ | ⟨hNone, hSame⟩ := step_container last
      · exact hReflects.step hMiddle hOpen hAction hStep
      · rw [hNone, hSame, Option.toList_none, List.append_nil]
        exact hReflects

end Session

/-- In a session in which every rejection is current when it is delivered, the
host forwards, whenever nothing is on its way, exactly the ports on which
something listened at the last scan, if the filter lets them pass and the host
has not rejected them since. -/
theorem session_reflects {start middle begun finish : Session} {before after : List (Session × SessionAction)}
    {proc : ProcSnapshot} {resolved : Finset UInt16} {order : List (Σ _ : UInt16, ListeningPort)}
    (hStart : start.Begins containerId registrationId)
    (hReach : Reachable (ContainerDaemon.step ccfg) .start start.container)
    (run : Run (Session.step ccfg hcfg containerId) start before middle)
    (hProc : scanListeningPorts proc ccfg.excluded.toFinset resolved = .ok scan)
    (hScan : Session.step ccfg hcfg containerId middle (.container (.scanned scan order)) = some begun)
    (rest : Run (Session.step ccfg hcfg containerId) begun after finish)
    (hAcks : Guarded (Session.AcksCurrent containerId) (before ++ after))
    (hLast : ∀ entry ∈ after, entry.2.isScan = false) (hQuiet : finish.Quiescent containerId registrationId)
    (port : UInt16) :
    (finish.ctx.state.forwardOf containerId port).isSome = true ↔
      (∃ row ∈ dataRows proc.tcp ++ dataRows proc.tcp6, ∃ s, ListenRow row s ∧ s.port = port) ∧
        port ∉ ccfg.excluded ∧ (ccfg.includePorts = [] ∨ port ∈ ccfg.includePorts) ∧ port ∉ rejections after := by
  have hAfter : Guarded (Session.AcksCurrent containerId) after :=
    fun entry hEntry => hAcks entry (List.mem_append_right _ hEntry)
  have hScanned : (SessionAction.container (.scanned scan order)).rejection = none := rfl
  have hCurrent : middle.AcksCurrent containerId (.container (.scanned scan order)) := by
    intro port hPort
    rw [hScanned] at hPort
    cases hPort
  have hSynced : finish.Synced containerId registrationId := by
    have hMiddle := run.invariant hAcks.of_append hStart.synced fun _ _ _ h hAction hStep => h.step hAction hStep
    exact rest.invariant hAfter (hMiddle.step hCurrent hScan) fun _ _ _ h hAction hStep => h.step hAction hStep
  have hSound : middle.container.Sound ccfg := by
    have hFirst := ContainerDaemon.sound_of_reachable hReach
    exact run.invariant hAcks.of_append hFirst fun _ _ _ h _ hStep => Session.sound_step h hStep
  have hReflects := (Session.run_reflects rest (Session.sound_step hSound hScan) (Session.reflects_scanned hScan)
    hLast).2
  rw [← hSynced.agrees hQuiet port]
  rcases hReflects with ⟨-, ⟨more, hPosition⟩ | ⟨more, hPosition⟩⟩ | ⟨-, hMap⟩
  · rw [hQuiet.container] at hPosition
    cases hPosition
  · rw [hQuiet.container] at hPosition
    cases hPosition
  · rw [hMap port, mem_currentMap_iff, mem_scan hProc, List.mem_toFinset]
    tauto

/-- What a scan of `serverProc` finds. -/
def serverScan : List ListeningPort :=
  [{ port := 8080, processName := none, pid := none }, { port := 9201, processName := none, pid := none }]

def serverOrder : List (Σ _ : UInt16, ListeningPort) :=
  serverScan.map fun lp => ⟨lp.port, lp⟩

/-- The host handles a Forward up to its answer. -/
def requestAnswered (port : UInt16) (outcome : List Input) : List SessionAction :=
  let request : List Input := [.receive (.forward port .tcp none none), .proceed, .proceed, .proceed]
  let answer : List Input := outcome ++ [.sent true]
  (request ++ answer).map .host

/-- The rest of the tick of `serverScan`. The host forwards one of the two ports
and rejects the other one. -/
def serverTick : List SessionAction :=
  [.sent true, .sent true, .enumerate serverOrder, .proceed].map .container ++
    requestAnswered 8080 [.bound (some 8080), .timestamp "0", .proceed] ++
    requestAnswered 9201 [.bound none, .proceed] ++
    [.receive (.forwardAck 8080 true 8080), .receive (.forwardAck 9201 false 0)].map .container

/-- Both ports are listed under `/proc`, and one of them is forwarded. -/
theorem session_reflects_server : ∃ before middle begun after finish,
    Run (Session.step .basic .basic "c") freshSession before middle ∧
      Session.step .basic .basic "c" middle (.container (.scanned serverScan serverOrder)) = some begun ∧
      Run (Session.step .basic .basic "c") begun after finish ∧
      (finish.ctx.state.forwardOf "c" 8080).isSome = true ∧ (finish.ctx.state.forwardOf "c" 9201).isSome ≠ true := by
  let check := fun (s : Session) action => decide (s.AcksCurrent "c" action)
  let result := (execWhile (Session.step .basic .basic "c") check freshSession
    ([.enumerate [], .proceed].map .container)).bind fun middle =>
      (Session.step .basic .basic "c" middle (.container (.scanned serverScan serverOrder))).bind fun begun =>
        execWhile (Session.step .basic .basic "c") check begun serverTick
  have hRun : result.any fun s =>
      s.container.position == .loopHead && s.toHost.isEmpty && s.toContainer.isEmpty := by
    decide +kernel
  have hHandler : result.map Session.handler = some (.serving "c" 1) := rfl
  have hConnects : exec (ContainerDaemon.step .basic) .start
      [.connected true, .sent true, .receive (.registerAck true)] = some freshSession.container := rfl
  have hProc : scanListeningPorts serverProc ContainerConfig.basic.excluded.toFinset ∅ = .ok serverScan := by
    decide +kernel
  obtain ⟨finish, hResult, hState⟩ := (Option.any_eq_true _ _).mp hRun
  rw [hResult] at hHandler
  simp only [Bool.and_eq_true, beq_iff_eq, List.isEmpty_iff] at hState
  obtain ⟨middle, hBefore, hResult⟩ := Option.bind_eq_some_iff.mp hResult
  obtain ⟨begun, hScan, hAfter⟩ := Option.bind_eq_some_iff.mp hResult
  obtain ⟨before, -, run, hEarly⟩ := run_of_execWhile hBefore
  obtain ⟨after, hActions, rest, hLate⟩ := run_of_execWhile hAfter
  have hAcks : Guarded (Session.AcksCurrent "c") (before ++ after) :=
    fun entry hEntry => of_decide_eq_true (hEarly.append hLate entry hEntry)
  have hLast : ∀ entry ∈ after, entry.2.isScan = false := by
    intro entry hEntry
    have hMember : entry.2 ∈ serverTick := hActions ▸ List.mem_map_of_mem hEntry
    have hAll : ∀ action ∈ serverTick, action.isScan = false := by decide
    exact hAll entry.2 hMember
  have hQuiet : finish.Quiescent "c" 1 :=
    ⟨hState.1.1, hState.1.2, hState.2, Option.some.inj hHandler⟩
  have hRejected : rejections after = [9201] := by
    have hMap : rejections after = (after.map Prod.snd).filterMap SessionAction.rejection := by
      rw [List.filterMap_map]
      rfl
    rw [hMap, hActions]
    rfl
  have hForwards := session_reflects freshSession_begins (reachable_of_exec hConnects) run hProc hScan rest hAcks
    hLast hQuiet
  have hListed : ListenRow "0: 0:1F90 0:0 0A 0:0 0:0 0 1000 0 5".toList { port := 8080, uid := 1000, inode := 5 } :=
    parseProcNetTcpLine_eq_some_iff.mp (by decide)
  refine ⟨before, middle, begun, after, finish, run, hScan, rest, (hForwards 8080).mpr ?_, fun hThere => ?_⟩
  · exact ⟨⟨_, by decide, _, hListed, rfl⟩, by decide, by decide, by rw [hRejected]; decide⟩
  · have hNever := ((hForwards 9201).mp hThere).2.2.2
    rw [hRejected] at hNever
    exact hNever List.mem_cons_self

end DevcontainerBridge
