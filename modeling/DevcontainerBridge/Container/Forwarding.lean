import DevcontainerBridge.Container.Session
import DevcontainerBridge.Transition.Run

/-! The map of forwarded ports and what the host has been told on the current
connection. They agree at the head of the message loop, however the loops
before it were cut short. -/
namespace DevcontainerBridge

open Table Transition

/-- What one event does to the ports that the connection has forwarded. -/
def SessionEvent.apply (told : Finset UInt16) : SessionEvent → Finset UInt16
  | .forwarded port => insert port told
  | .unforwarded port | .rejected port => told.erase port

/-- The ports that a host knows that has seen these events. -/
def replay (events : List SessionEvent) : Finset UInt16 :=
  events.foldl SessionEvent.apply ∅

/-- The inputs of a scan tick after its scan, as long as no send fails. -/
def SessionInput.inTick : SessionInput → Bool
  | .sent true | .proceed | .enumerate _ => true
  | _ => false

/-- What was told on the connection, by position. -/
def Consistent (cfg : ContainerConfig) (forwarded : ForwardedPorts) (told : Finset UInt16) :
    Position → Prop
  | .loopHead | .sendingPong | .relaying _ => ∀ port, port ∈ told ↔ port ∈ forwarded
  | .sendingRegister | .awaitingAck | .registered => told = ∅
  | .reForwarding rest =>
      (∀ entry ∈ rest, forwarded.lookup entry.1 = some entry.2) ∧
        ∀ port, port ∈ forwarded ↔ port ∈ told ∨ ∃ entry ∈ rest, entry.1 = port
  | .forwarding scan rest =>
      (∀ port, port ∈ told ↔ port ∈ forwarded) ∧
        (∀ entry ∈ rest, (cfg.currentMap scan).lookup entry.1 = some entry.2) ∧
          ∀ port ∈ cfg.currentMap scan, port ∈ forwarded ∨ ∃ entry ∈ rest, entry.1 = port
  | .unforwarding scan rest =>
      (∀ port, port ∈ told ↔ port ∈ forwarded) ∧
        (∀ port, port ∈ forwarded ↔ port ∈ cfg.currentMap scan ∨ port ∈ rest) ∧
          (∀ port ∈ rest, port ∉ cfg.currentMap scan) ∧ rest.Nodup
  | .connecting | .backingOff | .farewell _ | .exited => True

/-- Ports stay in the map under their own number, and only where the filter
lets them pass. -/
def ContainerConfig.Allows (cfg : ContainerConfig) (ports : ForwardedPorts) : Prop :=
  ∀ port lp, ports.lookup port = some lp → lp.port = port ∧ cfg.portFilter.shouldForward lp = true

structure ContainerDaemon.Sound (cfg : ContainerConfig) (c : ContainerDaemon) : Prop where
  allowed : cfg.Allows c.forwarded
  consistent : Consistent cfg c.forwarded (replay c.events) c.position

variable {cfg : ContainerConfig} {c after : ContainerDaemon} {input : SessionInput}
  {scan : List ListeningPort} {ports : ForwardedPorts} {event : SessionEvent}

theorem replay_record (c : ContainerDaemon) (event : SessionEvent) :
    replay (c.record event).events = event.apply (replay c.events) := by
  unfold replay ContainerDaemon.record
  rw [List.foldl_append]
  rfl

theorem allows_empty (cfg : ContainerConfig) : cfg.Allows ∅ := by
  intro port lp hEntry
  cases hEntry

theorem ContainerConfig.Allows.insert (h : cfg.Allows ports) {lp : ListeningPort}
    (hFilter : cfg.portFilter.shouldForward lp = true) : cfg.Allows (ports.insert lp.port lp) := by
  intro port other hEntry
  rw [lookup_insert] at hEntry
  split_ifs at hEntry with hPort
  · cases hEntry
    exact ⟨hPort.symm, hFilter⟩
  · exact h port other hEntry

theorem ContainerConfig.Allows.erase (h : cfg.Allows ports) (port : UInt16) :
    cfg.Allows (ports.erase port) := by
  intro other lp hEntry
  rw [lookup_erase] at hEntry
  split_ifs at hEntry
  exact h other lp hEntry

/-- The map of a scan holds the ports that pass the filter. -/
theorem allows_foldl {found : List ListeningPort} (hFilter : ∀ lp ∈ found, cfg.portFilter.shouldForward lp = true)
    (h : cfg.Allows ports) : cfg.Allows (found.foldl (fun ports lp => ports.insert lp.port lp) ports) := by
  induction found generalizing ports with
  | nil => exact h
  | cons lp found ih =>
      rw [List.foldl_cons]
      apply ih fun other hOther => hFilter other (List.mem_cons_of_mem lp hOther)
      exact h.insert (hFilter lp List.mem_cons_self)

theorem allows_currentMap (cfg : ContainerConfig) (scan : List ListeningPort) :
    cfg.Allows (cfg.currentMap scan) := by
  apply allows_foldl _ (allows_empty cfg)
  intro lp hMember
  exact (List.mem_filter.mp hMember).2

theorem mem_foldl_insert {found : List ListeningPort} {port : UInt16} :
    port ∈ found.foldl (fun ports lp => ports.insert lp.port lp) ports ↔
      port ∈ found.map ListeningPort.port ∨ port ∈ ports := by
  induction found generalizing ports with
  | nil => simp
  | cons lp found ih => rw [List.foldl_cons, ih, Finmap.mem_insert, List.map_cons, List.mem_cons,
      or_left_comm, or_assoc]

theorem mem_currentMap {port : UInt16} :
    port ∈ cfg.currentMap scan ↔ port ∈ (cfg.portFilter.filter scan).map ListeningPort.port := by
  unfold ContainerConfig.currentMap
  rw [mem_foldl_insert, or_iff_left Finmap.notMem_empty]

/-- The filter of `run` looks at the port alone. -/
theorem shouldForward_iff (lp : ListeningPort) :
    cfg.portFilter.shouldForward lp = true ↔
      lp.port ∉ cfg.excluded ∧ (cfg.includePorts = [] ∨ lp.port ∈ cfg.includePorts) := by
  unfold PortFilter.shouldForward ContainerConfig.portFilter
  dsimp only
  split_ifs with hExcluded hIncluded
  · simp [hExcluded]
  · simp [hIncluded.1, hIncluded.2]
  · rw [Classical.not_and_iff_not_or_not, not_not, not_not] at hIncluded
    exact ⟨fun _ => ⟨hExcluded, hIncluded⟩, fun _ => rfl⟩

theorem mem_currentMap_iff {port : UInt16} : port ∈ cfg.currentMap scan ↔
    port ∈ scan.map ListeningPort.port ∧ port ∉ cfg.excluded ∧
      (cfg.includePorts = [] ∨ port ∈ cfg.includePorts) := by
  rw [mem_currentMap, PortFilter.filter, List.mem_map, List.mem_map]
  constructor
  · rintro ⟨lp, hMember, rfl⟩
    obtain ⟨hScan, hFilter⟩ := List.mem_filter.mp hMember
    exact ⟨⟨lp, hScan, rfl⟩, (shouldForward_iff lp).mp hFilter⟩
  · rintro ⟨⟨lp, hScan, rfl⟩, hFilter⟩
    exact ⟨lp, List.mem_filter.mpr ⟨hScan, (shouldForward_iff lp).mpr hFilter⟩, rfl⟩

theorem mem_of_enumerates_iff {order : List (Σ _ : UInt16, ListeningPort)}
    (hOrder : Enumerates order ports) (port : UInt16) :
    port ∈ ports ↔ ∃ entry ∈ order, entry.1 = port := by
  rw [Finmap.mem_iff]
  constructor
  · rintro ⟨lp, hEntry⟩
    exact ⟨⟨port, lp⟩, (mem_of_enumerates hOrder port lp).mpr hEntry, rfl⟩
  · rintro ⟨entry, hMember, rfl⟩
    exact ⟨entry.2, (mem_of_enumerates hOrder entry.1 entry.2).mp hMember⟩

theorem nodup_keys_of_enumerates {order : List (Σ _ : UInt16, ListeningPort)}
    (hOrder : Enumerates order ports) : (order.map Sigma.fst).Nodup := by
  have hKeys : order.NodupKeys := by
    rw [← Multiset.coe_nodupKeys, hOrder]
    exact ports.nodupKeys
  exact hKeys

theorem ContainerDaemon.sound_start (cfg : ContainerConfig) : Sound cfg .start :=
  ⟨allows_empty cfg, trivial⟩

namespace ContainerDaemon

/-- The reconnection loop tells a new connection what the map holds. -/
theorem Sound.stepRun (h : Sound cfg c) (hStep : c.stepRun c.position input = some after) :
    Sound cfg after := by
  have hConsistent := h.consistent
  unfold ContainerDaemon.stepRun at hStep
  split at hStep
  case h_1 ok hPosition =>
    cases ok
    · cases hStep
      exact ⟨h.allowed, trivial⟩
    · cases hStep
      exact ⟨h.allowed, rfl⟩
  case h_2 ok hPosition =>
    rw [hPosition] at hConsistent
    cases ok
    · cases hStep
      exact ⟨h.allowed, trivial⟩
    · cases hStep
      exact ⟨h.allowed, hConsistent⟩
  case h_3 message hPosition =>
    rw [hPosition] at hConsistent
    cases hStep
    refine ⟨h.allowed, ?_⟩
    split
    · exact hConsistent
    · trivial
    · trivial
  case h_4 => cases hStep; exact ⟨h.allowed, trivial⟩
  case h_5 isShutdown _ =>
    cases isShutdown
    · cases hStep
      exact ⟨h.allowed, trivial⟩
    · cases hStep
      exact ⟨h.allowed, trivial⟩
  case h_6 order hPosition =>
    rw [hPosition] at hConsistent
    have hNothing : replay c.events = ∅ := hConsistent
    split_ifs at hStep with hOrder
    cases hStep
    refine ⟨h.allowed, fun entry hEntry => (mem_of_enumerates hOrder _ _).mp hEntry, fun port => ?_⟩
    show port ∈ c.forwarded ↔ port ∈ replay c.events ∨ _
    rw [hNothing, mem_of_enumerates_iff hOrder]
    simp
  case h_7 entry rest ok hPosition =>
    rw [hPosition] at hConsistent
    obtain ⟨hRest, hTold⟩ := hConsistent
    cases ok
    · cases hStep
      exact ⟨h.allowed, trivial⟩
    · cases hStep
      refine ⟨h.allowed, fun other hOther => hRest other (List.mem_cons_of_mem entry hOther), fun port => ?_⟩
      show port ∈ c.forwarded ↔ port ∈ replay (c.record (.forwarded entry.1)).events ∨ _
      rw [replay_record, hTold port]
      simp [SessionEvent.apply, eq_comm, or_assoc, or_left_comm]
  case h_8 hPosition =>
    rw [hPosition] at hConsistent
    cases hStep
    refine ⟨h.allowed, fun port => ?_⟩
    show port ∈ replay c.events ↔ port ∈ c.forwarded
    rw [hConsistent.2 port]
    simp
  case h_9 => cases hStep

/-- Within a scan tick each send changes both sides alike. -/
theorem Sound.stepScan (h : Sound cfg c) (hStep : c.stepScan c.position input = some after) :
    Sound cfg after := by
  have hConsistent := h.consistent
  unfold ContainerDaemon.stepScan at hStep
  split at hStep
  case h_1 scan entry rest hPosition =>
    rw [hPosition] at hConsistent
    obtain ⟨hTold, hRest, hFound⟩ := hConsistent
    split_ifs at hStep with hHere
    cases hStep
    refine ⟨h.allowed, hTold, fun other hOther => hRest other (List.mem_cons_of_mem entry hOther), ?_⟩
    intro port hPort
    rcases hFound port hPort with hOld | ⟨other, hOther, rfl⟩
    · exact .inl hOld
    · rcases List.mem_cons.mp hOther with rfl | hLater
      · exact .inl hHere
      · exact .inr ⟨other, hLater, rfl⟩
  case h_2 scan entry rest ok hPosition =>
    rw [hPosition] at hConsistent
    obtain ⟨hTold, hRest, hFound⟩ := hConsistent
    split_ifs at hStep with hHere hOk
    · cases hStep
      have hEntry := hRest entry List.mem_cons_self
      obtain ⟨hPort, hFilter⟩ := allows_currentMap cfg scan entry.1 entry.2 hEntry
      refine ⟨?_, ?_, fun other hOther => hRest other (List.mem_cons_of_mem entry hOther), ?_⟩
      · show cfg.Allows (c.forwarded.insert entry.1 entry.2)
        rw [← hPort]
        exact h.allowed.insert hFilter
      · intro port
        show port ∈ replay (c.record (.forwarded entry.1)).events ↔ port ∈ c.forwarded.insert entry.1 entry.2
        rw [replay_record, Finmap.mem_insert, ← hTold port]
        exact Finset.mem_insert
      · intro port hFoundPort
        show port ∈ c.forwarded.insert entry.1 entry.2 ∨ _
        rw [Finmap.mem_insert]
        rcases hFound port hFoundPort with hOld | ⟨other, hOther, rfl⟩
        · exact .inl (.inr hOld)
        · rcases List.mem_cons.mp hOther with rfl | hLater
          · exact .inl (.inl rfl)
          · exact .inr ⟨other, hLater, rfl⟩
    · cases hStep
      exact ⟨h.allowed, trivial⟩
  case h_3 scan port rest ok hPosition =>
    rw [hPosition] at hConsistent
    obtain ⟨hTold, hForwarded, hGone, hNodup⟩ := hConsistent
    obtain ⟨hNotLater, hNodup'⟩ := List.nodup_cons.mp hNodup
    split_ifs at hStep with hOk
    · cases hStep
      refine ⟨h.allowed.erase port, ?_, ?_, fun other hOther => hGone other (List.mem_cons_of_mem port hOther),
        hNodup'⟩
      · intro other
        show other ∈ replay (c.record (.unforwarded port)).events ↔ other ∈ c.forwarded.erase port
        rw [replay_record, Finmap.mem_erase, ← hTold other]
        exact Finset.mem_erase
      · intro other
        show other ∈ c.forwarded.erase port ↔ _
        rw [Finmap.mem_erase, hForwarded other]
        by_cases hSame : other = port
        · subst hSame
          simp [hNotLater, hGone other List.mem_cons_self]
        · simp [hSame]
    · cases hStep
      exact ⟨h.allowed, trivial⟩
  case h_4 scan hPosition =>
    rw [hPosition] at hConsistent
    cases hStep
    exact ⟨h.allowed, hConsistent.1⟩
  case h_5 => cases hStep

theorem Sound.handleMessage (h : Sound cfg c) (hPosition : c.position = .loopHead) (message : Message) :
    Sound cfg (c.handleMessage message) := by
  have hConsistent := h.consistent
  rw [hPosition] at hConsistent
  unfold ContainerDaemon.handleMessage
  split
  case h_1 => exact ⟨h.allowed, hConsistent⟩
  case h_2 port hostPort =>
    refine ⟨h.allowed.erase port, ?_⟩
    show Consistent cfg (c.forwarded.erase port) (replay (c.record (.rejected port)).events) c.position
    rw [hPosition, replay_record]
    intro other
    rw [Finmap.mem_erase, ← hConsistent other]
    exact Finset.mem_erase
  case h_3 => exact h

theorem Sound.stepSession (h : Sound cfg c) (hStep : c.stepSession cfg c.position input = some after) :
    Sound cfg after := by
  have hConsistent := h.consistent
  unfold ContainerDaemon.stepSession at hStep
  split at hStep
  case h_1 scan order hPosition =>
    rw [hPosition] at hConsistent
    split_ifs at hStep with hOrder
    cases hStep
    refine ⟨h.allowed, hConsistent, fun entry hEntry => (mem_of_enumerates hOrder _ _).mp hEntry, ?_⟩
    intro port hPort
    exact .inr ((mem_of_enumerates_iff hOrder port).mp hPort)
  case h_2 => cases hStep; exact h
  case h_3 message hPosition =>
    cases hStep
    exact h.handleMessage hPosition message
  case h_4 => cases hStep; exact ⟨h.allowed, trivial⟩
  case h_5 message hPosition =>
    rw [hPosition] at hConsistent
    cases hStep
    exact ⟨h.allowed, hConsistent⟩
  case h_6 =>
    split_ifs at hStep
    cases hStep
    exact ⟨h.allowed, trivial⟩
  case h_7 scan order hPosition =>
    rw [hPosition] at hConsistent
    obtain ⟨hTold, -, hFound⟩ := hConsistent
    split_ifs at hStep with hOrder
    cases hStep
    have hRemoved : ∀ port, port ∈ removedPorts cfg scan order ↔
        port ∈ c.forwarded ∧ port ∉ cfg.currentMap scan := by
      intro port
      rw [mem_of_enumerates_iff hOrder, removedPorts, List.mem_filter, List.mem_map, decide_eq_true_eq]
    refine ⟨h.allowed, hTold, fun port => ?_, fun port hPort => ((hRemoved port).mp hPort).2, ?_⟩
    · show port ∈ c.forwarded ↔ _
      rw [hRemoved port]
      constructor
      · intro hHere
        by_cases hScan : port ∈ cfg.currentMap scan
        · exact .inl hScan
        · exact .inr ⟨hHere, hScan⟩
      · rintro (hScan | ⟨hHere, -⟩)
        · rcases hFound port hScan with hHere | ⟨entry, hEntry, -⟩
          · exact hHere
          · cases hEntry
        · exact hHere
    · exact (nodup_keys_of_enumerates hOrder).filter _
  case h_8 ok hPosition =>
    rw [hPosition] at hConsistent
    cases ok
    · cases hStep
      exact ⟨h.allowed, trivial⟩
    · cases hStep
      exact ⟨h.allowed, hConsistent⟩
  case h_9 message ok hPosition =>
    rw [hPosition] at hConsistent
    cases ok
    · cases hStep
      exact ⟨h.allowed, trivial⟩
    · cases hStep
      exact ⟨h.allowed, hConsistent⟩
  case h_10 => cases hStep; exact ⟨h.allowed, trivial⟩
  case h_11 => cases hStep; exact ⟨h.allowed, trivial⟩
  case h_12 => cases hStep

theorem step_cases (hStep : c.step cfg input = some after) :
    c.stepRun c.position input = some after ∨ c.stepScan c.position input = some after ∨
      c.stepSession cfg c.position input = some after := by
  unfold ContainerDaemon.step at hStep
  rcases (Option.orElse_eq_some _ _ _).mp hStep with hRun | ⟨-, hRest⟩
  · exact .inl hRun
  · rcases (Option.orElse_eq_some _ _ _).mp hRest with hScan | ⟨-, hSession⟩
    · exact .inr (.inl hScan)
    · exact .inr (.inr hSession)

theorem Sound.step (h : Sound cfg c) (hStep : c.step cfg input = some after) : Sound cfg after := by
  rcases step_cases hStep with hRun | hScan | hSession
  · exact h.stepRun hRun
  · exact h.stepScan hScan
  · exact h.stepSession hSession

theorem sound_of_reachable (hReach : Reachable (step cfg) start c) : Sound cfg c :=
  hReach.invariant (Sound cfg) (sound_start cfg) fun _ _ _ h hStep => h.step hStep

/-- Where a scan tick stands, and what it leaves at its end. -/
def InTick (cfg : ContainerConfig) (scan : List ListeningPort) (c : ContainerDaemon) : Prop :=
  (∃ rest, c.position = .forwarding scan rest) ∨ (∃ rest, c.position = .unforwarding scan rest) ∨
    c.position = .loopHead ∧ ∀ port, port ∈ c.forwarded ↔ port ∈ cfg.currentMap scan

theorem inTick_cases (h : input.inTick = true) :
    input = .sent true ∨ input = .proceed ∨ ∃ order, input = .enumerate order := by
  unfold SessionInput.inTick at h
  split at h
  · exact .inl rfl
  · exact .inr (.inl rfl)
  · exact .inr (.inr ⟨_, rfl⟩)
  · cases h

/-- Until one of its sends fails, a tick goes on with its own scan. -/
theorem InTick.step (h : InTick cfg scan c) (hSound : Sound cfg c) (hInput : input.inTick = true)
    (hStep : c.step cfg input = some after) : InTick cfg scan after := by
  have hConsistent := hSound.consistent
  rcases h with ⟨rest, hPosition⟩ | ⟨rest, hPosition⟩ | ⟨hPosition, -⟩
  · rcases step_cases hStep with hRun | hScan | hSession
    · rw [hPosition] at hRun
      cases hRun
    · rw [hPosition] at hScan
      rcases inTick_cases hInput with rfl | rfl | ⟨order, rfl⟩
      · cases rest with
        | nil => cases hScan
        | cons entry rest =>
            simp only [stepScan, if_true] at hScan
            split_ifs at hScan
            cases hScan
            exact .inl ⟨rest, rfl⟩
      · cases rest with
        | nil => cases hScan
        | cons entry rest =>
            simp only [stepScan] at hScan
            split_ifs at hScan
            cases hScan
            exact .inl ⟨rest, rfl⟩
      · cases rest <;> cases hScan
    · rw [hPosition] at hSession
      rcases inTick_cases hInput with rfl | rfl | ⟨order, rfl⟩
      · cases rest <;> cases hSession
      · cases rest <;> cases hSession
      · cases rest with
        | cons entry rest => cases hSession
        | nil =>
            simp only [stepSession] at hSession
            split_ifs at hSession
            cases hSession
            exact .inr (.inl ⟨_, rfl⟩)
  · rcases step_cases hStep with hRun | hScan | hSession
    · rw [hPosition] at hRun
      cases hRun
    · rw [hPosition] at hScan hConsistent
      rcases inTick_cases hInput with rfl | rfl | ⟨order, rfl⟩
      · cases rest with
        | nil => cases hScan
        | cons port rest =>
            cases hScan
            exact .inr (.inl ⟨rest, rfl⟩)
      · cases rest with
        | cons port rest => cases hScan
        | nil =>
            cases hScan
            refine .inr (.inr ⟨rfl, fun port => (hConsistent.2.1 port).trans ?_⟩)
            simp
      · cases rest <;> cases hScan
    · rw [hPosition] at hSession
      rcases inTick_cases hInput with rfl | rfl | ⟨order, rfl⟩ <;> cases rest <;> cases hSession
  · unfold ContainerDaemon.step at hStep
    rw [hPosition] at hStep
    rcases inTick_cases hInput with rfl | rfl | ⟨order, rfl⟩ <;> cases hStep

/-- A scan tick whose sends all succeed ends with what the scan has found. -/
theorem tick_forwarded (hSound : Sound cfg c) (hHead : c.position = .loopHead)
    {order : List (Σ _ : UInt16, ListeningPort)} {begun finish : ContainerDaemon}
    {trace : List (ContainerDaemon × SessionInput)} (hScan : c.step cfg (.scanned scan order) = some begun)
    (run : Run (step cfg) begun trace finish) (hTick : ∀ entry ∈ trace, entry.2.inTick = true)
    (hEnd : finish.position = .loopHead) (port : UInt16) :
    port ∈ finish.forwarded ↔ port ∈ (cfg.portFilter.filter scan).map ListeningPort.port := by
  have hBegun : InTick cfg scan begun := by
    unfold ContainerDaemon.step at hScan
    rw [hHead] at hScan
    have hSession : c.stepSession cfg .loopHead (.scanned scan order) = some begun := hScan
    simp only [stepSession] at hSession
    split_ifs at hSession
    cases hSession
    exact .inl ⟨order, rfl⟩
  have hGuard : Guarded (fun _ input => input.inTick = true) trace := hTick
  have hFinish : Sound cfg finish ∧ InTick cfg scan finish := by
    apply run.invariant hGuard ⟨hSound.step hScan, hBegun⟩
    intro middle input after h hInput hStep
    exact ⟨h.1.step hStep, h.2.step h.1 hInput hStep⟩
  rcases hFinish.2 with ⟨rest, hPosition⟩ | ⟨rest, hPosition⟩ | ⟨-, hSame⟩
  · rw [hEnd] at hPosition
    cases hPosition
  · rw [hEnd] at hPosition
    cases hPosition
  · rw [hSame port, mem_currentMap]

/-- What is being sent in a Forward has passed the filter. -/
theorem Sound.outgoing_forward (h : Sound cfg c) {port : UInt16} {protocol : Protocol}
    {processName : Option String} {pid : Option UInt32}
    (hOutgoing : c.outgoing cfg = some (.forward port protocol processName pid)) :
    cfg.portFilter.shouldForward { port := port, processName := processName, pid := pid } = true := by
  have hConsistent := h.consistent
  have hEntry : ∀ (entry : Σ _ : UInt16, ListeningPort) (ports : ForwardedPorts), cfg.Allows ports →
      ports.lookup entry.1 = some entry.2 →
      forwardMessage entry = .forward port protocol processName pid →
      cfg.portFilter.shouldForward { port := port, processName := processName, pid := pid } = true := by
    intro entry ports hAllows hLookup hMessage
    obtain ⟨hPort, hFilter⟩ := hAllows entry.1 entry.2 hLookup
    cases hMessage
    rw [← hPort]
    exact hFilter
  unfold ContainerDaemon.outgoing at hOutgoing
  split at hOutgoing
  case h_1 => cases hOutgoing
  case h_2 entry rest hPosition =>
    rw [hPosition] at hConsistent
    exact hEntry entry _ h.allowed (hConsistent.1 entry List.mem_cons_self) (Option.some.inj hOutgoing)
  case h_3 scan entry rest hPosition =>
    rw [hPosition] at hConsistent
    split_ifs at hOutgoing
    exact hEntry entry _ (allows_currentMap cfg scan) (hConsistent.2.1 entry List.mem_cons_self)
      (Option.some.inj hOutgoing)
  case h_4 => cases hOutgoing
  case h_5 => cases hOutgoing
  case h_6 relay _ =>
    cases relay <;> cases hOutgoing
  case h_7 => cases hOutgoing
  case h_8 => cases hOutgoing

end ContainerDaemon

theorem PortFilter.notMem_of_shouldForward {filter : PortFilter} {lp : ListeningPort}
    (h : filter.shouldForward lp = true) : lp.port ∉ filter.excludePorts := by
  intro hExcluded
  unfold PortFilter.shouldForward at h
  rw [if_pos hExcluded] at h
  cases h

/-- The map of forwarded ports is the replay of what the connection has told
the host, a tick that is not cut short leaves what its scan has found, and no
excluded port is ever sent. -/
theorem forwarded_replays (hReach : Reachable (ContainerDaemon.step cfg) .start c) :
    (c.position = .loopHead → replay c.events = c.forwarded.keys) ∧
    (∀ scan order begun trace finish, c.position = .loopHead →
      c.step cfg (.scanned scan order) = some begun → Run (ContainerDaemon.step cfg) begun trace finish →
      (∀ entry ∈ trace, entry.2.inTick = true) → finish.position = .loopHead →
      finish.forwarded.keys = ((cfg.portFilter.filter scan).map ListeningPort.port).toFinset) ∧
    ∀ port protocol processName pid,
      c.outgoing cfg = some (.forward port protocol processName pid) →
      port ≠ cfg.controlPort ∧ port ≠ cfg.dataPort ∧ port ∉ cfg.excludePorts ∧
        cfg.portFilter.shouldForward { port := port, processName := processName, pid := pid } = true := by
  have hSound := ContainerDaemon.sound_of_reachable hReach
  refine ⟨fun hHead => ?_, fun scan order begun trace finish hHead hScan run hTick hEnd => ?_, ?_⟩
  · have hConsistent := hSound.consistent
    rw [hHead] at hConsistent
    ext port
    rw [Finmap.mem_keys]
    exact hConsistent port
  · ext port
    rw [Finmap.mem_keys, List.mem_toFinset]
    exact ContainerDaemon.tick_forwarded hSound hHead hScan run hTick hEnd port
  · intro port protocol processName pid hOutgoing
    have hFilter := hSound.outgoing_forward hOutgoing
    have hExcluded : port ∉ cfg.excluded := PortFilter.notMem_of_shouldForward hFilter
    unfold ContainerConfig.excluded at hExcluded
    rw [List.mem_cons, List.mem_cons, not_or, not_or] at hExcluded
    exact ⟨hExcluded.1, hExcluded.2.1, hExcluded.2.2, hFilter⟩

/-- A container daemon with the default ports and no filter. -/
def ContainerConfig.basic : ContainerConfig where
  controlPort := 19285
  dataPort := 19286
  excludePorts := []
  includePorts := []
  containerId := "c"
  authToken := ""

def webPort : ListeningPort := { port := 8080, processName := some "node", pid := some 42 }

/-- A first connection forwards a port and is lost in the next tick; a second
one forwards the port again, and the host rejects it. -/
def reconnectSchedule : List SessionInput :=
  [.connected true, .sent true, .receive (.registerAck true), .enumerate [], .proceed,
    .scanned [webPort] [⟨8080, webPort⟩], .sent true, .enumerate [⟨8080, webPort⟩], .proceed,
    .scanned [] [], .enumerate [⟨8080, webPort⟩], .sent false, .waited false,
    .connected true, .sent true, .receive (.registerAck true), .enumerate [⟨8080, webPort⟩], .sent true,
    .proceed, .receive (.forwardAck 8080 false 0)]

theorem forwarded_replays_reconnect :
    ∃ c, exec (ContainerDaemon.step .basic) .start reconnectSchedule = some c ∧
      c.position = .loopHead ∧ c.events = [.forwarded 8080, .rejected 8080] ∧
      replay c.events = c.forwarded.keys := by
  have hRun : (exec (ContainerDaemon.step .basic) .start reconnectSchedule).any fun c =>
      decide (c.position = .loopHead) && c.events == [.forwarded 8080, .rejected 8080] := by
    decide
  obtain ⟨c, hExec, hState⟩ := (Option.any_eq_true _ _).mp hRun
  simp only [Bool.and_eq_true, beq_iff_eq, decide_eq_true_eq] at hState
  exact ⟨c, hExec, hState.1, hState.2, (forwarded_replays (reachable_of_exec hExec)).1 hState.1⟩

end DevcontainerBridge
