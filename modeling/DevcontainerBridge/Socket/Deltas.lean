import DevcontainerBridge.Socket.Mirrors

/-! What the scans report against what the scanner knows. The removed and the
newly found sockets of every scan lead from one set of known sockets to the
next, and the host's table follows it. -/
namespace DevcontainerBridge

open Table Transition

namespace SocketScanner

/-- What one scan of a snapshot reports and leaves behind. -/
structure Deltas (sockets : List HostPath) (scanner : SocketScanner) (found : List (HostPath × SocketInfo))
    (removed : List SocketInfo) (after : SocketScanner) : Prop where
  gone : ∀ info, info ∈ removed ↔ ∃ path, scanner.known.lookup path = some info ∧ path ∉ sockets
  added : ∀ path info, (path, info) ∈ found ↔ after.known.lookup path = some info ∧ path ∉ scanner.known
  once : removed.Nodup ∧ found.Nodup
  /-- a socket keeps its identifier while it is known -/
  kept : ∀ path info, scanner.known.lookup path = some info →
    after.known.lookup path = if path ∈ sockets then some info else none
  covered : ∀ path ∈ sockets, path.bytes.length ≤ maxUnixSocketPath →
    path ∈ after.known ∨ after.known.keys.card = after.maxSocketForwards

/-- What the loop over the current paths adds. -/
structure Discovered (order : List HostPath) (scanner : SocketScanner) (found : List (HostPath × SocketInfo))
    (after : SocketScanner) : Prop where
  limit : after.maxSocketForwards = scanner.maxSocketForwards
  known : ∀ path info, after.known.lookup path = some info ↔
    scanner.known.lookup path = some info ∨ (path, info) ∈ found
  new : ∀ path info, (path, info) ∈ found → path ∈ order ∧ path ∉ scanner.known
  once : found.Nodup
  card : scanner.known.keys.card ≤ scanner.maxSocketForwards → after.known.keys.card ≤ after.maxSocketForwards
  full : ∀ path ∈ order, path ∈ after.known ∨ after.maxSocketForwards ≤ after.known.keys.card

variable {scanner after : SocketScanner} {uuid : HostPath → String} {path : HostPath} {info : SocketInfo}
  {sockets order : List HostPath} {found : List (HostPath × SocketInfo)} {removed : List SocketInfo}
  {knownOrder : List (Σ _ : HostPath, SocketInfo)}

theorem discover_discovered (uuid : HostPath → String) (order : List HostPath) (scanner : SocketScanner) :
    Discovered order scanner (discover uuid order scanner).1 (discover uuid order scanner).2 := by
  induction order generalizing scanner with
  | nil =>
      exact ⟨rfl, fun _ _ => by simp [discover], fun _ _ hFound => absurd hFound List.not_mem_nil, .nil,
        fun h => h, fun _ hPath => absurd hPath List.not_mem_nil⟩
  | cons first rest ih =>
      rw [discover]
      split_ifs with hKnown hFull
      · obtain ⟨hLimit, hLookup, hNew, hOnce, hCard, hCovered⟩ := ih scanner
        refine ⟨hLimit, hLookup, fun path info hFound => ?_, hOnce, hCard, fun path hPath => ?_⟩
        · exact ⟨List.mem_cons_of_mem first (hNew path info hFound).1, (hNew path info hFound).2⟩
        · rcases List.mem_cons.mp hPath with rfl | hRest
          · obtain ⟨info, hInfo⟩ := Finmap.mem_iff.mp hKnown
            exact .inl (Finmap.mem_of_lookup_eq_some ((hLookup path info).mpr (.inl hInfo)))
          · exact hCovered path hRest
      · exact ⟨rfl, fun _ _ => by simp, fun _ _ hFound => absurd hFound List.not_mem_nil, .nil, fun h => h,
          fun _ _ => .inr hFull⟩
      · obtain ⟨hLimit, hLookup, hNew, hOnce, hCard, hCovered⟩ :=
          ih { scanner with known := scanner.known.insert first (scanner.describe uuid first) }
        have hNone := Finmap.lookup_eq_none.mpr hKnown
        have hFirst : (discover uuid rest
            { scanner with known := scanner.known.insert first (scanner.describe uuid first) }).2.known.lookup first =
              some (scanner.describe uuid first) := by
          rw [hLookup, lookup_insert, if_pos rfl]
          exact .inl rfl
        refine ⟨hLimit, fun path info => ?_, fun path info hFound => ?_, ?_, fun hSmall => hCard ?_, ?_⟩
        · rw [hLookup, lookup_insert, List.mem_cons, Prod.mk.injEq]
          split_ifs with hHere
          · rw [hHere, hNone]
            simp [eq_comm]
          · simp [hHere]
        · rcases List.mem_cons.mp hFound with hHere | hLater
          · cases hHere
            exact ⟨List.mem_cons_self, hKnown⟩
          · obtain ⟨hRest, hNotIn⟩ := hNew path info hLater
            exact ⟨List.mem_cons_of_mem first hRest, fun hMem => hNotIn (Finmap.mem_insert.mpr (.inr hMem))⟩
        · refine List.nodup_cons.mpr ⟨fun hAgain => ?_, hOnce⟩
          exact (hNew _ _ hAgain).2 (Finmap.mem_insert.mpr (.inl rfl))
        · show (scanner.known.insert first _).keys.card ≤ _
          rw [card_keys_insert_of_notMem _ _ _ hNone]
          exact Nat.succ_le_of_lt (Nat.lt_of_not_ge hFull)
        · intro path hPath
          rcases List.mem_cons.mp hPath with rfl | hRest
          · exact .inl (Finmap.mem_of_lookup_eq_some hFirst)
          · exact hCovered path hRest

/-- The first half of a scan forgets the sockets that are gone. -/
theorem lookup_forgotten (hKnown : Enumerates knownOrder scanner.known) :
    ((knownOrder.filter fun entry => entry.1 ∉ order).foldl (fun known entry => known.erase entry.1)
      scanner.known).lookup path = some info ↔ scanner.known.lookup path = some info ∧ path ∈ order := by
  rw [lookup_foldl_erase (fun path _ => path)]
  refine and_congr_right fun hHere => ⟨fun h => ?_, fun hOrder entry hEntry hSame => ?_⟩
  · by_contra hGone
    have hMem := (mem_of_enumerates hKnown path info).mpr hHere
    exact h ⟨path, info⟩ (List.mem_filter.mpr ⟨hMem, by simpa using hGone⟩) rfl
  · have hNotIn := (List.mem_filter.mp hEntry).2
    rw [hSame] at hNotIn
    simp [hOrder] at hNotIn

theorem mem_currentPaths : path ∈ currentPaths sockets ↔
    path ∈ sockets ∧ path.toStringLossy.utf8ByteSize ≤ maxUnixSocketPath := by
  rw [currentPaths, List.mem_dedup, List.mem_filter, decide_eq_true_eq]

/-- What a scanner may know: no more sockets than it is allowed to track, none
with a long path, and no two under one identifier. -/
structure Sound (scanner : SocketScanner) : Prop where
  limit : scanner.known.keys.card ≤ scanner.maxSocketForwards
  short : ∀ path info, scanner.known.lookup path = some info →
    path.toStringLossy.utf8ByteSize ≤ maxUnixSocketPath
  unique : ∀ path other info otherInfo, scanner.known.lookup path = some info →
    scanner.known.lookup other = some otherInfo → info.socketId = otherInfo.socketId → path = other

theorem card_forgotten (known : Map HostPath SocketInfo) (entries : List (Σ _ : HostPath, SocketInfo)) :
    (entries.foldl (fun known entry => known.erase entry.1) known).keys.card ≤ known.keys.card := by
  induction entries generalizing known with
  | nil => exact le_rfl
  | cons entry entries ih => exact (ih _).trans (card_keys_erase_le known entry.1)

/-- The sockets whose paths the loop goes through and that are known. -/
theorem Sound.mem_order_iff (h : scanner.Sound) (hOrder : order.Perm (currentPaths sockets))
    (hHere : scanner.known.lookup path = some info) : path ∈ order ↔ path ∈ sockets := by
  rw [hOrder.mem_iff, mem_currentPaths]
  exact and_iff_left (h.short path info hHere)

theorem Sound.nodup_removed (h : scanner.Sound) (hKnown : Enumerates knownOrder scanner.known) :
    ((knownOrder.filter fun entry => entry.1 ∉ order).map Sigma.snd).Nodup := by
  have hNodup : knownOrder.Nodup := by
    apply List.NodupKeys.nodup
    rw [← Multiset.coe_nodupKeys, hKnown]
    exact scanner.known.nodupKeys
  refine (hNodup.filter _).map_on fun left hLeft right hRight hSame => ?_
  have hLookup : ∀ entry ∈ knownOrder, scanner.known.lookup entry.1 = some entry.2 :=
    fun entry hEntry => (mem_of_enumerates hKnown entry.1 entry.2).mp hEntry
  have hKey := h.unique _ _ _ _ (hLookup left (List.mem_filter.mp hLeft).1)
    (hLookup right (List.mem_filter.mp hRight).1) (congrArg SocketInfo.socketId hSame)
  exact Sigma.ext hKey (heq_of_eq hSame)

/-- A scan reports exactly what changes, and it keeps within its limits. -/
theorem Sound.scan (h : scanner.Sound) (hOrder : order.Perm (currentPaths sockets))
    (hKnown : Enumerates knownOrder scanner.known)
    (hScan : scanner.scan order knownOrder uuid = (found, removed, after))
    (hDecodes : ∀ path ∈ sockets, path.bytes.length ≤ maxUnixSocketPath →
      path.toStringLossy.utf8ByteSize ≤ maxUnixSocketPath) :
    Deltas sockets scanner found removed after ∧ after.maxSocketForwards = scanner.maxSocketForwards ∧
      after.known.keys.card ≤ after.maxSocketForwards ∧
      ∀ path info, after.known.lookup path = some info →
        path.toStringLossy.utf8ByteSize ≤ maxUnixSocketPath := by
  obtain ⟨rfl, rfl, rfl⟩ : found = (scanner.scan order knownOrder uuid).1 ∧
      removed = (scanner.scan order knownOrder uuid).2.1 ∧ after = (scanner.scan order knownOrder uuid).2.2 := by
    rw [hScan]
    exact ⟨rfl, rfl, rfl⟩
  let gone := knownOrder.filter fun entry => entry.1 ∉ order
  let forgotten := gone.foldl (fun known entry => known.erase entry.1) scanner.known
  have hFound := discover_discovered uuid order { scanner with known := forgotten }
  have hKept : ∀ path info, forgotten.lookup path = some info ↔
      scanner.known.lookup path = some info ∧ path ∈ order := fun path info => lookup_forgotten hKnown
  have hCurrent : ∀ path ∈ order, path ∈ sockets ∧ path.toStringLossy.utf8ByteSize ≤ maxUnixSocketPath :=
    fun path hPath => mem_currentPaths.mp (hOrder.mem_iff.mp hPath)
  have hNew : ∀ path info, (path, info) ∈ (discover uuid order { scanner with known := forgotten }).1 →
      path ∈ order ∧ path ∉ scanner.known := by
    intro path info hMem
    obtain ⟨hPath, hNotIn⟩ := hFound.new path info hMem
    refine ⟨hPath, fun hBefore => hNotIn ?_⟩
    obtain ⟨before, hBefore⟩ := Finmap.mem_iff.mp hBefore
    exact Finmap.mem_of_lookup_eq_some ((hKept path before).mpr ⟨hBefore, hPath⟩)
  have hCard := hFound.card ((card_forgotten scanner.known gone).trans h.limit)
  refine ⟨⟨fun info => ?_, fun path info => ?_, ⟨h.nodup_removed hKnown, hFound.once⟩, fun path info hHere => ?_,
    fun path hPath hBytes => ?_⟩, hFound.limit, hCard, fun path info hInfo => ?_⟩
  · constructor
    · intro hRemoved
      obtain ⟨⟨path, _⟩, hEntry, rfl⟩ := List.mem_map.mp hRemoved
      obtain ⟨hMem, hGone⟩ := List.mem_filter.mp hEntry
      have hHere := (mem_of_enumerates hKnown path _).mp hMem
      rw [decide_eq_true_eq, h.mem_order_iff hOrder hHere] at hGone
      exact ⟨path, hHere, hGone⟩
    · rintro ⟨path, hHere, hGone⟩
      rw [← h.mem_order_iff hOrder hHere] at hGone
      have hMem := (mem_of_enumerates hKnown path info).mpr hHere
      exact List.mem_map.mpr ⟨⟨path, info⟩, List.mem_filter.mpr ⟨hMem, decide_eq_true hGone⟩, rfl⟩
  · constructor
    · exact fun hMem => ⟨(hFound.known path info).mpr (.inr hMem), (hNew path info hMem).2⟩
    · rintro ⟨hAfter, hNotIn⟩
      rcases (hFound.known path info).mp hAfter with hBefore | hMem
      · exact absurd (Finmap.mem_of_lookup_eq_some ((hKept path info).mp hBefore).1) hNotIn
      · exact hMem
  · split_ifs with hPath
    · have hOrdered := (h.mem_order_iff hOrder hHere).mpr hPath
      exact (hFound.known path info).mpr (.inl ((hKept path info).mpr ⟨hHere, hOrdered⟩))
    · rw [Option.eq_none_iff_forall_not_mem]
      intro other hOther
      rcases (hFound.known path other).mp hOther with hBefore | hMem
      · exact hPath (hCurrent path ((hKept path other).mp hBefore).2).1
      · exact hPath (hCurrent path (hNew path other hMem).1).1
  · have hOrdered := hOrder.mem_iff.mpr (mem_currentPaths.mpr ⟨hPath, hDecodes path hPath hBytes⟩)
    exact (hFound.full path hOrdered).imp_right fun hMany => hCard.antisymm hMany
  · rcases (hFound.known path info).mp hInfo with hBefore | hMem
    · exact h.short path info ((hKept path info).mp hBefore).1
    · exact (hCurrent path (hNew path info hMem).1).2

end SocketScanner

/-- New sockets of different identifiers are inserted under these. -/
theorem lookup_foldl_insert_iff {sockets : List SocketInfo} (hNodup : (sockets.map SocketInfo.socketId).Nodup)
    {table : Map String SocketInfo} {socketId : String} {info : SocketInfo} :
    (sockets.foldl (fun m info => m.insert info.socketId info) table).lookup socketId = some info ↔
      (info ∈ sockets ∧ info.socketId = socketId) ∨
        (table.lookup socketId = some info ∧ ∀ other ∈ sockets, other.socketId ≠ socketId) := by
  induction sockets generalizing table with
  | nil => simp
  | cons first sockets ih =>
      obtain ⟨hFirst, hRest⟩ := List.nodup_cons.mp hNodup
      rw [List.foldl_cons, ih hRest, lookup_insert]
      simp only [List.mem_cons, forall_eq_or_imp]
      by_cases hHere : socketId = first.socketId
      · have hOther : ∀ other ∈ sockets, other.socketId ≠ socketId :=
          fun other hOther hSame => hFirst (List.mem_map.mpr ⟨other, hOther, hSame.trans hHere⟩)
        rw [if_pos hHere]
        constructor
        · rintro (⟨hMem, hSame⟩ | ⟨hFound, -⟩)
          · exact .inl ⟨.inr hMem, hSame⟩
          · exact .inl ⟨.inl (Option.some.inj hFound).symm, (Option.some.inj hFound) ▸ hHere.symm⟩
        · rintro (⟨rfl | hMem, hSame⟩ | ⟨-, hNot, -⟩)
          · exact .inr ⟨rfl, hOther⟩
          · exact .inl ⟨hMem, hSame⟩
          · exact absurd hHere.symm hNot
      · rw [if_neg hHere]
        constructor
        · rintro (⟨hMem, hSame⟩ | ⟨hFound, hOther⟩)
          · exact .inl ⟨.inr hMem, hSame⟩
          · exact .inr ⟨hFound, Ne.symm hHere, hOther⟩
        · rintro (⟨rfl | hMem, hSame⟩ | ⟨hFound, -, hOther⟩)
          · exact absurd hSame.symm hHere
          · exact .inl ⟨hMem, hSame⟩
          · exact .inr ⟨hFound, hOther⟩

theorem lookup_foldl_erase_iff {sockets : List SocketInfo} {table : Map String SocketInfo} {socketId : String}
    {info : SocketInfo} :
    (sockets.foldl (fun m info => m.erase info.socketId) table).lookup socketId = some info ↔
      table.lookup socketId = some info ∧ ∀ other ∈ sockets, other.socketId ≠ socketId := by
  induction sockets generalizing table with
  | nil => simp
  | cons first sockets ih =>
      rw [List.foldl_cons, ih, lookup_erase]
      simp only [List.mem_cons, forall_eq_or_imp]
      by_cases hHere : socketId = first.socketId
      · simp [hHere]
      · simp [hHere, Ne.symm hHere]

/-- The scanner task hands what a scan reports to the host state. -/
theorem nextHandler_scan {cfg : HostConfig} {ctx after : DaemonContext} {handler next : Handler}
    {newSockets removedSockets : List SocketInfo} {order : List (Σ _ : String, ContainerState)}
    (h : nextHandler cfg ctx handler (.scan newSockets removedSockets order) = some (after, next)) :
    after.state.socketForwards = (ctx.state.updateSockets newSockets removedSockets).socketForwards := by
  cases handler with
  | scanning =>
      have hScan : nextScanner ctx .scanning (.scan newSockets removedSockets order) = some (after, next) := h
      cases nextScanner_cases hScan with
      | unchanged => rfl
      | scanned => rfl
  | broadcasting sends => cases sends <;> cases h
  | proxy task => cases task <;> cases h
  | _ => cases h

/-- Whatever a scan is asked to keep below the limit is below it once decoded. -/
def MirrorAction.Decodes : MirrorAction → Prop
  | .scan sockets _ _ _ _ => ∀ path ∈ sockets, path.bytes.length ≤ maxUnixSocketPath →
      path.toStringLossy.utf8ByteSize ≤ maxUnixSocketPath
  | _ => True

namespace MirroredFeed

/-- The host's table holds the sockets that the scanner knows, by identifier,
and there are no more of them than the scanner may track. -/
structure Follows (maxSocketForwards : Nat) (s : MirroredFeed) : Prop where
  settings : s.scanner.maxSocketForwards = maxSocketForwards
  limit : s.scanner.known.keys.card ≤ maxSocketForwards
  forwards : ∀ socketId info, s.feed.daemon.ctx.state.socketForwards.lookup socketId = some info ↔
    info.socketId = socketId ∧ ∃ path, s.scanner.known.lookup path = some info

/-- A scan reports what it changes, and no other step changes the scanner. -/
def Replays (s : MirroredFeed) (action : MirrorAction) (after : MirroredFeed) : Prop :=
  match action with
  | .scan sockets order knownOrder uuid _ =>
      SocketScanner.Deltas sockets s.scanner (s.scanner.scan order knownOrder uuid).1
        (s.scanner.scan order knownOrder uuid).2.1 after.scanner
  | _ => after.scanner = s.scanner

/-- What holds between the scanner, the identifiers and the host's table. -/
structure Tracks (maxSocketForwards : Nat) (s : MirroredFeed) : Prop where
  feed : s.feed.Sound
  scanner : s.scanner.Sound
  owned : ∀ path info, s.scanner.known.lookup path = some info → s.issued.lookup info.socketId = some path
  follows : s.Follows maxSocketForwards

variable {cfg : HostConfig} {s s' : MirroredFeed} {maxSocketForwards : Nat} {action : MirrorAction}
  {sockets order : List HostPath} {knownOrder : List (Σ _ : HostPath, SocketInfo)} {uuid : HostPath → String}
  {containers : List (Σ _ : String, ContainerState)}

theorem start_tracks (cfg : HostConfig) (containerPathPrefix : Option String) (maxSocketForwards : Nat)
    (landing : Nat → Files.Route → Files.Location) :
    (start cfg containerPathPrefix maxSocketForwards landing).Tracks maxSocketForwards where
  feed := SocketFeed.start_sound cfg
  scanner := ⟨Nat.zero_le _, nofun, nofun⟩
  owned := nofun
  follows := ⟨rfl, Nat.zero_le _, fun _ _ => by
    constructor
    · nofun
    · rintro ⟨-, path, hNone⟩
      cases hNone⟩

/-- The host's table after a scan. -/
theorem scan_forwards {feed feed' : SocketFeed} {newSockets removedSockets : List SocketInfo}
    (hFeed : SocketFeed.step cfg feed (.host (.task 0 (.scan newSockets removedSockets containers))) = some feed')
    (hNodup : (newSockets.map SocketInfo.socketId).Nodup) {socketId : String} {info : SocketInfo} :
    feed'.daemon.ctx.state.socketForwards.lookup socketId = some info ↔
      ((info ∈ newSockets ∧ info.socketId = socketId) ∨
        (feed.daemon.ctx.state.socketForwards.lookup socketId = some info ∧
          ∀ other ∈ newSockets, other.socketId ≠ socketId)) ∧
        ∀ other ∈ removedSockets, other.socketId ≠ socketId := by
  cases SocketFeed.step_cases hFeed with
  | host hSilent hDaemon =>
      cases (Daemon.step_cases hDaemon).2 with
      | @task _ _ after next hNext _ =>
          show after.state.socketForwards.lookup socketId = some info ↔ _
          rw [nextHandler_scan hNext, HostState.updateSockets, lookup_foldl_erase_iff,
            lookup_foldl_insert_iff hNodup]

/-- A scan keeps the host's table in step with what the scanner knows. -/
theorem Tracks.scan (h : s.Tracks maxSocketForwards)
    (hDecodes : (MirrorAction.scan sockets order knownOrder uuid containers).Decodes)
    (hStep : step cfg s (.scan sockets order knownOrder uuid containers) = some s') :
    s'.Tracks maxSocketForwards ∧ s.Replays (.scan sockets order knownOrder uuid containers) s' := by
  unfold step at hStep
  dsimp only at hStep
  split_ifs at hStep with hValid
  obtain ⟨hOrder, hKnown, hFresh⟩ := hValid
  obtain ⟨feed', hFeed, rfl⟩ := Option.map_eq_some_iff.mp hStep
  unfold Replays
  dsimp only
  generalize hScan : s.scanner.scan order knownOrder uuid = result at hFeed hFresh ⊢
  obtain ⟨found, removed, scanner⟩ := result
  dsimp only at hFeed hFresh ⊢
  obtain ⟨hDeltas, hSettings, hLimit, hShort⟩ := h.scanner.scan hOrder hKnown hScan hDecodes
  have hNodup : ((found.map Prod.snd).map SocketInfo.socketId).Nodup := by
    rw [List.map_map]
    exact hFresh.1
  have hOwned : ∀ path info, scanner.known.lookup path = some info →
      (issue s.issued found).lookup info.socketId = some path := by
    intro path info hInfo
    by_cases hBefore : path ∈ s.scanner.known
    · obtain ⟨old, hOld⟩ := Finmap.mem_iff.mp hBefore
      have hAfter := hDeltas.kept path old hOld
      rw [hInfo] at hAfter
      split_ifs at hAfter
      cases hAfter
      exact issue_of_issued hFresh (h.owned path info hOld)
    · exact issue_of_mem hFresh ((hDeltas.added path info).mpr ⟨hInfo, hBefore⟩)
  have hMax : scanner.maxSocketForwards = maxSocketForwards := hSettings.trans h.follows.settings
  refine ⟨⟨h.feed.step (SocketFeed.step_cases hFeed), ⟨hLimit, hShort, ?_⟩, hOwned,
    hMax, hLimit.trans_eq hMax, fun socketId info => ?_⟩, hDeltas⟩
  · intro path other info otherInfo hInfo hOther hSame
    have hPath := hOwned path info hInfo
    rw [hSame, hOwned other otherInfo hOther] at hPath
    exact (Option.some.inj hPath).symm
  · -- identifiers of removed sockets have been issued for paths that are gone
    have hGone : ∀ path, s.issued.lookup socketId = some path → path ∈ sockets →
        ∀ other ∈ removed, other.socketId ≠ socketId := by
      rintro path hIssued hPath other hOther rfl
      obtain ⟨gone, hKnownOther, hAbsent⟩ := (hDeltas.gone other).mp hOther
      rw [h.owned gone other hKnownOther] at hIssued
      exact hAbsent (Option.some.inj hIssued ▸ hPath)
    rw [scan_forwards hFeed hNodup]
    constructor
    · rintro ⟨⟨hNew, hId⟩ | ⟨hOld, hOther⟩, hStays⟩
      · obtain ⟨⟨path, _⟩, hFound, rfl⟩ := List.mem_map.mp hNew
        exact ⟨hId, path, ((hDeltas.added path _).mp hFound).1⟩
      · obtain ⟨hId, path, hInfo⟩ := (h.follows.forwards socketId info).mp hOld
        refine ⟨hId, path, ?_⟩
        rw [hDeltas.kept path info hInfo, if_pos]
        by_contra hAbsent
        exact hStays info ((hDeltas.gone info).mpr ⟨path, hInfo, hAbsent⟩) hId
    · rintro ⟨hId, path, hInfo⟩
      by_cases hBefore : path ∈ s.scanner.known
      · obtain ⟨old, hOld⟩ := Finmap.mem_iff.mp hBefore
        have hAfter := hDeltas.kept path old hOld
        rw [hInfo] at hAfter
        split_ifs at hAfter with hPath
        cases hAfter
        have hIssued := hId ▸ h.owned path info hOld
        refine ⟨.inr ⟨(h.follows.forwards socketId info).mpr ⟨hId, path, hOld⟩, ?_⟩, hGone path hIssued hPath⟩
        intro other hOther hSame
        obtain ⟨entry, hEntry, rfl⟩ := List.mem_map.mp hOther
        apply hFresh.2 entry hEntry
        rw [hSame]
        exact Finmap.mem_of_lookup_eq_some hIssued
      · have hFound := (hDeltas.added path info).mpr ⟨hInfo, hBefore⟩
        refine ⟨.inl ⟨List.mem_map.mpr ⟨(path, info), hFound, rfl⟩, hId⟩, fun other hOther hSame => ?_⟩
        obtain ⟨gone, hKnownOther, -⟩ := (hDeltas.gone other).mp hOther
        apply hFresh.2 (path, info) hFound
        show info.socketId ∈ s.issued
        rw [hId, ← hSame]
        exact Finmap.mem_of_lookup_eq_some (h.owned gone other hKnownOther)

/-- A step that leaves the scanner and the host's table alone. -/
theorem Tracks.keep (h : s.Tracks maxSocketForwards) (hFeed : s'.feed.Sound) (hScanner : s'.scanner = s.scanner)
    (hIssued : s'.issued = s.issued)
    (hForwards : s'.feed.daemon.ctx.state.socketForwards = s.feed.daemon.ctx.state.socketForwards) :
    s'.Tracks maxSocketForwards := by
  refine ⟨hFeed, ?_, ?_, ?_, ?_, ?_⟩
  · rw [hScanner]
    exact h.scanner
  · rw [hScanner, hIssued]
    exact h.owned
  · rw [hScanner]
    exact h.follows.settings
  · rw [hScanner]
    exact h.follows.limit
  · rw [hScanner, hForwards]
    exact h.follows.forwards

theorem Tracks.step (h : s.Tracks maxSocketForwards) (hDecodes : action.Decodes)
    (hStep : MirroredFeed.step cfg s action = some s') : s'.Tracks maxSocketForwards ∧ s.Replays action s' := by
  cases action with
  | scan sockets order knownOrder uuid containers => exact h.scan hDecodes hStep
  | handle number outcome =>
      unfold MirroredFeed.step at hStep
      dsimp only at hStep
      split at hStep
      case h_1 => cases hStep
      case h_2 =>
        obtain ⟨feed', hFeed, rfl⟩ := Option.map_eq_some_iff.mp hStep
        have hCases := SocketFeed.step_cases hFeed
        refine ⟨h.keep (h.feed.step hCases) rfl rfl ?_, rfl⟩
        cases hCases
        rfl
  | other feedAction =>
      unfold MirroredFeed.step at hStep
      dsimp only at hStep
      split_ifs at hStep with hOther
      obtain ⟨feed', hFeed, rfl⟩ := Option.map_eq_some_iff.mp hStep
      have hCases := SocketFeed.step_cases hFeed
      obtain ⟨hForwards, -⟩ := @other_present cfg 0 s.feed feed' feedAction h.feed hOther hCases
      exact ⟨h.keep (h.feed.step hCases) rfl rfl hForwards, rfl⟩

end MirroredFeed

/-- The scans of a run replay to what the scanner knows, and the host's table
follows. -/
def DeltasReplay (maxSocketForwards : Nat) (trace : List (MirroredFeed × MirrorAction)) (finish : MirroredFeed) :
    Prop :=
  Throughout (MirroredFeed.Follows maxSocketForwards) trace finish ∧
    ∀ cfg s action s', (s, action) ∈ trace → MirroredFeed.step cfg s action = some s' → s.Replays action s'

/-- In every run whose snapshots hold no short path that is long once decoded,
the scans replay to what the scanner knows. -/
theorem scans_replay {cfg : HostConfig} {containerPathPrefix : Option String} {maxSocketForwards : Nat}
    {landing : Nat → Files.Route → Files.Location} {trace : List (MirroredFeed × MirrorAction)} {finish : MirroredFeed}
    (run : Run (MirroredFeed.step cfg) (MirroredFeed.start cfg containerPathPrefix maxSocketForwards landing) trace
      finish)
    (hDecodes : Guarded (fun _ action => action.Decodes) trace) : DeltasReplay maxSocketForwards trace finish := by
  have hTracks : Throughout (MirroredFeed.Tracks maxSocketForwards) trace finish := by
    apply run.throughout hDecodes
    · exact MirroredFeed.start_tracks cfg containerPathPrefix maxSocketForwards landing
    · exact fun s action s' hBefore hAction hStep => (hBefore.step hAction hStep).1
  refine ⟨⟨fun entry hEntry => (hTracks.1 entry hEntry).follows, hTracks.2.follows⟩, ?_⟩
  intro other s action s' hEntry hStep
  exact ((hTracks.1 (s, action) hEntry).step (hDecodes (s, action) hEntry) hStep).2

/-- Two sockets are found, and then one of them is gone. -/
def scanSchedule : List MirrorAction :=
  let uuid := fun path => if path = firstSocket then "1" else "2"
  let known := [⟨firstSocket, { socketId := "1", hostPath := "/a/x", containerPath := "/a/x" }⟩,
    ⟨otherNameSocket, { socketId := "2", hostPath := "/b/y", containerPath := "/b/y" }⟩]
  [.scan [otherNameSocket, firstSocket, firstSocket] [firstSocket, otherNameSocket] [] uuid [],
    .other (.host (.task 0 .proceed)), .scan [otherNameSocket] [otherNameSocket] known uuid []]

theorem scans_replay_two :
    ∃ trace finish, trace.map Prod.snd = scanSchedule ∧
      Run (MirroredFeed.step .scanning) (MirroredFeed.start .scanning none 32 linkedRun) trace finish ∧
      DeltasReplay 32 trace finish := by
  have hRun : (exec (MirroredFeed.step .scanning) (MirroredFeed.start .scanning none 32 linkedRun)
      scanSchedule).isSome := by
    decide +kernel
  obtain ⟨finish, hExec⟩ := Option.isSome_iff_exists.mp hRun
  obtain ⟨trace, hActions, run⟩ := run_of_exec hExec
  have hSchedule : ∀ action ∈ scanSchedule, action.Decodes := by
    intro action hAction
    simp only [scanSchedule, List.mem_cons, List.not_mem_nil, or_false] at hAction
    rcases hAction with rfl | rfl | rfl
    · show ∀ path ∈ [otherNameSocket, firstSocket, firstSocket], _
      decide
    · trivial
    · show ∀ path ∈ [otherNameSocket], _
      decide
  have hDecodes : Guarded (fun _ action => MirrorAction.Decodes action) trace := by
    intro entry hEntry
    exact hSchedule entry.2 (hActions ▸ List.mem_map_of_mem hEntry)
  exact ⟨trace, finish, hActions, run, scans_replay run hDecodes⟩

/-- A socket in a directory whose name is no UTF-8. -/
def undecodableSocket : HostPath where
  absolute := true
  components := [List.replicate 40 128, [120]]
  wellFormed := by decide

/-- Its path is short, and it is skipped all the same. -/
theorem scans_skip :
    undecodableSocket.bytes.length = 43 ∧
      ¬∀ cfg containerPathPrefix maxSocketForwards landing trace finish,
        Run (MirroredFeed.step cfg) (MirroredFeed.start cfg containerPathPrefix maxSocketForwards landing) trace
            finish →
          DeltasReplay maxSocketForwards trace finish := by
  refine ⟨by decide, fun h => ?_⟩
  let action : MirrorAction := .scan [undecodableSocket] [] [] (fun _ => "1") []
  have hRun : (MirroredFeed.step .scanning (MirroredFeed.start .scanning none 32 linkedRun) action).any fun s =>
      s.scanner.known.keys.card = 0 ∧ s.scanner.maxSocketForwards = 32 := by
    decide +kernel
  obtain ⟨finish, hStep, hEmpty⟩ := (Option.any_eq_true _ _).mp hRun
  obtain ⟨hEmpty, hLimit⟩ := of_decide_eq_true hEmpty
  have hReplay := (h .scanning none 32 linkedRun _ finish (.tail .refl hStep)).2
  have hDeltas := hReplay .scanning _ action finish (List.mem_singleton_self _) hStep
  rcases hDeltas.covered undecodableSocket (List.mem_singleton_self _) (by decide) with hKnown | hFull
  · rw [Finset.card_eq_zero] at hEmpty
    have hKey := Finmap.mem_keys.mpr hKnown
    rw [hEmpty] at hKey
    cases hKey
  · omega

end DevcontainerBridge
