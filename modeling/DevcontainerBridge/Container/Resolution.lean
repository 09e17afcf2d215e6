import DevcontainerBridge.Container.PortScan
import DevcontainerBridge.Table.FirstMatch

/-! The walk that resolves sockets to processes. It is a search for the first
process with a link to each wanted socket, wherever it stops. The pre-check of
the owner takes sockets from the search that it would have found. -/
namespace DevcontainerBridge

open Table Text

/-- The pid of an entry that belongs to a process. -/
def ProcEntry.pid (entry : ProcEntry) : Option UInt32 :=
  (entry.name.bind (parseUnsigned 10 (2 ^ 32))).map UInt32.ofNat

/-- The sockets among the open files of an entry, none where its links cannot be read. -/
def ProcEntry.sockets (entry : ProcEntry) : List UInt64 :=
  (entry.fds.getD []).filterMap fun link => link.bind socketInode

/-- A process has a readable link to the socket. -/
def ProcEntry.holds (inode : UInt64) (entry : ProcEntry) : Bool :=
  entry.pid.isSome && decide (inode ∈ entry.sockets)

/-- The name and the pid that a socket of the entry is resolved to. -/
def ProcEntry.process (entry : ProcEntry) : Option (String × UInt32) :=
  entry.pid.map fun pid => (entry.readComm, pid)

/-- Every link of an entry to a socket, with the process read anew for each. -/
def ProcEntry.records (entry : ProcEntry) : List (UInt64 × (String × UInt32)) :=
  match entry.process with
  | none => []
  | some process => entry.sockets.map fun inode => (inode, process)

/-- The walk that visits every link of every process, whatever has been found before. -/
def fullWalk (wanted : Finset UInt64) (entries : List ProcEntry) : List (UInt64 × (String × UInt32)) :=
  (entries.flatMap ProcEntry.records).filter fun record => record.1 ∈ wanted

/-- The first process in directory order with a readable link to the socket. -/
def firstHolder (entries : List ProcEntry) (inode : UInt64) : Option (String × UInt32) :=
  (entries.find? (ProcEntry.holds inode)).bind ProcEntry.process

variable {wanted : Finset UInt64} {found : ResolvedInodes}

/-- A name that is kept is the one that would be read again. -/
theorem foldl_resolveFd (entry : ProcEntry) (pid : UInt32) (fds : List (Option (List Char)))
    (name : Option String) (hName : name.getD entry.readComm = entry.readComm) :
    (fds.foldl (resolveFd wanted entry pid) (name, found)).2 =
      collect wanted found ((fds.filterMap fun link => link.bind socketInode).map fun inode =>
        (inode, (entry.readComm, pid))) := by
  induction fds generalizing name found with
  | nil => rfl
  | cons link fds ih =>
      rw [List.foldl_cons, List.filterMap_cons]
      cases hSocket : link.bind socketInode with
      | none =>
          have hStep : resolveFd wanted entry pid (name, found) link = (name, found) := by
            simp only [resolveFd, hSocket]
          rw [hStep, ih name hName]
      | some inode =>
          rw [List.map_cons, collect_cons]
          by_cases hSkip : inode ∉ wanted ∨ inode ∈ found
          · have hStep : resolveFd wanted entry pid (name, found) link = (name, found) := by
              simp only [resolveFd, hSocket, if_pos hSkip]
            rw [hStep, ih name hName, record, if_pos hSkip]
          · have hStep : resolveFd wanted entry pid (name, found) link =
                (some entry.readComm, found.insert inode (entry.readComm, pid)) := by
              simp only [resolveFd, hSocket, if_neg hSkip, hName]
            rw [hStep, ih (some entry.readComm) rfl, record, if_neg hSkip]

/-- One entry adds the first record of each of its sockets that are wanted. -/
theorem resolveEntry_eq (entry : ProcEntry) :
    resolveEntry wanted found entry = collect wanted found entry.records := by
  unfold resolveEntry ProcEntry.records ProcEntry.process ProcEntry.pid ProcEntry.sockets
  cases entry.name.bind (parseUnsigned 10 (2 ^ 32)) with
  | none => rfl
  | some pid =>
      cases entry.fds with
      | none => rfl
      | some fds => exact foldl_resolveFd entry (UInt32.ofNat pid) fds none rfl

/-- Where the walk stops, the entries behind would add nothing. -/
theorem resolveInodes_eq (h : found.keys ⊆ wanted) (entries : List ProcEntry) :
    resolveInodes wanted found entries = collect wanted found (entries.flatMap ProcEntry.records) := by
  induction entries generalizing found with
  | nil => rfl
  | cons entry entries ih =>
      rw [resolveInodes, List.flatMap_cons]
      split_ifs with hCard
      · exact (collect_of_complete h hCard _).symm
      · rw [resolveEntry_eq, ih (keys_collect_subset h _), collect_append]

/-- The first record of a socket is that of its first holder. -/
theorem lookup_records (entries : List ProcEntry) (inode : UInt64) :
    (entries.flatMap ProcEntry.records).lookup inode = firstHolder entries inode := by
  induction entries with
  | nil => rfl
  | cons entry entries ih =>
      rw [List.flatMap_cons, List.lookup_append, ih]
      unfold firstHolder ProcEntry.records
      rw [List.find?_cons]
      cases hPid : entry.pid with
      | none => simp [ProcEntry.process, ProcEntry.holds, hPid]
      | some pid =>
          by_cases hSocket : inode ∈ entry.sockets <;>
            simp [ProcEntry.process, ProcEntry.holds, hPid, hSocket, lookup_map_const]

/-- Resolving finds the first holder of every wanted socket and nothing for
the others, as the walk does that never stops and skips nothing. -/
theorem resolveInodes_first (wanted : Finset UInt64) (entries : List ProcEntry) (inode : UInt64) :
    (resolveInodes wanted ∅ entries).lookup inode = (fullWalk wanted entries).lookup inode ∧
      (resolveInodes wanted ∅ entries).lookup inode =
        if inode ∈ wanted then firstHolder entries inode else none := by
  have hFirst : (resolveInodes wanted ∅ entries).lookup inode =
      if inode ∈ wanted then firstHolder entries inode else none := by
    rw [resolveInodes_eq (by simp), lookup_collect, lookup_records, Finmap.lookup_empty, Option.none_or]
  refine ⟨?_, hFirst⟩
  rw [hFirst, fullWalk, lookup_filter_mem, lookup_records]

/-- The sockets that a scan reports. -/
def scannedSockets (proc : ProcSnapshot) (excludePorts : Finset UInt16) : List ListeningSocket :=
  distinctSockets excludePorts ∅ (fileSockets proc.tcp ++ fileSockets proc.tcp6)

/-- What a scan resolves, with the effective uid that its pre-check goes by. -/
def resolvedBy (euid : Option UInt32) (proc : ProcSnapshot) (excludePorts resolved : Finset UInt16) :
    ResolvedInodes :=
  let wanted := wantedInodes euid resolved (scannedSockets proc excludePorts)
  if wanted.card = 0 then ∅
  else if proc.walkEnds then resolveInodes wanted ∅ (proc.entries.getD [])
  else ∅

/-- The scan that looks every socket up, whoever owns it: without an effective
uid there is no pre-check. -/
def scanEveryOwner (proc : ProcSnapshot) (excludePorts resolved : Finset UInt16) :
    Except ScanError (List ListeningPort) :=
  scanListeningPorts { proc with status := none } excludePorts resolved

/-- The ports of a scan whose processes the caller does not know. -/
def unresolvedPorts (resolved : Finset UInt16) (ports : List ListeningPort) : List ListeningPort :=
  ports.filter fun port => port.port ∉ resolved

/-- The socket has another owner than the scan, no process with a readable
link to it, and is looked up for no other port: the pre-check loses nothing
by it. Where the walk panics there is nothing to lose. -/
def UidCheckHarmless (proc : ProcSnapshot) (excludePorts resolved : Finset UInt16) : Prop :=
  proc.walkEnds = true → ∀ euid, effectiveUid proc.status = some euid → euid ≠ 0 →
    ∀ s ∈ scannedSockets proc excludePorts, s.port ∉ resolved → s.uid ≠ euid →
      (∃ other ∈ scannedSockets proc excludePorts, other.port ∉ resolved ∧ other.uid = euid ∧
        other.inode = s.inode) ∨
      ∀ entry ∈ proc.entries.getD [], entry.holds s.inode = false

variable {proc : ProcSnapshot} {excludePorts resolved : Finset UInt16}

theorem scanListeningPorts_of_readable (hReadable : proc.tcp.isOk = true ∨ proc.tcp6.isOk = true) :
    scanListeningPorts proc excludePorts resolved =
      .ok ((scannedSockets proc excludePorts).map
        (describe (resolvedBy (effectiveUid proc.status) proc excludePorts resolved))) := by
  unfold scanListeningPorts
  split
  case h_1 hTcp hTcp6 =>
    rw [hTcp, hTcp6] at hReadable
    rcases hReadable with hOk | hOk <;> cases hOk
  case h_2 => rfl

theorem lookup_resolvedBy (euid : Option UInt32) (hEnds : proc.walkEnds = true) (inode : UInt64) :
    (resolvedBy euid proc excludePorts resolved).lookup inode =
      if inode ∈ wantedInodes euid resolved (scannedSockets proc excludePorts) then
        firstHolder (proc.entries.getD []) inode
      else none := by
  unfold resolvedBy
  dsimp only
  rw [if_pos hEnds]
  split_ifs with hNone hWanted
  · rw [Finset.card_eq_zero.mp hNone] at hWanted
    exact absurd hWanted (Finset.notMem_empty _)
  · rfl
  · rw [(resolveInodes_first _ _ _).2, if_pos ‹_›]
  · rw [(resolveInodes_first _ _ _).2, if_neg ‹_›]

theorem mem_wantedInodes (euid : Option UInt32) (sockets : List ListeningSocket) (inode : UInt64) :
    inode ∈ wantedInodes euid resolved sockets ↔ ∃ s ∈ sockets, s.port ∉ resolved ∧
      (∀ uid, euid = some uid → uid = 0 ∨ uid = s.uid) ∧ s.inode = inode := by
  unfold wantedInodes
  cases euid <;> simp [and_assoc, and_left_comm]

theorem firstHolder_eq_none_iff (entries : List ProcEntry) (inode : UInt64) :
    firstHolder entries inode = none ↔ ∀ entry ∈ entries, entry.holds inode = false := by
  unfold firstHolder
  constructor
  · intro h entry hEntry
    by_contra hHolds
    obtain ⟨holder, hFind⟩ := Option.isSome_iff_exists.mp
      (List.find?_isSome.mpr ⟨entry, hEntry, by simpa using hHolds⟩)
    have hHolder := List.find?_some hFind
    rw [hFind, Option.bind_some] at h
    simp [ProcEntry.holds, ProcEntry.process] at hHolder h
    simp [h] at hHolder
  · intro h
    rw [List.find?_eq_none.mpr (by simpa using h), Option.bind_none]

/-- Two resolutions describe the unresolved ports alike exactly if they agree
on the sockets of these ports. -/
theorem unresolvedPorts_describe_iff (found other : ResolvedInodes) (sockets : List ListeningSocket)
    (h : ∀ s ∈ sockets, s.port ∉ resolved → found.lookup s.inode = none ∨
      found.lookup s.inode = other.lookup s.inode) :
    unresolvedPorts resolved (sockets.map (describe found)) =
        unresolvedPorts resolved (sockets.map (describe other)) ↔
      ∀ s ∈ sockets, s.port ∉ resolved → found.lookup s.inode = other.lookup s.inode := by
  unfold unresolvedPorts
  rw [List.filter_map, List.filter_map]
  have hFilter : (fun port : ListeningPort => decide (port.port ∉ resolved)) ∘ describe found =
      (fun port : ListeningPort => decide (port.port ∉ resolved)) ∘ describe other := rfl
  rw [hFilter, List.map_inj_left]
  constructor
  · intro hSame s hSocket hPort
    have hDescribe := hSame s (List.mem_filter.mpr ⟨hSocket, decide_eq_true hPort⟩)
    rcases h s hSocket hPort with hNone | hAgree
    · have hPid := congrArg ListeningPort.pid hDescribe
      simp only [describe, hNone, Option.map_none] at hPid
      rw [hNone, Option.map_eq_none_iff.mp hPid.symm]
    · exact hAgree
  · intro hAgree s hMember
    obtain ⟨hSocket, hPort⟩ := List.mem_filter.mp hMember
    simp only [describe, hAgree s hSocket (of_decide_eq_true hPort)]

/-- What the pre-check lets pass is resolved alike; what it passes over must
have no holder. -/
theorem lookup_resolvedBy_iff (euid : Option UInt32) (hEnds : proc.walkEnds = true) {s : ListeningSocket}
    (hSocket : s ∈ scannedSockets proc excludePorts) (hPort : s.port ∉ resolved) :
    (resolvedBy euid proc excludePorts resolved).lookup s.inode =
        (resolvedBy none proc excludePorts resolved).lookup s.inode ↔
      s.inode ∈ wantedInodes euid resolved (scannedSockets proc excludePorts) ∨
        firstHolder (proc.entries.getD []) s.inode = none := by
  have hWanted : s.inode ∈ wantedInodes none resolved (scannedSockets proc excludePorts) :=
    (mem_wantedInodes none _ _).mpr ⟨s, hSocket, hPort, (fun _ h => nomatch h), rfl⟩
  rw [lookup_resolvedBy euid hEnds, lookup_resolvedBy none hEnds, if_pos hWanted]
  by_cases hOwn : s.inode ∈ wantedInodes euid resolved (scannedSockets proc excludePorts)
  · simp [hOwn]
  · simp [hOwn, eq_comm]

theorem uidCheckHarmless_iff (hEnds : proc.walkEnds = true) :
    UidCheckHarmless proc excludePorts resolved ↔
      ∀ s ∈ scannedSockets proc excludePorts, s.port ∉ resolved →
        s.inode ∈ wantedInodes (effectiveUid proc.status) resolved (scannedSockets proc excludePorts) ∨
          firstHolder (proc.entries.getD []) s.inode = none := by
  unfold UidCheckHarmless
  constructor
  · intro h s hSocket hPort
    rw [mem_wantedInodes, firstHolder_eq_none_iff]
    cases hUid : effectiveUid proc.status with
    | none => exact .inl ⟨s, hSocket, hPort, (fun _ h => nomatch h), rfl⟩
    | some euid =>
        by_cases hOwn : euid = 0 ∨ euid = s.uid
        · exact .inl ⟨s, hSocket, hPort, fun uid hSome => Option.some.inj hSome ▸ hOwn, rfl⟩
        · rw [not_or] at hOwn
          rcases h hEnds euid hUid hOwn.1 s hSocket hPort (Ne.symm hOwn.2) with ⟨other, hOther⟩ | hNobody
          · obtain ⟨hMember, hUnresolved, rfl, hInode⟩ := hOther
            exact .inl ⟨other, hMember, hUnresolved, fun uid hSome => .inr (Option.some.inj hSome).symm, hInode⟩
          · exact .inr hNobody
  · intro h _ euid hUid hRoot s hSocket hPort hOwner
    rcases h s hSocket hPort with hWanted | hNobody
    · rw [mem_wantedInodes] at hWanted
      obtain ⟨other, hOther, hUnresolved, hPass, hInode⟩ := hWanted
      have hUids := (hPass euid hUid).resolve_left hRoot
      exact .inl ⟨other, hOther, hUnresolved, hUids.symm, hInode⟩
    · exact .inr ((firstHolder_eq_none_iff _ _).mp hNobody)

theorem resolvedBy_of_panic (euid : Option UInt32) (hPanic : proc.walkEnds = false) :
    resolvedBy euid proc excludePorts resolved = ∅ := by
  unfold resolvedBy
  simp [hPanic]

/-- With a readable file, the scans agree exactly where the pre-check is harmless. -/
theorem scanListeningPorts_uidCheck_of_readable
    (hReadable : proc.tcp.isOk = true ∨ proc.tcp6.isOk = true) :
    (scanListeningPorts proc excludePorts resolved).map (unresolvedPorts resolved) =
        (scanEveryOwner proc excludePorts resolved).map (unresolvedPorts resolved) ↔
      UidCheckHarmless proc excludePorts resolved := by
  have hOwn : scanListeningPorts proc excludePorts resolved =
      .ok ((scannedSockets proc excludePorts).map
        (describe (resolvedBy (effectiveUid proc.status) proc excludePorts resolved))) :=
    scanListeningPorts_of_readable hReadable
  have hEvery : scanEveryOwner proc excludePorts resolved =
      .ok ((scannedSockets proc excludePorts).map
        (describe (resolvedBy none proc excludePorts resolved))) :=
    scanListeningPorts_of_readable hReadable
  rw [hOwn, hEvery, Except.map, Except.map, Except.ok.injEq]
  cases hEnds : proc.walkEnds with
  | false =>
      rw [resolvedBy_of_panic _ hEnds, resolvedBy_of_panic _ hEnds]
      exact iff_of_true rfl fun hEnd => by rw [hEnds] at hEnd; cases hEnd
  | true =>
      rw [unresolvedPorts_describe_iff, uidCheckHarmless_iff hEnds]
      · exact forall₂_congr fun s hSocket => forall_congr' fun hPort =>
          lookup_resolvedBy_iff _ hEnds hSocket hPort
      · intro s hSocket hPort
        by_cases hWanted : s.inode ∈
            wantedInodes (effectiveUid proc.status) resolved (scannedSockets proc excludePorts)
        · exact .inr ((lookup_resolvedBy_iff _ hEnds hSocket hPort).mpr (.inl hWanted))
        · exact .inl (by rw [lookup_resolvedBy _ hEnds, if_neg hWanted])

/-- The pre-check loses no name exactly where it is harmless. -/
theorem scanListeningPorts_uidCheck_iff (proc : ProcSnapshot) (excludePorts resolved : Finset UInt16) :
    (scanListeningPorts proc excludePorts resolved).map (unresolvedPorts resolved) =
        (scanEveryOwner proc excludePorts resolved).map (unresolvedPorts resolved) ↔
      UidCheckHarmless proc excludePorts resolved := by
  by_cases hReadable : proc.tcp.isOk = true ∨ proc.tcp6.isOk = true
  · exact scanListeningPorts_uidCheck_of_readable hReadable
  · rw [not_or] at hReadable
    cases hTcp : proc.tcp with
    | ok content => exact absurd (by rw [hTcp]; rfl) hReadable.1
    | error e =>
        cases hTcp6 : proc.tcp6 with
        | ok content => exact absurd (by rw [hTcp6]; rfl) hReadable.2
        | error e6 =>
            have hSockets : scannedSockets proc excludePorts = [] := by
              rw [scannedSockets, hTcp, hTcp6]
              rfl
            refine iff_of_true ?_ fun _ euid _ _ s hSocket => ?_
            · rw [scanEveryOwner, scanListeningPorts, scanListeningPorts]
              simp only [hTcp, hTcp6]
            · rw [hSockets] at hSocket
              cases hSocket

/-- A server of user 1000 with a listening socket that root has handed to it,
seen by a scan of that user. -/
def droppedPrivileges : ProcSnapshot where
  tcpPath := "/proc/net/tcp"
  tcp := .ok "sl local\n0: 0:0050 0:0 0A 0:0 0:0 0 0 0 5\n".toList
  tcp6 := .error "No such file or directory (os error 2)"
  status := some "Name:\tdbr\nUid:\t1000\t1000\t1000\t1000\n".toList
  entries := some [{
    name := some "42".toList
    fds := some [some "/dev/null".toList, some "socket:[5]".toList]
    comm := some "nginx\n".toList }]
  walkEnds := true

/-- Its listening socket belongs to root, so its name is not looked for. -/
theorem scanListeningPorts_droppedPrivileges :
    (scanListeningPorts droppedPrivileges ∅ ∅).map (unresolvedPorts ∅) =
        .ok [{ port := 80, processName := none, pid := none }] ∧
      (scanEveryOwner droppedPrivileges ∅ ∅).map (unresolvedPorts ∅) =
        .ok [{ port := 80, processName := some "nginx", pid := some 42 }] ∧
      (scanListeningPorts droppedPrivileges ∅ ∅).map (unresolvedPorts ∅) ≠
        (scanEveryOwner droppedPrivileges ∅ ∅).map (unresolvedPorts ∅) := by
  decide

end DevcontainerBridge
