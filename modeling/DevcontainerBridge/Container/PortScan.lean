import DevcontainerBridge.Container.Session
import DevcontainerBridge.Control.Framing
import DevcontainerBridge.Text.Rows
import Mathlib.Tactic.Tauto

/-! The scan for listening ports. The ports come from `/proc/net/tcp` and
`/proc/net/tcp6`, and the names of their processes from a walk over the open
files of every process. The container's `/proc` is given as a snapshot. -/
namespace DevcontainerBridge

open Table Text

/-- A listening socket as described by a `/proc/net/tcp` line. -/
structure ListeningSocket where
  port : UInt16
  uid : UInt32
  inode : UInt64
  deriving DecidableEq, Repr

inductive ScanError where
  | readFile (path source : String)
  deriving DecidableEq, Repr

/-- One entry of `/proc`. Its parts are absent where they cannot be read or are
no UTF-8. -/
structure ProcEntry where
  name : Option (List Char)
  /-- the targets of the links under `fd` -/
  fds : Option (List (Option (List Char)))
  comm : Option (List Char)

/-- What a scan finds under `/proc`. -/
structure ProcSnapshot where
  tcpPath : String
  /-- the contents of `net/tcp`, or the error of reading it -/
  tcp : Except String (List Char)
  tcp6 : Except String (List Char)
  /-- the contents of `self/status` -/
  status : Option (List Char)
  entries : Option (List ProcEntry)
  /-- the walk over the processes does not panic -/
  walkEnds : Bool

/-- One line of a `/proc/net/tcp` file. -/
def parseProcNetTcpLine (line : List Char) : Option ListeningSocket :=
  let fields := words isWhitespace line
  if fields.length < 10 ∨ fields[3]? ≠ some "0A".toList then
    none
  else do
    let (_, portHex) ← rsplitOnce ':' (← fields[1]?)
    let port ← parseUnsigned 16 (2 ^ 16) portHex
    let uid ← parseUnsigned 10 (2 ^ 32) (← fields[7]?)
    let inode ← parseUnsigned 10 (2 ^ 64) (← fields[9]?)
    some { port := UInt16.ofNat port, uid := UInt32.ofNat uid, inode := UInt64.ofNat inode }

/-- Parse a `/proc/net/tcp` (or tcp6) file and return the listening sockets. -/
def parseProcNetTcp (content : List Char) : List ListeningSocket :=
  ((lines content).drop 1).filterMap parseProcNetTcpLine

/-- Read the effective uid from `/proc/self/status`. -/
def effectiveUid (status : Option (List Char)) : Option UInt32 := do
  let rest ← (lines (← status)).findSome? (stripPrefix "Uid:".toList)
  let uid ← parseUnsigned 10 (2 ^ 32) (← (words isWhitespace rest)[1]?)
  some (UInt32.ofNat uid)

/-- The inode that a link under `fd` names, where it is one to a socket. -/
def socketInode (link : List Char) : Option UInt64 := do
  let rest ← stripPrefix "socket:[".toList link
  let inode ← stripPrefix [']'] rest.reverse
  let inode ← parseUnsigned 10 (2 ^ 64) inode.reverse
  some (UInt64.ofNat inode)

/-- The sockets that have been resolved, with their processes. -/
abbrev ResolvedInodes := Map UInt64 (String × UInt32)

/-- The name of a process, empty where it cannot be read. -/
def ProcEntry.readComm (entry : ProcEntry) : String :=
  String.ofList ((entry.comm.map (trim isWhitespace)).getD [])

/-- One link of a process. Its name is read when the first of its sockets is
resolved, and kept for the others. -/
def resolveFd (wanted : Finset UInt64) (entry : ProcEntry) (pid : UInt32)
    (walk : Option String × ResolvedInodes) (link : Option (List Char)) : Option String × ResolvedInodes :=
  match link.bind socketInode with
  | none => walk
  | some inode =>
      if inode ∉ wanted ∨ inode ∈ walk.2 then walk
      else
        let comm := walk.1.getD entry.readComm
        (some comm, walk.2.insert inode (comm, pid))

def resolveEntry (wanted : Finset UInt64) (found : ResolvedInodes) (entry : ProcEntry) : ResolvedInodes :=
  match entry.name.bind (parseUnsigned 10 (2 ^ 32)), entry.fds with
  | some pid, some fds => (fds.foldl (resolveFd wanted entry (UInt32.ofNat pid)) (none, found)).2
  | _, _ => found

/-- Resolve owning process names for a set of socket inodes in one walk. -/
def resolveInodes (wanted : Finset UInt64) (found : ResolvedInodes) : List ProcEntry → ResolvedInodes
  | [] => found
  | entry :: entries =>
      if found.keys.card = wanted.card then found
      else resolveInodes wanted (resolveEntry wanted found entry) entries

/-- The sockets whose ports are not excluded and have not been seen. -/
def distinctSockets (excludePorts seenPorts : Finset UInt16) : List ListeningSocket → List ListeningSocket
  | [] => []
  | s :: sockets =>
      if s.port ∈ excludePorts ∨ s.port ∈ seenPorts then
        distinctSockets excludePorts seenPorts sockets
      else
        s :: distinctSockets excludePorts (insert s.port seenPorts) sockets

/-- The sockets of a file, none where it cannot be read. -/
def fileSockets : Except String (List Char) → List ListeningSocket
  | .ok content => parseProcNetTcp content
  | .error _ => []

/-- The inodes whose processes are looked for. -/
def wantedInodes (euid : Option UInt32) (resolved : Finset UInt16) (sockets : List ListeningSocket) :
    Finset UInt64 :=
  ((sockets.filter fun s => s.port ∉ resolved).filter fun s =>
    euid.all fun euid => euid = 0 || euid = s.uid).map (·.inode) |>.toFinset

def describe (found : ResolvedInodes) (s : ListeningSocket) : ListeningPort :=
  let resolved := found.lookup s.inode
  { port := s.port
    processName := (resolved.map Prod.fst).filter (!·.isEmpty)
    pid := resolved.map Prod.snd }

/-- Scan for listening TCP ports inside the container. -/
def scanListeningPorts (proc : ProcSnapshot) (excludePorts resolved : Finset UInt16) :
    Except ScanError (List ListeningPort) :=
  match proc.tcp, proc.tcp6 with
  | .error e, .error _ => .error (.readFile proc.tcpPath e)
  | tcp, tcp6 =>
      let sockets := distinctSockets excludePorts ∅ (fileSockets tcp ++ fileSockets tcp6)
      let wanted := wantedInodes (effectiveUid proc.status) resolved sockets
      let found :=
        if wanted.card = 0 then ∅
        else if proc.walkEnds then resolveInodes wanted ∅ (proc.entries.getD [])
        else ∅
      .ok (sockets.map (describe found))

/-- A well-formed row of a listening socket. -/
structure ListenRow (line : List Char) (s : ListeningSocket) : Prop where
  length : 10 ≤ (words isWhitespace line).length
  state : (words isWhitespace line)[3]? = some "0A".toList
  port : ∃ address digits, (words isWhitespace line)[1]? = some (address ++ ':' :: digits) ∧ ':' ∉ digits ∧
    parseUnsigned 16 (2 ^ 16) digits = some s.port.toNat
  uid : (words isWhitespace line)[7]?.bind (parseUnsigned 10 (2 ^ 32)) = some s.uid.toNat
  inode : (words isWhitespace line)[9]?.bind (parseUnsigned 10 (2 ^ 64)) = some s.inode.toNat

/-- The ports of the well-formed rows among some lines. -/
inductive Listed : List (List Char) → List UInt16 → Prop
  | nil : Listed [] []
  | listening {line : List Char} {lines : List (List Char)} {ports : List UInt16} {s : ListeningSocket}
      (h : ListenRow line s) (hRest : Listed lines ports) : Listed (line :: lines) (s.port :: ports)
  | malformed {line : List Char} {lines : List (List Char)} {ports : List UInt16}
      (h : ∀ s, ¬ListenRow line s) (hRest : Listed lines ports) : Listed (line :: lines) ports

/-- The lines of a file behind its header, none where it cannot be read. -/
def dataRows : Except String (List Char) → List (List Char)
  | .ok content => (lines content).drop 1
  | .error _ => []

/-- One content of a file is the other without a malformed row. -/
inductive DropsRow : List Char → List Char → Prop
  | inside (before row after : List Char) (hRow : '\n' ∉ row)
      (h : ∀ s, ¬ListenRow (lineContent (row ++ ['\n'])) s) :
      DropsRow (before ++ '\n' :: (row ++ '\n' :: after)) (before ++ '\n' :: after)
  | last (before row : List Char) (hRow : '\n' ∉ row) (h : ∀ s, ¬ListenRow (lineContent row) s) :
      DropsRow (before ++ '\n' :: row) (before ++ ['\n'])

/-- Two readings of a file differ by one malformed row at most. -/
inductive SameRows : Except String (List Char) → Except String (List Char) → Prop
  | same (file : Except String (List Char)) : SameRows file file
  | dropped {content rest : List Char} (h : DropsRow content rest) : SameRows (.ok content) (.ok rest)

variable {line : List Char} {s : ListeningSocket}

/-- The parser accepts exactly the well-formed rows. -/
theorem parseProcNetTcpLine_eq_some_iff : parseProcNetTcpLine line = some s ↔ ListenRow line s := by
  unfold parseProcNetTcpLine
  generalize hFields : words isWhitespace line = fields
  constructor
  · intro h
    dsimp only at h
    split_ifs at h with hShort
    rw [not_or, not_lt, not_not] at hShort
    obtain ⟨address, hAddress, h⟩ := Option.bind_eq_some_iff.mp h
    obtain ⟨⟨host, digits⟩, hSplit, h⟩ := Option.bind_eq_some_iff.mp h
    obtain ⟨port, hPort, h⟩ := Option.bind_eq_some_iff.mp h
    obtain ⟨uidField, hUidField, h⟩ := Option.bind_eq_some_iff.mp h
    obtain ⟨uid, hUid, h⟩ := Option.bind_eq_some_iff.mp h
    obtain ⟨inodeField, hInodeField, h⟩ := Option.bind_eq_some_iff.mp h
    obtain ⟨inode, hInode, h⟩ := Option.bind_eq_some_iff.mp h
    cases h
    obtain ⟨rfl, hDigits⟩ := rsplitOnce_eq_some_iff.mp hSplit
    refine ⟨hFields ▸ hShort.1, hFields ▸ hShort.2, ⟨host, digits, hFields ▸ hAddress, hDigits, ?_⟩, ?_, ?_⟩
    · rw [hPort, UInt16.toNat_ofNat_of_lt' (parseUnsigned_lt hPort)]
    · rw [hFields, hUidField, Option.bind_some, hUid, UInt32.toNat_ofNat_of_lt' (parseUnsigned_lt hUid)]
    · rw [hFields, hInodeField, Option.bind_some, hInode, UInt64.toNat_ofNat_of_lt' (parseUnsigned_lt hInode)]
  · rintro ⟨hLength, hState, ⟨host, digits, hAddress, hDigits, hPort⟩, hUid, hInode⟩
    rw [hFields] at hLength hState hAddress hUid hInode
    obtain ⟨uidField, hUidField, hUid⟩ := Option.bind_eq_some_iff.mp hUid
    obtain ⟨inodeField, hInodeField, hInode⟩ := Option.bind_eq_some_iff.mp hInode
    dsimp only
    rw [if_neg (by simp [hLength, hState]), hAddress, hUidField, hInodeField]
    dsimp only [Option.bind_eq_bind, Option.bind_some]
    rw [rsplitOnce_append hDigits, Option.bind_some, hPort, Option.bind_some, hUid, Option.bind_some, hInode,
      Option.bind_some, UInt16.ofNat_toNat, UInt32.ofNat_toNat, UInt64.ofNat_toNat]

theorem listed_append {rows others : List (List Char)} {ports otherPorts : List UInt16} (h : Listed rows ports)
    (hOther : Listed others otherPorts) : Listed (rows ++ others) (ports ++ otherPorts) := by
  induction h with
  | nil => exact hOther
  | listening hRow _ ih => exact .listening hRow ih
  | malformed hRow _ ih => exact .malformed hRow ih

/-- Parsing line by line lists the well-formed rows. -/
theorem listed_filterMap (rows : List (List Char)) :
    Listed rows ((rows.filterMap parseProcNetTcpLine).map ListeningSocket.port) := by
  induction rows with
  | nil => exact .nil
  | cons row rows ih =>
      cases hRow : parseProcNetTcpLine row with
      | none =>
          rw [List.filterMap_cons_none hRow]
          refine .malformed (fun s hListen => ?_) ih
          rw [parseProcNetTcpLine_eq_some_iff.mpr hListen] at hRow
          cases hRow
      | some s =>
          rw [List.filterMap_cons_some hRow]
          exact .listening (parseProcNetTcpLine_eq_some_iff.mp hRow) ih

theorem fileSockets_eq (file : Except String (List Char)) :
    fileSockets file = (dataRows file).filterMap parseProcNetTcpLine := by
  cases file <;> rfl

/-- The filter keeps the first socket of each port that is not excluded. -/
theorem map_port_distinctSockets (excludePorts seenPorts : Finset UInt16) (sockets : List ListeningSocket) :
    (distinctSockets excludePorts seenPorts sockets).map ListeningSocket.port =
      ((sockets.map ListeningSocket.port).filter fun port =>
        port ∉ excludePorts ∧ port ∉ seenPorts).eraseDups := by
  induction sockets generalizing seenPorts with
  | nil => rfl
  | cons s sockets ih =>
      rw [distinctSockets, List.map_cons]
      split_ifs with hSkip
      · rw [ih, List.filter_cons_of_neg (by simpa using by tauto)]
      · rw [List.map_cons, ih, List.filter_cons_of_pos (by simpa using hSkip), List.eraseDups_cons,
          List.filter_filter]
        congr 2
        apply List.filter_congr
        intro port _
        by_cases hSame : port = s.port <;> simp [hSame]

theorem map_port_describe (found : ResolvedInodes) (sockets : List ListeningSocket) :
    (sockets.map (describe found)).map ListeningPort.port = sockets.map ListeningSocket.port := by
  rw [List.map_map]
  rfl

/-- A malformed row yields no socket. -/
theorem SameRows.fileSockets_eq {file other : Except String (List Char)} (h : SameRows file other) :
    fileSockets file = fileSockets other := by
  have malformed {row : List Char} (hRow : ∀ s, ¬ListenRow row s) : parseProcNetTcpLine row = none := by
    cases hLine : parseProcNetTcpLine row with
    | none => rfl
    | some s => exact absurd (parseProcNetTcpLine_eq_some_iff.mp hLine) (hRow s)
  have behind (before : List Char) (rest : List (List Char)) :
      (lines (before ++ ['\n']) ++ rest).drop 1 = (lines (before ++ ['\n'])).drop 1 ++ rest := by
    cases hFirst : lines (before ++ ['\n']) with
    | nil => exact absurd hFirst (lines_ne_nil before)
    | cons header rows => rfl
  cases h with
  | same => rfl
  | dropped hDrops =>
      cases hDrops with
      | inside before row after hRow h =>
          show parseProcNetTcp _ = parseProcNetTcp _
          unfold parseProcNetTcp
          rw [lines_append before (row ++ _), lines_append before after, lines_row hRow, behind, behind,
            List.filterMap_append,
            List.filterMap_append, List.filterMap_cons_none (malformed h)]
      | last before row hRow h =>
          show parseProcNetTcp _ = parseProcNetTcp _
          unfold parseProcNetTcp
          by_cases hNone : row = []
          · rw [hNone]
          · rw [lines_append before row, lines_last hRow hNone, behind, List.filterMap_append,
              List.filterMap_cons_none (malformed h), List.filterMap_nil, List.append_nil]

theorem SameRows.isOk_eq {file other : Except String (List Char)} (h : SameRows file other) :
    file.isOk = other.isOk := by
  cases h <;> rfl

/-- With a readable file the scan succeeds, whatever names it resolves. -/
theorem scanListeningPorts_eq (proc : ProcSnapshot) (excludePorts resolved : Finset UInt16)
    (hReadable : proc.tcp.isOk = true ∨ proc.tcp6.isOk = true) :
    ∃ found, scanListeningPorts proc excludePorts resolved =
      .ok ((distinctSockets excludePorts ∅ (fileSockets proc.tcp ++ fileSockets proc.tcp6)).map
        (describe found)) := by
  unfold scanListeningPorts
  split
  case h_1 hTcp hTcp6 =>
    rw [hTcp, hTcp6] at hReadable
    rcases hReadable with hOk | hOk <;> cases hOk
  case h_2 => exact ⟨_, rfl⟩

/-- A scan that succeeds reports the ports of the well-formed rows that are not
excluded. -/
theorem mem_scan {proc : ProcSnapshot} {excludePorts resolved : Finset UInt16} {scan : List ListeningPort}
    {port : UInt16} (h : scanListeningPorts proc excludePorts resolved = .ok scan) :
    port ∈ scan.map ListeningPort.port ↔
      (∃ row ∈ dataRows proc.tcp ++ dataRows proc.tcp6, ∃ s, ListenRow row s ∧ s.port = port) ∧
        port ∉ excludePorts := by
  have hReadable : proc.tcp.isOk = true ∨ proc.tcp6.isOk = true := by
    unfold scanListeningPorts at h
    split at h
    case h_1 => cases h
    case h_2 hNotBoth =>
      cases hTcp : proc.tcp with
      | ok content => exact .inl rfl
      | error e =>
          cases hTcp6 : proc.tcp6 with
          | ok content => exact .inr rfl
          | error e' => exact absurd hTcp6 (hNotBoth e e' hTcp)
  obtain ⟨found, hFound⟩ := scanListeningPorts_eq proc excludePorts resolved hReadable
  obtain rfl := Except.ok.inj (h.symm.trans hFound)
  rw [map_port_describe, map_port_distinctSockets, List.mem_eraseDups, List.mem_filter, fileSockets_eq,
    fileSockets_eq, ← List.filterMap_append, List.mem_map]
  simp only [List.mem_filterMap, parseProcNetTcpLine_eq_some_iff, Finset.notMem_empty, not_false_iff, and_true,
    decide_eq_true_eq]
  constructor
  · rintro ⟨⟨s, ⟨row, hRow, hListen⟩, rfl⟩, hExcluded⟩
    exact ⟨⟨row, hRow, s, hListen, rfl⟩, hExcluded⟩
  · rintro ⟨⟨row, hRow, s, hListen, rfl⟩, hExcluded⟩
    exact ⟨⟨s, ⟨row, hRow, hListen⟩, rfl⟩, hExcluded⟩

/-- The scan reports the ports of the well-formed rows of both files that are
not excluded, each at its first occurrence, whichever ports have been resolved
and whatever malformed rows there are besides. -/
theorem scanListeningPorts_listed (proc : ProcSnapshot) (excludePorts resolved : Finset UInt16)
    (hReadable : proc.tcp.isOk = true ∨ proc.tcp6.isOk = true) :
    ∃ ports listed, scanListeningPorts proc excludePorts resolved = .ok ports ∧
      Listed (dataRows proc.tcp ++ dataRows proc.tcp6) listed ∧
      ports.map ListeningPort.port = (listed.filter (· ∉ excludePorts)).eraseDups ∧
      ∀ (other : ProcSnapshot) (otherResolved : Finset UInt16), SameRows proc.tcp other.tcp →
        SameRows proc.tcp6 other.tcp6 → ∃ otherPorts,
          scanListeningPorts other excludePorts otherResolved = .ok otherPorts ∧
          otherPorts.map ListeningPort.port = ports.map ListeningPort.port := by
  obtain ⟨found, hScan⟩ := scanListeningPorts_eq proc excludePorts resolved hReadable
  refine ⟨_, _, hScan, listed_append (listed_filterMap _) (listed_filterMap _), ?_, ?_⟩
  · rw [map_port_describe, map_port_distinctSockets, fileSockets_eq, fileSockets_eq, List.map_append]
    simp
  · intro other otherResolved hTcp hTcp6
    rw [hTcp.isOk_eq, hTcp6.isOk_eq] at hReadable
    obtain ⟨otherFound, hOther⟩ := scanListeningPorts_eq other excludePorts otherResolved hReadable
    refine ⟨_, hOther, ?_⟩
    rw [map_port_describe, map_port_describe, hTcp.fileSockets_eq, hTcp6.fileSockets_eq]

/-- A server on port 8080 under both protocols, and a row that is cut off. -/
def serverProc : ProcSnapshot where
  tcpPath := "/proc/net/tcp"
  tcp := .ok "sl local\n0: 0:1F90 0:0 0A 0:0 0:0 0 1000 0 5\n1: 0:0050 0:0\n".toList
  tcp6 := .ok "sl local\n0: 0:1F90 0:0 0A 0:0 0:0 0 1000 0 6\n1: 0:23F1 0:0 0A 0:0 0:0 0 0 0 7\n".toList
  status := none
  entries := none
  walkEnds := true

/-- The same with a server on port 80. -/
def webProc : ProcSnapshot :=
  { serverProc with
    tcp := .ok "sl local\n0: 0:0050 0:0 0A 0:0 0:0 0 0 0 4\n1: 0:1F90 0:0 0A 0:0 0:0 0 1000 0 5\n2: 0:0050 0:0\n".toList }

/-- The port is reported once, before the one that only listens under IPv6, and
the excluded one is not. -/
theorem scanListeningPorts_web : ∃ ports listed,
    scanListeningPorts webProc {80} ∅ = .ok ports ∧ ports.map ListeningPort.port = [8080, 9201] ∧
      Listed (dataRows webProc.tcp ++ dataRows webProc.tcp6) listed ∧
      (listed.filter (· ∉ ({80} : Finset UInt16))).eraseDups = [8080, 9201] := by
  obtain ⟨ports, listed, hScan, hListed, hPorts, -⟩ := scanListeningPorts_listed webProc {80} ∅ (.inl rfl)
  have hRun : (scanListeningPorts webProc {80} ∅).toOption.map (List.map ListeningPort.port) =
      some [8080, 9201] := by decide
  rw [hScan] at hRun
  have hMapped := Option.some.inj hRun
  exact ⟨ports, listed, hScan, hMapped, hListed, hPorts.symm.trans hMapped⟩

end DevcontainerBridge
