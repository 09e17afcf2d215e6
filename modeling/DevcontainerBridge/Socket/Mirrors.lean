import DevcontainerBridge.Socket.Delivery
import DevcontainerBridge.Socket.Scanner

/-! Mirrors of host sockets in a container. A mirror is created and removed at
the place that its path leads to, so sockets whose container paths lead to one
place take each other's mirror away. -/
namespace DevcontainerBridge

open Table Transition Stream Files

/-- How the file system answers to the creation of a mirror. -/
inductive CreateOutcome where
  /-- the parent directory cannot be created or changed -/
  | unprepared
  | unbound
  | unprotected
  | created
  deriving DecidableEq, Repr

/-- The mirrors of one session of a container, by socket id with their paths,
and whose listener is bound to the file at a place. `landing` is where the
directories of the container lead, through symbolic links and upwards. -/
structure ContainerMirrors where
  landing : Route → Location
  mirrors : Map String String
  files : Map Location String

namespace ContainerMirrors

/-- The entry that the calls of `std::fs` make and unlink for a path. -/
def place (c : ContainerMirrors) (path : String) : Location :=
  match route (utf8 path) with
  | [] => []
  | name :: parent => name :: c.landing parent

/-- The path checks of `create_mirror_socket`. -/
def acceptsPath (path : String) : Bool :=
  path.toList.head? = some '/' && path.utf8ByteSize ≤ maxUnixSocketPath

def createMirrorSocket (c : ContainerMirrors) (socketId path : String) (outcome : CreateOutcome) :
    ContainerMirrors :=
  if acceptsPath path then
    match outcome with
    | .unprepared => c
    | .unbound | .unprotected => { c with files := c.files.erase (c.place path) }
    | .created =>
        { c with mirrors := c.mirrors.insert socketId path, files := c.files.insert (c.place path) socketId }
  else
    c

def removeMirrorSocket (c : ContainerMirrors) (socketId : String) : ContainerMirrors :=
  match c.mirrors.lookup socketId with
  | none => c
  | some path => { c with mirrors := c.mirrors.erase socketId, files := c.files.erase (c.place path) }

/-- `run_session` on a message. -/
def handle (c : ContainerMirrors) (outcome : CreateOutcome) : Message → ContainerMirrors
  | .socketForward socketId _ path => c.createMirrorSocket socketId path outcome
  | .socketUnforward socketId => c.removeMirrorSocket socketId
  | _ => c

/-- The socket id of a message and the place that is unlinked for it. -/
def unlinks (c : ContainerMirrors) (outcome : CreateOutcome) : Message → Option (String × Location)
  | .socketForward socketId _ path =>
      if acceptsPath path && outcome ≠ .unprepared then some (socketId, c.place path) else none
  | .socketUnforward socketId => (c.mirrors.lookup socketId).map fun path => (socketId, c.place path)
  | _ => none

/-- The mirror of a socket stands and its file is where its path leads. -/
def Live (c : ContainerMirrors) (socketId path : String) : Prop :=
  c.mirrors.lookup socketId = some path ∧ c.files.lookup (c.place path) = some socketId

variable {c : ContainerMirrors} {outcome : CreateOutcome} {message : Message} {socketId path : String}

theorem landing_handle : (c.handle outcome message).landing = c.landing := by
  cases message with
  | socketForward other hostPath target =>
      dsimp only [handle, createMirrorSocket]
      split_ifs
      · cases outcome <;> rfl
      · rfl
  | socketUnforward other =>
      dsimp only [handle, removeMirrorSocket]
      split <;> rfl
  | _ => rfl

theorem place_congr {other : ContainerMirrors} (h : other.landing = c.landing) (path : String) :
    other.place path = c.place path := by
  unfold place
  rw [h]

/-- Files at other places than the unlinked one stay. -/
theorem files_handle {loc : Location} (h : ∀ owner, c.unlinks outcome message ≠ some (owner, loc)) :
    (c.handle outcome message).files.lookup loc = c.files.lookup loc := by
  cases message with
  | socketForward other hostPath target =>
      dsimp only [handle, createMirrorSocket]
      split_ifs with hAccepts
      · dsimp only [unlinks] at h
        rw [hAccepts] at h
        cases outcome with
        | unprepared => rfl
        | _ =>
            have hOther : loc ≠ c.place target := fun hSame => h other (by rw [hSame]; rfl)
            simp [hOther]
      · rfl
  | socketUnforward other =>
      dsimp only [handle, removeMirrorSocket]
      split
      case h_1 => rfl
      case h_2 target hMirror =>
        have hOther : loc ≠ c.place target := fun hSame => h other (by rw [hSame, unlinks, hMirror]; rfl)
        simp [hOther]
  | _ => rfl

/-- A live mirror stays live while neither it nor its place is concerned. -/
theorem Live.handle (hLive : c.Live socketId path)
    (h : ∀ owner target, c.unlinks outcome message = some (owner, target) →
      owner ≠ socketId ∧ target ≠ c.place path) :
    (c.handle outcome message).Live socketId path := by
  obtain ⟨hMirror, hFile⟩ := hLive
  have hSame : (c.handle outcome message).files.lookup (c.place path) = c.files.lookup (c.place path) :=
    files_handle fun owner hHere => (h owner _ hHere).2 rfl
  refine ⟨?_, by rw [place_congr landing_handle, hSame, hFile]⟩
  cases message with
  | socketForward other hostPath target =>
      dsimp only [ContainerMirrors.handle, createMirrorSocket]
      split_ifs with hAccepts
      · cases outcome with
        | created =>
            have hOther : other ≠ socketId := (h other _ (by simp [unlinks, hAccepts]; rfl)).1
            dsimp only
            rw [lookup_insert, if_neg hOther.symm]
            exact hMirror
        | _ => exact hMirror
      · exact hMirror
  | socketUnforward other =>
      dsimp only [ContainerMirrors.handle, removeMirrorSocket]
      split
      case h_1 => exact hMirror
      case h_2 target hTarget =>
        have hOther : other ≠ socketId := (h other _ (by simp [unlinks, hTarget]; rfl)).1
        dsimp only
        rw [lookup_erase, if_neg hOther.symm]
        exact hMirror
  | _ => exact hMirror

/-- A mirror that is there after a message was there before or is the one that
the message asks for. -/
theorem mirrors_handle (h : (c.handle outcome message).mirrors.lookup socketId = some path) :
    c.mirrors.lookup socketId = some path ∨ ∃ hostPath, message = .socketForward socketId hostPath path := by
  cases message with
  | socketForward other hostPath target =>
      dsimp only [handle, createMirrorSocket] at h
      split_ifs at h
      · cases outcome with
        | created =>
            dsimp only at h
            rw [lookup_insert] at h
            split_ifs at h with hHere
            · cases h
              exact .inr ⟨hostPath, by rw [hHere]⟩
            · exact .inl h
        | _ => exact .inl h
      · exact .inl h
  | socketUnforward other =>
      dsimp only [handle, removeMirrorSocket] at h
      split at h
      · exact .inl h
      · dsimp only at h
        rw [lookup_erase] at h
        split_ifs at h
        exact .inl h
  | _ => exact .inl h

end ContainerMirrors

/-- The whole way of host sockets: the scanner, the host daemon with the
connections, and the containers by registration. The path that an identifier
was issued for is recorded. -/
structure MirroredFeed where
  scanner : SocketScanner
  feed : SocketFeed
  issued : Map String HostPath
  containers : Nat → ContainerMirrors

/-- A scan, a message that a container handles, or any other step. -/
inductive MirrorAction where
  | scan (sockets order : List HostPath) (knownOrder : List (Σ _ : HostPath, SocketInfo))
      (uuid : HostPath → String) (containers : List (Σ _ : String, ContainerState))
  | handle (registrationId : Nat) (outcome : CreateOutcome)
  | other (action : FeedAction)

/-- Scans and messages that are handled are steps of their own. -/
def FeedAction.isOther : FeedAction → Bool
  | .host (.task _ (.scan ..)) | .handle _ => false
  | _ => true

namespace MirroredFeed

def start (cfg : HostConfig) (containerPathPrefix : Option String) (maxSocketForwards : Nat)
    (landing : Nat → Route → Location) : MirroredFeed where
  scanner :=
    { containerPathPrefix := containerPathPrefix, maxSocketForwards := maxSocketForwards, known := ∅ }
  feed := SocketFeed.start cfg
  issued := ∅
  containers := fun registrationId => { landing := landing registrationId, mirrors := ∅, files := ∅ }

/-- Record the paths that identifiers have been issued for. -/
def issue (issued : Map String HostPath) (found : List (HostPath × SocketInfo)) : Map String HostPath :=
  found.foldl (fun issued entry => issued.insert entry.2.socketId entry.1) issued

/-- Identifiers are UUIDs: no two are alike. -/
def IsFresh (issued : Map String HostPath) (found : List (HostPath × SocketInfo)) : Prop :=
  (found.map fun entry => entry.2.socketId).Nodup ∧ ∀ entry ∈ found, entry.2.socketId ∉ issued

instance (issued : Map String HostPath) (found : List (HostPath × SocketInfo)) :
    Decidable (IsFresh issued found) :=
  inferInstanceAs (Decidable (_ ∧ _))

def step (cfg : HostConfig) (s : MirroredFeed) : MirrorAction → Option MirroredFeed
  | .scan sockets order knownOrder uuid containers =>
      let (found, removed, scanner) := s.scanner.scan order knownOrder uuid
      if order.Perm (SocketScanner.currentPaths sockets) ∧ Enumerates knownOrder s.scanner.known ∧
          IsFresh s.issued found then
        let newSockets := found.map Prod.snd
        (SocketFeed.step cfg s.feed (.host (.task 0 (.scan newSockets removed containers)))).map fun feed =>
          { s with scanner := scanner, feed := feed, issued := issue s.issued found }
      else
        none
  | .handle registrationId outcome =>
      match s.feed.wire registrationId with
      | [] => none
      | message :: _ =>
          (SocketFeed.step cfg s.feed (.handle registrationId)).map fun feed =>
            let mirrors := (s.containers registrationId).handle outcome message
            { s with feed := feed, containers := Function.update s.containers registrationId mirrors }
  | .other action =>
      if action.isOther then
        (SocketFeed.step cfg s.feed action).map fun feed => { s with feed := feed }
      else
        none

/-- Different sockets that the scanner knows have different container paths. -/
def PathsDiffer (s : MirroredFeed) : Prop :=
  ∀ path other info otherInfo, s.scanner.known.lookup path = some info →
    s.scanner.known.lookup other = some otherInfo → path ≠ other → info.containerPath ≠ otherInfo.containerPath

/-- Whatever the container handles next, the only live mirror that it unlinks
is one of the same host socket. -/
def SparesOthers (s : MirroredFeed) (registrationId : Nat) : Prop :=
  ∀ message rest outcome socketId place other path, s.feed.wire registrationId = message :: rest →
    (s.containers registrationId).unlinks outcome message = some (socketId, place) →
    (s.containers registrationId).Live other path → (s.containers registrationId).place path = place →
    s.issued.lookup other = s.issued.lookup socketId

/-- The host knows the socket under this container path, its SocketForward is
on its way to the container, or the container mirrors it. -/
def Present (s : MirroredFeed) (registrationId : Nat) (socketId path : String) : Prop :=
  (∃ key info, s.scanner.known.lookup key = some info ∧ info.socketId = socketId ∧ info.containerPath = path) ∨
    (∃ key info, s.feed.daemon.ctx.state.socketForwards.lookup key = some info ∧ info.socketId = socketId ∧
      info.containerPath = path) ∨
    (∃ hostPath, .socketForward socketId hostPath path ∈
      s.feed.wire registrationId ++ s.feed.daemon.pending registrationId) ∨
    (s.containers registrationId).mirrors.lookup socketId = some path

/-- The socket is present in the host, on the way or in the container. -/
def Concerns (s : MirroredFeed) (registrationId : Nat) (socket : HostPath) : Prop :=
  ∃ socketId path, s.Present registrationId socketId path ∧ s.issued.lookup socketId = some socket

/-- What tells two sockets apart in the container: the names of their mirrors
under a configured directory, and otherwise the places that their own paths
lead to in the container. -/
def ToldApart (s : MirroredFeed) (registrationId : Nat) (socket other : HostPath) : Prop :=
  match s.scanner.containerPathPrefix with
  | some _ => mirrorName socket ≠ mirrorName other
  | none => (s.containers registrationId).place socket.toStringLossy ≠
      (s.containers registrationId).place other.toStringLossy

instance (s : MirroredFeed) (registrationId : Nat) (socket other : HostPath) :
    Decidable (s.ToldApart registrationId socket other) := by
  unfold ToldApart
  split <;> infer_instance

/-- A scan finds only sockets that have a file name, as every socket has, and
that can be told apart from each other and from the other sockets that are
still present. -/
def KeepsApart (s : MirroredFeed) (registrationId : Nat) : MirrorAction → Prop
  | .scan sockets _ _ _ _ =>
      let current := SocketScanner.currentPaths sockets
      ∀ socket ∈ current, socket.fileName.isSome ∧
        ∀ other, other ∈ current ∨ s.Concerns registrationId other → socket ≠ other →
          s.ToldApart registrationId socket other
  | _ => True

end MirroredFeed

namespace MirroredFeed

/-- A check for scans that find the first sockets. -/
def isFirstScan (s : MirroredFeed) (registrationId : Nat) : MirrorAction → Bool
  | .scan sockets _ _ _ _ =>
      let current := SocketScanner.currentPaths sockets
      decide (s.issued = ∅ ∧ ∀ socket ∈ current, socket.fileName.isSome ∧
        ∀ other ∈ current, socket ≠ other → s.ToldApart registrationId socket other)
  | _ => true

/-- The scanner knows both sockets under one container path. -/
def sharesPath (s : MirroredFeed) (path other : HostPath) : Bool :=
  (s.scanner.known.lookup path).any fun info =>
    (s.scanner.known.lookup other).any fun otherInfo => info.containerPath == otherInfo.containerPath

/-- The next message unlinks the live mirror of another socket. -/
def unlinksOther (s : MirroredFeed) (registrationId : Nat) (other : String) : Bool :=
  match s.feed.wire registrationId with
  | message :: _ =>
      let c := s.containers registrationId
      (c.unlinks .created message).any fun (socketId, place) =>
        (c.mirrors.lookup other).any fun path =>
          c.place path == place && c.files.lookup place == some other &&
            s.issued.lookup other != s.issued.lookup socketId
  | [] => false

variable {cfg : HostConfig} {s s' : MirroredFeed} {registrationId : Nat} {issued : Map String HostPath}
  {found : List (HostPath × SocketInfo)} {socketId path : String}

theorem issue_of_notMem (h : ∀ entry ∈ found, entry.2.socketId ≠ socketId) :
    (issue issued found).lookup socketId = issued.lookup socketId := by
  unfold issue
  induction found generalizing issued with
  | nil => rfl
  | cons entry found ih =>
      rw [List.foldl_cons, ih fun other hOther => h other (List.mem_cons_of_mem entry hOther), lookup_insert,
        if_neg (h entry List.mem_cons_self).symm]

theorem issue_of_mem (hFresh : IsFresh issued found) {socket : HostPath} {info : SocketInfo}
    (h : (socket, info) ∈ found) : (issue issued found).lookup info.socketId = some socket := by
  obtain ⟨hNodup, -⟩ := hFresh
  induction found generalizing issued with
  | nil => cases h
  | cons entry found ih =>
      rw [List.map_cons, List.nodup_cons] at hNodup
      rcases List.mem_cons.mp h with rfl | hLater
      · show (issue (issued.insert info.socketId socket) found).lookup info.socketId = _
        rw [issue_of_notMem, lookup_insert, if_pos rfl]
        intro other hOther hSame
        exact hNodup.1 (List.mem_map.mpr ⟨other, hOther, hSame⟩)
      · exact ih hLater hNodup.2

/-- An identifier in use keeps its socket. -/
theorem issue_of_issued (hFresh : IsFresh issued found) {socket : HostPath}
    (h : issued.lookup socketId = some socket) : (issue issued found).lookup socketId = some socket := by
  rw [issue_of_notMem, h]
  rintro entry hEntry rfl
  exact hFresh.2 entry hEntry (Finmap.mem_of_lookup_eq_some h)

theorem keepsApart_of_isFirstScan {action : MirrorAction} (h : s.isFirstScan registrationId action = true) :
    s.KeepsApart registrationId action := by
  cases action with
  | scan sockets order knownOrder uuid containers =>
      obtain ⟨hIssued, hCurrent⟩ := of_decide_eq_true h
      intro socket hSocket
      obtain ⟨hName, hApart⟩ := hCurrent socket hSocket
      refine ⟨hName, ?_⟩
      rintro other (hOther | ⟨socketId, path, -, hNone⟩) hNe
      · exact hApart other hOther hNe
      · rw [hIssued] at hNone
        cases hNone
  | _ => trivial

theorem not_pathsDiffer {path other : HostPath} (hNe : path ≠ other) (h : s.sharesPath path other = true) :
    ¬s.PathsDiffer := by
  intro hDiffer
  obtain ⟨info, hInfo, hRest⟩ := (Option.any_eq_true _ _).mp h
  obtain ⟨otherInfo, hOtherInfo, hSame⟩ := (Option.any_eq_true _ _).mp hRest
  exact hDiffer path other info otherInfo hInfo hOtherInfo hNe (beq_iff_eq.mp hSame)

theorem not_sparesOthers {other : String} (h : s.unlinksOther registrationId other = true) :
    ¬s.SparesOthers registrationId := by
  intro hSpares
  unfold unlinksOther at h
  split at h
  case h_1 message rest hWire =>
    obtain ⟨⟨socketId, place⟩, hUnlinks, hAny⟩ := (Option.any_eq_true _ _).mp h
    obtain ⟨path, hMirror, hLive⟩ := (Option.any_eq_true _ _).mp hAny
    simp only [Bool.and_eq_true, beq_iff_eq, bne_iff_ne] at hLive
    obtain ⟨⟨hPlace, hFile⟩, hOther⟩ := hLive
    exact hOther (hSpares message rest .created socketId place other path hWire hUnlinks
      ⟨hMirror, hPlace ▸ hFile⟩ hPlace)
  case h_2 => cases h

/-- The place of the mirror of a host socket in the container. -/
def mirrorPlace (s : MirroredFeed) (registrationId : Nat) (socket : HostPath) : Location :=
  (s.containers registrationId).place (s.scanner.computeContainerPath socket)

/-- Sockets that are told apart are mirrored at different places. -/
theorem ToldApart.place_ne {socket other : HostPath} (h : s.ToldApart registrationId socket other)
    (hName : socket.fileName.isSome) (hOther : other.fileName.isSome) :
    s.mirrorPlace registrationId socket ≠ s.mirrorPlace registrationId other := by
  unfold ToldApart at h
  unfold mirrorPlace SocketScanner.computeContainerPath
  cases hPrefix : s.scanner.containerPathPrefix with
  | none =>
      rw [hPrefix] at h
      exact h
  | some dir =>
      rw [hPrefix] at h
      have place_eq : ∀ {path : HostPath}, path.fileName.isSome →
          (s.containers registrationId).place (joinPath dir (mirrorName path)) =
            utf8 (mirrorName path) :: (s.containers registrationId).landing (route (utf8 dir)) := by
        intro path hFile
        obtain ⟨hNil, hHere⟩ := mirrorName_ne hFile
        rw [ContainerMirrors.place, route_joinPath dir hNil hHere (notMem_mirrorName path)]
      dsimp only
      rw [place_eq hName, place_eq hOther]
      exact fun hSame => h (utf8_injective (List.cons.inj hSame).1)

/-- What the delivery knows about the identifiers and the paths of sockets. -/
structure Sound (s : MirroredFeed) (registrationId : Nat) : Prop where
  feed : s.feed.Sound
  issued : ∀ socketId path, s.Present registrationId socketId path →
    ∃ socket, s.issued.lookup socketId = some socket ∧ path = s.scanner.computeContainerPath socket
  owned : ∀ socket info, s.scanner.known.lookup socket = some info →
    s.issued.lookup info.socketId = some socket
  named : ∀ socket, s.Concerns registrationId socket → socket.fileName.isSome
  apart : ∀ socket other, s.Concerns registrationId socket → s.Concerns registrationId other → socket ≠ other →
    s.mirrorPlace registrationId socket ≠ s.mirrorPlace registrationId other

/-- One place is that of one present socket. -/
theorem Sound.issued_eq (h : s.Sound registrationId) {other otherPath : String}
    (hHere : s.Present registrationId socketId path) (hOther : s.Present registrationId other otherPath)
    (hPlace : (s.containers registrationId).place path = (s.containers registrationId).place otherPath) :
    s.issued.lookup socketId = s.issued.lookup other := by
  obtain ⟨socket, hSocket, rfl⟩ := h.issued socketId path hHere
  obtain ⟨otherSocket, hOtherSocket, rfl⟩ := h.issued other otherPath hOther
  rw [hSocket, hOtherSocket]
  by_contra hNe
  exact h.apart socket otherSocket ⟨socketId, _, hHere, hSocket⟩ ⟨other, _, hOther, hOtherSocket⟩
    (fun hSame => hNe (congrArg some hSame)) hPlace

theorem Sound.pathsDiffer (h : s.Sound registrationId) : s.PathsDiffer := by
  intro socket other info otherInfo hInfo hOtherInfo hNe hPath
  have hIssued := h.issued_eq (.inl ⟨socket, info, hInfo, rfl, rfl⟩)
    (.inl ⟨other, otherInfo, hOtherInfo, rfl, hPath.symm⟩) rfl
  rw [h.owned socket info hInfo, h.owned other otherInfo hOtherInfo] at hIssued
  exact hNe (Option.some.inj hIssued)

theorem Sound.sparesOthers (h : s.Sound registrationId) : s.SparesOthers registrationId := by
  intro message rest outcome socketId place other path hWire hUnlinks hLive hPlace
  have hOther : s.Present registrationId other path := .inr (.inr (.inr hLive.1))
  cases message with
  | socketForward target hostPath targetPath =>
      dsimp only [ContainerMirrors.unlinks] at hUnlinks
      split_ifs at hUnlinks
      cases hUnlinks
      refine h.issued_eq hOther (.inr (.inr (.inl ⟨hostPath, List.mem_append_left _ ?_⟩))) hPlace
      rw [hWire]
      exact List.mem_cons_self
  | socketUnforward target =>
      obtain ⟨mirrored, hMirror, hPair⟩ := Option.map_eq_some_iff.mp hUnlinks
      cases hPair
      exact h.issued_eq hOther (.inr (.inr (.inr hMirror))) hPlace
  | _ => cases hUnlinks

/-- The live mirror of a socket outlasts what the container does for others. -/
theorem SparesOthers.live (h : s.SparesOthers registrationId) {message : Message} {rest : List Message}
    {outcome : CreateOutcome} (hWire : s.feed.wire registrationId = message :: rest)
    (hStep : step cfg s (.handle registrationId outcome) = some s')
    (hLive : (s.containers registrationId).Live socketId path)
    (hOther : ∀ owner target, (s.containers registrationId).unlinks outcome message = some (owner, target) →
      s.issued.lookup socketId ≠ s.issued.lookup owner) :
    (s'.containers registrationId).Live socketId path := by
  have hAfter : s'.containers registrationId = (s.containers registrationId).handle outcome message := by
    unfold step at hStep
    dsimp only at hStep
    rw [hWire] at hStep
    obtain ⟨feed', -, rfl⟩ := Option.map_eq_some_iff.mp hStep
    exact Function.update_self _ _ _
  rw [hAfter]
  apply hLive.handle
  intro owner target hUnlinks
  constructor
  · rintro rfl
    exact hOther owner target hUnlinks rfl
  · intro hPlace
    exact hOther owner target hUnlinks
      (h message rest outcome owner target socketId path hWire hUnlinks hLive hPlace.symm)

/-- A step that shows no socket anew keeps the sockets apart. -/
theorem Sound.shrink (h : s.Sound registrationId) (hFeed : s'.feed.Sound) (hScanner : s'.scanner = s.scanner)
    (hIssued : s'.issued = s.issued)
    (hLanding : (s'.containers registrationId).landing = (s.containers registrationId).landing)
    (hPresent : ∀ socketId path, s'.Present registrationId socketId path → s.Present registrationId socketId path) :
    s'.Sound registrationId := by
  have hConcerns : ∀ socket, s'.Concerns registrationId socket → s.Concerns registrationId socket := by
    rintro socket ⟨socketId, path, hHere, hSocket⟩
    exact ⟨socketId, path, hPresent socketId path hHere, hIssued ▸ hSocket⟩
  refine ⟨hFeed, ?_, ?_, fun socket hSocket => h.named socket (hConcerns socket hSocket), ?_⟩
  · intro socketId path hHere
    rw [hIssued, hScanner]
    exact h.issued socketId path (hPresent socketId path hHere)
  · rw [hIssued, hScanner]
    exact h.owned
  · intro socket other hSocket hOther
    unfold mirrorPlace
    rw [hScanner, ContainerMirrors.place_congr hLanding, ContainerMirrors.place_congr hLanding]
    exact h.apart socket other (hConcerns socket hSocket) (hConcerns other hOther)

/-- The messages of a scan that reach a registration announce what it found. -/
theorem mem_messagesTo_scanMessages {newSockets removedSockets : List SocketInfo} {senders : List Nat}
    {hostPath : String}
    (h : .socketForward socketId hostPath path ∈
      messagesTo registrationId (scanMessages newSockets removedSockets senders)) :
    ∃ info ∈ newSockets, info.socketId = socketId ∧ info.containerPath = path := by
  obtain ⟨⟨message, tx⟩, hSend, hHere⟩ := List.mem_filterMap.mp h
  split_ifs at hHere
  cases hHere
  rcases List.mem_append.mp hSend with hNew | hRemoved
  · obtain ⟨info, hInfo, hSenders⟩ := List.mem_flatMap.mp hNew
    obtain ⟨other, -, hPair⟩ := List.mem_map.mp hSenders
    cases hPair
    exact ⟨info, hInfo, rfl, rfl⟩
  · obtain ⟨info, -, hSenders⟩ := List.mem_flatMap.mp hRemoved
    obtain ⟨other, -, hPair⟩ := List.mem_map.mp hSenders
    cases hPair

theorem lookup_foldl_insert_cases {sockets : List SocketInfo} {table : Map String SocketInfo} {key : String}
    {info : SocketInfo}
    (h : (sockets.foldl (fun m info => m.insert info.socketId info) table).lookup key = some info) :
    table.lookup key = some info ∨ info ∈ sockets := by
  induction sockets generalizing table with
  | nil => exact .inl h
  | cons first sockets ih =>
      rcases ih h with hTable | hLater
      · rw [lookup_insert] at hTable
        split_ifs at hTable
        · cases hTable
          exact .inr List.mem_cons_self
        · exact .inl hTable
      · exact .inr (List.mem_cons_of_mem first hLater)

/-- A scan of the host daemon shows only what it is given. -/
theorem scan_present {feed feed' : SocketFeed} {newSockets removedSockets : List SocketInfo}
    {order : List (Σ _ : String, ContainerState)}
    (hStep : SocketFeed.step cfg feed (.host (.task 0 (.scan newSockets removedSockets order))) = some feed') :
    feed'.wire = feed.wire ∧
      (∀ key info, feed'.daemon.ctx.state.socketForwards.lookup key = some info →
        feed.daemon.ctx.state.socketForwards.lookup key = some info ∨ info ∈ newSockets) ∧
      ∀ socketId hostPath path, .socketForward socketId hostPath path ∈ feed'.daemon.pending registrationId →
        .socketForward socketId hostPath path ∈ feed.daemon.pending registrationId ∨
          ∃ info ∈ newSockets, info.socketId = socketId ∧ info.containerPath = path := by
  cases SocketFeed.step_cases hStep with
  | host hSilent hDaemon =>
      refine ⟨rfl, ?_⟩
      cases (Daemon.step_cases hDaemon).2 with
      | @task _ _ after next hNext _ =>
          -- a step that leaves the sockets and the queues alone
          have silent : after.state.socketForwards = feed.daemon.ctx.state.socketForwards →
              after.proxy.outboundMessages = feed.daemon.ctx.proxy.outboundMessages →
              (feed.daemon.tasks 0).sends = [] ∧ next.sends = [] →
              (∀ key info, after.state.socketForwards.lookup key = some info →
                feed.daemon.ctx.state.socketForwards.lookup key = some info ∨ info ∈ newSockets) ∧
              ∀ socketId hostPath path,
                .socketForward socketId hostPath path ∈
                    (feed.daemon.withTask 0 after next).pending registrationId →
                  .socketForward socketId hostPath path ∈ feed.daemon.pending registrationId ∨
                    ∃ info ∈ newSockets, info.socketId = socketId ∧ info.containerPath = path := by
            intro hSockets hQueues hSends
            rw [hSockets, Daemon.pending_of_silent hQueues hSends]
            exact ⟨fun _ _ hInfo => .inl hInfo, fun _ _ _ hMember => .inl hMember⟩
          cases nextHandler_feed hNext with
          | still hSockets hQueues _ hSends _ _ _ => exact silent hSockets hQueues hSends
          | epoch hBefore hNext hAfter =>
              subst hNext hAfter
              exact silent rfl rfl ⟨by rw [hBefore]; rfl, rfl⟩
          | insert hBefore hNext hAfter =>
              subst hNext hAfter
              exact silent rfl rfl ⟨by rw [hBefore]; rfl, rfl⟩
          | replay hInput => cases hInput
          | flush hInput => cases hInput
          | broadcast hInput => cases hInput
          | scan hInput hBefore _ hNext hAfter =>
              cases hInput
              subst hNext hAfter
              refine ⟨fun key info hInfo => lookup_foldl_insert_cases (lookup_foldl_erase_of_some hInfo), ?_⟩
              intro socketId hostPath path hMember
              rw [← Daemon.withTask, Daemon.pending_of_scanner] at hMember
              rcases List.mem_append.mp hMember with hQueued | hSending
              · exact .inl (List.mem_append_left _ hQueued)
              · exact .inr (mem_messagesTo_scanMessages hSending)

/-- A socket that is present after a scan was present before or has just been
found. -/
theorem present_of_scan {order : List HostPath} {found : List (HostPath × SocketInfo)}
    {removed : List SocketInfo} {scanner : SocketScanner} {feed' : SocketFeed} {issued' : Map String HostPath}
    {containers : List (Σ _ : String, ContainerState)} (hScanned : s.scanner.Scanned order found scanner)
    (hFeed : SocketFeed.step cfg s.feed (.host (.task 0 (.scan (found.map Prod.snd) removed containers))) =
      some feed')
    (hPresent : Present { s with scanner := scanner, feed := feed', issued := issued' } registrationId socketId
      path) :
    s.Present registrationId socketId path ∨
      ∃ socket info, (socket, info) ∈ found ∧ info.socketId = socketId ∧ info.containerPath = path := by
  have hNew : ∀ info ∈ found.map Prod.snd, ∃ socket, (socket, info) ∈ found := by
    intro info hInfo
    obtain ⟨⟨socket, _⟩, hFound, rfl⟩ := List.mem_map.mp hInfo
    exact ⟨socket, hFound⟩
  obtain ⟨hWire, hHost, hPending⟩ := scan_present hFeed
  rcases hPresent with ⟨key, info, hInfo, hHere⟩ | ⟨key, info, hInfo, hHere⟩ | ⟨hostPath, hMember⟩ | hMirror
  · rcases hScanned.known key info hInfo with hBefore | hFound
    · exact .inl (.inl ⟨key, info, hBefore, hHere⟩)
    · exact .inr ⟨key, info, hFound, hHere⟩
  · rcases hHost key info hInfo with hBefore | hFound
    · exact .inl (.inr (.inl ⟨key, info, hBefore, hHere⟩))
    · obtain ⟨socket, hSocket⟩ := hNew info hFound
      exact .inr ⟨socket, info, hSocket, hHere⟩
  · rcases List.mem_append.mp hMember with hWritten | hWaiting
    · refine .inl (.inr (.inr (.inl ⟨hostPath, List.mem_append_left _ ?_⟩)))
      rw [← hWire]
      exact hWritten
    · rcases hPending socketId hostPath path hWaiting with hBefore | ⟨info, hFound, hHere⟩
      · exact .inl (.inr (.inr (.inl ⟨hostPath, List.mem_append_right _ hBefore⟩)))
      · obtain ⟨socket, hSocket⟩ := hNew info hFound
        exact .inr ⟨socket, info, hSocket, hHere⟩
  · exact .inl (.inr (.inr (.inr hMirror)))

theorem Sound.scan (h : s.Sound registrationId) {sockets order : List HostPath}
    {knownOrder : List (Σ _ : HostPath, SocketInfo)} {uuid : HostPath → String}
    {containers : List (Σ _ : String, ContainerState)}
    (hApart : s.KeepsApart registrationId (.scan sockets order knownOrder uuid containers))
    (hStep : step cfg s (.scan sockets order knownOrder uuid containers) = some s') : s'.Sound registrationId := by
  unfold step at hStep
  dsimp only at hStep
  split_ifs at hStep with hValid
  obtain ⟨hOrder, -, hFresh⟩ := hValid
  obtain ⟨feed', hFeed, rfl⟩ := Option.map_eq_some_iff.mp hStep
  generalize hScan : s.scanner.scan order knownOrder uuid = result at hFeed hFresh ⊢
  obtain ⟨found, removed, scanner⟩ := result
  dsimp only at hFeed hFresh ⊢
  have hScanned := SocketScanner.scan_scanned hScan
  have hListed : ∀ socket info, (socket, info) ∈ found → socket ∈ SocketScanner.currentPaths sockets :=
    fun socket info hFound => hOrder.mem_iff.mp (hScanned.listed socket info hFound).1
  have hIssued : ∀ socketId path,
      Present { s with scanner := scanner, feed := feed', issued := issue s.issued found } registrationId
        socketId path → ∃ socket, (issue s.issued found).lookup socketId = some socket ∧
          path = s.scanner.computeContainerPath socket ∧
          (socket ∈ SocketScanner.currentPaths sockets ∨ s.Concerns registrationId socket) := by
    intro socketId path hHere
    rcases present_of_scan hScanned hFeed hHere with hBefore | ⟨socket, info, hFound, rfl, rfl⟩
    · obtain ⟨socket, hSocket, hPath⟩ := h.issued socketId path hBefore
      exact ⟨socket, issue_of_issued hFresh hSocket, hPath, .inr ⟨socketId, path, hBefore, hSocket⟩⟩
    · exact ⟨socket, issue_of_mem hFresh hFound, (hScanned.listed socket info hFound).2,
        .inl (hListed socket info hFound)⟩
  have hConcerns : ∀ socket,
      Concerns { s with scanner := scanner, feed := feed', issued := issue s.issued found } registrationId socket →
        socket ∈ SocketScanner.currentPaths sockets ∨ s.Concerns registrationId socket := by
    rintro socket ⟨socketId, path, hHere, hSocket⟩
    obtain ⟨named, hNamed, -, hCase⟩ := hIssued socketId path hHere
    cases hNamed.symm.trans hSocket
    exact hCase
  have hNamed : ∀ socket, socket ∈ SocketScanner.currentPaths sockets ∨ s.Concerns registrationId socket →
      socket.fileName.isSome := fun socket hSocket =>
    hSocket.elim (fun hFound => (hApart socket hFound).1) (h.named socket)
  refine ⟨(h.feed.step (SocketFeed.step_cases hFeed)), ?_, ?_, fun socket hSocket => hNamed socket (hConcerns socket hSocket), ?_⟩
  · intro socketId path hHere
    obtain ⟨socket, hSocket, hPath, -⟩ := hIssued socketId path hHere
    exact ⟨socket, hSocket, hPath.trans (SocketScanner.computeContainerPath_congr hScanned.settings socket).symm⟩
  · intro socket info hInfo
    rcases hScanned.known socket info hInfo with hBefore | hFound
    · exact issue_of_issued hFresh (h.owned socket info hBefore)
    · exact issue_of_mem hFresh hFound
  · intro socket other hSocket hOther hNe
    have hSocketHere := hConcerns socket hSocket
    have hOtherHere := hConcerns other hOther
    unfold mirrorPlace
    dsimp only
    rw [SocketScanner.computeContainerPath_congr hScanned.settings,
      SocketScanner.computeContainerPath_congr hScanned.settings]
    rcases hSocketHere with hFound | hBefore
    · exact ((hApart socket hFound).2 other hOtherHere hNe).place_ne (hApart socket hFound).1 (hNamed other hOtherHere)
    · rcases hOtherHere with hFound | hOtherBefore
      · have hTold := (hApart other hFound).2 socket (.inr hBefore) hNe.symm
        exact (hTold.place_ne (hApart other hFound).1 (hNamed socket (.inr hBefore))).symm
      · exact h.apart socket other hBefore hOtherBefore hNe

/-- A container mirrors what it is told to mirror. -/
theorem Sound.handle (h : s.Sound registrationId) {number : Nat} {outcome : CreateOutcome}
    (hStep : step cfg s (.handle number outcome) = some s') : s'.Sound registrationId := by
  unfold step at hStep
  dsimp only at hStep
  split at hStep
  case h_1 => cases hStep
  case h_2 message rest hWire =>
    obtain ⟨feed', hFeed, rfl⟩ := Option.map_eq_some_iff.mp hStep
    have hCases := SocketFeed.step_cases hFeed
    have hLanding : (Function.update s.containers number ((s.containers number).handle outcome message)
        registrationId).landing = (s.containers registrationId).landing := by
      by_cases hHere : registrationId = number
      · rw [hHere, Function.update_self, ContainerMirrors.landing_handle]
      · rw [Function.update_of_ne hHere]
    refine h.shrink (h.feed.step hCases) rfl rfl hLanding fun socketId path hPresent => ?_
    cases hCases with
    | @handle _ first others hFirst =>
        have hWritten : ∀ other ∈ Function.update s.feed.wire number others registrationId,
            other ∈ s.feed.wire registrationId := by
          intro other hOther
          by_cases hHere : registrationId = number
          · rw [hHere, Function.update_self] at hOther
            rw [hHere, hFirst]
            exact List.mem_cons_of_mem first hOther
          · rwa [Function.update_of_ne hHere] at hOther
        rcases hPresent with hKnown | hHost | ⟨hostPath, hMember⟩ | hMirror
        · exact .inl hKnown
        · exact .inr (.inl hHost)
        · refine .inr (.inr (.inl ⟨hostPath, ?_⟩))
          rcases List.mem_append.mp hMember with hOld | hPending
          · exact List.mem_append_left _ (hWritten _ hOld)
          · exact List.mem_append_right _ hPending
        · dsimp only at hMirror
          by_cases hHere : registrationId = number
          · subst hHere
            rw [Function.update_self] at hMirror
            rcases ContainerMirrors.mirrors_handle hMirror with hBefore | ⟨hostPath, rfl⟩
            · exact .inr (.inr (.inr hBefore))
            · refine .inr (.inr (.inl ⟨hostPath, List.mem_append_left _ ?_⟩))
              rw [hWire]
              exact List.mem_cons_self
          · rw [Function.update_of_ne hHere] at hMirror
            exact .inr (.inr (.inr hMirror))

/-- A step of the feed that is no scan moves messages on. New on a connection
are only messages that were pending and the sockets of a replay. -/
theorem other_present {feed feed' : SocketFeed} {action : FeedAction} (hSound : feed.Sound)
    (hOther : action.isOther = true) (hStep : FeedStep cfg feed action feed') :
    feed'.daemon.ctx.state.socketForwards = feed.daemon.ctx.state.socketForwards ∧
      ∀ message ∈ feed'.wire registrationId ++ feed'.daemon.pending registrationId,
        message ∈ feed.wire registrationId ++ feed.daemon.pending registrationId ∨
          ∃ key info, feed.daemon.ctx.state.socketForwards.lookup key = some info ∧ message = info.announcement := by
  -- what is written in the step counts, the rest was there before
  have written : ∀ {d' : Daemon} {daemonAction : Action} {number : Nat} {messages : List Message},
      Daemon.step cfg feed.daemon daemonAction = some d' →
      (∀ id newSockets removedSockets order, daemonAction ≠ .task id (.scan newSockets removedSockets order)) →
      (registrationId = number → ∀ message ∈ messages,
        message ∈ feed.daemon.pending registrationId ∨
          ∃ key info, feed.daemon.ctx.state.socketForwards.lookup key = some info ∧
            message = info.announcement) →
      d'.ctx.state.socketForwards = feed.daemon.ctx.state.socketForwards ∧
        ∀ message ∈ (SocketFeed.write { feed with daemon := d' } number messages).wire registrationId ++
            d'.pending registrationId,
          message ∈ feed.wire registrationId ++ feed.daemon.pending registrationId ∨
            ∃ key info, feed.daemon.ctx.state.socketForwards.lookup key = some info ∧
              message = info.announcement := by
    intro d' daemonAction number messages hDaemon hNoScan hMessages
    obtain ⟨hSockets, hPending⟩ := hSound.daemon.pending_subset hDaemon hNoScan
    refine ⟨hSockets, fun message hMember => ?_⟩
    rcases List.mem_append.mp hMember with hWritten | hWaiting
    · by_cases hHere : registrationId = number
      · subst hHere
        rw [SocketFeed.write_wire_self] at hWritten
        rcases List.mem_append.mp hWritten with hOld | hNew
        · exact .inl (List.mem_append_left _ hOld)
        · exact (hMessages rfl message hNew).imp (List.mem_append_right _) id
      · rw [SocketFeed.write_wire_of_ne messages hHere] at hWritten
        exact .inl (List.mem_append_left _ hWritten)
    · exact .inl (List.mem_append_right _ (hPending message hWaiting))
  cases hStep with
  | @host daemonAction d' _ hDaemon =>
      have hNoScan : ∀ id newSockets removedSockets order,
          daemonAction ≠ .task id (.scan newSockets removedSockets order) := by
        rintro id newSockets removedSockets order rfl
        cases hOther
      obtain ⟨hSockets, hPending⟩ := hSound.daemon.pending_subset hDaemon hNoScan
      refine ⟨hSockets, fun message hMember => .inl ?_⟩
      rcases List.mem_append.mp hMember with hWritten | hWaiting
      · exact List.mem_append_left _ hWritten
      · exact List.mem_append_right _ (hPending message hWaiting)
  | @replay id order sent containerId number d' hTask hOrder hDaemon _ =>
      refine written hDaemon (fun _ _ _ _ hScan => by cases hScan) fun _ message hMessage => .inr ?_
      obtain ⟨⟨key, info⟩, hEntry, rfl⟩ := List.mem_map.mp hMessage
      exact ⟨key, info, (mem_of_enumerates hOrder key info).mp (List.mem_filter.mp hEntry).1, rfl⟩
  | @flush id sent containerId number first rest d' proxy hTask hQueue hDaemon _ _ =>
      refine written hDaemon (fun _ _ _ _ hScan => by cases hScan) fun hHere message hMessage => .inl ?_
      apply List.mem_append_left
      rw [hHere, hQueue]
      cases sent with
      | true => exact List.mem_cons.mpr (.inl (List.mem_singleton.mp hMessage))
      | false => cases hMessage
  | handle => cases hOther

/-- The other steps only move on what is present. -/
theorem Sound.other (h : s.Sound registrationId) {action : FeedAction}
    (hStep : step cfg s (.other action) = some s') : s'.Sound registrationId := by
  unfold step at hStep
  dsimp only at hStep
  split_ifs at hStep with hOther
  obtain ⟨feed', hFeed, rfl⟩ := Option.map_eq_some_iff.mp hStep
  have hCases := SocketFeed.step_cases hFeed
  refine h.shrink (h.feed.step hCases) rfl rfl rfl fun socketId path hPresent => ?_
  obtain ⟨hSockets, hMessages⟩ := other_present h.feed hOther hCases
  rcases hPresent with hKnown | hHost | ⟨hostPath, hMember⟩ | hMirror
  · exact .inl hKnown
  · dsimp only at hHost
    rw [hSockets] at hHost
    exact .inr (.inl hHost)
  · rcases hMessages _ hMember with hBefore | ⟨key, info, hInfo, hSame⟩
    · exact .inr (.inr (.inl ⟨hostPath, hBefore⟩))
    · cases hSame
      exact .inr (.inl ⟨key, info, hInfo, rfl, rfl⟩)
  · exact .inr (.inr (.inr hMirror))

theorem start_sound (cfg : HostConfig) (containerPathPrefix : Option String) (maxSocketForwards : Nat)
    (landing : Nat → Route → Location) (registrationId : Nat) :
    (start cfg containerPathPrefix maxSocketForwards landing).Sound registrationId := by
  have hNothing : ∀ socketId path,
      ¬(start cfg containerPathPrefix maxSocketForwards landing).Present registrationId socketId path := by
    rintro socketId path (⟨key, info, hNone, -⟩ | ⟨key, info, hNone, -⟩ | ⟨hostPath, hMember⟩ | hNone)
    · cases hNone
    · cases hNone
    · have hSends : messagesTo registrationId ((Daemon.start cfg).tasks 0).sends = [] := by
        unfold Daemon.start
        dsimp only
        split_ifs <;> rfl
      have hPending : (Daemon.start cfg).pending registrationId = [] := by
        unfold Daemon.pending
        rw [hSends]
        rfl
      rcases List.mem_append.mp hMember with hWire | hWaiting
      · cases hWire
      · change _ ∈ (Daemon.start cfg).pending registrationId at hWaiting
        rw [hPending] at hWaiting
        cases hWaiting
    · cases hNone
  refine ⟨SocketFeed.start_sound cfg, ?_, ?_, ?_, ?_⟩
  · exact fun socketId path hHere => absurd hHere (hNothing socketId path)
  · intro socket info hNone
    cases hNone
  · rintro socket ⟨socketId, path, hHere, -⟩
    exact absurd hHere (hNothing socketId path)
  · rintro socket other ⟨socketId, path, hHere, -⟩
    exact absurd hHere (hNothing socketId path)

end MirroredFeed

/-- In every run in which each scan finds only sockets that can be told apart,
different sockets have different container paths and the container never
unlinks the live mirror of another socket, wherever its paths lead. -/
theorem mirrors_kept_apart {cfg : HostConfig} {containerPathPrefix : Option String} {maxSocketForwards : Nat}
    {landing : Nat → Route → Location} {trace : List (MirroredFeed × MirrorAction)} {finish : MirroredFeed}
    (run : Run (MirroredFeed.step cfg) (MirroredFeed.start cfg containerPathPrefix maxSocketForwards landing) trace
      finish)
    {registrationId : Nat} (hApart : Guarded (fun s action => s.KeepsApart registrationId action) trace) :
    Throughout (fun s => s.PathsDiffer ∧ s.SparesOthers registrationId) trace finish := by
  have hSound : Throughout (fun s => s.Sound registrationId) trace finish := by
    apply run.throughout hApart
    · exact MirroredFeed.start_sound cfg containerPathPrefix maxSocketForwards landing registrationId
    · intro s action s' hBefore hAction hStep
      cases action with
      | scan => exact hBefore.scan hAction hStep
      | handle => exact hBefore.handle hStep
      | other => exact hBefore.other hStep
  exact ⟨fun entry hEntry => ⟨(hSound.1 entry hEntry).pathsDiffer, (hSound.1 entry hEntry).sparesOthers⟩,
    hSound.2.pathsDiffer, hSound.2.sparesOthers⟩

/-- The host socket `/a/x`. -/
def firstSocket : HostPath where
  absolute := true
  components := [[97], [120]]
  wellFormed := by decide

/-- The host socket `/b/x`, which has the same name. -/
def sameNameSocket : HostPath where
  absolute := true
  components := [[98], [120]]
  wellFormed := by decide

/-- The host socket `/b/y`. -/
def otherNameSocket : HostPath where
  absolute := true
  components := [[98], [121]]
  wellFormed := by decide

/-- A container registers, a scan finds two sockets, and the container mirrors
the first of them. -/
def mirrorSchedule (other : HostPath) : List MirrorAction :=
  let registration := announceSchedule 1 "c" "h" "" ++ [Action.task 1 .proceed]
  let order := [⟨"c", HostState.newRegistration "h" 1⟩]
  let uuid := fun path => if path = firstSocket then "1" else "2"
  registration.map (fun action => .other (.host action)) ++ .other (.replay 1 [] fun _ => true) ::
    .scan [firstSocket, other] [firstSocket, other] [] uuid order ::
    List.replicate 3 (.other (.host (.task 0 .proceed))) ++
    List.replicate 2 (.other (.flush 1 true)) ++ [.handle 1 .created]

/-- A container in which `/run` is a link to `/var/run`. -/
def linkedRun (_ : Nat) (parent : Route) : Location :=
  if [utf8 "run"] <:+ parent then parent ++ [utf8 "var"] else parent

theorem mirrors_kept_apart_named :
    ∃ trace finish, trace.map Prod.snd = mirrorSchedule otherNameSocket ++ [.handle 1 .created] ∧
      Run (MirroredFeed.step .scanning) (MirroredFeed.start .scanning (some "/run/host-sockets") 32 linkedRun) trace
        finish ∧
      Guarded (fun s action => s.KeepsApart 1 action) trace ∧
      Throughout (fun s => s.PathsDiffer ∧ s.SparesOthers 1) trace finish := by
  have hRun : (execWhile (MirroredFeed.step .scanning) (fun s action => s.isFirstScan 1 action)
      (MirroredFeed.start .scanning (some "/run/host-sockets") 32 linkedRun)
      (mirrorSchedule otherNameSocket ++ [.handle 1 .created])).isSome := by
    decide +kernel
  obtain ⟨finish, hExec⟩ := Option.isSome_iff_exists.mp hRun
  obtain ⟨trace, hActions, run, hFirst⟩ := run_of_execWhile hExec
  have hApart : Guarded (fun s action => s.KeepsApart 1 action) trace :=
    fun entry hEntry => MirroredFeed.keepsApart_of_isFirstScan (hFirst entry hEntry)
  exact ⟨trace, finish, hActions, run, hApart, mirrors_kept_apart run hApart⟩

/-- Two sockets of one name have one container path, and the container unlinks
the live mirror of the first when it creates the mirror of the second. -/
theorem mirrors_collide :
    ∃ s, exec (MirroredFeed.step .scanning)
        (MirroredFeed.start .scanning (some "/run/host-sockets") 32 fun _ parent => parent) (mirrorSchedule sameNameSocket) = some s ∧ ¬s.PathsDiffer ∧ ¬s.SparesOthers 1 := by
  have hRun : (exec (MirroredFeed.step .scanning)
      (MirroredFeed.start .scanning (some "/run/host-sockets") 32 fun _ parent => parent)
      (mirrorSchedule sameNameSocket)).any fun s =>
        s.sharesPath firstSocket sameNameSocket && s.unlinksOther 1 "1" := by
    decide +kernel
  obtain ⟨s, hExec, hState⟩ := (Option.any_eq_true _ _).mp hRun
  obtain ⟨hShared, hUnlinked⟩ := (Bool.and_eq_true _ _).mp hState
  exact ⟨s, hExec, MirroredFeed.not_pathsDiffer (by decide) hShared, MirroredFeed.not_sparesOthers hUnlinked⟩

end DevcontainerBridge
