import DevcontainerBridge.Files.Directories
import DevcontainerBridge.Socket.Mirrors

/-! The file of a mirror socket and the directories that are made for it. -/
namespace DevcontainerBridge

open Files Stream Table

/-- What the system lets the container daemon do. A call that it refuses fails
and changes nothing. -/
structure MirrorRun where
  umask : Nat
  maySearch : Location → Bool
  mayCreateDir : Location → Bool
  mayChmodParent : Bool
  mayRemove : Bool
  mayBind : Bool
  /-- `set_nonblocking` and the listener of the runtime -/
  mayConvert : Bool
  mayChmodSocket : Bool

inductive SocketMirrorError where
  | notAbsolute (path : List UInt8)
  | pathTooLong (path : List UInt8) (len max : Nat)
  | createDir (path : Route) (source : Errno)
  | bind (path : Route) (source : Errno)
  | permissions (path : Route) (source : Errno)
  deriving DecidableEq, Repr

/-- The listener and the shutdown channel are left out. -/
structure MirrorSocket where
  socketId : String
  containerPath : List UInt8
  deriving DecidableEq, Repr

/-- Whether a path ends in a name, not in a slash or a dot. -/
def endsInName (path : List UInt8) : Bool :=
  (path.splitOn slash).getLast?.any fun part => part ≠ [] && part ≠ here

namespace MirrorRun

variable (run : MirrorRun)

/-- The mode of directories that are made without asking for one. -/
def directoryMode : Nat := masked run.umask 0o777

def ensureParent (fs : FileSystem) (parent : Route) : FileSystem × Except Errno Unit :=
  match fs.stat run.maySearch parent with
  | .ok _ => (fs, .ok ())
  | .error _ => fs.createDirAll run.maySearch run.mayCreateDir run.directoryMode parent

/-- Remove a stale file. Errors are ignored. -/
def removeFile (fs : FileSystem) (path : List UInt8) : FileSystem :=
  if endsInName path then
    match fs.unlink run.maySearch run.mayRemove (route path) with
    | .ok fs => fs
    | .error _ => fs
  else fs

/-- The address has to be shorter than what the system keeps for it. -/
def bind (fs : FileSystem) (path : List UInt8) : Except Errno FileSystem :=
  if maxUnixSocketPath ≤ path.length then .error .invalid
  else if endsInName path then
    fs.create run.maySearch (fun _ => run.mayBind) (.socket (masked run.umask 0o777)) (route path)
  else .error .alreadyExists

def bindMirror (fs : FileSystem) (socketId : String) (path : List UInt8) :
    FileSystem × Except SocketMirrorError MirrorSocket :=
  let fs := run.removeFile fs path
  match run.bind fs path with
  | .error e => (fs, .error (.bind (route path) e))
  | .ok fs =>
      if run.mayConvert then
        match fs.chmod run.maySearch run.mayChmodSocket 0o600 (route path) with
        | .error e => (fs, .error (.permissions (route path) e))
        | .ok fs => (fs, .ok { socketId, containerPath := path })
      else (fs, .error (.bind (route path) .denied))

def createMirrorSocket (fs : FileSystem) (socketId : String) (path : List UInt8) :
    FileSystem × Except SocketMirrorError MirrorSocket :=
  let len := (fromUtf8Lossy path).utf8ByteSize
  if isAbsolute path = false then (fs, .error (.notAbsolute path))
  else if maxUnixSocketPath < len then (fs, .error (.pathTooLong path len maxUnixSocketPath))
  else
    match route path with
    | [] => run.bindMirror fs socketId path
    | _ :: parent =>
        match run.ensureParent fs parent with
        | (fs, .error e) => (fs, .error (.createDir parent e))
        | (fs, .ok _) =>
            match fs.chmod run.maySearch run.mayChmodParent 0o700 parent with
            | .error e => (fs, .error (.permissions parent e))
            | .ok fs => run.bindMirror fs socketId path

variable {run : MirrorRun} {before fs after : FileSystem} {path : List UInt8} {parent : Route} {loc : Location}

/-- The checks are the ones that the mirrors of a session know of. -/
theorem acceptsPath_iff {path : String} : ContainerMirrors.acceptsPath path = true ↔
    isAbsolute (utf8 path) = true ∧ (fromUtf8Lossy (utf8 path)).utf8ByteSize ≤ maxUnixSocketPath := by
  have hHead : (utf8 path).head? = some slash ↔ path.toList.head? = some '/' := by
    rw [utf8_eq_flatMap]
    cases path.toList with
    | nil => simp
    | cons c chars =>
        rw [List.flatMap_cons, List.head?_append_of_ne_nil _ String.utf8EncodeChar_ne_nil, List.head?_cons]
        constructor
        · intro hFirst
          have hMem : slash ∈ utf8 (String.ofList [c]) := by
            rw [utf8_ofList, List.flatMap_singleton]
            exact List.mem_of_head? hFirst
          have hChar := (mem_utf8_iff (by decide)).mp hMem
          rw [String.toList_ofList, List.mem_singleton] at hChar
          rw [← hChar]
          rfl
        · intro hFirst
          cases hFirst
          rfl
  simp [ContainerMirrors.acceptsPath, isAbsolute, hHead]

/-- The directories with their modes are the same. -/
def SameDirectories (before after : FileSystem) : Prop :=
  ∀ loc mode, after.nodes loc = some (.directory mode) ↔ before.nodes loc = some (.directory mode)

/-- Creating a mirror touches only what it creates. -/
structure Confined (run : MirrorRun) (before after : FileSystem) (path : Route) (created : Bool) : Prop where
  kept : ∀ loc mode, before.nodes loc = some (.directory mode) → after.nodes loc = some (.directory mode)
  made : ∀ loc mode, ¬ before.IsDirectory loc → after.nodes loc = some (.directory mode) → mode = 0o700
  mirrored : created = true → ∃ loc, after.resolve run.maySearch path = .ok loc ∧
    after.nodes loc = some (.socket 0o600) ∧
    ∀ other, other ≠ loc → after.nodes other = before.nodes other ∨
      before.nodes other = none ∧ after.nodes other = some (.directory 0o700)

/-- Where the parent leads once the directories that it lacks are there. -/
def reached (run : MirrorRun) (fs : FileSystem) (parent : Route) : FileSystem.Reached :=
  fs.reach run.maySearch run.mayCreateDir run.directoryMode parent

/-- The directories that the parent lacks are at most the parent itself, or get
the mode 0700 by default; and where the parent is there, it has that mode or
cannot be changed. -/
def Spares (run : MirrorRun) (fs : FileSystem) (parent : Route) : Prop :=
  (∀ loc ∈ (run.reached fs parent).made,
      run.directoryMode = 0o700 ∨ run.mayChmodParent = true ∧ (run.reached fs parent).landing = some loc) ∧
    ∀ loc mode, (run.reached fs parent).landing = some loc → fs.nodes loc = some (.directory mode) →
      run.mayChmodParent = true → mode = 0o700

theorem SameDirectories.trans {middle : FileSystem} (hFirst : SameDirectories before middle)
    (hSecond : SameDirectories middle after) : SameDirectories before after :=
  fun loc mode => (hSecond loc mode).trans (hFirst loc mode)

/-- A run that makes no mirror and keeps the directories is confined. -/
theorem SameDirectories.confined {route : Route} {created : Bool} (h : SameDirectories before after)
    (hNone : ¬ created = true) : run.Confined before after route created := by
  refine ⟨fun loc mode => (h loc mode).mpr, fun loc mode hOld hThere => ?_, fun hOk => absurd hOk hNone⟩
  exact absurd (FileSystem.isDirectory_iff.mpr ⟨mode, (h loc mode).mp hThere⟩) hOld

theorem SameDirectories.isDirectory_iff (h : SameDirectories before after) :
    after.IsDirectory loc ↔ before.IsDirectory loc := by
  simp only [FileSystem.isDirectory_iff, h loc]

/-- Only the entry changes where something other than a directory is removed. -/
theorem nodes_erase_leaf {entry : Entry fs} (hLeaf : ¬ fs.IsDirectory entry.location) (hNe : loc ≠ entry.location) :
    (fs.erase entry).nodes loc = fs.nodes loc := by
  rw [FileSystem.nodes_erase]
  split
  case isTrue hBelow => exact (FileSystem.nodes_below hLeaf hBelow hNe.symm).symm
  case isFalse => rfl

theorem sameDirectories_erase {entry : Entry fs} (hLeaf : ¬ fs.IsDirectory entry.location) :
    SameDirectories fs (fs.erase entry) := by
  intro loc mode
  by_cases hHere : loc = entry.location
  · subst hHere
    have hNone : (fs.erase entry).nodes entry.location = none := by
      rw [FileSystem.nodes_erase, if_pos List.suffix_rfl]
    simp only [hNone, reduceCtorEq, false_iff]
    exact fun h => hLeaf (FileSystem.isDirectory_iff.mpr ⟨mode, h⟩)
  · rw [nodes_erase_leaf hLeaf hHere]

theorem sameDirectories_add {entry : Entry fs} {node : Node} (hNew : fs.nodes entry.location = none)
    (hLeaf : node.isDirectory = false) : SameDirectories fs (fs.add entry node hNew) := by
  intro loc mode
  rw [FileSystem.nodes_add]
  split
  case isTrue hHere =>
    subst hHere
    cases node <;> simp_all [Node.isDirectory]
  case isFalse => rfl

theorem sameDirectories_setMode {place : Location} (mode : Nat) (hLeaf : ¬ fs.IsDirectory place) :
    SameDirectories fs (fs.setMode place mode) := by
  intro loc other
  rw [FileSystem.nodes_setMode]
  split
  case isTrue hHere =>
    subst hHere
    cases hNode : fs.nodes loc with
    | none => simp
    | some node =>
        have hKind : node.isDirectory = false := by simpa [FileSystem.IsDirectory, hNode] using hLeaf
        cases node <;> simp_all [Node.chmod, Node.isDirectory]
  case isFalse => rfl

theorem removeFile_cases (fs : FileSystem) (path : List UInt8) : run.removeFile fs path = fs ∨
    ∃ entry, fs.entry run.maySearch (route path) = .ok entry ∧ ¬ fs.IsDirectory entry.location ∧
      run.removeFile fs path = fs.erase entry := by
  unfold removeFile
  split
  case isFalse => exact .inl rfl
  case isTrue =>
    split
    case h_1 after hUnlink =>
      obtain ⟨entry, hEntry, hLeaf, rfl⟩ := FileSystem.unlink_eq_ok hUnlink
      exact .inr ⟨entry, hEntry, hLeaf, rfl⟩
    case h_2 => exact .inl rfl

theorem bind_eq_ok (h : run.bind fs path = .ok after) :
    fs.create run.maySearch (fun _ => run.mayBind) (.socket (masked run.umask 0o777)) (route path) = .ok after := by
  unfold bind at h
  split at h
  case isTrue => cases h
  case isFalse =>
    split at h
    case isTrue => exact h
    case isFalse => cases h

theorem removeFile_sameDirectories (fs : FileSystem) (path : List UInt8) :
    SameDirectories fs (run.removeFile fs path) := by
  rcases run.removeFile_cases fs path with hSame | ⟨entry, -, hLeaf, hErase⟩
  · rw [hSame]
    exact fun loc mode => Iff.rfl
  · rw [hErase]
    exact sameDirectories_erase hLeaf

/-- Only the entry of the path changes when a stale file is removed. -/
theorem removeFile_entry {removed : FileSystem} (hRemoved : run.removeFile fs path = removed) {entry : Entry removed}
    (h : removed.entry run.maySearch (route path) = .ok entry) :
    ∃ up, route path = entry.name :: up ∧ fs.resolve run.maySearch up = .ok entry.parent ∧
      fs.IsDirectory entry.parent ∧ ∀ other, other ≠ entry.location → removed.nodes other = fs.nodes other := by
  obtain ⟨up, hRoute, hUp, -⟩ := FileSystem.entry_eq_ok h
  have hParent := (hRemoved ▸ run.removeFile_sameDirectories fs path).isDirectory_iff.mp entry.directory
  rcases run.removeFile_cases fs path with hSame | ⟨stale, hStale, hLeaf, hErase⟩
  · obtain rfl := hSame.symm.trans hRemoved
    exact ⟨up, hRoute, hUp, hParent, fun other _ => rfl⟩
  · obtain rfl := hErase.symm.trans hRemoved
    have hBefore := (FileSystem.grows_of_erase stale).resolve hUp
    refine ⟨up, hRoute, hBefore, hParent, fun other hOther => ?_⟩
    obtain ⟨up', hRoute', hUp', -⟩ := FileSystem.entry_eq_ok hStale
    obtain ⟨hName, rfl⟩ := List.cons.inj (hRoute.symm.trans hRoute')
    rw [hBefore] at hUp'
    have hPlace : entry.location = stale.location := by
      rw [Entry.location, Entry.location, hName, Except.ok.inj hUp']
    exact nodes_erase_leaf hLeaf (hPlace ▸ hOther)

/-- How binding a mirror ends: without a listener, or with a socket at the path
and nothing else changed. The directories stay as they are. -/
theorem bindMirror_cases (fs : FileSystem) (socketId : String) (path : List UInt8) :
    SameDirectories fs (run.bindMirror fs socketId path).1 ∧
      ((run.bindMirror fs socketId path).2.isOk = true → ∃ name up loc, route path = name :: up ∧
        fs.resolve run.maySearch up = .ok loc ∧ fs.IsDirectory loc ∧
        (run.bindMirror fs socketId path).1.resolve run.maySearch (route path) = .ok (name :: loc) ∧
        (run.bindMirror fs socketId path).1.nodes (name :: loc) = some (.socket 0o600) ∧
        ∀ other, other ≠ name :: loc → (run.bindMirror fs socketId path).1.nodes other = fs.nodes other) := by
  have hRemoved := run.removeFile_sameDirectories fs path
  unfold bindMirror
  dsimp only
  split
  case h_1 e hBind => exact ⟨hRemoved, nofun⟩
  case h_2 bound hBind =>
    obtain ⟨entry, hNew, hEntry, hAdd, hResolve⟩ := FileSystem.resolve_created (bind_eq_ok hBind) rfl
    obtain ⟨up, hRoute, hUp, hParent, hOther⟩ := removeFile_entry rfl hEntry
    have hBound : SameDirectories fs bound := by
      rw [hAdd]
      exact hRemoved.trans (sameDirectories_add hNew rfl)
    have hSocket : bound.nodes entry.location = some (.socket (masked run.umask 0o777)) := by
      rw [hAdd, FileSystem.nodes_add, if_pos rfl]
    split
    case isFalse => exact ⟨hBound, nofun⟩
    case isTrue =>
      split
      case h_1 e hChmod => exact ⟨hBound, nofun⟩
      case h_2 after hChmod =>
        obtain ⟨loc, hLoc, -, rfl⟩ := FileSystem.chmod_eq_ok hChmod
        obtain rfl : entry.location = loc := by
          rw [hResolve] at hLoc
          exact Except.ok.inj hLoc
        have hLeaf : ¬ bound.IsDirectory entry.location := by
          simp [FileSystem.IsDirectory, hSocket, Node.isDirectory]
        refine ⟨hBound.trans (sameDirectories_setMode _ hLeaf), fun _ => ?_⟩
        refine ⟨entry.name, up, entry.parent, hRoute, hUp, hParent, ?_, ?_, fun other hNe => ?_⟩
        · exact (FileSystem.grows_setMode bound _ _).resolve hResolve
        · show (bound.setMode entry.location 0o600).nodes entry.location = _
          rw [FileSystem.nodes_setMode, if_pos rfl, hSocket]
          rfl
        · have hElsewhere : other ≠ entry.location := hNe
          rw [FileSystem.nodes_setMode, if_neg hElsewhere, hAdd, FileSystem.nodes_add, if_neg hElsewhere]
          exact hOther other hElsewhere

/-- How making the parent ends: the directories that it lacks are there, and
where it still leads to none, it is something else that was there before. -/
theorem ensureParent_cases (fs : FileSystem) (parent : Route) :
    (run.ensureParent fs parent).1 = (run.reached fs parent).fs ∧
      ((run.reached fs parent).landing.isSome → (run.ensureParent fs parent).2 = .ok ()) ∧
      ((run.ensureParent fs parent).2 = .ok () → (run.reached fs parent).landing = none →
        ∃ loc, (run.reached fs parent).fs.resolve run.maySearch parent = .ok loc ∧
          ¬ (run.reached fs parent).fs.IsDirectory loc) := by
  unfold ensureParent reached
  split
  case h_1 node hStat =>
    cases hResolve : fs.resolve run.maySearch parent with
    | error e => simp [FileSystem.stat, hResolve] at hStat
    | ok loc =>
        by_cases hDirectory : fs.IsDirectory loc
        · rw [FileSystem.reach_of_directoryAt (FileSystem.directoryAt_eq_some.mpr ⟨hResolve, hDirectory⟩)]
          exact ⟨rfl, fun _ => rfl, nofun⟩
        · have hBlocked : fs.Blocked run.maySearch parent := .inr ⟨loc, hResolve, hDirectory⟩
          rw [hBlocked.reach]
          exact ⟨rfl, fun _ => rfl, fun _ _ => ⟨loc, hResolve, hDirectory⟩⟩
  case h_2 =>
    obtain ⟨hSame, hLanding⟩ := FileSystem.createDirAll_eq_reach parent
    refine ⟨hSame, hLanding.mpr, fun hOk hNone => ?_⟩
    have hSome := hLanding.mp hOk
    rw [hNone] at hSome
    cases hSome

/-- How a run goes where the path passes the checks and has a parent: it ends
with the parent, or binds the mirror behind it. -/
inductive Prepared (run : MirrorRun) (fs : FileSystem) (socketId : String) (path : List UInt8) (parent : Route) :
    FileSystem × Except SocketMirrorError MirrorSocket → Prop where
  | failed (e : SocketMirrorError) (hRefused : (run.reached fs parent).landing = none ∨ run.mayChmodParent = false) :
      Prepared run fs socketId path parent ((run.reached fs parent).fs, .error e)
  | changed (loc : Location) (hMay : run.mayChmodParent = true)
      (hLoc : (run.reached fs parent).fs.resolve run.maySearch parent = .ok loc)
      (hLanding : (run.reached fs parent).landing = some loc ∨
        (run.reached fs parent).landing = none ∧ ¬ (run.reached fs parent).fs.IsDirectory loc) :
      Prepared run fs socketId path parent
        (run.bindMirror ((run.reached fs parent).fs.setMode loc 0o700) socketId path)

theorem createMirrorSocket_cases {name : Name} (hAbsolute : isAbsolute path = true)
    (hLength : ¬ maxUnixSocketPath < (fromUtf8Lossy path).utf8ByteSize) (hRoute : route path = name :: parent)
    (fs : FileSystem) (socketId : String) :
    run.Prepared fs socketId path parent (run.createMirrorSocket fs socketId path) := by
  have hPassed : fs.Passed run.maySearch run.directoryMode parent (run.reached fs parent) :=
    FileSystem.reach_passed parent
  obtain ⟨hFs, hLanded, hElse⟩ := run.ensureParent_cases fs parent
  unfold createMirrorSocket
  dsimp only
  rw [if_neg (by simp [hAbsolute]), if_neg hLength, hRoute]
  dsimp only
  generalize run.ensureParent fs parent = ensured at hFs hLanded hElse
  obtain ⟨made, result⟩ := ensured
  dsimp only at hFs hLanded hElse
  subst hFs
  cases result with
  | error e =>
      refine .failed _ (.inl ?_)
      cases hLanding : (run.reached fs parent).landing with
      | none => rfl
      | some loc =>
          rw [hLanding] at hLanded
          cases hLanded rfl
  | ok _ =>
      have hResolve : ∃ loc, (run.reached fs parent).fs.resolve run.maySearch parent = .ok loc ∧
          ((run.reached fs parent).landing = some loc ∨
            (run.reached fs parent).landing = none ∧ ¬ (run.reached fs parent).fs.IsDirectory loc) := by
        cases hLanding : (run.reached fs parent).landing with
        | none =>
            obtain ⟨loc, hLoc, hLeaf⟩ := hElse rfl hLanding
            exact ⟨loc, hLoc, .inr ⟨rfl, hLeaf⟩⟩
        | some loc =>
            exact ⟨loc, (FileSystem.directoryAt_eq_some.mp (hPassed.landed loc hLanding)).1, .inl rfl⟩
      obtain ⟨loc, hLoc, hLanding⟩ := hResolve
      dsimp only [FileSystem.chmod]
      rw [hLoc]
      dsimp only
      cases hMay : run.mayChmodParent with
      | false => exact .failed _ (.inr hMay)
      | true => exact .changed loc hMay hLoc hLanding

/-- The directories after a mirror was created, or was not. -/
theorem Prepared.directories {socketId : String} {outcome : FileSystem × Except SocketMirrorError MirrorSocket}
    (h : run.Prepared fs socketId path parent outcome) (loc : Location) (mode : Nat) :
    outcome.1.nodes loc = some (.directory mode) ↔
      if run.mayChmodParent = true ∧ (run.reached fs parent).landing = some loc then mode = 0o700
      else (run.reached fs parent).fs.nodes loc = some (.directory mode) := by
  cases h with
  | failed e hRefused =>
      rw [if_neg]
      rintro ⟨hMay, hLanding⟩
      simp_all
  | changed place hMay hPlace hLanding =>
      rw [(bindMirror_cases _ socketId path).1 loc mode]
      rcases hLanding with hLanding | ⟨hLanding, hLeaf⟩
      · have hPassed : fs.Passed run.maySearch run.directoryMode parent (run.reached fs parent) :=
          FileSystem.reach_passed parent
        obtain ⟨-, hDirectory⟩ := FileSystem.directoryAt_eq_some.mp (hPassed.landed place hLanding)
        obtain ⟨old, hOld⟩ := FileSystem.isDirectory_iff.mp hDirectory
        rw [FileSystem.nodes_setMode]
        by_cases hHere : loc = place
        · subst hHere
          rw [if_pos rfl, if_pos ⟨hMay, hLanding⟩, hOld]
          simp [Node.chmod, eq_comm]
        · rw [if_neg hHere, if_neg]
          rintro ⟨-, hOther⟩
          rw [hLanding] at hOther
          exact hHere (Option.some.inj hOther).symm
      · rw [sameDirectories_setMode 0o700 hLeaf loc mode, if_neg]
        rintro ⟨-, hOther⟩
        rw [hLanding] at hOther
        cases hOther

theorem reached_passed (fs : FileSystem) (parent : Route) :
    fs.Passed run.maySearch run.directoryMode parent (run.reached fs parent) :=
  FileSystem.reach_passed parent

/-- What is a directory on the way was one or is new. -/
theorem new_of_directory (hDirectory : (run.reached fs parent).fs.IsDirectory loc) (hOld : ¬ fs.IsDirectory loc) :
    fs.nodes loc = none := by
  obtain ⟨hNodes, hNew, -⟩ := run.reached_passed fs parent
  by_cases hMade : loc ∈ (run.reached fs parent).made
  · exact hNew loc hMade
  · rw [FileSystem.IsDirectory, hNodes, if_neg hMade] at hDirectory
    exact absurd hDirectory hOld

/-- A run that succeeds leaves a socket at the path, and changes nothing else
but directories. -/
theorem Prepared.mirrored {socketId : String} {outcome : FileSystem × Except SocketMirrorError MirrorSocket}
    {name : Name} (hRoute : route path = name :: parent) (h : run.Prepared fs socketId path parent outcome)
    (hOk : outcome.2.isOk = true) :
    ∃ loc, outcome.1.resolve run.maySearch (route path) = .ok loc ∧ outcome.1.nodes loc = some (.socket 0o600) ∧
      ∀ other, other ≠ loc → ¬ outcome.1.IsDirectory other → outcome.1.nodes other = fs.nodes other := by
  cases h with
  | failed e => cases hOk
  | changed place hMay hPlace hLanding =>
      obtain ⟨hSame, hBound⟩ := run.bindMirror_cases ((run.reached fs parent).fs.setMode place 0o700) socketId path
      obtain ⟨name', up, loc, hRoute', hUp, hParent, hResolve, hSocket, hOther⟩ := hBound hOk
      refine ⟨name' :: loc, hResolve, hSocket, fun other hNe hLeaf => ?_⟩
      obtain ⟨hNodes, -, hLanded⟩ := run.reached_passed fs parent
      have hLeaf' : ¬ ((run.reached fs parent).fs.setMode place 0o700).IsDirectory other :=
        fun h => hLeaf (hSame.isDirectory_iff.mpr h)
      -- the mirror is in the directory whose mode was changed
      obtain ⟨-, rfl⟩ := List.cons.inj (hRoute.symm.trans hRoute')
      have hHere : place = loc := by
        have hAgain := (FileSystem.grows_setMode _ place 0o700).resolve hPlace
        rw [hUp] at hAgain
        exact (Except.ok.inj hAgain).symm
      subst hHere
      have hElsewhere : other ≠ place := by
        rintro rfl
        exact hLeaf' hParent
      rw [FileSystem.isDirectory_setMode] at hLeaf'
      rw [hOther other hNe, FileSystem.nodes_setMode, if_neg hElsewhere, hNodes, if_neg]
      intro hMade
      exact hLeaf' (FileSystem.isDirectory_iff.mpr ⟨run.directoryMode, by rw [hNodes, if_pos hMade]⟩)

theorem Prepared.confined_iff {socketId : String} {outcome : FileSystem × Except SocketMirrorError MirrorSocket}
    {name : Name} (hRoute : route path = name :: parent) (h : run.Prepared fs socketId path parent outcome) :
    run.Confined fs outcome.1 (route path) outcome.2.isOk ↔ run.Spares fs parent := by
  obtain ⟨hNodes, hNew, hLanded⟩ := run.reached_passed fs parent
  have hDirectories := h.directories
  constructor
  · intro hConfined
    refine ⟨fun loc hMade => ?_, fun loc mode hLanding hOld hMay => ?_⟩
    · by_cases hParent : run.mayChmodParent = true ∧ (run.reached fs parent).landing = some loc
      · exact .inr hParent
      · have hThere := hDirectories loc run.directoryMode
        rw [if_neg hParent, hNodes, if_pos hMade] at hThere
        refine .inl (hConfined.made loc _ ?_ (hThere.mpr rfl))
        simp [FileSystem.IsDirectory, hNew loc hMade]
    · have hThere := hDirectories loc mode
      rw [if_pos ⟨hMay, hLanding⟩] at hThere
      exact hThere.mp (hConfined.kept loc mode hOld)
  · rintro ⟨hMade, hKept⟩
    have hStays : ∀ loc mode, fs.nodes loc = some (.directory mode) →
        outcome.1.nodes loc = some (.directory mode) := by
      intro loc mode hOld
      have hSame : (run.reached fs parent).fs.nodes loc = some (.directory mode) := by
        rw [hNodes, if_neg fun hLoc => by simp [hNew loc hLoc] at hOld, hOld]
      rw [hDirectories]
      split
      case isTrue hParent => exact hKept loc mode hParent.2 hOld hParent.1
      case isFalse => exact hSame
    have hFresh : ∀ loc mode, ¬ fs.IsDirectory loc → outcome.1.nodes loc = some (.directory mode) →
        mode = 0o700 ∧ fs.nodes loc = none := by
      intro loc mode hOld hThere
      rw [hDirectories] at hThere
      split at hThere
      case isTrue hParent =>
        have hDirectory := (FileSystem.directoryAt_eq_some.mp (hLanded loc hParent.2)).2
        exact ⟨hThere, new_of_directory hDirectory hOld⟩
      case isFalse hParent =>
        have hNone := new_of_directory (FileSystem.isDirectory_iff.mpr ⟨mode, hThere⟩) hOld
        rw [hNodes] at hThere
        split at hThere
        case isFalse => simp [hNone] at hThere
        case isTrue hLoc =>
          obtain rfl : run.directoryMode = mode := by simpa using hThere
          exact ⟨(hMade loc hLoc).resolve_right hParent, hNone⟩
    refine ⟨hStays, fun loc mode hOld hThere => (hFresh loc mode hOld hThere).1, fun hOk => ?_⟩
    obtain ⟨loc, hResolve, hSocket, hOther⟩ := h.mirrored hRoute hOk
    refine ⟨loc, hResolve, hSocket, fun other hNe => ?_⟩
    by_cases hDirectory : outcome.1.IsDirectory other
    · obtain ⟨mode, hThere⟩ := FileSystem.isDirectory_iff.mp hDirectory
      by_cases hOld : fs.IsDirectory other
      · obtain ⟨old, hOldNode⟩ := FileSystem.isDirectory_iff.mp hOld
        exact .inl (by rw [hStays other old hOldNode, hOldNode])
      · obtain ⟨rfl, hNone⟩ := hFresh other mode hOld hThere
        exact .inr ⟨hNone, hThere⟩
    · exact .inl (hOther other hNe hDirectory)

/-- Creating a mirror touches only what it creates if and only if its path is
refused as too long, or the directories of the path are as they should be. -/
theorem createMirrorSocket_confined_iff (run : MirrorRun) (fs : FileSystem) (socketId : String) (path : List UInt8)
    (hAbsolute : isAbsolute path = true) :
    run.Confined fs (run.createMirrorSocket fs socketId path).1 (route path)
        (run.createMirrorSocket fs socketId path).2.isOk ↔
      maxUnixSocketPath < (fromUtf8Lossy path).utf8ByteSize ∨
        ∀ name parent, route path = name :: parent → run.Spares fs parent := by
  by_cases hLength : maxUnixSocketPath < (fromUtf8Lossy path).utf8ByteSize
  · have hSame : SameDirectories fs fs := fun loc mode => Iff.rfl
    unfold createMirrorSocket
    dsimp only
    rw [if_neg (by simp [hAbsolute]), if_pos hLength]
    exact ⟨fun _ => .inl hLength, fun _ => hSame.confined nofun⟩
  · cases hRoute : route path with
    | nil =>
        -- only the root has no parent, and a listener is never bound there
        obtain ⟨hSame, hBound⟩ := run.bindMirror_cases fs socketId path
        have hNone : ¬ (run.bindMirror fs socketId path).2.isOk = true := by
          intro hOk
          obtain ⟨name, up, -, hCons, -⟩ := hBound hOk
          rw [hRoute] at hCons
          cases hCons
        unfold createMirrorSocket
        dsimp only
        rw [if_neg (by simp [hAbsolute]), if_neg hLength, hRoute]
        exact ⟨fun _ => .inr nofun, fun _ => hSame.confined hNone⟩
    | cons name parent =>
        rw [← hRoute, (createMirrorSocket_cases hAbsolute hLength hRoute fs socketId).confined_iff hRoute, hRoute]
        constructor
        · intro hSpares
          refine .inr fun name' parent' hCons => ?_
          rwa [← (List.cons.inj hCons).2]
        · rintro (hLong | hSpares)
          · exact absurd hLong hLength
          · exact hSpares name parent rfl

/-- Binding a mirror changes nothing but the entry of its path. -/
theorem bindMirror_elsewhere {name : Name} {up : Route} {other : Location} (hRoute : route path = name :: up)
    (hUp : fs.resolve run.maySearch up = .ok loc) (socketId : String) (hNe : other ≠ name :: loc) :
    (run.bindMirror fs socketId path).1.nodes other = fs.nodes other := by
  have hPlace : ∀ {before : FileSystem} {entry : Entry before}, before.entry run.maySearch (route path) = .ok entry →
      fs.resolve run.maySearch up = .ok entry.parent → other ≠ entry.location := by
    rintro before entry hEntry hParent rfl
    obtain ⟨up', hRoute', -, -⟩ := FileSystem.entry_eq_ok hEntry
    apply hNe
    rw [Entry.location, (List.cons.inj (hRoute.symm.trans hRoute')).1, Except.ok.inj (hUp.symm.trans hParent)]
  have hRemoved : (run.removeFile fs path).nodes other = fs.nodes other := by
    rcases run.removeFile_cases fs path with hSame | ⟨stale, hStale, hLeaf, hErase⟩
    · rw [hSame]
    · obtain ⟨up', hRoute', hUp', -⟩ := FileSystem.entry_eq_ok hStale
      obtain ⟨-, rfl⟩ := List.cons.inj (hRoute.symm.trans hRoute')
      rw [hErase]
      exact nodes_erase_leaf hLeaf (hPlace hStale hUp')
  unfold bindMirror
  dsimp only
  split
  case h_1 e hBind => exact hRemoved
  case h_2 bound hBind =>
    obtain ⟨entry, hNew, hEntry, hAdd, hResolve⟩ := FileSystem.resolve_created (bind_eq_ok hBind) rfl
    obtain ⟨up', hRoute', hUp', -⟩ := removeFile_entry rfl hEntry
    obtain ⟨-, rfl⟩ := List.cons.inj (hRoute.symm.trans hRoute')
    have hElsewhere := hPlace hEntry hUp'
    have hBound : bound.nodes other = fs.nodes other := by
      rw [hAdd, FileSystem.nodes_add, if_neg hElsewhere, hRemoved]
    split
    case isFalse => exact hBound
    case isTrue =>
      split
      case h_1 e hChmod => exact hBound
      case h_2 after hChmod =>
        obtain ⟨loc', hLoc, -, rfl⟩ := FileSystem.chmod_eq_ok hChmod
        rw [hResolve] at hLoc
        rw [FileSystem.nodes_setMode, if_neg (Except.ok.inj hLoc ▸ hElsewhere), hBound]

/-- Nothing is bound at the root. -/
theorem bindMirror_root (fs : FileSystem) (socketId : String) (hRoute : route path = []) :
    (run.bindMirror fs socketId path).1 = fs ∧ (run.bindMirror fs socketId path).2.isOk = false := by
  have hEntry : ∀ (before : FileSystem) (entry : Entry before),
      before.entry run.maySearch (route path) ≠ .ok entry := by
    intro before entry h
    obtain ⟨up, hCons, -⟩ := FileSystem.entry_eq_ok h
    rw [hRoute] at hCons
    cases hCons
  have hRemoved : run.removeFile fs path = fs := by
    rcases run.removeFile_cases fs path with hSame | ⟨stale, hStale, -⟩
    · exact hSame
    · exact absurd hStale (hEntry fs stale)
  unfold bindMirror
  rw [hRemoved]
  dsimp only
  split
  case h_1 e hBind => exact ⟨rfl, rfl⟩
  case h_2 bound hBind =>
    obtain ⟨entry, -, hThere, -⟩ := FileSystem.resolve_created (bind_eq_ok hBind) rfl
    exact absurd hThere (hEntry fs entry)

/-- Where the mirrors of a session have their files, there are sockets. -/
def Holds (c : ContainerMirrors) (fs : FileSystem) : Prop :=
  ∀ loc socketId, c.files.lookup loc = some socketId → ∃ mode, fs.nodes loc = some (.socket mode)

/-- The sockets outlast the making of directories and a change of one mode. -/
theorem Holds.prepared {c : ContainerMirrors} (h : Holds c fs) (place : Location) :
    Holds c (run.reached fs parent).fs ∧ Holds c ((run.reached fs parent).fs.setMode place 0o700) := by
  obtain ⟨hNodes, hNew, -⟩ := run.reached_passed fs parent
  have hMade : Holds c (run.reached fs parent).fs := by
    intro loc socketId hFile
    obtain ⟨mode, hSocket⟩ := h loc socketId hFile
    refine ⟨mode, ?_⟩
    rw [hNodes, if_neg fun hLoc => by simp [hNew loc hLoc] at hSocket, hSocket]
  refine ⟨hMade, fun loc socketId hFile => ?_⟩
  obtain ⟨mode, hSocket⟩ := hMade loc socketId hFile
  rw [FileSystem.nodes_setMode, hSocket]
  split
  case isTrue => exact ⟨0o700, rfl⟩
  case isFalse => exact ⟨mode, rfl⟩

/-- Only the file at the place of the path is counted on no longer, or anew. -/
theorem Holds.bound {c : ContainerMirrors} (h : Holds c fs) (socketId : String) {path : String}
    (hAccepts : ContainerMirrors.acceptsPath path = true)
    (hSame : ∀ other, other ≠ c.place path → after.nodes other = fs.nodes other) :
    Holds (c.createMirrorSocket socketId path .unbound) after ∧
      ((∃ mode, after.nodes (c.place path) = some (.socket mode)) →
        Holds (c.createMirrorSocket socketId path .created) after) := by
  have elsewhere : ∀ {loc owner}, loc ≠ c.place path → c.files.lookup loc = some owner →
      ∃ mode, after.nodes loc = some (.socket mode) := by
    intro loc owner hNe hFile
    rw [hSame loc hNe]
    exact h loc owner hFile
  constructor
  · intro loc owner hFile
    rw [ContainerMirrors.createMirrorSocket, if_pos hAccepts, lookup_erase] at hFile
    split_ifs at hFile with hHere
    exact elsewhere hHere hFile
  · intro hSocket loc owner hFile
    rw [ContainerMirrors.createMirrorSocket, if_pos hAccepts, lookup_insert] at hFile
    split_ifs at hFile with hHere
    · exact hHere ▸ hSocket
    · exact elsewhere hHere hFile

/-- The mirrors of a session follow the file system: whatever a creation comes
to, every file that they count on is there, and a mirror is added exactly where
one is created. Directories are taken to lead where the mirrors have them. -/
theorem createMirrorSocket_simulated {c : ContainerMirrors} (h : Holds c fs) (socketId path : String)
    (hLanding : ∀ name parent loc, route (utf8 path) = name :: parent →
      (run.reached fs parent).fs.resolve run.maySearch parent = .ok loc → c.landing parent = loc) :
    ∃ outcome, Holds (c.createMirrorSocket socketId path outcome)
        (run.createMirrorSocket fs socketId (utf8 path)).1 ∧
      ((run.createMirrorSocket fs socketId (utf8 path)).2.isOk = true ↔
        ContainerMirrors.acceptsPath path = true ∧ outcome = .created) := by
  by_cases hAccepts : ContainerMirrors.acceptsPath path = true
  · obtain ⟨hAbsolute, hLength⟩ := acceptsPath_iff.mp hAccepts
    cases hRoute : route (utf8 path) with
    | nil =>
        obtain ⟨hSame, hNone⟩ := run.bindMirror_root fs socketId hRoute
        have hRun : run.createMirrorSocket fs socketId (utf8 path) = run.bindMirror fs socketId (utf8 path) := by
          unfold createMirrorSocket
          dsimp only
          rw [if_neg (by simp [hAbsolute]), if_neg (Nat.not_lt.mpr hLength), hRoute]
        refine ⟨.unbound, ?_, ?_⟩
        · rw [hRun, hSame]
          exact (h.bound socketId hAccepts fun _ _ => rfl).1
        · simp [hRun, hNone]
    | cons name parent =>
        have hRun : run.Prepared fs socketId (utf8 path) parent (run.createMirrorSocket fs socketId (utf8 path)) :=
          createMirrorSocket_cases hAbsolute (Nat.not_lt.mpr hLength) hRoute fs socketId
        generalize run.createMirrorSocket fs socketId (utf8 path) = result at hRun
        cases hRun with
        | failed e hRefused =>
            refine ⟨.unprepared, ?_, by simp [Except.isOk, Except.toBool]⟩
            rw [ContainerMirrors.createMirrorSocket, if_pos hAccepts]
            exact (h.prepared []).1
        | changed loc hMay hLoc =>
            have hPlace : c.place path = name :: loc := by
              rw [ContainerMirrors.place, hRoute, ← hLanding name parent loc hRoute hLoc]
            have hUp := (FileSystem.grows_setMode _ loc 0o700).resolve hLoc
            have hElsewhere : ∀ other, other ≠ c.place path → (run.bindMirror ((run.reached fs parent).fs.setMode
                loc 0o700) socketId (utf8 path)).1.nodes other =
                  ((run.reached fs parent).fs.setMode loc 0o700).nodes other :=
              fun other hOther => bindMirror_elsewhere hRoute hUp socketId (hPlace ▸ hOther)
            obtain ⟨hUnbound, hCreated⟩ := (h.prepared loc).2.bound socketId hAccepts hElsewhere
            cases hOk : (run.bindMirror ((run.reached fs parent).fs.setMode loc 0o700) socketId (utf8 path)).2.isOk with
            | false => exact ⟨.unbound, hUnbound, by simp⟩
            | true =>
                obtain ⟨name', up, loc', hRoute', hUp', -, -, hSocket, -⟩ := (run.bindMirror_cases _ _ _).2 hOk
                obtain ⟨rfl, rfl⟩ := List.cons.inj (hRoute.symm.trans hRoute')
                obtain rfl := Except.ok.inj (hUp.symm.trans hUp')
                exact ⟨.created, hCreated ⟨_, hPlace ▸ hSocket⟩, by simp [hAccepts]⟩
  · have hRefused : (run.createMirrorSocket fs socketId (utf8 path)).1 = fs ∧
        (run.createMirrorSocket fs socketId (utf8 path)).2.isOk = false := by
      unfold createMirrorSocket
      dsimp only
      split_ifs with hAbsolute hLength
      · exact ⟨rfl, rfl⟩
      · exact ⟨rfl, rfl⟩
      · exact absurd (acceptsPath_iff.mpr ⟨by simpa using hAbsolute, Nat.not_lt.mp hLength⟩) hAccepts
    refine ⟨.unprepared, ?_, by simp [hRefused.2, hAccepts]⟩
    rw [ContainerMirrors.createMirrorSocket, if_neg hAccepts, hRefused.1]
    exact h

/-- Everything is allowed. -/
def unhindered : MirrorRun :=
  { umask := 0o022, maySearch := fun _ => true, mayCreateDir := fun _ => true, mayChmodParent := true,
    mayRemove := true, mayBind := true, mayConvert := true, mayChmodSocket := true }

theorem isDirectory_bare : (FileSystem.bare 0o755).IsDirectory [] := FileSystem.isDirectory_root

/-- A root directory with a shared directory in it. -/
def shared : FileSystem :=
  (FileSystem.bare 0o755).add
    { name := utf8 "tmp", parent := [], isEntry := by decide, directory := isDirectory_bare }
    (.directory 0o1777) (by decide)

theorem createMirrorSocket_fresh :
    unhindered.Confined shared (unhindered.createMirrorSocket shared "s1" (utf8 "/tmp/dbr/agent.sock")).1
      (route (utf8 "/tmp/dbr/agent.sock"))
      (unhindered.createMirrorSocket shared "s1" (utf8 "/tmp/dbr/agent.sock")).2.isOk := by
  refine (createMirrorSocket_confined_iff unhindered shared "s1" (utf8 "/tmp/dbr/agent.sock") (by decide)).mpr
    (.inr fun name parent hRoute => ?_)
  obtain rfl : [utf8 "dbr", utf8 "tmp"] = parent := (List.cons.inj ((by decide : route (utf8 "/tmp/dbr/agent.sock") =
    [utf8 "agent.sock", utf8 "dbr", utf8 "tmp"]).symm.trans hRoute)).2
  have hMade : (unhindered.reached shared [utf8 "dbr", utf8 "tmp"]).made = [[utf8 "dbr", utf8 "tmp"]] := by decide
  have hLanding : (unhindered.reached shared [utf8 "dbr", utf8 "tmp"]).landing = some [utf8 "dbr", utf8 "tmp"] := by
    decide
  refine ⟨fun loc hLoc => .inr ⟨rfl, ?_⟩, fun loc mode hLoc hOld => ?_⟩
  · rw [hMade] at hLoc
    rw [List.mem_singleton.mp hLoc, hLanding]
  · rw [hLanding] at hLoc
    rw [← Option.some.inj hLoc, (by decide : shared.nodes [utf8 "dbr", utf8 "tmp"] = none)] at hOld
    cases hOld

/-- A shared directory is closed to all others. -/
theorem createMirrorSocket_shared :
    ¬ unhindered.Confined shared (unhindered.createMirrorSocket shared "s1" (utf8 "/tmp/agent.sock")).1
      (route (utf8 "/tmp/agent.sock"))
      (unhindered.createMirrorSocket shared "s1" (utf8 "/tmp/agent.sock")).2.isOk := by
  intro h
  have hKept := h.kept [utf8 "tmp"] 0o1777 rfl
  exact absurd hKept (by decide)

end MirrorRun
end DevcontainerBridge
