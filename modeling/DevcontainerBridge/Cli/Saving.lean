import DevcontainerBridge.Cli.Quoting
import DevcontainerBridge.Files.Tree
import DevcontainerBridge.Protocol.Message

/-! Pasted images are saved in a fresh directory below the output directory. The
crate that makes this directory is modelled by what it promises: a directory
that is new, and its removal with its tree when it is dropped. Nobody else
writes to the output directory meanwhile. -/
namespace DevcontainerBridge

open Files Stream

/-- An absolute path without parent components. -/
structure OutputDir where
  path : List UInt8
  absolute : isAbsolute path = true
  noParent : above ∉ route path

/-- The current directory is absolute, where the system can tell it. -/
def absoluteOutputDir (currentDir : Option {dir : List UInt8 // isAbsolute dir = true}) (path : List UInt8) :
    Except SaveError OutputDir :=
  let absolute : Option {dir : List UInt8 // isAbsolute dir = true} :=
    if h : isAbsolute path = true then some ⟨path, h⟩
    else currentDir.map fun dir => ⟨join dir.1 path, isAbsolute_join dir.2 path⟩
  match absolute with
  | none => .error .io
  | some ⟨path, absolute⟩ =>
      match quotePath path with
      | .error e => .error e
      | .ok _ =>
          if noParent : above ∉ route path then .ok { path, absolute, noParent }
          else .error (.invalidPath "parent directory components are not supported")

/-- An output directory can be quoted, and an absolute path is taken as it is. -/
theorem absoluteOutputDir_eq_ok {currentDir : Option {dir : List UInt8 // isAbsolute dir = true}} {path : List UInt8}
    {dir : OutputDir} (h : absoluteOutputDir currentDir path = .ok dir) :
    (∃ quoted, quotePath dir.path = .ok quoted) ∧ (isAbsolute path = true → dir.path = path) := by
  unfold absoluteOutputDir at h
  dsimp only at h
  split at h
  case h_1 => cases h
  case h_2 chosen absolute hChosen =>
    split at h
    case h_1 => cases h
    case h_2 quoted hQuoted =>
      split at h
      case isFalse => cases h
      case isTrue =>
        cases h
        refine ⟨⟨quoted, hQuoted⟩, fun hPath => ?_⟩
        rw [dif_pos hPath] at hChosen
        cases hChosen
        rfl

/-- The calls that the system may let fail, each by the component, the attempt
or the image that it is made for. -/
inductive SaveCall where
  | symlinkMetadata (component : Nat)
  | createDir (component : Nat)
  | tempdir (attempt : Nat)
  | openFile (image : Nat)
  | writeAll (image : Nat)
  | syncAll (image : Nat)
  deriving DecidableEq, Repr

/-- The random end of a temporary name. -/
structure TempSuffix where
  bytes : List UInt8
  alphanumeric : ∀ b ∈ bytes, (Char.ofNat b.toNat).isAlphanum = true

/-- What the system decides while images are saved. -/
structure SaveRun where
  umask : Nat
  fails : SaveCall → Bool
  /-- how much of an image is in its file when writing fails -/
  written : Nat → Nat
  /-- the temporary names that are tried in turn -/
  suffixes : List TempSuffix

structure SavedImages where
  directory : List UInt8
  paths : List (List UInt8)
  deriving DecidableEq, Repr

/-- Missing rights are failures of the calls. -/
abbrev anywhere : Location → Bool := fun _ => true

namespace SaveRun

variable (run : SaveRun)

def directory : Node := .directory (masked run.umask 0o700)

def file (bytes : List UInt8) : Node := .file (masked run.umask 0o600) bytes

/-- Check a component of the output directory, or create it. -/
def visit (fs : FileSystem) (current : Route) : FileSystem × Except SaveError Unit :=
  if run.fails (.symlinkMetadata current.length) then (fs, .error .io)
  else
    match fs.lstat anywhere current with
    | .ok node =>
        if node.isSymlink || !node.isDirectory then
          (fs, .error (.invalidPath "output directory contains a symlink or non-directory"))
        else (fs, .ok ())
    | .error .noEntry =>
        if run.fails (.createDir current.length) then (fs, .error .io)
        else
          match fs.create anywhere anywhere run.directory current with
          | .ok fs => (fs, .ok ())
          | .error _ => (fs, .error .io)
    | .error _ => (fs, .error .io)

/-- The loop over the components, from `current` on. -/
def visitAll (fs : FileSystem) (current : Route) : List Name → FileSystem × Except SaveError Unit
  | [] => run.visit fs current
  | component :: components =>
      match run.visit fs current with
      | (fs, .error e) => (fs, .error e)
      | (fs, .ok _) => visitAll fs (component :: current) components

/-- `tempdir_in` of the crate `tempfile`: another name is tried where one is taken. -/
def tempdirIn (fs : FileSystem) (dir : List UInt8) :
    Nat → List TempSuffix → Except SaveError (FileSystem × List UInt8)
  | _, [] => .error .io
  | attempt, suffix :: suffixes =>
      let path := join dir (utf8 "image-" ++ suffix.bytes)
      if run.fails (.tempdir attempt) then .error .io
      else
        match fs.create anywhere anywhere run.directory (route path) with
        | .ok fs => .ok (fs, path)
        | .error .alreadyExists => tempdirIn fs dir (attempt + 1) suffixes
        | .error _ => .error .io

def extension : ClipboardFormat → Except SaveError String
  | .png => .ok "png"
  | .jpeg => .ok "jpg"
  | .auto => .error (.invalidResponse "unspecified image format")

def filename (count index : Nat) (extension : String) : Name :=
  if count = 1 then utf8 "clipboard." ++ utf8 extension
  else utf8 "clipboard-" ++ utf8 (toString (index + 1)) ++ utf8 "." ++ utf8 extension

/-- Write one image into a file of its own. Every part of its path is a
directory by now, so that the path is the location. -/
def saveImage (fs : FileSystem) (transferDir : List UInt8) (count index : Nat)
    (image : ClipboardFormat × List UInt8) : FileSystem × Except SaveError (List UInt8) :=
  match extension image.1 with
  | .error e => (fs, .error e)
  | .ok ext =>
      let path := join transferDir (filename count index ext)
      if run.fails (.openFile index) then (fs, .error .io)
      else
        match fs.create anywhere anywhere (run.file []) (route path) with
        | .error _ => (fs, .error .io)
        | .ok fs =>
            if run.fails (.writeAll index) then
              (fs.setContents (route path) (image.2.take (run.written index)), .error .io)
            else
              let fs := fs.setContents (route path) image.2
              if run.fails (.syncAll index) then (fs, .error .io) else (fs, .ok path)

/-- The loop over the images, from `index` on. -/
def saveAll (transferDir : List UInt8) (count : Nat) :
    FileSystem → Nat → List (ClipboardFormat × List UInt8) → FileSystem × Except SaveError (List (List UInt8))
  | fs, _, [] => (fs, .ok [])
  | fs, index, image :: images =>
      match run.saveImage fs transferDir count index image with
      | (fs, .error e) => (fs, .error e)
      | (fs, .ok path) =>
          match saveAll transferDir count fs (index + 1) images with
          | (fs, .error e) => (fs, .error e)
          | (fs, .ok paths) => (fs, .ok (path :: paths))

/-- Dropping a `TempDir` of that crate removes its tree. -/
def removeTree (fs : FileSystem) (path : List UInt8) : FileSystem :=
  match fs.entry anywhere (route path) with
  | .ok entry => fs.erase entry
  | .error _ => fs

def saveImages (fs : FileSystem) (dir : OutputDir) (images : List (ClipboardFormat × List UInt8)) :
    FileSystem × Except SaveError SavedImages :=
  match run.visitAll fs [] (route dir.path).reverse with
  | (fs, .error e) => (fs, .error e)
  | (fs, .ok _) =>
      match run.tempdirIn fs dir.path 0 run.suffixes with
      | .error e => (fs, .error e)
      | .ok (fs, transferDir) =>
          match run.saveAll transferDir images.length fs 0 images with
          | (fs, .error e) => (removeTree fs transferDir, .error e)
          | (fs, .ok paths) => (fs, .ok { directory := transferDir, paths })

variable {run : SaveRun} {fs after : FileSystem} {current up : Route} {loc : Location} {name : Name} {node : Node}
  {e : SaveError}

/-- Below real directories, a path ends in the entry that it names. -/
theorem entry_below (hParent : fs.IsDirectory loc) (hName : IsEntry name) :
    fs.entry anywhere (name :: loc) = .ok { name, parent := loc, isEntry := hName, directory := hParent } :=
  FileSystem.entry_of_resolve (FileSystem.resolve_self (fun _ => rfl) hParent) hParent rfl hName

/-- What is there is what `symlink_metadata` tells of. -/
theorem lstat_below (hNode : fs.nodes loc = some node) : fs.lstat anywhere loc = .ok node := by
  have hSome : fs.nodes loc ≠ none := by simp [hNode]
  cases loc with
  | nil =>
      have hRoot : fs.resolve anywhere [] = .ok [] := FileSystem.resolve_self (fun _ => rfl) fs.isDirectory_root
      simp [FileSystem.lstat, FileSystem.stat, hRoot, hNode]
  | cons name loc =>
      obtain ⟨hName, hParent⟩ := fs.closed name loc hSome
      rw [FileSystem.lstat, if_neg hName.2.2.1, entry_below hParent hName]
      simp [Entry.location, hNode]

/-- Below real directories, a path ends in the entry that it names. -/
theorem entry_location {path : Route} {entry : Entry fs} (hParent : ∀ name up, path = name :: up → fs.IsDirectory up)
    (h : fs.entry anywhere path = .ok entry) : entry.location = path := by
  obtain ⟨up, rfl, hUp, -⟩ := FileSystem.entry_eq_ok h
  have hSame : fs.resolve anywhere up = .ok up := FileSystem.resolve_self (fun _ => rfl) (hParent _ _ rfl)
  obtain rfl : up = entry.parent := by simpa [hSame] using hUp
  rfl

theorem lstat_eq_ok (hParent : ∀ name up, current = name :: up → fs.IsDirectory up) (hAbove : above ∉ current)
    (h : fs.lstat anywhere current = .ok node) : fs.nodes current = some node := by
  cases current with
  | nil =>
      have hRoot : fs.resolve anywhere [] = .ok [] := FileSystem.resolve_self (fun _ => rfl) fs.isDirectory_root
      cases hNode : fs.nodes [] <;> simp_all [FileSystem.lstat, FileSystem.stat]
  | cons name up =>
      rw [FileSystem.lstat, if_neg (by rintro rfl; simp at hAbove)] at h
      cases hEntry : fs.entry anywhere (name :: up) with
      | error e => simp [hEntry] at h
      | ok entry =>
          rw [← entry_location hParent hEntry]
          cases hNode : fs.nodes entry.location <;> simp_all

/-- What a call makes below real directories is new, and nothing else changes. -/
theorem create_below {path : Route} (hParent : ∀ name up, path = name :: up → fs.IsDirectory up)
    (h : fs.create anywhere anywhere node path = .ok after) :
    fs.nodes path = none ∧ ∀ loc, after.nodes loc = if loc = path then some node else fs.nodes loc := by
  obtain ⟨entry, hNew, hEntry, -, rfl⟩ := FileSystem.create_eq_ok h
  rw [← entry_location hParent hEntry]
  exact ⟨hNew, FileSystem.nodes_add hNew⟩

/-- What the loop does at a component: it is refused and nothing changes, or it
is a directory already, or it is made one. -/
inductive Visited (run : SaveRun) (fs : FileSystem) (current : Route) :
    FileSystem × Except SaveError Unit → Prop where
  | refused (e : SaveError) : Visited run fs current (fs, .error e)
  | passed (hDirectory : fs.IsDirectory current) : Visited run fs current (fs, .ok ())
  | created {after : FileSystem} (hNew : fs.nodes current = none)
      (hNodes : ∀ loc, after.nodes loc = if loc = current then some run.directory else fs.nodes loc) :
      Visited run fs current (after, .ok ())

theorem visit_cases (hParent : ∀ name up, current = name :: up → fs.IsDirectory up) (hAbove : above ∉ current) :
    run.Visited fs current (run.visit fs current) := by
  unfold visit
  split
  case isTrue => exact .refused _
  case isFalse =>
    split
    case h_1 node hNode =>
      split
      case isTrue => exact .refused _
      case isFalse hKind =>
        have hDirectory : node.isDirectory = true := by simp_all
        exact .passed (by simpa [FileSystem.IsDirectory, lstat_eq_ok hParent hAbove hNode] using hDirectory)
    case h_2 =>
      split
      case isTrue => exact .refused _
      case isFalse =>
        split
        case h_1 after hAfter =>
          obtain ⟨hNew, hNodes⟩ := create_below hParent hAfter
          exact .created hNew hNodes
        case h_2 => exact .refused _
    case h_3 => exact .refused _

/-- An existing component that is no directory is refused, unless it cannot be looked at. -/
theorem visit_blocked (hNode : fs.nodes current = some node) (hKind : node.isDirectory = false) :
    run.visit fs current = (fs, .error (if run.fails (.symlinkMetadata current.length) then .io
      else .invalidPath "output directory contains a symlink or non-directory")) := by
  unfold visit
  rw [lstat_below hNode]
  split <;> simp [hKind]

/-- An existing directory is passed, unless it cannot be looked at. -/
theorem visit_directory (h : fs.IsDirectory current) :
    run.visit fs current = (fs, if run.fails (.symlinkMetadata current.length) then .error .io else .ok ()) := by
  obtain ⟨mode, hNode⟩ := FileSystem.isDirectory_iff.mp h
  unfold visit
  rw [lstat_below hNode]
  split <;> rfl

/-- What a run of the loop may have changed: nothing but components that were missing. -/
def OnlyComponents (run : SaveRun) (before after : FileSystem) (dir : Route) : Prop :=
  ∀ loc, after.nodes loc = before.nodes loc ∨
    before.nodes loc = none ∧ loc <:+ dir ∧ after.nodes loc = some run.directory

theorem onlyComponents_self (fs : FileSystem) (dir : Route) : run.OnlyComponents fs fs dir :=
  fun _ => .inl rfl

theorem onlyComponents_created {dir : Route} (hNew : fs.nodes current = none) (hDir : current <:+ dir)
    (hNodes : ∀ loc, after.nodes loc = if loc = current then some run.directory else fs.nodes loc) :
    run.OnlyComponents fs after dir := by
  intro loc
  rw [hNodes]
  split
  case isTrue hLoc =>
    subst hLoc
    exact .inr ⟨hNew, hDir, rfl⟩
  case isFalse => exact .inl rfl

theorem OnlyComponents.trans {before middle after : FileSystem} {dir : Route}
    (hFirst : run.OnlyComponents before middle dir) (hSecond : run.OnlyComponents middle after dir) :
    run.OnlyComponents before after dir := by
  intro loc
  rcases hSecond loc with hSame | ⟨hNew, hDir, hMade⟩
  · rw [hSame]
    exact hFirst loc
  · rcases hFirst loc with hSame | ⟨-, -, hMade'⟩
    · exact .inr ⟨hSame ▸ hNew, hDir, hMade⟩
    · simp [hNew] at hMade'

theorem visitAll_onlyComponents {components : List Name} {current : Route}
    (hParent : ∀ name up, current = name :: up → fs.IsDirectory up)
    (hAbove : above ∉ components.reverse ++ current) :
    run.OnlyComponents fs (run.visitAll fs current components).1 (components.reverse ++ current) ∧
      ((run.visitAll fs current components).2 = .ok () →
        (run.visitAll fs current components).1.IsDirectory (components.reverse ++ current)) := by
  induction components generalizing fs current with
  | nil =>
      have hVisit := run.visit_cases hParent hAbove
      show run.OnlyComponents fs (run.visit fs current).1 current ∧ _
      unfold visitAll
      generalize run.visit fs current = outcome at hVisit
      cases hVisit with
      | refused e => exact ⟨onlyComponents_self fs current, fun h => by cases h⟩
      | passed hDirectory => exact ⟨onlyComponents_self fs current, fun _ => hDirectory⟩
      | created hNew hNodes =>
          refine ⟨onlyComponents_created hNew List.suffix_rfl hNodes, fun _ => ?_⟩
          simp [FileSystem.IsDirectory, hNodes, directory, Node.isDirectory]
  | cons component components ih =>
      have hHere : above ∉ current := fun h => hAbove (by simp [h])
      have hRest : above ∉ components.reverse ++ (component :: current) := by simpa using hAbove
      have hVisit := run.visit_cases hParent hHere
      unfold visitAll
      rw [List.reverse_cons, List.append_assoc, List.singleton_append]
      generalize run.visit fs current = outcome at hVisit
      cases hVisit with
      | refused e => exact ⟨onlyComponents_self fs _, fun h => by cases h⟩
      | passed hDirectory => exact ih (fun name up h => (List.cons.inj h).2 ▸ hDirectory) hRest
      | @created after hNew hNodes =>
          have hDirectory : after.IsDirectory current := by
            simp [FileSystem.IsDirectory, hNodes, directory, Node.isDirectory]
          have hSuffix : current <:+ components.reverse ++ (component :: current) :=
            (List.suffix_cons component current).trans (List.suffix_append _ _)
          have hNext : ∀ name up, component :: current = name :: up → after.IsDirectory up :=
            fun name up h => (List.cons.inj h).2 ▸ hDirectory
          obtain ⟨hOnly, hOk⟩ := ih hNext hRest
          exact ⟨(onlyComponents_created hNew hSuffix hNodes).trans hOnly, hOk⟩

/-- How a component that is no directory ends the loop: with a refusal, unless
one of the components up to it cannot be looked at. -/
inductive Refusal (run : SaveRun) (first last : Nat) : SaveError → Prop where
  | invalidPath (hAsked : ∀ component, first ≤ component → component ≤ last →
        run.fails (.symlinkMetadata component) = false) :
      Refusal run first last (.invalidPath "output directory contains a symlink or non-directory")
  | io (component : Nat) (hFirst : first ≤ component) (hLast : component ≤ last)
      (hFails : run.fails (.symlinkMetadata component) = true) : Refusal run first last .io

theorem visit_refusal (hNode : fs.nodes current = some node) (hKind : node.isDirectory = false) :
    ∃ e, run.visit fs current = (fs, .error e) ∧ run.Refusal current.length current.length e := by
  refine ⟨_, visit_blocked hNode hKind, ?_⟩
  split
  case isTrue hFails => exact .io current.length le_rfl le_rfl hFails
  case isFalse hAsked =>
    refine .invalidPath fun component hFirst hLast => ?_
    obtain rfl : component = current.length := le_antisymm hLast hFirst
    simpa using hAsked

/-- The loop passes the directories above such a component and creates nothing. -/
theorem visitAll_blocked {components : List Name} {current place : Route} (hNode : fs.nodes place = some node)
    (hKind : node.isDirectory = false) (hCurrent : current <:+ place)
    (hPlace : place <:+ components.reverse ++ current) :
    ∃ e, run.visitAll fs current components = (fs, .error e) ∧ run.Refusal current.length place.length e := by
  induction components generalizing current with
  | nil =>
      obtain rfl : current = place := hCurrent.eq_of_length_le hPlace.length_le
      exact visit_refusal hNode hKind
  | cons component components ih =>
      unfold visitAll
      by_cases hHere : current = place
      · subst hHere
        obtain ⟨e, hVisit, hRefusal⟩ := run.visit_refusal hNode hKind
        rw [hVisit]
        exact ⟨e, rfl, hRefusal⟩
      · have hSome : fs.nodes place ≠ none := by simp [hNode]
        have hDirectory := FileSystem.isDirectory_above hCurrent hHere hSome
        rw [visit_directory hDirectory]
        by_cases hFails : run.fails (.symlinkMetadata current.length) = true
        · rw [if_pos hFails]
          exact ⟨.io, rfl, .io current.length le_rfl hCurrent.length_le hFails⟩
        · rw [if_neg hFails]
          have hLonger : current.length < place.length :=
            lt_of_le_of_ne hCurrent.length_le fun h => hHere (hCurrent.eq_of_length h)
          have hWhole : place <:+ components.reverse ++ (component :: current) := by simpa using hPlace
          have hNext : component :: current <:+ place :=
            List.suffix_of_suffix_length_le (List.suffix_append _ _) hWhole hLonger
          obtain ⟨e, hRest, hRefusal⟩ := ih hNext hWhole
          refine ⟨e, hRest, ?_⟩
          cases hRefusal with
          | io count hFirst hLast hCount => exact .io count (by simp at hFirst; omega) hLast hCount
          | invalidPath hAsked =>
              refine .invalidPath fun count hFirst hLast => ?_
              rcases Nat.eq_or_lt_of_le hFirst with rfl | hLater
              · simpa using hFails
              · exact hAsked count hLater hLast

theorem isEntry_tempName (suffix : TempSuffix) : IsEntry (utf8 "image-" ++ suffix.bytes) := by
  refine IsEntry.append (by decide) (fun h => ?_) (fun h => ?_)
  · exact absurd (suffix.alphanumeric slash h) (by decide)
  · exact absurd (suffix.alphanumeric 0 h) (by decide)

theorem isEntry_filename {format : ClipboardFormat} {ext : String} (h : extension format = .ok ext)
    (count index : Nat) : IsEntry (filename count index ext) := by
  have hExt : slash ∉ utf8 ext ∧ 0 ∉ utf8 ext := by
    cases format <;> cases h <;> decide
  have hDigits : ∀ b : UInt8, b < 128 → (Char.ofNat b.toNat).isDigit = false → b ∉ utf8 (toString (index + 1)) := by
    intro b hAscii hDigit hMem
    have hChar := (mem_utf8_iff hAscii).mp hMem
    rw [Nat.toString_eq_ofList_toDigits, String.toList_ofList] at hChar
    simp [Nat.isDigit_of_mem_toDigits (by decide) (by decide) hChar] at hDigit
  unfold filename
  split
  · exact IsEntry.append (by decide) hExt.1 hExt.2
  · refine IsEntry.append (IsEntry.append (IsEntry.append (by decide) ?_ ?_) (by decide) (by decide)) hExt.1 hExt.2
    · exact hDigits slash (by decide) (by decide)
    · exact hDigits 0 (by decide) (by decide)

/-- A transfer directory is new and directly below the output directory. -/
theorem tempdirIn_eq_ok {dir path : List UInt8} {attempt : Nat} {suffixes : List TempSuffix}
    (hDir : fs.IsDirectory (route dir)) (h : run.tempdirIn fs dir attempt suffixes = .ok (after, path)) :
    ∃ name, IsEntry name ∧ route path = name :: route dir ∧ fs.nodes (name :: route dir) = none ∧
      ∀ loc, after.nodes loc = if loc = name :: route dir then some run.directory else fs.nodes loc := by
  induction suffixes generalizing attempt with
  | nil => cases h
  | cons suffix suffixes ih =>
      have hName := isEntry_tempName suffix
      have hRoute := route_join dir hName
      unfold tempdirIn at h
      dsimp only at h
      split at h
      case isTrue => cases h
      case isFalse =>
        split at h
        case h_1 made hMade =>
          cases h
          rw [hRoute] at hMade
          obtain ⟨hNew, hNodes⟩ := create_below (fun name up h => (List.cons.inj h).2 ▸ hDir) hMade
          exact ⟨_, hName, hRoute, hNew, hNodes⟩
        case h_2 => exact ih h
        case h_3 => cases h

/-- What saving one image does: it fails and at most its file is touched, or
the file is new and holds the image. -/
inductive Saved (run : SaveRun) (fs : FileSystem) (dir : Route) (bytes : List UInt8) :
    FileSystem × Except SaveError (List UInt8) → Prop where
  | failed {after : FileSystem} (e : SaveError) (hNodes : ∀ loc, (∀ name, loc ≠ name :: dir) →
        after.nodes loc = fs.nodes loc) : Saved run fs dir bytes (after, .error e)
  | saved {after : FileSystem} {path : List UInt8} (name : Name) (hRoute : route path = name :: dir)
      (hNew : fs.nodes (route path) = none)
      (hNodes : ∀ loc, after.nodes loc = if loc = route path then some (run.file bytes) else fs.nodes loc) :
      Saved run fs dir bytes (after, .ok path)

theorem saveImage_cases {transferDir : List UInt8} (hDir : fs.IsDirectory (route transferDir)) (count index : Nat)
    (image : ClipboardFormat × List UInt8) :
    run.Saved fs (route transferDir) image.2 (run.saveImage fs transferDir count index image) := by
  unfold saveImage
  split
  case h_1 e hExt => exact .failed e fun loc hLoc => rfl
  case h_2 ext hExt =>
    have hRoute := route_join transferDir (isEntry_filename hExt count index)
    dsimp only
    generalize join transferDir (filename count index ext) = path at hRoute
    split
    case isTrue => exact .failed _ fun loc hLoc => rfl
    case isFalse =>
      split
      case h_1 => exact .failed _ fun loc hLoc => rfl
      case h_2 made hMade =>
        obtain ⟨hNew, hNodes⟩ := create_below (fun name up h => (List.cons.inj (hRoute.symm.trans h)).2 ▸ hDir) hMade
        have hWritten : ∀ bytes loc, (made.setContents (route path) bytes).nodes loc =
            if loc = route path then some (run.file bytes) else fs.nodes loc := by
          intro bytes loc
          rw [FileSystem.nodes_setContents, hNodes]
          split <;> rfl
        have hElsewhere : ∀ bytes loc, (∀ name, loc ≠ name :: route transferDir) →
            (made.setContents (route path) bytes).nodes loc = fs.nodes loc := by
          intro bytes loc hLoc
          rw [hWritten, if_neg fun h => hLoc _ (h.trans hRoute)]
        split
        case isTrue => exact .failed _ (hElsewhere _)
        case isFalse =>
          split
          case isTrue => exact .failed _ (hElsewhere _)
          case isFalse => exact .saved _ hRoute hNew (hWritten image.2)

/-- The files that the loop over the images leaves: new ones, one for each
image in order, and nothing else in the directory. -/
structure Stored (run : SaveRun) (before after : FileSystem) (dir : Route)
    (images : List (ClipboardFormat × List UInt8)) (paths : List (List UInt8)) : Prop where
  contents : List.Forall₂ (fun path image => after.nodes (route path) = some (run.file image.2)) paths images
  distinct : (paths.map route).Nodup
  fresh : ∀ path ∈ paths, before.nodes (route path) = none ∧ ∃ name, route path = name :: dir
  others : ∀ loc, after.nodes loc = before.nodes loc ∨ ∃ path ∈ paths, loc = route path

theorem Stored.cons {made after : FileSystem} {dir : Route} {image : ClipboardFormat × List UInt8}
    {images : List (ClipboardFormat × List UInt8)} {path : List UInt8} {paths : List (List UInt8)}
    (hRoute : route path = name :: dir) (hNew : fs.nodes (route path) = none)
    (hNodes : ∀ loc, made.nodes loc = if loc = route path then some (run.file image.2) else fs.nodes loc)
    (h : run.Stored made after dir images paths) : run.Stored fs after dir (image :: images) (path :: paths) := by
  have hThere : made.nodes (route path) = some (run.file image.2) := by rw [hNodes, if_pos rfl]
  have hOther : ∀ other ∈ paths, route other ≠ route path := by
    intro other hMem hSame
    have hFresh := (h.fresh other hMem).1
    rw [hSame, hThere] at hFresh
    cases hFresh
  refine ⟨.cons ?_ h.contents, ?_, ?_, fun loc => ?_⟩
  · rcases h.others (route path) with hSame | ⟨other, hMem, hSame⟩
    · rw [hSame, hThere]
    · exact absurd hSame.symm (hOther other hMem)
  · rw [List.map_cons, List.nodup_cons]
    refine ⟨fun hMem => ?_, h.distinct⟩
    obtain ⟨other, hOtherMem, hSame⟩ := List.mem_map.mp hMem
    exact hOther other hOtherMem hSame
  · intro other hMem
    rcases List.mem_cons.mp hMem with rfl | hMem
    · exact ⟨hNew, name, hRoute⟩
    · have hFresh := h.fresh other hMem
      rw [hNodes, if_neg (hOther other hMem)] at hFresh
      exact hFresh
  · rcases h.others loc with hSame | ⟨other, hMem, rfl⟩
    · rw [hNodes] at hSame
      by_cases hLoc : loc = route path
      · exact .inr ⟨path, List.mem_cons_self, hLoc⟩
      · rw [if_neg hLoc] at hSame
        exact .inl hSame
    · exact .inr ⟨other, List.mem_cons_of_mem path hMem, rfl⟩

theorem saveAll_spec {transferDir : List UInt8} (hDir : fs.IsDirectory (route transferDir)) (count index : Nat)
    (images : List (ClipboardFormat × List UInt8)) :
    (∀ loc, (∀ name, loc ≠ name :: route transferDir) →
        (run.saveAll transferDir count fs index images).1.nodes loc = fs.nodes loc) ∧
      ∀ paths, (run.saveAll transferDir count fs index images).2 = .ok paths →
        run.Stored fs (run.saveAll transferDir count fs index images).1 (route transferDir) images paths := by
  induction images generalizing fs index with
  | nil =>
      refine ⟨fun loc hLoc => rfl, fun paths hPaths => ?_⟩
      obtain rfl : [] = paths := by simpa [saveAll] using hPaths
      exact ⟨.nil, List.nodup_nil, by simp, fun loc => .inl rfl⟩
  | cons image images ih =>
      have hSaved := run.saveImage_cases hDir count index image
      unfold saveAll
      generalize run.saveImage fs transferDir count index image = outcome at hSaved
      cases hSaved with
      | failed e hNodes => exact ⟨hNodes, fun _ h => by cases h⟩
      | @saved made path name hRoute hNew hNodes =>
          have hDir' : made.IsDirectory (route transferDir) := by
            have hNe : route transferDir ≠ route path := by simp [hRoute]
            simpa [FileSystem.IsDirectory, hNodes, hNe] using hDir
          obtain ⟨hElsewhere, hRest⟩ := ih hDir' (index + 1)
          have hFrame : ∀ loc, (∀ name, loc ≠ name :: route transferDir) →
              (run.saveAll transferDir count made (index + 1) images).1.nodes loc = fs.nodes loc := by
            intro loc hLoc
            rw [hElsewhere loc hLoc, hNodes, if_neg fun h => hLoc name (h.trans hRoute)]
          dsimp only
          generalize run.saveAll transferDir count made (index + 1) images = outcome at hFrame hRest
          obtain ⟨after, result⟩ := outcome
          cases result with
          | error e => exact ⟨hFrame, fun _ h => by cases h⟩
          | ok rest =>
              refine ⟨hFrame, fun paths hPaths => ?_⟩
              obtain rfl : path :: rest = paths := by simpa using hPaths
              exact Stored.cons hRoute hNew hNodes (hRest rest rfl)

/-- Removing a new directory with its tree undoes all that was done in it. -/
theorem nodes_removeTree {before made : FileSystem} {transferDir : List UInt8} {dir : Route} (hName : IsEntry name)
    (hRoute : route transferDir = name :: dir) (hNew : before.nodes (name :: dir) = none)
    (hMade : ∀ loc, made.nodes loc = if loc = name :: dir then some run.directory else before.nodes loc)
    (hFrame : ∀ loc, (∀ name, loc ≠ name :: route transferDir) → after.nodes loc = made.nodes loc)
    (loc : Location) : (removeTree after transferDir).nodes loc = before.nodes loc := by
  have hThere : after.nodes (name :: dir) ≠ none := by
    rw [hFrame _ (fun other h => ?_), hMade, if_pos rfl]
    · nofun
    · rw [hRoute] at h
      exact absurd (congrArg List.length h) (by simp)
  have hEntry := entry_below (FileSystem.isDirectory_parent hThere) hName
  unfold removeTree
  rw [hRoute, hEntry]
  rw [FileSystem.nodes_erase]
  split
  case isTrue hBelow => exact (FileSystem.nodes_below_none hNew hBelow).symm
  case isFalse hElsewhere =>
    rw [hFrame, hMade, if_neg]
    · rintro rfl
      exact hElsewhere List.suffix_rfl
    · rintro other rfl
      rw [hRoute] at hElsewhere
      exact hElsewhere (List.suffix_cons other _)

/-- A fresh directory below the output directory holds the images, each in a
file of its own, and nothing else. -/
structure Transferred (run : SaveRun) (before after : FileSystem) (dir : Route)
    (images : List (ClipboardFormat × List UInt8)) (saved : SavedImages) : Prop where
  below : ∃ name, route saved.directory = name :: dir
  fresh : before.nodes (route saved.directory) = none
  made : after.nodes (route saved.directory) = some run.directory
  inside : ∀ path ∈ saved.paths, ∃ name, route path = name :: route saved.directory
  distinct : (saved.paths.map route).Nodup
  contents : List.Forall₂ (fun path image => after.nodes (route path) = some (run.file image.2)) saved.paths images
  nothingElse : ∀ loc, route saved.directory <:+ loc → route saved.directory ≠ loc → after.nodes loc ≠ none →
    ∃ path ∈ saved.paths, loc = route path
  elsewhere : ∀ loc, ¬ route saved.directory <:+ loc →
    after.nodes loc = before.nodes loc ∨ before.nodes loc = none ∧ loc <:+ dir ∧ after.nodes loc = some run.directory

theorem Stored.transferred {before middle made : FileSystem} {dir : Route}
    {images : List (ClipboardFormat × List UInt8)} {transferDir : List UInt8} {paths : List (List UInt8)}
    (hOnly : run.OnlyComponents before middle dir) (hRoute : route transferDir = name :: dir)
    (hNew : middle.nodes (name :: dir) = none)
    (hMade : ∀ loc, made.nodes loc = if loc = name :: dir then some run.directory else middle.nodes loc)
    (hFrame : ∀ loc, (∀ name, loc ≠ name :: route transferDir) → after.nodes loc = made.nodes loc)
    (h : run.Stored made after (route transferDir) images paths) :
    run.Transferred before after dir images { directory := transferDir, paths } := by
  refine ⟨⟨name, hRoute⟩, ?_, ?_, fun path hPath => (h.fresh path hPath).2, h.distinct, h.contents,
    fun loc hBelow hNe hLoc => ?_, fun loc hLoc => ?_⟩
  · show before.nodes (route transferDir) = none
    rw [hRoute]
    rcases hOnly (name :: dir) with hSame | ⟨hNone, -⟩
    · rw [← hSame, hNew]
    · exact hNone
  · show after.nodes (route transferDir) = _
    rw [hFrame _ (fun other hOther => absurd (congrArg List.length hOther) (by simp)), hRoute, hMade, if_pos rfl]
  · rcases h.others loc with hSame | hPath
    · have hElsewhere : loc ≠ name :: dir := fun hOther => hNe (hRoute.trans hOther.symm)
      rw [hSame, hMade, if_neg hElsewhere, FileSystem.nodes_below_none hNew (hRoute ▸ hBelow)] at hLoc
      exact absurd rfl hLoc
    · exact hPath
  · have hSame : after.nodes loc = middle.nodes loc := by
      rw [hFrame, hMade, if_neg]
      · rintro rfl
        exact hLoc (hRoute ▸ List.suffix_rfl)
      · rintro other rfl
        exact hLoc (List.suffix_cons other _)
    rw [hSame]
    exact hOnly loc

/-- How saving images ends. -/
theorem saveImages_cases (run : SaveRun) (before : FileSystem) (dir : OutputDir)
    (images : List (ClipboardFormat × List UInt8)) :
    (∃ after e, run.saveImages before dir images = (after, .error e) ∧
        run.OnlyComponents before after (route dir.path)) ∨
      ∃ after saved, run.saveImages before dir images = (after, .ok saved) ∧
        run.Transferred before after (route dir.path) images saved := by
  have hParts : (route dir.path).reverse.reverse ++ [] = route dir.path := by simp
  have hParent : ∀ name up, ([] : Route) = name :: up → before.IsDirectory up := nofun
  have hVisited := run.visitAll_onlyComponents hParent (hParts.symm ▸ dir.noParent)
  rw [hParts] at hVisited
  unfold saveImages
  generalize run.visitAll before [] (route dir.path).reverse = visited at hVisited
  obtain ⟨middle, result⟩ := visited
  obtain ⟨hOnly, hDirectory⟩ := hVisited
  cases result with
  | error e => exact .inl ⟨middle, e, rfl, hOnly⟩
  | ok _ =>
      dsimp only
      split
      case h_1 e hTemp => exact .inl ⟨middle, e, rfl, hOnly⟩
      case h_2 made transferDir hTemp =>
        obtain ⟨name, hName, hRoute, hNew, hMade⟩ := tempdirIn_eq_ok (hDirectory rfl) hTemp
        have hDir : made.IsDirectory (route transferDir) := by
          simp [FileSystem.IsDirectory, hRoute, hMade, directory, Node.isDirectory]
        have hSpec := run.saveAll_spec hDir images.length 0 images
        generalize run.saveAll transferDir images.length made 0 images = stored at hSpec
        obtain ⟨after, paths⟩ := stored
        obtain ⟨hFrame, hStored⟩ := hSpec
        cases paths with
        | error e =>
            refine .inl ⟨_, e, rfl, fun loc => ?_⟩
            rw [nodes_removeTree hName hRoute hNew hMade hFrame loc]
            exact hOnly loc
        | ok paths => exact .inr ⟨after, _, rfl, (hStored paths rfl).transferred hOnly hRoute hNew hMade hFrame⟩

/-- Saving images is all or nothing: where it fails, at most missing components
of the output directory are there now; an existing component that is no
directory is refused with nothing created, unless one of the components up to
it cannot be looked at; and where it succeeds, the images are in a directory of
their own. -/
theorem saveImages_allOrNothing (run : SaveRun) (before : FileSystem) (dir : OutputDir)
    (images : List (ClipboardFormat × List UInt8)) :
    (∀ e, (run.saveImages before dir images).2 = .error e →
        run.OnlyComponents before (run.saveImages before dir images).1 (route dir.path)) ∧
      (∀ loc node, loc <:+ route dir.path → before.nodes loc = some node → node.isDirectory = false →
        ∃ e, run.saveImages before dir images = (before, .error e) ∧ run.Refusal 0 loc.length e) ∧
      ∀ saved, (run.saveImages before dir images).2 = .ok saved →
        run.Transferred before (run.saveImages before dir images).1 (route dir.path) images saved := by
  refine ⟨fun e hError => ?_, fun loc node hLoc hNode hKind => ?_, fun saved hSaved => ?_⟩
  · rcases run.saveImages_cases before dir images with ⟨after, e, hEnd, hOnly⟩ | ⟨after, saved, hEnd, -⟩
    · rw [hEnd]
      exact hOnly
    · rw [hEnd] at hError
      cases hError
  · have hPlace : loc <:+ (route dir.path).reverse.reverse ++ [] := by simpa using hLoc
    obtain ⟨e, hVisit, hRefusal⟩ := run.visitAll_blocked hNode hKind List.nil_suffix hPlace
    unfold saveImages
    rw [hVisit]
    exact ⟨e, rfl, hRefusal⟩
  · rcases run.saveImages_cases before dir images with ⟨after, e, hEnd, -⟩ | ⟨after, other, hEnd, hTransferred⟩
    · rw [hEnd] at hSaved
      cases hSaved
    · rw [hEnd] at hSaved ⊢
      cases hSaved
      exact hTransferred

/-- A root directory with one symbolic link in it. -/
def linked : FileSystem :=
  (FileSystem.bare 0o755).add
    { name := utf8 "link", parent := [], isEntry := by decide,
      directory := FileSystem.isDirectory_root }
    (.symlink (utf8 "/tmp")) (by decide)

/-- The link cannot be looked at. -/
def unseen : SaveRun :=
  { umask := 0o022, fails := (· == .symlinkMetadata 1), written := fun _ => 0, suffixes := [] }

/-- Where the call that looks at a component fails, the error is not about the path. -/
theorem saveImages_unseen :
    route (utf8 "/link") = [utf8 "link"] ∧ linked.nodes [utf8 "link"] = some (.symlink (utf8 "/tmp")) ∧
      (unseen.saveImages linked { path := utf8 "/link", absolute := by decide, noParent := by decide }
        [(.png, [137, 80, 78, 71])]).2 = .error .io := by
  exact ⟨rfl, rfl, rfl⟩

/-- Nothing fails. -/
def smooth : SaveRun :=
  { umask := 0o022, fails := fun _ => false, written := fun _ => 0,
    suffixes := [{ bytes := utf8 "Zk3v9Q", alphanumeric := List.all_eq_true.mp (by decide) }] }

theorem saveImages_two :
    ∃ saved, saved.paths = [utf8 "/out/image-Zk3v9Q/clipboard-1.png", utf8 "/out/image-Zk3v9Q/clipboard-2.jpg"] ∧
      smooth.Transferred (FileSystem.bare 0o755)
        (smooth.saveImages (FileSystem.bare 0o755)
          { path := utf8 "/out", absolute := by decide, noParent := by decide }
          [(.png, [137, 80, 78, 71]), (.jpeg, [255, 216, 255])]).1
        (route (utf8 "/out")) [(.png, [137, 80, 78, 71]), (.jpeg, [255, 216, 255])] saved :=
  ⟨_, rfl, (saveImages_allOrNothing smooth _ { path := utf8 "/out", absolute := by decide, noParent := by decide }
    _).2.2 { directory := utf8 "/out/image-Zk3v9Q", paths := _ } rfl⟩

end SaveRun
end DevcontainerBridge
