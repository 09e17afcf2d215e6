import Mathlib.Data.List.Basic
import Mathlib.Data.List.Infix

/-! The tree of files and directories that a process sees, and the calls that
look at it and change it. -/
namespace Files

abbrev Name := List UInt8

/-- The entries passed on the way from the root, the innermost first. -/
abbrev Location := List Name

/-- The parts of a path, the innermost first. Other than a location, a path may
lead upwards and through symbolic links. -/
abbrev Route := List Name

def slash : UInt8 := 47

def here : Name := [46]

def above : Name := [46, 46]

/-- What an entry of a directory may be called. -/
def IsEntry (name : Name) : Prop :=
  name ≠ [] ∧ name ≠ here ∧ name ≠ above ∧ slash ∉ name ∧ 0 ∉ name

instance (name : Name) : Decidable (IsEntry name) :=
  inferInstanceAs (Decidable (_ ∧ _ ∧ _ ∧ _ ∧ _))

def isAbsolute (path : List UInt8) : Bool :=
  path.head? == some slash

/-- Rust's `Path::components` without the root, in reverse. -/
def route (path : List UInt8) : Route :=
  ((path.splitOn slash).filter fun part => part ≠ [] ∧ part ≠ here).reverse

/-- Rust's `Path::join`. -/
def join (path name : List UInt8) : List UInt8 :=
  if isAbsolute name then name
  else if path = [] ∨ path.getLast? = some slash then path ++ name
  else path ++ slash :: name

inductive Node where
  | directory (mode : Nat)
  | file (mode : Nat) (contents : List UInt8)
  | symlink (target : List UInt8)
  | socket (mode : Nat)
  /-- a device or a pipe -/
  | special (mode : Nat)
  deriving DecidableEq, Repr

def Node.isDirectory : Node → Bool
  | .directory _ => true
  | _ => false

def Node.isSymlink : Node → Bool
  | .symlink _ => true
  | _ => false

def Node.chmod (mode : Nat) : Node → Node
  | .directory _ => .directory mode
  | .file _ contents => .file mode contents
  | .symlink target => .symlink target
  | .socket _ => .socket mode
  | .special _ => .special mode

def Node.write (contents : List UInt8) : Node → Node
  | .file mode _ => .file mode contents
  | node => node

/-- The mode that a call asking for `mode` gives to what it makes. -/
def masked (umask mode : Nat) : Nat :=
  mode &&& (0o777 ^^^ (umask &&& 0o777))

/-- What is where. Every entry has a name and is in a directory. -/
structure FileSystem where
  nodes : Location → Option Node
  root : (nodes []).any Node.isDirectory
  closed : ∀ name loc, nodes (name :: loc) ≠ none → IsEntry name ∧ (nodes loc).any Node.isDirectory

def FileSystem.IsDirectory (fs : FileSystem) (loc : Location) : Prop :=
  (fs.nodes loc).any Node.isDirectory

instance (fs : FileSystem) (loc : Location) : Decidable (fs.IsDirectory loc) :=
  inferInstanceAs (Decidable (_ = true))

/-- A name in a directory, whether or not something has it. -/
structure Entry (fs : FileSystem) where
  name : Name
  parent : Location
  isEntry : IsEntry name
  directory : fs.IsDirectory parent

def Entry.location {fs : FileSystem} (entry : Entry fs) : Location :=
  entry.name :: entry.parent

inductive Errno where
  | noEntry
  | alreadyExists
  | notDirectory
  | isDirectory
  | tooManyLinks
  | denied
  | invalid
  deriving DecidableEq, Repr

namespace FileSystem

/-- A root directory with nothing in it. -/
def bare (mode : Nat) : FileSystem where
  nodes loc := if loc = [] then some (.directory mode) else none
  root := rfl
  closed name loc h := absurd (if_neg (List.cons_ne_nil name loc)) h

/-- Make an entry that is not there. -/
def add (fs : FileSystem) (entry : Entry fs) (node : Node) (hNew : fs.nodes entry.location = none) : FileSystem where
  nodes loc := if loc = entry.location then some node else fs.nodes loc
  root := by
    rw [if_neg (by simp [Entry.location])]
    exact fs.root
  closed name loc h := by
    by_cases hHere : name :: loc = entry.location
    · obtain ⟨rfl, rfl⟩ := List.cons.inj hHere
      rw [if_neg (by simp [Entry.location])]
      exact ⟨entry.isEntry, entry.directory⟩
    · rw [if_neg hHere] at h
      have hOld := fs.closed name loc h
      rw [if_neg fun hLoc => by simp [hLoc, hNew] at hOld]
      exact hOld

/-- Change what is at a location, a directory only into a directory. -/
def modify (fs : FileSystem) (place : Location) (change : Node → Node)
    (hKind : ∀ node, (change node).isDirectory = node.isDirectory) : FileSystem where
  nodes loc := if loc = place then (fs.nodes loc).map change else fs.nodes loc
  root := by
    split
    · simpa [Option.any_map, Function.comp_def, hKind] using fs.root
    · exact fs.root
  closed name loc h := by
    have hOld : fs.nodes (name :: loc) ≠ none := by
      split at h
      · simpa using h
      · exact h
    obtain ⟨hName, hDirectory⟩ := fs.closed name loc hOld
    refine ⟨hName, ?_⟩
    split
    · simpa [Option.any_map, Function.comp_def, hKind] using hDirectory
    · exact hDirectory

/-- Remove an entry with all that is below it. -/
def erase (fs : FileSystem) (entry : Entry fs) : FileSystem where
  nodes loc := if entry.location <:+ loc then none else fs.nodes loc
  root := by
    rw [if_neg (by simp [Entry.location])]
    exact fs.root
  closed name loc h := by
    by_cases hBelow : entry.location <:+ name :: loc
    · exact absurd (if_pos hBelow) h
    · rw [if_neg hBelow] at h
      rw [if_neg fun hLoc => hBelow (hLoc.trans (List.suffix_cons name loc))]
      exact fs.closed name loc h

def setMode (fs : FileSystem) (place : Location) (mode : Nat) : FileSystem :=
  fs.modify place (Node.chmod mode) fun node => by cases node <;> rfl

def setContents (fs : FileSystem) (place : Location) (contents : List UInt8) : FileSystem :=
  fs.modify place (Node.write contents) fun node => by cases node <;> rfl

variable (fs : FileSystem) (search : Location → Bool)

/-- Follow the parts of a path from a directory. `jump` goes on behind a symbolic link. -/
def walk (jump : Location → List Name → Except Errno Location) : Location → List Name → Except Errno Location
  | loc, [] => .ok loc
  | loc, name :: rest =>
      if fs.IsDirectory loc then
        if search loc then
          if name = above then walk jump loc.tail rest
          else
            match fs.nodes (name :: loc) with
            | none => .error .noEntry
            | some (.symlink target) =>
                jump (if isAbsolute target then [] else loc) ((route target).reverse ++ rest)
            | some _ => walk jump (name :: loc) rest
        else .error .denied
      else .error .notDirectory

/-- At most so many symbolic links are followed. -/
def follow : Nat → Location → List Name → Except Errno Location
  | 0 => walk fs search fun _ _ => .error .tooManyLinks
  | links + 1 => walk fs search (follow links)

def maxLinks : Nat := 40

/-- Where a path leads to. `search` tells in which directories names may be looked up. -/
def resolve (path : Route) : Except Errno Location :=
  if ∃ part ∈ path, 0 ∈ part then .error .invalid
  else follow fs search maxLinks [] path.reverse

/-- The entry that a path ends in. -/
def entry : Route → Except Errno (Entry fs)
  | [] => .error .alreadyExists
  | name :: up =>
      if 0 ∈ name then .error .invalid
      else
        match fs.resolve search up with
        | .error e => .error e
        | .ok parent =>
            if directory : fs.IsDirectory parent then
              if search parent then
                if isEntry : IsEntry name then .ok { name, parent, isEntry, directory }
                else .error .alreadyExists
              else .error .denied
            else .error .notDirectory

/-- What a path leads to. -/
def stat (path : Route) : Except Errno Node :=
  match fs.resolve search path with
  | .error e => .error e
  | .ok loc => (fs.nodes loc).elim (.error .noEntry) .ok

/-- What a path leads to where a symbolic link at its end is not followed. -/
def lstat : Route → Except Errno Node
  | [] => fs.stat search []
  | name :: up =>
      if name = above then fs.stat search (name :: up)
      else
        match fs.entry search (name :: up) with
        | .error e => .error e
        | .ok entry => (fs.nodes entry.location).elim (.error .noEntry) .ok

/-- Make something at the end of a path. `permits` tells where the system lets it happen. -/
def create (permits : Location → Bool) (node : Node) (path : Route) : Except Errno FileSystem :=
  match fs.entry search path with
  | .error e => .error e
  | .ok entry =>
      if hNew : fs.nodes entry.location = none then
        if permits entry.location then .ok (fs.add entry node hNew) else .error .denied
      else .error .alreadyExists

/-- Remove the entry that a path ends in, unless it is a directory. -/
def unlink (permitted : Bool) (path : Route) : Except Errno FileSystem :=
  match fs.entry search path with
  | .error e => .error e
  | .ok entry =>
      match fs.nodes entry.location with
      | none => .error .noEntry
      | some node =>
          if node.isDirectory then .error .isDirectory
          else if permitted then .ok (fs.erase entry)
          else .error .denied

/-- Change the mode of what a path leads to. -/
def chmod (permitted : Bool) (mode : Nat) (path : Route) : Except Errno FileSystem :=
  match fs.resolve search path with
  | .error e => .error e
  | .ok loc => if permitted then .ok (fs.setMode loc mode) else .error .denied

variable {fs : FileSystem} {search : Location → Bool} {entry : Entry fs} {loc place : Location} {name : Name}
  {path up : Route} {node : Node}

theorem isDirectory_iff : fs.IsDirectory loc ↔ ∃ mode, fs.nodes loc = some (.directory mode) := by
  unfold IsDirectory
  cases hNode : fs.nodes loc with
  | none => simp
  | some node => cases node <;> simp [Node.isDirectory]

theorem isDirectory_root : fs.IsDirectory [] := fs.root

theorem ne_none_of_isDirectory (h : fs.IsDirectory loc) : fs.nodes loc ≠ none := by
  obtain ⟨mode, hNode⟩ := isDirectory_iff.mp h
  simp [hNode]

theorem isDirectory_parent (h : fs.nodes (name :: loc) ≠ none) : fs.IsDirectory loc :=
  (fs.closed name loc h).2

theorem isEntry_of_mem (h : fs.nodes loc ≠ none) : ∀ name ∈ loc, IsEntry name := by
  induction loc with
  | nil => simp
  | cons name loc ih =>
      have hLoc := ih (ne_none_of_isDirectory (isDirectory_parent h))
      simpa using ⟨(fs.closed name loc h).1, hLoc⟩

/-- What is above something is a directory. -/
theorem isDirectory_above (hAbove : place <:+ loc) (hNe : place ≠ loc) (hLoc : fs.nodes loc ≠ none) :
    fs.IsDirectory place := by
  obtain ⟨names, rfl⟩ := hAbove
  induction names with
  | nil => exact absurd rfl hNe
  | cons name names ih =>
      have hParent := isDirectory_parent hLoc
      cases names with
      | nil => exact hParent
      | cons next names =>
          refine ih (fun h => ?_) (ne_none_of_isDirectory hParent)
          have hLength := congrArg List.length h
          simp at hLength
          omega

theorem nodes_add (hNew : fs.nodes entry.location = none) (loc : Location) :
    (fs.add entry node hNew).nodes loc = if loc = entry.location then some node else fs.nodes loc := rfl

theorem nodes_setMode (place loc : Location) (mode : Nat) :
    (fs.setMode place mode).nodes loc = if loc = place then (fs.nodes loc).map (Node.chmod mode) else fs.nodes loc :=
  rfl

@[simp] theorem isDirectory_setMode (place loc : Location) (mode : Nat) :
    (fs.setMode place mode).IsDirectory loc ↔ fs.IsDirectory loc := by
  unfold IsDirectory
  rw [nodes_setMode]
  split
  · cases fs.nodes loc with
    | none => rfl
    | some node => cases node <;> rfl
  · rfl

theorem nodes_setContents (place loc : Location) (contents : List UInt8) :
    (fs.setContents place contents).nodes loc =
      if loc = place then (fs.nodes loc).map (Node.write contents) else fs.nodes loc := rfl

theorem nodes_erase (entry : Entry fs) (loc : Location) :
    (fs.erase entry).nodes loc = if entry.location <:+ loc then none else fs.nodes loc := rfl

/-- Nothing is below what is no directory. -/
theorem nodes_below (hLeaf : ¬ fs.IsDirectory place) (hBelow : place <:+ loc) (hNe : place ≠ loc) :
    fs.nodes loc = none := by
  by_contra hLoc
  exact hLeaf (isDirectory_above hBelow hNe hLoc)

theorem nodes_below_none (hNone : fs.nodes place = none) (hBelow : place <:+ loc) : fs.nodes loc = none := by
  by_cases hSame : place = loc
  · rw [← hSame, hNone]
  · exact nodes_below (fun hDirectory => ne_none_of_isDirectory hDirectory hNone) hBelow hSame

theorem follow_nil (links : Nat) (loc : Location) : fs.follow search links loc [] = .ok loc := by
  cases links <;> rfl

/-- What the next part of a path can do: it fails, it is passed, or it is a symbolic link. -/
theorem follow_cons (fs : FileSystem) (search : Location → Bool) (links : Nat) (start : Location) (name : Name) :
    (∃ e, ∀ rest, fs.follow search links start (name :: rest) = .error e) ∨
      (∃ next, ∀ rest, fs.follow search links start (name :: rest) = fs.follow search links next rest) ∨
      ∃ fewer next target, links = fewer + 1 ∧
        ∀ rest, fs.follow search links start (name :: rest) = fs.follow search fewer next (target ++ rest) := by
  have hWalk : ∃ jump, fs.follow search links = fs.walk search jump ∧
      ((∀ loc parts, jump loc parts = .error .tooManyLinks) ∨
        ∃ fewer, links = fewer + 1 ∧ jump = fs.follow search fewer) := by
    cases links with
    | zero => exact ⟨_, rfl, .inl fun _ _ => rfl⟩
    | succ fewer => exact ⟨_, rfl, .inr ⟨fewer, rfl, rfl⟩⟩
  obtain ⟨jump, hFollow, hJump⟩ := hWalk
  rw [hFollow]
  by_cases hDirectory : fs.IsDirectory start
  · by_cases hSearch : search start = true
    · by_cases hAbove : name = above
      · exact .inr (.inl ⟨start.tail, fun rest => by simp [walk, hDirectory, hSearch, hAbove]⟩)
      · cases hNode : fs.nodes (name :: start) with
        | none => exact .inl ⟨.noEntry, fun rest => by simp [walk, hDirectory, hSearch, hAbove, hNode]⟩
        | some node =>
            cases node with
            | symlink target =>
                rcases hJump with hTooMany | ⟨fewer, rfl, rfl⟩
                · exact .inl ⟨.tooManyLinks, fun rest => by
                    simp [walk, hDirectory, hSearch, hAbove, hNode, hTooMany]⟩
                · exact .inr (.inr ⟨fewer, if isAbsolute target then [] else start, (route target).reverse, rfl,
                    fun rest => by simp [walk, hDirectory, hSearch, hAbove, hNode]⟩)
            | _ => exact .inr (.inl ⟨name :: start, fun rest => by
                simp [walk, hDirectory, hSearch, hAbove, hNode]⟩)
    · exact .inl ⟨.denied, fun rest => by simp [walk, hDirectory, hSearch]⟩
  · exact .inl ⟨.notDirectory, fun rest => by simp [walk, hDirectory]⟩

/-- A path goes on from where its beginning leads. -/
theorem follow_append {links : Nat} {start : Location} {parts : List Name}
    (h : fs.follow search links start parts = .ok loc) :
    ∃ left, ∀ more, fs.follow search links start (parts ++ more) = fs.follow search left loc more := by
  induction links using Nat.strong_induction_on generalizing start parts with
  | _ links ihLinks =>
      induction parts generalizing start with
      | nil =>
          rw [follow_nil] at h
          cases h
          exact ⟨links, fun more => rfl⟩
      | cons name rest ihParts =>
          rcases fs.follow_cons search links start name with
            ⟨e, hError⟩ | ⟨next, hNext⟩ | ⟨fewer, next, target, rfl, hJump⟩
          · rw [hError] at h
            cases h
          · rw [hNext] at h
            obtain ⟨left, hLeft⟩ := ihParts h
            exact ⟨left, fun more => (hNext _).trans (hLeft more)⟩
          · rw [hJump] at h
            obtain ⟨left, hLeft⟩ := ihLinks fewer (Nat.lt_succ_self fewer) h
            refine ⟨left, fun more => ?_⟩
            rw [List.cons_append, hJump, ← List.append_assoc]
            exact hLeft more

/-- A path whose beginning leads nowhere fails in the same way. -/
theorem follow_append_error {links : Nat} {start : Location} {parts : List Name} {e : Errno}
    (h : fs.follow search links start parts = .error e) (more : List Name) :
    fs.follow search links start (parts ++ more) = .error e := by
  induction links using Nat.strong_induction_on generalizing start parts with
  | _ links ihLinks =>
      induction parts generalizing start with
      | nil =>
          rw [follow_nil] at h
          cases h
      | cons name rest ihParts =>
          rcases fs.follow_cons search links start name with
            ⟨_, hError⟩ | ⟨next, hNext⟩ | ⟨fewer, next, target, rfl, hJump⟩
          · rw [hError] at h
            rw [List.cons_append, hError, ← h]
          · rw [hNext] at h
            exact (hNext _).trans (ihParts h)
          · rw [hJump] at h
            rw [List.cons_append, hJump, ← List.append_assoc]
            exact ihLinks fewer (Nat.lt_succ_self fewer) h

/-- Everything is still there, though modes may have changed. -/
def Grows (before after : FileSystem) : Prop :=
  ∀ loc node, before.nodes loc = some node → ∃ now, after.nodes loc = some now ∧ now.chmod 0 = node.chmod 0

theorem Grows.isDirectory {before after : FileSystem} (h : before.Grows after) (hLoc : before.IsDirectory loc) :
    after.IsDirectory loc := by
  obtain ⟨mode, hNode⟩ := isDirectory_iff.mp hLoc
  obtain ⟨now, hNow, hKind⟩ := h loc _ hNode
  cases now with
  | directory mode => exact isDirectory_iff.mpr ⟨mode, hNow⟩
  | _ => cases hKind

theorem Grows.walk {before after : FileSystem} (h : before.Grows after)
    {jump jump' : Location → List Name → Except Errno Location}
    (hJump : ∀ start parts, jump start parts = .ok loc → jump' start parts = .ok loc) {start : Location}
    {parts : List Name} (hWalk : before.walk search jump start parts = .ok loc) :
    after.walk search jump' start parts = .ok loc := by
  induction parts generalizing start with
  | nil => exact hWalk
  | cons name rest ih =>
      unfold FileSystem.walk at hWalk ⊢
      split at hWalk
      case isFalse => cases hWalk
      case isTrue hDirectory =>
        rw [if_pos (h.isDirectory hDirectory)]
        split at hWalk
        case isFalse => cases hWalk
        case isTrue hSearch =>
          rw [if_pos hSearch]
          split at hWalk
          case isTrue hAbove =>
            rw [if_pos hAbove]
            exact ih hWalk
          case isFalse hAbove =>
            rw [if_neg hAbove]
            cases hNode : before.nodes (name :: start) with
            | none => simp [hNode] at hWalk
            | some node =>
                obtain ⟨now, hNow, hKind⟩ := h _ _ hNode
                rw [hNow]
                rw [hNode] at hWalk
                cases node with
                | symlink target =>
                    cases now <;> cases hKind
                    exact hJump _ _ hWalk
                | _ =>
                    cases now <;> cases hKind
                    exact ih hWalk

theorem Grows.follow {before after : FileSystem} (h : before.Grows after) {links : Nat} {start : Location}
    {parts : List Name} (hFollow : before.follow search links start parts = .ok loc) :
    after.follow search links start parts = .ok loc := by
  induction links generalizing start parts with
  | zero => exact h.walk (fun _ _ hJump => by cases hJump) hFollow
  | succ links ih => exact h.walk (fun _ _ hJump => ih hJump) hFollow

theorem Grows.resolve {before after : FileSystem} (h : before.Grows after)
    (hResolve : before.resolve search path = .ok loc) : after.resolve search path = .ok loc := by
  unfold FileSystem.resolve at hResolve ⊢
  split at hResolve
  case isTrue => cases hResolve
  case isFalse hNul =>
    rw [if_neg hNul]
    exact h.follow hResolve

theorem grows_add (hNew : fs.nodes entry.location = none) : fs.Grows (fs.add entry node hNew) := by
  intro loc old hOld
  refine ⟨old, ?_, rfl⟩
  rw [nodes_add, if_neg fun hLoc => by simp [hLoc, hNew] at hOld]
  exact hOld

theorem grows_setMode (fs : FileSystem) (place : Location) (mode : Nat) : fs.Grows (fs.setMode place mode) := by
  intro loc old hOld
  rw [nodes_setMode, hOld]
  split
  · exact ⟨old.chmod mode, rfl, by cases old <;> rfl⟩
  · exact ⟨old, rfl, rfl⟩

theorem grows_of_erase (entry : Entry fs) : (fs.erase entry).Grows fs := by
  intro loc old hOld
  rw [nodes_erase] at hOld
  split at hOld
  case isTrue => cases hOld
  case isFalse => exact ⟨old, hOld, rfl⟩

/-- The last part of a path is looked up where the others lead. -/
theorem resolve_cons {parent : Location} (hUp : fs.resolve search up = .ok parent) (hName : 0 ∉ name) :
    ∃ left, fs.resolve search (name :: up) = fs.follow search left parent [name] := by
  unfold resolve at hUp ⊢
  split at hUp
  case isTrue => cases hUp
  case isFalse hNul =>
    obtain ⟨left, hLeft⟩ := follow_append hUp
    refine ⟨left, ?_⟩
    rw [if_neg (by simpa [hName] using hNul), List.reverse_cons]
    exact hLeft [name]

theorem resolve_cons_error {e : Errno} (hUp : fs.resolve search up = .error e) (hName : 0 ∉ name) :
    fs.resolve search (name :: up) = .error e := by
  unfold resolve at hUp ⊢
  split at hUp
  case isTrue hNul =>
    rw [if_pos (by simpa [hName] using hNul)]
    exact hUp
  case isFalse hNul =>
    rw [if_neg (by simpa [hName] using hNul), List.reverse_cons]
    exact follow_append_error hUp [name]

theorem follow_name {links : Nat} (hParent : fs.IsDirectory loc) (hSearch : search loc = true) (hName : name ≠ above)
    (hNode : fs.nodes (name :: loc) = some node) (hLink : node.isSymlink = false) :
    fs.follow search links loc [name] = .ok (name :: loc) := by
  cases links <;> cases node <;> simp_all [follow, walk, Node.isSymlink]

theorem follow_missing {links : Nat} (hParent : fs.IsDirectory loc) (hSearch : search loc = true)
    (hName : name ≠ above) (hNew : fs.nodes (name :: loc) = none) :
    fs.follow search links loc [name] = .error .noEntry := by
  cases links <;> simp [follow, walk, hParent, hSearch, hName, hNew]

theorem follow_notDirectory {links : Nat} (hParent : ¬ fs.IsDirectory loc) :
    fs.follow search links loc [name] = .error .notDirectory := by
  cases links <;> simp [follow, walk, hParent]

/-- The entry of a path is in the directory that its other parts lead to. -/
theorem entry_eq_ok (h : fs.entry search path = .ok entry) :
    ∃ up, path = entry.name :: up ∧ fs.resolve search up = .ok entry.parent ∧ search entry.parent = true := by
  unfold FileSystem.entry at h
  split at h
  case h_1 => cases h
  case h_2 name up =>
    split at h
    case isTrue => cases h
    case isFalse =>
      split at h
      case h_1 => cases h
      case h_2 parent hParent =>
        split at h
        case isFalse => cases h
        case isTrue =>
          split at h
          case isFalse => cases h
          case isTrue hSearch =>
            split at h
            case isFalse => cases h
            case isTrue =>
              cases h
              exact ⟨up, rfl, hParent, hSearch⟩

theorem entry_of_resolve (hUp : fs.resolve search up = .ok loc) (hParent : fs.IsDirectory loc)
    (hSearch : search loc = true) (hName : IsEntry name) :
    fs.entry search (name :: up) = .ok { name, parent := loc, isEntry := hName, directory := hParent } := by
  simp only [FileSystem.entry, if_neg hName.2.2.2.2, hUp, dif_pos hParent, if_pos hSearch, dif_pos hName]

/-- What is at an entry is what its path leads to. -/
theorem resolve_entry (h : fs.entry search path = .ok entry) (hNode : fs.nodes entry.location = some node)
    (hLink : node.isSymlink = false) : fs.resolve search path = .ok entry.location := by
  obtain ⟨up, rfl, hUp, hSearch⟩ := entry_eq_ok h
  obtain ⟨left, hLeft⟩ := resolve_cons hUp entry.isEntry.2.2.2.2
  rw [hLeft]
  exact follow_name entry.directory hSearch entry.isEntry.2.2.1 hNode hLink

theorem create_eq_ok {permits : Location → Bool} {after : FileSystem}
    (h : fs.create search permits node path = .ok after) :
    ∃ entry hNew, fs.entry search path = .ok entry ∧ permits entry.location = true ∧
      after = fs.add entry node hNew := by
  unfold create at h
  split at h
  case h_1 => cases h
  case h_2 entry hEntry =>
    split at h
    case isFalse => cases h
    case isTrue hNew =>
      split at h
      case isFalse => cases h
      case isTrue hPermits =>
        cases h
        exact ⟨entry, hNew, hEntry, hPermits, rfl⟩

theorem unlink_eq_ok {permitted : Bool} {after : FileSystem} (h : fs.unlink search permitted path = .ok after) :
    ∃ entry, fs.entry search path = .ok entry ∧ ¬ fs.IsDirectory entry.location ∧ after = fs.erase entry := by
  unfold unlink at h
  split at h
  case h_1 => cases h
  case h_2 entry hEntry =>
    split at h
    case h_1 => cases h
    case h_2 node hNode =>
      split at h
      case isTrue => cases h
      case isFalse hLeaf =>
        split at h
        case isFalse => cases h
        case isTrue =>
          cases h
          exact ⟨entry, hEntry, by simpa [IsDirectory, hNode] using hLeaf, rfl⟩

theorem chmod_eq_ok {permitted : Bool} {mode : Nat} {after : FileSystem}
    (h : fs.chmod search permitted mode path = .ok after) :
    ∃ loc, fs.resolve search path = .ok loc ∧ permitted = true ∧ after = fs.setMode loc mode := by
  unfold chmod at h
  split at h
  case h_1 => cases h
  case h_2 loc hLoc =>
    split at h
    case isFalse => cases h
    case isTrue hPermitted =>
      cases h
      exact ⟨loc, hLoc, hPermitted, rfl⟩

/-- A directory is where the path of its own names leads. -/
theorem resolve_self (hSearch : ∀ loc, search loc = true) (h : fs.IsDirectory loc) :
    fs.resolve search loc = .ok loc := by
  induction loc with
  | nil =>
      unfold resolve
      rw [if_neg (by simp), List.reverse_nil]
      exact follow_nil _ _
  | cons name loc ih =>
      obtain ⟨mode, hNode⟩ := isDirectory_iff.mp h
      have hParent := isDirectory_parent (ne_none_of_isDirectory h)
      have hName := isEntry_of_mem (ne_none_of_isDirectory h) name List.mem_cons_self
      have hEntry := entry_of_resolve (ih hParent) hParent (hSearch loc) hName
      exact resolve_entry hEntry hNode rfl

end FileSystem

theorem IsEntry.append {more : Name} (hName : IsEntry name) (hSlash : slash ∉ more) (hNul : 0 ∉ more) :
    IsEntry (name ++ more) := by
  obtain ⟨hNil, hHere, hAbove, hNoSlash, hNoNul⟩ := hName
  have hDots : name ++ more ≠ here ∧ name ++ more ≠ above := by
    match name with
    | [] => exact absurd rfl hNil
    | [b] => simp_all [here, above]
    | b :: c :: name => simp_all [here, above]
  refine ⟨by simp [hNil], hDots.1, hDots.2, ?_, ?_⟩
  · simp [hNoSlash, hSlash]
  · simp [hNoNul, hNul]

theorem isAbsolute_join {path : List UInt8} (h : isAbsolute path = true) (name : List UInt8) :
    isAbsolute (join path name) = true := by
  unfold join
  split
  case isTrue hName => exact hName
  case isFalse =>
    cases path with
    | nil => cases h
    | cons b path => split <;> exact h

/-- What follows the last slash is the last part of a path. -/
theorem route_append_slash (path : List UInt8) (hNil : name ≠ []) (hHere : name ≠ here) (hSlash : slash ∉ name) :
    route (path ++ slash :: name) = name :: route path := by
  have hSplit : name.splitOn slash = [name] := List.splitOn_eq_singleton hSlash
  simp [route, List.splitOn_append_cons_self, hSplit, hNil, hHere]

theorem route_slash (path : List UInt8) : route (path ++ [slash]) = route path := by
  simp [route, List.splitOn_append_cons_self]

theorem route_name (hNil : name ≠ []) (hHere : name ≠ here) (hSlash : slash ∉ name) : route name = [name] := by
  have hSplit : name.splitOn slash = [name] := List.splitOn_eq_singleton hSlash
  simp [route, hSplit, hNil, hHere]

/-- A joined name is the last part of the path. -/
theorem route_join (path : List UInt8) (hName : IsEntry name) : route (join path name) = name :: route path := by
  have hRelative : isAbsolute name = false := by
    cases name with
    | nil => rfl
    | cons b name =>
        have hSlash : b ≠ slash := by
          rintro rfl
          exact hName.2.2.2.1 List.mem_cons_self
        simpa [isAbsolute] using hSlash
  obtain ⟨hNil, hHere, -, hSlash, -⟩ := hName
  unfold join
  rw [if_neg (by simp [hRelative])]
  split
  case isFalse => exact route_append_slash path hNil hHere hSlash
  case isTrue hEnd =>
    rcases hEnd with rfl | hLast
    · exact route_name hNil hHere hSlash
    · obtain ⟨start, rfl⟩ := List.getLast?_eq_some_iff.mp hLast
      rw [List.append_assoc, List.singleton_append, route_append_slash start hNil hHere hSlash, route_slash]

end Files
