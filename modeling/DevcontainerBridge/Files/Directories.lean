import DevcontainerBridge.Files.Tree

/-! Making the directories that a path lacks: Rust's `create_dir_all`, which
begins at the end of the path, comes to making them from the root on. -/
namespace Files
namespace FileSystem

section Definitions

variable (fs : FileSystem) (search permits : Location → Bool) (mode : Nat)

/-- The directory that a path leads to. -/
def directoryAt (path : Route) : Option Location :=
  match fs.resolve search path with
  | .error _ => none
  | .ok loc => if fs.IsDirectory loc then some loc else none

/-- Rust's `create_dir_all`. -/
def createDirAll : Route → FileSystem × Except Errno Unit
  | [] => (fs, .ok ())
  | name :: up =>
      match fs.create search permits (.directory mode) (name :: up) with
      | .ok after => (after, .ok ())
      | .error .noEntry =>
          match createDirAll up with
          | (above, .error e) => (above, .error e)
          | (above, .ok _) =>
              match above.create search permits (.directory mode) (name :: up) with
              | .ok after => (after, .ok ())
              | .error e =>
                  if (above.directoryAt search (name :: up)).isSome then (above, .ok ()) else (above, .error e)
      | .error e => if (fs.directoryAt search (name :: up)).isSome then (fs, .ok ()) else (fs, .error e)

end Definitions

/-- What became of a path: the directories that were made for it, and where it
leads now, if it does. -/
structure Reached where
  fs : FileSystem
  made : List Location
  landing : Option Location

/-- Pass a path from the root on, and make the directories that it lacks. -/
def reach (fs : FileSystem) (search permits : Location → Bool) (mode : Nat) : Route → Reached
  | [] => { fs, made := [], landing := some [] }
  | name :: up =>
      if 0 ∈ name then { fs, made := [], landing := none }
      else
        let reached := reach fs search permits mode up
        match reached.landing with
        | none => reached
        | some parent =>
            match reached.fs.directoryAt search (name :: up) with
            | some loc => { reached with landing := some loc }
            | none =>
                match reached.fs.create search permits (.directory mode) (name :: up) with
                | .ok after =>
                    { fs := after, made := (name :: parent) :: reached.made, landing := some (name :: parent) }
                | .error _ => { reached with landing := none }

variable {fs : FileSystem} {search permits : Location → Bool} {mode : Nat} {loc parent : Location} {name : Name}
  {path up : Route} {node : Node}

theorem directoryAt_eq_some : fs.directoryAt search path = some loc ↔
    fs.resolve search path = .ok loc ∧ fs.IsDirectory loc := by
  unfold directoryAt
  cases hResolve : fs.resolve search path with
  | error e => simp
  | ok place =>
      by_cases hPlace : fs.IsDirectory place
      · simp only [hPlace, if_true, Option.some.injEq, Except.ok.injEq]
        exact ⟨fun h => ⟨h, h ▸ hPlace⟩, fun h => h.1⟩
      · simp only [hPlace, if_false, Except.ok.injEq, reduceCtorEq, false_iff]
        rintro ⟨rfl, hLoc⟩
        exact hPlace hLoc

theorem directoryAt_root : fs.directoryAt search [] = some [] :=
  directoryAt_eq_some.mpr ⟨follow_nil _ _, isDirectory_root⟩

theorem not_nul_of_resolve (h : fs.resolve search (name :: up) = .ok loc) : 0 ∉ name := by
  unfold resolve at h
  split at h
  case isTrue => cases h
  case isFalse hNul => exact fun hName => hNul ⟨name, List.mem_cons_self, hName⟩

/-- A path passes only directories. -/
theorem directoryAt_up (h : fs.directoryAt search (name :: up) = some loc) :
    ∃ parent, fs.directoryAt search up = some parent := by
  obtain ⟨hResolve, -⟩ := directoryAt_eq_some.mp h
  have hName := not_nul_of_resolve hResolve
  cases hUp : fs.resolve search up with
  | error e =>
      rw [resolve_cons_error hUp hName] at hResolve
      cases hResolve
  | ok parent =>
      refine ⟨parent, directoryAt_eq_some.mpr ⟨hUp, ?_⟩⟩
      by_contra hParent
      obtain ⟨left, hLeft⟩ := resolve_cons hUp hName
      rw [hLeft, follow_notDirectory hParent] at hResolve
      cases hResolve

/-- What can be made does not lead anywhere yet. -/
theorem resolve_of_create {after : FileSystem} (h : fs.create search permits node path = .ok after) :
    fs.resolve search path = .error .noEntry := by
  obtain ⟨entry, hNew, hEntry, -, -⟩ := create_eq_ok h
  obtain ⟨up, rfl, hUp, hSearch⟩ := entry_eq_ok hEntry
  obtain ⟨left, hLeft⟩ := resolve_cons hUp entry.isEntry.2.2.2.2
  rw [hLeft]
  exact follow_missing entry.directory hSearch entry.isEntry.2.2.1 hNew

theorem reach_of_directoryAt (h : fs.directoryAt search path = some loc) :
    fs.reach search permits mode path = { fs, made := [], landing := some loc } := by
  induction path generalizing loc with
  | nil =>
      rw [directoryAt_root] at h
      cases h
      rfl
  | cons name up ih =>
      obtain ⟨parent, hUp⟩ := directoryAt_up h
      have hName := not_nul_of_resolve (directoryAt_eq_some.mp h).1
      simp only [reach, if_neg hName, ih hUp, h]

/-- Whether a path leads elsewhere than to a directory, or fails other than by a name that is missing. -/
def Blocked (fs : FileSystem) (search : Location → Bool) (path : Route) : Prop :=
  (∃ e, e ≠ .noEntry ∧ fs.resolve search path = .error e) ∨
    ∃ loc, fs.resolve search path = .ok loc ∧ ¬ fs.IsDirectory loc

theorem Blocked.directoryAt (h : fs.Blocked search path) : fs.directoryAt search path = none := by
  unfold FileSystem.directoryAt
  rcases h with ⟨e, -, hError⟩ | ⟨loc, hLoc, hLeaf⟩
  · rw [hError]
  · rw [hLoc]
    exact if_neg hLeaf

/-- Nothing can be made at the end of such a path. -/
theorem Blocked.create (h : fs.Blocked search path) : ∃ e, fs.create search permits node path = .error e := by
  cases hCreate : fs.create search permits node path with
  | error e => exact ⟨e, rfl⟩
  | ok after =>
      have hMissing := resolve_of_create hCreate
      rcases h with ⟨e, hNe, hError⟩ | ⟨loc, hLoc, -⟩
      · rw [hMissing] at hError
        cases hError
        exact absurd rfl hNe
      · rw [hMissing] at hLoc
        cases hLoc

/-- Either something on the way to such a path is in the way already, or the last step is. -/
theorem Blocked.step (h : fs.Blocked search (name :: up)) (hName : 0 ∉ name) :
    fs.Blocked search up ∨ ∃ parent, fs.directoryAt search up = some parent := by
  cases hUp : fs.resolve search up with
  | error e =>
      have hPath := resolve_cons_error hUp hName
      refine .inl (.inl ⟨e, ?_, hUp⟩)
      rcases h with ⟨e', hNe, hError⟩ | ⟨loc, hLoc, -⟩
      · rw [hPath] at hError
        cases hError
        exact hNe
      · rw [hPath] at hLoc
        cases hLoc
  | ok parent =>
      by_cases hParent : fs.IsDirectory parent
      · exact .inr ⟨parent, directoryAt_eq_some.mpr ⟨hUp, hParent⟩⟩
      · exact .inl (.inr ⟨parent, hUp, hParent⟩)

/-- A step that cannot be made ends the passage where the steps before it led. -/
theorem reach_of_create_error {e : Errno} (hUp : fs.directoryAt search up = some parent) (hName : 0 ∉ name)
    (hNone : fs.directoryAt search (name :: up) = none)
    (hCreate : fs.create search permits (.directory mode) (name :: up) = .error e) :
    fs.reach search permits mode (name :: up) = { fs, made := [], landing := none } := by
  simp only [reach, if_neg hName, reach_of_directoryAt hUp, hNone, hCreate]

theorem Blocked.reach (h : fs.Blocked search path) :
    fs.reach search permits mode path = { fs, made := [], landing := none } := by
  induction path with
  | nil =>
      have hRoot := h.directoryAt
      rw [directoryAt_root] at hRoot
      cases hRoot
  | cons name up ih =>
      by_cases hName : 0 ∈ name
      · simp only [FileSystem.reach, if_pos hName]
      · rcases h.step hName with hUp | ⟨parent, hUp⟩
        · simp only [FileSystem.reach, if_neg hName, ih hUp]
        · obtain ⟨e, hCreate⟩ := h.create
          exact reach_of_create_error hUp hName h.directoryAt hCreate

theorem create_eq_error {e : Errno} (h : fs.create search permits node (name :: up) = .error e) (hNe : e ≠ .noEntry)
    (hName : 0 ∉ name) : fs.Blocked search up ∨ ∃ parent, fs.directoryAt search up = some parent := by
  cases hUp : fs.resolve search up with
  | error e' =>
      refine .inl (.inl ⟨e', ?_, hUp⟩)
      rintro rfl
      simp only [create, FileSystem.entry, if_neg hName, hUp, Except.error.injEq] at h
      exact hNe h.symm
  | ok parent =>
      by_cases hParent : fs.IsDirectory parent
      · exact .inr ⟨parent, directoryAt_eq_some.mpr ⟨hUp, hParent⟩⟩
      · exact .inl (.inr ⟨parent, hUp, hParent⟩)

/-- Where making a directory fails for another reason than a missing parent, the passage ends without one. -/
theorem reach_of_error {e : Errno} (h : fs.create search permits (.directory mode) (name :: up) = .error e)
    (hNe : e ≠ .noEntry) (hNone : fs.directoryAt search (name :: up) = none) :
    fs.reach search permits mode (name :: up) = { fs, made := [], landing := none } := by
  by_cases hName : 0 ∈ name
  · simp only [reach, if_pos hName]
  · rcases create_eq_error h hNe hName with hUp | ⟨parent, hUp⟩
    · simp only [reach, if_neg hName, hUp.reach]
    · exact reach_of_create_error hUp hName hNone h

/-- Where a directory can be made, its parents are there. -/
theorem reach_of_create {after : FileSystem}
    (h : fs.create search permits (.directory mode) (name :: up) = .ok after) :
    ∃ parent, fs.reach search permits mode (name :: up) =
      { fs := after, made := [name :: parent], landing := some (name :: parent) } := by
  obtain ⟨entry, -, hEntry, -, -⟩ := create_eq_ok h
  obtain ⟨up', hPath, hUp, -⟩ := entry_eq_ok hEntry
  obtain ⟨rfl, rfl⟩ := List.cons.inj hPath
  have hDirectory := directoryAt_eq_some.mpr ⟨hUp, entry.directory⟩
  have hNone : fs.directoryAt search (entry.name :: up) = none := by
    simp only [directoryAt, resolve_of_create h]
  refine ⟨entry.parent, ?_⟩
  simp only [reach, if_neg entry.isEntry.2.2.2.2, reach_of_directoryAt hDirectory, hNone, h]

/-- `create_dir_all` makes what the path lacks, and succeeds where the path leads to a directory then. -/
theorem createDirAll_eq_reach (path : Route) :
    (fs.createDirAll search permits mode path).1 = (fs.reach search permits mode path).fs ∧
      ((fs.createDirAll search permits mode path).2 = .ok () ↔
        (fs.reach search permits mode path).landing.isSome) := by
  induction path with
  | nil => exact ⟨rfl, by simp [createDirAll, reach]⟩
  | cons name up ih =>
      unfold createDirAll
      split
      case h_1 after hCreate =>
        obtain ⟨parent, hReach⟩ := reach_of_create hCreate
        rw [hReach]
        exact ⟨rfl, by simp⟩
      case h_2 hCreate =>
        have hName : 0 ∉ name := by
          intro hName
          simp [create, FileSystem.entry, hName] at hCreate
        simp only [reach, if_neg hName]
        generalize fs.createDirAll search permits mode up = outcome at ih
        generalize fs.reach search permits mode up = reached at ih
        obtain ⟨above, result⟩ := outcome
        obtain ⟨rfl, hLanding⟩ := ih
        cases result with
        | error e =>
            have hNone : reached.landing = none := by simpa using hLanding
            simp [hNone]
        | ok _ =>
            obtain ⟨parent, hParent⟩ := Option.isSome_iff_exists.mp (hLanding.mp rfl)
            simp only [hParent]
            cases hAt : reached.fs.directoryAt search (name :: up) with
            | some loc =>
                cases hAgain : reached.fs.create search permits (.directory mode) (name :: up) with
                | error e => simp
                | ok after =>
                    rw [directoryAt_eq_some, resolve_of_create hAgain] at hAt
                    cases hAt.1
            | none =>
                cases hAgain : reached.fs.create search permits (.directory mode) (name :: up) <;> simp
      case h_3 e hNe hCreate =>
        cases hAt : fs.directoryAt search (name :: up) with
        | none =>
            rw [reach_of_error hCreate hNe hAt]
            simp
        | some loc =>
            rw [reach_of_directoryAt hAt]
            simp

/-- What was made is where the path leads. -/
theorem resolve_created {after : FileSystem} (h : fs.create search permits node path = .ok after)
    (hLink : node.isSymlink = false) :
    ∃ entry hNew, fs.entry search path = .ok entry ∧ after = fs.add entry node hNew ∧
      after.resolve search path = .ok entry.location := by
  obtain ⟨entry, hNew, hEntry, -, rfl⟩ := create_eq_ok h
  obtain ⟨up, rfl, hUp, hSearch⟩ := entry_eq_ok hEntry
  have hGrows : fs.Grows (fs.add entry node hNew) := grows_add hNew
  have hHere := entry_of_resolve (hGrows.resolve hUp) (hGrows.isDirectory entry.directory) hSearch entry.isEntry
  have hNode : (fs.add entry node hNew).nodes entry.location = some node := by rw [nodes_add, if_pos rfl]
  exact ⟨entry, hNew, hEntry, rfl, resolve_entry hHere hNode hLink⟩

/-- A passage adds the directories that it made and nothing else, and ends in a directory. -/
structure Passed (fs : FileSystem) (search : Location → Bool) (mode : Nat) (path : Route) (reached : Reached) :
    Prop where
  nodes : ∀ loc, reached.fs.nodes loc = if loc ∈ reached.made then some (.directory mode) else fs.nodes loc
  new : ∀ loc ∈ reached.made, fs.nodes loc = none
  landed : ∀ loc, reached.landing = some loc → reached.fs.directoryAt search path = some loc

theorem reach_passed (path : Route) : fs.Passed search mode path (fs.reach search permits mode path) := by
  induction path with
  | nil => exact ⟨by simp [reach], by simp [reach], fun loc h => by cases h; exact directoryAt_root⟩
  | cons name up ih =>
      unfold reach
      split
      case isTrue => exact ⟨by simp, by simp, nofun⟩
      case isFalse hName =>
        dsimp only
        generalize fs.reach search permits mode up = reached at ih
        obtain ⟨hNodes, hNew, hLanded⟩ := ih
        split
        case h_1 hNone =>
          refine ⟨hNodes, hNew, fun loc h => ?_⟩
          rw [hNone] at h
          cases h
        case h_2 parent hParent =>
          split
          case h_1 loc hAt =>
            refine ⟨hNodes, hNew, fun place h => ?_⟩
            cases h
            exact hAt
          case h_2 =>
            split
            case h_2 => exact ⟨hNodes, hNew, nofun⟩
            case h_1 after hCreate =>
              obtain ⟨entry, hFree, hEntry, rfl, hResolve⟩ := resolve_created hCreate rfl
              obtain ⟨up', hPath, hUp, -⟩ := entry_eq_ok hEntry
              obtain ⟨rfl, rfl⟩ := List.cons.inj hPath
              have hSame : entry.parent = parent := by
                have hAt := directoryAt_eq_some.mp (hLanded parent hParent)
                rw [hUp] at hAt
                exact Except.ok.inj hAt.1
              subst hSame
              have hOld : fs.nodes entry.location = none := by
                rw [hNodes] at hFree
                split at hFree
                · cases hFree
                · exact hFree
              refine ⟨fun loc => ?_, fun loc hLoc => ?_, fun loc h => ?_⟩
              · rw [nodes_add, hNodes]
                by_cases hLoc : loc = entry.location
                · simp [hLoc, Entry.location]
                · have hLoc' : loc ≠ entry.name :: entry.parent := hLoc
                  simp [hLoc, hLoc']
              · rcases List.mem_cons.mp hLoc with rfl | hLoc
                · exact hOld
                · exact hNew loc hLoc
              · cases h
                refine directoryAt_eq_some.mpr ⟨hResolve, ?_⟩
                rw [isDirectory_iff]
                exact ⟨mode, by rw [nodes_add]; exact if_pos rfl⟩

end FileSystem
end Files
