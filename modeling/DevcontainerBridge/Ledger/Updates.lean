import Mathlib.Data.List.Induction
import Mathlib.Data.Option.Basic

/-! Updates on their way to a mirror of a set. An update adds a key or takes
it away, so only the last one about a key decides on it. -/
namespace Ledger

variable {Key : Type*} [DecidableEq Key]

/-- Membership of one key after one update. -/
def applyUpdate (key : Key) (present : Bool) (update : Key × Bool) : Bool :=
  if update.1 = key then update.2 else present

/-- Membership of one key after updates in order. -/
def applyUpdates (key : Key) (present : Bool) (updates : List (Key × Bool)) : Bool :=
  updates.foldl (applyUpdate key) present

/-- What the last update about a key says. -/
def lastWord (key : Key) (updates : List (Key × Bool)) : Option Bool :=
  updates.foldl (fun last update => if update.1 = key then some update.2 else last) none

variable {key : Key} {update : Key × Bool} {left right updates : List (Key × Bool)}

@[simp] theorem lastWord_nil : lastWord key ([] : List (Key × Bool)) = none := rfl

theorem foldl_lastWord (updates : List (Key × Bool)) (start : Option Bool) :
    updates.foldl (fun last update => if update.1 = key then some update.2 else last) start =
      (lastWord key updates).or start := by
  unfold lastWord
  induction updates generalizing start with
  | nil => rfl
  | cons update updates ih =>
      rw [List.foldl_cons, List.foldl_cons, ih, ih (if update.1 = key then some update.2 else none)]
      split_ifs
      · rw [Option.or_assoc, Option.some_or]
      · rw [Option.or_none]

theorem lastWord_append : lastWord key (left ++ right) = (lastWord key right).or (lastWord key left) := by
  unfold lastWord
  rw [List.foldl_append, foldl_lastWord]
  rfl

theorem lastWord_singleton (update : Key × Bool) :
    lastWord key [update] = if update.1 = key then some update.2 else none := rfl

theorem lastWord_concat :
    lastWord key (left ++ [update]) = if update.1 = key then some update.2 else lastWord key left := by
  rw [lastWord_append, lastWord_singleton]
  split_ifs <;> rfl

/-- The first update counts where no later one is about its key. -/
theorem lastWord_cons :
    lastWord key (update :: right) =
      (lastWord key right).or (if update.1 = key then some update.2 else none) := by
  rw [← List.singleton_append, lastWord_append, lastWord_singleton]

@[simp] theorem applyUpdates_nil (present : Bool) : applyUpdates key present [] = present := rfl

theorem applyUpdates_append (present : Bool) :
    applyUpdates key present (left ++ right) = applyUpdates key (applyUpdates key present left) right :=
  List.foldl_append

theorem applyUpdates_cons (present : Bool) :
    applyUpdates key present (update :: updates) = applyUpdates key (applyUpdate key present update) updates :=
  rfl

/-- Applying updates means believing the last word, if there is one. -/
theorem applyUpdates_eq (present : Bool) :
    applyUpdates key present updates = (lastWord key updates).getD present := by
  induction updates using List.reverseRecOn with
  | nil => rfl
  | append_singleton updates update ih =>
      rw [applyUpdates_append, lastWord_concat, ih]
      show (if update.1 = key then update.2 else _) = _
      split_ifs <;> rfl

/-- An update counts once, however often it arrives in a row. -/
theorem applyUpdates_replicate (present : Bool) (update : Key × Bool) (count : Nat) :
    applyUpdates key present (List.replicate (count + 1) update) = applyUpdate key present update := by
  induction count with
  | zero => rfl
  | succ count ih =>
      rw [List.replicate_succ', applyUpdates_append, ih]
      show (if update.1 = key then update.2 else if update.1 = key then update.2 else present) = _
      unfold applyUpdate
      split_ifs <;> rfl

/-- Every one of some updates arrives a number of times in a row. -/
theorem applyUpdates_flatMap_replicate (present : Bool) (updates : List (Key × Bool)) (count : Nat) :
    applyUpdates key present (updates.flatMap fun update => List.replicate (count + 1) update) =
      applyUpdates key present updates := by
  induction updates generalizing present with
  | nil => rfl
  | cons update updates ih =>
      rw [List.flatMap_cons, applyUpdates_append, applyUpdates_replicate, ih, applyUpdates_cons]

/-- The updates lead from the empty set to the set `members`. -/
def Builds (members : Key → Bool) (updates : List (Key × Bool)) : Prop :=
  ∀ key, applyUpdates key false updates = members key

/-- The updates are old news to somebody who knows `members`. -/
def Confirms (members : Key → Bool) (updates : List (Key × Bool)) : Prop :=
  ∀ key, applyUpdates key (members key) updates = members key

variable {members : Key → Bool}

theorem Confirms.nil : Confirms members [] := fun _ => rfl

/-- The set changes and whoever follows it is told. -/
theorem Builds.extend (h : Builds members left) (right : List (Key × Bool)) :
    Builds (fun key => applyUpdates key (members key) right) (left ++ right) := by
  intro key
  rw [applyUpdates_append, h key]

theorem Confirms.extend (h : Confirms members left) (right : List (Key × Bool)) :
    Confirms (fun key => applyUpdates key (members key) right) (left ++ right) := by
  intro key
  have hRight : ∀ present, applyUpdates key present right = (lastWord key right).getD present :=
    fun present => applyUpdates_eq present
  rw [applyUpdates_append]
  simp only [hRight]
  cases lastWord key right with
  | none => exact h key
  | some value => rfl

/-- A snapshot of the set comes before updates that it takes into account. -/
theorem Confirms.prepend (h : Confirms members right) (hSnapshot : Builds members left) :
    Builds members (left ++ right) := by
  intro key
  rw [applyUpdates_append, hSnapshot key, h key]

/-- One set is followed as another one that has the same members. -/
theorem Builds.congr {others : Key → Bool} (h : Builds members updates)
    (hSame : ∀ key, others key = members key) : Builds others updates :=
  fun key => (h key).trans (hSame key).symm

theorem Confirms.congr {others : Key → Bool} (h : Confirms members updates)
    (hSame : ∀ key, others key = members key) : Confirms others updates := by
  intro key
  rw [hSame key]
  exact h key

theorem mem_of_lastWord {value : Bool} (h : lastWord key updates = some value) :
    (key, value) ∈ updates := by
  induction updates using List.reverseRecOn with
  | nil => cases h
  | append_singleton updates update ih =>
      rw [lastWord_concat] at h
      split_ifs at h with hKey
      · cases h
        rw [← hKey]
        exact List.mem_append_right updates (List.mem_singleton_self update)
      · exact List.mem_append_left [update] (ih h)

end Ledger
