import Mathlib.Data.Set.Card
import Mathlib.Logic.Function.Basic

/-! A limit on the entries of a table that is checked in an earlier step than
the one that makes the entry. Between the two steps the key is pending. The
check sees the entries but no pending keys. -/
namespace Transition

variable {Task Key : Type*}

/-- The keys that are in the table and those that are still to be entered. -/
def committed (entered : Set Key) (pending : Task → Option Key) : Set Key :=
  {key | key ∈ entered ∨ ∃ task, pending task = some key}

/-- If the check lets a new key pass while some key is pending, then the other
keys, entered or pending, leave room for it. -/
def OverlapFits (limit : Nat) (entered : Set Key) (pending : Task → Option Key) (key : Key) : Prop :=
  key ∉ entered → entered.encard < limit → (∃ task, (pending task).isSome) →
    {other | other ∈ committed entered pending ∧ other ≠ key}.encard < limit

/-- What one step does to the pending key of its task. -/
inductive Admission (limit : Nat) (entered : Set Key) (before : Option Key) : Option Key → Prop where
  | ended : Admission limit entered before none
  | kept : Admission limit entered before before
  | passed {key : Key} (hCheck : key ∈ entered ∨ entered.encard < limit) :
      Admission limit entered before (some key)

variable {limit : Nat} {entered : Set Key} {pending : Task → Option Key} {key : Key}

/-- With nothing pending the check sees all there is. -/
theorem committed_of_pending_none (h : ∀ task, pending task = none) : committed entered pending = entered := by
  ext key
  simp [committed, h]

/-- A new key that passes the check fits, provided that the overlap fits. -/
theorem encard_insert_committed_le (hBound : (committed entered pending).encard ≤ limit)
    (hCheck : key ∈ entered ∨ entered.encard < limit) (hFits : OverlapFits limit entered pending key) :
    (insert key (committed entered pending)).encard ≤ limit := by
  by_cases hEntered : key ∈ entered
  · rwa [Set.insert_eq_of_mem (.inl hEntered)]
  have hRoom := hCheck.resolve_left hEntered
  by_cases hPending : ∃ task, (pending task).isSome
  · have hOthers := hFits hEntered hRoom hPending
    have hInsert : insert key (committed entered pending) ⊆
        insert key {other | other ∈ committed entered pending ∧ other ≠ key} := by
      intro other hOther
      by_cases hKey : other = key
      · exact .inl hKey
      · exact .inr ⟨hOther.resolve_left hKey, hKey⟩
    calc
      (insert key (committed entered pending)).encard
        ≤ {other | other ∈ committed entered pending ∧ other ≠ key}.encard + 1 :=
          (Set.encard_le_encard hInsert).trans (Set.encard_insert_le _ _)
      _ ≤ limit := Order.add_one_le_of_lt hOthers
  · have hNone : ∀ task, pending task = none := by
      intro task
      cases hTask : pending task with
      | none => rfl
      | some other => exact absurd ⟨task, by rw [hTask]; rfl⟩ hPending
    rw [committed_of_pending_none hNone]
    exact (Set.encard_insert_le _ _).trans (Order.add_one_le_of_lt hRoom)

/-- One step keeps the limit over entered and pending keys together. It enters
no key but the pending one of its task. -/
theorem committed_step [DecidableEq Task] {after : Set Key} {task : Task} {next : Option Key}
    (hBound : (committed entered pending).encard ≤ limit)
    (hEntered : ∀ key ∈ after, key ∈ entered ∨ pending task = some key)
    (hMove : Admission limit entered (pending task) next)
    (hFits : ∀ key, next = some key → pending task ≠ some key → OverlapFits limit entered pending key) :
    (committed after (Function.update pending task next)).encard ≤ limit := by
  have hAfter : ∀ key ∈ committed after (Function.update pending task next),
      key ∈ committed entered pending ∨ next = some key := by
    rintro key (hKey | ⟨other, hOther⟩)
    · exact .inl ((hEntered key hKey).imp_right fun hPending => ⟨task, hPending⟩)
    · by_cases hHere : other = task
      · rw [hHere, Function.update_self] at hOther
        exact .inr hOther
      · rw [Function.update_of_ne hHere] at hOther
        exact .inl (.inr ⟨other, hOther⟩)
  cases hMove with
  | ended =>
      refine (Set.encard_le_encard fun key hKey => ?_).trans hBound
      exact (hAfter key hKey).resolve_right (by simp)
  | kept =>
      refine (Set.encard_le_encard fun key hKey => ?_).trans hBound
      exact (hAfter key hKey).elim id fun hPending => .inr ⟨task, hPending⟩
  | @passed key hCheck =>
      by_cases hSame : pending task = some key
      · refine (Set.encard_le_encard fun other hOther => ?_).trans hBound
        exact (hAfter other hOther).elim id fun hPending => .inr ⟨task, hSame.trans hPending⟩
      · refine (Set.encard_le_encard fun other hOther => ?_).trans
          (encard_insert_committed_le hBound hCheck (hFits key rfl hSame))
        exact (hAfter other hOther).elim .inr fun hNew => .inl (Option.some.inj hNew).symm

/-- The overlap fits where few tasks can have anything pending. -/
theorem overlapFits_of_few {tasks : Finset Task} (hOthers : ∀ task ∉ tasks, pending task = none)
    (hFew : entered.encard + tasks.card < limit) : OverlapFits limit entered pending key := by
  intro _ _ _
  refine lt_of_le_of_lt ?_ hFew
  have hSubset : {other | other ∈ committed entered pending ∧ other ≠ key} ⊆
      entered ∪ (fun task => (pending task).getD key) '' (tasks : Set Task) := by
    rintro other ⟨hEntered | ⟨task, hTask⟩, -⟩
    · exact .inl hEntered
    · refine .inr ⟨task, ?_, by simp [hTask]⟩
      by_contra hTask'
      rw [hOthers task hTask'] at hTask
      cases hTask
  refine (Set.encard_le_encard hSubset).trans ((Set.encard_union_le _ _).trans ?_)
  gcongr
  exact (Set.encard_image_le _ _).trans_eq (Set.encard_coe_eq_coe_finsetCard tasks)

end Transition
