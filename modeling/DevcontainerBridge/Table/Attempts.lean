import Mathlib.Data.List.Basic

/-! A search that tries keys in order. A key that is of no use is skipped, and
the search ends with the first one that is found or fails. -/
namespace Table

/-- How trying a key ends. -/
inductive Tried (Value Error : Type*) where
  | found (value : Value)
  | skipped
  | failed (error : Error)
  deriving DecidableEq

variable {Key Other Value Error : Type*}

/-- The outcome of a first try, or that of a second one where it is skipped. -/
def Tried.orElse {Value Error : Type*} (first second : Tried Value Error) : Tried Value Error :=
  match first with
  | .skipped => second
  | outcome => outcome

variable {Key Other Value Error : Type*}

def search (attempt : Key → Tried Value Error) : List Key → Tried Value Error
  | [] => .skipped
  | key :: keys => (attempt key).orElse (search attempt keys)

variable {attempt : Key → Tried Value Error} {keys : List Key} {outcome : Tried Value Error}

theorem Tried.orElse_assoc (first second third : Tried Value Error) :
    (first.orElse second).orElse third = first.orElse (second.orElse third) := by
  cases first <;> rfl

theorem Tried.orElse_eq {first : Tried Value Error} (h : first ≠ .skipped) (second : Tried Value Error) :
    first.orElse second = first := by
  cases first with
  | skipped => exact absurd rfl h
  | found value => rfl
  | failed error => rfl

theorem search_append (attempt : Key → Tried Value Error) (keys others : List Key) :
    search attempt (keys ++ others) = (search attempt keys).orElse (search attempt others) := by
  induction keys with
  | nil => rfl
  | cons key keys ih => rw [List.cons_append, search, search, ih, Tried.orElse_assoc]

/-- A search through lists of keys, one list for each outer key, is one search
through all of them. -/
theorem search_flatMap (attempt : Key → Tried Value Error) (inner : Other → List Key) (others : List Other) :
    search (fun other => search attempt (inner other)) others = search attempt (others.flatMap inner) := by
  induction others with
  | nil => rfl
  | cons other others ih => rw [List.flatMap_cons, search_append, search, ih]

theorem search_skipped (h : ∀ key ∈ keys, attempt key = .skipped) : search attempt keys = .skipped := by
  induction keys with
  | nil => rfl
  | cons key keys ih =>
      rw [search, h key List.mem_cons_self]
      exact ih fun other hOther => h other (List.mem_cons_of_mem key hOther)

/-- The search ends with a key behind keys that were skipped. -/
theorem search_eq_iff (hEnds : outcome ≠ .skipped) : search attempt keys = outcome ↔
    ∃ before key after, keys = before ++ key :: after ∧ (∀ other ∈ before, attempt other = .skipped) ∧
      attempt key = outcome := by
  constructor
  · intro h
    induction keys with
    | nil => exact absurd h.symm hEnds
    | cons key keys ih =>
        rw [search] at h
        by_cases hKey : attempt key = .skipped
        · rw [hKey] at h
          obtain ⟨before, found, after, rfl, hBefore, hFound⟩ := ih h
          exact ⟨key :: before, found, after, rfl, List.forall_mem_cons.mpr ⟨hKey, hBefore⟩, hFound⟩
        · rw [Tried.orElse_eq hKey] at h
          exact ⟨[], key, keys, rfl, nofun, h⟩
  · rintro ⟨before, key, after, rfl, hBefore, rfl⟩
    rw [search_append, search_skipped hBefore, search]
    exact Tried.orElse_eq hEnds _

end Table
