import DevcontainerBridge.Table.Lookup

/-! A search through pairs of keys and values that keeps the first value of
every wanted key. It may stop once it has as many keys as are wanted. -/
namespace Table

variable {Key Value : Type*} [DecidableEq Key]

/-- Keep the value of a wanted key that has none. -/
def record (wanted : Finset Key) (found : Map Key Value) (pair : Key × Value) : Map Key Value :=
  if pair.1 ∉ wanted ∨ pair.1 ∈ found then found else found.insert pair.1 pair.2

def collect (wanted : Finset Key) (found : Map Key Value) (pairs : List (Key × Value)) : Map Key Value :=
  pairs.foldl (record wanted) found

variable {wanted : Finset Key} {found : Map Key Value}

@[simp] theorem collect_nil : collect wanted found [] = found := rfl

@[simp] theorem collect_cons (pair : Key × Value) (pairs : List (Key × Value)) :
    collect wanted found (pair :: pairs) = collect wanted (record wanted found pair) pairs := rfl

theorem collect_append (pairs others : List (Key × Value)) :
    collect wanted found (pairs ++ others) = collect wanted (collect wanted found pairs) others :=
  List.foldl_append

theorem lookup_record (pair : Key × Value) (key : Key) :
    (record wanted found pair).lookup key =
      (found.lookup key).or (if key ∈ wanted then [pair].lookup key else none) := by
  unfold record
  obtain ⟨here, value⟩ := pair
  rw [List.lookup_cons]
  by_cases hKey : key = here
  · subst hKey
    by_cases hWanted : key ∈ wanted
    · cases hFound : found.lookup key with
      | none => simp [hWanted, hFound, ← Finmap.lookup_isSome]
      | some old => simp [hWanted, hFound, ← Finmap.lookup_isSome]
    · simp [hWanted]
  · rw [beq_false_of_ne hKey]
    split_ifs <;> simp [hKey]

/-- The search finds the first value of each wanted key. -/
theorem lookup_collect (pairs : List (Key × Value)) (key : Key) :
    (collect wanted found pairs).lookup key =
      (found.lookup key).or (if key ∈ wanted then pairs.lookup key else none) := by
  induction pairs generalizing found with
  | nil => simp
  | cons pair pairs ih =>
      rw [collect_cons, ih, lookup_record, Option.or_assoc]
      congr 1
      obtain ⟨here, value⟩ := pair
      rw [List.lookup_cons, List.lookup_cons]
      split_ifs
      · cases key == here <;> simp
      · rfl

/-- The same search through the pairs of wanted keys alone. -/
theorem lookup_filter_mem (pairs : List (Key × Value)) (key : Key) :
    (pairs.filter fun pair => pair.1 ∈ wanted).lookup key =
      if key ∈ wanted then pairs.lookup key else none := by
  induction pairs with
  | nil => simp
  | cons pair pairs ih =>
      obtain ⟨here, value⟩ := pair
      rw [List.lookup_cons, List.filter_cons]
      by_cases hKey : key = here
      · subst hKey
        by_cases hWanted : key ∈ wanted
        · simp [hWanted]
        · simpa [hWanted] using ih
      · rw [beq_false_of_ne hKey, ← ih]
        split_ifs
        · rw [List.lookup_cons, beq_false_of_ne hKey]
        · rfl

theorem lookup_map_const (keys : List Key) (value : Value) (key : Key) :
    (keys.map fun other => (other, value)).lookup key = if key ∈ keys then some value else none := by
  induction keys with
  | nil => rfl
  | cons other keys ih =>
      rw [List.map_cons, List.lookup_cons, ih]
      by_cases hKey : key = other
      · simp [hKey]
      · simp [beq_false_of_ne hKey, hKey]

/-- Only wanted keys are found. -/
theorem keys_record_subset (h : found.keys ⊆ wanted) (pair : Key × Value) :
    (record wanted found pair).keys ⊆ wanted := by
  unfold record
  split_ifs with hSkip
  · exact h
  · rw [not_or, not_not] at hSkip
    intro key hKey
    rcases Finmap.mem_insert.mp (Finmap.mem_keys.mp hKey) with rfl | hFound
    · exact hSkip.1
    · exact h (Finmap.mem_keys.mpr hFound)

theorem keys_collect_subset (h : found.keys ⊆ wanted) (pairs : List (Key × Value)) :
    (collect wanted found pairs).keys ⊆ wanted := by
  induction pairs generalizing found with
  | nil => exact h
  | cons pair pairs ih => exact ih (keys_record_subset h pair)

/-- A search that has found as many keys as are wanted may stop: the rest of
the pairs adds nothing. -/
theorem collect_of_complete (h : found.keys ⊆ wanted) (hCard : found.keys.card = wanted.card)
    (pairs : List (Key × Value)) : collect wanted found pairs = found := by
  have hAll : found.keys = wanted := Finset.eq_of_subset_of_card_le h hCard.ge
  induction pairs with
  | nil => rfl
  | cons pair pairs ih =>
      have hSkip : pair.1 ∉ wanted ∨ pair.1 ∈ found := by
        rw [← hAll, Finmap.mem_keys]
        exact (em _).symm
      rw [collect_cons, record, if_pos hSkip, ih]

end Table
