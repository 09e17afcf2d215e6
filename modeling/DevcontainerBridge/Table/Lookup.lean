import Mathlib.Data.Finmap

/-! Finite maps with a fixed value type, as a program's hash maps use them.
The `lookup` lemmas take one conditional form each, so that `simp` computes
every lookup after an update. Bulk removal does not depend on the order in
which a hash map is enumerated. -/
namespace Table

variable {Key Value Index Entry : Type*}

/-- A finite map from keys to values. -/
abbrev Map (Key Value : Type*) := Finmap fun _ : Key => Value

/-- A list is one of the orders in which the map can be enumerated. -/
def Enumerates (order : List (Σ _ : Key, Value)) (table : Map Key Value) : Prop :=
  (order : Multiset (Σ _ : Key, Value)) = table.entries

theorem exists_enumerates (table : Map Key Value) : ∃ order, Enumerates order table :=
  ⟨table.entries.toList, Multiset.coe_toList _⟩

/-- A fold over a map is the fold over any of its enumerations. -/
theorem foldl_eq_foldl {Result : Type*} {step : Result → Key → Value → Result}
    {comm : ∀ r k v k' v', step (step r k v) k' v' = step (step r k' v') k v} {table : Map Key Value}
    {order : List (Σ _ : Key, Value)} (h : Enumerates order table) (start : Result) :
    table.foldl step comm start = order.foldl (fun acc item => step acc item.1 item.2) start := by
  unfold Enumerates at h
  unfold Finmap.foldl
  rw [← h, Multiset.coe_foldl]

theorem all_eq_all (test : Key → Value → Bool) {table : Map Key Value}
    {order : List (Σ _ : Key, Value)} (h : Enumerates order table) :
    table.all test = order.all fun item => test item.1 item.2 := by
  have hFold : ∀ start, order.foldl (fun acc item => acc && test item.1 item.2) start =
      (start && order.all fun item => test item.1 item.2) := by
    clear h
    induction order with
    | nil => simp
    | cons item order ih =>
        intro start
        rw [List.foldl_cons, ih, List.all_cons, Bool.and_assoc]
  unfold Finmap.all
  rw [foldl_eq_foldl h, hFold, Bool.true_and]

theorem any_eq_any (test : Key → Value → Bool) {table : Map Key Value}
    {order : List (Σ _ : Key, Value)} (h : Enumerates order table) :
    table.any test = order.any fun item => test item.1 item.2 := by
  have hFold : ∀ start, order.foldl (fun acc item => acc || test item.1 item.2) start =
      (start || order.any fun item => test item.1 item.2) := by
    clear h
    induction order with
    | nil => simp
    | cons item order ih =>
        intro start
        rw [List.foldl_cons, ih, List.any_cons, Bool.or_assoc]
  unfold Finmap.any
  rw [foldl_eq_foldl h, hFold, Bool.false_or]

variable [DecidableEq Key]

instance [DecidableEq Value] (order : List (Σ _ : Key, Value)) (table : Map Key Value) :
    Decidable (Enumerates order table) :=
  inferInstanceAs (Decidable (_ = _))

theorem mem_of_enumerates {order : List (Σ _ : Key, Value)} {table : Map Key Value}
    (h : Enumerates order table) (key : Key) (value : Value) :
    ⟨key, value⟩ ∈ order ↔ table.lookup key = some value := by
  rw [Finmap.lookup_eq_some_iff, ← h, Multiset.mem_coe]

theorem any_iff (test : Key → Value → Bool) (table : Map Key Value) :
    table.any test = true ↔ ∃ key value, table.lookup key = some value ∧ test key value = true := by
  obtain ⟨order, hOrder⟩ := exists_enumerates table
  rw [any_eq_any test hOrder, List.any_eq_true]
  constructor
  · rintro ⟨⟨key, value⟩, hMember, hTest⟩
    exact ⟨key, value, (mem_of_enumerates hOrder key value).mp hMember, hTest⟩
  · rintro ⟨key, value, hLookup, hTest⟩
    exact ⟨⟨key, value⟩, (mem_of_enumerates hOrder key value).mpr hLookup, hTest⟩

/-- An enumeration meets each key once. -/
theorem filter_key {order : List (Σ _ : Key, Value)} {table : Map Key Value} (h : Enumerates order table)
    (key : Key) :
    order.filter (fun entry => entry.1 = key) = ((table.lookup key).map fun value => ⟨key, value⟩).toList := by
  have hKeys : (order.map Sigma.fst).Nodup := by
    have hNodup := table.nodupKeys
    rw [← Multiset.nodup_keys, ← h] at hNodup
    exact Multiset.coe_nodup.mp hNodup
  cases hLookup : table.lookup key with
  | none =>
      apply List.filter_eq_nil_iff.mpr
      intro entry hEntry hSame
      obtain rfl := of_decide_eq_true hSame
      rw [(mem_of_enumerates h entry.1 entry.2).mp hEntry] at hLookup
      cases hLookup
  | some value =>
      obtain ⟨before, later, rfl⟩ := List.append_of_mem ((mem_of_enumerates h key value).mpr hLookup)
      rw [List.map_append, List.map_cons, List.nodup_append] at hKeys
      obtain ⟨-, hLater, hBefore⟩ := hKeys
      have hNone : before.filter (fun entry => entry.1 = key) = [] := by
        apply List.filter_eq_nil_iff.mpr
        intro entry hEntry hSame
        exact hBefore entry.1 (List.mem_map_of_mem hEntry) key List.mem_cons_self (of_decide_eq_true hSame)
      have hNoMore : later.filter (fun entry => entry.1 = key) = [] := by
        apply List.filter_eq_nil_iff.mpr
        intro entry hEntry hSame
        have hMember : entry.1 ∈ later.map Sigma.fst := List.mem_map_of_mem hEntry
        rw [of_decide_eq_true hSame] at hMember
        exact (List.nodup_cons.mp hLater).1 hMember
      rw [List.filter_append, List.filter_cons, hNone, hNoMore, if_pos (decide_eq_true rfl)]
      rfl

/-- Any present key can come first in an enumeration. -/
theorem exists_enumerates_cons {table : Map Key Value} {key : Key} {value : Value}
    (h : table.lookup key = some value) :
    ∃ rest, Enumerates (⟨key, value⟩ :: rest) table := by
  obtain ⟨others, hOthers⟩ := Multiset.exists_cons_of_mem (Finmap.lookup_eq_some_iff.mp h)
  exact ⟨others.toList, by rw [Enumerates, hOthers, ← Multiset.cons_coe, Multiset.coe_toList]⟩

@[simp] theorem lookup_insert (table : Map Key Value) (key other : Key) (value : Value) :
    (table.insert key value).lookup other = if other = key then some value else table.lookup other := by
  by_cases h : other = key
  · subst h
    simp
  · simp [Finmap.lookup_insert_of_ne, h]

@[simp] theorem lookup_erase (table : Map Key Value) (key other : Key) :
    (table.erase key).lookup other = if other = key then none else table.lookup other := by
  by_cases h : other = key
  · subst h
    simp
  · simp [Finmap.lookup_erase_ne, h]

/-- A key that was absent makes the map one larger. -/
theorem card_keys_insert_of_notMem (table : Map Key Value) (key : Key) (value : Value)
    (h : table.lookup key = none) :
    (table.insert key value).keys.card = table.keys.card + 1 := by
  have hKeys : (table.insert key value).keys = insert key table.keys := by
    ext other
    simp [Finmap.mem_keys, Finmap.mem_insert]
  rw [hKeys, Finset.card_insert_of_notMem]
  rwa [Finmap.mem_keys, ← Finmap.lookup_eq_none]

/-- A key that was present leaves the size as it was. -/
theorem card_keys_insert_of_mem (table : Map Key Value) (key : Key) (value old : Value)
    (h : table.lookup key = some old) :
    (table.insert key value).keys.card = table.keys.card := by
  have hKeys : (table.insert key value).keys = table.keys := by
    ext other
    simp only [Finmap.mem_keys, Finmap.mem_insert, or_iff_right_iff_imp]
    rintro rfl
    exact Finmap.mem_of_lookup_eq_some h
  rw [hKeys]

theorem card_keys_erase_le (table : Map Key Value) (key : Key) :
    (table.erase key).keys.card ≤ table.keys.card := by
  rw [Finmap.keys_erase]
  exact Finset.card_erase_le

/-- Keep the entries that satisfy a predicate. -/
def retain (keep : Key → Value → Bool) (table : Map Key Value) : Map Key Value where
  entries := table.entries.filter fun entry => keep entry.1 entry.2
  nodupKeys := by
    rw [← Multiset.nodup_keys]
    have hKeys : (Multiset.filter (fun entry => keep entry.1 entry.2) table.entries).keys ≤
        table.entries.keys := Multiset.map_le_map (Multiset.filter_le _ _)
    exact Multiset.nodup_of_le hKeys (Multiset.nodup_keys.mpr table.nodupKeys)

theorem lookup_retain (keep : Key → Value → Bool) (table : Map Key Value) (key : Key) (value : Value) :
    (retain keep table).lookup key = some value ↔
      table.lookup key = some value ∧ keep key value = true := by
  simp only [Finmap.lookup_eq_some_iff, retain, Multiset.mem_filter]

/-- Remove from `target` the key that `select` names for each entry of
`source`. Removals commute, so the order of enumeration is irrelevant. -/
def eraseEach (select : Index → Entry → Key) (source : Map Index Entry)
    (target : Map Key Value) : Map Key Value :=
  source.foldl (fun rest index entry => rest.erase (select index entry))
    (fun _ _ _ _ _ => Finmap.erase_erase) target

theorem lookup_foldl_erase (select : Index → Entry → Key)
    (order : List (Σ _ : Index, Entry)) (target : Map Key Value) (key : Key) (value : Value) :
    (order.foldl (fun rest item => rest.erase (select item.1 item.2)) target).lookup key =
        some value ↔
      target.lookup key = some value ∧ ∀ item ∈ order, select item.1 item.2 ≠ key := by
  induction order generalizing target with
  | nil => simp
  | cons item rest ih =>
      rw [List.foldl_cons, ih]
      simp only [lookup_erase, List.mem_cons, forall_eq_or_imp]
      by_cases hKey : key = select item.1 item.2
      · simp [hKey]
      · simp [hKey, Ne.symm hKey]

/-- What remains after a bulk removal is what no entry of `source` names. -/
theorem lookup_eraseEach [DecidableEq Index] (select : Index → Entry → Key) (source : Map Index Entry)
    (target : Map Key Value) (key : Key) (value : Value) :
    (eraseEach select source target).lookup key = some value ↔
      target.lookup key = some value ∧
        ∀ index entry, source.lookup index = some entry → select index entry ≠ key := by
  obtain ⟨order, hOrder⟩ := exists_enumerates source
  unfold eraseEach
  rw [foldl_eq_foldl hOrder, lookup_foldl_erase]
  refine and_congr_right fun _ => ⟨?_, ?_⟩
  · intro h index entry hEntry
    exact h ⟨index, entry⟩ ((mem_of_enumerates hOrder index entry).mpr hEntry)
  · rintro h ⟨index, entry⟩ hItem
    exact h index entry ((mem_of_enumerates hOrder index entry).mp hItem)

/-- Bulk removals commute with each other. -/
theorem eraseEach_comm [DecidableEq Index] (select other : Index → Entry → Key)
    (first second : Map Index Entry) (target : Map Key Value) :
    eraseEach other second (eraseEach select first target) =
      eraseEach select first (eraseEach other second target) := by
  apply Finmap.ext_lookup
  intro key
  apply Option.ext
  intro value
  simp only [lookup_eraseEach, and_right_comm]

end Table
