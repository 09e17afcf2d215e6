import DevcontainerBridge.Host.State
import DevcontainerBridge.Transition.Orbit

/-! The loop of `find_available_port`. From an unprivileged port the search
goes round the unprivileged ports and comes back to where it began. From a
privileged port it enters the same round and never comes back. -/
namespace DevcontainerBridge

open Table Transition

namespace HostState

/-- The port that the search turns to when `port` is in use. -/
def portAfter (preferred port : UInt16) : UInt16 :=
  if port + 1 < 1024 ∧ port + 1 ≠ preferred then 1024 else port + 1

/-- `find_available_port` returns a result, after any number of iterations. -/
def PortSearch (s : HostState) (preferred : UInt16) (result : Option UInt16) : Prop :=
  if preferred = 0 then result = none
  else ∃ fuel, searchPort s.usedHostPorts preferred fuel preferred = some result

/-- Every unprivileged port is in use. -/
def Exhausted (s : HostState) : Prop :=
  ∀ port, 1024 ≤ port → port ∈ s.usedHostPorts

/-- The unprivileged ports in a circle. -/
def ring (n : Nat) : UInt16 :=
  UInt16.ofNat (1024 + n % 64512)

variable {s : HostState} {preferred port : UInt16} {result : Option UInt16}

theorem searchPort_eq_walk (used : Map UInt16 String) (fuel : Nat) :
    searchPort used preferred fuel port = walk (portAfter preferred) (· ∈ used) preferred fuel port := by
  induction fuel generalizing port with
  | zero => rfl
  | succ fuel ih =>
      rw [searchPort, walk]
      dsimp only
      rw [ih]
      rfl

theorem toNat_ring (n : Nat) : (ring n).toNat = 1024 + n % 64512 := by
  unfold ring
  rw [UInt16.toNat_ofNat']
  omega

theorem ring_unprivileged (n : Nat) : 1024 ≤ ring n := by
  rw [UInt16.le_iff_toNat_le, toNat_ring]
  exact Nat.le_add_right 1024 _

theorem ring_toNat (h : 1024 ≤ port) : ring (port.toNat - 1024) = port := by
  have hPort := UInt16.le_iff_toNat_le.mp h
  have hSmall := port.toNat_lt
  have hLow : (1024 : UInt16).toNat = 1024 := rfl
  apply UInt16.toNat_inj.mp
  rw [toNat_ring]
  omega

theorem ring_eq_iff {m n : Nat} : ring m = ring n ↔ m % 64512 = n % 64512 := by
  rw [← UInt16.toNat_inj, toNat_ring, toNat_ring]
  omega

/-- The search goes on round the circle. -/
theorem portAfter_ring (hPreferred : preferred ≠ 0) (n : Nat) : portAfter preferred (ring n) = ring (n + 1) := by
  have hNext : (ring n + 1).toNat = (1024 + n % 64512 + 1) % 65536 := by
    rw [UInt16.toNat_add, toNat_ring]
    rfl
  have hLow : (1024 : UInt16).toNat = 1024 := rfl
  unfold portAfter
  by_cases hLast : n % 64512 = 64511
  · -- the number space wraps to zero, which is skipped
    have hZero : ring n + 1 = 0 := by
      apply UInt16.toNat_inj.mp
      rw [hNext, hLast]
      rfl
    rw [hZero, if_pos ⟨by decide, hPreferred.symm⟩]
    apply UInt16.toNat_inj.mp
    rw [toNat_ring]
    omega
  · have hHigh : ¬ring n + 1 < 1024 := by
      rw [UInt16.lt_iff_toNat_lt, hNext]
      omega
    rw [if_neg fun h => hHigh h.1]
    apply UInt16.toNat_inj.mp
    rw [hNext, toNat_ring]
    omega

theorem iterate_ring (hPreferred : preferred ≠ 0) (m n : Nat) :
    (portAfter preferred)^[m] (ring n) = ring (n + m) := by
  induction m generalizing n with
  | zero => rfl
  | succ m ih =>
      rw [Function.iterate_succ_apply, portAfter_ring hPreferred, ih]
      congr 1
      omega

/-- A privileged port is followed by the first port of the circle. -/
theorem portAfter_privileged (h : preferred < 1024) : portAfter preferred preferred = ring 0 := by
  have hSmall := UInt16.lt_iff_toNat_lt.mp h
  have hLow : (1024 : UInt16).toNat = 1024 := rfl
  have hNext : (preferred + 1).toNat = preferred.toNat + 1 := by
    rw [UInt16.toNat_add]
    show (preferred.toNat + 1) % 65536 = _
    omega
  unfold portAfter
  split_ifs with hSkip
  · rfl
  · have hLast : ¬preferred + 1 < 1024 := by
      intro hMore
      refine hSkip ⟨hMore, fun hSame => ?_⟩
      rw [hSame] at hNext
      omega
    rw [UInt16.lt_iff_toNat_lt, hNext] at hLast
    apply UInt16.toNat_inj.mp
    rw [hNext, toNat_ring]
    omega

/-- Behind a privileged port the search never leaves the circle. -/
theorem iterate_privileged (hPreferred : preferred ≠ 0) (h : preferred < 1024) (m : Nat) :
    (portAfter preferred)^[m + 1] preferred = ring m := by
  rw [Function.iterate_succ_apply, portAfter_privileged h, iterate_ring hPreferred, Nat.zero_add]

theorem iterate_unprivileged (h : 1024 ≤ preferred) (m : Nat) :
    (portAfter preferred)^[m] preferred = ring (preferred.toNat - 1024 + m) := by
  have hPreferred : preferred ≠ 0 := by
    rintro rfl
    exact absurd h (by decide)
  have hRing := iterate_ring hPreferred m (preferred.toNat - 1024)
  rwa [ring_toNat h] at hRing

theorem exhausted_iff : s.Exhausted ↔ ∀ n, ring n ∈ s.usedHostPorts := by
  constructor
  · exact fun h n => h (ring n) (ring_unprivileged n)
  · intro h port hPort
    rw [← ring_toNat hPort]
    exact h _

/-- The search does not come back before it has been round the circle, and
from a privileged port it does not come back at all. -/
theorem iterate_ne (hPreferred : preferred ≠ 0) {m : Nat} (h : m + 1 < 64512 ∨ preferred < 1024) :
    (portAfter preferred)^[m + 1] preferred ≠ preferred := by
  intro hReturns
  by_cases hLow : preferred < 1024
  · rw [iterate_privileged hPreferred hLow] at hReturns
    rw [← hReturns] at hLow
    exact absurd (ring_unprivileged m) (UInt16.not_le.mpr hLow)
  · have hHigh := UInt16.not_lt.mp hLow
    have hRound := h.resolve_right hLow
    rw [iterate_unprivileged hHigh] at hReturns
    nth_rewrite 2 [← ring_toNat hHigh] at hReturns
    have hSame := ring_eq_iff.mp hReturns
    omega

theorem passes_of_busy (hPreferred : preferred ≠ 0) {n : Nat} (hRound : n < 64512 ∨ preferred < 1024)
    (hBusy : ∀ m < n, (portAfter preferred)^[m] preferred ∈ s.usedHostPorts) :
    Passes (portAfter preferred) (· ∈ s.usedHostPorts) preferred n preferred :=
  fun m hm => ⟨hBusy m hm, iterate_ne hPreferred (hRound.imp_left fun h => by omega)⟩

/-- Every free unprivileged port is visited. -/
theorem exists_free (hPreferred : preferred ≠ 0) (h : ¬s.Exhausted) :
    ∃ n ≤ 64512, (n < 64512 ∨ preferred < 1024) ∧ (portAfter preferred)^[n] preferred ∉ s.usedHostPorts := by
  rw [exhausted_iff] at h
  obtain ⟨free, hFree⟩ := not_forall.mp h
  by_cases hLow : preferred < 1024
  · refine ⟨free % 64512 + 1, by omega, .inr hLow, ?_⟩
    rw [iterate_privileged hPreferred hLow, ring_eq_iff.mpr (Nat.mod_mod free 64512)]
    exact hFree
  · have hHigh := UInt16.not_lt.mp hLow
    have hSmall := preferred.toNat_lt
    let n := (free + 65536 * 64512 - (preferred.toNat - 1024)) % 64512
    have hSame : ring (preferred.toNat - 1024 + n) = ring free := ring_eq_iff.mpr (by omega)
    refine ⟨n, by omega, .inl (by omega), ?_⟩
    rw [iterate_unprivileged hHigh, hSame]
    exact hFree

/-- With a free port in reach the search ends at the first that it visits. -/
theorem searchPort_free (hPreferred : preferred ≠ 0) {n : Nat} (hRound : n < 64512 ∨ preferred < 1024)
    (hFree : (portAfter preferred)^[n] preferred ∉ s.usedHostPorts) :
    ∃ fuel ≤ n + 1, ∃ port, searchPort s.usedHostPorts preferred fuel preferred = some (some port) := by
  have hSome : ∃ n, (portAfter preferred)^[n] preferred ∉ s.usedHostPorts := ⟨n, hFree⟩
  have hFirst := Nat.find_min' hSome hFree
  refine ⟨Nat.find hSome + 1, by omega, (portAfter preferred)^[Nat.find hSome] preferred, ?_⟩
  rw [searchPort_eq_walk]
  apply walk_free _ (Nat.find_spec hSome)
  apply passes_of_busy hPreferred (hRound.imp_left fun h => by omega)
  intro m hm
  exact not_not.mp (Nat.find_min hSome hm)

/-- With no free port, the search from an unprivileged one goes once round. -/
theorem searchPort_exhausted (hHigh : 1024 ≤ preferred) (h : s.Exhausted) :
    searchPort s.usedHostPorts preferred 64512 preferred = some none := by
  have hPreferred : preferred ≠ 0 := by
    rintro rfl
    exact absurd hHigh (by decide)
  have hBusy : ∀ m, (portAfter preferred)^[m] preferred ∈ s.usedHostPorts := by
    intro m
    rw [iterate_unprivileged hHigh]
    exact exhausted_iff.mp h _
  rw [searchPort_eq_walk]
  apply walk_returned (passes_of_busy hPreferred (.inl (by decide)) fun m _ => hBusy m) (hBusy _)
  rw [iterate_unprivileged hHigh]
  nth_rewrite 2 [← ring_toNat hHigh]
  exact ring_eq_iff.mpr (by omega)

/-- With no free port, the search from a privileged one never ends. -/
theorem searchPort_hangs (hPreferred : preferred ≠ 0) (hLow : preferred < 1024)
    (hUsed : preferred ∈ s.usedHostPorts) (h : s.Exhausted) (fuel : Nat) :
    searchPort s.usedHostPorts preferred fuel preferred = none := by
  rw [searchPort_eq_walk]
  apply walk_eq_none fun n => passes_of_busy hPreferred (.inr hLow) fun m _ => ?_
  cases m with
  | zero => exact hUsed
  | succ m =>
      rw [iterate_privileged hPreferred hLow]
      exact exhausted_iff.mp h m

theorem portSearch_zero : s.PortSearch 0 none := by
  unfold PortSearch
  rw [if_pos rfl]

theorem portSearch_of_searchPort (hPreferred : preferred ≠ 0) {fuel : Nat}
    (h : searchPort s.usedHostPorts preferred fuel preferred = some result) : s.PortSearch preferred result := by
  unfold PortSearch
  rw [if_neg hPreferred]
  exact ⟨fuel, h⟩

end HostState

/-- The search ends with a port or, exactly where the preferred port and all
unprivileged ports are in use, without one, unless the preferred port is a
privileged one in that case. -/
theorem findAvailablePort_ends_iff (s : HostState) (preferred : UInt16) :
    (∃ result, s.PortSearch preferred result ∧ (result = none ↔ preferred = 0 ∨
      preferred ∈ s.usedHostPorts ∧ ∀ port, 1024 ≤ port → port ∈ s.usedHostPorts)) ↔
      ¬(preferred ≠ 0 ∧ preferred < 1024 ∧ preferred ∈ s.usedHostPorts ∧
        ∀ port, 1024 ≤ port → port ∈ s.usedHostPorts) := by
  by_cases hPreferred : preferred = 0
  · subst hPreferred
    refine iff_of_true ⟨none, HostState.portSearch_zero, ?_⟩ fun h => h.1 rfl
    exact iff_of_true rfl (.inl rfl)
  by_cases hUsed : preferred ∈ s.usedHostPorts
  · by_cases hExhausted : s.Exhausted
    · by_cases hLow : preferred < 1024
      · refine iff_of_false ?_ fun h => h ⟨hPreferred, hLow, hUsed, hExhausted⟩
        rintro ⟨result, hSearch, -⟩
        rw [HostState.PortSearch, if_neg hPreferred] at hSearch
        obtain ⟨fuel, hFuel⟩ := hSearch
        rw [HostState.searchPort_hangs hPreferred hLow hUsed hExhausted] at hFuel
        cases hFuel
      · have hFull := HostState.searchPort_exhausted (UInt16.not_lt.mp hLow) hExhausted
        refine iff_of_true ⟨none, HostState.portSearch_of_searchPort hPreferred hFull, ?_⟩ fun h => hLow h.2.1
        exact iff_of_true rfl (.inr ⟨hUsed, hExhausted⟩)
    · obtain ⟨n, -, hRound, hFree⟩ := HostState.exists_free hPreferred hExhausted
      obtain ⟨fuel, -, port, hFound⟩ := HostState.searchPort_free hPreferred hRound hFree
      refine iff_of_true ⟨some port, HostState.portSearch_of_searchPort hPreferred hFound, ?_⟩
        fun h => hExhausted h.2.2.2
      refine iff_of_false (fun hNone => nomatch hNone) ?_
      rintro (hZero | hFull)
      · exact hPreferred hZero
      · exact hExhausted hFull.2
  · obtain ⟨fuel, -, port, hFound⟩ :=
      HostState.searchPort_free (n := 0) hPreferred (.inl (by decide)) hUsed
    refine iff_of_true ⟨some port, HostState.portSearch_of_searchPort hPreferred hFound, ?_⟩
      fun h => hUsed h.2.2.1
    refine iff_of_false (fun hNone => nomatch hNone) ?_
    rintro (hZero | hFull)
    · exact hPreferred hZero
    · exact hUsed hFull.1

/-- Every port is in use. -/
def crowdedState : HostState :=
  { HostState.new with
    usedHostPorts := ((List.range 65536).map fun n => ⟨UInt16.ofNat n, "c"⟩).toFinmap }

/-- With every port in use, the search for port 80 never ends. -/
theorem findAvailablePort_hangs : ¬∃ result, crowdedState.PortSearch 80 result := by
  have hAll : ∀ port, port ∈ crowdedState.usedHostPorts := by
    intro port
    have hKey : port ∈ ((List.range 65536).map fun n => (⟨UInt16.ofNat n, "c"⟩ : Σ _ : UInt16, String)).keys := by
      rw [List.keys, List.map_map]
      exact List.mem_map.mpr ⟨port.toNat, List.mem_range.mpr port.toNat_lt, UInt16.ofNat_toNat⟩
    apply Finmap.lookup_isSome.mp
    show (Finmap.lookup port (List.toFinmap _)).isSome = true
    rw [Finmap.dlookup_list_toFinmap]
    exact List.dlookup_isSome.mpr hKey
  rintro ⟨result, hSearch⟩
  rw [HostState.PortSearch, if_neg (by decide)] at hSearch
  obtain ⟨fuel, hFuel⟩ := hSearch
  rw [HostState.searchPort_hangs (by decide) (by decide) (hAll 80) fun port _ => hAll port] at hFuel
  cases hFuel

end DevcontainerBridge
