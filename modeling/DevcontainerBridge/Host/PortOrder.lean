import DevcontainerBridge.Host.PortSearch

/-! Which port `find_available_port` chooses. The ports that the search visits
are compared with the order in which they are documented to be tried. -/
namespace DevcontainerBridge

open Table Transition

namespace HostState

/-- The ports that are tried when an unprivileged port is in use: those above
it, then the unprivileged ones below it. -/
def searchOrder (preferred : UInt16) : List UInt16 :=
  (List.range' (preferred.toNat + 1) (65535 - preferred.toNat) ++
    List.range' 1024 (preferred.toNat - 1024)).map UInt16.ofNat

variable {s : HostState} {preferred port : UInt16}

/-- The order is one round of the circle, less the port that it starts at. -/
theorem searchOrder_eq_ring (h : 1024 ≤ preferred) :
    searchOrder preferred = (List.range 64511).map fun m => ring (preferred.toNat - 1024 + (m + 1)) := by
  have hHigh := UInt16.le_iff_toNat_le.mp h
  have hLow : (1024 : UInt16).toNat = 1024 := rfl
  have hSmall := preferred.toNat_lt
  unfold searchOrder
  apply List.ext_getElem
  · rw [List.length_map, List.length_append, List.length_range', List.length_range', List.length_map,
      List.length_range]
    omega
  · intro m hLeft hRight
    rw [List.length_map, List.length_range] at hRight
    rw [List.getElem_map, List.getElem_map, List.getElem_range, List.getElem_append]
    apply UInt16.toNat_inj.mp
    rw [UInt16.toNat_ofNat', toNat_ring]
    split_ifs with hAbove
    · rw [List.length_range'] at hAbove
      rw [List.getElem_range']
      omega
    · rw [List.length_range'] at hAbove
      rw [List.getElem_range', List.length_range']
      omega

theorem searchOrder_eq_iterate (h : 1024 ≤ preferred) :
    searchOrder preferred = (List.range 64511).map fun m => (portAfter preferred)^[m + 1] preferred := by
  rw [searchOrder_eq_ring h]
  apply List.map_congr_left
  intro m _
  exact (iterate_unprivileged h (m + 1)).symm

/-- A port that is found is the first free one that the search visits. -/
theorem PortSearch.first (h : s.PortSearch preferred (some port)) :
    preferred ≠ 0 ∧ ∃ n, port = (portAfter preferred)^[n] preferred ∧ port ∉ s.usedHostPorts ∧
      Passes (portAfter preferred) (· ∈ s.usedHostPorts) preferred n preferred := by
  unfold PortSearch at h
  split_ifs at h with hZero
  obtain ⟨fuel, hFuel⟩ := h
  rw [searchPort_eq_walk] at hFuel
  obtain ⟨n, -, hPasses, hEnd⟩ := walk_cases hFuel
  rcases hEnd with ⟨hFree, hPort⟩ | ⟨-, -, hNone⟩
  · rw [← Option.some.inj hPort] at hFree
    exact ⟨hZero, n, Option.some.inj hPort, hFree, hPasses⟩
  · cases hNone

/-- Round the circle a search never passes the port that it started at. -/
theorem passes_le (h : 1024 ≤ preferred) {n : Nat}
    (hPasses : Passes (portAfter preferred) (· ∈ s.usedHostPorts) preferred n preferred) : n ≤ 64511 := by
  by_contra hFar
  apply (hPasses 64511 (by omega)).2
  rw [iterate_unprivileged h]
  nth_rewrite 2 [← ring_toNat h]
  exact ring_eq_iff.mpr (by omega)

/-- Behind an unprivileged port the first free one in order is found. -/
theorem find?_searchOrder (h : 1024 ≤ preferred) {m : Nat}
    (hFree : (portAfter preferred)^[m + 1] preferred ∉ s.usedHostPorts)
    (hPasses : Passes (portAfter preferred) (· ∈ s.usedHostPorts) preferred (m + 1) preferred) :
    (searchOrder preferred).find? (· ∉ s.usedHostPorts) = some ((portAfter preferred)^[m + 1] preferred) := by
  have hRound := passes_le h hPasses
  rw [searchOrder_eq_iterate h, List.find?_map, Option.map_eq_some_iff]
  refine ⟨m, ?_, rfl⟩
  rw [List.find?_range_eq_some]
  refine ⟨decide_eq_true hFree, List.mem_range.mpr (by omega), fun j hj => ?_⟩
  have hBusy := (hPasses (j + 1) (by omega)).1
  simpa using hBusy

/-- Behind a privileged port the least free unprivileged one is found. -/
theorem le_of_passes (hZero : preferred ≠ 0) (h : preferred < 1024) {m : Nat}
    (hPasses : Passes (portAfter preferred) (· ∈ s.usedHostPorts) preferred (m + 1) preferred)
    {other : UInt16} (hOther : 1024 ≤ other) (hFree : other ∉ s.usedHostPorts) : ring m ≤ other := by
  have hHigh := UInt16.le_iff_toNat_le.mp hOther
  have hLow : (1024 : UInt16).toNat = 1024 := rfl
  by_contra hLess
  rw [UInt16.le_iff_toNat_le, toNat_ring] at hLess
  have hRemainder := Nat.mod_le m 64512
  -- the search has been there before
  have hBusy := (hPasses (other.toNat - 1024 + 1) (by omega)).1
  rw [iterate_privileged hZero h, ring_toNat hOther] at hBusy
  exact hFree hBusy

end HostState

/-- The port that is found is the first free one in order. -/
theorem findAvailablePort_first (s : HostState) (preferred port : UInt16)
    (hSearch : s.PortSearch preferred (some port)) :
    port ∉ s.usedHostPorts ∧ port ≠ 0 ∧ (preferred ∉ s.usedHostPorts → port = preferred) ∧
      (preferred ∈ s.usedHostPorts → 1024 ≤ port ∧
        (1024 ≤ preferred →
          (HostState.searchOrder preferred).find? (· ∉ s.usedHostPorts) = some port) ∧
        (preferred < 1024 → ∀ other, 1024 ≤ other → other ∉ s.usedHostPorts → port ≤ other)) := by
  obtain ⟨hZero, n, rfl, hFree, hPasses⟩ := hSearch.first
  cases n with
  | zero => exact ⟨hFree, hZero, fun _ => rfl, fun hUsed => absurd hUsed hFree⟩
  | succ m =>
      have hUsed : preferred ∈ s.usedHostPorts := (hPasses 0 (Nat.succ_pos m)).1
      have hHigh : 1024 ≤ (HostState.portAfter preferred)^[m + 1] preferred := by
        by_cases hLow : preferred < 1024
        · rw [HostState.iterate_privileged hZero hLow]
          exact HostState.ring_unprivileged m
        · rw [HostState.iterate_unprivileged (UInt16.not_lt.mp hLow)]
          exact HostState.ring_unprivileged _
      refine ⟨hFree, ?_, fun hUnused => absurd hUsed hUnused, fun _ => ⟨hHigh, ?_, ?_⟩⟩
      · intro hNone
        rw [hNone] at hHigh
        exact absurd hHigh (by decide)
      · exact fun hPreferred => HostState.find?_searchOrder hPreferred hFree hPasses
      · intro hLow other hOther hUnused
        rw [HostState.iterate_privileged hZero hLow]
        exact HostState.le_of_passes hZero hLow hPasses hOther hUnused

/-- A host on which port 8080 is in use. -/
def takenState : HostState :=
  { HostState.new with usedHostPorts := Finmap.singleton 8080 "c" }

/-- The port above it is found. -/
theorem findAvailablePort_above :
    takenState.PortSearch 8080 (some 8081) ∧ (8081 : UInt16) ∉ takenState.usedHostPorts ∧
      (HostState.searchOrder 8080).find? (· ∉ takenState.usedHostPorts) = some 8081 := by
  have hFound : HostState.searchPort takenState.usedHostPorts 8080 2 8080 = some (some 8081) := by decide
  have hSearch := HostState.portSearch_of_searchPort (by decide) hFound
  obtain ⟨hFree, -, -, hTaken⟩ := findAvailablePort_first takenState 8080 8081 hSearch
  exact ⟨hSearch, hFree, (hTaken (by decide)).2.1 (by decide)⟩

end DevcontainerBridge
