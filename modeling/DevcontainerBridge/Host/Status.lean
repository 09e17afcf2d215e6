import DevcontainerBridge.Control.Framing
import DevcontainerBridge.Host.Reservation
import DevcontainerBridge.Protocol.Size
import Mathlib.Algebra.Order.BigOperators.Group.Multiset

/-! The answer to ListRequest. It lists everything in one message, so that its
size is a sum over all tables of the host. -/
namespace DevcontainerBridge

open Table Transition Stream

namespace HostState

/-- The order in which a ListRequest meets the tables. -/
structure Listing (s : HostState) where
  containers : List (Σ _ : String, ContainerState)
  forwards : String → List (Σ _ : UInt16, ForwardState)
  sockets : List (Σ _ : String, SocketInfo)
  containers_enumerates : Enumerates containers s.containers
  forwards_enumerates : ∀ entry ∈ containers, Enumerates (forwards entry.1) entry.2.forwards
  sockets_enumerates : Enumerates sockets s.socketForwards

variable {s : HostState}

/-- The tables can be met in some order. -/
theorem exists_listing (s : HostState) : Nonempty s.Listing := by
  obtain ⟨containers, hContainers⟩ := exists_enumerates s.containers
  obtain ⟨sockets, hSockets⟩ := exists_enumerates s.socketForwards
  have hOrder : ∀ containerId, ∃ order, ∀ cstate, s.containers.lookup containerId = some cstate →
      Enumerates order cstate.forwards := by
    intro containerId
    cases hLookup : s.containers.lookup containerId with
    | none => exact ⟨[], fun _ hNone => (nomatch hNone)⟩
    | some cstate =>
        obtain ⟨order, hForwards⟩ := exists_enumerates cstate.forwards
        refine ⟨order, fun other hOther => ?_⟩
        cases hOther
        exact hForwards
  choose orderOf hOrderOf using hOrder
  refine ⟨⟨containers, orderOf, sockets, hContainers, ?_, hSockets⟩⟩
  intro entry hEntry
  exact hOrderOf entry.1 entry.2 ((mem_of_enumerates hContainers entry.1 entry.2).mp hEntry)

namespace Listing

variable (listing : s.Listing)

/-- What is listed about the forwards. -/
def infos : List ForwardInfo := collectForwardInfo listing.containers listing.forwards

/-- The message that answers a ListRequest. -/
def response : Message := .listResponse listing.infos (collectSocketForwardInfo listing.sockets)

/-- Each live forward is listed exactly once, and nothing else is. -/
def ListsEach : Prop :=
  ∀ containerId port,
    (listing.infos.filter fun info => info.containerId = containerId ∧ info.port = port).map
        (fun info => (info.hostPort, info.processName, info.pid, info.since)) =
      ((s.forwardOf containerId port).map fun fstate =>
        (fstate.hostPort, fstate.processName, fstate.pid, fstate.since)).toList

/-- `write_message` takes the response, and it is complete. -/
def Answered : Prop :=
  writeMessage listing.response true = .ok (utf8 (listing.response.toJson.push newlineChar)) ∧ listing.ListsEach

end Listing

/-- What a forward takes in the response, without the comma. -/
def forwardSize (containerId hostname : String) (port : UInt16) (fstate : ForwardState) : Nat :=
  escapedSize containerId + escapedSize hostname + decimalDigits port.toNat +
    decimalDigits fstate.hostPort.toNat + optionSize (fun name => escapedSize name + 2) fstate.processName +
    optionSize (fun pid : UInt32 => decimalDigits pid.toNat) fstate.pid + escapedSize fstate.since + 105

def socketSize (info : SocketInfo) : Nat :=
  escapedSize info.socketId + escapedSize info.hostPath + escapedSize info.containerPath + 51

def forwardCount (s : HostState) : Nat :=
  (s.containers.entries.map fun entry => entry.2.forwards.entries.card).sum

/-- What the live forwards of a container take. -/
def containerSize (containerId : String) (cstate : ContainerState) : Nat :=
  (cstate.forwards.entries.map fun forward => forwardSize containerId cstate.hostname forward.1 forward.2).sum

/-- What all live forwards take. -/
def forwardTotal (s : HostState) : Nat :=
  (s.containers.entries.map fun entry => containerSize entry.1 entry.2).sum

/-- What all socket forwards take. -/
def socketTotal (s : HostState) : Nat :=
  (s.socketForwards.entries.map fun entry => socketSize entry.2).sum

/-- The size of the response, commas and brackets included. -/
def statusSize (s : HostState) : Nat :=
  s.forwardTotal + (s.forwardCount - 1) + (s.socketTotal + (s.socketForwards.entries.card - 1)) + 58

/-- The list of a container's forwards takes what its table says. -/
theorem size_collectForwardInfo {order : List (Σ _ : String, ContainerState)}
    {orderOf : String → List (Σ _ : UInt16, ForwardState)}
    (hEach : ∀ entry ∈ order, Enumerates (orderOf entry.1) entry.2.forwards) :
    ((collectForwardInfo order orderOf).map ForwardInfo.jsonSize).sum =
        (order.map fun entry => containerSize entry.1 entry.2).sum ∧
      (collectForwardInfo order orderOf).length =
        (order.map fun entry => entry.2.forwards.entries.card).sum := by
  unfold collectForwardInfo
  induction order with
  | nil => exact ⟨rfl, rfl⟩
  | cons entry order ih =>
      obtain ⟨hSum, hLength⟩ := ih fun other hOther => hEach other (List.mem_cons_of_mem entry hOther)
      have hHere : ((orderOf entry.1 : List _) : Multiset (Σ _ : UInt16, ForwardState)) = entry.2.forwards.entries :=
        hEach entry List.mem_cons_self
      rw [List.flatMap_cons, List.map_append, List.sum_append, hSum, List.length_append, hLength, List.map_cons,
        List.sum_cons, List.map_cons, List.sum_cons, containerSize, ← hHere, Multiset.map_coe, Multiset.sum_coe,
        Multiset.coe_card,
        List.map_map, List.length_map]
      exact ⟨rfl, rfl⟩

theorem Listing.size_infos (listing : s.Listing) :
    joinedSize (listing.infos.map ForwardInfo.jsonSize) = s.forwardTotal + (s.forwardCount - 1) := by
  obtain ⟨hSum, hLength⟩ := size_collectForwardInfo listing.forwards_enumerates
  have hEntries : ((listing.containers : List _) : Multiset (Σ _ : String, ContainerState)) = s.containers.entries :=
    listing.containers_enumerates
  unfold joinedSize infos forwardTotal forwardCount
  rw [hSum, List.length_map, hLength, ← hEntries, Multiset.map_coe, Multiset.sum_coe, Multiset.map_coe,
    Multiset.sum_coe]

theorem Listing.size_sockets (listing : s.Listing) :
    joinedSize ((collectSocketForwardInfo listing.sockets).map SocketForwardInfo.jsonSize) =
      s.socketTotal + (s.socketForwards.entries.card - 1) := by
  have hEntries : ((listing.sockets : List _) : Multiset (Σ _ : String, SocketInfo)) = s.socketForwards.entries :=
    listing.sockets_enumerates
  unfold joinedSize collectSocketForwardInfo socketTotal
  rw [← hEntries, Multiset.map_coe, Multiset.sum_coe, Multiset.coe_card, List.map_map, List.length_map]
  rfl

/-- The response has the same size in every order. -/
theorem Listing.size_response (listing : s.Listing) :
    listing.response.toJson.utf8ByteSize = s.statusSize := by
  unfold response statusSize
  rw [Message.size_listResponse, listing.size_infos, listing.size_sockets]

/-- What is listed for a port of a container comes from its entries. -/
theorem filter_collectForwardInfo (order : List (Σ _ : String, ContainerState))
    (orderOf : String → List (Σ _ : UInt16, ForwardState)) (containerId : String) (port : UInt16) :
    ((collectForwardInfo order orderOf).filter fun info => info.containerId = containerId ∧ info.port = port).map
        (fun info => (info.hostPort, info.processName, info.pid, info.since)) =
      (order.filter fun entry => entry.1 = containerId).flatMap fun entry =>
        ((orderOf entry.1).filter fun forward => forward.1 = port).map fun forward =>
          (forward.2.hostPort, forward.2.processName, forward.2.pid, forward.2.since) := by
  unfold collectForwardInfo
  induction order with
  | nil => rfl
  | cons entry order ih =>
      rw [List.flatMap_cons, List.filter_append, List.map_append, ih, List.filter_map, List.map_map]
      by_cases hHere : entry.1 = containerId
      · have hFirst : decide (entry.1 = containerId) = true := decide_eq_true hHere
        rw [List.filter_cons, if_pos hFirst, List.flatMap_cons]
        simp [hHere, Function.comp_def]
      · have hNot : ¬decide (entry.1 = containerId) = true := by simpa using hHere
        rw [List.filter_cons, if_neg hNot]
        simp [hHere, Function.comp_def]

theorem Listing.listsEach (listing : s.Listing) : listing.ListsEach := by
  intro containerId port
  unfold infos
  rw [filter_collectForwardInfo, filter_key listing.containers_enumerates]
  unfold forwardOf
  cases hContainer : s.containers.lookup containerId with
  | none => rfl
  | some cstate =>
      have hEntry := (mem_of_enumerates listing.containers_enumerates containerId cstate).mpr hContainer
      have hForwards : Enumerates (listing.forwards containerId) cstate.forwards :=
        listing.forwards_enumerates ⟨containerId, cstate⟩ hEntry
      rw [Option.map_some, Option.toList_some, List.flatMap_singleton, filter_key hForwards, Option.bind_some]
      cases cstate.forwards.lookup port <;> rfl

/-- A ListRequest is answered with the complete list exactly where the list fits
into one message. -/
theorem status_answered_iff (s : HostState) (listing : s.Listing) :
    listing.Answered ↔ s.statusSize ≤ maxMessageSize := by
  unfold Listing.Answered writeMessage
  dsimp only
  rw [listing.size_response]
  constructor
  · rintro ⟨hWritten, -⟩
    by_contra hLarge
    rw [if_pos (by omega)] at hWritten
    cases hWritten
  · intro hFits
    rw [if_neg (by omega)]
    exact ⟨rfl, listing.listsEach⟩

/-- A single forward is part of the response. -/
theorem forwardSize_le_statusSize {containerId : String} {port : UInt16} {cstate : ContainerState}
    {fstate : ForwardState} (hContainer : s.containers.lookup containerId = some cstate)
    (hForward : cstate.forwards.lookup port = some fstate) :
    forwardSize containerId cstate.hostname port fstate + 58 ≤ s.statusSize := by
  have hHere : forwardSize containerId cstate.hostname port fstate ≤ containerSize containerId cstate :=
    Multiset.le_sum_of_mem (Multiset.mem_map_of_mem
      (fun forward : Σ _ : UInt16, ForwardState => forwardSize containerId cstate.hostname forward.1 forward.2)
      (Finmap.lookup_eq_some_iff.mp hForward))
  have hAll : containerSize containerId cstate ≤ s.forwardTotal :=
    Multiset.le_sum_of_mem (Multiset.mem_map_of_mem
      (fun entry : Σ _ : String, ContainerState => containerSize entry.1 entry.2)
      (Finmap.lookup_eq_some_iff.mp hContainer))
  unfold statusSize
  omega

end HostState

/-- A container forwards one port for a process of some name. -/
def namedSchedule (processName : String) : List Action :=
  announceSchedule 1 "c" "h" "" ++ enterSchedule 1 ++
    [.receive (.forward 8080 .tcp (some processName) none), .proceed, .proceed, .proceed, .bound (some 8080),
      .timestamp "0", .proceed, .sent true].map (.task 1)

theorem exec_namedSchedule (processName : String) :
    (exec (Daemon.step .basic) (Daemon.start .basic) (namedSchedule processName)).map
        (fun d => d.ctx.state.forwardOf "c" 8080) =
      some (some { onlyForward with processName := some processName }) :=
  rfl

theorem escapedSize_repeatedId (length : Nat) : escapedSize (repeatedId length) = length := by
  have hChar : escapedCharSize 'a' = 1 := by decide
  unfold escapedSize repeatedId
  rw [String.toList_ofList, List.map_replicate, List.sum_replicate_nat, hChar, Nat.mul_one]

/-- A container forwards a port for a process with a long name. The Forward fits
into a message and the list of this one forward does not. -/
theorem status_unanswered :
    ∃ d, exec (Daemon.step .basic) (Daemon.start .basic) (namedSchedule (repeatedId 65400)) = some d ∧
      (Message.forward 8080 .tcp (some (repeatedId 65400)) none).toJson.utf8ByteSize ≤ maxMessageSize ∧
      Nonempty d.ctx.state.Listing ∧ ∀ listing : d.ctx.state.Listing, ¬listing.Answered := by
  obtain ⟨d, hExec, hForwardOf⟩ := Option.map_eq_some_iff.mp (exec_namedSchedule (repeatedId 65400))
  obtain ⟨cstate, hContainer, hForward⟩ := Option.bind_eq_some_iff.mp hForwardOf
  have hDigits : decimalDigits (UInt16.toNat 8080) = 4 := by decide
  refine ⟨d, hExec, ?_, d.ctx.state.exists_listing, ?_⟩
  · rw [Message.size_forward, optionSize, escapedSize_repeatedId, optionSize, hDigits]
    decide
  · intro listing hAnswered
    have hFits := (d.ctx.state.status_answered_iff listing).mp hAnswered
    have hSize := HostState.forwardSize_le_statusSize hContainer hForward
    have hName : optionSize (fun name => escapedSize name + 2) (some (repeatedId 65400)) = 65402 := by
      rw [optionSize, escapedSize_repeatedId]
    have hConstant : escapedSize "c" = 1 ∧ escapedSize "0" = 1 ∧ maxMessageSize = 65536 := by decide
    unfold HostState.forwardSize at hSize
    dsimp only [onlyForward] at hSize
    rw [hName, hDigits] at hSize
    omega

end DevcontainerBridge
