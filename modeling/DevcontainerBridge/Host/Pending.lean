import DevcontainerBridge.Host.Proxy
import DevcontainerBridge.Transition.Run

/-! The pending map by itself, with every step of its operations apart. A call
of `register_pending` looks at one entry at a time while receivers are being
dropped, and a stream is sent after its entry has left the map. -/
namespace DevcontainerBridge

open Table Transition

/-- A call of `register_pending` that holds the lock of the map. -/
structure Registration where
  connId : String
  /-- entries that `retain` has not looked at -/
  toExamine : List (Σ _ : String, Nat)
  /-- the map and the receivers as the call found them -/
  pendingBefore : Map String Nat
  receiversBefore : Nat → Receiver

/-- A data stream by where its call of `resolve_pending` stands. A call
without grace gives up at its first lookup. -/
inductive Resolving where
  | absent
  | searching (connId : String)
  | sending (connId : String) (receiver : Nat)
  | finished (connId : String)
  deriving DecidableEq, Repr

structure PendingSystem where
  pending : Map String Nat
  receivers : Nat → Receiver
  nextReceiver : Nat
  registration : Option Registration
  streams : Nat → Resolving
  /-- the conn_id each receiver was registered under -/
  registeredAs : Nat → String
  /-- the streams that were sent successfully, each with its receiver -/
  deliveries : List (Nat × Nat)

inductive PendingAction where
  /-- `register_pending` takes the lock; the map is enumerated in this order -/
  | register (connId : String) (order : List (Σ _ : String, Nat))
  | examine
  | finish
  /-- a stream arrives with the conn_id of its ConnectReady -/
  | arrive (stream : Nat) (connId : String)
  | search (stream : Nat) (expired : Bool)
  | send (stream : Nat)
  | cancel (connId : String)
  | drop (receiver : Nat)

/-- The conn_id of a stream's ConnectReady. -/
def Resolving.connId : Resolving → Option String
  | .absent => none
  | .searching connId | .sending connId _ | .finished connId => some connId

namespace PendingSystem

def new : PendingSystem where
  pending := ∅
  receivers := fun _ => .unused
  nextReceiver := 0
  registration := none
  streams := fun _ => .absent
  registeredAs := fun _ => ""
  deliveries := []

/-- `register_pending` with the lock in hand. Below the limit no entry is
looked at. -/
def begin (s : PendingSystem) (connId : String) (order : List (Σ _ : String, Nat)) : PendingSystem :=
  let reg : Registration :=
    { connId := connId
      toExamine := if s.pending.keys.card ≥ maxPending then order else []
      pendingBefore := s.pending
      receiversBefore := s.receivers }
  { s with registration := some reg }

/-- One call of the closure of `retain`. -/
def examineEntry (s : PendingSystem) (reg : Registration) (entry : Σ _ : String, Nat)
    (rest : List (Σ _ : String, Nat)) : PendingSystem :=
  { s with
    pending := if s.receivers entry.2 = .closed then s.pending.erase entry.1 else s.pending
    registration := some { reg with toExamine := rest } }

def insertEntry (s : PendingSystem) (connId : String) : PendingSystem :=
  { s with
    pending := s.pending.insert connId s.nextReceiver
    receivers := Function.update s.receivers s.nextReceiver .waiting
    nextReceiver := s.nextReceiver + 1
    registration := none
    registeredAs := Function.update s.registeredAs s.nextReceiver connId }

def setStream (s : PendingSystem) (stream : Nat) (resolving : Resolving) : PendingSystem :=
  { s with streams := Function.update s.streams stream resolving }

/-- The one-shot channel takes a stream exactly while its receiver waits. -/
def sendStream (s : PendingSystem) (stream : Nat) (connId : String) (receiver : Nat) : PendingSystem :=
  let s := s.setStream stream (.finished connId)
  if s.receivers receiver = .waiting then
    { s with
      receivers := Function.update s.receivers receiver .delivered
      deliveries := (stream, receiver) :: s.deliveries }
  else
    s

/-- One step. The map is locked from the first to the last step of a
registration; receivers are dropped and streams are sent meanwhile. -/
def step (s : PendingSystem) : PendingAction → Option PendingSystem
  | .register connId order =>
      if s.registration.isNone ∧ Enumerates order s.pending then some (s.begin connId order) else none
  | .examine =>
      match s.registration with
      | none => none
      | some reg =>
          match reg.toExamine with
          | [] => none
          | entry :: rest => some (s.examineEntry reg entry rest)
  | .finish =>
      match s.registration with
      | none => none
      | some reg =>
          match reg.toExamine with
          | [] =>
              if s.pending.keys.card ≥ maxPending then some { s with registration := none }
              else some (s.insertEntry reg.connId)
          | _ :: _ => none
  | .arrive stream connId =>
      match s.streams stream with
      | .absent => some (s.setStream stream (.searching connId))
      | _ => none
  | .search stream expired =>
      match s.registration, s.streams stream with
      | none, .searching connId =>
          match s.pending.lookup connId with
          | some receiver =>
              some ({ s with pending := s.pending.erase connId }.setStream stream
                (.sending connId receiver))
          | none => some (if expired then s.setStream stream (.finished connId) else s)
      | _, _ => none
  | .send stream =>
      match s.streams stream with
      | .sending connId receiver => some (s.sendStream stream connId receiver)
      | _ => none
  | .cancel connId =>
      if s.registration.isNone then some { s with pending := s.pending.erase connId } else none
  | .drop receiver =>
      if s.receivers receiver = .waiting then
        some { s with receivers := Function.update s.receivers receiver .closed }
      else
        none

/-- The registration that holds the lock is about to be refused. -/
def Refuses (s : PendingSystem) (reg : Registration) : Prop :=
  s.registration = some reg ∧ reg.toExamine = [] ∧ maxPending ≤ s.pending.keys.card

end PendingSystem

/-- The entries whose receivers waited when the call took the lock. -/
def Registration.waitingBefore (reg : Registration) : Map String Nat :=
  retain (fun _ receiver => reg.receiversBefore receiver = .waiting) reg.pendingBefore

/-- What the pending map promises in one state. -/
structure MatchedOnce (s : PendingSystem) : Prop where
  capacity : s.pending.keys.card ≤ maxPending
  /-- each stream is delivered to one receiver at most, and once -/
  stream : ∀ stream receiver receiver', (stream, receiver) ∈ s.deliveries →
    (stream, receiver') ∈ s.deliveries → receiver = receiver'
  /-- each receiver gets one stream at most -/
  receiver : ∀ stream stream' receiver, (stream, receiver) ∈ s.deliveries →
    (stream', receiver) ∈ s.deliveries → stream = stream'
  once : s.deliveries.Nodup
  correlated : ∀ stream receiver, (stream, receiver) ∈ s.deliveries →
    (s.streams stream).connId = some (s.registeredAs receiver)
  refused : ∀ reg, s.Refuses reg → maxPending ≤ reg.waitingBefore.keys.card
  pruned : ∀ after connId receiver, s.step .examine = some after →
    s.pending.lookup connId = some receiver → after.pending.lookup connId ≠ some receiver →
    s.receivers receiver = .closed

/-- A receiver whose sender still exists. -/
def PendingSystem.Open (s : PendingSystem) (receiver : Nat) : Prop :=
  s.receivers receiver = .waiting ∨ s.receivers receiver = .closed

/-- What the call that holds the lock has left of the map it found. -/
structure Examining (s : PendingSystem) (reg : Registration) : Prop where
  here : ∀ entry ∈ reg.toExamine, s.pending.lookup entry.1 = some entry.2
  distinct : reg.toExamine.NodupKeys
  before : ∀ connId receiver, s.pending.lookup connId = some receiver →
    reg.pendingBefore.lookup connId = some receiver
  /-- what has been looked at and kept was waiting when the call began -/
  kept : maxPending ≤ reg.pendingBefore.keys.card → ∀ connId receiver,
    s.pending.lookup connId = some receiver → ⟨connId, receiver⟩ ∈ reg.toExamine ∨
      reg.receiversBefore receiver = .waiting
  known : ∀ connId receiver, reg.pendingBefore.lookup connId = some receiver →
    reg.receiversBefore receiver = .waiting ∨ s.receivers receiver = .closed

/-- A sender is in the map, with one resolving stream, or gone. -/
structure Senders (s : PendingSystem) : Prop where
  capacity : s.pending.keys.card ≤ maxPending
  fresh : ∀ receiver, s.nextReceiver ≤ receiver → s.receivers receiver = .unused
  entry : ∀ connId receiver, s.pending.lookup connId = some receiver →
    s.registeredAs receiver = connId ∧ s.Open receiver
  sending : ∀ stream connId receiver, s.streams stream = .sending connId receiver →
    s.registeredAs receiver = connId ∧ s.Open receiver ∧ s.pending.lookup connId ≠ some receiver
  sender : ∀ stream stream' connId connId' receiver, s.streams stream = .sending connId receiver →
    s.streams stream' = .sending connId' receiver → stream = stream'
  delivered : ∀ stream receiver, (stream, receiver) ∈ s.deliveries →
    s.receivers receiver = .delivered ∧ s.streams stream = .finished (s.registeredAs receiver)
  stream : ∀ stream receiver receiver', (stream, receiver) ∈ s.deliveries →
    (stream, receiver') ∈ s.deliveries → receiver = receiver'
  receiver : ∀ stream stream' receiver, (stream, receiver) ∈ s.deliveries →
    (stream', receiver) ∈ s.deliveries → stream = stream'
  once : s.deliveries.Nodup
  examining : ∀ reg, s.registration = some reg → Examining s reg

variable {s : PendingSystem} {reg : Registration} {receiver : Nat} {connId : String}

theorem PendingSystem.Open.ne_unused (h : s.Open receiver) : s.receivers receiver ≠ .unused := by
  rcases h with hWaiting | hClosed
  · rw [hWaiting]
    exact fun hEq => nomatch hEq
  · rw [hClosed]
    exact fun hEq => nomatch hEq

theorem PendingSystem.Open.ne_delivered (h : s.Open receiver) : s.receivers receiver ≠ .delivered := by
  rcases h with hWaiting | hClosed
  · rw [hWaiting]
    exact fun hEq => nomatch hEq
  · rw [hClosed]
    exact fun hEq => nomatch hEq

theorem PendingSystem.setStream_self (s : PendingSystem) (stream : Nat) (resolving : Resolving) :
    (s.setStream stream resolving).streams stream = resolving :=
  Function.update_self _ _ _

theorem PendingSystem.setStream_of_ne {stream other : Nat} {resolving : Resolving} (h : other ≠ stream) :
    (s.setStream stream resolving).streams other = s.streams other :=
  Function.update_of_ne h _ _

/-- A receiver with a sender has been handed out. -/
theorem Senders.lt_next (h : Senders s) (hOpen : s.Open receiver) : receiver < s.nextReceiver := by
  by_contra hLate
  exact hOpen.ne_unused (h.fresh receiver (Nat.not_lt.mp hLate))

theorem senders_new : Senders .new where
  capacity := Nat.zero_le _
  fresh := fun _ _ => rfl
  entry := by
    intro connId receiver hEntry
    cases hEntry
  sending := by
    intro stream connId receiver hStream
    cases hStream
  sender := by
    intro stream stream' connId connId' receiver hStream
    cases hStream
  delivered := by
    intro stream receiver hDelivery
    cases hDelivery
  stream := by
    intro stream receiver receiver' hDelivery
    cases hDelivery
  receiver := by
    intro stream stream' receiver hDelivery
    cases hDelivery
  once := List.nodup_nil
  examining := by
    intro reg hReg
    cases hReg

/-- A call that takes the lock has looked at nothing. -/
theorem Senders.begin (h : Senders s) {order : List (Σ _ : String, Nat)}
    (hOrder : Enumerates order s.pending) : Senders (s.begin connId order) := by
  refine { h with examining := ?_ }
  intro reg hReg
  cases Option.some.inj hReg
  have hMember : ∀ entry ∈ (if s.pending.keys.card ≥ maxPending then order else []), entry ∈ order := by
    intro entry hEntry
    split_ifs at hEntry
    · exact hEntry
    · cases hEntry
  constructor
  · intro entry hEntry
    exact (mem_of_enumerates hOrder entry.1 entry.2).mp (hMember entry hEntry)
  · have hNodup : order.NodupKeys := by
      rw [← Multiset.coe_nodupKeys, hOrder]
      exact s.pending.nodupKeys
    dsimp only
    split_ifs
    · exact hNodup
    · exact List.nodupKeys_nil
  · exact fun _ _ hEntry => hEntry
  · intro hFull connId receiver hEntry
    left
    dsimp only at hFull ⊢
    rw [if_pos hFull]
    exact (mem_of_enumerates hOrder connId receiver).mpr hEntry
  · intro connId receiver hEntry
    exact (h.entry connId receiver hEntry).2

/-- Looking at an entry removes it only where its receiver is closed. -/
theorem Senders.examineEntry (h : Senders s) (hReg : s.registration = some reg)
    {entry : Σ _ : String, Nat} {rest : List (Σ _ : String, Nat)} (hNext : reg.toExamine = entry :: rest) :
    Senders (s.examineEntry reg entry rest) := by
  have hExamining := h.examining reg hReg
  have hDistinct := hExamining.distinct
  rw [hNext, List.nodupKeys_cons] at hDistinct
  have hSub : ∀ connId receiver, (s.examineEntry reg entry rest).pending.lookup connId = some receiver →
      s.pending.lookup connId = some receiver := by
    intro connId receiver hEntry
    unfold PendingSystem.examineEntry at hEntry
    dsimp only at hEntry
    split_ifs at hEntry
    · rw [lookup_erase] at hEntry
      split_ifs at hEntry
      exact hEntry
    · exact hEntry
  refine { h with capacity := ?_, entry := ?_, sending := ?_, examining := ?_ }
  · unfold PendingSystem.examineEntry
    dsimp only
    split_ifs
    · exact (card_keys_erase_le _ _).trans h.capacity
    · exact h.capacity
  · exact fun connId receiver hEntry => h.entry connId receiver (hSub connId receiver hEntry)
  · intro stream connId receiver hStream
    obtain ⟨hName, hOpen, hGone⟩ := h.sending stream connId receiver hStream
    exact ⟨hName, hOpen, fun hEntry => hGone (hSub connId receiver hEntry)⟩
  · intro reg' hReg'
    cases Option.some.inj hReg'
    constructor
    · intro other hOther
      have hHere := hExamining.here other (hNext ▸ List.mem_cons_of_mem entry hOther)
      have hKey : other.1 ≠ entry.1 := by
        intro hSame
        exact hDistinct.1 (hSame ▸ List.mem_map_of_mem hOther)
      unfold PendingSystem.examineEntry
      dsimp only
      split_ifs
      · rw [lookup_erase, if_neg hKey]
        exact hHere
      · exact hHere
    · exact hDistinct.2
    · exact fun connId receiver hEntry => hExamining.before connId receiver (hSub connId receiver hEntry)
    · intro hFull connId receiver hEntry
      rcases hExamining.kept hFull connId receiver (hSub connId receiver hEntry) with hMember | hWaiting
      · rw [hNext] at hMember
        rcases List.mem_cons.mp hMember with rfl | hLater
        · -- the entry has been looked at and is still there
          have hKept : s.receivers receiver ≠ .closed := by
            intro hClosed
            unfold PendingSystem.examineEntry at hEntry
            dsimp only at hEntry
            rw [if_pos hClosed, lookup_erase, if_pos rfl] at hEntry
            cases hEntry
          exact .inr ((hExamining.known connId receiver
            (hExamining.before connId receiver (hSub connId receiver hEntry))).resolve_right hKept)
        · exact .inl hLater
      · exact .inr hWaiting
    · exact hExamining.known

/-- A new entry gets a receiver that nobody has had before. -/
theorem Senders.insertEntry (h : Senders s) (hRoom : s.pending.keys.card < maxPending) :
    Senders (s.insertEntry connId) := by
  have hOther : ∀ receiver, s.Open receiver → receiver ≠ s.nextReceiver :=
    fun receiver hOpen => (h.lt_next hOpen).ne
  have hReceivers : ∀ receiver, receiver ≠ s.nextReceiver →
      (s.insertEntry connId).receivers receiver = s.receivers receiver ∧
        (s.insertEntry connId).registeredAs receiver = s.registeredAs receiver := by
    intro receiver hNew
    exact ⟨Function.update_of_ne hNew _ _, Function.update_of_ne hNew _ _⟩
  have hOpen : ∀ receiver, s.Open receiver → (s.insertEntry connId).Open receiver := by
    intro receiver hOld
    unfold PendingSystem.Open
    rw [(hReceivers receiver (hOther receiver hOld)).1]
    exact hOld
  constructor
  · cases hOld : s.pending.lookup connId with
    | none =>
        have hCard := card_keys_insert_of_notMem s.pending connId s.nextReceiver hOld
        exact hCard.trans_le hRoom
    | some old =>
        have hCard := card_keys_insert_of_mem s.pending connId s.nextReceiver old hOld
        exact hCard.trans_le hRoom.le
  · intro receiver hLate
    have hLater : s.nextReceiver + 1 ≤ receiver := hLate
    have hNew : receiver ≠ s.nextReceiver := by omega
    rw [(hReceivers receiver hNew).1]
    exact h.fresh receiver (by omega)
  · intro connId' receiver hEntry
    have hLookup : (if connId' = connId then some s.nextReceiver else s.pending.lookup connId') =
        some receiver := (lookup_insert _ _ _ _).symm.trans hEntry
    split_ifs at hLookup with hKey
    · cases Option.some.inj hLookup
      refine ⟨?_, .inl ?_⟩
      · rw [hKey]
        exact Function.update_self _ _ _
      · exact Function.update_self _ _ _
    · obtain ⟨hName, hOld⟩ := h.entry connId' receiver hLookup
      rw [(hReceivers receiver (hOther receiver hOld)).2]
      exact ⟨hName, hOpen receiver hOld⟩
  · intro stream connId' receiver hStream
    obtain ⟨hName, hOld, hGone⟩ := h.sending stream connId' receiver hStream
    rw [(hReceivers receiver (hOther receiver hOld)).2]
    refine ⟨hName, hOpen receiver hOld, fun hEntry => ?_⟩
    have hLookup : (if connId' = connId then some s.nextReceiver else s.pending.lookup connId') =
        some receiver := (lookup_insert _ _ _ _).symm.trans hEntry
    split_ifs at hLookup with hKey
    · exact hOther receiver hOld (Option.some.inj hLookup).symm
    · exact hGone hLookup
  · exact h.sender
  · intro stream receiver hDelivery
    obtain ⟨hDelivered, hFinished⟩ := h.delivered stream receiver hDelivery
    have hNew : receiver ≠ s.nextReceiver := by
      rintro rfl
      rw [h.fresh _ (le_refl _)] at hDelivered
      cases hDelivered
    rw [(hReceivers receiver hNew).1, (hReceivers receiver hNew).2]
    exact ⟨hDelivered, hFinished⟩
  · exact h.stream
  · exact h.receiver
  · exact h.once
  · intro reg hReg
    cases hReg

/-- Removing an entry is safe while no call holds the lock. -/
theorem Senders.erase (h : Senders s) (hUnlocked : s.registration = none) (connId : String) :
    Senders { s with pending := s.pending.erase connId } := by
  have hSub : ∀ connId' receiver, (s.pending.erase connId).lookup connId' = some receiver →
      s.pending.lookup connId' = some receiver := by
    intro connId' receiver hEntry
    rw [lookup_erase] at hEntry
    split_ifs at hEntry
    exact hEntry
  refine { h with capacity := ?_, entry := ?_, sending := ?_, examining := ?_ }
  · exact (card_keys_erase_le _ _).trans h.capacity
  · exact fun connId' receiver hEntry => h.entry connId' receiver (hSub connId' receiver hEntry)
  · intro stream connId' receiver hStream
    obtain ⟨hName, hOpen, hGone⟩ := h.sending stream connId' receiver hStream
    exact ⟨hName, hOpen, fun hEntry => hGone (hSub connId' receiver hEntry)⟩
  · intro reg hReg
    rw [hUnlocked] at hReg
    cases hReg

/-- A stream that moves on without a sender. -/
theorem Senders.setStream (h : Senders s) {stream : Nat} {next : Resolving}
    (hOld : ∀ connId, s.streams stream ≠ .finished connId)
    (hNext : ∀ connId receiver, next ≠ .sending connId receiver) : Senders (s.setStream stream next) := by
  have hOther : ∀ other connId receiver, (s.setStream stream next).streams other = .sending connId receiver →
      s.streams other = .sending connId receiver := by
    intro other connId receiver hStream
    by_cases hSame : other = stream
    · subst hSame
      rw [PendingSystem.setStream_self] at hStream
      exact absurd hStream (hNext connId receiver)
    · rwa [PendingSystem.setStream_of_ne hSame] at hStream
  refine { h with sending := ?_, sender := ?_, delivered := ?_, examining := ?_ }
  · exact fun other connId receiver hStream =>
      h.sending other connId receiver (hOther other connId receiver hStream)
  · intro first second connId connId' receiver hFirst hSecond
    exact h.sender first second connId connId' receiver (hOther first connId receiver hFirst)
      (hOther second connId' receiver hSecond)
  · intro other receiver hDelivery
    obtain ⟨hDelivered, hFinished⟩ := h.delivered other receiver hDelivery
    have hSame : other ≠ stream := by
      rintro rfl
      exact hOld _ hFinished
    refine ⟨hDelivered, ?_⟩
    rw [PendingSystem.setStream_of_ne hSame]
    exact hFinished
  · intro reg hReg
    have hExamining := h.examining reg hReg
    exact { hExamining with }

/-- The sender that a lookup takes out of the map belongs to one stream. -/
theorem Senders.take (h : Senders s) (hUnlocked : s.registration = none) {stream : Nat}
    (hStream : s.streams stream = .searching connId) (hEntry : s.pending.lookup connId = some receiver) :
    Senders ({ s with pending := s.pending.erase connId }.setStream stream (.sending connId receiver)) := by
  have hErased := h.erase hUnlocked connId
  obtain ⟨hName, hOpen⟩ := h.entry connId receiver hEntry
  have hHolder : ∀ other connId', s.streams other ≠ .sending connId' receiver := by
    intro other connId' hOther
    obtain ⟨hName', -, hGone⟩ := h.sending other connId' receiver hOther
    rw [← hName', hName] at hGone
    exact hGone hEntry
  refine { hErased with sending := ?_, sender := ?_, delivered := ?_, examining := ?_ }
  · intro other connId' receiver' hOther
    by_cases hSame : other = stream
    · subst hSame
      rw [PendingSystem.setStream_self] at hOther
      cases hOther
      refine ⟨hName, hOpen, ?_⟩
      show (s.pending.erase connId).lookup connId ≠ some receiver
      rw [lookup_erase, if_pos rfl]
      exact fun hEq => nomatch hEq
    · rw [PendingSystem.setStream_of_ne hSame] at hOther
      exact hErased.sending other connId' receiver' hOther
  · intro first second connId₁ connId₂ receiver' hFirst hSecond
    by_cases hSame : first = stream
    · by_cases hSame' : second = stream
      · rw [hSame, hSame']
      · subst hSame
        rw [PendingSystem.setStream_self] at hFirst
        rw [PendingSystem.setStream_of_ne hSame'] at hSecond
        cases hFirst
        exact absurd hSecond (hHolder second connId₂)
    · rw [PendingSystem.setStream_of_ne hSame] at hFirst
      by_cases hSame' : second = stream
      · subst hSame'
        rw [PendingSystem.setStream_self] at hSecond
        cases hSecond
        exact absurd hFirst (hHolder first connId₁)
      · rw [PendingSystem.setStream_of_ne hSame'] at hSecond
        exact h.sender first second connId₁ connId₂ receiver' hFirst hSecond
  · intro other receiver' hDelivery
    obtain ⟨hDelivered, hFinished⟩ := h.delivered other receiver' hDelivery
    have hSame : other ≠ stream := by
      rintro rfl
      rw [hStream] at hFinished
      cases hFinished
    refine ⟨hDelivered, ?_⟩
    rw [PendingSystem.setStream_of_ne hSame]
    exact hFinished
  · intro reg hReg
    have hSome : s.registration = some reg := hReg
    rw [hUnlocked] at hSome
    cases hSome

/-- A receiver that stops waiting keeps its sender where it is. -/
theorem Senders.drop (h : Senders s) (hWaiting : s.receivers receiver = .waiting) :
    Senders { s with receivers := Function.update s.receivers receiver .closed } := by
  have hOpen : ∀ other, s.Open other →
      ({ s with receivers := Function.update s.receivers receiver .closed } : PendingSystem).Open other := by
    intro other hOld
    unfold PendingSystem.Open
    dsimp only
    by_cases hSame : other = receiver
    · rw [hSame, Function.update_self]
      exact .inr rfl
    · rw [Function.update_of_ne hSame]
      exact hOld
  refine { h with fresh := ?_, entry := ?_, sending := ?_, delivered := ?_, examining := ?_ }
  · intro other hLate
    have hSame : other ≠ receiver := by
      rintro rfl
      rw [h.fresh other hLate] at hWaiting
      cases hWaiting
    exact (Function.update_of_ne hSame _ _).trans (h.fresh other hLate)
  · intro connId other hEntry
    obtain ⟨hName, hOld⟩ := h.entry connId other hEntry
    exact ⟨hName, hOpen other hOld⟩
  · intro stream connId other hStream
    obtain ⟨hName, hOld, hGone⟩ := h.sending stream connId other hStream
    exact ⟨hName, hOpen other hOld, hGone⟩
  · intro stream other hDelivery
    obtain ⟨hDelivered, hFinished⟩ := h.delivered stream other hDelivery
    have hSame : other ≠ receiver := by
      rintro rfl
      rw [hWaiting] at hDelivered
      cases hDelivered
    exact ⟨(Function.update_of_ne hSame _ _).trans hDelivered, hFinished⟩
  · intro reg hReg
    have hExamining := h.examining reg hReg
    refine { hExamining with known := ?_ }
    intro connId other hEntry
    rcases hExamining.known connId other hEntry with hBefore | hClosed
    · exact .inl hBefore
    · right
      by_cases hSame : other = receiver
      · rw [hSame]
        exact Function.update_self _ _ _
      · exact (Function.update_of_ne hSame _ _).trans hClosed

section
variable {stream : Nat}

/-- No entry holds the sender of a stream. -/
theorem Senders.ne_entry (h : Senders s) (hStream : s.streams stream = .sending connId receiver) (connId' : String) :
    s.pending.lookup connId' ≠ some receiver := by
  obtain ⟨hName, -, hGone⟩ := h.sending stream connId receiver hStream
  intro hEntry
  have hSame := (h.entry connId' receiver hEntry).1
  rw [← hSame, hName] at hEntry
  exact hGone hEntry

/-- A stream with a sender has not been delivered, and neither has anything
been delivered to its receiver. -/
theorem Senders.undelivered (h : Senders s) (hStream : s.streams stream = .sending connId receiver) :
    (∀ other, (stream, other) ∉ s.deliveries) ∧ ∀ other, (other, receiver) ∉ s.deliveries := by
  constructor
  · intro other hDelivery
    have hFinished := (h.delivered stream other hDelivery).2
    rw [hStream] at hFinished
    cases hFinished
  · intro other hDelivery
    exact (h.sending stream connId receiver hStream).2.1.ne_delivered (h.delivered other receiver hDelivery).1

/-- A stream that finishes gives up its sender. -/
theorem Senders.finish (h : Senders s) (hStream : s.streams stream = .sending connId receiver) :
    Senders (s.setStream stream (.finished connId)) := by
  apply h.setStream
  · intro other hFinished
    rw [hStream] at hFinished
    cases hFinished
  · exact fun _ _ hEq => nomatch hEq

theorem Senders.ne_sending (h : Senders s) (hStream : s.streams stream = .sending connId receiver) (other : Nat)
    (connId' : String) : (s.setStream stream (.finished connId)).streams other ≠ .sending connId' receiver := by
  intro hOther
  by_cases hSame : other = stream
  · subst hSame
    rw [PendingSystem.setStream_self] at hOther
    cases hOther
  · rw [PendingSystem.setStream_of_ne hSame] at hOther
    exact hSame (h.sender other stream connId' connId receiver hOther hStream)

/-- A stream that is sent uses up its sender, and the waiting receiver. -/
theorem Senders.sendStream (h : Senders s) (hStream : s.streams stream = .sending connId receiver) :
    Senders (s.sendStream stream connId receiver) := by
  obtain ⟨hName, hOpen, -⟩ := h.sending stream connId receiver hStream
  obtain ⟨hUndelivered, hUnused⟩ := h.undelivered hStream
  have hSet := h.finish hStream
  unfold PendingSystem.sendStream
  dsimp only
  split_ifs with hWaiting
  swap
  · exact hSet
  have hReceivers : ∀ other, other ≠ receiver →
      Function.update s.receivers receiver .delivered other = s.receivers other :=
    fun other hOther => Function.update_of_ne hOther _ _
  refine { hSet with
    fresh := ?_, entry := ?_, sending := ?_, delivered := ?_, stream := ?_, receiver := ?_, once := ?_,
    examining := ?_ }
  · intro other hLate
    have hSame : other ≠ receiver := by
      rintro rfl
      exact hOpen.ne_unused (h.fresh other hLate)
    exact (hReceivers other hSame).trans (h.fresh other hLate)
  · intro connId' other hEntry
    obtain ⟨hName', hOld⟩ := h.entry connId' other hEntry
    have hSame : other ≠ receiver := by
      rintro rfl
      exact h.ne_entry hStream connId' hEntry
    refine ⟨hName', ?_⟩
    show Function.update s.receivers receiver .delivered other = .waiting ∨
      Function.update s.receivers receiver .delivered other = .closed
    rw [hReceivers other hSame]
    exact hOld
  · intro other connId' receiver' hOther
    obtain ⟨hName', hOld, hGone'⟩ := hSet.sending other connId' receiver' hOther
    have hSame : receiver' ≠ receiver := by
      rintro rfl
      exact h.ne_sending hStream other connId' hOther
    refine ⟨hName', ?_, hGone'⟩
    show Function.update s.receivers receiver .delivered receiver' = .waiting ∨
      Function.update s.receivers receiver .delivered receiver' = .closed
    rw [hReceivers receiver' hSame]
    exact hOld
  · intro other receiver' hDelivery
    rcases List.mem_cons.mp hDelivery with hNew | hOld
    · cases hNew
      refine ⟨Function.update_self _ _ _, ?_⟩
      show (s.setStream stream (.finished connId)).streams stream = .finished (s.registeredAs receiver)
      rw [hName, PendingSystem.setStream_self]
    · obtain ⟨hDelivered, hFinished⟩ := hSet.delivered other receiver' hOld
      have hSame : receiver' ≠ receiver := by
        rintro rfl
        exact hUnused other hOld
      exact ⟨(hReceivers receiver' hSame).trans hDelivered, hFinished⟩
  · intro other first second hFirst hSecond
    rcases List.mem_cons.mp hFirst with hNew | hOld
    · cases hNew
      rcases List.mem_cons.mp hSecond with hNew' | hOld'
      · cases hNew'
        rfl
      · exact absurd hOld' (hUndelivered second)
    · rcases List.mem_cons.mp hSecond with hNew' | hOld'
      · cases hNew'
        exact absurd hOld (hUndelivered first)
      · exact h.stream other first second hOld hOld'
  · intro first second other hFirst hSecond
    rcases List.mem_cons.mp hFirst with hNew | hOld
    · cases hNew
      rcases List.mem_cons.mp hSecond with hNew' | hOld'
      · cases hNew'
        rfl
      · exact absurd hOld' (hUnused second)
    · rcases List.mem_cons.mp hSecond with hNew' | hOld'
      · cases hNew'
        exact absurd hOld (hUnused first)
      · exact h.receiver first second other hOld hOld'
  · exact List.nodup_cons.mpr ⟨hUndelivered receiver, h.once⟩
  · intro reg hReg
    have hExamining := hSet.examining reg hReg
    refine { hExamining with known := ?_ }
    intro connId' other hEntry
    rcases hExamining.known connId' other hEntry with hBefore | hClosed
    · exact .inl hBefore
    · right
      have hSame : other ≠ receiver := by
        rintro rfl
        rw [hWaiting] at hClosed
        cases hClosed
      exact (hReceivers other hSame).trans hClosed

end

/-- Every step keeps each sender in one place. -/
theorem Senders.step (h : Senders s) {action : PendingAction} {after : PendingSystem}
    (hStep : s.step action = some after) : Senders after := by
  unfold PendingSystem.step at hStep
  cases action with
  | register connId order =>
      dsimp only at hStep
      split_ifs at hStep with hEnabled
      cases hStep
      exact h.begin hEnabled.2
  | examine =>
      dsimp only at hStep
      split at hStep
      case h_1 => cases hStep
      case h_2 reg hReg =>
        split at hStep
        case h_1 => cases hStep
        case h_2 entry rest hNext =>
          cases hStep
          exact h.examineEntry hReg hNext
  | finish =>
      dsimp only at hStep
      split at hStep
      case h_1 => cases hStep
      case h_2 reg hReg =>
        split at hStep
        case h_2 => cases hStep
        case h_1 hDone =>
          split_ifs at hStep with hFull
          · cases hStep
            exact { h with examining := fun reg hReg => nomatch hReg }
          · cases hStep
            exact h.insertEntry (Nat.not_le.mp hFull)
  | arrive stream connId =>
      dsimp only at hStep
      split at hStep
      case h_2 => cases hStep
      case h_1 hAbsent =>
        cases hStep
        apply h.setStream
        · intro other hFinished
          rw [hAbsent] at hFinished
          cases hFinished
        · exact fun _ _ hEq => nomatch hEq
  | search stream expired =>
      dsimp only at hStep
      split at hStep
      case h_2 => cases hStep
      case h_1 connId hUnlocked hStream =>
        split at hStep
        case h_1 receiver hEntry =>
          cases hStep
          exact h.take hUnlocked hStream hEntry
        case h_2 hNone =>
          cases hStep
          split_ifs
          · apply h.setStream
            · intro other hFinished
              rw [hStream] at hFinished
              cases hFinished
            · exact fun _ _ hEq => nomatch hEq
          · exact h
  | send stream =>
      dsimp only at hStep
      split at hStep
      case h_2 => cases hStep
      case h_1 connId receiver hStream =>
        cases hStep
        exact h.sendStream hStream
  | cancel connId =>
      dsimp only at hStep
      split_ifs at hStep with hUnlocked
      cases hStep
      exact h.erase (Option.isNone_iff_eq_none.mp hUnlocked) connId
  | drop receiver =>
      dsimp only at hStep
      split_ifs at hStep with hWaiting
      cases hStep
      exact h.drop hWaiting

/-- A call is refused only where it found a full map of waiting receivers. -/
theorem Senders.refused (h : Senders s) (hRefuses : s.Refuses reg) :
    maxPending ≤ reg.waitingBefore.keys.card := by
  obtain ⟨hReg, hDone, hFull⟩ := hRefuses
  have hExamining := h.examining reg hReg
  have hKeys : ∀ {table other : Map String Nat}, (∀ connId receiver,
      table.lookup connId = some receiver → other.lookup connId = some receiver) →
      table.keys.card ≤ other.keys.card := by
    intro table other hSub
    apply Finset.card_le_card
    intro connId hKey
    rw [Finmap.mem_keys] at hKey ⊢
    obtain ⟨receiver, hEntry⟩ := Finmap.mem_iff.mp hKey
    exact Finmap.mem_of_lookup_eq_some (hSub connId receiver hEntry)
  have hBefore : maxPending ≤ reg.pendingBefore.keys.card := hFull.trans (hKeys hExamining.before)
  apply hFull.trans
  apply hKeys
  intro connId receiver hEntry
  rw [Registration.waitingBefore, lookup_retain]
  refine ⟨hExamining.before connId receiver hEntry, ?_⟩
  rcases hExamining.kept hBefore connId receiver hEntry with hMember | hWaiting
  · rw [hDone] at hMember
    cases hMember
  · exact decide_eq_true hWaiting

/-- Pruning takes an entry away only when its receiver is closed. -/
theorem Senders.pruned (h : Senders s) {after : PendingSystem} (hStep : s.step .examine = some after)
    (hEntry : s.pending.lookup connId = some receiver)
    (hGone : after.pending.lookup connId ≠ some receiver) : s.receivers receiver = .closed := by
  unfold PendingSystem.step at hStep
  dsimp only at hStep
  split at hStep
  case h_1 => cases hStep
  case h_2 reg hReg =>
    split at hStep
    case h_1 => cases hStep
    case h_2 entry rest hNext =>
      cases hStep
      have hHere := (h.examining reg hReg).here entry (hNext ▸ List.mem_cons_self)
      unfold PendingSystem.examineEntry at hGone
      dsimp only at hGone
      split_ifs at hGone with hClosed
      · rw [lookup_erase] at hGone
        split_ifs at hGone with hKey
        · subst hKey
          rw [hEntry] at hHere
          cases hHere
          exact hClosed
        · exact absurd hEntry hGone
      · exact absurd hEntry hGone

/-- Pending connections and data streams are matched exactly once. -/
theorem pending_matchedOnce (hReach : Reachable PendingSystem.step .new s) : MatchedOnce s := by
  have h : Senders s :=
    hReach.invariant Senders senders_new fun _ _ _ hBefore hStep => hBefore.step hStep
  exact {
    capacity := h.capacity
    stream := h.stream
    receiver := h.receiver
    once := h.once
    correlated := by
      intro stream receiver hDelivery
      rw [(h.delivered stream receiver hDelivery).2]
      rfl
    refused := fun reg hRefuses => h.refused hRefuses
    pruned := fun after connId receiver hStep hEntry hGone => h.pruned hStep hEntry hGone }

/-- A stream arrives before its connection is registered, and a second stream
with the same conn_id finds nothing. -/
def earlySchedule : List PendingAction :=
  [.arrive 0 "c", .search 0 false, .register "c" [], .finish, .arrive 1 "c", .search 0 false,
    .search 1 true, .send 0]

theorem pending_matchedOnce_early :
    ∃ s, exec PendingSystem.step .new earlySchedule = some s ∧ s.deliveries = [(0, 0)] ∧
      s.streams 1 = .finished "c" ∧ MatchedOnce s := by
  have hRun : (exec PendingSystem.step .new earlySchedule).any fun s =>
      s.deliveries == [(0, 0)] && decide (s.streams 1 = .finished "c") := by
    decide
  obtain ⟨s, hExec, hState⟩ := (Option.any_eq_true _ _).mp hRun
  simp only [Bool.and_eq_true, beq_iff_eq, decide_eq_true_eq] at hState
  exact ⟨s, hExec, hState.1, hState.2, pending_matchedOnce (reachable_of_exec hExec)⟩

/-- The entries of closed receivers taken out one after the other. -/
def pruneEach (receivers : Nat → Receiver) (entries : List (Σ _ : String, Nat))
    (pending : Map String Nat) : Map String Nat :=
  entries.foldl (fun rest entry => if receivers entry.2 = .closed then rest.erase entry.1 else rest)
    pending

theorem lookup_pruneEach {receivers : Nat → Receiver} {entries : List (Σ _ : String, Nat)}
    {pending : Map String Nat} :
    (pruneEach receivers entries pending).lookup connId = some receiver ↔
      pending.lookup connId = some receiver ∧
        ∀ entry ∈ entries, receivers entry.2 = .closed → entry.1 ≠ connId := by
  induction entries generalizing pending with
  | nil => simp [pruneEach]
  | cons entry entries ih =>
      have hCons : pruneEach receivers (entry :: entries) pending = pruneEach receivers entries
          (if receivers entry.2 = .closed then pending.erase entry.1 else pending) := rfl
      rw [hCons, ih]
      split_ifs with hClosed
      · rw [lookup_erase]
        by_cases hKey : connId = entry.1
        · simp [hKey, hClosed]
        · simp [hKey, hClosed, Ne.symm hKey]
      · simp [hClosed]

theorem pruneEach_eq_retain {receivers : Nat → Receiver} {order : List (Σ _ : String, Nat)}
    {pending : Map String Nat} (hOrder : Enumerates order pending) :
    pruneEach receivers order pending = retain (fun _ other => receivers other ≠ .closed) pending := by
  apply Finmap.ext_lookup
  intro connId
  apply Option.ext
  intro receiver
  rw [lookup_pruneEach, lookup_retain, decide_eq_true_eq]
  refine and_congr_right fun hEntry => ⟨fun h hClosed => ?_, fun hOpen entry hMember hClosed hKey => ?_⟩
  · exact h ⟨connId, receiver⟩ ((mem_of_enumerates hOrder connId receiver).mpr hEntry) hClosed rfl
  · subst hKey
    have hSame := (mem_of_enumerates hOrder entry.1 entry.2).mp hMember
    rw [hEntry] at hSame
    cases hSame
    exact hOpen hClosed

/-- The closure of `retain` called on all entries that are left. -/
theorem exec_examine {entries : List (Σ _ : String, Nat)}
    (hReg : s.registration = some { reg with toExamine := entries }) :
    exec PendingSystem.step s (List.replicate entries.length .examine) =
      some { s with
        pending := pruneEach s.receivers entries s.pending
        registration := some { reg with toExamine := [] } } := by
  induction entries generalizing s with
  | nil =>
      show some s = _
      rw [← hReg]
      rfl
  | cons entry entries ih =>
      have hStep : s.step .examine =
          some (s.examineEntry { reg with toExamine := entry :: entries } entry entries) := by
        unfold PendingSystem.step
        dsimp only
        rw [hReg]
      rw [List.length_cons, List.replicate_succ, exec, hStep, Option.bind_some, ih rfl]
      rfl

/-- The end of a call, on the map as the call leaves it to its second check. -/
theorem step_finish (hReg : s.registration = some reg) (hDone : reg.toExamine = []) :
    ∃ after, s.step .finish = some after ∧
      (after.pending, decide (after.nextReceiver = s.nextReceiver + 1)) =
        if s.pending.keys.card ≥ maxPending then (s.pending, false)
        else (s.pending.insert reg.connId s.nextReceiver, true) := by
  unfold PendingSystem.step
  dsimp only
  rw [hReg]
  dsimp only
  rw [hDone]
  dsimp only
  split_ifs with hFull
  · exact ⟨_, rfl, by simp⟩
  · exact ⟨_, rfl, by simp [PendingSystem.insertEntry]⟩

/-- A call of `register_pending` during which no receiver is dropped is the
`registerPending` of the daemon. -/
theorem register_undisturbed (hUnlocked : s.registration = none) {order : List (Σ _ : String, Nat)}
    (hOrder : Enumerates order s.pending) (connId : String) :
    ∃ examined after, exec PendingSystem.step s
        (.register connId order :: (List.replicate examined .examine ++ [.finish])) = some after ∧
      (after.pending, decide (after.nextReceiver = s.nextReceiver + 1)) =
        registerPending s.receivers s.pending connId s.nextReceiver := by
  have hBegin : s.step (.register connId order) = some (s.begin connId order) := by
    unfold PendingSystem.step
    exact if_pos ⟨by rw [hUnlocked]; rfl, hOrder⟩
  let reg : Registration :=
    { connId := connId, toExamine := order, pendingBefore := s.pending, receiversBefore := s.receivers }
  unfold registerPending
  by_cases hFull : s.pending.keys.card ≥ maxPending
  · have hReg : (s.begin connId order).registration = some { reg with toExamine := order } := by
      simp [PendingSystem.begin, hFull, reg]
    obtain ⟨after, hFinish, hAfter⟩ := step_finish (s := { s.begin connId order with
      pending := pruneEach s.receivers order s.pending
      registration := some { reg with toExamine := [] } }) rfl rfl
    refine ⟨order.length, after, exec_cons.mpr ⟨_, hBegin, exec_append.mpr
      ⟨_, exec_examine hReg, exec_cons.mpr ⟨after, hFinish, rfl⟩⟩⟩, ?_⟩
    rw [if_pos hFull, ← pruneEach_eq_retain hOrder]
    exact hAfter
  · have hReg : (s.begin connId order).registration = some { reg with toExamine := [] } := by
      simp [PendingSystem.begin, hFull, reg]
    obtain ⟨after, hFinish, hAfter⟩ := step_finish hReg rfl
    refine ⟨0, after, exec_cons.mpr ⟨_, hBegin, exec_cons.mpr ⟨after, hFinish, rfl⟩⟩, ?_⟩
    rw [if_neg hFull]
    exact hAfter.trans (if_neg hFull)

end DevcontainerBridge
