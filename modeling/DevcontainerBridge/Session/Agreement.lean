import DevcontainerBridge.Session.Effects
import DevcontainerBridge.Ledger.Updates

/-! Agreement of the two parties of a session about the forwarded ports. A
ForwardAck names a port and not the request that it answers, so a rejection
that is overtaken by later requests for its port takes a forwarded port out of
the container daemon's map. -/
namespace DevcontainerBridge

open Table Transition Ledger

/-- The port whose rejection is delivered. -/
def SessionAction.rejection : SessionAction → Option UInt16
  | .container (.receive (.forwardAck port false _)) => some port
  | _ => none

/-- A rejection of a port is delivered only when the port is not in the map,
or no Forward of it is on its way and the host does not forward it. -/
def Session.AcksCurrent (containerId : String) (s : Session) (action : SessionAction) : Prop :=
  ∀ port ∈ action.rejection, port ∈ s.container.forwarded →
    (port, true) ∉ s.words ∧ s.ctx.state.forwardOf containerId port = none

instance (containerId : String) (s : Session) (action : SessionAction) :
    Decidable (s.AcksCurrent containerId action) :=
  Option.decidableForallMem action.rejection

/-- A rejection of the port is on its way to the container daemon. -/
def Session.Refused (s : Session) (port : UInt16) : Prop :=
  s.handler.refuses = some port ∨ ∃ hostPort, Message.forwardAck port false hostPort ∈ s.toContainer

/-- How the two parties are related at one port, by the last request about it
that is on its way. -/
def Tied (last : Option Bool) (here there refused : Prop) : Prop :=
  match last with
  | some value => here ↔ value = true
  | none => (there → here) ∧ (here → there ∨ refused)

def Session.TiedAt (containerId : String) (s : Session) (port : UInt16) : Prop :=
  Tied (lastWord port s.words) (port ∈ s.container.forwarded)
    ((s.ctx.state.forwardOf containerId port).isSome = true) (s.Refused port)

structure Session.Synced (containerId : String) (registrationId : Nat) (s : Session) : Prop where
  container : s.container.position.whileOpen = true
  unsent : ∀ port, s.container.Unsent port → port ∈ s.container.forwarded
  handler : s.handler.InSession containerId registrationId s.ctx.state
  tied : ∀ port, ¬s.container.Unsent port → s.TiedAt containerId port

section Tied

variable {last : Option Bool} {here here' there there' refused refused' : Prop} {value : Bool}

theorem Tied.mono (h : Tied last here there refused) (hHere : here' ↔ here) (hThere : there' ↔ there)
    (hRefused : refused → refused') : Tied last here' there' refused' := by
  unfold Tied at h ⊢
  rw [hHere, hThere]
  cases last with
  | some value => exact h
  | none => exact ⟨h.1, fun hIn => (h.2 hIn).imp_right hRefused⟩

/-- The first request of all is done. It counts where no other follows. -/
theorem Tied.finish (h : Tied (last.or (some value)) here there refused) (hThere : there' → value = true)
    (hValue : value = true → there' ∨ refused') : Tied last here there' refused' := by
  cases last with
  | some later => exact h
  | none => exact ⟨fun hNow => h.mpr (hThere hNow), fun hIn => hValue (h.mp hIn)⟩

/-- What the host does not forward leaves the container's map. -/
theorem Tied.reject (h : Tied last here there refused) (hLast : here → last ≠ some true)
    (hThere : here → ¬there) : Tied last False there refused' := by
  cases last with
  | none => exact ⟨fun hNow => hThere (h.1 hNow) hNow, fun hNever => hNever.elim⟩
  | some value =>
      cases value with
      | false => exact ⟨fun hNever => hNever.elim, fun hEq => nomatch hEq⟩
      | true => exact absurd rfl (hLast (h.mpr rfl))

end Tied

namespace Session

variable {ccfg : ContainerConfig} {hcfg : HostConfig} {containerId : String} {registrationId : Nat}
  {s s' : Session}

/-- A step of the container daemon takes a message, sends one or is local. -/
theorem stepContainer_cases {input : SessionInput} (h : s.stepContainer ccfg input = some s') :
    input.whileOpen = true ∧ s.container.step ccfg input = some s'.container ∧
      (s'.ctx = s.ctx ∧ s'.handler = s.handler) ∧
      ((∃ message, input = .receive message ∧ s.toContainer = message :: s'.toContainer ∧
          s'.toHost = s.toHost) ∨
        (input = .sent true ∧ s'.toContainer = s.toContainer ∧
          s'.toHost = s.toHost ++ (s.container.outgoing ccfg).toList) ∨
        ((∀ message, input ≠ .receive message) ∧ input ≠ .sent true ∧
          s'.toContainer = s.toContainer ∧ s'.toHost = s.toHost)) := by
  unfold stepContainer at h
  split_ifs at h with hOpen
  refine ⟨hOpen, ?_⟩
  split at h
  case h_1 message first rest hQueue =>
    split_ifs at h with hFirst
    obtain ⟨c, hStep, rfl⟩ := Option.map_eq_some_iff.mp h
    exact ⟨hStep, ⟨rfl, rfl⟩, .inl ⟨message, rfl, hFirst ▸ hQueue, rfl⟩⟩
  case h_2 => cases h
  case h_3 input _ _ hReceive hNone =>
    obtain ⟨c, hStep, rfl⟩ := Option.map_eq_some_iff.mp h
    have hNever : ∀ message, input ≠ .receive message := by
      rintro message rfl
      cases hQueue : s.toContainer with
      | nil => exact hNone message rfl hQueue
      | cons first rest => exact hReceive message first rest rfl hQueue
    refine ⟨hStep, ⟨rfl, rfl⟩, .inr ?_⟩
    split
    case h_1 ok =>
      cases ok with
      | true => exact .inl ⟨rfl, rfl, rfl⟩
      | false => cases hOpen
    case h_2 hSent => exact .inr ⟨hNever, hSent true, rfl, rfl⟩

/-- A step of the host's task takes a message, sends one or is local. -/
theorem stepHost_cases {input : Input} (h : s.stepHost hcfg input = some s') :
    input.whileOpen = true ∧ nextHandler hcfg s.ctx s.handler input = some (s'.ctx, s'.handler) ∧
      s'.container = s.container ∧
      ((∃ message, input = .receive message ∧ s.toHost = message :: s'.toHost ∧
          s'.toContainer = s.toContainer) ∨
        ((∀ message, input ≠ .receive message) ∧ s'.toHost = s.toHost ∧
          ((∃ ok, input = .sent ok ∧ s'.toContainer = s.toContainer ++ s.handler.ack.toList) ∨
            ((∀ ok, input ≠ .sent ok) ∧ s'.toContainer = s.toContainer)))) := by
  unfold stepHost at h
  split_ifs at h with hOpen
  refine ⟨hOpen, ?_⟩
  split at h
  case h_1 message first rest hQueue =>
    split_ifs at h with hFirst
    obtain ⟨⟨ctx, handler⟩, hStep, rfl⟩ := Option.map_eq_some_iff.mp h
    exact ⟨hStep, rfl, .inl ⟨message, rfl, hFirst ▸ hQueue, rfl⟩⟩
  case h_2 => cases h
  case h_3 input _ _ hReceive hNone =>
    obtain ⟨⟨ctx, handler⟩, hStep, rfl⟩ := Option.map_eq_some_iff.mp h
    refine ⟨hStep, rfl, .inr ⟨?_, rfl, ?_⟩⟩
    · rintro message rfl
      cases hQueue : s.toHost with
      | nil => exact hNone message rfl hQueue
      | cons first rest => exact hReceive message first rest rfl hQueue
    · dsimp only
      split
      case h_1 ok => exact .inl ⟨ok, rfl, rfl⟩
      case h_2 hSent => exact .inr ⟨hSent, rfl⟩

theorem Begins.synced (h : s.Begins containerId registrationId) : s.Synced containerId registrationId where
  container := by
    rw [h.container]
    rfl
  unsent := by
    intro port hUnsent
    unfold ContainerDaemon.Unsent at hUnsent
    rwa [h.container] at hUnsent
  handler := by
    rw [h.handler]
    exact ⟨rfl, rfl, h.registered, fun _ hNone => nomatch hNone⟩
  tied := by
    intro port hSent
    unfold ContainerDaemon.Unsent at hSent
    rw [h.container] at hSent
    unfold TiedAt words
    rw [h.handler, h.toHost, h.empty]
    exact ⟨fun hNever => (Bool.false_ne_true hNever).elim, fun hHere => absurd hHere hSent⟩

/-- Once nothing is on its way the two maps have the same ports. -/
theorem Synced.agrees (h : s.Synced containerId registrationId)
    (hQuiet : s.Quiescent containerId registrationId) : s.Agrees containerId := by
  intro port
  have hTied := h.tied port (ContainerDaemon.not_unsent hQuiet.container rfl port)
  unfold TiedAt words at hTied
  rw [hQuiet.handler, hQuiet.toHost] at hTied
  refine ⟨fun hHere => (hTied.2 hHere).resolve_right ?_, hTied.1⟩
  unfold Refused
  rw [hQuiet.handler, hQuiet.toContainer]
  rintro (hNone | ⟨hostPort, hMember⟩)
  · cases hNone
  · cases hMember

/-- What a sent message adds to the requests on their way. -/
theorem words_send {message : Option Message} (hHandler : s'.handler = s.handler)
    (hQueue : s'.toHost = s.toHost ++ message.toList) :
    s'.words = s.words ++ (message.bind Message.word).toList := by
  unfold words
  rw [hHandler, hQueue, List.filterMap_append, List.append_assoc]
  cases message with
  | none => rfl
  | some message =>
      rw [Option.toList_some, Option.bind_some]
      cases hWord : message.word with
      | none => rw [List.filterMap_cons_none hWord, List.filterMap_nil, Option.toList_none]
      | some word => rw [List.filterMap_cons_some hWord, List.filterMap_nil, Option.toList_some]

/-- A message is taken from the connection by an idle handler. -/
theorem words_receive {message : Message} (hQueue : s.toHost = message :: s'.toHost)
    (hIdle : s.handler.word = none) (hNext : s'.handler.word = message.word) : s'.words = s.words := by
  unfold words
  rw [hQueue, hIdle, hNext, Option.toList_none, List.nil_append]
  cases hWord : message.word with
  | none => rw [List.filterMap_cons_none hWord, Option.toList_none, List.nil_append]
  | some word => rw [List.filterMap_cons_some hWord, Option.toList_some, List.singleton_append]

theorem words_congr (hHandler : s'.handler.word = s.handler.word) (hQueue : s'.toHost = s.toHost) :
    s'.words = s.words := by
  unfold words
  rw [hHandler, hQueue]

/-- A request about one port leaves the other ports as they are. -/
theorem Synced.told (h : s.Synced containerId registrationId) {port : UInt16} {value : Bool}
    (hWords : s'.words = s.words ++ [(port, value)]) (hQueue : s'.toContainer = s.toContainer)
    (hSame : s'.ctx = s.ctx ∧ s'.handler = s.handler)
    (hHere : port ∈ s'.container.forwarded ↔ value = true)
    (hOther : ∀ other, other ≠ port → (other ∈ s'.container.forwarded ↔ other ∈ s.container.forwarded))
    (hUnsent : ∀ other, other ≠ port → s.container.Unsent other → s'.container.Unsent other)
    (other : UInt16) (hDone : ¬s'.container.Unsent other) : s'.TiedAt containerId other := by
  unfold TiedAt
  rw [hWords, lastWord_concat]
  by_cases hPort : other = port
  · subst hPort
    rw [if_pos rfl]
    exact hHere
  · rw [if_neg (Ne.symm hPort)]
    apply (h.tied other fun hBefore => hDone (hUnsent other hPort hBefore)).mono (hOther other hPort)
    · rw [hSame.1]
    · unfold Refused
      rw [hQueue, hSame.2]
      exact id

/-- A current rejection takes out a port that the host does not have. -/
theorem Synced.rejected (h : s.Synced containerId registrationId) {port hostPort : UInt16}
    (hWords : s'.words = s.words)
    (hQueue : s.toContainer = .forwardAck port false hostPort :: s'.toContainer)
    (hSame : s'.ctx = s.ctx ∧ s'.handler = s.handler)
    (hMap : s'.container.forwarded = s.container.forwarded.erase port)
    (hAcks : s.AcksCurrent containerId (.container (.receive (.forwardAck port false hostPort))))
    (hBefore : ∀ other, ¬s.container.Unsent other) (other : UInt16) : s'.TiedAt containerId other := by
  have hTied := h.tied other (hBefore other)
  unfold TiedAt
  rw [hWords, hMap, hSame.1]
  by_cases hPort : other = port
  · subst hPort
    rw [iff_false_intro Finmap.notMem_erase_self]
    apply hTied.reject
    · intro hHere hLast
      exact (hAcks other rfl hHere).1 (mem_of_lastWord hLast)
    · intro hHere hThere
      rw [(hAcks other rfl hHere).2] at hThere
      cases hThere
  · apply hTied.mono (Finmap.mem_erase.trans (and_iff_right hPort)) Iff.rfl
    rintro (hHandling | ⟨laterPort, hMember⟩)
    · exact .inl (hSame.2 ▸ hHandling)
    · rw [hQueue] at hMember
      rcases List.mem_cons.mp hMember with hEq | hLater
      · cases hEq
        exact absurd rfl hPort
      · exact .inr ⟨laterPort, hLater⟩

theorem Synced.stepContainer (h : s.Synced containerId registrationId) {input : SessionInput}
    (hAcks : s.AcksCurrent containerId (.container input))
    (hStep : s.stepContainer ccfg input = some s') : s'.Synced containerId registrationId := by
  obtain ⟨hOpen, hDaemon, hSame, hCases⟩ := stepContainer_cases hStep
  obtain ⟨hAfter, hEffect⟩ := ContainerDaemon.step_effect h.unsent h.container hOpen hDaemon
  have hServes : s'.handler.InSession containerId registrationId s'.ctx.state := by
    rw [hSame.1, hSame.2]
    exact h.handler
  cases hEffect with
  | @told port value hInput hWord hHere hOther hSent hUnsent =>
      obtain ⟨message, hEq, -⟩ | ⟨-, hQueue, hSend⟩ | ⟨-, hEq, -⟩ := hCases
      · rw [hInput] at hEq
        cases hEq
      · have hWords := words_send hSame.2 hSend
        rw [hWord, Option.toList_some] at hWords
        exact ⟨hAfter, hSent, hServes, h.told hWords hQueue hSame hHere hOther hUnsent⟩
      · exact absurd hInput hEq
  | @rejected port hostPort hInput hMap hBefore hNone =>
      subst hInput
      obtain ⟨message, hEq, hQueue, hHost⟩ | ⟨hEq, -⟩ | ⟨hEq, -⟩ := hCases
      · cases hEq
        have hWords := words_congr (congrArg Handler.word hSame.2) hHost
        exact ⟨hAfter, fun other hUnsent => absurd hUnsent (hNone other), hServes,
          fun other _ => h.rejected hWords hQueue hSame hMap hAcks hBefore other⟩
      · cases hEq
      · exact absurd rfl (hEq _)
  | quiet hWord hAck hMap hUnsent =>
      have hQuiet : s'.words = s.words ∧ ∀ port hostPort,
          Message.forwardAck port false hostPort ∈ s.toContainer →
            Message.forwardAck port false hostPort ∈ s'.toContainer := by
        obtain ⟨message, hEq, hQueue, hHost⟩ | ⟨hEq, hQueue, hSend⟩ | ⟨-, -, hQueue, hHost⟩ := hCases
        · refine ⟨words_congr (congrArg Handler.word hSame.2) hHost, fun port hostPort hMember => ?_⟩
          rw [hQueue] at hMember
          rcases List.mem_cons.mp hMember with hFirst | hLater
          · exact absurd (hFirst ▸ hEq) (hAck port hostPort)
          · exact hLater
        · have hWords := words_send hSame.2 hSend
          rw [hWord hEq, Option.toList_none, List.append_nil] at hWords
          exact ⟨hWords, fun _ _ => hQueue ▸ id⟩
        · exact ⟨words_congr (congrArg Handler.word hSame.2) hHost, fun _ _ => hQueue ▸ id⟩
      refine ⟨hAfter, fun port hHere => ?_, hServes, fun port hDone => ?_⟩
      · rw [hMap]
        exact h.unsent port ((hUnsent port).mp hHere)
      · unfold TiedAt
        rw [hQuiet.1, hMap, hSame.1]
        apply (h.tied port fun hHere => hDone ((hUnsent port).mpr hHere)).mono Iff.rfl Iff.rfl
        rintro (hHandling | ⟨hostPort, hMember⟩)
        · exact .inl (hSame.2 ▸ hHandling)
        · exact .inr ⟨hostPort, hQuiet.2 port hostPort hMember⟩

/-- While a request about a port is handled the last one is about a request. -/
theorem words_handling {port : UInt16} {value : Bool} (h : s.handler.word = some (port, value)) :
    ∃ last, lastWord port s.words = some last := by
  unfold words
  rw [h, Option.toList_some, List.singleton_append, lastWord_cons, if_pos rfl]
  cases lastWord port (s.toHost.filterMap Message.word) with
  | none => exact ⟨value, rfl⟩
  | some last => exact ⟨last, rfl⟩

/-- A rejection stays on its way when the host's task goes on. -/
theorem refused_send {input : Input} {port : UInt16}
    (hAck : s.handler.refuses = none ∨ ∃ ok, input = .sent ok)
    (hQueue : (∃ ok, input = .sent ok ∧ s'.toContainer = s.toContainer ++ s.handler.ack.toList) ∨
      ((∀ ok, input ≠ .sent ok) ∧ s'.toContainer = s.toContainer)) :
    s.Refused port → s'.Refused port := by
  rintro (hHandling | ⟨hostPort, hMember⟩)
  · obtain ⟨ok, hInput⟩ : ∃ ok, input = .sent ok := by
      refine hAck.resolve_left fun hNone => ?_
      rw [hNone] at hHandling
      cases hHandling
    obtain ⟨-, -, hSend⟩ | ⟨hNever, -⟩ := hQueue
    · refine .inr ⟨0, ?_⟩
      rw [hSend, Handler.ack_of_refuses hHandling]
      exact List.mem_append_right _ (List.mem_singleton_self _)
    · exact absurd hInput (hNever ok)
  · refine .inr ⟨hostPort, ?_⟩
    obtain ⟨-, -, hSend⟩ | ⟨-, hSame⟩ := hQueue
    · exact hSend ▸ List.mem_append_left _ hMember
    · exact hSame ▸ hMember

theorem Synced.stepHost (h : s.Synced containerId registrationId) {input : Input}
    (hStep : s.stepHost hcfg input = some s') : s'.Synced containerId registrationId := by
  obtain ⟨hOpen, hNext, hContainer, hCases⟩ := stepHost_cases hStep
  obtain ⟨hServes, hEffect⟩ := nextHandler_effect h.handler hOpen hNext
  suffices hTied : ∀ port, ¬s.container.Unsent port → s'.TiedAt containerId port by
    constructor
    · rw [hContainer]
      exact h.container
    · rw [hContainer]
      exact h.unsent
    · exact hServes
    · rw [hContainer]
      exact hTied
  intro port hDone
  have hBefore := h.tied port hDone
  unfold TiedAt at hBefore ⊢
  rw [hContainer]
  cases hEffect with
  | @received message hInput hIdle hWord hState =>
      obtain ⟨other, hEq, hQueue, hSame⟩ | ⟨hEq, -⟩ := hCases
      · rw [hInput] at hEq
        cases hEq
        rw [words_receive hQueue hIdle.1 hWord.1, hState]
        apply hBefore.mono Iff.rfl Iff.rfl
        rintro (hHandling | hMember)
        · rw [hIdle.2] at hHandling
          cases hHandling
        · exact .inr (hSame ▸ hMember)
      · exact absurd hInput (hEq message)
  | moved hInput hWord hNone hAck hForwards =>
      obtain ⟨message, hEq, -⟩ | ⟨-, hHost, hQueue⟩ := hCases
      · exact absurd hEq (hInput message)
      · rw [words_congr hWord hHost]
        by_cases hHandling : s.handler.word = some (port, true)
        · -- the request at hand is about this port, so what the host has now does not count
          obtain ⟨value, hLast⟩ := words_handling hHandling
          rw [hLast] at hBefore ⊢
          exact hBefore
        · apply hBefore.mono Iff.rfl (by rw [hForwards port hHandling])
          exact refused_send hAck hQueue
  | @finished done value hInput hWord hNone hHere hThere hRefuses hForwards =>
      obtain ⟨message, hEq, -⟩ | ⟨-, hHost, hQueue⟩ := hCases
      · exact absurd hEq (hInput message)
      · have hWords : s.words = (done, value) :: s'.words := by
          unfold words
          rw [hWord, hNone, hHost]
          rfl
        rw [hWords, lastWord_cons] at hBefore
        by_cases hPort : port = done
        · subst hPort
          rw [if_pos rfl] at hBefore
          exact hBefore.finish hHere fun hValue => (hThere hValue).imp_right .inl
        · rw [if_neg (Ne.symm hPort), Option.or_none] at hBefore
          apply hBefore.mono Iff.rfl (by rw [hForwards port hPort])
          exact refused_send (.inl (Handler.refuses_of_word hWord)) hQueue

theorem Synced.step (h : s.Synced containerId registrationId) {action : SessionAction}
    (hAcks : s.AcksCurrent containerId action) (hStep : step ccfg hcfg containerId s action = some s') :
    s'.Synced containerId registrationId := by
  cases action with
  | container input => exact h.stepContainer hAcks hStep
  | host input => exact h.stepHost hStep
  | notify message =>
      unfold Session.step at hStep
      dsimp only at hStep
      split_ifs at hStep
      cases hStep
      refine ⟨h.container, h.unsent, h.handler, fun port hDone => ?_⟩
      apply (h.tied port hDone).mono Iff.rfl Iff.rfl
      exact Or.imp_right fun ⟨hostPort, hMember⟩ => ⟨hostPort, List.mem_append_left _ hMember⟩
  | others ctx =>
      unfold Session.step at hStep
      dsimp only at hStep
      split_ifs at hStep with hSame
      cases hStep
      have hForward : ∀ port, ctx.state.forwardOf containerId port =
          s.ctx.state.forwardOf containerId port := by
        intro port
        unfold HostState.forwardOf
        rw [hSame]
      refine ⟨h.container, h.unsent, ⟨h.handler.owner, h.handler.stays, ?_, fun port hCleared => ?_⟩,
        fun port hDone => ?_⟩
      · refine Eq.trans ?_ h.handler.registered
        unfold HostState.registrationOf
        rw [hSame]
      · rw [hForward]
        exact h.handler.cleared port hCleared
      · exact (h.tied port hDone).mono Iff.rfl (by rw [hForward]) id

end Session

/-- In a session in which every rejection is current when it is delivered, the
two parties have the same ports whenever nothing is on its way. -/
theorem session_agrees {ccfg : ContainerConfig} {hcfg : HostConfig} {containerId : String}
    {registrationId : Nat} {start finish : Session} {trace : List (Session × SessionAction)}
    (hStart : start.Begins containerId registrationId)
    (run : Run (Session.step ccfg hcfg containerId) start trace finish)
    (hAcks : Guarded (Session.AcksCurrent containerId) trace) :
    Throughout (fun s => s.Quiescent containerId registrationId → s.Agrees containerId) trace finish := by
  have hSynced : Throughout (Session.Synced containerId registrationId) trace finish :=
    run.throughout hAcks hStart.synced fun _ _ _ h hAction hStep => h.step hAction hStep
  exact ⟨fun entry hEntry => (hSynced.1 entry hEntry).agrees, hSynced.2.agrees⟩

/-- A session of a container that has just registered for the first time. -/
def freshSession : Session where
  container := { position := .registered, forwarded := ∅, events := [] }
  toHost := []
  toContainer := []
  ctx :=
    { DaemonContext.new .basic with
      state := HostState.new.insertContainer "c" "h" 1
      nextRegistrationId := 2 }
  handler := .serving "c" 1

theorem freshSession_begins : freshSession.Begins "c" 1 := ⟨rfl, rfl, rfl, rfl, rfl, fun _ => rfl⟩

/-- A scan tick that finds the web port, which is not in the map. -/
def appearTick : List SessionAction :=
  [.scanned [webPort] [⟨8080, webPort⟩], .sent true, .enumerate [⟨8080, webPort⟩], .proceed].map .container

/-- A scan tick that finds nothing where the web port is in the map. -/
def vanishTick : List SessionAction :=
  [.scanned [] [], .enumerate [⟨8080, webPort⟩], .sent true, .proceed].map .container

/-- The host handles a Forward of the web port up to its answer. -/
def answerForward (result : Option UInt16) : List SessionAction :=
  let request : List Input :=
    [.receive (.forward 8080 .tcp (some "node") (some 42)), .proceed, .proceed, .proceed, .bound result]
  let outcome : List Input := if result.isSome then [.timestamp "0", .proceed] else [.proceed]
  (request ++ outcome).map .host

/-- The host rejects the web port and the rejection arrives before anything
else is sent. The next tick forwards the port again, now with success. -/
def promptSession : List SessionAction :=
  [.container (.enumerate []), .container .proceed] ++ appearTick ++ answerForward none ++
    [.host (.sent true), .container (.receive (.forwardAck 8080 false 0))] ++ appearTick ++
    answerForward (some 8080) ++
    [.host (.sent true), .container (.receive (.forwardAck 8080 true 8080))]

theorem session_agrees_prompt :
    ∃ trace finish, Run (Session.step .basic .basic "c") freshSession trace finish ∧
      trace.map Prod.snd = promptSession ∧
      Throughout (fun s => s.Quiescent "c" 1 → s.Agrees "c") trace finish := by
  have hRun : (execWhile (Session.step .basic .basic "c")
      (fun s action => decide (s.AcksCurrent "c" action)) freshSession promptSession).isSome := by
    decide +kernel
  obtain ⟨finish, hExec⟩ := Option.isSome_iff_exists.mp hRun
  obtain ⟨trace, hActions, run, hGuard⟩ := run_of_execWhile hExec
  have hAcks : Guarded (Session.AcksCurrent "c") trace :=
    fun entry hEntry => of_decide_eq_true (hGuard entry hEntry)
  exact ⟨trace, finish, run, hActions, session_agrees freshSession_begins run hAcks⟩

/-- The rejection of a first Forward is sent late. It arrives when an
Unforward and a second Forward have been handled, and takes the port out of
the map for good: the port vanishes before the next scan. -/
def staleSession : List SessionAction :=
  [.container (.enumerate []), .container .proceed] ++ appearTick ++ answerForward none ++ vanishTick ++
    appearTick ++
    [.host (.sent true), .host (.receive (.unforward 8080)), .host .proceed, .host .proceed, .host .proceed] ++
    answerForward (some 8080) ++
    [.host (.sent true), .container (.receive (.forwardAck 8080 false 0)),
      .container (.receive (.forwardAck 8080 true 8080)), .container (.scanned [] []),
      .container (.enumerate []), .container .proceed]

/-- The host is left with a forward that the container daemon has forgotten. -/
theorem session_disagrees_stale :
    ∃ trace finish, Run (Session.step .basic .basic "c") freshSession trace finish ∧
      trace.map Prod.snd = staleSession ∧ finish.Quiescent "c" 1 ∧ finish.container.forwarded = ∅ ∧
      (finish.ctx.state.forwardOf "c" 8080).isSome = true ∧ ¬finish.Agrees "c" := by
  have hRun : (exec (Session.step .basic .basic "c") freshSession staleSession).any fun s =>
      s.container.position == .loopHead && s.toHost.isEmpty && s.toContainer.isEmpty &&
        s.container.forwarded == ∅ && (s.ctx.state.forwardOf "c" 8080).isSome := by
    decide +kernel
  obtain ⟨finish, hExec, hState⟩ := (Option.any_eq_true _ _).mp hRun
  have hHandler : (exec (Session.step .basic .basic "c") freshSession staleSession).map Session.handler =
      some (.serving "c" 1) := rfl
  rw [hExec] at hHandler
  obtain ⟨trace, hActions, run⟩ := run_of_exec hExec
  simp only [Bool.and_eq_true, beq_iff_eq, List.isEmpty_iff] at hState
  obtain ⟨⟨⟨⟨hPosition, hHost⟩, hContainer⟩, hMap⟩, hForward⟩ := hState
  refine ⟨trace, finish, run, hActions, ⟨hPosition, hHost, hContainer, Option.some.inj hHandler⟩, hMap,
    hForward, fun hAgrees => ?_⟩
  have hHere := (hAgrees 8080).mpr hForward
  rw [hMap] at hHere
  exact Finmap.notMem_empty hHere

end DevcontainerBridge
