import DevcontainerBridge.Control.RoundTrip
import DevcontainerBridge.Transition.Run

/-! The message loops of host and container. In every iteration the branches
of a `select!` race; when another branch wins, the call of `read_message` that
was waiting for bytes is dropped together with the line it has collected. -/
namespace DevcontainerBridge

open Stream Transition

/-- Number of missed pongs before a container is considered dead. -/
def maxMissedPongs : Nat := 3

/-- Why a message loop has ended. -/
inductive LoopExit where
  | recv (error : ControlError)
  | dispatch
  | heartbeat
  | send
  | shutdown
  deriving DecidableEq, Repr

/-- A message loop between two awaits: what its connection still delivers,
where the current call of `read_message` stands and what has been dispatched.
The missed pongs are counted by the host only. -/
structure MessageLoop where
  chunks : List (Chunk UInt8)
  reading : Reading
  dispatched : List Message
  missedPongs : Nat
  exit : Option LoopExit

def MessageLoop.start (chunks : List (Chunk UInt8)) : MessageLoop where
  chunks := chunks
  reading := .line ""
  dispatched := []
  missedPongs := 0
  exit := none

/-- The `recv` branch, as far as the next piece of the stream carries it. The
outcome of a dispatch says whether the loop goes on after the message. -/
def MessageLoop.recv (fromStr : String → Option Message) (failed : Bool)
    (dispatch : Message → Option LoopExit) (s : MessageLoop) : MessageLoop :=
  match s.chunks with
  | [] => { s with exit := some (.recv (onEnd failed s.reading)) }
  | chunk :: chunks =>
      match onChunk fromStr s.reading chunk.val with
      | .next reading => { s with chunks := chunks, reading := reading }
      | .done (.ok message) leftover =>
          { s with
            chunks := pushBack leftover chunks
            reading := .line ""
            dispatched := s.dispatched ++ [message]
            missedPongs := if message = .pong then 0 else s.missedPongs
            exit := dispatch message }
      | .done (.error error) leftover =>
          { s with
            chunks := pushBack leftover chunks
            exit := some (.recv error) }

/-- Another branch completes: the call in progress is dropped, and the next
iteration makes a new one. -/
def MessageLoop.interrupt (exit : Option LoopExit) (s : MessageLoop) : MessageLoop :=
  { s with reading := .line "", exit := exit }

/-- The branches of `handle_container_messages`. -/
inductive HostBranch where
  | recv (dispatched : Bool)
  | connectRequest (sent : Bool)
  | outbound (sent : Bool)
  | heartbeat (sent : Bool)
  deriving DecidableEq, Repr

/-- One step of `handle_container_messages`. -/
def hostLoop (fromStr : String → Option Message) (failed : Bool) (s : MessageLoop) :
    HostBranch → Option MessageLoop
  | branch =>
      if s.exit.isSome then
        none
      else
        match branch with
        | .recv dispatched =>
            some (s.recv fromStr failed fun _ => if dispatched then none else some .dispatch)
        | .connectRequest _ => some (s.interrupt none)
        | .outbound _ => some (s.interrupt none)
        | .heartbeat sent =>
            let missed := s.missedPongs + 1
            let exit :=
              if missed > maxMissedPongs then some .heartbeat
              else if sent then none
              else some .send
            some { s.interrupt exit with missedPongs := missed }

/-- The branches of `run_session`. -/
inductive SessionBranch where
  | recv (sent : Bool)
  | scan (sent : Bool)
  | relay (sent : Bool)
  | shutdown
  deriving DecidableEq, Repr

/-- One step of `run_session`. -/
def sessionLoop (fromStr : String → Option Message) (failed : Bool) (s : MessageLoop) :
    SessionBranch → Option MessageLoop
  | branch =>
      if s.exit.isSome then
        none
      else
        match branch with
        | .recv sent =>
            some (s.recv fromStr failed fun message =>
              if message = .ping ∧ sent = false then some .send else none)
        | .scan sent => some (s.interrupt (if sent then none else some .send))
        | .relay sent => some (s.interrupt (if sent then none else some .send))
        | .shutdown => some (s.interrupt (some .shutdown))

/-- The messages are dispatched as they were written: in order, all of them
once nothing is left to read, and no error of the reader comes before that. -/
structure MessageLoop.Faithful (messages : List Message) (s : MessageLoop) : Prop where
  inOrder : s.dispatched <+: messages
  complete : s.chunks = [] → s.dispatched = messages
  undisturbed : ∀ error, s.exit = some (.recv error) → s.dispatched = messages

/-- The bytes that a call of `read_message` decodes from the next piece. -/
def decodedPart (available : List UInt8) : List UInt8 :=
  match available.idxOf? newline with
  | some newlinePos => available.take (newlinePos + 1)
  | none => available

/-- The next piece does not end inside a letter, as far as it is decoded. -/
def MessageLoop.WholeLetters (s : MessageLoop) : Prop :=
  ∀ chunk ∈ s.chunks.head?, ValidUtf8 (decodedPart chunk.val)

/-- No line has been begun. -/
def MessageLoop.BetweenLines (s : MessageLoop) : Prop :=
  s.reading = .line ""

/-- Other branches complete between two lines only. -/
def HostBranch.Undisturbed (s : MessageLoop) : HostBranch → Prop
  | .recv _ => s.WholeLetters
  | _ => s.BetweenLines

def SessionBranch.Undisturbed (s : MessageLoop) : SessionBranch → Prop
  | .recv _ => s.WholeLetters
  | _ => s.BetweenLines

instance (s : MessageLoop) : Decidable s.WholeLetters :=
  inferInstanceAs (Decidable (∀ chunk ∈ s.chunks.head?, ValidUtf8 (decodedPart chunk.val)))

instance (s : MessageLoop) : Decidable s.BetweenLines :=
  inferInstanceAs (Decidable (s.reading = .line ""))

instance (s : MessageLoop) (branch : HostBranch) : Decidable (branch.Undisturbed s) :=
  match branch with
  | .recv _ => inferInstanceAs (Decidable s.WholeLetters)
  | .connectRequest _ | .outbound _ | .heartbeat _ => inferInstanceAs (Decidable s.BetweenLines)

instance (s : MessageLoop) (branch : SessionBranch) : Decidable (branch.Undisturbed s) :=
  match branch with
  | .recv _ => inferInstanceAs (Decidable s.WholeLetters)
  | .scan _ | .relay _ | .shutdown => inferInstanceAs (Decidable s.BetweenLines)

/-- What `writeAll` puts on the wire. -/
def encode (messages : List Message) : List UInt8 :=
  messages.flatMap fun message => utf8 message.toJson ++ [newline]

theorem writeAll_eq_encode {messages : List Message} {bytes : List UInt8}
    (h : writeAll messages = .ok bytes) : bytes = encode messages := by
  induction messages generalizing bytes with
  | nil =>
      cases h
      rfl
  | cons message messages ih =>
      obtain ⟨more, hMore, rfl⟩ := writeAll_cons_ok h
      rw [ih hMore]
      simp [encode]

/-- The loop has read a part of the next message's line and nothing else. -/
def MessageLoop.InLine (messages : List Message) (s : MessageLoop) : Prop :=
  ∃ text rest, s.reading = .line text ∧ newline ∉ utf8 text ∧
    utf8 text ++ contents s.chunks = encode rest ∧ messages = s.dispatched ++ rest

theorem rest_eq_nil {text : String} {rest : List Message} (hText : newline ∉ utf8 text)
    (h : utf8 text = encode rest) : rest = [] := by
  cases rest with
  | nil => rfl
  | cons message rest =>
      rw [h] at hText
      exact absurd (by simp [encode]) hText

variable {fromStr : String → Option Message} {failed : Bool} {messages : List Message}
  {s : MessageLoop}

/-- One piece of a written line: it extends the line, or it completes the line
and the message is the one that was written. -/
theorem onChunk_written {message : Message} {text : String} {chunk later after : List UInt8}
    (hText : newline ∉ utf8 text) (hWhole : ValidUtf8 (decodedPart chunk))
    (hRoundTrip : fromStr message.toJson = some message)
    (hFits : message.toJson.utf8ByteSize < maxMessageSize)
    (hBytes : utf8 text ++ (chunk ++ later) = utf8 message.toJson ++ newline :: after) :
    (∃ text', onChunk fromStr (.line text) chunk = .next (.line text') ∧ newline ∉ utf8 text' ∧
        utf8 text' ++ later = utf8 message.toJson ++ newline :: after) ∨
      ∃ leftover, onChunk fromStr (.line text) chunk = .done (.ok message) leftover ∧
        leftover ++ later = after := by
  have hJson := newline_notMem_toJson message
  rcases piece_of_line hJson hBytes with ⟨-, line, hLine, hRest⟩ | ⟨tail, hHere, -⟩
  · have hNoNewline : newline ∉ line := by
      intro h
      apply hJson
      rw [hLine]
      exact List.mem_append_right _ h
    have hLength : message.toJson.utf8ByteSize = text.utf8ByteSize + line.length := by
      rw [← length_utf8, hLine, List.length_append, length_utf8]
    rcases piece_of_line hNoNewline hRest with ⟨hPiece, line', rfl, hLater⟩ | ⟨leftover, rfl, hAfter⟩
    · left
      rw [decodedPart, idxOf?_eq_none hPiece] at hWhole
      obtain ⟨chunkStr, hChunk⟩ := hWhole
      rw [List.length_append] at hLength
      have hStep := (onChunk_valid fromStr text hPiece hChunk (by omega)).1
      refine ⟨text ++ chunkStr, hStep, ?_, ?_⟩
      · rw [utf8_append, List.mem_append, not_or, hChunk]
        exact ⟨hText, hPiece⟩
      · rw [utf8_append, hChunk, hLater, hLine]
        simp
    · right
      rw [decodedPart, idxOf?_append_cons hNoNewline] at hWhole
      dsimp only at hWhole
      rw [take_line] at hWhole
      obtain ⟨body, hBody⟩ := hWhole
      have hFull : text ++ body = message.toJson.push newlineChar := by
        apply utf8_injective
        rw [utf8_append, hBody, utf8_push_newline, hLine, List.append_assoc]
      have hEnds : onChunk fromStr (.line text) (line ++ newline :: leftover) =
          .done (finishLine fromStr (text ++ body)) leftover := onChunk_ends hNoNewline hBody
      rw [hFull, finishLine_toJson hRoundTrip, if_pos hFits] at hEnds
      exact ⟨leftover, hEnds, hAfter.symm⟩
  · exact absurd (hHere ▸ by simp) hText

/-- The invariant of an undisturbed loop. -/
structure MessageLoop.Sound (messages : List Message) (s : MessageLoop) : Prop where
  inLine : s.InLine messages
  undisturbed : ∀ error, s.exit = some (.recv error) → s.dispatched = messages

theorem MessageLoop.Sound.faithful (h : s.Sound messages) : s.Faithful messages where
  inOrder := by
    obtain ⟨text, rest, -, -, -, hMessages⟩ := h.inLine
    exact ⟨rest, hMessages.symm⟩
  complete := by
    intro hChunks
    obtain ⟨text, rest, -, hText, hBytes, hMessages⟩ := h.inLine
    rw [hChunks, contents_nil, List.append_nil] at hBytes
    rw [hMessages, rest_eq_nil hText hBytes, List.append_nil]
  undisturbed := h.undisturbed

theorem MessageLoop.Sound.recv (h : s.Sound messages)
    (hRoundTrip : ∀ message ∈ messages, fromStr message.toJson = some message)
    (hFits : ∀ message ∈ messages, message.toJson.utf8ByteSize < maxMessageSize)
    (hWhole : s.WholeLetters) {dispatch : Message → Option LoopExit}
    (hDispatch : ∀ message error, dispatch message ≠ some (.recv error)) :
    (s.recv fromStr failed dispatch).Sound messages := by
  obtain ⟨text, rest, hReading, hText, hBytes, hMessages⟩ := h.inLine
  unfold MessageLoop.recv
  split
  case h_1 hChunks =>
    refine ⟨⟨text, rest, hReading, hText, hBytes, hMessages⟩, fun _ _ => ?_⟩
    exact h.faithful.complete hChunks
  case h_2 chunk chunks hChunks =>
    rw [hChunks, contents_cons] at hBytes
    have hRest : ∃ message more, rest = message :: more := by
      cases rest with
      | nil =>
          have hEmpty := List.append_eq_nil_iff.mp hBytes
          exact absurd (List.append_eq_nil_iff.mp hEmpty.2).1 chunk.property
      | cons message more => exact ⟨message, more, rfl⟩
    obtain ⟨message, more, rfl⟩ := hRest
    have hMember : message ∈ messages := by
      rw [hMessages]
      exact List.mem_append_right _ List.mem_cons_self
    have hHead : encode (message :: more) = utf8 message.toJson ++ newline :: encode more := by
      simp [encode]
    rw [hHead] at hBytes
    rw [hReading]
    have hPiece : ValidUtf8 (decodedPart chunk.val) := hWhole chunk (by rw [hChunks]; rfl)
    rcases onChunk_written hText hPiece (hRoundTrip message hMember)
      (hFits message hMember) hBytes with ⟨text', hNext, hText', hBytes'⟩ | ⟨leftover, hDone, hLater⟩
    · rw [hNext]
      exact ⟨⟨text', _, rfl, hText', hBytes'.trans hHead.symm, hMessages⟩, h.undisturbed⟩
    · rw [hDone]
      refine ⟨⟨"", more, rfl, List.not_mem_nil, ?_, ?_⟩, fun error hExit => ?_⟩
      · rw [utf8_empty, List.nil_append, contents_pushBack]
        exact hLater
      · rw [hMessages, List.append_assoc]
        rfl
      · exact absurd hExit (hDispatch message error)

theorem MessageLoop.Sound.interrupt (h : s.Sound messages) (hBetween : s.BetweenLines)
    {exit : Option LoopExit} (hExit : ∀ error, exit ≠ some (.recv error)) :
    (s.interrupt exit).Sound messages := by
  obtain ⟨text, rest, hReading, hText, hBytes, hMessages⟩ := h.inLine
  have hEmpty : text = "" := Reading.line.inj (hReading.symm.trans hBetween)
  subst hEmpty
  exact ⟨⟨"", rest, rfl, hText, hBytes, hMessages⟩, fun error hHere => absurd hHere (hExit error)⟩

variable {s' : MessageLoop}

theorem hostLoop_sound {branch : HostBranch} (h : s.Sound messages)
    (hRoundTrip : ∀ message ∈ messages, fromStr message.toJson = some message)
    (hFits : ∀ message ∈ messages, message.toJson.utf8ByteSize < maxMessageSize)
    (hBranch : branch.Undisturbed s) (hStep : hostLoop fromStr failed s branch = some s') :
    s'.Sound messages := by
  unfold hostLoop at hStep
  split_ifs at hStep
  cases branch with
  | recv dispatched =>
      cases hStep
      apply h.recv hRoundTrip hFits hBranch
      intro message error
      split_ifs <;> simp
  | connectRequest sent =>
      cases hStep
      exact h.interrupt hBranch (by simp)
  | outbound sent =>
      cases hStep
      exact h.interrupt hBranch (by simp)
  | heartbeat sent =>
      have hExit : ∀ error, (if s.missedPongs + 1 > maxMissedPongs then some LoopExit.heartbeat
          else if sent then none else some .send) ≠ some (.recv error) := by
        intro error
        split_ifs <;> simp
      cases hStep
      have hNext := h.interrupt hBranch hExit
      exact ⟨hNext.inLine, hNext.undisturbed⟩

theorem sessionLoop_sound {branch : SessionBranch} (h : s.Sound messages)
    (hRoundTrip : ∀ message ∈ messages, fromStr message.toJson = some message)
    (hFits : ∀ message ∈ messages, message.toJson.utf8ByteSize < maxMessageSize)
    (hBranch : branch.Undisturbed s) (hStep : sessionLoop fromStr failed s branch = some s') :
    s'.Sound messages := by
  have hSend : ∀ sent : Bool, ∀ error,
      (if sent then none else some LoopExit.send) ≠ some (.recv error) := by
    intro sent error
    split_ifs <;> simp
  unfold sessionLoop at hStep
  split_ifs at hStep
  cases branch with
  | recv sent =>
      cases hStep
      apply h.recv hRoundTrip hFits hBranch
      intro message error
      split_ifs <;> simp
  | scan sent =>
      cases hStep
      exact h.interrupt hBranch (hSend sent)
  | relay sent =>
      cases hStep
      exact h.interrupt hBranch (hSend sent)
  | shutdown =>
      cases hStep
      exact h.interrupt hBranch (by simp)

theorem MessageLoop.start_sound {bytes : List UInt8} {chunks : List (Chunk UInt8)}
    (hWritten : writeAll messages = .ok bytes) (hChunks : contents chunks = bytes) :
    (MessageLoop.start chunks).Sound messages := by
  refine ⟨⟨"", messages, rfl, List.not_mem_nil, ?_, rfl⟩, fun error hExit => nomatch hExit⟩
  rw [utf8_empty, List.nil_append, ← writeAll_eq_encode hWritten]
  exact hChunks

/-- In every run of either loop in which the other branches complete between
two lines and no piece ends inside a letter, messages that leave room for their
newline are dispatched as they were written. -/
theorem dispatched_as_written {bytes : List UInt8} {chunks : List (Chunk UInt8)}
    (hWritten : writeAll messages = .ok bytes) (hChunks : contents chunks = bytes)
    (hRoundTrip : ∀ message ∈ messages, fromStr message.toJson = some message)
    (hFits : ∀ message ∈ messages, message.toJson.utf8ByteSize < maxMessageSize) :
    (∀ trace s, Run (hostLoop fromStr failed) (.start chunks) trace s →
      Guarded (fun s branch => branch.Undisturbed s) trace →
      Throughout (MessageLoop.Faithful messages) trace s) ∧
    ∀ trace s, Run (sessionLoop fromStr failed) (.start chunks) trace s →
      Guarded (fun s branch => branch.Undisturbed s) trace →
      Throughout (MessageLoop.Faithful messages) trace s := by
  have hStart := MessageLoop.start_sound hWritten hChunks
  have hFaithful : ∀ {Branch : Type} (trace : List (MessageLoop × Branch)) (s : MessageLoop),
      Throughout (MessageLoop.Sound messages) trace s →
        Throughout (MessageLoop.Faithful messages) trace s :=
    fun trace s h => ⟨fun entry hEntry => (h.1 entry hEntry).faithful, h.2.faithful⟩
  constructor
  · intro trace s run hGuard
    apply hFaithful
    apply run.throughout hGuard hStart
    intro middle branch after h hBranch hStep
    exact hostLoop_sound h hRoundTrip hFits hBranch hStep
  · intro trace s run hGuard
    apply hFaithful
    apply run.throughout hGuard hStart
    intro middle branch after h hBranch hStep
    exact sessionLoop_sound h hRoundTrip hFits hBranch hStep

/-- The bytes of a heartbeat, with the first six in a piece of their own. -/
def splitPing : List (Chunk UInt8) :=
  pushBack ((encode [.ping]).take 6) (contiguous ((encode [.ping]).drop 6))

theorem contents_splitPing : writeAll [.ping] = .ok (contents splitPing) := by
  rw [splitPing, contents_pushBack, contents_contiguous, List.take_append_drop]
  rfl

/-- Both loops read the two pieces without a break and go on with another branch. -/
theorem dispatched_as_written_heartbeat :
    (∃ trace s, Run (hostLoop parseHeartbeat false) (.start splitPing) trace s ∧
      trace.map Prod.snd = [.recv true, .recv true, .heartbeat true] ∧
      Throughout (MessageLoop.Faithful [.ping]) trace s) ∧
    ∃ trace s, Run (sessionLoop parseHeartbeat false) (.start splitPing) trace s ∧
      trace.map Prod.snd = [.recv true, .recv true, .scan true] ∧
      Throughout (MessageLoop.Faithful [.ping]) trace s := by
  have hHost : (execWhile (hostLoop parseHeartbeat false) (fun s branch => decide (branch.Undisturbed s))
      (.start splitPing) [.recv true, .recv true, .heartbeat true]).isSome := by
    decide
  have hSession : (execWhile (sessionLoop parseHeartbeat false)
      (fun s branch => decide (branch.Undisturbed s)) (.start splitPing)
      [.recv true, .recv true, .scan true]).isSome := by
    decide
  obtain ⟨s, hHost⟩ := Option.isSome_iff_exists.mp hHost
  obtain ⟨trace, hActions, run, hGuard⟩ := run_of_execWhile hHost
  obtain ⟨s', hSession⟩ := Option.isSome_iff_exists.mp hSession
  obtain ⟨trace', hActions', run', hGuard'⟩ := run_of_execWhile hSession
  simp only [decide_eq_true_eq] at hGuard hGuard'
  have hRoundTrip : ∀ message ∈ [Message.ping], parseHeartbeat message.toJson = some message := by
    decide
  have hBoth := @dispatched_as_written parseHeartbeat false [.ping] _ _ contents_splitPing rfl
    hRoundTrip (by decide)
  exact ⟨⟨trace, s, run, hActions, hBoth.1 trace s run hGuard⟩,
    ⟨trace', s', run', hActions', hBoth.2 trace' s' run' hGuard'⟩⟩

/-- A heartbeat tick or a scan tick between the two pieces: the first six bytes
are lost, and the rest of the line is not a message. -/
theorem dispatched_lost_between_pieces :
    (∃ s, exec (hostLoop parseHeartbeat false) (.start splitPing)
        [.recv true, .heartbeat true, .recv true] = some s ∧
      s.dispatched = [] ∧ s.chunks = [] ∧ s.exit = some (.recv .deserialization) ∧
      ¬s.Faithful [.ping]) ∧
    ∃ s, exec (sessionLoop parseHeartbeat false) (.start splitPing)
        [.recv true, .scan true, .recv true] = some s ∧
      s.dispatched = [] ∧ s.chunks = [] ∧ s.exit = some (.recv .deserialization) ∧
      ¬s.Faithful [.ping] := by
  have hLost : ∀ s : MessageLoop, s.dispatched = [] ∧ s.chunks = [] ∧
      s.exit = some (.recv .deserialization) → ¬s.Faithful [.ping] := by
    rintro s ⟨hNone, hRead, -⟩ h
    have hAll := h.complete hRead
    rw [hNone] at hAll
    cases hAll
  have hHost : (exec (hostLoop parseHeartbeat false) (.start splitPing)
      [.recv true, .heartbeat true, .recv true]).any fun s =>
        decide (s.dispatched = [] ∧ s.chunks = [] ∧ s.exit = some (.recv .deserialization)) := by
    decide
  have hSession : (exec (sessionLoop parseHeartbeat false) (.start splitPing)
      [.recv true, .scan true, .recv true]).any fun s =>
        decide (s.dispatched = [] ∧ s.chunks = [] ∧ s.exit = some (.recv .deserialization)) := by
    decide
  obtain ⟨s, hExec, hState⟩ := (Option.any_eq_true _ _).mp hHost
  obtain ⟨s', hExec', hState'⟩ := (Option.any_eq_true _ _).mp hSession
  rw [decide_eq_true_eq] at hState hState'
  exact ⟨⟨s, hExec, hState.1, hState.2.1, hState.2.2, hLost s hState⟩,
    ⟨s', hExec', hState'.1, hState'.2.1, hState'.2.2, hLost s' hState'⟩⟩

end DevcontainerBridge
