import DevcontainerBridge.Control.Chunking

/-! What a call of `read_message` takes from the stream. A call that is not
stopped by an Io error or by the end of the stream takes one line, also where
it skips most of it, and the line that it accumulates stays small. -/
namespace DevcontainerBridge

open Stream

variable {fromStr : String → Option Message} {failed : Bool} {text : String} {reading : Reading}
  {result : Except ControlError Message} {available seen : List UInt8} {chunks later : List (Chunk UInt8)}

/-- The line of `read_message` when it has dealt with some bytes. An oversized
line and bytes that are not UTF-8 leave it as it was. -/
def pushChunk (text : String) (available : List UInt8) : String :=
  match available.idxOf? newline with
  | some newlinePos => (fromUtf8 (available.take (newlinePos + 1))).elim text fun chunkStr => text ++ chunkStr
  | none =>
      if text.utf8ByteSize + available.length > maxMessageSize then text
      else (fromUtf8 available).elim text fun chunkStr => text ++ chunkStr

variable (fromStr) in
/-- The sizes of the line in the course of a call, each with the length of the
piece dealt with. Skipping the rest of an oversized line leaves it alone. -/
def lineSizes : Reading → List (Chunk UInt8) → List (Nat × Nat)
  | .line text, chunk :: chunks =>
      ((pushChunk text chunk.val).utf8ByteSize, chunk.val.length) ::
        match onChunk fromStr (.line text) chunk.val with
        | .next reading => lineSizes reading chunks
        | .done .. => []
  | _, _ => []

/-- Results after which the next call starts at a new line. -/
def staysInStep : Except ControlError Message → Bool
  | .ok _ | .error .deserialization | .error (.messageTooLarge _) => true
  | _ => false

/-- The bytes that a call has taken so far, by where it stands. -/
inductive Taken : Reading → List UInt8 → Prop where
  | line {text : String} (hLine : newline ∉ utf8 text) (hSize : text.utf8ByteSize ≤ maxMessageSize) :
      Taken (.line text) (utf8 text)
  | draining {size : Nat} {seen : List UInt8} (hLine : newline ∉ seen) (hSize : maxMessageSize < seen.length) :
      Taken (.draining size) seen

variable (fromStr) in
/-- How a call ends that stays in step: its result, what it has taken and what
is left. It has read a line, or skipped one that is too long, as far as the
stream has it. -/
inductive LineTaken : Except ControlError Message → List UInt8 → List UInt8 → Prop where
  | line {text : String} {line rest : List UInt8} (hLine : newline ∉ line) (hText : utf8 text = line ++ [newline]) :
      LineTaken (finishLine fromStr text) (line ++ [newline]) rest
  | skipped {size : Nat} {line rest : List UInt8} (hLine : newline ∉ line) (hSize : maxMessageSize < line.length) :
      LineTaken (.error (.messageTooLarge size)) (line ++ [newline]) rest
  | ended {size : Nat} {bytes : List UInt8} (hLine : newline ∉ bytes) (hSize : maxMessageSize < bytes.length) :
      LineTaken (.error (.messageTooLarge size)) bytes []

theorem pushChunk_piece (h : newline ∉ available) :
    pushChunk text available =
      if text.utf8ByteSize + available.length > maxMessageSize then text
      else (fromUtf8 available).elim text fun chunkStr => text ++ chunkStr := by
  unfold pushChunk
  rw [idxOf?_eq_none h]

theorem pushChunk_newline {line after : List UInt8} (h : newline ∉ line) :
    pushChunk text (line ++ newline :: after) =
      (fromUtf8 (line ++ [newline])).elim text fun chunkStr => text ++ chunkStr := by
  unfold pushChunk
  rw [idxOf?_append_cons h]
  dsimp only
  rw [take_line]

theorem length_decoded {piece : List UInt8} {chunkStr : String} (h : fromUtf8 piece = some chunkStr) :
    chunkStr.utf8ByteSize = piece.length := by
  rw [← length_utf8, fromUtf8_eq_some_iff.mp h]

/-- One piece makes the line longer by its own length at most. -/
theorem pushChunk_size (text : String) (available : List UInt8) :
    (pushChunk text available).utf8ByteSize ≤ text.utf8ByteSize + available.length := by
  have hElim : ∀ piece : List UInt8, piece.length ≤ available.length →
      ((fromUtf8 piece).elim text fun chunkStr => text ++ chunkStr).utf8ByteSize ≤
        text.utf8ByteSize + available.length := by
    intro piece hPiece
    cases hChunk : fromUtf8 piece with
    | none => exact Nat.le_add_right _ _
    | some chunkStr =>
        show (text ++ chunkStr).utf8ByteSize ≤ _
        rw [String.utf8ByteSize_append, length_decoded hChunk]
        omega
  unfold pushChunk
  split
  · exact hElim _ (List.length_take_le' _ _)
  · split_ifs
    · exact Nat.le_add_right _ _
    · exact hElim _ (le_refl _)

/-- A piece that does not end the call extends what has been taken. The line
that the call goes on with is the accumulated one. -/
theorem Taken.next {reading' : Reading} (h : Taken reading seen)
    (hChunk : onChunk fromStr reading available = .next reading') :
    Taken reading' (seen ++ available) ∧
      ∀ text text', reading = .line text → reading' = .line text' → text' = pushChunk text available := by
  rcases eq_line_or_append newline available with hPiece | ⟨line, rest, hPiece, rfl⟩
  · have hBoth : ∀ {front : List UInt8}, newline ∉ front → newline ∉ front ++ available := by
      intro front hFront hMember
      rcases List.mem_append.mp hMember with hHere | hThere
      · exact hFront hHere
      · exact hPiece hThere
    cases h with
    | @line text hLine hSize =>
        rw [onChunk_piece hPiece] at hChunk
        split_ifs at hChunk with hOver
        · cases hChunk
          refine ⟨.draining (hBoth hLine) ?_, fun _ _ _ hDraining => nomatch hDraining⟩
          rw [List.length_append, length_utf8]
          exact hOver
        · cases hText : fromUtf8 available with
          | none =>
              rw [hText] at hChunk
              cases hChunk
          | some chunkStr =>
              rw [hText] at hChunk
              cases hChunk
              have hBytes : utf8 text ++ available = utf8 (text ++ chunkStr) := by
                rw [utf8_append, fromUtf8_eq_some_iff.mp hText]
              constructor
              · rw [hBytes]
                apply Taken.line
                · rw [← hBytes]
                  exact hBoth hLine
                · rw [String.utf8ByteSize_append, length_decoded hText]
                  omega
              · intro text₁ text₂ hReading hReading'
                cases hReading
                cases hReading'
                rw [pushChunk_piece hPiece, if_neg hOver, hText]
                rfl
    | draining hLine hSize =>
        rw [onChunk_draining_piece hPiece] at hChunk
        cases hChunk
        refine ⟨.draining (hBoth hLine) ?_, fun _ _ hDraining => nomatch hDraining⟩
        rw [List.length_append]
        omega
  · -- a newline ends the call
    cases reading with
    | line text =>
        rw [onChunk_newline hPiece] at hChunk
        split at hChunk <;> cases hChunk
    | draining size =>
        rw [onChunk_draining_newline hPiece] at hChunk
        cases hChunk

/-- A piece that ends the call is taken up to its first newline. -/
theorem Taken.done {leftover : List UInt8} (h : Taken reading seen)
    (hChunk : onChunk fromStr reading available = .done result leftover) (hStep : staysInStep result = true) :
    ∃ front, available = front ++ leftover ∧ (∀ rest, LineTaken fromStr result (seen ++ front) rest) ∧
      ∀ text, reading = .line text → result = finishLine fromStr (pushChunk text available) := by
  rcases eq_line_or_append newline available with hPiece | ⟨line, after, hPiece, rfl⟩
  · -- without a newline only an Io error ends the call
    cases reading with
    | line text =>
        rw [onChunk_piece hPiece] at hChunk
        split_ifs at hChunk
        split at hChunk
        · cases hChunk
          cases hStep
        · cases hChunk
    | draining size =>
        rw [onChunk_draining_piece hPiece] at hChunk
        cases hChunk
  · have hWhole : line ++ newline :: after = (line ++ [newline]) ++ after := by simp
    have hBoth : ∀ {front : List UInt8}, newline ∉ front → newline ∉ front ++ line := by
      intro front hFront hMember
      rcases List.mem_append.mp hMember with hHere | hThere
      · exact hFront hHere
      · exact hPiece hThere
    cases h with
    | @line text hLine hSize =>
        rw [onChunk_newline hPiece] at hChunk
        cases hText : fromUtf8 (line ++ [newline]) with
        | none =>
            rw [hText] at hChunk
            cases hChunk
            cases hStep
        | some chunkStr =>
            rw [hText] at hChunk
            cases hChunk
            refine ⟨line ++ [newline], hWhole, fun rest => ?_, ?_⟩
            · rw [← List.append_assoc]
              apply LineTaken.line (hBoth hLine)
              rw [utf8_append, fromUtf8_eq_some_iff.mp hText, List.append_assoc]
            · intro text₁ hReading
              cases hReading
              rw [pushChunk_newline hPiece, hText]
              rfl
    | draining hLine hSize =>
        rw [onChunk_draining_newline hPiece] at hChunk
        cases hChunk
        refine ⟨line ++ [newline], hWhole, fun rest => ?_, fun _ hDraining => nomatch hDraining⟩
        rw [← List.append_assoc]
        apply LineTaken.skipped (hBoth hLine)
        rw [List.length_append]
        omega

/-- A whole call, from any place on its way. -/
theorem Taken.readFrom (h : Taken reading seen)
    (hRead : readFrom fromStr failed reading chunks = (result, later)) (hStep : staysInStep result = true) :
    ∃ taken, contents chunks = taken ++ contents later ∧
      LineTaken fromStr result (seen ++ taken) (contents later) := by
  induction chunks generalizing reading seen with
  | nil =>
      cases hRead
      refine ⟨[], rfl, ?_⟩
      cases h with
      | line => cases failed <;> cases hStep
      | draining hLine hSize =>
          cases failed with
          | true => cases hStep
          | false =>
              rw [List.append_nil]
              exact .ended hLine hSize
  | cons chunk chunks ih =>
      unfold DevcontainerBridge.readFrom at hRead
      cases hChunk : onChunk fromStr reading chunk.val with
      | next reading' =>
          rw [hChunk] at hRead
          obtain ⟨taken, hTaken, hLine⟩ := ih (h.next hChunk).1 hRead
          refine ⟨chunk.val ++ taken, ?_, ?_⟩
          · rw [contents_cons, hTaken, List.append_assoc]
          · rw [← List.append_assoc]
            exact hLine
      | done result' leftover =>
          rw [hChunk] at hRead
          cases hRead
          obtain ⟨front, hFront, hLine, -⟩ := h.done hChunk hStep
          refine ⟨front, ?_, hLine _⟩
          rw [contents_cons, contents_pushBack, hFront, List.append_assoc]

theorem taken_start : Taken (.line "") [] := by
  apply Taken.line
  · exact List.not_mem_nil
  · exact Nat.zero_le _

/-- What `read_message` takes when it stays in step. -/
theorem readMessage_taken (hRead : readMessage fromStr failed chunks = (result, later))
    (hStep : staysInStep result = true) :
    ∃ taken, contents chunks = taken ++ contents later ∧ LineTaken fromStr result taken (contents later) :=
  taken_start.readFrom hRead hStep

/-- The accumulated line exceeds the limit by one piece at most. -/
theorem Taken.lineSizes (h : Taken reading seen) :
    ∀ entry ∈ lineSizes fromStr reading chunks, entry.1 ≤ maxMessageSize + entry.2 := by
  induction chunks generalizing reading seen with
  | nil => cases reading <;> exact fun _ hEntry => nomatch hEntry
  | cons chunk chunks ih =>
      cases h with
      | draining => exact fun _ hEntry => nomatch hEntry
      | @line text hLine hSize =>
          intro entry hEntry
          rcases List.mem_cons.mp hEntry with rfl | hLater
          · exact (pushChunk_size text chunk.val).trans (Nat.add_le_add_right hSize _)
          · cases hChunk : onChunk fromStr (.line text) chunk.val with
            | next reading' =>
                rw [hChunk] at hLater
                exact ih ((Taken.line hLine hSize).next hChunk).1 entry hLater
            | done =>
                rw [hChunk] at hLater
                cases hLater

theorem LineTaken.through_newline {bytes rest : List UInt8} (h : LineTaken fromStr result bytes rest) :
    (∃ line, newline ∉ line ∧ bytes = line ++ [newline]) ∨
      (∃ size, result = .error (.messageTooLarge size)) ∧ newline ∉ bytes ∧ rest = [] := by
  cases h with
  | line hLine _ => exact .inl ⟨_, hLine, rfl⟩
  | skipped hLine _ => exact .inl ⟨_, hLine, rfl⟩
  | ended hLine _ => exact .inr ⟨⟨_, rfl⟩, hLine, rfl⟩

/-- A line is too large only if it is. -/
theorem LineTaken.tooLarge {size : Nat} {bytes rest : List UInt8}
    (h : LineTaken fromStr (.error (.messageTooLarge size)) bytes rest) : maxMessageSize < bytes.length := by
  generalize hResult : (Except.error (.messageTooLarge size) : Except ControlError Message) = result at h
  cases h with
  | @line text _ _ _ hText =>
      rw [← hText, length_utf8]
      unfold finishLine at hResult
      split_ifs at hResult with hOver
      · exact hOver
      · split at hResult <;> cases hResult
  | skipped _ hSize =>
      rw [List.length_append]
      omega
  | ended _ hSize => exact hSize

/-- A call that returns a message, a parse error or MessageTooLarge has taken
exactly one line, and it is too large only when its bytes exceed the limit.
The line that is accumulated on the way exceeds it by one piece at most. -/
theorem readMessage_staysInStep (fromStr : String → Option Message) (failed : Bool) (chunks : List (Chunk UInt8)) :
    (staysInStep (readMessage fromStr failed chunks).1 = true →
      ∃ taken, contents chunks = taken ++ contents (readMessage fromStr failed chunks).2 ∧
        ((∃ line, newline ∉ line ∧ taken = line ++ [newline]) ∨
          (∃ size, (readMessage fromStr failed chunks).1 = .error (.messageTooLarge size)) ∧
            newline ∉ taken ∧ contents (readMessage fromStr failed chunks).2 = []) ∧
        ∀ size, (readMessage fromStr failed chunks).1 = .error (.messageTooLarge size) →
          maxMessageSize < taken.length) ∧
      ∀ entry ∈ lineSizes fromStr (.line "") chunks, entry.1 ≤ maxMessageSize + entry.2 := by
  refine ⟨fun hStep => ?_, taken_start.lineSizes⟩
  obtain ⟨taken, hContents, hLine⟩ := readMessage_taken (Prod.eta _).symm hStep
  refine ⟨taken, hContents, hLine.through_newline, fun size hResult => ?_⟩
  rw [hResult] at hLine
  exact hLine.tooLarge

/-- A line that is too large is skipped to its newline, wherever it is cut. -/
theorem readMessage_oversized {line rest : List UInt8} (hNonempty : line ≠ []) (hRest : rest ≠ [])
    (hLine : newline ∉ line) (hSize : maxMessageSize < line.length) :
    readMessage fromStr false [⟨line, hNonempty⟩, ⟨newline :: rest, List.cons_ne_nil _ _⟩] =
      (.error (.messageTooLarge line.length), [⟨rest, hRest⟩]) := by
  have hNone : line.idxOf? newline = none := List.idxOf?_eq_none_iff.mpr hLine
  have hFirst : onChunk fromStr (.line "") line = .next (.draining line.length) := by
    simp only [onChunk, hNone, String.utf8ByteSize_empty, Nat.zero_add]
    rw [if_pos hSize]
  have hSecond : onChunk fromStr (.draining line.length) (newline :: rest) =
      .done (.error (.messageTooLarge line.length)) rest := by
    simp [onChunk, List.idxOf?_cons]
  simp only [readMessage, readFrom, hFirst, hSecond, pushBack, dif_neg hRest]

/-- The call skips a line of one byte too many and leaves the next line. -/
theorem readMessage_staysInStep_oversized : ∃ chunks : List (Chunk UInt8),
    contents chunks = List.replicate (maxMessageSize + 1) 97 ++ [newline, 98, newline] ∧
      (readMessage (fun _ => none) false chunks).1 = .error (.messageTooLarge (maxMessageSize + 1)) ∧
      contents (readMessage (fun _ => none) false chunks).2 = [98, newline] ∧
      ∃ taken, contents chunks = taken ++ [98, newline] ∧
        (∃ line, newline ∉ line ∧ taken = line ++ [newline]) ∧ maxMessageSize < taken.length := by
  have hLength : (List.replicate (maxMessageSize + 1) (97 : UInt8)).length = maxMessageSize + 1 :=
    List.length_replicate
  have hLine : newline ∉ List.replicate (maxMessageSize + 1) (97 : UInt8) := by
    intro hMember
    exact absurd (List.eq_of_mem_replicate hMember) (by decide)
  generalize List.replicate (maxMessageSize + 1) (97 : UInt8) = line at hLength hLine
  have hNonempty : line ≠ [] := List.ne_nil_of_length_pos (by omega)
  have hRead : readMessage (fun _ => none) false
      [⟨line, hNonempty⟩, ⟨newline :: [98, newline], List.cons_ne_nil _ _⟩] =
        (.error (.messageTooLarge line.length), [⟨[98, newline], List.cons_ne_nil _ _⟩]) :=
    readMessage_oversized hNonempty (List.cons_ne_nil 98 [newline]) hLine (by omega)
  rw [hLength] at hRead
  refine ⟨_, ?_, congrArg Prod.fst hRead, congrArg (fun read => contents read.2) hRead, ?_⟩
  · simp [contents]
  have hStaysInStep := (readMessage_staysInStep (fun _ => none) false
    [⟨line, hNonempty⟩, ⟨newline :: [98, newline], List.cons_ne_nil _ _⟩]).1
  rw [hRead] at hStaysInStep
  obtain ⟨taken, hContents, hTaken, hLarge⟩ := hStaysInStep rfl
  refine ⟨taken, hContents, hTaken.resolve_right ?_, hLarge _ rfl⟩
  rintro ⟨-, -, hNothing⟩
  cases hNothing

end DevcontainerBridge
