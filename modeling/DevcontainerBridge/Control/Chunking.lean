import DevcontainerBridge.Control.Framing

/-! How the results of `read_message` depend on where the stream is cut. The
size limit and the UTF-8 check are applied to each piece that arrives, so the
results are the same for all cuts only when every cut of each line leads to
the same verdict. -/
namespace DevcontainerBridge

open Stream

variable {fromStr : String → Option Message} {failed : Bool} {text : String}
  {line rest piece after : List UInt8} {chunks : List (Chunk UInt8)}

theorem newline_ascii : newline < 128 := by decide

theorem isAscii_append_newline (h : IsAscii line) : IsAscii (line ++ [newline]) := by
  intro b hb
  rcases List.mem_append.mp hb with hBefore | hLast
  · exact h b hBefore
  · rw [List.mem_singleton.mp hLast]
    exact newline_ascii

theorem take_line (line after : List UInt8) :
    (line ++ newline :: after).take (line.length + 1) = line ++ [newline] := by
  have hSplit : line ++ newline :: after = (line ++ [newline]) ++ after := by simp
  rw [hSplit]
  exact List.take_left' (by simp)

theorem drop_line (line after : List UInt8) :
    (line ++ newline :: after).drop (line.length + 1) = after := by
  have hSplit : line ++ newline :: after = (line ++ [newline]) ++ after := by simp
  rw [hSplit]
  exact List.drop_left' (by simp)

/-- A piece without newline is checked against the limit first and decoded then. -/
theorem onChunk_piece (h : newline ∉ piece) :
    onChunk fromStr (.line text) piece =
      if text.utf8ByteSize + piece.length > maxMessageSize then
        .next (.draining (text.utf8ByteSize + piece.length))
      else
        match fromUtf8 piece with
        | none => .done (.error .io) piece
        | some chunkStr => .next (.line (text ++ chunkStr)) := by
  cases hDecode : fromUtf8 piece <;> simp only [onChunk, idxOf?_eq_none h, hDecode]

/-- A piece with the end of the line is decoded up to there. -/
theorem onChunk_newline (h : newline ∉ line) :
    onChunk fromStr (.line text) (line ++ newline :: after) =
      match fromUtf8 (line ++ [newline]) with
      | none => .done (.error .io) (line ++ newline :: after)
      | some chunkStr => .done (finishLine fromStr (text ++ chunkStr)) after := by
  cases hDecode : fromUtf8 (line ++ [newline]) <;>
    simp only [onChunk, idxOf?_append_cons h, take_line, drop_line, hDecode]

theorem onChunk_draining_piece {size : Nat} (h : newline ∉ piece) :
    onChunk fromStr (.draining size) piece = .next (.draining size) := by
  simp only [onChunk, idxOf?_eq_none h]

theorem onChunk_draining_newline {size : Nat} (h : newline ∉ line) :
    onChunk fromStr (.draining size) (line ++ newline :: after) =
      .done (.error (.messageTooLarge size)) after := by
  simp only [onChunk, idxOf?_append_cons h, drop_line]

theorem readFrom_next {reading reading' : Reading} {chunk : Chunk UInt8}
    (h : onChunk fromStr reading chunk.val = .next reading') :
    readFrom fromStr failed reading (chunk :: chunks) = readFrom fromStr failed reading' chunks := by
  simp only [readFrom, h]

theorem readFrom_done {reading : Reading} {chunk : Chunk UInt8} {result : Except ControlError Message}
    (h : onChunk fromStr reading chunk.val = .done result after) :
    readFrom fromStr failed reading (chunk :: chunks) = (result, pushBack after chunks) := by
  simp only [readFrom, h]

/-- An oversized line is skipped up to its end. -/
theorem readFrom_draining (size : Nat) (hLine : newline ∉ line)
    (hContents : contents chunks = line ++ newline :: rest) :
    ∃ later, contents later = rest ∧
      readFrom fromStr failed (.draining size) chunks = (.error (.messageTooLarge size), later) := by
  induction chunks generalizing line with
  | nil => exact absurd hContents (by simp)
  | cons chunk chunks ih =>
      rcases piece_of_line hLine hContents with ⟨hPiece, line', rfl, hLater⟩ | ⟨after, hHere, hRest⟩
      · have hLine' : newline ∉ line' := fun h => hLine (List.mem_append_right chunk.val h)
        rw [readFrom_next (onChunk_draining_piece hPiece)]
        exact ih hLine' hLater
      · refine ⟨pushBack after chunks, (contents_pushBack _ _).trans hRest.symm, ?_⟩
        exact readFrom_done (by rw [hHere]; exact onChunk_draining_newline hLine)

theorem readFrom_draining_end {size : Nat} (h : newline ∉ contents chunks) :
    readFrom fromStr failed (.draining size) chunks = (.error (onEnd failed (.draining size)), []) := by
  induction chunks with
  | nil => rfl
  | cons chunk chunks ih =>
      rw [contents_cons, List.mem_append, not_or] at h
      rw [readFrom_next (onChunk_draining_piece h.1)]
      exact ih h.2

/-- A valid piece within the limit extends the line. -/
theorem onChunk_valid (fromStr : String → Option Message) (text : String) {chunkStr : String}
    (h : newline ∉ piece) (hPiece : utf8 chunkStr = piece)
    (hSize : text.utf8ByteSize + piece.length ≤ maxMessageSize) :
    onChunk fromStr (.line text) piece = .next (.line (text ++ chunkStr)) ∧
      (text ++ chunkStr).utf8ByteSize = text.utf8ByteSize + piece.length := by
  subst hPiece
  rw [onChunk_piece h, if_neg (by omega), fromUtf8_utf8, String.utf8ByteSize_append, length_utf8]
  exact ⟨rfl, rfl⟩

theorem onChunk_broken (h : newline ∉ piece) (hInvalid : ¬ValidUtf8 piece)
    (hSize : text.utf8ByteSize + piece.length ≤ maxMessageSize) :
    onChunk fromStr (.line text) piece = .done (.error .io) piece := by
  rw [onChunk_piece h, if_neg (by omega), fromUtf8_eq_none_iff.mpr hInvalid]

theorem onChunk_overflows (h : newline ∉ piece)
    (hSize : maxMessageSize < text.utf8ByteSize + piece.length) :
    onChunk fromStr (.line text) piece = .next (.draining (text.utf8ByteSize + piece.length)) := by
  rw [onChunk_piece h, if_pos hSize]

theorem onChunk_ends {body : String} (h : newline ∉ line) (hBody : utf8 body = line ++ [newline]) :
    onChunk fromStr (.line text) (line ++ newline :: after) =
      .done (finishLine fromStr (text ++ body)) after := by
  rw [onChunk_newline h, ← hBody, fromUtf8_utf8]

theorem onChunk_ends_broken (h : newline ∉ line) (hInvalid : ¬ValidUtf8 line) :
    onChunk fromStr (.line text) (line ++ newline :: after) =
      .done (.error .io) (line ++ newline :: after) := by
  have hWhole : ¬ValidUtf8 (line ++ [newline]) := by
    rw [validUtf8_concat_iff newline_ascii]
    exact hInvalid
  rw [onChunk_newline h, fromUtf8_eq_none_iff.mpr hWhole]

/-- A valid piece within the limit makes the line longer by its length. -/
theorem readFrom_valid (fromStr : String → Option Message) (failed : Bool) (text : String)
    (chunks : List (Chunk UInt8)) {chunk : Chunk UInt8} (h : newline ∉ chunk.val)
    (hValid : ValidUtf8 chunk.val) (hSize : text.utf8ByteSize + chunk.val.length ≤ maxMessageSize) :
    ∃ text' : String, text'.utf8ByteSize = text.utf8ByteSize + chunk.val.length ∧
      readFrom fromStr failed (.line text) (chunk :: chunks) =
        readFrom fromStr failed (.line text') chunks := by
  obtain ⟨chunkStr, hChunk⟩ := hValid
  obtain ⟨hStep, hLength⟩ := onChunk_valid fromStr text h hChunk hSize
  exact ⟨text ++ chunkStr, hLength, readFrom_next hStep⟩

/-- An ASCII line within the limit is decoded whole however it is cut. -/
theorem readFrom_ascii {body : String} (hLine : newline ∉ line) (hAscii : IsAscii line)
    (hSize : text.utf8ByteSize + line.length ≤ maxMessageSize) (hBody : utf8 body = line ++ [newline])
    (hContents : contents chunks = line ++ newline :: rest) :
    ∃ later, contents later = rest ∧
      readFrom fromStr failed (.line text) chunks = (finishLine fromStr (text ++ body), later) := by
  induction chunks generalizing line text body with
  | nil => exact absurd hContents (by simp)
  | cons chunk chunks ih =>
      rcases piece_of_line hLine hContents with ⟨hPiece, line', rfl, hLater⟩ | ⟨after, hHere, hRest⟩
      · have hFront : IsAscii chunk.val := fun b hb => hAscii b (List.mem_append_left line' hb)
        have hBack : IsAscii line' := fun b hb => hAscii b (List.mem_append_right chunk.val hb)
        have hLine' : newline ∉ line' := fun h => hLine (List.mem_append_right chunk.val h)
        obtain ⟨chunkStr, hChunk⟩ := hFront.valid
        obtain ⟨body', hBody'⟩ := (isAscii_append_newline hBack).valid
        have hWhole : body = chunkStr ++ body' := by
          apply utf8_injective
          rw [utf8_append, hBody, hChunk, hBody', List.append_assoc]
        rw [List.length_append] at hSize
        obtain ⟨hStep, hLength⟩ := onChunk_valid fromStr text hPiece hChunk (by omega)
        rw [readFrom_next hStep, hWhole, ← String.append_assoc]
        exact ih hLine' hBack (by omega) hBody' hLater
      · refine ⟨pushBack after chunks, (contents_pushBack _ _).trans hRest.symm, ?_⟩
        exact readFrom_done (by rw [hHere]; exact onChunk_ends hLine hBody)

/-- A line within the limit that is not UTF-8 is an Io error however it is cut. -/
theorem readFrom_invalid (hLine : newline ∉ line) (hInvalid : ¬ValidUtf8 line)
    (hSize : text.utf8ByteSize + line.length ≤ maxMessageSize)
    (hContents : contents chunks = line ++ newline :: rest) :
    (readFrom fromStr failed (.line text) chunks).1 = .error .io := by
  induction chunks generalizing line text with
  | nil => exact absurd hContents (by simp)
  | cons chunk chunks ih =>
      rcases piece_of_line hLine hContents with ⟨hPiece, line', rfl, hLater⟩ | ⟨after, hHere, hRest⟩
      · have hLine' : newline ∉ line' := fun h => hLine (List.mem_append_right chunk.val h)
        rw [List.length_append] at hSize
        by_cases hChunk : ValidUtf8 chunk.val
        · have hInvalid' : ¬ValidUtf8 line' := fun h => hInvalid (hChunk.append h)
          obtain ⟨text', hLength, hNext⟩ :=
            readFrom_valid fromStr failed text chunks hPiece hChunk (by omega)
          rw [hNext]
          exact ih hLine' hInvalid' (by omega) hLater
        · rw [readFrom_done (onChunk_broken hPiece hChunk (by omega))]
      · rw [readFrom_done (by rw [hHere]; exact onChunk_ends_broken hLine hInvalid)]

theorem finishLine_tooLarge {full : String} (h : maxMessageSize < full.utf8ByteSize) :
    finishLine fromStr full = .error (.messageTooLarge full.utf8ByteSize) :=
  if_pos h

/-- The part of a line that is read before it overflows is a prefix of what
fits into the limit. -/
theorem isAscii_of_take {front back : List UInt8} {limit : Nat}
    (h : IsAscii ((front ++ back).take limit)) (hSize : front.length ≤ limit) :
    IsAscii front ∧ IsAscii (back.take (limit - front.length)) := by
  rw [List.take_append, List.take_of_length_le hSize] at h
  exact ⟨fun b hb => h b (List.mem_append_left _ hb), fun b hb => h b (List.mem_append_right _ hb)⟩

/-- A line over the limit is reported as too large however it is cut, when it
is ASCII as far as the limit and UTF-8 as a whole. -/
theorem readFrom_oversized (text : String) (hLine : newline ∉ line)
    (hText : text.utf8ByteSize ≤ maxMessageSize)
    (hAscii : IsAscii (line.take (maxMessageSize - text.utf8ByteSize))) (hValid : ValidUtf8 line)
    (hSize : maxMessageSize < text.utf8ByteSize + line.length)
    (hContents : contents chunks = line ++ newline :: rest) :
    ∃ size later, contents later = rest ∧
      readFrom fromStr failed (.line text) chunks = (.error (.messageTooLarge size), later) := by
  induction chunks generalizing line text with
  | nil => exact absurd hContents (by simp)
  | cons chunk chunks ih =>
      rcases piece_of_line hLine hContents with ⟨hPiece, line', rfl, hLater⟩ | ⟨after, hHere, hRest⟩
      · have hLine' : newline ∉ line' := fun h => hLine (List.mem_append_right chunk.val h)
        rw [List.length_append] at hSize
        by_cases hOver : maxMessageSize < text.utf8ByteSize + chunk.val.length
        · obtain ⟨later, hRest, hRead⟩ := readFrom_draining (text.utf8ByteSize + chunk.val.length)
            hLine' hLater
          exact ⟨_, later, hRest, (readFrom_next (onChunk_overflows hPiece hOver)).trans hRead⟩
        · obtain ⟨hFront, hBack⟩ := isAscii_of_take hAscii (by omega)
          obtain ⟨text', hLength, hNext⟩ :=
            readFrom_valid fromStr failed text chunks hPiece hFront.valid (by omega)
          rw [hNext]
          apply ih _ hLine' (by omega) _ ((validUtf8_append_iff hFront).mp hValid) (by omega) hLater
          rw [hLength, Nat.sub_add_eq]
          exact hBack
      · obtain ⟨body, hBody⟩ := (validUtf8_concat_iff newline_ascii).mpr hValid
        have hFull : maxMessageSize < (text ++ body).utf8ByteSize := by
          rw [String.utf8ByteSize_append, ← length_utf8 body, hBody, List.length_append]
          omega
        have hEnds : onChunk fromStr (.line text) (line ++ newline :: after) =
            .done (finishLine fromStr (text ++ body)) after := onChunk_ends hLine hBody
        rw [finishLine_tooLarge hFull, ← hHere] at hEnds
        exact ⟨_, pushBack after chunks, (contents_pushBack _ _).trans hRest.symm, readFrom_done hEnds⟩

/-- Without a newline to come, a failing stream ends in an Io error. -/
theorem readFrom_tail_failed (h : newline ∉ contents chunks) (reading : Reading) :
    (readFrom fromStr true reading chunks).1 = .error .io := by
  induction chunks generalizing reading with
  | nil => cases reading <;> rfl
  | cons chunk chunks ih =>
      rw [contents_cons, List.mem_append, not_or] at h
      cases reading with
      | draining size =>
          rw [readFrom_next (onChunk_draining_piece h.1)]
          exact ih h.2 _
      | line text =>
          by_cases hOver : maxMessageSize < text.utf8ByteSize + chunk.val.length
          · rw [readFrom_next (onChunk_overflows h.1 hOver)]
            exact ih h.2 _
          · by_cases hChunk : ValidUtf8 chunk.val
            · obtain ⟨text', -, hNext⟩ := readFrom_valid fromStr true text chunks h.1 hChunk (by omega)
              rw [hNext]
              exact ih h.2 _
            · rw [readFrom_done (onChunk_broken h.1 hChunk (by omega))]

/-- An ASCII tail within the limit is dropped at the end of the stream. -/
theorem readFrom_tail_ascii (fromStr : String → Option Message) (text : String)
    (h : newline ∉ contents chunks) (hAscii : IsAscii (contents chunks))
    (hSize : text.utf8ByteSize + (contents chunks).length ≤ maxMessageSize) :
    readFrom fromStr false (.line text) chunks = (.error .connectionClosed, []) := by
  induction chunks generalizing text with
  | nil => rfl
  | cons chunk chunks ih =>
      rw [contents_cons, List.mem_append, not_or] at h
      rw [contents_cons, List.length_append] at hSize
      have hFront : IsAscii chunk.val := fun b hb => hAscii b (List.mem_append_left _ hb)
      have hBack : IsAscii (contents chunks) := fun b hb => hAscii b (List.mem_append_right _ hb)
      obtain ⟨text', hLength, hNext⟩ :=
        readFrom_valid fromStr false text chunks h.1 hFront.valid (by omega)
      rw [hNext]
      exact ih _ h.2 hBack (by omega)

theorem readFrom_tail_invalid (h : newline ∉ contents chunks) (hInvalid : ¬ValidUtf8 (contents chunks))
    (hSize : text.utf8ByteSize + (contents chunks).length ≤ maxMessageSize) :
    (readFrom fromStr failed (.line text) chunks).1 = .error .io := by
  induction chunks generalizing text with
  | nil => exact absurd validUtf8_nil hInvalid
  | cons chunk chunks ih =>
      rw [contents_cons, List.mem_append, not_or] at h
      rw [contents_cons, List.length_append] at hSize
      by_cases hChunk : ValidUtf8 chunk.val
      · have hInvalid' : ¬ValidUtf8 (contents chunks) := fun hLater => hInvalid (hChunk.append hLater)
        obtain ⟨text', hLength, hNext⟩ :=
          readFrom_valid fromStr failed text chunks h.1 hChunk (by omega)
        rw [hNext]
        exact ih h.2 hInvalid' (by omega)
      · rw [readFrom_done (onChunk_broken h.1 hChunk (by omega))]

/-- A tail over the limit is reported as too large when it is ASCII as far as
the limit. -/
theorem readFrom_tail_oversized (fromStr : String → Option Message) (text : String)
    (h : newline ∉ contents chunks)
    (hText : text.utf8ByteSize ≤ maxMessageSize)
    (hAscii : IsAscii ((contents chunks).take (maxMessageSize - text.utf8ByteSize)))
    (hSize : maxMessageSize < text.utf8ByteSize + (contents chunks).length) :
    ∃ size, readFrom fromStr false (.line text) chunks = (.error (.messageTooLarge size), []) := by
  induction chunks generalizing text with
  | nil =>
      rw [contents_nil, List.length_nil] at hSize
      omega
  | cons chunk chunks ih =>
      rw [contents_cons, List.mem_append, not_or] at h
      rw [contents_cons, List.length_append] at hSize
      by_cases hOver : maxMessageSize < text.utf8ByteSize + chunk.val.length
      · rw [readFrom_next (onChunk_overflows h.1 hOver), readFrom_draining_end h.2]
        exact ⟨_, rfl⟩
      · obtain ⟨hFront, hBack⟩ := isAscii_of_take hAscii (by omega)
        obtain ⟨text', hLength, hNext⟩ :=
          readFrom_valid fromStr false text chunks h.1 hFront.valid (by omega)
        rw [hNext]
        apply ih _ h.2 (by omega) _ (by omega)
        rw [hLength, Nat.sub_add_eq]
        exact hBack

/-- Streams whose results do not depend on the cut. Line by line: a line within
the limit is ASCII or not UTF-8 at all, and a longer one is ASCII as far as the
limit and UTF-8 as a whole. Nothing behind an Io error matters, nor does what
precedes the failure of the stream without a newline. -/
inductive ChunkSafe (failed : Bool) : List UInt8 → Prop where
  | ascii {line rest : List UInt8} (hLine : newline ∉ line) (hSize : line.length ≤ maxMessageSize)
      (hAscii : IsAscii line) (hRest : ChunkSafe failed rest) :
      ChunkSafe failed (line ++ newline :: rest)
  | invalid {line rest : List UInt8} (hLine : newline ∉ line) (hSize : line.length ≤ maxMessageSize)
      (hInvalid : ¬ValidUtf8 line) : ChunkSafe failed (line ++ newline :: rest)
  | oversized {line rest : List UInt8} (hLine : newline ∉ line) (hSize : maxMessageSize < line.length)
      (hAscii : IsAscii (line.take maxMessageSize)) (hValid : ValidUtf8 line)
      (hRest : ChunkSafe failed rest) : ChunkSafe failed (line ++ newline :: rest)
  | tailFailed {tail : List UInt8} (hTail : newline ∉ tail) (hFailed : failed = true) :
      ChunkSafe failed tail
  | tail {tail : List UInt8} (hTail : newline ∉ tail) (hSize : tail.length ≤ maxMessageSize)
      (hCase : IsAscii tail ∨ ¬ValidUtf8 tail) : ChunkSafe failed tail
  | tailOversized {tail : List UInt8} (hTail : newline ∉ tail) (hSize : maxMessageSize < tail.length)
      (hAscii : IsAscii (tail.take maxMessageSize)) : ChunkSafe failed tail

theorem isLast_finishLine (line : String) : isLast (finishLine fromStr line) = false := by
  unfold finishLine
  split_ifs
  · rfl
  · split <;> rfl

theorem readKinds_last {result : Except ControlError Message}
    (h : (readMessage fromStr failed chunks).1 = result) (hLast : isLast result = true) :
    readKinds fromStr failed chunks = [result.mapError ControlError.kind] := by
  subst h
  unfold readKinds
  rw [readAll_last fromStr hLast]
  rfl

theorem readKinds_more {result : Except ControlError Message} {later : List (Chunk UInt8)}
    (h : readMessage fromStr failed chunks = (result, later)) (hLast : isLast result = false) :
    readKinds fromStr failed chunks =
      result.mapError ControlError.kind :: readKinds fromStr failed later := by
  have hFirst : isLast (readMessage fromStr failed chunks).1 = false := by rw [h, hLast]
  unfold readKinds
  rw [readAll_more fromStr hFirst, h]
  rfl

/-- A call starts with an empty line, so that the limit applies to the line itself. -/
theorem emptyLine_add (n : Nat) : ("" : String).utf8ByteSize + n = n :=
  Nat.zero_add n

/-- In a safe stream all cuts have the same results. -/
theorem ChunkSafe.readKinds_eq {bytes : List UInt8} (h : ChunkSafe failed bytes)
    {left right : List (Chunk UInt8)} (hLeft : contents left = bytes) (hRight : contents right = bytes) :
    readKinds fromStr failed left = readKinds fromStr failed right := by
  induction h generalizing left right with
  | ascii hLine hSize hAscii _ ih =>
      obtain ⟨body, hBody⟩ := (isAscii_append_newline hAscii).valid
      have hFits := (emptyLine_add _).trans_le hSize
      obtain ⟨left', hLeft', hReadLeft⟩ := readFrom_ascii hLine hAscii hFits hBody hLeft
      obtain ⟨right', hRight', hReadRight⟩ := readFrom_ascii hLine hAscii hFits hBody hRight
      rw [readKinds_more hReadLeft (isLast_finishLine _), readKinds_more hReadRight (isLast_finishLine _),
        ih hLeft' hRight']
  | invalid hLine hSize hInvalid =>
      have hFits := (emptyLine_add _).trans_le hSize
      rw [readKinds_last (readFrom_invalid hLine hInvalid hFits hLeft) rfl,
        readKinds_last (readFrom_invalid hLine hInvalid hFits hRight) rfl]
  | oversized hLine hSize hAscii hValid _ ih =>
      have hOver := hSize.trans_eq (emptyLine_add _).symm
      obtain ⟨leftSize, left', hLeft', hReadLeft⟩ :=
        readFrom_oversized "" hLine (Nat.zero_le _) hAscii hValid hOver hLeft
      obtain ⟨rightSize, right', hRight', hReadRight⟩ :=
        readFrom_oversized "" hLine (Nat.zero_le _) hAscii hValid hOver hRight
      rw [readKinds_more hReadLeft rfl, readKinds_more hReadRight rfl, ih hLeft' hRight']
      rfl
  | tailFailed hTail hFailed =>
      subst hFailed
      rw [readKinds_last (readFrom_tail_failed (hLeft ▸ hTail) _) rfl,
        readKinds_last (readFrom_tail_failed (hRight ▸ hTail) _) rfl]
  | tail hTail hSize hCase =>
      subst hLeft
      have hFits := (emptyLine_add _).trans_le hSize
      rcases hCase with hAscii | hInvalid
      · cases failed with
        | true =>
            rw [readKinds_last (readFrom_tail_failed hTail _) rfl,
              readKinds_last (readFrom_tail_failed (hRight ▸ hTail) _) rfl]
        | false =>
            have hReadLeft := readFrom_tail_ascii fromStr "" hTail hAscii hFits
            rw [← hRight] at hTail hAscii hFits
            have hReadRight := readFrom_tail_ascii fromStr "" hTail hAscii hFits
            rw [readKinds_last (congrArg Prod.fst hReadLeft) rfl,
              readKinds_last (congrArg Prod.fst hReadRight) rfl]
      · rw [readKinds_last (readFrom_tail_invalid hTail hInvalid hFits) rfl]
        rw [← hRight] at hTail hInvalid hFits
        rw [readKinds_last (readFrom_tail_invalid hTail hInvalid hFits) rfl]
  | tailOversized hTail hSize hAscii =>
      subst hLeft
      have hOver := hSize.trans_eq (emptyLine_add _).symm
      cases failed with
      | true =>
          rw [readKinds_last (readFrom_tail_failed hTail _) rfl,
            readKinds_last (readFrom_tail_failed (hRight ▸ hTail) _) rfl]
      | false =>
          obtain ⟨leftSize, hReadLeft⟩ :=
            readFrom_tail_oversized fromStr "" hTail (Nat.zero_le _) hAscii hOver
          rw [← hRight] at hTail hAscii hOver
          obtain ⟨rightSize, hReadRight⟩ :=
            readFrom_tail_oversized fromStr "" hTail (Nat.zero_le _) hAscii hOver
          rw [readKinds_more hReadLeft rfl, readKinds_more hReadRight rfl]
          rfl

/-- Byte by byte, the first byte outside ASCII is an Io error. -/
theorem readFrom_itemwise {front back : List UInt8} {b : UInt8} (hFront : newline ∉ front)
    (hAscii : IsAscii front) (hByte : ¬b < 128)
    (hSize : text.utf8ByteSize + front.length < maxMessageSize) :
    (readFrom fromStr failed (.line text) (itemwise (front ++ b :: back))).1 = .error .io := by
  induction front generalizing text with
  | nil =>
      have hNot : newline ∉ [b] := by
        intro h
        rw [← List.mem_singleton.mp h] at hByte
        exact hByte newline_ascii
      have hBroken : onChunk fromStr (.line text) [b] = .done (.error .io) [b] := by
        apply onChunk_broken hNot (not_validUtf8_singleton hByte)
        rw [List.length_singleton]
        rw [List.length_nil] at hSize
        omega
      rw [List.nil_append, itemwise, List.map_cons, readFrom_done hBroken]
  | cons c front ih =>
      rw [List.length_cons] at hSize
      have hPiece : newline ∉ (⟨[c], List.cons_ne_nil c []⟩ : Chunk UInt8).val := by
        intro h
        exact hFront (List.mem_singleton.mp h ▸ List.mem_cons_self)
      have hTail : newline ∉ front := fun h => hFront (List.mem_cons_of_mem c h)
      have hSingle : IsAscii [c] := by
        intro d hd
        exact hAscii d (List.mem_singleton.mp hd ▸ List.mem_cons_self)
      have hRest : IsAscii front := fun d hd => hAscii d (List.mem_cons_of_mem c hd)
      have hFits : text.utf8ByteSize + [c].length ≤ maxMessageSize := by
        rw [List.length_singleton]
        omega
      obtain ⟨text', hLength, hNext⟩ := readFrom_valid fromStr failed text
        (itemwise (front ++ b :: back)) hPiece hSingle.valid hFits
      rw [List.length_singleton] at hLength
      rw [List.cons_append, itemwise, List.map_cons, ← itemwise, hNext]
      exact ih hTail hRest (by omega)

/-- A list that is not ASCII has a first byte outside ASCII. -/
theorem exists_first_nonAscii {bytes : List UInt8} (h : ¬IsAscii bytes) :
    ∃ front b back, bytes = front ++ b :: back ∧ IsAscii front ∧ ¬b < 128 := by
  induction bytes with
  | nil => exact absurd (fun b hb => absurd hb List.not_mem_nil) h
  | cons c bytes ih =>
      by_cases hHead : c < 128
      · have hTail : ¬IsAscii bytes := by
          intro hTail
          apply h
          intro b hb
          rcases List.mem_cons.mp hb with rfl | hLater
          · exact hHead
          · exact hTail b hLater
        obtain ⟨front, b, back, rfl, hFront, hByte⟩ := ih hTail
        refine ⟨c :: front, b, back, rfl, ?_, hByte⟩
        intro d hd
        rcases List.mem_cons.mp hd with rfl | hLater
        · exact hHead
        · exact hFront d hLater
      · exact ⟨[], c, bytes, rfl, fun b hb => absurd hb List.not_mem_nil, hHead⟩

/-- Bytes that are not ASCII as far as the limit are an Io error byte by byte. -/
theorem readMessage_itemwise {front back : List UInt8} (hFront : newline ∉ front)
    (h : ¬IsAscii (front.take maxMessageSize)) :
    (readMessage fromStr failed (itemwise (front ++ back))).1 = .error .io := by
  obtain ⟨before, b, behind, hTake, hBefore, hByte⟩ := exists_first_nonAscii h
  have hWhole : front ++ back = before ++ b :: (behind ++ front.drop maxMessageSize ++ back) := by
    calc
      front ++ back = front.take maxMessageSize ++ front.drop maxMessageSize ++ back := by
        rw [List.take_append_drop]
      _ = before ++ b :: (behind ++ front.drop maxMessageSize ++ back) := by
        rw [hTake]
        simp
  have hNo : newline ∉ before := by
    intro hMember
    apply hFront
    apply List.mem_of_mem_take (i := maxMessageSize)
    rw [hTake]
    exact List.mem_append_left _ hMember
  have hLength : before.length < maxMessageSize := by
    have hBound := List.length_take_le maxMessageSize front
    rw [hTake, List.length_append, List.length_cons] at hBound
    omega
  rw [hWhole]
  exact readFrom_itemwise hNo hBefore hByte ((emptyLine_add _).trans_lt hLength)

/-- All cuts of a stream have the same results. -/
def CutsAgree (fromStr : String → Option Message) (failed : Bool) (bytes : List UInt8) : Prop :=
  ∀ left right, contents left = bytes → contents right = bytes →
    readKinds fromStr failed left = readKinds fromStr failed right

theorem mapError_kind_ne_io {result : Except ControlError Message} (h : isLast result = false) :
    result.mapError ControlError.kind ≠ .error .io := by
  cases result with
  | ok message => exact fun hEq => nomatch hEq
  | error error =>
      cases error with
      | io => cases h
      | _ => exact fun hEq => nomatch hEq

/-- One cut that fails first and one that does not cannot agree. -/
theorem CutsAgree.absurd_io {bytes : List UInt8} (h : CutsAgree fromStr failed bytes)
    {left right later : List (Chunk UInt8)} {result : Except ControlError Message}
    (hLeft : contents left = bytes) (hRight : contents right = bytes)
    (hFails : (readMessage fromStr failed left).1 = .error .io)
    (hReads : readMessage fromStr failed right = (result, later)) (hLast : isLast result = false) :
    False := by
  have hSame := h left right hLeft hRight
  rw [readKinds_last hFails rfl, readKinds_more hReads hLast] at hSame
  exact mapError_kind_ne_io hLast (List.cons.inj hSame).1.symm

/-- A line that arrives in one piece with its newline is decoded whole. -/
theorem readMessage_line {body : String} (hLine : newline ∉ line) (hBody : utf8 body = line ++ [newline])
    (chunks : List (Chunk UInt8)) :
    readMessage fromStr failed (⟨line ++ [newline], by simp⟩ :: chunks) =
      (finishLine fromStr body, chunks) := by
  have hEnds : onChunk fromStr (.line "") (line ++ [newline]) = .done (finishLine fromStr ("" ++ body)) [] :=
    onChunk_ends hLine hBody
  rw [String.empty_append] at hEnds
  have hRead : readFrom fromStr failed (.line "") (⟨line ++ [newline], by simp⟩ :: chunks) =
      (finishLine fromStr body, pushBack [] chunks) := readFrom_done hEnds
  exact hRead

theorem readMessage_line_broken (hLine : newline ∉ line) (hInvalid : ¬ValidUtf8 line)
    (chunks : List (Chunk UInt8)) :
    (readMessage fromStr failed (⟨line ++ [newline], by simp⟩ :: chunks)).1 = .error .io := by
  have hBroken : onChunk fromStr (.line "") (line ++ [newline]) = .done (.error .io) (line ++ [newline]) :=
    onChunk_ends_broken hLine hInvalid
  have hRead : readFrom fromStr failed (.line "") (⟨line ++ [newline], by simp⟩ :: chunks) =
      (.error .io, pushBack (line ++ [newline]) chunks) := readFrom_done hBroken
  exact congrArg Prod.fst hRead

/-- An oversized line that arrives in one piece before its newline is skipped. -/
theorem readMessage_overflow (fromStr : String → Option Message) (failed : Bool)
    (hLine : newline ∉ line) (hSize : maxMessageSize < line.length)
    (hContents : contents chunks = newline :: rest) (hNonempty : line ≠ []) :
    ∃ size later, readMessage fromStr failed (⟨line, hNonempty⟩ :: chunks) =
      (.error (.messageTooLarge size), later) := by
  have hOver : onChunk fromStr (.line "") line = .next (.draining (("" : String).utf8ByteSize + line.length)) :=
    onChunk_overflows hLine (hSize.trans_eq (emptyLine_add _).symm)
  have hNext : readFrom fromStr failed (.line "") (⟨line, hNonempty⟩ :: chunks) =
      readFrom fromStr failed (.draining (("" : String).utf8ByteSize + line.length)) chunks :=
    readFrom_next hOver
  obtain ⟨later, -, hRead⟩ := readFrom_draining (("" : String).utf8ByteSize + line.length)
    List.not_mem_nil hContents
  exact ⟨_, later, hNext.trans hRead⟩

/-- What follows a line has results of its own. -/
theorem CutsAgree.after_line {body : String} (h : CutsAgree fromStr failed (line ++ newline :: rest))
    (hLine : newline ∉ line) (hBody : utf8 body = line ++ [newline]) : CutsAgree fromStr failed rest := by
  intro left right hLeft hRight
  have hWhole : ∀ chunks : List (Chunk UInt8), contents chunks = rest →
      contents ((⟨line ++ [newline], by simp⟩ : Chunk UInt8) :: chunks) = line ++ newline :: rest := by
    intro chunks hChunks
    simp [hChunks]
  have hSame := h _ _ (hWhole left hLeft) (hWhole right hRight)
  rw [readKinds_more (readMessage_line hLine hBody left) (isLast_finishLine body),
    readKinds_more (readMessage_line hLine hBody right) (isLast_finishLine body)] at hSame
  exact (List.cons.inj hSame).2

/-- A last line that arrives in one piece. -/
theorem readMessage_tail (fromStr : String → Option Message) {bytes : List UInt8}
    (hTail : newline ∉ bytes) (hNonempty : bytes ≠ []) (hValid : ValidUtf8 bytes)
    (hSize : bytes.length ≤ maxMessageSize) :
    readMessage fromStr false [⟨bytes, hNonempty⟩] = (.error .connectionClosed, []) := by
  obtain ⟨chunkStr, hChunk⟩ := hValid
  have hStep := (onChunk_valid fromStr "" hTail hChunk ((emptyLine_add _).trans_le hSize)).1
  have hRead : readFrom fromStr false (.line "") [⟨bytes, hNonempty⟩] =
      readFrom fromStr false (.line ("" ++ chunkStr)) [] := readFrom_next hStep
  exact hRead

theorem readMessage_tail_overflow (fromStr : String → Option Message) {bytes : List UInt8}
    (hTail : newline ∉ bytes) (hNonempty : bytes ≠ []) (hSize : maxMessageSize < bytes.length) :
    ∃ size, readMessage fromStr false [⟨bytes, hNonempty⟩] = (.error (.messageTooLarge size), []) := by
  have hOver : onChunk fromStr (.line "") bytes =
      .next (.draining (("" : String).utf8ByteSize + bytes.length)) :=
    onChunk_overflows hTail (hSize.trans_eq (emptyLine_add _).symm)
  have hRead : readFrom fromStr false (.line "") [⟨bytes, hNonempty⟩] =
      readFrom fromStr false (.draining (("" : String).utf8ByteSize + bytes.length)) [] :=
    readFrom_next hOver
  exact ⟨_, hRead⟩

/-- The last line of a stream, when the cuts of the stream agree. -/
theorem chunkSafe_of_tail {bytes : List UInt8} (hTail : newline ∉ bytes)
    (h : CutsAgree fromStr failed bytes) : ChunkSafe failed bytes := by
  cases failed with
  | true => exact .tailFailed hTail rfl
  | false =>
      have hItemwise : ¬IsAscii (bytes.take maxMessageSize) →
          (readMessage fromStr false (itemwise bytes)).1 = .error .io := by
        intro hAscii
        have hRead : (readMessage fromStr false (itemwise (bytes ++ []))).1 = .error .io :=
          readMessage_itemwise hTail hAscii
        rwa [List.append_nil] at hRead
      have hNonempty : ¬IsAscii (bytes.take maxMessageSize) → bytes ≠ [] := by
        rintro hAscii rfl
        exact hAscii fun b hb => absurd hb (by simp)
      have hContents : ∀ hBytes, contents [(⟨bytes, hBytes⟩ : Chunk UInt8)] = bytes :=
        fun _ => List.append_nil bytes
      by_cases hSize : bytes.length ≤ maxMessageSize
      · refine .tail hTail hSize ?_
        by_cases hAscii : IsAscii bytes
        · exact .inl hAscii
        · rw [← List.take_of_length_le hSize] at hAscii
          refine .inr fun hValid => ?_
          have hSame := h _ _ (contents_itemwise bytes) (hContents (hNonempty hAscii))
          have hClosed := readMessage_tail fromStr hTail (hNonempty hAscii) hValid hSize
          rw [readKinds_last (hItemwise hAscii) rfl,
            readKinds_last (congrArg Prod.fst hClosed) rfl] at hSame
          cases hSame
      · refine .tailOversized hTail (by omega) ?_
        by_contra hAscii
        obtain ⟨size, hRead⟩ := readMessage_tail_overflow fromStr hTail
          (hNonempty hAscii) (by omega)
        exact h.absurd_io (contents_itemwise bytes) (hContents (hNonempty hAscii)) (hItemwise hAscii)
          hRead rfl

/-- When the cuts of a stream agree, it is safe. The cuts that tell are byte by
byte, a line with its newline in one piece, and a line without it. -/
theorem chunkSafe_of_cutsAgree {bytes : List UInt8} (h : CutsAgree fromStr failed bytes) :
    ChunkSafe failed bytes := by
  rcases eq_line_or_append newline bytes with hTail | ⟨line, rest, hLine, rfl⟩
  · exact chunkSafe_of_tail hTail h
  · have hRest : ∀ body, utf8 body = line ++ [newline] → ChunkSafe failed rest :=
      fun body hBody => chunkSafe_of_cutsAgree (h.after_line hLine hBody)
    have hLineCut : contents ((⟨line ++ [newline], by simp⟩ : Chunk UInt8) :: contiguous rest) =
        line ++ newline :: rest := by
      simp
    by_cases hSize : line.length ≤ maxMessageSize
    · by_cases hAscii : IsAscii line
      · obtain ⟨body, hBody⟩ := (isAscii_append_newline hAscii).valid
        exact .ascii hLine hSize hAscii (hRest body hBody)
      · by_cases hValid : ValidUtf8 line
        · obtain ⟨body, hBody⟩ := (validUtf8_concat_iff newline_ascii).mpr hValid
          rw [← List.take_of_length_le hSize] at hAscii
          exact (h.absurd_io (contents_itemwise _) hLineCut (readMessage_itemwise hLine hAscii)
            (readMessage_line hLine hBody _) (isLast_finishLine body)).elim
        · exact .invalid hLine hSize hValid
    · have hNonempty : line ≠ [] := by
        rintro rfl
        exact hSize (Nat.zero_le _)
      have hSplitCut : contents ((⟨line, hNonempty⟩ : Chunk UInt8) :: contiguous (newline :: rest)) =
          line ++ newline :: rest := by
        simp
      obtain ⟨size, later, hOverflow⟩ := readMessage_overflow fromStr failed hLine (by omega)
        (contents_contiguous (newline :: rest)) hNonempty
      by_cases hAscii : IsAscii (line.take maxMessageSize)
      · by_cases hValid : ValidUtf8 line
        · obtain ⟨body, hBody⟩ := (validUtf8_concat_iff newline_ascii).mpr hValid
          exact .oversized hLine (by omega) hAscii hValid (hRest body hBody)
        · exact (h.absurd_io hLineCut hSplitCut (readMessage_line_broken hLine hValid _) hOverflow rfl).elim
      · exact (h.absurd_io (contents_itemwise _) hSplitCut (readMessage_itemwise hLine hAscii)
          hOverflow rfl).elim
termination_by bytes.length

/-- The results of `read_message` do not depend on how the bytes arrive exactly
for the safe streams. -/
theorem readKinds_cutsAgree_iff (fromStr : String → Option Message) (failed : Bool)
    (bytes : List UInt8) : CutsAgree fromStr failed bytes ↔ ChunkSafe failed bytes :=
  ⟨chunkSafe_of_cutsAgree, fun h _ _ hLeft hRight => h.readKinds_eq hLeft hRight⟩

/-- A URL with a letter outside ASCII. -/
def accentedMessage : Message := .openUrl "http://localhost/é"

/-- The two bytes of the letter arrive apart, or the whole line at once. -/
theorem readKinds_differ_inside_letter :
    ∃ left right, contents left = utf8 (accentedMessage.toJson.push newlineChar) ∧
      contents right = utf8 (accentedMessage.toJson.push newlineChar) ∧
      ∀ fromStr failed, readKinds fromStr failed left ≠ readKinds fromStr failed right := by
  have hBytes : utf8 (accentedMessage.toJson.push newlineChar) =
      utf8 accentedMessage.toJson ++ [newline] := by decide
  have hLine : newline ∉ utf8 accentedMessage.toJson := by decide
  have hAscii : ¬IsAscii ((utf8 accentedMessage.toJson).take maxMessageSize) := by decide
  refine ⟨itemwise (utf8 accentedMessage.toJson ++ [newline]),
    [⟨utf8 accentedMessage.toJson ++ [newline], by simp⟩], ?_, ?_, fun fromStr failed hSame => ?_⟩
  · rw [contents_itemwise, hBytes]
  · rw [contents_cons, contents_nil, List.append_nil, hBytes]
  · have hFails : (readMessage fromStr failed (itemwise (utf8 accentedMessage.toJson ++ [newline]))).1 =
        .error .io := readMessage_itemwise hLine hAscii
    rw [readKinds_last hFails rfl,
      readKinds_more (readMessage_line hLine hBytes []) (isLast_finishLine _)] at hSame
    exact mapError_kind_ne_io (isLast_finishLine _) (List.cons.inj hSame).1.symm

end DevcontainerBridge
