import DevcontainerBridge.Control.Chunking

/-! What `write_message` accepts and `read_message` returns. The writer checks
the limit before the newline is appended, the reader afterwards. -/
namespace DevcontainerBridge

open Stream

variable {fromStr : String → Option Message} {failed : Bool} {message : Message}

/-- Write messages one after the other to a writer that takes everything. -/
def writeAll : List Message → Except ControlError (List UInt8)
  | [] => .ok []
  | message :: messages =>
      match writeMessage message true with
      | .error e => .error e
      | .ok bytes =>
          match writeAll messages with
          | .error e => .error e
          | .ok more => .ok (bytes ++ more)

theorem utf8_push_newline (text : String) : utf8 (text.push newlineChar) = utf8 text ++ [newline] := by
  rw [utf8_eq_flatMap, String.toList_push, List.flatMap_append, List.flatMap_singleton,
    ← utf8_eq_flatMap]
  rfl

theorem newline_notMem_toJson (message : Message) : newline ∉ utf8 message.toJson := by
  rw [mem_utf8_iff newline_ascii]
  exact message.oneLine_toJson

/-- The newline is all that `trim_end` takes from a written line. -/
theorem trimEnd_push_newline (message : Message) :
    trimEnd (message.toJson.push newlineChar) = message.toJson := by
  obtain ⟨front, hJson⟩ := message.toJson_eq_append
  unfold trimEnd
  rw [String.toList_push, hJson, List.reverse_append, List.reverse_append]
  have hDrop : ([newlineChar].reverse ++ ("\x7d".toList.reverse ++ front.reverse)).dropWhile isWhitespace =
      "\x7d".toList.reverse ++ front.reverse := by
    rfl
  rw [hDrop, List.reverse_append, List.reverse_reverse, List.reverse_reverse, ← hJson,
    String.ofList_toList]

/-- The verdict on a written line depends on the newline fitting in. -/
theorem finishLine_toJson (hRoundTrip : fromStr message.toJson = some message) :
    finishLine fromStr (message.toJson.push newlineChar) =
      if message.toJson.utf8ByteSize < maxMessageSize then .ok message
      else .error (.messageTooLarge (message.toJson.utf8ByteSize + 1)) := by
  have hSize : (message.toJson.push newlineChar).utf8ByteSize = message.toJson.utf8ByteSize + 1 := by
    rw [← length_utf8, utf8_push_newline, List.length_append, length_utf8]
    rfl
  unfold finishLine
  rw [hSize, trimEnd_push_newline, hRoundTrip]
  split_ifs <;> first | rfl | omega

/-- A written ASCII message is read back however its line is cut. -/
theorem readMessage_written {rest : List UInt8} {chunks : List (Chunk UInt8)} (failed : Bool)
    (hAscii : IsAscii (utf8 message.toJson)) (hFits : message.toJson.utf8ByteSize < maxMessageSize)
    (hRoundTrip : fromStr message.toJson = some message)
    (hContents : contents chunks = utf8 (message.toJson.push newlineChar) ++ rest) :
    ∃ later, contents later = rest ∧ readMessage fromStr failed chunks = (.ok message, later) := by
  have hSize : (utf8 message.toJson).length ≤ maxMessageSize := (length_utf8 _).trans_le hFits.le
  have hLine : contents chunks = utf8 message.toJson ++ newline :: rest := by
    rw [hContents, utf8_push_newline, List.append_assoc, List.singleton_append]
  obtain ⟨later, hLater, hRead⟩ : ∃ later, contents later = rest ∧
      readMessage fromStr failed chunks =
        (finishLine fromStr ("" ++ message.toJson.push newlineChar), later) :=
    readFrom_ascii (newline_notMem_toJson message) hAscii ((emptyLine_add _).trans_le hSize)
      (utf8_push_newline _) hLine
  rw [String.empty_append, finishLine_toJson hRoundTrip, if_pos hFits] at hRead
  exact ⟨later, hLater, hRead⟩

/-- A line at the front of one contiguous buffer. -/
theorem readMessage_contiguous {line rest : List UInt8} {body : String} (hLine : newline ∉ line)
    (hBody : utf8 body = line ++ [newline]) :
    readMessage fromStr failed (contiguous (line ++ newline :: rest)) =
      (finishLine fromStr body, contiguous rest) := by
  have hEnds : onChunk fromStr (.line "") (line ++ newline :: rest) =
      .done (finishLine fromStr ("" ++ body)) rest := onChunk_ends hLine hBody
  rw [String.empty_append] at hEnds
  have hNonempty : line ++ newline :: rest ≠ [] := by simp
  have hRead : readFrom fromStr failed (.line "") [⟨line ++ newline :: rest, hNonempty⟩] =
      (finishLine fromStr body, pushBack rest []) := readFrom_done hEnds
  rw [contiguous_of_ne_nil hNonempty]
  exact hRead

theorem writeMessage_ok {bytes : List UInt8} {sent : Bool} (h : writeMessage message sent = .ok bytes) :
    bytes = utf8 message.toJson ++ [newline] ∧ message.toJson.utf8ByteSize ≤ maxMessageSize := by
  unfold writeMessage at h
  dsimp only at h
  split_ifs at h with hSize hSent
  cases h
  exact ⟨utf8_push_newline _, by omega⟩

theorem writeAll_cons_ok {messages : List Message} {bytes : List UInt8}
    (h : writeAll (message :: messages) = .ok bytes) :
    ∃ more, writeAll messages = .ok more ∧ bytes = utf8 message.toJson ++ newline :: more := by
  unfold writeAll at h
  split at h
  case h_1 => cases h
  case h_2 first hFirst =>
    split at h
    case h_1 => cases h
    case h_2 more hMore =>
      cases h
      refine ⟨more, hMore, ?_⟩
      rw [(writeMessage_ok hFirst).1, List.append_assoc]
      rfl

/-- Written messages are read back from one buffer, and then the stream is at
its end, exactly when each of them leaves room for its newline. -/
theorem readAll_writeAll_iff {messages : List Message} {bytes : List UInt8}
    (hWritten : writeAll messages = .ok bytes)
    (hRoundTrip : ∀ message ∈ messages, fromStr message.toJson = some message) :
    readAll fromStr false (contiguous bytes) = messages.map .ok ++ [.error .connectionClosed] ↔
      ∀ message ∈ messages, message.toJson.utf8ByteSize < maxMessageSize := by
  induction messages generalizing bytes with
  | nil =>
      cases hWritten
      have hClosed : (readMessage fromStr false (contiguous [])).1 = .error .connectionClosed := rfl
      rw [readAll_last fromStr (by rw [hClosed]; rfl), hClosed]
      simp
  | cons message messages ih =>
      obtain ⟨more, hMore, rfl⟩ := writeAll_cons_ok hWritten
      have hRead : readMessage fromStr false (contiguous (utf8 message.toJson ++ newline :: more)) =
          (finishLine fromStr (message.toJson.push newlineChar), contiguous more) :=
        readMessage_contiguous (newline_notMem_toJson message) (utf8_push_newline message.toJson)
      have hFirst : isLast (finishLine fromStr (message.toJson.push newlineChar)) = false :=
        isLast_finishLine _
      have hLater := ih hMore fun other hOther => hRoundTrip other (List.mem_cons_of_mem message hOther)
      rw [readAll_more fromStr (by rw [hRead, hFirst]), hRead,
        finishLine_toJson (hRoundTrip message List.mem_cons_self), List.forall_mem_cons, ← hLater]
      split_ifs with hSize
      · simp [hSize]
      · simp [hSize]

/-- A parser that knows two messages. -/
def parseHeartbeat (text : String) : Option Message :=
  if text = Message.ping.toJson then some .ping
  else if text = Message.pong.toJson then some .pong
  else none

/-- A heartbeat and its answer. -/
theorem readAll_writeAll_iff_heartbeat :
    ∃ bytes, writeAll [.ping, .pong] = .ok bytes ∧
      (readAll parseHeartbeat false (contiguous bytes) =
          [Message.ping, Message.pong].map .ok ++ [.error .connectionClosed] ↔
        ∀ message ∈ [Message.ping, Message.pong], message.toJson.utf8ByteSize < maxMessageSize) :=
  ⟨_, rfl, readAll_writeAll_iff rfl (by decide)⟩

/-- A request to open a URL of a given length. -/
def longUrl (length : Nat) : Message :=
  .openUrl (String.ofList (List.replicate length 'a'))

theorem longUrl_toJson (length : Nat) : (longUrl length).toJson = String.ofList
    ("\x7b\"type\":\"OpenUrl\",\"url\":\"".toList ++ List.replicate length 'a' ++ "\"\x7d".toList) := by
  have hPlain : (List.replicate length 'a').flatMap escapeChar = List.replicate length 'a' := by
    induction length with
    | zero => rfl
    | succ length ih => exact congrArg ('a' :: ·) ih
  have hUrl : jsonString (String.ofList (List.replicate length 'a')) =
      quoteChar :: (List.replicate length 'a' ++ [quoteChar]) := by
    rw [jsonString, String.toList_ofList, hPlain]
    rfl
  have hObject : ∀ url : List Char,
      jsonObject [("type", jsonString "OpenUrl"), ("url", quoteChar :: (url ++ [quoteChar]))] =
        "\x7b\"type\":\"OpenUrl\",\"url\":\"".toList ++ (url ++ [quoteChar]) ++ "\x7d".toList := by
    intro url
    have hFront : "\x7b".toList ++ jsonField ("type", jsonString "OpenUrl") ++ [','] ++ jsonString "url"
        ++ [':', quoteChar] = "\x7b\"type\":\"OpenUrl\",\"url\":\"".toList := by decide
    rw [← hFront, jsonObject, List.map_cons, List.map_cons, List.map_nil, List.intercalate_cons_cons,
      List.intercalate_singleton]
    simp [jsonField]
  calc
    (longUrl length).toJson = String.ofList (jsonObject [("type", jsonString "OpenUrl"),
        ("url", jsonString (String.ofList (List.replicate length 'a')))]) := rfl
    _ = _ := by
      rw [hUrl, hObject]
      apply congrArg String.ofList
      rw [List.append_assoc, List.append_assoc, List.append_assoc]
      rfl

theorem longUrl_size (length : Nat) : (longUrl length).toJson.utf8ByteSize = length + 27 := by
  have hLetter : (String.utf8EncodeChar 'a').length = 1 := rfl
  rw [longUrl_toJson, ← length_utf8, utf8_ofList, List.flatMap_append, List.flatMap_append,
    List.length_append, List.length_append, List.length_flatMap, List.length_flatMap,
    List.length_flatMap, List.map_replicate, List.sum_replicate_nat, hLetter]
  have hFront : ("\x7b\"type\":\"OpenUrl\",\"url\":\"".toList.map fun c =>
    (String.utf8EncodeChar c).length).sum = 25 := by decide
  have hBack : ("\"\x7d".toList.map fun c => (String.utf8EncodeChar c).length).sum = 2 := by decide
  rw [hFront, hBack]
  omega

/-- A message whose JSON fills the limit is written and not read back. -/
theorem readAll_ne_of_full (hFull : message.toJson.utf8ByteSize = maxMessageSize) :
    ∃ bytes, writeAll [message] = .ok bytes ∧
      ∀ fromStr, readAll fromStr false (contiguous bytes) ≠ [.ok message, .error .connectionClosed] := by
  have hWrite : writeMessage message true = .ok (utf8 (message.toJson.push newlineChar)) := by
    unfold writeMessage
    dsimp only
    rw [if_neg (by omega), if_pos rfl]
  refine ⟨utf8 message.toJson ++ newline :: [], ?_, fun fromStr hSame => ?_⟩
  · simp [writeAll, hWrite, utf8_push_newline]
  · have hRead : readMessage fromStr false (contiguous (utf8 message.toJson ++ newline :: [])) =
        (finishLine fromStr (message.toJson.push newlineChar), contiguous []) :=
      readMessage_contiguous (newline_notMem_toJson message) (utf8_push_newline message.toJson)
    have hLong : maxMessageSize < (message.toJson.push newlineChar).utf8ByteSize := by
      rw [← length_utf8, utf8_push_newline, List.length_append, length_utf8, List.length_singleton]
      omega
    rw [finishLine_tooLarge hLong] at hRead
    rw [readAll_more fromStr (by rw [hRead]; rfl), hRead] at hSame
    cases hSame

/-- The URL of 65509 letters makes a message of exactly 65536 bytes. -/
theorem readAll_fails_at_limit :
    (longUrl 65509).toJson.utf8ByteSize = maxMessageSize ∧
      ∃ bytes, writeAll [longUrl 65509] = .ok bytes ∧
        ∀ fromStr, readAll fromStr false (contiguous bytes) ≠
          [.ok (longUrl 65509), .error .connectionClosed] :=
  ⟨longUrl_size 65509, readAll_ne_of_full (longUrl_size 65509)⟩

end DevcontainerBridge
