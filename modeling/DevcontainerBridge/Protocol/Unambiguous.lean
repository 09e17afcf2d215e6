import DevcontainerBridge.Control.RoundTrip
import DevcontainerBridge.Text.Hex
import DevcontainerBridge.Text.JsonValue

/-! No two messages are written alike, so that a written stream can be read in
one way only, wherever it is cut off. -/
namespace DevcontainerBridge

open Stream Text

/-- The character that a letter behind a backslash stands for. -/
def shortEscape (c : Char) : Char :=
  match c with
  | 'b' => Char.ofNat 8
  | 't' => Char.ofNat 9
  | 'n' => Char.ofNat 10
  | 'f' => Char.ofNat 12
  | 'r' => Char.ofNat 13
  | c => c

/-- Read one character of a JSON string. -/
def unescapeChar : List Char → Option (Char × List Char)
  | '\\' :: 'u' :: '0' :: '0' :: high :: low :: rest =>
      match toDigit 16 high, toDigit 16 low with
      | some high, some low => some (Char.ofNat (16 * high + low), rest)
      | _, _ => none
  | '\\' :: c :: rest => some (shortEscape c, rest)
  | c :: rest => some (c, rest)
  | [] => none

theorem unescapeChar_escapeChar (c : Char) (rest : List Char) :
    unescapeChar (escapeChar c ++ rest) = some (c, rest) := by
  have hCode : ∀ n, c.toNat = n → Char.ofNat n = c := by
    rintro n rfl
    exact Char.ofNat_toNat c
  unfold escapeChar
  split_ifs with hQuote hBackslash hBackspace hTab hNewline hFormFeed hReturn hControl
  · rw [hQuote]
    rfl
  · rw [hBackslash]
    rfl
  · rw [← hCode 8 hBackspace]
    rfl
  · rw [← hCode 9 hTab]
    rfl
  · rw [← hCode 10 hNewline]
    rfl
  · rw [← hCode 12 hFormFeed]
    rfl
  · rw [← hCode 13 hReturn]
    rfl
  · have hHigh : toDigit 16 (Nat.digitChar (c.toNat / 16)) = some (c.toNat / 16) := toDigit_hexDigit (by omega)
    have hLow : toDigit 16 (Nat.digitChar (c.toNat % 16)) = some (c.toNat % 16) := toDigit_hexDigit (by omega)
    change (match toDigit 16 (Nat.digitChar (c.toNat / 16)), toDigit 16 (Nat.digitChar (c.toNat % 16)) with
      | some high, some low => some (Char.ofNat (16 * high + low), rest)
      | _, _ => none) = _
    rw [hHigh, hLow]
    dsimp only
    rw [Nat.div_add_mod, Char.ofNat_toNat]
  · rw [List.singleton_append]
    unfold unescapeChar
    split
    case h_1 hText => exact absurd (List.cons.inj hText).1 hBackslash
    case h_2 hText => exact absurd (List.cons.inj hText).1 hBackslash
    case h_3 hText =>
      obtain ⟨rfl, rfl⟩ := List.cons.inj hText
      rfl
    case h_4 hText => cases hText

theorem escapeChar_begins (c : Char) : ∃ first rest, escapeChar c = first :: rest ∧ first ≠ '"' := by
  unfold escapeChar
  split_ifs with hQuote
  all_goals first | exact ⟨_, _, rfl, hQuote⟩ | exact ⟨_, _, rfl, by decide⟩

def jsonEscaping : Escaping where
  escape := escapeChar
  unambiguous := unambiguous_of_decode unescapeChar fun c rest _ => unescapeChar_escapeChar c rest
  begins := escapeChar_begins

def optionValue {Value : Type} (json : Value → Json) : Option Value → Json
  | some value => json value
  | none => .null

def ClipboardFormat.value : ClipboardFormat → Json
  | .auto => .string "auto"
  | .png => .string "png"
  | .jpeg => .string "jpeg"

def Protocol.value : Protocol → Json
  | .tcp => .string "Tcp"

def ForwardInfo.value (info : ForwardInfo) : Json :=
  .object [("container_id", .string info.containerId), ("hostname", .string info.hostname),
    ("port", .number info.port.toNat), ("host_port", .number info.hostPort.toNat),
    ("protocol", info.protocol.value), ("process_name", optionValue .string info.processName),
    ("pid", optionValue (fun pid : UInt32 => .number pid.toNat) info.pid), ("since", .string info.since)]

def SocketForwardInfo.value (info : SocketForwardInfo) : Json :=
  .object [("socket_id", .string info.socketId), ("host_path", .string info.hostPath),
    ("container_path", .string info.containerPath)]

/-- The fields of a message as JSON values. -/
def Message.fields : Message → List (String × Json)
  | .clipboardRead format authToken => [("format", format.value), ("auth_token", .string authToken)]
  | .clipboardBatchReady count => [("count", .number count.toNat)]
  | .clipboardReady format size => [("format", format.value), ("size", .number size.toNat)]
  | .clipboardError error => [("error", .string error)]
  | .register containerId hostname authToken =>
      [("container_id", .string containerId), ("hostname", .string hostname), ("auth_token", .string authToken)]
  | .registerAck success => [("success", .bool success)]
  | .forward port protocol processName pid =>
      [("port", .number port.toNat), ("protocol", protocol.value),
        ("process_name", optionValue .string processName),
        ("pid", optionValue (fun pid : UInt32 => .number pid.toNat) pid)]
  | .forwardAck port success hostPort =>
      [("port", .number port.toNat), ("success", .bool success), ("host_port", .number hostPort.toNat)]
  | .unforward port => [("port", .number port.toNat)]
  | .connectRequest port connId => [("port", .number port.toNat), ("conn_id", .string connId)]
  | .connectReady connId => [("conn_id", .string connId)]
  | .connectFailed connId error => [("conn_id", .string connId), ("error", .string error)]
  | .openUrl url => [("url", .string url)]
  | .openUrlAck success => [("success", .bool success)]
  | .ping | .pong | .listRequest => []
  | .listResponse forwards socketForwards =>
      [("forwards", .array (forwards.map ForwardInfo.value)),
        ("socket_forwards", .array (socketForwards.map SocketForwardInfo.value))]
  | .socketForward socketId hostPath containerPath =>
      [("socket_id", .string socketId), ("host_path", .string hostPath), ("container_path", .string containerPath)]
  | .socketUnforward socketId => [("socket_id", .string socketId)]
  | .socketConnectRequest socketId connId => [("socket_id", .string socketId), ("conn_id", .string connId)]
  | .shutdown authToken => [("auth_token", .string authToken)]

def Message.value (message : Message) : Json :=
  .object (("type", .string message.content.1) :: message.fields)

variable {message other : Message} {messages others : List Message} {bytes more : List UInt8}

theorem jsonObject_eq (fields : List (String × Json)) :
    jsonObject (fields.map fun field => (field.1, jsonEscaping.render field.2)) =
      jsonEscaping.render (.object fields) := by
  rw [Escaping.render, Escaping.renderFields_eq]
  rfl

theorem jsonArray_eq (items : List Json) :
    jsonArray (items.map jsonEscaping.render) = jsonEscaping.render (.array items) := by
  rw [Escaping.render, Escaping.renderItems_eq]
  rfl

theorem jsonOption_eq {Value : Type} (json : Value → List Char) (value : Value → Json)
    (h : ∀ v, json v = jsonEscaping.render (value v)) (v : Option Value) :
    jsonOption json v = jsonEscaping.render (optionValue value v) := by
  cases v with
  | none => rfl
  | some v => exact h v

theorem ForwardInfo.toJson_eq (info : ForwardInfo) : info.toJson = jsonEscaping.render info.value := by
  have hName := jsonOption_eq jsonString .string (fun _ => rfl) info.processName
  have hPid := jsonOption_eq (fun pid : UInt32 => jsonNat pid.toNat) (fun pid => .number pid.toNat)
    (fun _ => rfl) info.pid
  rw [ForwardInfo.toJson, hName, hPid, ForwardInfo.value, ← jsonObject_eq]
  rfl

theorem SocketForwardInfo.toJson_eq (info : SocketForwardInfo) : info.toJson = jsonEscaping.render info.value := by
  rw [SocketForwardInfo.value, ← jsonObject_eq]
  rfl

theorem Message.content_eq (message : Message) :
    message.content.2 = message.fields.map fun field => (field.1, jsonEscaping.render field.2) := by
  cases message with
  | clipboardRead format authToken => cases format <;> rfl
  | clipboardReady format size => cases format <;> rfl
  | registerAck success => cases success <;> rfl
  | openUrlAck success => cases success <;> rfl
  | forward port protocol processName pid =>
      cases protocol
      cases processName <;> cases pid <;> rfl
  | forwardAck port success hostPort => cases success <;> rfl
  | listResponse forwards socketForwards =>
      have hForwards : forwards.map ForwardInfo.toJson = (forwards.map ForwardInfo.value).map jsonEscaping.render := by
        rw [List.map_map]
        exact List.map_congr_left fun info _ => info.toJson_eq
      have hSockets : socketForwards.map SocketForwardInfo.toJson =
          (socketForwards.map SocketForwardInfo.value).map jsonEscaping.render := by
        rw [List.map_map]
        exact List.map_congr_left fun info _ => info.toJson_eq
      rw [content, hForwards, hSockets, jsonArray_eq, jsonArray_eq]
      rfl
  | _ => rfl

/-- The text of a message is that of its JSON value. -/
theorem Message.toJson_eq (message : Message) : message.toJson = String.ofList (jsonEscaping.render message.value) := by
  rw [Message.toJson, content_eq, value, ← jsonObject_eq]
  rfl

theorem optionValue_injective {Value : Type} {value : Value → Json} (hValue : Function.Injective value)
    (hNull : ∀ v, value v ≠ .null) : Function.Injective (optionValue value) := by
  rintro (_ | v) (_ | w) h
  · rfl
  · exact absurd h.symm (hNull w)
  · exact absurd h (hNull v)
  · rw [hValue h]

theorem nameValue_injective : Function.Injective (optionValue Json.string) :=
  optionValue_injective (fun _ _ h => Json.string.inj h) (fun _ h => nomatch h)

theorem pidValue_injective : Function.Injective (optionValue fun pid : UInt32 => Json.number pid.toNat) :=
  optionValue_injective (fun _ _ h => UInt32.toNat_inj.mp (Json.number.inj h)) (fun _ h => nomatch h)

theorem ClipboardFormat.value_injective : Function.Injective ClipboardFormat.value := by
  intro format other h
  cases format <;> cases other <;> first | rfl | exact absurd (Json.string.inj h) (by decide)

theorem ForwardInfo.value_injective : Function.Injective ForwardInfo.value := by
  rintro ⟨containerId, hostname, port, hostPort, ⟨⟩, processName, pid, since⟩
    ⟨containerId', hostname', port', hostPort', ⟨⟩, processName', pid', since'⟩ h
  simp only [value, Json.object.injEq, List.cons.injEq, Prod.mk.injEq, Json.string.injEq, Json.number.injEq,
    UInt16.toNat_inj, true_and, and_true] at h
  obtain ⟨rfl, rfl, rfl, rfl, hName, hPid, rfl⟩ := h
  rw [nameValue_injective hName, pidValue_injective hPid]

theorem SocketForwardInfo.value_injective : Function.Injective SocketForwardInfo.value := by
  rintro ⟨socketId, hostPath, containerPath⟩ ⟨socketId', hostPath', containerPath'⟩ h
  simp only [value, Json.object.injEq, List.cons.injEq, Prod.mk.injEq, Json.string.injEq, true_and, and_true] at h
  obtain ⟨rfl, rfl, rfl⟩ := h
  rfl

/-- The tags of the messages, in the order of their declaration. -/
def messageTags : List String :=
  ["ClipboardRead", "ClipboardBatchReady", "ClipboardReady", "ClipboardError", "Register", "RegisterAck", "Forward",
    "ForwardAck", "Unforward", "ConnectRequest", "ConnectReady", "ConnectFailed", "OpenUrl", "OpenUrlAck", "Ping",
    "Pong", "ListRequest", "ListResponse", "SocketForward", "SocketUnforward", "SocketConnectRequest", "Shutdown"]

theorem Message.tag_eq (message : Message) : messageTags[message.ctorIdx]? = some message.content.1 := by
  cases message <;> rfl

theorem Message.ctorIdx_eq (h : message.content.1 = other.content.1) : message.ctorIdx = other.ctorIdx := by
  have hDistinct : messageTags.Nodup := by decide
  have hSame : messageTags[message.ctorIdx]? = messageTags[other.ctorIdx]? := by
    rw [message.tag_eq, other.tag_eq, h]
  exact (List.getElem?_inj (List.getElem?_eq_some_iff.mp message.tag_eq).1 hDistinct).mp hSame

/-- Messages of one tag differ in a field, and tags tell the others apart. -/
theorem Message.value_injective : Function.Injective Message.value := by
  intro message other h
  have hFields := Json.object.inj h
  have hTag : message.content.1 = other.content.1 :=
    Json.string.inj (Prod.mk.inj (List.cons.inj hFields).1).2
  have hRest : message.fields = other.fields := (List.cons.inj hFields).2
  have hIdx := Message.ctorIdx_eq hTag
  have hForwards := List.map_injective_iff.mpr ForwardInfo.value_injective
  have hSockets := List.map_injective_iff.mpr SocketForwardInfo.value_injective
  clear h hFields hTag
  cases message <;> cases other <;> try cases hIdx
  all_goals
    simp only [fields, List.cons.injEq, Prod.mk.injEq, Json.string.injEq, Json.number.injEq, Json.bool.injEq,
      Json.array.injEq, UInt16.toNat_inj, UInt32.toNat_inj, UInt64.toNat_inj, ClipboardFormat.value_injective.eq_iff,
      nameValue_injective.eq_iff, pidValue_injective.eq_iff, hForwards.eq_iff, hSockets.eq_iff, true_and,
      and_true] at hRest
    simp only [hRest]

theorem Message.toJson_injective : Function.Injective Message.toJson := by
  intro message other h
  rw [message.toJson_eq, other.toJson_eq] at h
  have hText := congrArg String.toList h
  rw [String.toList_ofList, String.toList_ofList] at hText
  exact Message.value_injective (jsonEscaping.render_injective hText)

/-- There is a parser that reads every message as it was written. -/
theorem exists_reader : ∃ fromStr : String → Option Message, ∀ message, fromStr message.toJson = some message :=
  ⟨Function.partialInv Message.toJson, fun message => Function.partialInv_left Message.toJson_injective message⟩

/-- The line of a message ends at the first newline. -/
theorem line_inj {rest : List UInt8}
    (h : utf8 message.toJson ++ newline :: rest = utf8 other.toJson ++ newline :: more) :
    message = other ∧ rest = more := by
  have hApart : Unambiguous (· = newline) fun message : Message => utf8 message.toJson := unambiguous_of_free
    (fun _ _ hSame => Message.toJson_injective (utf8_injective hSame))
    (fun message b hMem hStop => newline_notMem_toJson message (hStop ▸ hMem))
  obtain ⟨rfl, hRest⟩ := hApart message other _ _ (stops_cons rfl) (stops_cons rfl) h
  exact ⟨rfl, (List.cons.inj hRest).2⟩

/-- A written stream that goes on as another one does begins with its
messages. -/
theorem messages_of_bytes (hWritten : writeAll messages = .ok bytes) (hOthers : writeAll others = .ok more)
    (h : bytes <+: more) : messages <+: others := by
  induction messages generalizing others bytes more with
  | nil => exact List.nil_prefix
  | cons message messages ih =>
      obtain ⟨rest, hRest, rfl⟩ := writeAll_cons_ok hWritten
      obtain ⟨tail, hTail⟩ := h
      rw [List.append_assoc, List.cons_append] at hTail
      cases others with
      | nil =>
          cases hOthers
          simp at hTail
      | cons other others =>
          obtain ⟨behind, hBehind, rfl⟩ := writeAll_cons_ok hOthers
          obtain ⟨rfl, hSame⟩ := line_inj hTail
          exact (List.prefix_cons_inj message).mpr (ih hRest hBehind ⟨tail, hSame⟩)

theorem bytes_of_messages (hWritten : writeAll messages = .ok bytes) (hOthers : writeAll others = .ok more)
    (h : messages <+: others) : bytes <+: more := by
  induction messages generalizing others bytes more with
  | nil =>
      cases hWritten
      exact List.nil_prefix
  | cons message messages ih =>
      obtain ⟨tail, rfl⟩ := h
      rw [List.cons_append] at hOthers
      obtain ⟨rest, hRest, rfl⟩ := writeAll_cons_ok hWritten
      obtain ⟨behind, hBehind, rfl⟩ := writeAll_cons_ok hOthers
      obtain ⟨back, rfl⟩ := ih hRest hBehind ⟨tail, rfl⟩
      exact ⟨back, by rw [List.append_assoc, List.cons_append]⟩

/-- One parser reads every message as it was written, and one written stream
is the beginning of another one exactly where its messages are: no cut of a
stream can be read as anything else than the messages written before it. -/
theorem written_unambiguous :
    (∃ fromStr : String → Option Message, ∀ message, fromStr message.toJson = some message) ∧
      ∀ messages others bytes more, writeAll messages = .ok bytes → writeAll others = .ok more →
        (bytes <+: more ↔ messages <+: others) :=
  ⟨exists_reader, fun _ _ _ _ hWritten hOthers =>
    ⟨messages_of_bytes hWritten hOthers, bytes_of_messages hWritten hOthers⟩⟩

/-- Two messages whose strings hold quotes, backslashes and newlines. -/
def quotedMessages : List Message :=
  [.openUrl "a \"b\" \\ c\nd", .connectFailed "e\\" "\"\n\"f"]

/-- They begin with the first of them alone. -/
theorem written_unambiguous_quoted :
    ∃ bytes more, writeAll (quotedMessages.take 1) = .ok bytes ∧ writeAll quotedMessages = .ok more ∧
      (bytes <+: more ↔ quotedMessages.take 1 <+: quotedMessages) := by
  have hFirst : (writeAll (quotedMessages.take 1)).isOk = true := by decide +kernel
  have hBoth : (writeAll quotedMessages).isOk = true := by decide +kernel
  cases hBytes : writeAll (quotedMessages.take 1) with
  | error e =>
      rw [hBytes] at hFirst
      cases hFirst
  | ok bytes => cases hMore : writeAll quotedMessages with
    | error e =>
        rw [hMore] at hBoth
        cases hBoth
    | ok more => exact ⟨bytes, more, rfl, rfl, written_unambiguous.2 _ _ bytes more hBytes hMore⟩

end DevcontainerBridge
