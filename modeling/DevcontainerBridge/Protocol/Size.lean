import DevcontainerBridge.Protocol.Json
import DevcontainerBridge.Stream.Utf8
import Mathlib.Algebra.BigOperators.Group.List.Basic

/-! The size of a JSON text in bytes, as a sum over its parts. -/
namespace DevcontainerBridge

open Stream

/-- The bytes of a text in UTF-8. -/
def byteCount (chars : List Char) : Nat := (chars.map Char.utf8Size).sum

@[simp] theorem byteCount_nil : byteCount [] = 0 := rfl

@[simp] theorem byteCount_cons (c : Char) (chars : List Char) :
    byteCount (c :: chars) = c.utf8Size + byteCount chars := by
  simp [byteCount]

@[simp] theorem byteCount_append (left right : List Char) :
    byteCount (left ++ right) = byteCount left + byteCount right := by
  simp [byteCount]

theorem utf8ByteSize_ofList (chars : List Char) : (String.ofList chars).utf8ByteSize = byteCount chars := by
  rw [← length_utf8, utf8_ofList, List.length_flatMap]
  simp only [String.length_utf8EncodeChar]
  rfl

/-- ASCII characters take one byte. -/
theorem byteCount_of_ascii {chars : List Char} (h : ∀ c ∈ chars, c.utf8Size = 1) :
    byteCount chars = chars.length := by
  induction chars with
  | nil => rfl
  | cons c chars ih =>
      rw [byteCount_cons, h c List.mem_cons_self, ih fun other hOther => h other (List.mem_cons_of_mem c hOther),
        List.length_cons, Nat.add_comm]

/-- The bytes of a character in a JSON string. -/
def escapedCharSize (c : Char) : Nat :=
  if c = quoteChar ∨ c = backslashChar ∨ c.toNat ∈ [8, 9, 10, 12, 13] then 2
  else if c.toNat < 32 then 6
  else c.utf8Size

/-- The bytes of a text in a JSON string, without the quotes. -/
def escapedSize (text : String) : Nat := (text.toList.map escapedCharSize).sum

theorem digitChar_utf8Size : ∀ digit < 16, (Nat.digitChar digit).utf8Size = 1 := by decide

theorem byteCount_escapeChar (c : Char) : byteCount (escapeChar c) = escapedCharSize c := by
  have short : c = quoteChar ∨ c = backslashChar ∨ c.toNat ∈ [8, 9, 10, 12, 13] → escapedCharSize c = 2 :=
    fun hShort => if_pos hShort
  unfold escapeChar
  split_ifs with hQuote hBackslash hBackspace hTab hNewline hFormFeed hReturn hControl
  · rw [short (.inl hQuote)]
    decide
  · rw [short (.inr (.inl hBackslash))]
    decide
  · rw [short (by simp [hBackspace])]
    decide
  · rw [short (by simp [hTab])]
    decide
  · rw [short (by simp [hNewline])]
    decide
  · rw [short (by simp [hFormFeed])]
    decide
  · rw [short (by simp [hReturn])]
    decide
  · have hLong : ¬(c = quoteChar ∨ c = backslashChar ∨ c.toNat ∈ [8, 9, 10, 12, 13]) := by
      simp [hQuote, hBackslash, hBackspace, hTab, hNewline, hFormFeed, hReturn]
    have hFront : byteCount [backslashChar, 'u', '0', '0'] = 4 := by decide
    have hDigits : byteCount [Nat.digitChar (c.toNat / 16), Nat.digitChar (c.toNat % 16)] = 2 := by
      rw [byteCount_cons, byteCount_cons, digitChar_utf8Size _ (by omega), digitChar_utf8Size _ (by omega),
        byteCount_nil]
    unfold escapedCharSize
    rw [if_neg hLong, if_pos hControl]
    exact (byteCount_append [backslashChar, 'u', '0', '0'] _).trans (by rw [hFront, hDigits])
  · have hLong : ¬(c = quoteChar ∨ c = backslashChar ∨ c.toNat ∈ [8, 9, 10, 12, 13]) := by
      simp [hQuote, hBackslash, hBackspace, hTab, hNewline, hFormFeed, hReturn]
    unfold escapedCharSize
    rw [if_neg hLong, if_neg hControl]
    rfl

@[simp] theorem byteCount_jsonString (text : String) : byteCount (jsonString text) = escapedSize text + 2 := by
  have hBody : byteCount (text.toList.flatMap escapeChar) = escapedSize text := by
    unfold escapedSize
    induction text.toList with
    | nil => rfl
    | cons c chars ih =>
        rw [List.flatMap_cons, byteCount_append, ih, byteCount_escapeChar, List.map_cons, List.sum_cons]
  have hQuote : quoteChar.utf8Size = 1 := by decide
  unfold jsonString
  rw [byteCount_append, byteCount_cons, hBody, byteCount_cons, byteCount_nil, hQuote]
  omega

/-- The digits of a number in decimal. -/
def decimalDigits (n : Nat) : Nat := (Nat.toDigits 10 n).length

@[simp] theorem byteCount_jsonNat (n : Nat) : byteCount (jsonNat n) = decimalDigits n := by
  apply byteCount_of_ascii
  intro c hChar
  have hDigit := Nat.isDigit_of_mem_toDigits (by decide) (by decide) hChar
  rw [Char.isDigit, Bool.and_eq_true, decide_eq_true_eq, decide_eq_true_eq] at hDigit
  have hUpper : c.val.toNat ≤ 57 := hDigit.2
  exact Char.utf8Size_eq_one_iff.mpr (UInt32.le_iff_toNat_le.mpr (hUpper.trans (by decide)))

/-- The size of an optional value. An absent one is `null`. -/
def optionSize {Value : Type} (size : Value → Nat) : Option Value → Nat
  | some value => size value
  | none => 4

theorem byteCount_jsonOption {Value : Type} {json : Value → List Char} {size : Value → Nat}
    (h : ∀ value, byteCount (json value) = size value) (value : Option Value) :
    byteCount (jsonOption json value) = optionSize size value := by
  cases value with
  | none => exact (by decide : byteCount "null".toList = 4)
  | some value => exact h value

/-- The size of a list of parts with commas between them. -/
def joinedSize (sizes : List Nat) : Nat := sizes.sum + (sizes.length - 1)

theorem byteCount_intercalate (pieces : List (List Char)) :
    byteCount ([','].intercalate pieces) = joinedSize (pieces.map byteCount) := by
  induction pieces with
  | nil => rfl
  | cons piece pieces ih =>
      cases pieces with
      | nil => simp [joinedSize]
      | cons second pieces =>
          have hComma : byteCount [','] = 1 := by decide
          rw [List.intercalate_cons_cons, byteCount_append, byteCount_append, ih, hComma]
          simp only [joinedSize, List.map_cons, List.sum_cons, List.length_cons]
          omega

theorem byteCount_jsonArray (items : List (List Char)) :
    byteCount (jsonArray items) = joinedSize (items.map byteCount) + 2 := by
  have hOpen : Char.utf8Size '[' = 1 := by decide
  have hClose : byteCount [']'] = 1 := by decide
  unfold jsonArray
  rw [List.cons_append, byteCount_cons, byteCount_append, byteCount_intercalate, hOpen, hClose]
  omega

theorem byteCount_jsonField (name : String) (value : List Char) :
    byteCount (jsonField (name, value)) = escapedSize name + byteCount value + 3 := by
  have hColon : Char.utf8Size ':' = 1 := by decide
  unfold jsonField
  rw [byteCount_append, byteCount_jsonString, byteCount_cons, hColon]
  dsimp only
  omega

theorem byteCount_jsonObject (fields : List (String × List Char)) :
    byteCount (jsonObject fields) = joinedSize (fields.map fun field => byteCount (jsonField field)) + 2 := by
  have hOpen : byteCount "\x7b".toList = 1 := by decide
  have hClose : byteCount "\x7d".toList = 1 := by decide
  unfold jsonObject
  rw [byteCount_append, byteCount_append, byteCount_intercalate, hOpen, hClose, List.map_map]
  show 1 + joinedSize (fields.map fun field => byteCount (jsonField field)) + 1 = _
  omega

/-- The size of a forward in a list. -/
def ForwardInfo.jsonSize (info : ForwardInfo) : Nat :=
  escapedSize info.containerId + escapedSize info.hostname + decimalDigits info.port.toNat +
    decimalDigits info.hostPort.toNat + optionSize (fun name => escapedSize name + 2) info.processName +
    optionSize (fun pid : UInt32 => decimalDigits pid.toNat) info.pid + escapedSize info.since + 105

theorem byteCount_forwardInfo (info : ForwardInfo) : byteCount info.toJson = info.jsonSize := by
  unfold ForwardInfo.toJson ForwardInfo.jsonSize
  rw [byteCount_jsonObject]
  have hNames : escapedSize "container_id" = 12 ∧ escapedSize "hostname" = 8 ∧ escapedSize "port" = 4 ∧
      escapedSize "host_port" = 9 ∧ escapedSize "protocol" = 8 ∧ escapedSize "process_name" = 12 ∧
      escapedSize "pid" = 3 ∧ escapedSize "since" = 5 ∧ byteCount info.protocol.toJson = 5 := by
    cases info.protocol
    decide
  obtain ⟨hId, hHost, hPort, hHostPort, hProtocol, hProcess, hPid, hSince, hTcp⟩ := hNames
  simp only [joinedSize, List.map_cons, List.map_nil, List.sum_cons, List.sum_nil, List.length_cons,
    List.length_nil, byteCount_jsonField, byteCount_jsonString, byteCount_jsonNat,
    byteCount_jsonOption byteCount_jsonString, byteCount_jsonOption fun pid : UInt32 => byteCount_jsonNat pid.toNat,
    hId, hHost, hPort, hHostPort, hProtocol, hProcess, hPid, hSince, hTcp]
  omega

/-- The size of a socket forward in a list. -/
def SocketForwardInfo.jsonSize (info : SocketForwardInfo) : Nat :=
  escapedSize info.socketId + escapedSize info.hostPath + escapedSize info.containerPath + 51

theorem byteCount_socketForwardInfo (info : SocketForwardInfo) : byteCount info.toJson = info.jsonSize := by
  unfold SocketForwardInfo.toJson SocketForwardInfo.jsonSize
  rw [byteCount_jsonObject]
  have hNames : escapedSize "socket_id" = 9 ∧ escapedSize "host_path" = 9 ∧ escapedSize "container_path" = 14 := by
    decide
  obtain ⟨hId, hHost, hContainer⟩ := hNames
  simp only [joinedSize, List.map_cons, List.map_nil, List.sum_cons, List.sum_nil, List.length_cons,
    List.length_nil, byteCount_jsonField, byteCount_jsonString, hId, hHost, hContainer]
  omega

/-- The size of a list of forwards. -/
theorem Message.size_listResponse (forwards : List ForwardInfo) (sockets : List SocketForwardInfo) :
    (Message.listResponse forwards sockets).toJson.utf8ByteSize =
      joinedSize (forwards.map ForwardInfo.jsonSize) + joinedSize (sockets.map SocketForwardInfo.jsonSize) + 58 := by
  have hNames : escapedSize "type" = 4 ∧ escapedSize "ListResponse" = 12 ∧ escapedSize "forwards" = 8 ∧
      escapedSize "socket_forwards" = 15 := by
    decide
  obtain ⟨hType, hTag, hForwards, hSockets⟩ := hNames
  have hForwardSizes : (forwards.map ForwardInfo.toJson).map byteCount = forwards.map ForwardInfo.jsonSize := by
    rw [List.map_map]
    exact List.map_congr_left fun info _ => byteCount_forwardInfo info
  have hSocketSizes :
      (sockets.map SocketForwardInfo.toJson).map byteCount = sockets.map SocketForwardInfo.jsonSize := by
    rw [List.map_map]
    exact List.map_congr_left fun info _ => byteCount_socketForwardInfo info
  rw [Message.toJson, utf8ByteSize_ofList, byteCount_jsonObject]
  simp only [Message.content, List.map_cons, List.map_nil, byteCount_jsonField, byteCount_jsonString,
    byteCount_jsonArray, hForwardSizes, hSocketSizes, hType, hTag, hForwards, hSockets]
  generalize joinedSize (forwards.map ForwardInfo.jsonSize) = forwardsSize
  generalize joinedSize (sockets.map SocketForwardInfo.jsonSize) = socketsSize
  simp only [joinedSize, List.sum_cons, List.sum_nil, List.length_cons, List.length_nil]
  omega

/-- The size of a Forward. -/
theorem Message.size_forward (port : UInt16) (processName : Option String) (pid : Option UInt32) :
    (Message.forward port .tcp processName pid).toJson.utf8ByteSize =
      decimalDigits port.toNat + optionSize (fun name => escapedSize name + 2) processName +
        optionSize (fun pid : UInt32 => decimalDigits pid.toNat) pid + 66 := by
  have hNames : escapedSize "type" = 4 ∧ escapedSize "Forward" = 7 ∧ escapedSize "port" = 4 ∧
      escapedSize "protocol" = 8 ∧ escapedSize "process_name" = 12 ∧ escapedSize "pid" = 3 ∧
      byteCount (Protocol.toJson .tcp) = 5 := by
    decide
  obtain ⟨hType, hTag, hPort, hProtocol, hProcess, hPid, hTcp⟩ := hNames
  rw [Message.toJson, utf8ByteSize_ofList, byteCount_jsonObject]
  simp only [Message.content, joinedSize, List.map_cons, List.map_nil, List.sum_cons, List.sum_nil, List.length_cons,
    List.length_nil, byteCount_jsonField, byteCount_jsonString, byteCount_jsonNat,
    byteCount_jsonOption byteCount_jsonString, byteCount_jsonOption fun pid : UInt32 => byteCount_jsonNat pid.toNat,
    hType, hTag, hPort, hProtocol, hProcess, hPid, hTcp]
  omega

end DevcontainerBridge
