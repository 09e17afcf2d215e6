import DevcontainerBridge.Protocol.Message
import Mathlib.Data.List.Basic
import Mathlib.Data.Nat.Digits.Defs

/-! The JSON text of a message: compact, internally tagged, fields in the
order of their declaration. Texts are escaped as the compact formatter does
it, so that no message contains a raw newline. -/
namespace DevcontainerBridge

def newlineChar : Char := Char.ofNat 10

def quoteChar : Char := Char.ofNat 34

def backslashChar : Char := Char.ofNat 92

/-- One character of a JSON string. Control characters without an escape of
their own are written in hexadecimal. -/
def escapeChar (c : Char) : List Char :=
  if c = quoteChar then [backslashChar, quoteChar]
  else if c = backslashChar then [backslashChar, backslashChar]
  else if c.toNat = 8 then [backslashChar, 'b']
  else if c.toNat = 9 then [backslashChar, 't']
  else if c.toNat = 10 then [backslashChar, 'n']
  else if c.toNat = 12 then [backslashChar, 'f']
  else if c.toNat = 13 then [backslashChar, 'r']
  else if c.toNat < 32 then
    [backslashChar, 'u', '0', '0', Nat.digitChar (c.toNat / 16), Nat.digitChar (c.toNat % 16)]
  else [c]

def jsonString (text : String) : List Char :=
  quoteChar :: text.toList.flatMap escapeChar ++ [quoteChar]

def jsonNat (n : Nat) : List Char :=
  Nat.toDigits 10 n

def jsonBool (b : Bool) : List Char :=
  if b then "true".toList else "false".toList

def jsonOption {Value : Type} (json : Value → List Char) : Option Value → List Char
  | some value => json value
  | none => "null".toList

def jsonField (field : String × List Char) : List Char :=
  jsonString field.1 ++ ':' :: field.2

def jsonObject (fields : List (String × List Char)) : List Char :=
  "\x7b".toList ++ [','].intercalate (fields.map jsonField) ++ "\x7d".toList

def jsonArray (items : List (List Char)) : List Char :=
  '[' :: [','].intercalate items ++ [']']

def ClipboardFormat.toJson : ClipboardFormat → List Char
  | .auto => jsonString "auto"
  | .png => jsonString "png"
  | .jpeg => jsonString "jpeg"

def Protocol.toJson : Protocol → List Char
  | .tcp => jsonString "Tcp"

def ForwardInfo.toJson (info : ForwardInfo) : List Char :=
  jsonObject [("container_id", jsonString info.containerId), ("hostname", jsonString info.hostname),
    ("port", jsonNat info.port.toNat), ("host_port", jsonNat info.hostPort.toNat),
    ("protocol", info.protocol.toJson), ("process_name", jsonOption jsonString info.processName),
    ("pid", jsonOption (fun pid : UInt32 => jsonNat pid.toNat) info.pid),
    ("since", jsonString info.since)]

def SocketForwardInfo.toJson (info : SocketForwardInfo) : List Char :=
  jsonObject [("socket_id", jsonString info.socketId), ("host_path", jsonString info.hostPath),
    ("container_path", jsonString info.containerPath)]

/-- The tag of a message and its fields. -/
def Message.content : Message → String × List (String × List Char)
  | .clipboardRead format authToken =>
      ("ClipboardRead", [("format", format.toJson), ("auth_token", jsonString authToken)])
  | .clipboardBatchReady count => ("ClipboardBatchReady", [("count", jsonNat count.toNat)])
  | .clipboardReady format size =>
      ("ClipboardReady", [("format", format.toJson), ("size", jsonNat size.toNat)])
  | .clipboardError error => ("ClipboardError", [("error", jsonString error)])
  | .register containerId hostname authToken =>
      ("Register", [("container_id", jsonString containerId), ("hostname", jsonString hostname),
        ("auth_token", jsonString authToken)])
  | .registerAck success => ("RegisterAck", [("success", jsonBool success)])
  | .forward port protocol processName pid =>
      ("Forward", [("port", jsonNat port.toNat), ("protocol", protocol.toJson),
        ("process_name", jsonOption jsonString processName),
        ("pid", jsonOption (fun pid : UInt32 => jsonNat pid.toNat) pid)])
  | .forwardAck port success hostPort =>
      ("ForwardAck", [("port", jsonNat port.toNat), ("success", jsonBool success),
        ("host_port", jsonNat hostPort.toNat)])
  | .unforward port => ("Unforward", [("port", jsonNat port.toNat)])
  | .connectRequest port connId =>
      ("ConnectRequest", [("port", jsonNat port.toNat), ("conn_id", jsonString connId)])
  | .connectReady connId => ("ConnectReady", [("conn_id", jsonString connId)])
  | .connectFailed connId error =>
      ("ConnectFailed", [("conn_id", jsonString connId), ("error", jsonString error)])
  | .openUrl url => ("OpenUrl", [("url", jsonString url)])
  | .openUrlAck success => ("OpenUrlAck", [("success", jsonBool success)])
  | .ping => ("Ping", [])
  | .pong => ("Pong", [])
  | .listRequest => ("ListRequest", [])
  | .listResponse forwards socketForwards =>
      ("ListResponse", [("forwards", jsonArray (forwards.map ForwardInfo.toJson)),
        ("socket_forwards", jsonArray (socketForwards.map SocketForwardInfo.toJson))])
  | .socketForward socketId hostPath containerPath =>
      ("SocketForward", [("socket_id", jsonString socketId), ("host_path", jsonString hostPath),
        ("container_path", jsonString containerPath)])
  | .socketUnforward socketId => ("SocketUnforward", [("socket_id", jsonString socketId)])
  | .socketConnectRequest socketId connId =>
      ("SocketConnectRequest", [("socket_id", jsonString socketId), ("conn_id", jsonString connId)])
  | .shutdown authToken => ("Shutdown", [("auth_token", jsonString authToken)])

/-- `serde_json::to_string` of a message. -/
def Message.toJson (message : Message) : String :=
  String.ofList (jsonObject (("type", jsonString message.content.1) :: message.content.2))

example : Message.ping.toJson.toList = "\x7b\"type\":\"Ping\"\x7d".toList := by decide

/-- Text without a raw newline. -/
def OneLine (text : List Char) : Prop :=
  newlineChar ∉ text

instance (text : List Char) : Decidable (OneLine text) :=
  inferInstanceAs (Decidable (newlineChar ∉ text))

theorem OneLine.append {left right : List Char} (hLeft : OneLine left) (hRight : OneLine right) :
    OneLine (left ++ right) := by
  intro h
  rcases List.mem_append.mp h with hMember | hMember
  · exact hLeft hMember
  · exact hRight hMember

theorem OneLine.cons {c : Char} {text : List Char} (hChar : c ≠ newlineChar) (hText : OneLine text) :
    OneLine (c :: text) := by
  intro h
  rcases List.mem_cons.mp h with hHere | hMember
  · exact hChar hHere.symm
  · exact hText hMember

theorem OneLine.intercalate {pieces : List (List Char)} (h : ∀ piece ∈ pieces, OneLine piece) :
    OneLine ([','].intercalate pieces) := by
  induction pieces with
  | nil => exact List.not_mem_nil
  | cons piece pieces ih =>
      have hPiece := h piece List.mem_cons_self
      have hPieces : ∀ other ∈ pieces, OneLine other :=
        fun other hOther => h other (List.mem_cons_of_mem piece hOther)
      cases pieces with
      | nil => simpa using hPiece
      | cons second pieces =>
          rw [List.intercalate_cons_cons]
          exact (hPiece.append (by decide)).append (ih hPieces)

theorem digitChar_ne_newline : ∀ digit < 16, Nat.digitChar digit ≠ newlineChar := by
  decide

theorem oneLine_escapeChar (c : Char) : OneLine (escapeChar c) := by
  unfold escapeChar
  split_ifs with hQuote hBackslash hBackspace hTab hNewline hFormFeed hReturn hControl
  · decide
  · decide
  · decide
  · decide
  · decide
  · decide
  · decide
  · have hDigits : OneLine [Nat.digitChar (c.toNat / 16), Nat.digitChar (c.toNat % 16)] :=
      .cons (digitChar_ne_newline _ (by omega))
        (.cons (digitChar_ne_newline _ (by omega)) List.not_mem_nil)
    have hFront : OneLine [backslashChar, 'u', '0', '0'] := by decide
    exact hFront.append hDigits
  · refine .cons ?_ List.not_mem_nil
    rintro rfl
    exact hNewline rfl

theorem oneLine_jsonString (text : String) : OneLine (jsonString text) := by
  refine .cons (by decide) (.append ?_ (by decide))
  intro h
  obtain ⟨c, -, hChar⟩ := List.mem_flatMap.mp h
  exact oneLine_escapeChar c hChar

theorem oneLine_jsonNat (n : Nat) : OneLine (jsonNat n) := by
  intro h
  have hDigit := Nat.isDigit_of_mem_toDigits (by decide) (by decide) h
  exact absurd hDigit (by decide)

theorem oneLine_jsonBool (b : Bool) : OneLine (jsonBool b) := by
  cases b <;> decide

theorem oneLine_jsonOption {Value : Type} {json : Value → List Char} (h : ∀ value, OneLine (json value))
    (value : Option Value) : OneLine (jsonOption json value) := by
  cases value with
  | none => exact (by decide : OneLine "null".toList)
  | some value => exact h value

theorem oneLine_jsonObject {fields : List (String × List Char)}
    (h : ∀ field ∈ fields, OneLine field.2) : OneLine (jsonObject fields) := by
  refine .append (.append (by decide) (.intercalate ?_)) (by decide)
  intro piece hPiece
  obtain ⟨field, hField, rfl⟩ := List.mem_map.mp hPiece
  exact (oneLine_jsonString field.1).append (.cons (by decide) (h field hField))

theorem oneLine_jsonArray {items : List (List Char)} (h : ∀ item ∈ items, OneLine item) :
    OneLine (jsonArray items) :=
  .cons (by decide) (.append (.intercalate h) (by decide))

theorem oneLine_format (format : ClipboardFormat) : OneLine format.toJson := by
  cases format <;> exact oneLine_jsonString _

theorem oneLine_forwardInfo (info : ForwardInfo) : OneLine info.toJson := by
  apply oneLine_jsonObject
  cases info.protocol
  simp [oneLine_jsonString, oneLine_jsonNat, oneLine_jsonOption, Protocol.toJson]

theorem oneLine_socketForwardInfo (info : SocketForwardInfo) : OneLine info.toJson := by
  apply oneLine_jsonObject
  simp [oneLine_jsonString]

/-- Every field of every message is written without a raw newline. -/
theorem Message.oneLine_content (message : Message) : ∀ field ∈ message.content.2, OneLine field.2 := by
  have hFormat := oneLine_format
  have hForwards : ∀ forwards : List ForwardInfo,
      OneLine (jsonArray (forwards.map ForwardInfo.toJson)) := by
    intro forwards
    apply oneLine_jsonArray
    simp [oneLine_forwardInfo]
  have hSockets : ∀ sockets : List SocketForwardInfo,
      OneLine (jsonArray (sockets.map SocketForwardInfo.toJson)) := by
    intro sockets
    apply oneLine_jsonArray
    simp [oneLine_socketForwardInfo]
  cases message with
  | forward port protocol processName pid =>
      cases protocol
      simp [Message.content, Protocol.toJson, oneLine_jsonString, oneLine_jsonNat, oneLine_jsonOption]
  | _ =>
      simp [Message.content, oneLine_jsonString, oneLine_jsonNat, oneLine_jsonBool, hFormat, hForwards,
        hSockets]

/-- A serialized message is one line. -/
theorem Message.oneLine_toJson (message : Message) : OneLine message.toJson.toList := by
  rw [Message.toJson, String.toList_ofList]
  apply oneLine_jsonObject
  intro field hField
  rcases List.mem_cons.mp hField with rfl | hContent
  · exact oneLine_jsonString _
  · exact message.oneLine_content field hContent

/-- A serialized message ends with a brace. -/
theorem Message.toJson_eq_append (message : Message) :
    ∃ front, message.toJson.toList = front ++ "\x7d".toList := by
  rw [Message.toJson, String.toList_ofList]
  exact ⟨_, rfl⟩

end DevcontainerBridge
