import DevcontainerBridge.Control.RoundTrip
import DevcontainerBridge.Host.State
import DevcontainerBridge.Protocol.ShortJson

/-! The switch of a data connection from its handshake line to raw proxying.
The buffered reader may have taken bytes of the payload together with the
line. They travel beside the stream and are written to the client first. -/
namespace DevcontainerBridge

open Stream

/-- A `BufReader`: the bytes it holds, and what the stream still delivers. -/
structure BufReader where
  buffer : List UInt8
  unread : List (Chunk UInt8)
  deriving DecidableEq, Repr

/-- A data connection behind its handshake line. -/
structure DataStream where
  stream : List (Chunk UInt8)
  buffered : List UInt8
  deriving DecidableEq, Repr

/-- What `handle_data_connection` does with the first message. -/
inductive DataAction where
  | serve (format : ClipboardFormat) (authToken : String)
  | resolve (connId : String) (data : DataStream)
  | ignored
  deriving DecidableEq, Repr

/-- What a bridge gets from its one-shot channel. -/
inductive Received where
  | stream (data : DataStream)
  | cancelled
  | timedOut
  deriving DecidableEq, Repr

inductive ProxyError where
  | connectTimeout
  | connectFailed
  | io
  deriving DecidableEq, Repr

/-- The bytes `copy_bidirectional` writes to the client, and the two byte
counts it returns when it does not fail. -/
abbrev CopyBidirectional := List (Chunk UInt8) → List UInt8 × Option (Nat × Nat)

section Definitions

variable (fromStr : String → Option Message)

/-- A first call of `read_message` on a new `BufReader`. The reader keeps what
the call has not consumed of the last piece. -/
def readBuffered (failed : Bool) : Reading → List (Chunk UInt8) →
    Except ControlError Message × BufReader
  | reading, [] => (.error (onEnd failed reading), { buffer := [], unread := [] })
  | reading, chunk :: chunks =>
      match onChunk fromStr reading chunk.val with
      | .next reading => readBuffered failed reading chunks
      | .done result leftover => (result, { buffer := leftover, unread := chunks })

/-- `handle_data_connection`, for a handshake that is not timed out. The reader
is dropped with `into_inner`, so its buffer is saved before. -/
def handleDataConnection (failed : Bool) (pieces : List (Chunk UInt8)) :
    Except ControlError DataAction :=
  match readBuffered fromStr failed (.line "") pieces with
  | (.error e, _) => .error e
  | (.ok (.clipboardRead format authToken), _) => .ok (.serve format authToken)
  | (.ok (.connectReady connId), reader) =>
      if connId.utf8ByteSize > maxConnIdLength then
        .ok .ignored
      else
        .ok (.resolve connId { stream := reader.unread, buffered := reader.buffer })
  | (.ok _, _) => .ok .ignored

/-- `bridge_connection`: the bytes written to the client, and the result. A
client that fails takes only `taken` bytes of the first write. -/
def bridgeConnection (copyBidirectional : CopyBidirectional) (taken : Option Nat) :
    Received → List UInt8 × Except ProxyError (Nat × Nat)
  | .stream data =>
      match taken, data.buffered.isEmpty with
      | some count, false => (data.buffered.take count, .error .io)
      | _, _ =>
          let copied := copyBidirectional data.stream
          (data.buffered ++ copied.1,
            match copied.2 with
            | some counts => .ok (counts.1, counts.2 + data.buffered.length)
            | none => .error .io)
  | .cancelled => ([], .error .connectFailed)
  | .timedOut => ([], .error .connectTimeout)

/-- The line that `handle_connect_request` writes in the container. -/
def handshakeLine (connId : String) : List UInt8 :=
  utf8 ((Message.connectReady connId).toJson.push newlineChar)

end Definitions

/-- A copy that writes all that comes from the data stream to the client. -/
def CopyBidirectional.Faithful (copyBidirectional : CopyBidirectional) (toContainer : Nat) : Prop :=
  ∀ stream, copyBidirectional stream = (contents stream, some (toContainer, (contents stream).length))

variable {fromStr : String → Option Message} {failed : Bool} {connId : String}
  {payload : List UInt8} {pieces : List (Chunk UInt8)}

/-- Only the place of the unconsumed bytes differs from `readFrom`. -/
theorem readBuffered_eq (fromStr : String → Option Message) (failed : Bool) (reading : Reading)
    (pieces : List (Chunk UInt8)) :
    readFrom fromStr failed reading pieces =
      ((readBuffered fromStr failed reading pieces).1,
        pushBack (readBuffered fromStr failed reading pieces).2.buffer
          (readBuffered fromStr failed reading pieces).2.unread) := by
  induction pieces generalizing reading with
  | nil => rfl
  | cons chunk chunks ih =>
      unfold readBuffered readFrom
      cases onChunk fromStr reading chunk.val with
      | next reading' => exact ih reading'
      | done result leftover => rfl

/-- The handshake line leaves exactly the payload behind it, in the buffer or
still unread. -/
theorem readBuffered_handshake (failed : Bool) (hAscii : IsAscii (utf8 connId))
    (hLength : connId.utf8ByteSize ≤ maxConnIdLength)
    (hRoundTrip : fromStr (Message.connectReady connId).toJson = some (.connectReady connId))
    (hContents : contents pieces = handshakeLine connId ++ payload) :
    ∃ reader, readBuffered fromStr failed (.line "") pieces = (.ok (.connectReady connId), reader) ∧
      reader.buffer ++ contents reader.unread = payload := by
  obtain ⟨hLine, hShort⟩ := Message.connectReady_short hAscii
  have hFits : (Message.connectReady connId).toJson.utf8ByteSize < maxMessageSize := by
    unfold maxConnIdLength at hLength
    unfold maxMessageSize
    omega
  obtain ⟨later, hLater, hRead⟩ := readMessage_written failed hLine hFits hRoundTrip hContents
  unfold readMessage at hRead
  rw [readBuffered_eq] at hRead
  obtain ⟨hResult, hReader⟩ := Prod.mk.inj hRead
  refine ⟨_, Prod.ext hResult rfl, ?_⟩
  rw [← contents_pushBack, hReader, hLater]

/-- A bridge writes what was read ahead and then what is still to come. -/
theorem bridgeConnection_faithful {copyBidirectional : CopyBidirectional} {toContainer : Nat}
    (hCopy : copyBidirectional.Faithful toContainer) (data : DataStream) :
    bridgeConnection copyBidirectional none (.stream data) =
      (data.buffered ++ contents data.stream,
        .ok (toContainer, (data.buffered ++ contents data.stream).length)) := by
  have hCopied := hCopy data.stream
  simp only [bridgeConnection, hCopied, List.length_append, Nat.add_comm]

/-- No byte is lost, duplicated or reordered between the handshake and the
raw stream, wherever the stream is cut. -/
theorem handover_complete {copyBidirectional : CopyBidirectional} {toContainer : Nat}
    (hAscii : IsAscii (utf8 connId)) (hLength : connId.utf8ByteSize ≤ maxConnIdLength)
    (hRoundTrip : fromStr (Message.connectReady connId).toJson = some (.connectReady connId))
    (hContents : contents pieces = handshakeLine connId ++ payload)
    (hCopy : copyBidirectional.Faithful toContainer) :
    ∃ data, handleDataConnection fromStr failed pieces = .ok (.resolve connId data) ∧
      data.buffered ++ contents data.stream = payload ∧
      bridgeConnection copyBidirectional none (.stream data) =
        (payload, .ok (toContainer, payload.length)) := by
  obtain ⟨reader, hRead, hReader⟩ := readBuffered_handshake failed hAscii hLength hRoundTrip hContents
  refine ⟨{ stream := reader.unread, buffered := reader.buffer }, ?_, hReader, ?_⟩
  · unfold handleDataConnection
    rw [hRead]
    exact if_neg (Nat.not_lt.mpr hLength)
  · rw [bridgeConnection_faithful hCopy, hReader]

/-- A payload with a newline and a byte that is not UTF-8. The stream is cut
inside the line, and its newline comes together with two bytes of the payload. -/
theorem handover_complete_binary :
    ∃ data, handleDataConnection
        (fun text => if text = (Message.connectReady "c").toJson then some (.connectReady "c") else none)
        false
        (⟨(utf8 (Message.connectReady "c").toJson).take 5, by decide⟩ ::
          ⟨(utf8 (Message.connectReady "c").toJson).drop 5 ++ [newline, newline, 255], by decide⟩ ::
          contiguous [0, newline]) = .ok (.resolve "c" data) ∧
      data.buffered ++ contents data.stream = [newline, 255, 0, newline] ∧
      bridgeConnection (fun stream => (contents stream, some (0, (contents stream).length))) none
        (.stream data) = ([newline, 255, 0, newline], .ok (0, 4)) :=
  handover_complete (by decide) (by decide) (by decide) (by decide) fun _ => rfl

end DevcontainerBridge
