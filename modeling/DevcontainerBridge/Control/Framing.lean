import DevcontainerBridge.Protocol.Json
import DevcontainerBridge.Stream.Chunks
import DevcontainerBridge.Stream.Utf8

/-! JSON-line framing of the control channel. A call of `read_message` is cut
into the steps between two calls of `fill_buf`, since a call can be dropped
at each of them. -/
namespace DevcontainerBridge

open Stream

/-- Maximum allowed size for a single control message in bytes. -/
def maxMessageSize : Nat := 65536

def newline : UInt8 := 10

inductive ControlError where
  | io
  | messageTooLarge (size : Nat)
  | serialization
  | deserialization
  | connectionClosed
  deriving DecidableEq, Repr

/-- Rust's `char::is_whitespace`. -/
def isWhitespace (c : Char) : Bool :=
  let n := c.toNat
  9 ≤ n && n ≤ 13 || n = 32 || n = 0x85 || n = 0xA0 || n = 0x1680 || 0x2000 ≤ n && n ≤ 0x200A
    || n = 0x2028 || n = 0x2029 || n = 0x202F || n = 0x205F || n = 0x3000

/-- Rust's `str::trim_end`. -/
def trimEnd (text : String) : String :=
  String.ofList (text.toList.reverse.dropWhile isWhitespace).reverse

/-- Where a call of `read_message` stands when it asks for more bytes. -/
inductive Reading where
  | line (text : String)
  /-- the line is oversized, and what is left of it is skipped -/
  | draining (size : Nat)
  deriving DecidableEq, Repr

/-- What becomes of a call when `fill_buf` has returned some bytes. A call
that ends leaves a part of these bytes in the buffer. -/
inductive Filled where
  | next (reading : Reading)
  | done (result : Except ControlError Message) (leftover : List UInt8)

variable (fromStr : String → Option Message)

/-- The end of `read_message`, once the newline has been found. -/
def finishLine (line : String) : Except ControlError Message :=
  if line.utf8ByteSize > maxMessageSize then
    .error (.messageTooLarge line.utf8ByteSize)
  else
    match fromStr (trimEnd line) with
    | some message => .ok message
    | none => .error .deserialization

/-- One iteration of the loops of `read_message`. -/
def onChunk : Reading → List UInt8 → Filled
  | .line text, available =>
      match available.idxOf? newline with
      | some newlinePos =>
          match fromUtf8 (available.take (newlinePos + 1)) with
          | none => .done (.error .io) available
          | some chunkStr => .done (finishLine fromStr (text ++ chunkStr)) (available.drop (newlinePos + 1))
      | none =>
          if text.utf8ByteSize + available.length > maxMessageSize then
            .next (.draining (text.utf8ByteSize + available.length))
          else
            match fromUtf8 available with
            | none => .done (.error .io) available
            | some chunkStr => .next (.line (text ++ chunkStr))
  | .draining size, available =>
      match available.idxOf? newline with
      | some newlinePos => .done (.error (.messageTooLarge size)) (available.drop (newlinePos + 1))
      | none => .next (.draining size)

/-- The same when the stream has ended or `fill_buf` has failed. -/
def onEnd (failed : Bool) : Reading → ControlError
  | .line _ => if failed then .io else .connectionClosed
  | .draining size => if failed then .io else .messageTooLarge size

/-- Run a call to its end on the pieces that the stream still delivers. -/
def readFrom (failed : Bool) : Reading → List (Chunk UInt8) →
    Except ControlError Message × List (Chunk UInt8)
  | reading, [] => (.error (onEnd failed reading), [])
  | reading, chunk :: chunks =>
      match onChunk fromStr reading chunk.val with
      | .next reading => readFrom failed reading chunks
      | .done result leftover => (result, pushBack leftover chunks)

/-- `read_message`. The stream ends after the given pieces, or fails there. -/
def readMessage (failed : Bool) (chunks : List (Chunk UInt8)) :
    Except ControlError Message × List (Chunk UInt8) :=
  readFrom fromStr failed (.line "") chunks

/-- `write_message` to a writer that fails or takes everything. -/
def writeMessage (message : Message) (sent : Bool) : Except ControlError (List UInt8) :=
  let json := message.toJson
  if json.utf8ByteSize > maxMessageSize then
    .error (.messageTooLarge json.utf8ByteSize)
  else if sent then
    .ok (utf8 (json.push newlineChar))
  else
    .error .io

/-- Results after which no further call is made. -/
def isLast : Except ControlError Message → Bool
  | .error .io | .error .connectionClosed => true
  | _ => false

variable {fromStr}

/-- A call that ends within a piece without a last result has taken some of it. -/
theorem onChunk_leftover {reading : Reading} {chunk : Chunk UInt8} {leftover : List UInt8}
    {result : Except ControlError Message} (h : onChunk fromStr reading chunk.val = .done result leftover)
    (hResult : isLast result = false) : leftover.length < chunk.val.length := by
  have hPositive : 0 < chunk.val.length := List.length_pos_iff.mpr chunk.property
  have hDrop : ∀ pos, (chunk.val.drop (pos + 1)).length < chunk.val.length := by
    intro pos
    rw [List.length_drop]
    omega
  unfold onChunk at h
  split at h
  case h_1 text =>
    split at h
    · split at h
      · cases h
        cases hResult
      · cases h
        exact hDrop _
    · split_ifs at h
      split at h
      · cases h
        cases hResult
      · cases h
  case h_2 size =>
    split at h
    · cases h
      exact hDrop _
    · cases h

theorem readFrom_progress (failed : Bool) (reading : Reading) (chunks : List (Chunk UInt8))
    (h : isLast (readFrom fromStr failed reading chunks).1 = false) :
    (contents (readFrom fromStr failed reading chunks).2).length ≤ (contents chunks).length ∧
      (chunks ≠ [] →
        (contents (readFrom fromStr failed reading chunks).2).length < (contents chunks).length) := by
  induction chunks generalizing reading with
  | nil => exact ⟨le_refl _, fun hNil => absurd rfl hNil⟩
  | cons chunk chunks ih =>
      have hPositive : 0 < chunk.val.length := List.length_pos_iff.mpr chunk.property
      unfold readFrom at h ⊢
      rw [contents_cons, List.length_append]
      cases hChunk : onChunk fromStr reading chunk.val with
      | next reading' =>
          rw [hChunk] at h
          have hLater := (ih reading' h).1
          dsimp only
          exact ⟨by omega, fun _ => by omega⟩
      | done result leftover =>
          rw [hChunk] at h
          have hTaken := onChunk_leftover hChunk h
          dsimp only
          rw [contents_pushBack, List.length_append]
          exact ⟨by omega, fun _ => by omega⟩

theorem readMessage_progress {failed : Bool} {chunks : List (Chunk UInt8)}
    (h : isLast (readMessage fromStr failed chunks).1 = false) :
    (contents (readMessage fromStr failed chunks).2).length < (contents chunks).length := by
  apply (readFrom_progress failed (.line "") chunks h).2
  rintro rfl
  cases failed <;> cases h

variable (fromStr)

/-- The results of repeated calls up to the first Io or ConnectionClosed. -/
def readAll (failed : Bool) (chunks : List (Chunk UInt8)) : List (Except ControlError Message) :=
  if _hLast : isLast (readMessage fromStr failed chunks).1 = true then
    [(readMessage fromStr failed chunks).1]
  else
    (readMessage fromStr failed chunks).1 :: readAll failed (readMessage fromStr failed chunks).2
termination_by (contents chunks).length
decreasing_by exact readMessage_progress (Bool.eq_false_iff.mpr _hLast)

theorem readAll_last {failed : Bool} {chunks : List (Chunk UInt8)}
    (h : isLast (readMessage fromStr failed chunks).1 = true) :
    readAll fromStr failed chunks = [(readMessage fromStr failed chunks).1] := by
  rw [readAll, dif_pos h]

theorem readAll_more {failed : Bool} {chunks : List (Chunk UInt8)}
    (h : isLast (readMessage fromStr failed chunks).1 = false) :
    readAll fromStr failed chunks = (readMessage fromStr failed chunks).1 ::
      readAll fromStr failed (readMessage fromStr failed chunks).2 := by
  rw [readAll, dif_neg (Bool.eq_false_iff.mp h)]

/-- The kinds of error, without their details. -/
inductive ErrorKind where
  | io
  | messageTooLarge
  | serialization
  | deserialization
  | connectionClosed
  deriving DecidableEq, Repr

def ControlError.kind : ControlError → ErrorKind
  | .io => .io
  | .messageTooLarge _ => .messageTooLarge
  | .serialization => .serialization
  | .deserialization => .deserialization
  | .connectionClosed => .connectionClosed

/-- Messages and kinds of error. -/
def readKinds (failed : Bool) (chunks : List (Chunk UInt8)) : List (Except ErrorKind Message) :=
  (readAll fromStr failed chunks).map fun result => result.mapError ControlError.kind

end DevcontainerBridge
