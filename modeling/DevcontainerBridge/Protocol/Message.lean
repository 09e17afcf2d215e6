/-! Message types of the control and data channels. Machine integers keep
their widths; identifiers, paths and texts are Unicode strings. -/
namespace DevcontainerBridge

/-- Image representation requested from the host clipboard. -/
inductive ClipboardFormat where
  | auto
  | png
  | jpeg
  deriving DecidableEq, Repr

/-- Transport protocol of a forwarded port. -/
inductive Protocol where
  | tcp
  deriving DecidableEq, Repr

/-- One active port forward, as a `ListResponse` reports it. -/
structure ForwardInfo where
  containerId : String
  hostname : String
  port : UInt16
  hostPort : UInt16
  protocol : Protocol
  processName : Option String
  pid : Option UInt32
  since : String
  deriving DecidableEq, Repr

/-- One active Unix socket forward, as a `ListResponse` reports it. -/
structure SocketForwardInfo where
  socketId : String
  hostPath : String
  containerPath : String
  deriving DecidableEq, Repr

/-- A message between host daemon, container daemon and command line. The
clipboard credential is transparent on the wire, so it is its string here. -/
inductive Message where
  | clipboardRead (format : ClipboardFormat) (authToken : String)
  | clipboardBatchReady (count : UInt32)
  | clipboardReady (format : ClipboardFormat) (size : UInt64)
  | clipboardError (error : String)
  | register (containerId hostname authToken : String)
  | registerAck (success : Bool)
  | forward (port : UInt16) (protocol : Protocol) (processName : Option String) (pid : Option UInt32)
  | forwardAck (port : UInt16) (success : Bool) (hostPort : UInt16)
  | unforward (port : UInt16)
  | connectRequest (port : UInt16) (connId : String)
  | connectReady (connId : String)
  | connectFailed (connId error : String)
  | openUrl (url : String)
  | openUrlAck (success : Bool)
  | ping
  | pong
  | listRequest
  | listResponse (forwards : List ForwardInfo) (socketForwards : List SocketForwardInfo)
  | socketForward (socketId hostPath containerPath : String)
  | socketUnforward (socketId : String)
  | socketConnectRequest (socketId connId : String)
  | shutdown (authToken : String)
  deriving DecidableEq, Repr

/-- The credential a message presents, where its type has one. -/
def Message.credential : Message → Option String
  | .clipboardRead _ authToken => some authToken
  | .register _ _ authToken => some authToken
  | .shutdown authToken => some authToken
  | _ => none

/-- Maximum length in bytes of a URL in `OpenUrl`. -/
def maxUrlLength : Nat := 2048

inductive UrlValidationError where
  | empty
  | invalidScheme
  | tooLong (len max : Nat)
  | invalidCharacters
  deriving DecidableEq, Repr

/-- Rust's `char::is_ascii_control`. -/
def isAsciiControl (c : Char) : Bool :=
  c.val < 32 || c.val == 127

/-- Rust's `str::to_ascii_lowercase` on a list of characters. -/
def toAsciiLowercase (text : List Char) : List Char :=
  text.map Char.toLower

/-- Check that a URL is safe to open. The first violated constraint is
reported, in the order of the source. -/
def validateOpenUrl (url : String) : Except UrlValidationError Unit :=
  if url.isEmpty then
    .error .empty
  else if url.utf8ByteSize > maxUrlLength then
    .error (.tooLong url.utf8ByteSize maxUrlLength)
  else if url.toList.any isAsciiControl then
    .error .invalidCharacters
  else
    let lower := toAsciiLowercase url.toList
    if !("http://".toList.isPrefixOf lower) && !("https://".toList.isPrefixOf lower) then
      .error .invalidScheme
    else
      .ok ()

end DevcontainerBridge
