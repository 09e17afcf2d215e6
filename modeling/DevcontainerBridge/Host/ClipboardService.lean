import DevcontainerBridge.Control.Clipboard
import DevcontainerBridge.Host.Helper
import DevcontainerBridge.Host.Proxy
import DevcontainerBridge.Protocol.Unambiguous
import DevcontainerBridge.Table.Attempts

/-! The clipboard service of the host on Linux: who may read the clipboard,
which tools are tried for an image, and what the client receives in the end. -/
namespace DevcontainerBridge

open Stream Table

/-- The text of an error, as a client is told. -/
def CaptureFailure.text : CaptureFailure → String
  | .unavailable => "no requested PNG/JPEG image available; on Linux install wl-clipboard (Wayland) " ++
      "or xclip (X11) and run the host daemon in your desktop session"
  | .mixedSelection => "every copied file must be a PNG or JPEG image matching the requested format"
  | .timeout => "clipboard capture timed out"
  | .tooLarge => "clipboard helper output exceeds the permitted size"
  | .io error => "clipboard helper I/O failed: " ++ error.text

/-- A program and its arguments. -/
abbrev HelperCommand := String × List String

def helperCommands (mime : String) : List HelperCommand :=
  [("wl-paste", ["--no-newline", "--type", mime]), ("xclip", ["-selection", "clipboard", "-out", "-target", mime])]

def ClipboardFormat.mime : ClipboardFormat → Option String
  | .png => some "image/png"
  | .jpeg => some "image/jpeg"
  | .auto => none

section Capture

-- a program is started with an error, or with what is learnt about it before the deadline
variable (spawn : HelperCommand → Except IoError (List HelperEvent))

/-- `run_helper` -/
def runCommand (command : HelperCommand) : Except CaptureFailure (List UInt8) :=
  match spawn command with
  | .error error => .error (.io error)
  | .ok events => runHelper maxImageBytes events

/-- The loop of `capture_format`. -/
def tryCommands (format : ClipboardFormat) : List HelperCommand → Except CaptureFailure (List UInt8)
  | [] => .error .unavailable
  | command :: commands =>
      match runCommand spawn command with
      | .ok bytes => if matchesFormat bytes format then .ok bytes else tryCommands format commands
      | .error .unavailable => tryCommands format commands
      | .error (.io error) => if error.notFound then tryCommands format commands else .error (.io error)
      | .error e => .error e

def captureFormat (format : ClipboardFormat) : Except CaptureFailure (List UInt8) :=
  match format.mime with
  | none => .error .unavailable
  | some mime => tryCommands spawn format (helperCommands mime)

def captureFormats : ClipboardFormat → List ClipboardFormat
  | .auto => [.png, .jpeg]
  | .png => [.png]
  | .jpeg => [.jpeg]

/-- The loop of `capture_candidates`. -/
def tryFormats : List ClipboardFormat → Except CaptureFailure (List ClipboardImage)
  | [] => .error .unavailable
  | candidate :: formats =>
      match captureFormat spawn candidate with
      | .ok bytes =>
          if matchesFormat bytes candidate then .ok [{ format := candidate, bytes := bytes }] else tryFormats formats
      | .error .unavailable => tryFormats formats
      | .error e => .error e

def captureCandidates (format : ClipboardFormat) : Except CaptureFailure (List ClipboardImage) :=
  tryFormats spawn (captureFormats format)

end Capture

/-- `ClipboardService`, without its semaphore. -/
structure ClipboardService where
  enabled : Bool
  token : Option String
  deriving DecidableEq, Repr

namespace ClipboardService

def reject (error : String) : Except ControlError (List UInt8) := writeMessage (.clipboardError error) true

/-- What `serve` writes, to a writer that takes everything. The permit for a
transfer can be busy. -/
def serve (service : ClipboardService) (busy : Bool)
    (capture : ClipboardFormat → Except CaptureFailure (List ClipboardImage)) (format : ClipboardFormat)
    (token : String) : Except ControlError (List UInt8) :=
  if service.enabled = false then
    reject "clipboard sharing is disabled; start host-daemon with --allow-clipboard"
  else if (service.token.any fun expected => !expected.isEmpty && expected == token) = false then
    reject "clipboard authentication failed"
  else if busy then
    reject "another clipboard transfer is in progress; try again"
  else
    match capture format with
    | .ok images => writeImages images
    | .error error => reject error.text

/-- What a request comes to: images, or the text of a refusal. -/
def answer (service : ClipboardService) (busy : Bool)
    (capture : ClipboardFormat → Except CaptureFailure (List ClipboardImage)) (format : ClipboardFormat)
    (token : String) : Except String (List ClipboardImage) :=
  if service.enabled = false then
    .error "clipboard sharing is disabled; start host-daemon with --allow-clipboard"
  else if (service.token.any fun expected => !expected.isEmpty && expected == token) = false then
    .error "clipboard authentication failed"
  else if busy then
    .error "another clipboard transfer is in progress; try again"
  else
    (capture format).mapError CaptureFailure.text

/-- The request may read the clipboard. -/
def Permits (service : ClipboardService) (token : String) : Prop :=
  service.enabled = true ∧ token ≠ "" ∧ service.token = some token

end ClipboardService

/-- The tools for one format. -/
def formatKeys (format : ClipboardFormat) : List (ClipboardFormat × HelperCommand) :=
  (format.mime.elim [] helperCommands).map fun command => (format, command)

/-- The tools that are tried for a request, with the format that each is
asked for. -/
def captureKeys (format : ClipboardFormat) : List (ClipboardFormat × HelperCommand) :=
  (captureFormats format).flatMap formatKeys

section Attempts

variable (spawn : HelperCommand → Except IoError (List HelperEvent))

/-- What one tool comes to. -/
def captureAttempt (key : ClipboardFormat × HelperCommand) : Tried ClipboardImage CaptureFailure :=
  match runCommand spawn key.2 with
  | .ok bytes => if matchesFormat bytes key.1 then .found { format := key.1, bytes } else .skipped
  | .error .unavailable => .skipped
  | .error (.io error) => if error.notFound then .skipped else .failed (.io error)
  | .error e => .failed e

/-- A search that found nothing has no image to offer. -/
def captured : Tried ClipboardImage CaptureFailure → Except CaptureFailure (List ClipboardImage)
  | .found image => .ok [image]
  | .skipped => .error .unavailable
  | .failed error => .error error

variable {spawn} {key : ClipboardFormat × HelperCommand} {keys : List (ClipboardFormat × HelperCommand)}
  {image : ClipboardImage}

theorem captureAttempt_found (h : captureAttempt spawn key = .found image) :
    runCommand spawn key.2 = .ok image.bytes ∧ matchesFormat image.bytes key.1 = true ∧ image.format = key.1 := by
  unfold captureAttempt at h
  split at h
  case h_1 bytes hRun =>
    split_ifs at h with hSignature
    cases h
    exact ⟨hRun, hSignature, rfl⟩
  case h_2 => cases h
  case h_3 error hRun => split_ifs at h
  case h_4 => cases h

theorem captureAttempt_ne_unavailable (key : ClipboardFormat × HelperCommand) :
    captureAttempt spawn key ≠ .failed .unavailable := by
  intro h
  unfold captureAttempt at h
  split at h
  case h_1 => split_ifs at h
  case h_2 => cases h
  case h_3 =>
    split_ifs at h
    cases h
  case h_4 error hUnavailable hIo hRun =>
    cases h
    exact hUnavailable rfl

theorem search_ne_unavailable (keys : List (ClipboardFormat × HelperCommand)) :
    search (captureAttempt spawn) keys ≠ .failed .unavailable := by
  intro h
  obtain ⟨-, key, -, -, -, hKey⟩ := (search_eq_iff (by simp)).mp h
  exact captureAttempt_ne_unavailable key hKey

theorem search_found (h : search (captureAttempt spawn) keys = .found image) :
    matchesFormat image.bytes image.format = true ∧ ∃ key ∈ keys, image.format = key.1 := by
  obtain ⟨before, key, after, rfl, -, hKey⟩ := (search_eq_iff (by simp)).mp h
  obtain ⟨-, hSignature, hFormat⟩ := captureAttempt_found hKey
  exact ⟨hFormat ▸ hSignature, key, by simp, hFormat⟩

/-- What `capture_format` makes of a search. -/
def foundBytes : Tried ClipboardImage CaptureFailure → Except CaptureFailure (List UInt8)
  | .found image => .ok image.bytes
  | .skipped => .error .unavailable
  | .failed error => .error error

theorem tryCommands_eq (spawn : HelperCommand → Except IoError (List HelperEvent)) (format : ClipboardFormat)
    (commands : List HelperCommand) :
    tryCommands spawn format commands =
      foundBytes (search (captureAttempt spawn) (commands.map fun command => (format, command))) := by
  induction commands with
  | nil => rfl
  | cons command commands ih =>
      rw [tryCommands, List.map_cons, search, captureAttempt, ih]
      dsimp only
      split
      case h_1 => split_ifs <;> rfl
      case h_2 => rfl
      case h_3 => split_ifs <;> rfl
      case h_4 => rfl

theorem captureFormat_eq (spawn : HelperCommand → Except IoError (List HelperEvent)) (format : ClipboardFormat) :
    captureFormat spawn format = foundBytes (search (captureAttempt spawn) (formatKeys format)) := by
  unfold captureFormat formatKeys
  cases format.mime with
  | none => rfl
  | some mime => exact tryCommands_eq spawn format _

theorem tryFormats_eq (spawn : HelperCommand → Except IoError (List HelperEvent)) (formats : List ClipboardFormat) :
    tryFormats spawn formats =
      captured (search (fun format => search (captureAttempt spawn) (formatKeys format)) formats) := by
  induction formats with
  | nil => rfl
  | cons format formats ih =>
      rw [tryFormats, captureFormat_eq, search, ih]
      cases hSearch : search (captureAttempt spawn) (formatKeys format) with
      | found image =>
          obtain ⟨hSignature, key, hKey, hFormat⟩ := search_found hSearch
          obtain ⟨command, -, rfl⟩ := List.mem_map.mp hKey
          obtain rfl : image.format = format := hFormat
          exact if_pos hSignature
      | skipped => rfl
      | failed error =>
          have hError : error ≠ .unavailable := fun hSame => search_ne_unavailable _ (hSame ▸ hSearch)
          cases error <;> first | rfl | exact absurd rfl hError

/-- The two loops are one search through all tools that are asked. -/
theorem captureCandidates_eq (spawn : HelperCommand → Except IoError (List HelperEvent)) (format : ClipboardFormat) :
    captureCandidates spawn format = captured (search (captureAttempt spawn) (captureKeys format)) := by
  rw [captureCandidates, tryFormats_eq, search_flatMap]
  rfl

end Attempts

namespace ClipboardService

variable {service : ClipboardService} {busy : Bool} {requested : ClipboardFormat} {token : String}
  {capture : ClipboardFormat → Except CaptureFailure (List ClipboardImage)} {images : List ClipboardImage}

theorem serve_eq : service.serve busy capture requested token =
    match service.answer busy capture requested token with
    | .ok images => writeImages images
    | .error reason => reject reason := by
  unfold serve answer
  split_ifs
  · rfl
  · rfl
  · rfl
  · cases capture requested <;> rfl

theorem permits_iff : service.Permits token ↔ service.enabled = true ∧
    (service.token.any fun expected => !expected.isEmpty && expected == token) = true := by
  unfold Permits
  apply and_congr_right
  intro _
  cases hToken : service.token with
  | none => simp
  | some expected =>
      simp only [Option.any_some, Bool.and_eq_true, Bool.not_eq_true', String.isEmpty_eq_false_iff, beq_iff_eq,
        Option.some.injEq]
      constructor
      · rintro ⟨hSome, rfl⟩
        exact ⟨hSome, rfl⟩
      · rintro ⟨hSome, rfl⟩
        exact ⟨hSome, rfl⟩

theorem answer_eq_ok_iff : service.answer busy capture requested token = .ok images ↔
    service.Permits token ∧ busy = false ∧ capture requested = .ok images := by
  rw [permits_iff, answer]
  split_ifs with hEnabled hToken hBusy
  · simp [hEnabled]
  · simp [hToken]
  · simp [hBusy]
  · have hAny : (service.token.any fun expected => !expected.isEmpty && expected == token) = true := by
      simpa using hToken
    have hOn : service.enabled = true := by simpa using hEnabled
    have hFree : busy = false := by simpa using hBusy
    rw [hAny]
    cases capture requested <;> simp [hOn, hFree, Except.mapError]

end ClipboardService

/-- A line with a refusal is ASCII and below the limit. -/
theorem Message.clipboardError_short {error : String} (hAscii : IsAscii (utf8 error)) :
    IsAscii (utf8 (Message.clipboardError error).toJson) ∧
      (Message.clipboardError error).toJson.utf8ByteSize ≤ 12 * error.utf8ByteSize + 304 := by
  have hFields : ∀ field ∈ ("type", jsonString "ClipboardError") :: [("error", jsonString error)],
      ShortText (6 * error.utf8ByteSize + 150) (jsonField field) := by
    intro field hField
    rcases List.mem_pair.mp hField with rfl | rfl
    · exact (shortText_type (by decide) (by decide)).mono (by omega)
    · apply (shortText_jsonField (by decide) (shortText_jsonString hAscii)).mono
      have hName : "error".utf8ByteSize = 5 := by decide
      omega
  obtain ⟨hLine, hSize⟩ := (Message.clipboardError error).short_of_fields hFields
  refine ⟨hLine, hSize.trans ?_⟩
  show 2 * (6 * error.utf8ByteSize + 150 + 1) + 2 ≤ _
  omega

/-- Text that a refusal can have. -/
def PlainReason (reason : String) : Prop :=
  IsAscii (utf8 reason) ∧ reason.utf8ByteSize ≤ 2048

theorem PlainReason.append {front back : String} (hFront : IsAscii (utf8 front)) (hBack : IsAscii (utf8 back))
    (hSize : front.utf8ByteSize + back.utf8ByteSize ≤ 2048) : PlainReason (front ++ back) := by
  constructor
  · rw [utf8_append]
    intro b hMem
    exact (List.mem_append.mp hMem).elim (hFront b) (hBack b)
  · rw [String.utf8ByteSize_append]
    exact hSize

theorem CaptureFailure.text_plain (failure : CaptureFailure) : PlainReason failure.text := by
  cases failure with
  | unavailable => exact ⟨by decide +kernel, by decide +kernel⟩
  | mixedSelection => exact ⟨by decide, by decide⟩
  | timeout => exact ⟨by decide, by decide⟩
  | tooLarge => exact ⟨by decide, by decide⟩
  | io error =>
      have hFront : "clipboard helper I/O failed: ".utf8ByteSize = 29 := by decide
      have hShort := error.short
      exact PlainReason.append (by decide) error.ascii (by omega)

variable {service : ClipboardService} {busy : Bool} {requested : ClipboardFormat} {token : String}
  {capture : ClipboardFormat → Except CaptureFailure (List ClipboardImage)} {images : List ClipboardImage}
  {fromStr : String → Option Message} {chunks : List (Chunk UInt8)} {bytes : List UInt8} {reason : String}
  {spawn : HelperCommand → Except IoError (List HelperEvent)}

theorem ClipboardService.answer_plain (h : service.answer busy capture requested token = .error reason) :
    PlainReason reason := by
  unfold answer at h
  split_ifs at h
  · cases h
    exact ⟨by decide, by decide⟩
  · cases h
    exact ⟨by decide, by decide⟩
  · cases h
    exact ⟨by decide, by decide⟩
  · cases hCapture : capture requested with
    | ok images =>
        rw [hCapture] at h
        cases h
    | error failure =>
        rw [hCapture] at h
        cases h
        exact failure.text_plain

theorem mem_captureKeys {key : ClipboardFormat × HelperCommand} (h : key ∈ captureKeys requested) :
    requested = .auto ∨ requested = key.1 := by
  obtain ⟨candidate, hCandidate, hKey⟩ := List.mem_flatMap.mp h
  obtain ⟨command, -, rfl⟩ := List.mem_map.mp hKey
  cases requested with
  | auto => exact .inl rfl
  | png => exact .inr (List.mem_singleton.mp hCandidate).symm
  | jpeg => exact .inr (List.mem_singleton.mp hCandidate).symm

/-- An image is captured exactly where a tool offers one and the tools that
are asked before it are of no use. -/
theorem captureCandidates_eq_ok_iff : captureCandidates spawn requested = .ok images ↔
    ∃ before key after bytes, captureKeys requested = before ++ key :: after ∧
      (∀ other ∈ before, captureAttempt spawn other = .skipped) ∧ runCommand spawn key.2 = .ok bytes ∧
      matchesFormat bytes key.1 = true ∧ images = [{ format := key.1, bytes }] := by
  rw [captureCandidates_eq]
  constructor
  · intro h
    cases hSearch : search (captureAttempt spawn) (captureKeys requested) with
    | skipped =>
        rw [hSearch] at h
        cases h
    | failed error =>
        rw [hSearch] at h
        cases h
    | found image =>
        rw [hSearch] at h
        cases h
        obtain ⟨before, key, after, hKeys, hBefore, hKey⟩ := (search_eq_iff (by simp)).mp hSearch
        obtain ⟨hRun, hSignature, hFormat⟩ := captureAttempt_found hKey
        refine ⟨before, key, after, image.bytes, hKeys, hBefore, hRun, hSignature, ?_⟩
        rw [← hFormat]
  · rintro ⟨before, key, after, bytes, hKeys, hBefore, hRun, hSignature, rfl⟩
    have hKey : captureAttempt spawn key = .found { format := key.1, bytes } := by
      unfold captureAttempt
      rw [hRun]
      exact if_pos hSignature
    rw [(search_eq_iff (by simp)).mpr ⟨before, key, after, hKeys, hBefore, hKey⟩]
    rfl

theorem captureCandidates_captured (h : captureCandidates spawn requested = .ok images) :
    ∃ image, images = [image] ∧ Captured requested image := by
  obtain ⟨before, key, after, bytes, hKeys, -, hRun, hSignature, rfl⟩ := captureCandidates_eq_ok_iff.mp h
  refine ⟨_, rfl, hSignature, mem_captureKeys (hKeys ▸ by simp), ?_⟩
  unfold runCommand at hRun
  split at hRun
  case h_1 => cases hRun
  case h_2 => exact length_of_runHelper_eq_ok hRun

/-- A refusal is reported with its text. -/
theorem receiveImages_refused (hRead : fromStr (Message.clipboardError reason).toJson = some (.clipboardError reason))
    (hPlain : PlainReason reason) (failed : Bool)
    (hContents : contents chunks = utf8 ((Message.clipboardError reason).toJson.push newlineChar)) :
    receiveImages fromStr failed requested chunks = .error (.host reason) := by
  obtain ⟨hAscii, hSize⟩ := Message.clipboardError_short hPlain.1
  have hFits : (Message.clipboardError reason).toJson.utf8ByteSize < maxMessageSize := by
    have := hPlain.2
    unfold maxMessageSize
    omega
  have hAlone := hContents.trans (List.append_nil _).symm
  obtain ⟨later, -, hHeader⟩ := nextMessage_written failed hAscii hFits hRead hAlone
  unfold receiveImages receiveStepped
  rw [hHeader]
  rfl

theorem writeImages_single (image : ClipboardImage) : writeImages [image] = .ok image.wire := by
  have hOne : ¬[image].length > 1 := Nat.lt_irrefl 1
  rw [writeImages, if_neg hOne, writeEach_eq, List.flatMap_singleton]

/-- However the response is cut, the client ends with the answer of the host. -/
theorem receiveImages_served (hParser : ∀ message, fromStr message.toJson = some message)
    (hServe : service.serve busy (captureCandidates spawn) requested token = .ok bytes) (failed : Bool)
    (hContents : contents chunks = bytes) :
    (receiveImages fromStr failed requested chunks).map Prod.fst =
      match service.answer busy (captureCandidates spawn) requested token with
      | .ok images => .ok (images.map ClipboardImage.saved)
      | .error reason => .error (.host reason) := by
  rw [ClipboardService.serve_eq] at hServe
  split at hServe
  case h_1 images hAnswer =>
    obtain ⟨-, -, hCapture⟩ := ClipboardService.answer_eq_ok_iff.mp hAnswer
    obtain ⟨image, rfl, hImage⟩ := captureCandidates_captured hCapture
    have hWire : bytes = image.wire := (Except.ok.inj ((writeImages_single image).symm.trans hServe)).symm
    obtain ⟨later, -, hReceive⟩ := receiveImages_single failed hImage
      (hImage.fits.trans (by decide)) (hParser image.header) (hContents.trans hWire)
    rw [hReceive]
    rfl
  case h_2 reason hAnswer =>
    have hPlain := ClipboardService.answer_plain hAnswer
    have hLine : bytes = utf8 ((Message.clipboardError reason).toJson.push newlineChar) := by
      rw [(writeMessage_ok hServe).1, utf8_push_newline]
    rw [receiveImages_refused (hParser _) hPlain failed (hContents.trans hLine)]
    rfl

/-- The host always answers. -/
theorem ClipboardService.exists_serve (service : ClipboardService) (busy : Bool)
    (spawn : HelperCommand → Except IoError (List HelperEvent)) (requested : ClipboardFormat) (token : String) :
    ∃ bytes, service.serve busy (captureCandidates spawn) requested token = .ok bytes := by
  rw [serve_eq]
  split
  case h_1 images hAnswer =>
    obtain ⟨-, -, hCapture⟩ := answer_eq_ok_iff.mp hAnswer
    obtain ⟨image, rfl, -⟩ := captureCandidates_captured hCapture
    exact ⟨image.wire, writeImages_single image⟩
  case h_2 reason hAnswer =>
    have hPlain := answer_plain hAnswer
    have hFits := (Message.clipboardError_short hPlain.1).2
    have hSize := hPlain.2
    exact ⟨_, writeMessage_short (by unfold maxMessageSize; omega)⟩

/-- The client receives an image exactly where sharing is enabled, its token
is the one of the daemon, no other transfer is in progress and a tool offers
an image of a requested format; it is then what the first such tool wrote, and
a refusal is reported with its text. -/
theorem clipboard_delivered (hParser : ∀ message, fromStr message.toJson = some message)
    (service : ClipboardService) (busy : Bool) (spawn : HelperCommand → Except IoError (List HelperEvent))
    (requested : ClipboardFormat) (token : String) :
    ∃ bytes, service.serve busy (captureCandidates spawn) requested token = .ok bytes ∧
      ∀ failed chunks, contents chunks = bytes →
        (∀ images, (receiveImages fromStr failed requested chunks).map Prod.fst = .ok images ↔
          service.Permits token ∧ busy = false ∧ ∃ before key after data,
            captureKeys requested = before ++ key :: after ∧
            (∀ other ∈ before, captureAttempt spawn other = .skipped) ∧ runCommand spawn key.2 = .ok data ∧
            matchesFormat data key.1 = true ∧ images = [(key.1, data)]) ∧
        ∀ reason, service.answer busy (captureCandidates spawn) requested token = .error reason →
          receiveImages fromStr failed requested chunks = .error (.host reason) := by
  obtain ⟨bytes, hServe⟩ := service.exists_serve busy spawn requested token
  refine ⟨bytes, hServe, fun failed chunks hContents => ?_⟩
  have hReceive := receiveImages_served hParser hServe failed hContents
  refine ⟨fun images => ?_, fun reason hAnswer => ?_⟩
  · rw [hReceive]
    constructor
    · intro h
      split at h
      case h_2 => cases h
      case h_1 captured hAnswer =>
        cases h
        obtain ⟨hPermits, hFree, hCapture⟩ := ClipboardService.answer_eq_ok_iff.mp hAnswer
        obtain ⟨before, key, after, data, hKeys, hBefore, hRun, hSignature, rfl⟩ :=
          captureCandidates_eq_ok_iff.mp hCapture
        exact ⟨hPermits, hFree, before, key, after, data, hKeys, hBefore, hRun, hSignature, rfl⟩
    · rintro ⟨hPermits, hFree, before, key, after, data, hKeys, hBefore, hRun, hSignature, rfl⟩
      have hCapture := captureCandidates_eq_ok_iff.mpr
        ⟨before, key, after, data, hKeys, hBefore, hRun, hSignature, rfl⟩
      rw [ClipboardService.answer_eq_ok_iff.mpr ⟨hPermits, hFree, hCapture⟩]
      rfl
  · rw [hAnswer] at hReceive
    cases hResult : receiveImages fromStr failed requested chunks with
    | ok received =>
        rw [hResult] at hReceive
        cases hReceive
    | error e =>
        rw [hResult] at hReceive
        cases hReceive
        rfl

def missingTool : IoError where
  notFound := true
  text := "No such file or directory (os error 2)"
  ascii := by decide
  short := by decide

/-- A desktop with a PNG image where `wl-paste` is not installed. -/
def xclipOnly (command : HelperCommand) : Except IoError (List HelperEvent) :=
  if command.1 = "xclip" then .ok [.read .stdout pngSignature, .ended .stdout, .ended .stderr, .exited true]
  else .error missingTool

theorem clipboard_delivered_xclip :
    ∃ (fromStr : String → Option Message) (bytes : List UInt8),
      ({ enabled := true, token := some "secret" } : ClipboardService).serve false (captureCandidates xclipOnly) .auto
        "secret" = .ok bytes ∧
      ∀ failed chunks, contents chunks = bytes →
        (receiveImages fromStr failed .auto chunks).map Prod.fst = .ok [(.png, pngSignature)] := by
  obtain ⟨fromStr, hParser⟩ := exists_reader
  obtain ⟨bytes, hServe, hReceive⟩ := clipboard_delivered hParser { enabled := true, token := some "secret" } false
    xclipOnly .auto "secret"
  refine ⟨fromStr, bytes, hServe, fun failed chunks hContents => ?_⟩
  refine ((hReceive failed chunks hContents).1 _).mpr ⟨⟨rfl, by decide, rfl⟩, rfl, ?_⟩
  refine ⟨[(.png, "wl-paste", ["--no-newline", "--type", "image/png"])],
    (.png, "xclip", ["-selection", "clipboard", "-out", "-target", "image/png"]), _, pngSignature, rfl, ?_, rfl, rfl, rfl⟩
  intro other hOther
  rw [List.mem_singleton.mp hOther]
  rfl

end DevcontainerBridge
