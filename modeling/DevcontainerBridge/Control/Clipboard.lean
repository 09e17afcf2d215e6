import DevcontainerBridge.Control.RoundTrip
import DevcontainerBridge.Protocol.ShortJson

/-! Clipboard transfers: JSON header lines and raw image bytes on one stream.
The host announces a count for several images only, and the client has its
own limits for what it accepts. -/
namespace DevcontainerBridge

open Stream

def maxImageBytes : Nat := 20 * 1024 * 1024

def maxBatchImages : Nat := 16

def maxBatchBytes : Nat := 64 * 1024 * 1024

/-- One image read from the host clipboard. -/
structure ClipboardImage where
  format : ClipboardFormat
  bytes : List UInt8
  deriving DecidableEq, Repr

inductive PasteError where
  | io
  | protocol (error : ControlError)
  | host (error : String)
  | invalidResponse (reason : String)
  deriving DecidableEq, Repr

def pngSignature : List UInt8 := [0x89, 0x50, 0x4E, 0x47, 0x0D, 0x0A, 0x1A, 0x0A]

def jpegSignature : List UInt8 := [0xFF, 0xD8, 0xFF]

/-- `matches_format`, and the same check in `receive_images`. -/
def matchesFormat (bytes : List UInt8) : ClipboardFormat → Bool
  | .png => pngSignature.isPrefixOf bytes
  | .jpeg => jpegSignature.isPrefixOf bytes
  | .auto => false

def ClipboardImage.header (image : ClipboardImage) : Message :=
  .clipboardReady image.format (UInt64.ofNat image.bytes.length)

def batchHeader (images : List ClipboardImage) : Message :=
  .clipboardBatchReady (UInt32.ofNat images.length)

/-- The loop of `write_images`, to a writer that takes everything. -/
def writeEach : List ClipboardImage → Except ControlError (List UInt8)
  | [] => .ok []
  | image :: images =>
      match writeMessage image.header true with
      | .error e => .error e
      | .ok header =>
          match writeEach images with
          | .error e => .error e
          | .ok more => .ok (header ++ image.bytes ++ more)

/-- `write_images`. A single image keeps the response without a count. -/
def writeImages (images : List ClipboardImage) : Except ControlError (List UInt8) :=
  if images.length > 1 then
    match writeMessage (batchHeader images) true with
    | .error e => .error e
    | .ok header =>
        match writeEach images with
        | .error e => .error e
        | .ok more => .ok (header ++ more)
  else
    writeEach images

section Receive

variable (fromStr : String → Option Message) (failed : Bool) (requested : ClipboardFormat)

/-- The next message: the one that was read for the count, or a new one. -/
def nextMessage : Option Message → List (Chunk UInt8) →
    Except PasteError (Message × List (Chunk UInt8))
  | some message, chunks => .ok (message, chunks)
  | none, chunks =>
      match readMessage fromStr failed chunks with
      | (.error e, _) => .error (.protocol e)
      | (.ok message, later) => .ok (message, later)

/-- `u64::saturating_add`. -/
def saturatingAdd (a b : UInt64) : UInt64 :=
  if a.toNat + b.toNat < 2 ^ 64 then a + b else UInt64.ofNat (2 ^ 64 - 1)

/-- What `receive_images` does with a declared size: it counts it into the
running total, which becomes `total`, and it allocates a buffer for it. -/
inductive SizeStep where
  | counted (size total : UInt64)
  | allocated (size : Nat)
  deriving DecidableEq, Repr

/-- The buffers among the steps. -/
def allocations (steps : List SizeStep) : List Nat :=
  steps.filterMap fun
    | .counted .. => none
    | .allocated size => some size

/-- What is done with the sizes on the way to a result, also to an error. -/
abbrev Stepped (α : Type) := List SizeStep × Except PasteError α

/-- What a header announces, when it passes the checks. The third component
is the running total with this image. -/
def checkHeader (total : UInt64) : Message → Stepped (ClipboardFormat × Nat × UInt64)
  | .clipboardReady format size =>
      if format = .auto ∨ requested ≠ .auto ∧ requested ≠ format then
        ([], .error (.invalidResponse "unexpected image format"))
      else
        let total := saturatingAdd total size
        ([.counted size total],
          if size = 0 ∨ size.toNat > maxImageBytes ∨ total.toNat > maxBatchBytes then
            .error (.invalidResponse "image size is outside the allowed range")
          else
            .ok (format, size.toNat, total))
  | .clipboardError error => ([], .error (.host error))
  | _ => ([], .error (.invalidResponse "expected ClipboardReady"))

/-- What follows the checks of a header: the buffer is allocated, filled and
compared with the signature. -/
def fillBuffer (format : ClipboardFormat) (size : Nat) (chunks : List (Chunk UInt8)) :
    Stepped ((ClipboardFormat × List UInt8) × List (Chunk UInt8)) :=
  ([.allocated size],
    match takeExact size chunks with
    | none => .error .io
    | some (bytes, rest) =>
        if matchesFormat bytes format then
          .ok ((format, bytes), rest)
        else
          .error (.invalidResponse "image signature does not match its format"))

/-- One iteration of the loop of `receive_images`: the image, the running
total and the rest of the stream. -/
def receiveImage (total : UInt64) (buffered : Option Message) (chunks : List (Chunk UInt8)) :
    Stepped ((ClipboardFormat × List UInt8) × UInt64 × List (Chunk UInt8)) :=
  match nextMessage fromStr failed buffered chunks with
  | .error e => ([], .error e)
  | .ok (message, later) =>
      match checkHeader requested total message with
      | (steps, .error e) => (steps, .error e)
      | (steps, .ok (format, size, total)) =>
          match fillBuffer format size later with
          | (more, .error e) => (steps ++ more, .error e)
          | (more, .ok (image, rest)) => (steps ++ more, .ok (image, total, rest))

/-- The loop of `receive_images`. -/
def receiveEach : Nat → UInt64 → Option Message → List (Chunk UInt8) →
    Stepped (List (ClipboardFormat × List UInt8) × List (Chunk UInt8))
  | 0, _, _, chunks => ([], .ok ([], chunks))
  | count + 1, total, buffered, chunks =>
      match receiveImage fromStr failed requested total buffered chunks with
      | (steps, .error e) => (steps, .error e)
      | (steps, .ok (image, total, later)) =>
          match receiveEach count total none later with
          | (more, .error e) => (steps ++ more, .error e)
          | (more, .ok (images, last)) => (steps ++ more, .ok (image :: images, last))

/-- `receive_images`, with what it does with the sizes. -/
def receiveStepped (chunks : List (Chunk UInt8)) :
    Stepped (List (ClipboardFormat × List UInt8) × List (Chunk UInt8)) :=
  match nextMessage fromStr failed none chunks with
  | .error e => ([], .error e)
  | .ok (first, later) =>
      let (count, buffered) :=
        match first with
        | .clipboardBatchReady count => (count.toNat, none)
        | message => (1, some message)
      if count = 0 ∨ count > maxBatchImages then
        ([], .error (.invalidResponse "image count is outside the allowed range"))
      else
        receiveEach fromStr failed requested count 0 buffered later

/-- `receive_images`: the images, and what is left of the stream. -/
def receiveImages (chunks : List (Chunk UInt8)) :
    Except PasteError (List (ClipboardFormat × List UInt8) × List (Chunk UInt8)) :=
  (receiveStepped fromStr failed requested chunks).2

end Receive

/-- An image that `capture` can return for a request. -/
structure Captured (requested : ClipboardFormat) (image : ClipboardImage) : Prop where
  signature : matchesFormat image.bytes image.format = true
  requested : requested = .auto ∨ requested = image.format
  fits : image.bytes.length ≤ maxImageBytes

/-- A selection that `capture` can return for a request. -/
structure CapturedBatch (requested : ClipboardFormat) (images : List ClipboardImage) : Prop where
  nonempty : images ≠ []
  count : images.length ≤ maxBatchImages
  total : (images.map fun image => image.bytes.length).sum ≤ maxBatchBytes
  image : ∀ image ∈ images, Captured requested image

/-- The header lines of a transfer. -/
def headers (images : List ClipboardImage) : List Message :=
  if images.length > 1 then batchHeader images :: images.map ClipboardImage.header
  else images.map ClipboardImage.header

variable {fromStr : String → Option Message} {requested : ClipboardFormat}
  {images : List ClipboardImage} {chunks : List (Chunk UInt8)} {rest : List UInt8}

/-- An image as the client saves it. -/
def ClipboardImage.saved (image : ClipboardImage) : ClipboardFormat × List UInt8 :=
  (image.format, image.bytes)

/-- One image as `write_images` puts it on the stream. -/
def ClipboardImage.wire (image : ClipboardImage) : List UInt8 :=
  utf8 (image.header.toJson.push newlineChar) ++ image.bytes

theorem writeMessage_short {message : Message} (h : message.toJson.utf8ByteSize < maxMessageSize) :
    writeMessage message true = .ok (utf8 (message.toJson.push newlineChar)) := by
  unfold writeMessage
  dsimp only
  rw [if_neg (by omega), if_pos rfl]

theorem header_fits (image : ClipboardImage) : image.header.toJson.utf8ByteSize < maxMessageSize := by
  have hShort := (Message.clipboardReady_short image.format (UInt64.ofNat image.bytes.length)).2
  exact hShort.trans_lt (by decide)

theorem batchHeader_fits (images : List ClipboardImage) :
    (batchHeader images).toJson.utf8ByteSize < maxMessageSize := by
  have hShort := (Message.clipboardBatchReady_short (UInt32.ofNat images.length)).2
  exact hShort.trans_lt (by decide)

theorem writeEach_eq (images : List ClipboardImage) :
    writeEach images = .ok (images.flatMap ClipboardImage.wire) := by
  induction images with
  | nil => rfl
  | cons image images ih =>
      unfold writeEach
      rw [writeMessage_short (header_fits image), ih]
      rfl

theorem Captured.not_auto {image : ClipboardImage} (h : Captured requested image) :
    image.format ≠ .auto := by
  intro hAuto
  have hSignature := h.signature
  rw [hAuto] at hSignature
  cases hSignature

theorem Captured.size_pos {image : ClipboardImage} (h : Captured requested image) :
    0 < image.bytes.length := by
  apply List.length_pos_iff.mpr
  intro hEmpty
  have hSignature := h.signature
  rw [hEmpty] at hSignature
  cases hFormat : image.format <;> rw [hFormat] at hSignature <;> cases hSignature

theorem Captured.size_toNat {image : ClipboardImage} (h : Captured requested image) :
    (UInt64.ofNat image.bytes.length).toNat = image.bytes.length := by
  have hFits := h.fits
  unfold maxImageBytes at hFits
  rw [UInt64.toNat_ofNat']
  omega

/-- The addition is exact, or it stops at the largest value. -/
@[simp] theorem toNat_saturatingAdd (a b : UInt64) :
    (saturatingAdd a b).toNat = min (a.toNat + b.toNat) (2 ^ 64 - 1) := by
  unfold saturatingAdd
  split_ifs with hFits
  · rw [UInt64.toNat_add, Nat.mod_eq_of_lt hFits]
    omega
  · rw [UInt64.toNat_ofNat']
    omega

/-- The client's checks accept what the host may send. -/
theorem checkHeader_captured {image : ClipboardImage} (h : Captured requested image) {total : UInt64}
    (hTotal : total.toNat + image.bytes.length ≤ maxBatchBytes) :
    ∃ sum : UInt64, sum.toNat = total.toNat + image.bytes.length ∧
      (checkHeader requested total image.header).2 = .ok (image.format, image.bytes.length, sum) := by
  have hPositive := h.size_pos
  have hFits := h.fits
  have hSize := h.size_toNat
  have hNonzero : UInt64.ofNat image.bytes.length ≠ 0 := by
    intro hZero
    rw [hZero] at hSize
    exact hPositive.ne hSize
  have hFormat : ¬(image.format = .auto ∨ requested ≠ .auto ∧ requested ≠ image.format) := by
    rintro (hAuto | ⟨hSome, hOther⟩)
    · exact h.not_auto hAuto
    · exact h.requested.elim hSome hOther
  have hSum : (saturatingAdd total (UInt64.ofNat image.bytes.length)).toNat = total.toNat + image.bytes.length := by
    rw [toNat_saturatingAdd, hSize]
    unfold maxBatchBytes at hTotal
    omega
  refine ⟨_, hSum, ?_⟩
  unfold checkHeader ClipboardImage.header
  dsimp only
  rw [if_neg hFormat]
  dsimp only
  rw [hSum, hSize, if_neg]
  rintro (hZero | hLarge | hOver)
  · exact hNonzero hZero
  · omega
  · omega

/-- The header of an image is read wherever it stands on the stream. -/
theorem nextMessage_written {message : Message} (failed : Bool)
    (hAscii : IsAscii (utf8 message.toJson)) (hFits : message.toJson.utf8ByteSize < maxMessageSize)
    (hRoundTrip : fromStr message.toJson = some message)
    (hContents : contents chunks = utf8 (message.toJson.push newlineChar) ++ rest) :
    ∃ later, contents later = rest ∧
      nextMessage fromStr failed none chunks = .ok (message, later) := by
  obtain ⟨later, hLater, hRead⟩ := readMessage_written failed hAscii hFits hRoundTrip hContents
  refine ⟨later, hLater, ?_⟩
  unfold nextMessage
  dsimp only
  rw [hRead]

/-- Behind its header, an image is received with exactly its bytes. -/
theorem receiveImage_captured {image : ClipboardImage} {buffered : Option Message} (failed : Bool)
    {later : List (Chunk UInt8)} (h : Captured requested image) {total : UInt64}
    (hTotal : total.toNat + image.bytes.length ≤ maxBatchBytes)
    (hHeader : nextMessage fromStr failed buffered chunks = .ok (image.header, later))
    (hLater : contents later = image.bytes ++ rest) :
    ∃ last steps, ∃ sum : UInt64, contents last = rest ∧ sum.toNat = total.toNat + image.bytes.length ∧
      receiveImage fromStr failed requested total buffered chunks = (steps, .ok (image.saved, sum, last)) := by
  obtain ⟨last, hTake, hRest⟩ := takeExact_append hLater
  obtain ⟨sum, hSum, hCheck⟩ := checkHeader_captured h hTotal
  have hFill : fillBuffer image.format image.bytes.length later =
      ([.allocated image.bytes.length], .ok (image.saved, last)) := by
    unfold fillBuffer
    rw [hTake]
    exact congrArg _ (if_pos h.signature)
  obtain ⟨steps, hSteps⟩ : ∃ steps, checkHeader requested total image.header =
      (steps, .ok (image.format, image.bytes.length, sum)) :=
    ⟨_, Prod.ext rfl hCheck⟩
  refine ⟨last, steps ++ [.allocated image.bytes.length], sum, hRest, hSum, ?_⟩
  unfold receiveImage
  rw [hHeader]
  dsimp only
  rw [hSteps]
  dsimp only
  rw [hFill]

/-- The images that follow each other on the stream are received in order. -/
theorem receiveEach_wire (failed : Bool) (hCaptured : ∀ image ∈ images, Captured requested image)
    {total : UInt64}
    (hTotal : total.toNat + (images.map fun image => image.bytes.length).sum ≤ maxBatchBytes)
    (hRoundTrip : ∀ image ∈ images, fromStr image.header.toJson = some image.header)
    (hContents : contents chunks = images.flatMap ClipboardImage.wire ++ rest) :
    ∃ later, contents later = rest ∧ (receiveEach fromStr failed requested images.length total none chunks).2 =
      .ok (images.map ClipboardImage.saved, later) := by
  induction images generalizing chunks total with
  | nil => exact ⟨chunks, hContents, rfl⟩
  | cons image images ih =>
      have hImage := hCaptured image List.mem_cons_self
      have hHeaderAscii := (Message.clipboardReady_short image.format
        (UInt64.ofNat image.bytes.length)).1
      rw [List.map_cons, List.sum_cons] at hTotal
      rw [List.flatMap_cons, ClipboardImage.wire, List.append_assoc, List.append_assoc] at hContents
      obtain ⟨body, hBody, hHeader⟩ := nextMessage_written failed hHeaderAscii (header_fits image)
        (hRoundTrip image List.mem_cons_self) hContents
      have hNow : total.toNat + image.bytes.length ≤ maxBatchBytes := by omega
      obtain ⟨behind, steps, sum, hBehind, hSum, hReceive⟩ := receiveImage_captured failed hImage hNow hHeader hBody
      have hThen : sum.toNat + (images.map fun image => image.bytes.length).sum ≤ maxBatchBytes := by omega
      obtain ⟨later, hLater, hOthers⟩ := ih
        (fun other hOther => hCaptured other (List.mem_cons_of_mem image hOther)) hThen
        (fun other hOther => hRoundTrip other (List.mem_cons_of_mem image hOther)) hBehind
      refine ⟨later, hLater, ?_⟩
      rw [List.length_cons]
      unfold receiveEach
      rw [hReceive]
      dsimp only
      generalize receiveEach fromStr failed requested images.length sum none behind = others at hOthers
      obtain ⟨more, result⟩ := others
      cases hOthers
      rfl

/-- A single image comes without a count, and its header is read first. -/
theorem receiveImages_single {image : ClipboardImage} (failed : Bool) (h : Captured requested image)
    (hTotal : image.bytes.length ≤ maxBatchBytes)
    (hRoundTrip : fromStr image.header.toJson = some image.header)
    (hContents : contents chunks = image.wire) :
    ∃ later, contents later = [] ∧
      receiveImages fromStr failed requested chunks = .ok ([image.saved], later) := by
  obtain ⟨body, hBody, hHeader⟩ := nextMessage_written failed
    (Message.clipboardReady_short image.format (UInt64.ofNat image.bytes.length)).1
    (header_fits image) hRoundTrip hContents
  have hImage : contents body = image.bytes ++ [] := hBody.trans (List.append_nil _).symm
  have hBuffered : nextMessage fromStr failed (some image.header) body = .ok (image.header, body) := rfl
  have hFirst : (0 : UInt64).toNat + image.bytes.length ≤ maxBatchBytes := (Nat.zero_add _).trans_le hTotal
  obtain ⟨later, steps, sum, hLater, -, hReceive⟩ := receiveImage_captured failed h hFirst hBuffered hImage
  refine ⟨later, hLater, ?_⟩
  unfold receiveImages receiveStepped
  rw [hHeader]
  show (if 1 = 0 ∨ 1 > maxBatchImages then _ else receiveEach fromStr failed requested 1 0
    (some image.header) body).2 = _
  rw [if_neg (by decide)]
  unfold receiveEach
  rw [hReceive]
  rfl

/-- Several images come behind their count. -/
theorem receiveImages_batch (failed : Bool) (h : CapturedBatch requested images)
    (hRoundTrip : ∀ image ∈ images, fromStr image.header.toJson = some image.header)
    (hBatch : fromStr (batchHeader images).toJson = some (batchHeader images))
    (hContents : contents chunks = utf8 ((batchHeader images).toJson.push newlineChar) ++
      images.flatMap ClipboardImage.wire) :
    ∃ later, contents later = [] ∧
      receiveImages fromStr failed requested chunks = .ok (images.map ClipboardImage.saved, later) := by
  obtain ⟨body, hBody, hHeader⟩ := nextMessage_written failed
    (Message.clipboardBatchReady_short (UInt32.ofNat images.length)).1 (batchHeader_fits images)
    hBatch hContents
  have hImages : contents body = images.flatMap ClipboardImage.wire ++ [] :=
    hBody.trans (List.append_nil _).symm
  have hTotal : (0 : UInt64).toNat + (images.map fun image => image.bytes.length).sum ≤ maxBatchBytes :=
    (Nat.zero_add _).trans_le h.total
  obtain ⟨later, hLater, hReceive⟩ := receiveEach_wire failed h.image hTotal hRoundTrip hImages
  have hSize : (UInt32.ofNat images.length).toNat = images.length := by
    have hCount := h.count
    unfold maxBatchImages at hCount
    rw [UInt32.toNat_ofNat']
    omega
  have hRange : ¬(images.length = 0 ∨ images.length > maxBatchImages) := by
    rintro (hNone | hMany)
    · exact h.nonempty (List.eq_nil_of_length_eq_zero hNone)
    · exact absurd h.count (by omega)
  refine ⟨later, hLater, ?_⟩
  unfold receiveImages receiveStepped
  rw [hHeader]
  show (if (UInt32.ofNat images.length).toNat = 0 ∨
    (UInt32.ofNat images.length).toNat > maxBatchImages then _ else receiveEach fromStr failed requested
      (UInt32.ofNat images.length).toNat 0 none body).2 = _
  rw [hSize, if_neg hRange, hReceive]

/-- A transfer delivers exactly the captured images, however the stream is cut. -/
theorem clipboard_roundTrip (h : CapturedBatch requested images)
    (hRoundTrip : ∀ message ∈ headers images, fromStr message.toJson = some message) :
    ∃ bytes, writeImages images = .ok bytes ∧
      ∀ failed chunks, contents chunks = bytes →
        ∃ later, contents later = [] ∧ receiveImages fromStr failed requested chunks =
          .ok (images.map (fun image => (image.format, image.bytes)), later) := by
  by_cases hMany : images.length > 1
  · have hHeaders : headers images = batchHeader images :: images.map ClipboardImage.header :=
      if_pos hMany
    have hWrite : writeImages images = .ok (utf8 ((batchHeader images).toJson.push newlineChar) ++
        images.flatMap ClipboardImage.wire) := by
      unfold writeImages
      rw [if_pos hMany, writeMessage_short (batchHeader_fits images), writeEach_eq]
    rw [hHeaders, List.forall_mem_cons, List.forall_mem_map] at hRoundTrip
    exact ⟨_, hWrite, fun failed chunks hContents =>
      receiveImages_batch failed h hRoundTrip.2 hRoundTrip.1 hContents⟩
  · have hSingle : images.length = 1 :=
      le_antisymm (Nat.not_lt.mp hMany) (List.length_pos_iff.mpr h.nonempty)
    obtain ⟨image, rfl⟩ := List.length_eq_one_iff.mp hSingle
    have hWrite : writeImages [image] = .ok image.wire := by
      unfold writeImages
      rw [if_neg hMany, writeEach_eq, List.flatMap_singleton]
    have hTotal : image.bytes.length ≤ maxBatchBytes := h.total
    exact ⟨_, hWrite, fun failed chunks hContents => receiveImages_single failed
      (h.image image List.mem_cons_self) hTotal (hRoundTrip image.header List.mem_cons_self) hContents⟩

/-- A parser that knows the headers of one transfer. -/
def parseHeaders (images : List ClipboardImage) (text : String) : Option Message :=
  (headers images).find? fun message => message.toJson = text

/-- A PNG and a JPEG image whose bytes go on with a newline and a brace. -/
def twoImages : List ClipboardImage :=
  [{ format := .png, bytes := pngSignature ++ [newline, 0x7B] },
    { format := .jpeg, bytes := jpegSignature ++ [newline] }]

theorem clipboard_roundTrip_two :
    ∃ bytes, writeImages twoImages = .ok bytes ∧
      ∀ failed chunks, contents chunks = bytes →
        ∃ later, contents later = [] ∧
          receiveImages (parseHeaders twoImages) failed .auto chunks =
            .ok (twoImages.map (fun image => (image.format, image.bytes)), later) := by
  apply clipboard_roundTrip
  · exact {
      nonempty := by decide
      count := by decide
      total := by decide
      image := by
        intro image hImage
        rcases List.mem_pair.mp hImage with rfl | rfl
        · exact ⟨by decide, .inl rfl, by decide⟩
        · exact ⟨by decide, .inl rfl, by decide⟩ }
  · decide

end DevcontainerBridge
