import DevcontainerBridge.Control.Clipboard

/-! The output of the capture helper: a JSON header with the sizes of the
images, a newline and their bytes. How the header is parsed is left to the JSON
library. -/
namespace DevcontainerBridge

open Stream

/-- Longest header that is looked for, its newline included. -/
def maxHeaderBytes : Nat := 256

/-- The errors that splitting the helper's output can end with. -/
inductive CaptureError where
  | unavailable
  | mixedSelection
  deriving DecidableEq, Repr

/-- `image_format`: the first requested format whose signature matches. -/
def imageFormat (bytes : List UInt8) (requested : ClipboardFormat) : Option ClipboardFormat :=
  [ClipboardFormat.png, .jpeg].find? fun candidate =>
    matchesFormat bytes candidate && (requested == .auto || requested == candidate)

section Split

variable (parseHeader : List UInt8 → Option (List UInt64)) (requested : ClipboardFormat)

/-- The loop of `split_captured_images` over the sizes. -/
def splitEach (count : Nat) : List UInt64 → List UInt8 → Except CaptureError (List ClipboardImage)
  | [], rest => if rest ≠ [] then .error .unavailable else .ok []
  | size :: sizes, rest =>
      if size = 0 ∨ size.toNat > maxImageBytes ∨ size.toNat > rest.length then
        .error .unavailable
      else
        match imageFormat (rest.take size.toNat) requested with
        | none => .error (if count > 1 then .mixedSelection else .unavailable)
        | some matched =>
            match splitEach count sizes (rest.drop size.toNat) with
            | .error e => .error e
            | .ok images => .ok ({ format := matched, bytes := rest.take size.toNat } :: images)

def splitCapturedImages (output : List UInt8) : Except CaptureError (List ClipboardImage) :=
  match (output.take maxHeaderBytes).findIdx? (· == newline) with
  | none => .error .unavailable
  | some position =>
      match parseHeader (output.take position) with
      | none => .error .unavailable
      | some sizes =>
          if sizes.isEmpty ∨ sizes.length > maxBatchImages then .error .unavailable
          else splitEach requested sizes.length sizes (output.drop (position + 1))

/-- The sizes that the capture script puts into its header. -/
def imageSizes (images : List ClipboardImage) : List UInt64 :=
  images.map fun image => UInt64.ofNat image.bytes.length

/-- The header of the capture script, as `JSON.stringify` writes it. -/
def captureHeader (sizes : List UInt64) : List UInt8 :=
  utf8 (String.ofList (jsonObject [("sizes", jsonArray (sizes.map fun size => jsonNat size.toNat))]))

/-- What the capture script writes for some images. -/
def frameImages (images : List ClipboardImage) : List UInt8 :=
  captureHeader (imageSizes images) ++ newline :: images.flatMap (·.bytes)

/-- A well-framed batch and its images: a short header with the sizes of the
slices, each of which bears the signature of its image's format. -/
structure WellFramed (output : List UInt8) (images : List ClipboardImage) : Prop where
  framed : ∃ header payload sizes, output = header ++ newline :: payload ∧ newline ∉ header ∧
    header.length < maxHeaderBytes ∧ parseHeader header = some sizes ∧
    payload.length = (sizes.map UInt64.toNat).sum ∧
    images.map (·.bytes.length) = sizes.map UInt64.toNat ∧ images.flatMap (·.bytes) = payload
  nonempty : images ≠ []
  count : images.length ≤ maxBatchImages
  size : ∀ image ∈ images, 1 ≤ image.bytes.length
  captured : ∀ image ∈ images, Captured requested image

end Split

variable {parseHeader : List UInt8 → Option (List UInt64)} {requested matched : ClipboardFormat}
  {bytes output rest : List UInt8} {images : List ClipboardImage} {sizes : List UInt64} {count : Nat}

/-- No bytes bear two signatures. -/
theorem matchesFormat_unique {other : ClipboardFormat} (h : matchesFormat bytes matched = true)
    (hOther : matchesFormat bytes other = true) : matched = other := by
  cases bytes with
  | nil => cases matched <;> cases h
  | cons b bytes =>
      have hPng : matchesFormat (b :: bytes) .png = true → b = 0x89 := by
        intro hSignature
        simp only [matchesFormat, pngSignature, List.isPrefixOf, Bool.and_eq_true, beq_iff_eq] at hSignature
        exact hSignature.1.symm
      have hJpeg : matchesFormat (b :: bytes) .jpeg = true → b = 0xFF := by
        intro hSignature
        simp only [matchesFormat, jpegSignature, List.isPrefixOf, Bool.and_eq_true, beq_iff_eq] at hSignature
        exact hSignature.1.symm
      cases matched <;> cases other <;> first
        | rfl
        | cases h
        | cases hOther
        | exact absurd ((hPng h).symm.trans (hJpeg hOther)) (by decide)
        | exact absurd ((hPng hOther).symm.trans (hJpeg h)) (by decide)

/-- The format found is the one whose signature the bytes bear. -/
theorem imageFormat_eq_some_iff : imageFormat bytes requested = some matched ↔
    matchesFormat bytes matched = true ∧ (requested = .auto ∨ requested = matched) := by
  constructor
  · intro h
    simpa using List.find?_some h
  · rintro ⟨hSignature, hRequested⟩
    cases hFound : imageFormat bytes requested with
    | none =>
        unfold imageFormat at hFound
        rw [List.find?_eq_none] at hFound
        have hMem : matched ∈ [ClipboardFormat.png, .jpeg] := by
          cases matched with
          | auto => cases hSignature
          | png => exact List.mem_cons_self
          | jpeg => exact List.mem_cons_of_mem _ List.mem_cons_self
        exact absurd (hFound matched hMem) (by simp [hSignature, hRequested])
    | some other =>
        have hOther : matchesFormat bytes other = true := by
          have hFind := List.find?_some hFound
          rw [Bool.and_eq_true] at hFind
          exact hFind.1
        rw [matchesFormat_unique hSignature hOther]

/-- The loop accepts the slices of the given sizes and nothing else. -/
theorem splitEach_eq_ok_iff : splitEach requested count sizes rest = .ok images ↔
    images.map (·.bytes.length) = sizes.map UInt64.toNat ∧ images.flatMap (·.bytes) = rest ∧
      ∀ image ∈ images, Captured requested image := by
  induction sizes generalizing rest images with
  | nil =>
      rw [splitEach]
      constructor
      · intro h
        split_ifs at h with hRest
        cases h
        exact ⟨rfl, (not_not.mp hRest).symm, nofun⟩
      · rintro ⟨hSizes, hRest, -⟩
        obtain rfl := List.map_eq_nil_iff.mp hSizes
        obtain rfl : [] = rest := hRest
        rfl
  | cons size sizes ih =>
      rw [splitEach]
      constructor
      · intro h
        split at h
        case isTrue => cases h
        case isFalse hSize =>
          obtain ⟨-, hFits, hEnough⟩ := (not_or.mp hSize).imp_right not_or.mp
          have hLength : (rest.take size.toNat).length = size.toNat :=
            List.length_take_of_le (Nat.le_of_not_gt hEnough)
          split at h
          case h_1 => cases h
          case h_2 matched hFormat =>
            obtain ⟨hSignature, hRequested⟩ := imageFormat_eq_some_iff.mp hFormat
            split at h
            case h_1 => cases h
            case h_2 more hMore =>
              cases h
              obtain ⟨hSizes, hRest, hCaptured⟩ := ih.mp hMore
              refine ⟨?_, ?_, ?_⟩
              · rw [List.map_cons, List.map_cons, hSizes, hLength]
              · rw [List.flatMap_cons, hRest, List.take_append_drop]
              · rintro image hImage
                rcases List.mem_cons.mp hImage with rfl | hImage
                · exact ⟨hSignature, hRequested, hLength.trans_le (Nat.le_of_not_gt hFits)⟩
                · exact hCaptured image hImage
      · rintro ⟨hSizes, rfl, hCaptured⟩
        obtain ⟨image, images, rfl, hSize, hSizes⟩ := List.map_eq_cons_iff.mp hSizes
        have hImage := hCaptured image List.mem_cons_self
        have hMore := ih.mpr ⟨hSizes, rfl, fun other hOther => hCaptured other (List.mem_cons_of_mem image hOther)⟩
        have hFormat := imageFormat_eq_some_iff.mpr ⟨hImage.signature, hImage.requested⟩
        have hPositive := hImage.size_pos
        have hFits := hImage.fits
        rw [List.flatMap_cons, if_neg, ← hSize, List.take_left, List.drop_left, hFormat]
        · dsimp only
          rw [hMore]
        · rintro (hZero | hLarge | hShort)
          · rw [hSize, hZero] at hPositive
            exact absurd hPositive (by decide)
          · omega
          · rw [List.length_append] at hShort
            omega

/-- The position that is found is that of the first newline. -/
theorem findIdx?_newline {header payload : List UInt8} (hHeader : newline ∉ header)
    (hShort : header.length < maxHeaderBytes) :
    ((header ++ newline :: payload).take maxHeaderBytes).findIdx? (· == newline) = some header.length := by
  rw [List.findIdx?_eq_some_iff_getElem]
  refine ⟨by simpa using hShort, ?_, ?_⟩
  · rw [List.getElem_take, List.getElem_append_right le_rfl]
    simp
  · intro j hj hFound
    rw [List.getElem_take, List.getElem_append_left hj, beq_iff_eq] at hFound
    exact hHeader (hFound ▸ List.getElem_mem hj)

theorem exists_header {position : Nat}
    (h : (output.take maxHeaderBytes).findIdx? (· == newline) = some position) :
    ∃ header payload, output = header ++ newline :: payload ∧ newline ∉ header ∧
      header.length = position ∧ position < maxHeaderBytes := by
  obtain ⟨hPosition, hNewline, hBefore⟩ := List.findIdx?_eq_some_iff_getElem.mp h
  rw [List.length_take, Nat.lt_min] at hPosition
  obtain ⟨hShort, hLength⟩ := hPosition
  rw [List.getElem_take, beq_iff_eq] at hNewline
  refine ⟨output.take position, output.drop (position + 1), ?_, ?_, List.length_take_of_le hLength.le, hShort⟩
  · rw [← hNewline, List.getElem_cons_drop, List.take_append_drop]
  · intro hMem
    obtain ⟨j, hj, hFound⟩ := List.getElem_of_mem hMem
    rw [List.length_take, Nat.lt_min] at hj
    apply hBefore j hj.1
    rw [List.getElem_take, beq_iff_eq, ← hFound, List.getElem_take]

theorem length_flatMap_bytes (images : List ClipboardImage) :
    (images.flatMap (·.bytes)).length = (images.map (·.bytes.length)).sum := by
  rw [List.length_flatMap]

theorem drop_header (header payload : List UInt8) :
    (header ++ newline :: payload).drop (header.length + 1) = payload := by
  rw [← List.drop_drop, List.drop_left]
  rfl

/-- A batch is accepted exactly where it is well framed. -/
theorem splitCapturedImages_eq_ok_iff :
    splitCapturedImages parseHeader requested output = .ok images ↔
      WellFramed parseHeader requested output images := by
  unfold splitCapturedImages
  constructor
  · intro h
    split at h
    case h_1 => cases h
    case h_2 position hPosition =>
      obtain ⟨header, payload, rfl, hHeader, rfl, hShort⟩ := exists_header hPosition
      rw [List.take_left, drop_header] at h
      split at h
      case h_1 => cases h
      case h_2 sizes hParse =>
        split_ifs at h with hCount
        obtain ⟨hNonempty, hMany⟩ := not_or.mp hCount
        obtain ⟨hSizes, hPayload, hCaptured⟩ := splitEach_eq_ok_iff.mp h
        have hLength : images.length = sizes.length := by
          simpa using congrArg List.length hSizes
        refine ⟨⟨header, payload, sizes, rfl, hHeader, hShort, hParse, ?_, hSizes, hPayload⟩, ?_, ?_, ?_,
          hCaptured⟩
        · rw [← hPayload, length_flatMap_bytes, hSizes]
        · rintro rfl
          exact hNonempty (List.isEmpty_iff.mpr (List.eq_nil_of_length_eq_zero hLength.symm))
        · rw [hLength]
          exact Nat.le_of_not_gt hMany
        · exact fun image hImage => (hCaptured image hImage).size_pos
  · rintro ⟨⟨header, payload, sizes, rfl, hHeader, hShort, hParse, -, hSizes, hPayload⟩, hNonempty, hCount, -,
      hCaptured⟩
    have hLength : images.length = sizes.length := by
      simpa using congrArg List.length hSizes
    have hSplit : splitEach requested sizes.length sizes payload = .ok images :=
      splitEach_eq_ok_iff.mpr ⟨hSizes, hPayload, hCaptured⟩
    have hAllowed : ¬(sizes.isEmpty ∨ sizes.length > maxBatchImages) := by
      rintro (hEmpty | hMany)
      · rw [List.isEmpty_iff.mp hEmpty] at hLength
        exact hNonempty (List.eq_nil_of_length_eq_zero hLength)
      · omega
    rw [findIdx?_newline hHeader hShort]
    dsimp only
    rw [List.take_left, drop_header, hParse]
    dsimp only
    rw [if_neg hAllowed, hSplit]

theorem shortText_header (hCount : sizes.length ≤ maxBatchImages)
    (hSizes : ∀ size ∈ sizes, size.toNat ≤ maxImageBytes) :
    ShortText 255 (jsonObject [("sizes", jsonArray (sizes.map fun size => jsonNat size.toNat))]) := by
  have hNumber : ∀ piece ∈ sizes.map fun size => jsonNat size.toNat, ShortText 8 piece := by
    intro piece hPiece
    obtain ⟨size, hSize, rfl⟩ := List.mem_map.mp hPiece
    have hSmall := hSizes size hSize
    unfold maxImageBytes at hSmall
    exact shortText_jsonNat (by omega)
  have hOpen : ShortText 1 ['['] := ⟨by simp, by decide⟩
  have hClose : ShortText 1 [']'] := ⟨by simp, by decide⟩
  have hArray : ShortText 146 (jsonArray (sizes.map fun size => jsonNat size.toNat)) := by
    apply ((hOpen.append (ShortText.intercalate hNumber)).append hClose).mono
    rw [List.length_map]
    unfold maxBatchImages at hCount
    omega
  have hName : IsAscii (utf8 "sizes") := by decide
  have hSize : "sizes".utf8ByteSize = 5 := by decide
  apply (shortText_jsonObject fun field hField => ?_).mono (show 1 * (200 + 1) + 2 ≤ 255 by decide)
  rw [List.mem_singleton.mp hField]
  exact (shortText_jsonField hName hArray).mono (by omega)

/-- The header of every batch that may be framed is short and has no newline. -/
theorem captureHeader_fits (hCount : sizes.length ≤ maxBatchImages)
    (hSizes : ∀ size ∈ sizes, size.toNat ≤ maxImageBytes) :
    newline ∉ captureHeader sizes ∧ (captureHeader sizes).length < maxHeaderBytes := by
  have hShort := shortText_header hCount hSizes
  constructor
  · rw [captureHeader, mem_utf8_iff newline_ascii, String.toList_ofList]
    apply oneLine_jsonObject
    intro field hField
    rw [List.mem_singleton.mp hField]
    apply oneLine_jsonArray
    intro item hItem
    obtain ⟨size, -, rfl⟩ := List.mem_map.mp hItem
    exact oneLine_jsonNat size.toNat
  · rw [captureHeader, utf8_ofList_ascii hShort.ascii, List.length_map]
    exact Nat.lt_succ_of_le hShort.fits

/-- A batch is accepted exactly where it is well framed, and framing a batch
and splitting it gives the batch back where the header is read as written. -/
theorem splitCapturedImages_frame (parseHeader : List UInt8 → Option (List UInt64)) (requested : ClipboardFormat) :
    (∀ output images, splitCapturedImages parseHeader requested output = .ok images ↔
      WellFramed parseHeader requested output images) ∧
    ∀ images, images ≠ [] → images.length ≤ maxBatchImages → (∀ image ∈ images, Captured requested image) →
      parseHeader (captureHeader (imageSizes images)) = some (imageSizes images) →
      splitCapturedImages parseHeader requested (frameImages images) = .ok images := by
  refine ⟨fun output images => splitCapturedImages_eq_ok_iff, ?_⟩
  intro images hNonempty hCount hCaptured hParse
  have hSizes : (imageSizes images).map UInt64.toNat = images.map (·.bytes.length) := by
    rw [imageSizes, List.map_map]
    exact List.map_congr_left fun image hImage => (hCaptured image hImage).size_toNat
  have hLength : (imageSizes images).length = images.length := List.length_map ..
  obtain ⟨hNewline, hShort⟩ := captureHeader_fits (hLength.trans_le hCount) fun size hSize => by
    obtain ⟨image, hImage, rfl⟩ := List.mem_map.mp hSize
    rw [(hCaptured image hImage).size_toNat]
    exact (hCaptured image hImage).fits
  have hPayload : (images.flatMap (·.bytes)).length = ((imageSizes images).map UInt64.toNat).sum := by
    rw [length_flatMap_bytes, hSizes]
  rw [splitCapturedImages_eq_ok_iff, frameImages]
  constructor
  · exact ⟨_, _, _, rfl, hNewline, hShort, hParse, hPayload, hSizes.symm, rfl⟩
  · exact hNonempty
  · exact hCount
  · exact fun image hImage => (hCaptured image hImage).size_pos
  · exact hCaptured

/-- A parser that knows the header of one batch. -/
def parseCaptureHeader (images : List ClipboardImage) (header : List UInt8) : Option (List UInt64) :=
  if header = captureHeader (imageSizes images) then some (imageSizes images) else none

theorem splitCapturedImages_two :
    splitCapturedImages (parseCaptureHeader twoImages) .auto (frameImages twoImages) = .ok twoImages := by
  apply (splitCapturedImages_frame (parseCaptureHeader twoImages) .auto).2 twoImages
  · decide
  · decide
  · intro image hImage
    rcases List.mem_pair.mp hImage with rfl | rfl
    · exact ⟨by decide, .inl rfl, by decide⟩
    · exact ⟨by decide, .inl rfl, by decide⟩
  · exact if_pos rfl

end DevcontainerBridge
