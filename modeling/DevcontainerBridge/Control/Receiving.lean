import DevcontainerBridge.Control.Clipboard
import DevcontainerBridge.Control.Consumption

/-! What `receive_images` accepts from a host that may send anything. -/
namespace DevcontainerBridge

open Stream

variable {fromStr : String → Option Message} {failed : Bool} {requested format : ClipboardFormat}
  {message : Message} {buffered : Option Message} {chunks later : List (Chunk UInt8)} {total total' : UInt64}
  {images : List (ClipboardFormat × List UInt8)} {steps : List SizeStep}

/-- What may be done with declared sizes behind images of `sum` bytes: the
running total never wraps, and a buffer is allocated for a size only where it
and the total with it are within the bounds. -/
inductive Accounted : Nat → List SizeStep → Prop where
  | nil {sum : Nat} : Accounted sum []
  | refused {sum : Nat} {size total : UInt64} (hTotal : total.toNat = min (sum + size.toNat) (2 ^ 64 - 1)) :
      Accounted sum [.counted size total]
  | allocated {sum : Nat} {size total : UInt64} {steps : List SizeStep} (hPositive : 1 ≤ size.toNat)
      (hFits : size.toNat ≤ maxImageBytes) (hTotal : total.toNat = sum + size.toNat)
      (hWhole : total.toNat ≤ maxBatchBytes) (hLater : Accounted total.toNat steps) :
      Accounted sum (.counted size total :: .allocated size.toNat :: steps)

/-- The bytes are one line and parse to the message. -/
def IsHeader (fromStr : String → Option Message) (bytes : List UInt8) (message : Message) : Prop :=
  ∃ line text, newline ∉ line ∧ bytes = line ++ [newline] ∧ utf8 text = bytes ∧
    fromStr (trimEnd text) = some message

/-- Images one after the other, each behind a header that announces its format
and its size. -/
inductive ImagesFollow (fromStr : String → Option Message) :
    List UInt8 → List (ClipboardFormat × List UInt8) → List UInt8 → Prop where
  | nil (rest : List UInt8) : ImagesFollow fromStr rest [] rest
  | cons {header bytes later rest : List UInt8} {format : ClipboardFormat} {size : UInt64}
      {images : List (ClipboardFormat × List UInt8)} (hHeader : IsHeader fromStr header (.clipboardReady format size))
      (hSize : size.toNat = bytes.length) (hLater : ImagesFollow fromStr later images rest) :
      ImagesFollow fromStr (header ++ bytes ++ later) ((format, bytes) :: images) rest

/-- A transfer on a stream: images, behind their count unless there is one. -/
def Transferred (fromStr : String → Option Message) (stream : List UInt8)
    (images : List (ClipboardFormat × List UInt8)) (rest : List UInt8) : Prop :=
  (images.length = 1 ∧ ImagesFollow fromStr stream images rest) ∨
    ∃ header later count, stream = header ++ later ∧ IsHeader fromStr header (.clipboardBatchReady count) ∧
      count.toNat = images.length ∧ ImagesFollow fromStr later images rest

/-- What every received image is. -/
structure Acceptable (requested : ClipboardFormat) (image : ClipboardFormat × List UInt8) : Prop where
  nonempty : 1 ≤ image.2.length
  fits : image.2.length ≤ maxImageBytes
  requested : requested = .auto ∨ image.1 = requested
  signature : image.1 = .png ∧ pngSignature <+: image.2 ∨ image.1 = .jpeg ∧ jpegSignature <+: image.2

theorem signature_of_matchesFormat {bytes : List UInt8} (h : matchesFormat bytes format = true) :
    format = .png ∧ pngSignature <+: bytes ∨ format = .jpeg ∧ jpegSignature <+: bytes := by
  cases format with
  | auto => cases h
  | png => exact .inl ⟨rfl, List.isPrefixOf_iff_prefix.mp h⟩
  | jpeg => exact .inr ⟨rfl, List.isPrefixOf_iff_prefix.mp h⟩

@[simp] theorem allocations_counted (size total : UInt64) (steps : List SizeStep) :
    allocations (.counted size total :: steps) = allocations steps := rfl

@[simp] theorem allocations_allocated (size : Nat) (steps : List SizeStep) :
    allocations (.allocated size :: steps) = size :: allocations steps := rfl

theorem Accounted.bounds {sum : Nat} (h : Accounted sum steps) (hBound : sum ≤ maxBatchBytes) :
    (∀ size ∈ allocations steps, 1 ≤ size ∧ size ≤ maxImageBytes) ∧
      sum + (allocations steps).sum ≤ maxBatchBytes := by
  induction h with
  | nil => exact ⟨fun _ hSize => (nomatch hSize), hBound⟩
  | refused hTotal => exact ⟨fun _ hSize => (nomatch hSize), hBound⟩
  | @allocated sum size total steps hPositive hFits hTotal hWhole hLater ih =>
      obtain ⟨hSizes, hRest⟩ := ih hWhole
      rw [allocations_counted, allocations_allocated]
      refine ⟨?_, ?_⟩
      · intro other hOther
        rcases List.mem_cons.mp hOther with rfl | hMem
        · exact ⟨hPositive, hFits⟩
        · exact hSizes other hMem
      · rw [List.sum_cons]
        omega

/-- A header that passes announces a size within the bounds. The total is the
exact sum: where the addition saturates, the header does not pass. -/
theorem checkHeader_ok {size : Nat} (h : checkHeader requested total message = (steps, .ok (format, size, total'))) :
    1 ≤ size ∧ size ≤ maxImageBytes ∧ total'.toNat = total.toNat + size ∧ total'.toNat ≤ maxBatchBytes ∧
      (requested = .auto ∨ format = requested) ∧
      ∃ declared : UInt64, message = .clipboardReady format declared ∧ declared.toNat = size ∧
        steps = [.counted declared total'] := by
  unfold checkHeader at h
  split at h
  case h_1 announced declared =>
    dsimp only at h
    split_ifs at h with hFormat hRange
    · cases h
    · cases h
    · obtain ⟨hZero, hLarge, hOver⟩ := not_or.mp hRange |>.imp_right not_or.mp
      cases h
      have hPositive : 1 ≤ declared.toNat := by
        by_contra hNone
        apply hZero
        apply UInt64.toNat_inj.mp
        show declared.toNat = 0
        omega
      have hRequested : requested = .auto ∨ format = requested := by
        by_contra hOther
        obtain ⟨hSome, hDiffers⟩ := not_or.mp hOther
        exact hFormat (.inr ⟨hSome, fun hSame => hDiffers hSame.symm⟩)
      have hBound : maxBatchBytes < 2 ^ 64 - 1 := by decide
      have hSum := toNat_saturatingAdd total declared
      exact ⟨hPositive, by omega, by omega, by omega, hRequested, declared, rfl, rfl, rfl⟩
  case h_2 => cases h
  case h_3 => cases h

/-- A header that does not pass is counted at most. -/
theorem checkHeader_error {e : PasteError}
    (h : checkHeader requested total message = (steps, .error e)) :
    Accounted total.toNat steps ∧ allocations steps = [] := by
  unfold checkHeader at h
  split at h
  case h_1 announced declared =>
    dsimp only at h
    split_ifs at h with hFormat hRange
    · cases h
      exact ⟨.nil, rfl⟩
    · cases h
      exact ⟨.refused (toNat_saturatingAdd total declared), rfl⟩
    · cases h
  case h_2 =>
    cases h
    exact ⟨.nil, rfl⟩
  case h_3 =>
    cases h
    exact ⟨.nil, rfl⟩

theorem LineTaken.header {bytes rest : List UInt8} (h : LineTaken fromStr (.ok message) bytes rest) :
    IsHeader fromStr bytes message := by
  generalize hResult : (Except.ok message : Except ControlError Message) = result at h
  cases h with
  | @line text line _ hLine hText =>
      unfold finishLine at hResult
      split_ifs at hResult
      split at hResult
      · rename_i hParse
        cases hResult
        exact ⟨line, text, hLine, rfl, hText, hParse⟩
      · cases hResult
  | skipped => cases hResult
  | ended => cases hResult

theorem nextMessage_none (h : nextMessage fromStr failed none chunks = .ok (message, later)) :
    ∃ header, contents chunks = header ++ contents later ∧ IsHeader fromStr header message := by
  unfold nextMessage at h
  dsimp only at h
  split at h
  · cases h
  · rename_i hRead
    cases h
    obtain ⟨header, hContents, hLine⟩ := readMessage_taken hRead rfl
    exact ⟨header, hContents, hLine.header⟩

/-- An image that is received: behind a header with its format and size. -/
theorem receiveImage_ok {image : ClipboardFormat × List UInt8}
    (h : receiveImage fromStr failed requested total buffered chunks = (steps, .ok (image, total', later))) :
    ∃ declared : UInt64, ∃ middle, nextMessage fromStr failed buffered chunks =
        .ok (.clipboardReady image.1 declared, middle) ∧ declared.toNat = image.2.length ∧
      contents middle = image.2 ++ contents later ∧ Acceptable requested image ∧
      total'.toNat = total.toNat + image.2.length ∧ total'.toNat ≤ maxBatchBytes ∧
      steps = [.counted declared total', .allocated declared.toNat] := by
  unfold receiveImage at h
  split at h
  · cases h
  · rename_i message middle hNext
    split at h
    · cases h
    · rename_i checked format size sum hHeader
      obtain ⟨hPositive, hFits, hSum, hWhole, hRequested, declared, rfl, hDeclared, rfl⟩ := checkHeader_ok hHeader
      unfold fillBuffer at h
      cases hTake : takeExact size middle with
      | none =>
          rw [hTake] at h
          cases h
      | some taken =>
          obtain ⟨bytes, rest⟩ := taken
          rw [hTake] at h
          dsimp only at h
          by_cases hMatches : matchesFormat bytes format = true
          · rw [if_pos hMatches] at h
            cases h
            obtain ⟨hLength, hContents⟩ := takeExact_some hTake
            subst hLength
            exact ⟨declared, middle, hNext, hDeclared, hContents,
              ⟨hPositive, hFits, hRequested, signature_of_matchesFormat hMatches⟩, hSum, hWhole, by rw [hDeclared]; rfl⟩
          · rw [if_neg hMatches] at h
            cases h

/-- Where an image is not received, its buffer is the last. -/
theorem receiveImage_error {e : PasteError}
    (h : receiveImage fromStr failed requested total buffered chunks = (steps, .error e)) :
    Accounted total.toNat steps ∧ (allocations steps).length ≤ 1 := by
  unfold receiveImage at h
  split at h
  · cases h
    exact ⟨.nil, Nat.zero_le _⟩
  · split at h
    · rename_i checked reason hHeader
      cases h
      obtain ⟨hAccounted, hNone⟩ := checkHeader_error hHeader
      exact ⟨hAccounted, by rw [hNone]; exact Nat.zero_le _⟩
    · rename_i checked format size sum hHeader
      obtain ⟨hPositive, hFits, hSum, hWhole, -, declared, rfl, rfl, rfl⟩ := checkHeader_ok hHeader
      split at h
      · rename_i more reason hFill
        obtain rfl : [.allocated declared.toNat] = more := congrArg Prod.fst hFill
        cases h
        exact ⟨.allocated hPositive hFits hSum hWhole .nil, le_refl 1⟩
      · cases h

/-- The images of the loop. Headers are read from the stream, but for a first
one that has been read already. -/
theorem receiveEach_ok {count : Nat}
    (h : receiveEach fromStr failed requested count total buffered chunks = (steps, .ok (images, later))) :
    images.length = count ∧ (∀ image ∈ images, Acceptable requested image) ∧
      allocations steps = images.map (fun image => image.2.length) ∧
      ∀ stream, (∀ message middle, nextMessage fromStr failed buffered chunks = .ok (message, middle) →
          ∃ header, stream = header ++ contents middle ∧ IsHeader fromStr header message) →
        (count = 0 → stream = contents later) →
        ImagesFollow fromStr stream images (contents later) := by
  induction count generalizing total buffered chunks images steps with
  | zero =>
      cases h
      refine ⟨rfl, fun _ hImage => (nomatch hImage), rfl, fun stream _ hRest => ?_⟩
      rw [hRest rfl]
      exact .nil _
  | succ count ih =>
      unfold receiveEach at h
      split at h
      · cases h
      · rename_i front image sum middle hImage
        split at h
        · cases h
        · rename_i behind more last hMore
          cases h
          obtain ⟨declared, body, hNext, hDeclared, hContents, hAcceptable, hSum, hWhole, rfl⟩ := receiveImage_ok hImage
          obtain ⟨hLength, hAll, hBuffers, hFollow⟩ := ih hMore
          refine ⟨?_, ?_, ?_, ?_⟩
          · rw [List.length_cons, hLength]
          · intro other hOther
            rcases List.mem_cons.mp hOther with rfl | hLater
            · exact hAcceptable
            · exact hAll other hLater
          · rw [List.map_cons, ← hBuffers, ← hDeclared]
            rfl
          · intro stream hStream _
            obtain ⟨header, hFront, hIs⟩ := hStream _ _ hNext
            rw [hFront, hContents, ← List.append_assoc]
            apply ImagesFollow.cons hIs hDeclared
            apply hFollow
            · exact fun message middle hRead => nextMessage_none hRead
            · rintro rfl
              cases hMore
              rfl

/-- The sizes in the loop are accounted for, also where it fails. -/
theorem receiveEach_accounted {count : Nat} (total : UInt64) (buffered : Option Message) (chunks : List (Chunk UInt8)) :
    Accounted total.toNat (receiveEach fromStr failed requested count total buffered chunks).1 ∧
      (allocations (receiveEach fromStr failed requested count total buffered chunks).1).length ≤ count := by
  induction count generalizing total buffered chunks with
  | zero => exact ⟨.nil, le_refl _⟩
  | succ count ih =>
      unfold receiveEach
      split
      · rename_i steps e hImage
        obtain ⟨hAccounted, hCount⟩ := receiveImage_error hImage
        exact ⟨hAccounted, hCount.trans (Nat.succ_le_succ (Nat.zero_le _))⟩
      · rename_i steps image sum later hImage
        obtain ⟨declared, -, -, hDeclared, -, hAcceptable, hSum, hWhole, rfl⟩ := receiveImage_ok hImage
        have hPositive : 1 ≤ declared.toNat := hDeclared.symm ▸ hAcceptable.nonempty
        have hFits : declared.toNat ≤ maxImageBytes := hDeclared.symm ▸ hAcceptable.fits
        rw [← hDeclared] at hSum
        obtain ⟨hLater, hCount⟩ := ih sum none later
        split
        all_goals
          rename_i hMore
          rw [hMore] at hLater hCount
          exact ⟨.allocated hPositive hFits hSum hWhole hLater, Nat.succ_le_succ hCount⟩

/-- The sizes in a transfer are accounted for, whether it succeeds or not. -/
theorem receiveStepped_accounted (fromStr : String → Option Message) (failed : Bool) (requested : ClipboardFormat)
    (chunks : List (Chunk UInt8)) :
    Accounted 0 (receiveStepped fromStr failed requested chunks).1 ∧
      (allocations (receiveStepped fromStr failed requested chunks).1).length ≤ maxBatchImages := by
  have hNone : Accounted 0 [] := .nil
  unfold receiveStepped
  split
  · exact ⟨hNone, Nat.zero_le _⟩
  · dsimp only
    split_ifs with hRange
    · exact ⟨hNone, Nat.zero_le _⟩
    · obtain ⟨-, hMany⟩ := not_or.mp hRange
      obtain ⟨hAccounted, hCount⟩ := receiveEach_accounted 0 _ _
      exact ⟨hAccounted, hCount.trans (Nat.not_lt.mp hMany)⟩

/-- A transfer that succeeds delivers between 1 and 16 images within the
bounds, as they stand on the stream, and the buffers it has allocated are
theirs. Whether it succeeds or not, the running total does not wrap, and no
buffer is allocated that its declared size does not pass the bounds for. -/
theorem receiveImages_safe (fromStr : String → Option Message) (failed : Bool) (requested : ClipboardFormat)
    (chunks : List (Chunk UInt8)) :
    (∀ images later, receiveImages fromStr failed requested chunks = .ok (images, later) →
      (1 ≤ images.length ∧ images.length ≤ maxBatchImages) ∧
        (∀ image ∈ images, Acceptable requested image) ∧
        (images.map fun image => image.2.length).sum ≤ maxBatchBytes ∧
        Transferred fromStr (contents chunks) images (contents later) ∧
        allocations (receiveStepped fromStr failed requested chunks).1 = images.map fun image => image.2.length) ∧
      Accounted 0 (receiveStepped fromStr failed requested chunks).1 ∧
      (allocations (receiveStepped fromStr failed requested chunks).1).length ≤ maxBatchImages ∧
      (∀ size ∈ allocations (receiveStepped fromStr failed requested chunks).1, 1 ≤ size ∧ size ≤ maxImageBytes) ∧
      (allocations (receiveStepped fromStr failed requested chunks).1).sum ≤ maxBatchBytes := by
  obtain ⟨hAccounted, hCount⟩ := receiveStepped_accounted fromStr failed requested chunks
  obtain ⟨hSizes, hSum⟩ := hAccounted.bounds (Nat.zero_le maxBatchBytes)
  rw [Nat.zero_add] at hSum
  refine ⟨fun images later h => ?_, hAccounted, hCount, hSizes, hSum⟩
  suffices hImages : (1 ≤ images.length ∧ images.length ≤ maxBatchImages) ∧
      (∀ image ∈ images, Acceptable requested image) ∧
      Transferred fromStr (contents chunks) images (contents later) ∧
      allocations (receiveStepped fromStr failed requested chunks).1 = images.map fun image => image.2.length by
    obtain ⟨hLength, hAll, hStream, hBuffers⟩ := hImages
    exact ⟨hLength, hAll, hBuffers ▸ hSum, hStream, hBuffers⟩
  obtain ⟨steps, hSteps⟩ : ∃ steps, receiveStepped fromStr failed requested chunks = (steps, .ok (images, later)) :=
    ⟨_, Prod.ext rfl h⟩
  rw [hSteps]
  clear h hAccounted hCount hSizes hSum
  unfold receiveStepped at hSteps
  split at hSteps
  · cases hSteps
  · rename_i first middle hFirst
    obtain ⟨header, hHeader, hIs⟩ := nextMessage_none hFirst
    dsimp only at hSteps
    split at hSteps
    case h_1 count =>
      dsimp only at hSteps
      split_ifs at hSteps with hRange
      · cases hSteps
      · obtain ⟨hSome, hMany⟩ := not_or.mp hRange
        obtain ⟨hLength, hAll, hBuffers, hFollow⟩ := receiveEach_ok hSteps
        refine ⟨⟨by omega, by omega⟩, hAll,
          .inr ⟨header, contents middle, count, hHeader, hIs, hLength.symm, ?_⟩, hBuffers⟩
        exact hFollow _ (fun message behind hNext => nextMessage_none hNext) fun hNone => absurd hNone hSome
    case h_2 hOther =>
      dsimp only at hSteps
      rw [if_neg (by decide)] at hSteps
      obtain ⟨hLength, hAll, hBuffers, hFollow⟩ := receiveEach_ok hSteps
      refine ⟨⟨hLength.ge, hLength.le.trans (by decide)⟩, hAll, .inl ⟨hLength, ?_⟩, hBuffers⟩
      apply hFollow _ _ fun hNone => nomatch hNone
      intro message behind hNext
      cases hNext
      exact ⟨header, hHeader, hIs⟩

/-- Two images behind their count, the first cut within its bytes. -/
def twoImagesCut : List (Chunk UInt8) :=
  let stream := (writeImages twoImages).toOption.getD []
  contiguous (stream.take 100) ++ contiguous (stream.drop 100)

theorem receiveImages_safe_two :
    ∃ later, receiveImages (parseHeaders twoImages) false .auto twoImagesCut =
        .ok (twoImages.map ClipboardImage.saved, later) ∧
      Transferred (parseHeaders twoImages) (contents twoImagesCut) (twoImages.map ClipboardImage.saved)
        (contents later) ∧
      allocations (receiveStepped (parseHeaders twoImages) false .auto twoImagesCut).1 = [10, 4] := by
  have hRun : ((receiveImages (parseHeaders twoImages) false .auto twoImagesCut).toOption.any
      fun outcome => outcome.1 == twoImages.map ClipboardImage.saved) = true := by
    decide +kernel
  obtain ⟨⟨images, later⟩, hOutcome, hImages⟩ := (Option.any_eq_true _ _).mp hRun
  cases beq_iff_eq.mp hImages
  have hReceive : receiveImages (parseHeaders twoImages) false .auto twoImagesCut =
      .ok (twoImages.map ClipboardImage.saved, later) := by
    cases h : receiveImages (parseHeaders twoImages) false .auto twoImagesCut with
    | error e =>
        rw [h] at hOutcome
        cases hOutcome
    | ok outcome =>
        rw [h] at hOutcome
        cases hOutcome
        rfl
  obtain ⟨-, -, -, hStream, hBuffers⟩ := (receiveImages_safe _ _ _ _).1 _ _ hReceive
  exact ⟨later, hReceive, hStream, hBuffers⟩

end DevcontainerBridge
