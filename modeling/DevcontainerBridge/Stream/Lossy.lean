import DevcontainerBridge.Stream.Utf8

/-! Decoding that puts a replacement character where bytes are not valid. A
piece that breaks off is replaced as a whole, so the decoder goes on behind the
last byte that could belong to it. -/
namespace Stream

/-- How many bytes follow the first byte of a character, and the bounds of the
first of them. -/
def following (first : UInt8) : Option (Nat × UInt8 × UInt8) :=
  if first < 0x80 then some (0, 0x80, 0xBF)
  else if first < 0xC2 then none
  else if first < 0xE0 then some (1, 0x80, 0xBF)
  else if first = 0xE0 then some (2, 0xA0, 0xBF)
  else if first = 0xED then some (2, 0x80, 0x9F)
  else if first < 0xF0 then some (2, 0x80, 0xBF)
  else if first = 0xF0 then some (3, 0x90, 0xBF)
  else if first < 0xF4 then some (3, 0x80, 0xBF)
  else if first = 0xF4 then some (3, 0x80, 0x8F)
  else none

/-- How many of the bytes that should follow are there. -/
def continued : Nat → UInt8 → UInt8 → List UInt8 → Nat
  | count + 1, low, high, b :: rest =>
      if low ≤ b ∧ b ≤ high then continued count 0x80 0xBF rest + 1 else 0
  | _, _, _, _ => 0

def replacement : Char := '\uFFFD'

/-- The characters of the valid pieces, with a replacement for each other one.
Each step takes a byte, so there are never more steps than bytes. -/
def lossyChars : Nat → List UInt8 → List Char
  | steps + 1, b :: rest =>
      match following b with
      | none => replacement :: lossyChars steps rest
      | some (count, low, high) =>
          let found := continued count low high rest
          let piece :=
            if found = count then (fromUtf8 (b :: rest.take found)).map String.toList else none
          piece.getD [replacement] ++ lossyChars steps (rest.drop found)
  | _, _ => []

/-- Rust's `String::from_utf8_lossy`. -/
def fromUtf8Lossy (bytes : List UInt8) : String :=
  match fromUtf8 bytes with
  | some text => text
  | none => String.ofList (lossyChars bytes.length bytes)

example : fromUtf8Lossy [0x61, 0xE2, 0x82, 0x62, 0xFF] = "a\uFFFDb\uFFFD" := by decide +kernel

theorem mem_of_fromUtf8 {bytes : List UInt8} {text : String} (hText : fromUtf8 bytes = some text) {b : UInt8}
    (hAscii : b < 128) (h : Char.ofNat b.toNat ∈ text.toList) : b ∈ bytes := by
  rw [← fromUtf8_eq_some_iff.mp hText]
  exact (mem_utf8_iff hAscii).mpr h

theorem replacement_ne {b : UInt8} (hAscii : b < 128) : Char.ofNat b.toNat ≠ replacement := by
  intro hSame
  have hBytes := utf8EncodeChar_ofNat hAscii
  rw [hSame] at hBytes
  have hLength : (String.utf8EncodeChar replacement).length = 3 := by decide
  rw [hBytes] at hLength
  cases hLength

theorem mem_of_lossyChars {b : UInt8} (hAscii : b < 128) {steps : Nat} {bytes : List UInt8}
    (h : Char.ofNat b.toNat ∈ lossyChars steps bytes) : b ∈ bytes := by
  induction steps generalizing bytes with
  | zero => cases bytes <;> cases h
  | succ steps ih =>
      cases bytes with
      | nil => cases h
      | cons first rest =>
          rw [lossyChars] at h
          split at h
          case h_1 =>
            rcases List.mem_cons.mp h with hHere | hRest
            · exact absurd hHere (replacement_ne hAscii)
            · exact List.mem_cons_of_mem first (ih hRest)
          case h_2 count low high _ =>
            dsimp only at h
            rcases List.mem_append.mp h with hPiece | hRest
            · split_ifs at hPiece
              · cases hText : fromUtf8 (first :: rest.take (continued count low high rest)) with
                | none =>
                    rw [hText] at hPiece
                    exact absurd (List.mem_singleton.mp hPiece) (replacement_ne hAscii)
                | some text =>
                    rw [hText] at hPiece
                    rcases List.mem_cons.mp (mem_of_fromUtf8 hText hAscii hPiece) with hFirst | hTaken
                    · exact hFirst ▸ List.mem_cons_self
                    · exact List.mem_cons_of_mem first (List.mem_of_mem_take hTaken)
              · exact absurd (List.mem_singleton.mp hPiece) (replacement_ne hAscii)
            · exact List.mem_cons_of_mem first (List.mem_of_mem_drop (ih hRest))

/-- Decoding adds no ASCII character. -/
theorem mem_of_fromUtf8Lossy {b : UInt8} (hAscii : b < 128) {bytes : List UInt8}
    (h : Char.ofNat b.toNat ∈ (fromUtf8Lossy bytes).toList) : b ∈ bytes := by
  unfold fromUtf8Lossy at h
  split at h
  case h_1 text hText => exact mem_of_fromUtf8 hText hAscii h
  case h_2 =>
    rw [String.toList_ofList] at h
    exact mem_of_lossyChars hAscii h

theorem utf8_lossyChars {steps : Nat} {bytes : List UInt8} (hSteps : bytes.length ≤ steps)
    (h : replacement ∉ lossyChars steps bytes) : utf8 (String.ofList (lossyChars steps bytes)) = bytes := by
  induction steps generalizing bytes with
  | zero =>
      obtain rfl := List.length_eq_zero_iff.mp (Nat.le_zero.mp hSteps)
      rfl
  | succ steps ih =>
      cases bytes with
      | nil => rfl
      | cons first rest =>
          rw [lossyChars] at h ⊢
          split at h
          case h_1 => exact absurd List.mem_cons_self h
          case h_2 count low high hFollowing =>
            dsimp only at h ⊢
            generalize continued count low high rest = found at h ⊢
            rw [List.mem_append, not_or] at h
            obtain ⟨hPiece, hRest⟩ := h
            have hFewer : (rest.drop found).length ≤ steps := by
              rw [List.length_drop]
              exact Nat.le_trans (Nat.sub_le _ _) (Nat.le_of_succ_le_succ hSteps)
            have hLater := ih hFewer hRest
            split_ifs at hPiece ⊢ with hFound
            · cases hText : fromUtf8 (first :: rest.take found) with
              | none =>
                  rw [hText] at hPiece
                  exact absurd (List.mem_singleton_self _) hPiece
              | some text =>
                  have hTaken : utf8 text = first :: rest.take found := fromUtf8_eq_some_iff.mp hText
                  rw [Option.map_some, Option.getD_some, String.ofList_append, String.ofList_toList,
                    utf8_append, hLater, hTaken, List.cons_append, List.take_append_drop]
            · exact absurd (List.mem_singleton_self _) hPiece

/-- Where nothing is replaced, nothing is lost. -/
theorem utf8_fromUtf8Lossy {bytes : List UInt8} (h : replacement ∉ (fromUtf8Lossy bytes).toList) :
    utf8 (fromUtf8Lossy bytes) = bytes := by
  unfold fromUtf8Lossy at h ⊢
  split at h
  case h_1 text hText => exact fromUtf8_eq_some_iff.mp hText
  case h_2 =>
    rw [String.toList_ofList] at h
    exact utf8_lossyChars (Nat.le_refl _) h

@[simp] theorem fromUtf8Lossy_utf8 (text : String) : fromUtf8Lossy (utf8 text) = text := by
  unfold fromUtf8Lossy
  rw [fromUtf8_utf8]

end Stream
