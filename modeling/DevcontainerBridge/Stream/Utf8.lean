import Mathlib.Data.List.Basic

/-! Strings and their UTF-8 bytes as lists. A list of bytes is valid when it
is the encoding of a string; pieces of an ASCII list are always valid, and
behind an ASCII prefix the rest of a valid list is valid again. -/
namespace Stream

/-- The bytes of a string. -/
def utf8 (text : String) : List UInt8 :=
  text.toByteArray.data.toList

/-- The string that some bytes encode, where they are valid. -/
def fromUtf8 (bytes : List UInt8) : Option String :=
  String.fromUTF8? ⟨bytes.toArray⟩

def IsAscii (bytes : List UInt8) : Prop :=
  ∀ b ∈ bytes, b < 128

instance (bytes : List UInt8) : Decidable (IsAscii bytes) :=
  List.decidableBAll (· < 128) bytes

def ValidUtf8 (bytes : List UInt8) : Prop :=
  ∃ text, utf8 text = bytes

theorem fromUtf8_eq_some_iff {bytes : List UInt8} {text : String} :
    fromUtf8 bytes = some text ↔ utf8 text = bytes := by
  unfold fromUtf8 utf8
  rw [String.fromUTF8?]
  constructor
  · intro h
    split_ifs at h with hValid
    cases h
    simp [String.fromUTF8]
  · rintro rfl
    have hBytes : (⟨text.toByteArray.data.toList.toArray⟩ : ByteArray) = text.toByteArray := by
      simp
    rw [dif_pos (by rw [hBytes]; exact text.isValidUTF8)]
    apply congrArg some
    apply String.toByteArray_inj.mp
    simp [String.fromUTF8]

theorem fromUtf8_eq_none_iff {bytes : List UInt8} : fromUtf8 bytes = none ↔ ¬ValidUtf8 bytes := by
  rw [Option.eq_none_iff_forall_ne_some]
  simp only [ne_eq, fromUtf8_eq_some_iff, ValidUtf8, not_exists]

instance (bytes : List UInt8) : Decidable (ValidUtf8 bytes) :=
  decidable_of_iff ((fromUtf8 bytes).isSome = true) (by
    rw [Option.isSome_iff_exists]
    simp only [fromUtf8_eq_some_iff]
    rfl)

@[simp] theorem fromUtf8_utf8 (text : String) : fromUtf8 (utf8 text) = some text :=
  fromUtf8_eq_some_iff.mpr rfl

@[simp] theorem utf8_append (left right : String) : utf8 (left ++ right) = utf8 left ++ utf8 right := by
  simp [utf8]

@[simp] theorem utf8_empty : utf8 "" = [] := by
  simp [utf8]

@[simp] theorem length_utf8 (text : String) : (utf8 text).length = text.utf8ByteSize := by
  simp [utf8]

theorem utf8_ofList (chars : List Char) :
    utf8 (String.ofList chars) = chars.flatMap String.utf8EncodeChar := by
  simp [utf8, List.utf8Encode]

theorem utf8_eq_flatMap (text : String) : utf8 text = text.toList.flatMap String.utf8EncodeChar := by
  rw [← utf8_ofList, String.ofList_toList]

theorem utf8_injective {left right : String} (h : utf8 left = utf8 right) : left = right := by
  have hSome : some left = some right := by rw [← fromUtf8_utf8 left, h, fromUtf8_utf8]
  exact Option.some.inj hSome

theorem ValidUtf8.append {left right : List UInt8} (hLeft : ValidUtf8 left) (hRight : ValidUtf8 right) :
    ValidUtf8 (left ++ right) := by
  obtain ⟨first, rfl⟩ := hLeft
  obtain ⟨second, rfl⟩ := hRight
  exact ⟨first ++ second, utf8_append first second⟩

/-- An ASCII byte is the encoding of its own character. -/
theorem utf8EncodeChar_ofNat {b : UInt8} (h : b < 128) :
    String.utf8EncodeChar (Char.ofNat b.toNat) = [b] := by
  have hSmall : b.toNat < 128 := h
  have hValid : b.toNat.isValidChar := by
    left
    omega
  have hValue : (Char.ofNat b.toNat).val.toNat = b.toNat := by
    rw [Char.ofNat, dif_pos hValid]
    rfl
  unfold String.utf8EncodeChar
  rw [hValue]
  have hByte : UInt8.ofNat b.toNat = b := UInt8.ofNat_toNat
  have hBranch : b.toNat ≤ 127 := by omega
  rw [if_pos hBranch, hByte]

/-- An encoding that contains an ASCII byte is that byte. -/
theorem utf8EncodeChar_of_mem {c : Char} {b : UInt8} (h : b ∈ String.utf8EncodeChar c) (hAscii : b < 128) :
    String.utf8EncodeChar c = [b] := by
  have hValue : b.toNat < 128 := hAscii
  unfold String.utf8EncodeChar at h ⊢
  dsimp only at h ⊢
  split_ifs at h ⊢ with h1 h2 h3
  · rw [List.mem_singleton.mp h]
  · simp only [List.mem_cons, List.not_mem_nil, or_false] at h
    rcases h with rfl | rfl <;> rw [UInt8.toNat_ofNat'] at hValue <;> omega
  · simp only [List.mem_cons, List.not_mem_nil, or_false] at h
    rcases h with rfl | rfl | rfl <;> rw [UInt8.toNat_ofNat'] at hValue <;> omega
  · simp only [List.mem_cons, List.not_mem_nil, or_false] at h
    rcases h with rfl | rfl | rfl | rfl <;> rw [UInt8.toNat_ofNat'] at hValue <;> omega

/-- ASCII characters take one byte each. -/
theorem utf8_ofList_ascii {chars : List Char} (h : ∀ c ∈ chars, c.toNat < 128) :
    utf8 (String.ofList chars) = chars.map fun c => UInt8.ofNat c.toNat := by
  rw [utf8_ofList]
  induction chars with
  | nil => rfl
  | cons c chars ih =>
      have hTail := ih fun other hOther => h other (List.mem_cons_of_mem c hOther)
      have hSmall : c.toNat < 128 := h c List.mem_cons_self
      have hEncoded : String.utf8EncodeChar c = [UInt8.ofNat c.toNat] := by
        unfold String.utf8EncodeChar
        exact if_pos (Nat.le_of_lt_succ hSmall)
      rw [List.flatMap_cons, hTail, hEncoded]
      rfl

theorem isAscii_utf8_ofList {chars : List Char} (h : ∀ c ∈ chars, c.toNat < 128) :
    IsAscii (utf8 (String.ofList chars)) := by
  rw [utf8_ofList_ascii h]
  intro b hb
  obtain ⟨c, hChar, rfl⟩ := List.mem_map.mp hb
  have hSmall := h c hChar
  show (UInt8.ofNat c.toNat).toNat < 128
  rw [UInt8.toNat_ofNat']
  omega

/-- A string whose bytes are ASCII consists of ASCII characters. -/
theorem toNat_lt_of_isAscii {text : String} (h : IsAscii (utf8 text)) : ∀ c ∈ text.toList, c.toNat < 128 := by
  intro c hChar
  rw [utf8_eq_flatMap] at h
  obtain ⟨b, others, hEncoded⟩ := List.exists_cons_of_ne_nil (String.utf8EncodeChar_ne_nil (c := c))
  have hByte : b ∈ String.utf8EncodeChar c := hEncoded ▸ List.mem_cons_self
  have hSmall : b < 128 := h b (List.mem_flatMap.mpr ⟨c, hChar, hByte⟩)
  have hAlone := utf8EncodeChar_of_mem hByte hSmall
  by_contra hLarge
  have hLength := congrArg List.length hAlone
  unfold String.utf8EncodeChar at hLength
  dsimp only at hLength
  have hNot : ¬c.val.toNat ≤ 127 := fun hLow => hLarge (Nat.lt_succ_of_le hLow)
  rw [if_neg hNot] at hLength
  split_ifs at hLength <;> cases hLength

theorem validUtf8_nil : ValidUtf8 [] :=
  ⟨"", utf8_empty⟩

/-- An ASCII byte in front does not matter for validity. -/
theorem validUtf8_cons_iff {b : UInt8} {rest : List UInt8} (h : b < 128) :
    ValidUtf8 (b :: rest) ↔ ValidUtf8 rest := by
  constructor
  · rintro ⟨text, hText⟩
    rw [utf8_eq_flatMap] at hText
    cases hChars : text.toList with
    | nil =>
        rw [hChars] at hText
        cases hText
    | cons c chars =>
        rw [hChars, List.flatMap_cons] at hText
        have hNonempty : String.utf8EncodeChar c ≠ [] := String.utf8EncodeChar_ne_nil
        obtain ⟨first, others, hEncoded⟩ := List.exists_cons_of_ne_nil hNonempty
        rw [hEncoded, List.cons_append] at hText
        obtain ⟨rfl, hRest⟩ := List.cons.inj hText
        have hAlone := utf8EncodeChar_of_mem (hEncoded ▸ List.mem_cons_self) h
        rw [(List.cons.inj (hEncoded.symm.trans hAlone)).2, List.nil_append] at hRest
        exact ⟨String.ofList chars, by rw [utf8_ofList, hRest]⟩
  · rintro ⟨text, rfl⟩
    refine ⟨String.ofList (Char.ofNat b.toNat :: text.toList), ?_⟩
    rw [utf8_ofList, List.flatMap_cons, utf8EncodeChar_ofNat h, utf8_eq_flatMap]
    rfl

/-- Nor does an ASCII byte at the end. -/
theorem validUtf8_concat_iff {b : UInt8} {front : List UInt8} (h : b < 128) :
    ValidUtf8 (front ++ [b]) ↔ ValidUtf8 front := by
  constructor
  · rintro ⟨text, hText⟩
    rw [utf8_eq_flatMap] at hText
    rcases List.eq_nil_or_concat text.toList with hNil | ⟨chars, c, hChars⟩
    · rw [hNil] at hText
      exact absurd hText.symm (by simp)
    · rw [hChars, List.concat_eq_append, List.flatMap_append, List.flatMap_singleton] at hText
      have hLast : b ∈ String.utf8EncodeChar c := by
        rcases List.eq_nil_or_concat (String.utf8EncodeChar c) with hEmpty | ⟨bytes, last, hEncoded⟩
        · exact absurd hEmpty String.utf8EncodeChar_ne_nil
        · rw [hEncoded, List.concat_eq_append, ← List.append_assoc] at hText
          have hSame : last = b := List.singleton_inj.mp (List.append_inj' hText rfl).2
          rw [hEncoded, hSame]
          simp
      rw [utf8EncodeChar_of_mem hLast h] at hText
      exact ⟨String.ofList chars, by rw [utf8_ofList, (List.append_inj' hText rfl).1]⟩
  · rintro ⟨text, rfl⟩
    refine ⟨String.ofList (text.toList ++ [Char.ofNat b.toNat]), ?_⟩
    rw [utf8_ofList, List.flatMap_append, List.flatMap_singleton, utf8EncodeChar_ofNat h,
      utf8_eq_flatMap]

/-- Behind an ASCII prefix the rest decides. -/
theorem validUtf8_append_iff {front rest : List UInt8} (h : IsAscii front) :
    ValidUtf8 (front ++ rest) ↔ ValidUtf8 rest := by
  induction front with
  | nil => rfl
  | cons b front ih =>
      have hFront : IsAscii front := fun c hc => h c (List.mem_cons_of_mem b hc)
      rw [List.cons_append, validUtf8_cons_iff (h b List.mem_cons_self), ih hFront]

theorem IsAscii.valid {bytes : List UInt8} (h : IsAscii bytes) : ValidUtf8 bytes := by
  have hWhole : ValidUtf8 (bytes ++ []) := (validUtf8_append_iff h).mpr validUtf8_nil
  rwa [List.append_nil] at hWhole

/-- A byte outside ASCII is never valid on its own. -/
theorem not_validUtf8_singleton {b : UInt8} (h : ¬b < 128) : ¬ValidUtf8 [b] := by
  rintro ⟨text, hText⟩
  rw [utf8_eq_flatMap] at hText
  cases hChars : text.toList with
  | nil =>
      rw [hChars] at hText
      cases hText
  | cons c chars =>
      rw [hChars, List.flatMap_cons] at hText
      unfold String.utf8EncodeChar at hText
      dsimp only at hText
      split_ifs at hText with h1 h2 h3
      · apply h
        rw [← (List.cons.inj hText).1]
        show (UInt8.ofNat c.val.toNat).toNat < 128
        rw [UInt8.toNat_ofNat']
        omega
      · exact absurd (congrArg List.length hText) (by simp)
      · exact absurd (congrArg List.length hText) (by simp)
      · exact absurd (congrArg List.length hText) (by simp)

/-- An ASCII byte in the encoding of a string is one of its characters. -/
theorem mem_utf8_iff {b : UInt8} {text : String} (h : b < 128) :
    b ∈ utf8 text ↔ Char.ofNat b.toNat ∈ text.toList := by
  rw [utf8_eq_flatMap, List.mem_flatMap]
  constructor
  · rintro ⟨c, hChar, hByte⟩
    have hSame : String.utf8EncodeChar c = String.utf8EncodeChar (Char.ofNat b.toNat) := by
      rw [utf8EncodeChar_of_mem hByte h, utf8EncodeChar_ofNat h]
    have hString : utf8 (String.ofList [c]) = utf8 (String.ofList [Char.ofNat b.toNat]) := by
      rw [utf8_ofList, utf8_ofList, List.flatMap_singleton, List.flatMap_singleton, hSame]
    have hChars := congrArg String.toList (utf8_injective hString)
    rw [String.toList_ofList, String.toList_ofList] at hChars
    rwa [← (List.cons.inj hChars).1]
  · intro hChar
    exact ⟨_, hChar, by rw [utf8EncodeChar_ofNat h]; exact List.mem_singleton_self b⟩

end Stream
