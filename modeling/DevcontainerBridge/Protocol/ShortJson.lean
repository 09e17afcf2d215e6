import DevcontainerBridge.Protocol.Json
import DevcontainerBridge.Stream.Utf8

/-! Messages whose JSON is short and ASCII: the handshake of a data connection
and the headers of a clipboard transfer. -/
namespace DevcontainerBridge

open Stream

@[simp] theorem quoteChar_toNat : quoteChar.toNat = 34 := rfl

@[simp] theorem backslashChar_toNat : backslashChar.toNat = 92 := rfl

/-- ASCII text of a bounded length. -/
structure ShortText (limit : Nat) (text : List Char) : Prop where
  ascii : ∀ c ∈ text, c.toNat < 128
  fits : text.length ≤ limit

theorem ShortText.append {left right : List Char} {m n : Nat} (hLeft : ShortText m left)
    (hRight : ShortText n right) : ShortText (m + n) (left ++ right) where
  ascii := by
    intro c hChar
    rcases List.mem_append.mp hChar with hHere | hThere
    · exact hLeft.ascii c hHere
    · exact hRight.ascii c hThere
  fits := by
    have hFirst := hLeft.fits
    have hSecond := hRight.fits
    rw [List.length_append]
    omega

theorem ShortText.mono {text : List Char} {m n : Nat} (h : ShortText m text) (hLimit : m ≤ n) :
    ShortText n text :=
  ⟨h.ascii, h.fits.trans hLimit⟩

theorem ShortText.flatMap {chars : List Char} {replace : Char → List Char} {n : Nat}
    (h : ∀ c ∈ chars, ShortText n (replace c)) : ShortText (chars.length * n) (chars.flatMap replace) := by
  induction chars with
  | nil => exact ⟨by simp, by simp⟩
  | cons c chars ih =>
      have hTail := ih fun other hOther => h other (List.mem_cons_of_mem c hOther)
      have hWhole := (h c List.mem_cons_self).append hTail
      rw [List.flatMap_cons]
      apply hWhole.mono
      rw [List.length_cons, Nat.succ_mul]
      omega

theorem shortText_escapeChar {c : Char} (h : c.toNat < 128) : ShortText 6 (escapeChar c) := by
  have hDigit : ∀ digit < 16, (Nat.digitChar digit).toNat < 128 := by decide
  unfold escapeChar
  split_ifs
  case pos => exact ⟨by simp, by decide⟩
  case pos => exact ⟨by simp, by decide⟩
  case pos => exact ⟨by simp, by decide⟩
  case pos => exact ⟨by simp, by decide⟩
  case pos => exact ⟨by simp, by decide⟩
  case pos => exact ⟨by simp, by decide⟩
  case pos => exact ⟨by simp, by decide⟩
  case pos =>
    have hFront : ShortText 4 [backslashChar, 'u', '0', '0'] := ⟨by simp, by decide⟩
    have hDigits : ShortText 2 [Nat.digitChar (c.toNat / 16), Nat.digitChar (c.toNat % 16)] := by
      refine ⟨?_, le_refl _⟩
      intro d hMember
      rcases List.mem_pair.mp hMember with rfl | rfl
      · exact hDigit _ (by omega)
      · exact hDigit _ (by omega)
    exact hFront.append hDigits
  case neg =>
    refine ⟨?_, by simp⟩
    intro d hMember
    rw [List.mem_singleton.mp hMember]
    exact h

theorem shortText_jsonString {text : String} (h : IsAscii (utf8 text)) :
    ShortText (6 * text.utf8ByteSize + 2) (jsonString text) := by
  have hChars := toNat_lt_of_isAscii h
  have hQuote : ShortText 1 [quoteChar] := ⟨by simp, by decide⟩
  have hBody := ShortText.flatMap fun c hChar => shortText_escapeChar (hChars c hChar)
  have hLength : text.toList.length = text.utf8ByteSize := by
    have hBytes := congrArg List.length (utf8_ofList_ascii hChars)
    rw [String.ofList_toList, length_utf8, List.length_map] at hBytes
    exact hBytes.symm
  rw [hLength] at hBody
  apply ((hQuote.append hBody).append hQuote).mono
  omega

theorem shortText_jsonNat {n limit : Nat} (h : n < 10 ^ (limit + 1)) :
    ShortText (limit + 1) (jsonNat n) where
  ascii := by
    intro c hChar
    have hDigit := Nat.isDigit_of_mem_toDigits (by decide) (by decide) hChar
    rw [Char.isDigit, Bool.and_eq_true, decide_eq_true_eq, decide_eq_true_eq] at hDigit
    have hUpper : c.val.toNat ≤ 57 := hDigit.2
    show c.val.toNat < 128
    omega
  fits := by
    unfold jsonNat
    exact (Nat.length_toDigits_le_iff (by decide) (Nat.succ_pos limit)).mpr h

theorem ShortText.intercalate {pieces : List (List Char)} {n : Nat}
    (h : ∀ piece ∈ pieces, ShortText n piece) :
    ShortText (pieces.length * (n + 1)) ([','].intercalate pieces) := by
  induction pieces with
  | nil => exact ⟨by simp, by simp⟩
  | cons piece pieces ih =>
      have hPiece := h piece List.mem_cons_self
      have hPieces := ih fun other hOther => h other (List.mem_cons_of_mem piece hOther)
      rw [List.length_cons, Nat.succ_mul]
      cases pieces with
      | nil =>
          rw [List.intercalate_singleton]
          exact hPiece.mono (by omega)
      | cons second pieces =>
          have hComma : ShortText 1 [','] := ⟨by simp, by decide⟩
          rw [List.intercalate_cons_cons]
          apply ((hPiece.append hComma).append hPieces).mono
          omega

theorem shortText_jsonObject {fields : List (String × List Char)} {n : Nat}
    (h : ∀ field ∈ fields, ShortText n (jsonField field)) :
    ShortText (fields.length * (n + 1) + 2) (jsonObject fields) := by
  have hOpen : ShortText 1 "\x7b".toList := ⟨by simp, by decide⟩
  have hClose : ShortText 1 "\x7d".toList := ⟨by simp, by decide⟩
  have hFields : ShortText (fields.length * (n + 1)) ([','].intercalate (fields.map jsonField)) := by
    rw [← List.length_map jsonField]
    apply ShortText.intercalate
    intro piece hPiece
    obtain ⟨field, hField, rfl⟩ := List.mem_map.mp hPiece
    exact h field hField
  apply ((hOpen.append hFields).append hClose).mono
  omega

theorem shortText_jsonField {name : String} {value : List Char} {n : Nat}
    (hName : IsAscii (utf8 name)) (hValue : ShortText n value) :
    ShortText (6 * name.utf8ByteSize + n + 3) (jsonField (name, value)) := by
  have hColon : ShortText 1 [':'] := ⟨by simp, by decide⟩
  apply ((shortText_jsonString hName).append (hColon.append hValue)).mono
  omega

/-- What a reader of a line needs to know about a short message. -/
theorem Message.short_of_fields (message : Message) {n : Nat}
    (h : ∀ field ∈ ("type", jsonString message.content.1) :: message.content.2,
      ShortText n (jsonField field)) :
    IsAscii (utf8 message.toJson) ∧
      message.toJson.utf8ByteSize ≤ (message.content.2.length + 1) * (n + 1) + 2 := by
  have hShort := shortText_jsonObject h
  have hBytes : message.toJson.utf8ByteSize =
      (jsonObject (("type", jsonString message.content.1) :: message.content.2)).length := by
    rw [← length_utf8, Message.toJson, utf8_ofList_ascii hShort.ascii, List.length_map]
  refine ⟨isAscii_utf8_ofList hShort.ascii, ?_⟩
  rw [hBytes]
  exact hShort.fits

theorem shortText_type {tag : String} (hTag : IsAscii (utf8 tag)) (hLength : tag.utf8ByteSize ≤ 20) :
    ShortText 149 (jsonField ("type", jsonString tag)) := by
  apply (shortText_jsonField (by decide) (shortText_jsonString hTag)).mono
  have hName : "type".utf8ByteSize = 4 := by decide
  omega

/-- The handshake line of a data connection is ASCII and below the limit. -/
theorem Message.connectReady_short {connId : String} (hAscii : IsAscii (utf8 connId)) :
    IsAscii (utf8 (Message.connectReady connId).toJson) ∧
      (Message.connectReady connId).toJson.utf8ByteSize ≤ 12 * connId.utf8ByteSize + 304 := by
  have hFields : ∀ field ∈ ("type", jsonString "ConnectReady") :: [("conn_id", jsonString connId)],
      ShortText (6 * connId.utf8ByteSize + 150) (jsonField field) := by
    intro field hField
    rcases List.mem_pair.mp hField with rfl | rfl
    · exact (shortText_type (by decide) (by decide)).mono (by omega)
    · apply (shortText_jsonField (by decide) (shortText_jsonString hAscii)).mono
      have hName : "conn_id".utf8ByteSize = 7 := by decide
      omega
  obtain ⟨hLine, hSize⟩ := (Message.connectReady connId).short_of_fields hFields
  refine ⟨hLine, hSize.trans ?_⟩
  show 2 * (6 * connId.utf8ByteSize + 150 + 1) + 2 ≤ _
  omega

theorem Message.clipboardBatchReady_short (count : UInt32) :
    IsAscii (utf8 (Message.clipboardBatchReady count).toJson) ∧
      (Message.clipboardBatchReady count).toJson.utf8ByteSize ≤ 302 := by
  have hFields : ∀ field ∈ ("type", jsonString "ClipboardBatchReady") :: [("count", jsonNat count.toNat)],
      ShortText 149 (jsonField field) := by
    intro field hField
    rcases List.mem_pair.mp hField with rfl | rfl
    · exact shortText_type (by decide) (by decide)
    · have hCount : count.toNat < 10 ^ (9 + 1) := lt_of_lt_of_le count.toNat_lt (by decide)
      apply (shortText_jsonField (by decide) (shortText_jsonNat hCount)).mono
      decide
  obtain ⟨hLine, hSize⟩ := (Message.clipboardBatchReady count).short_of_fields hFields
  refine ⟨hLine, hSize.trans ?_⟩
  show 2 * (149 + 1) + 2 ≤ 302
  omega

theorem Message.clipboardReady_short (format : ClipboardFormat) (size : UInt64) :
    IsAscii (utf8 (Message.clipboardReady format size).toJson) ∧
      (Message.clipboardReady format size).toJson.utf8ByteSize ≤ 452 := by
  have hFields : ∀ field ∈ ("type", jsonString "ClipboardReady") ::
      [("format", format.toJson), ("size", jsonNat size.toNat)], ShortText 149 (jsonField field) := by
    intro field hField
    rcases List.mem_cons.mp hField with rfl | hOther
    · exact shortText_type (by decide) (by decide)
    rcases List.mem_pair.mp hOther with rfl | rfl
    · have hFormat : ShortText 32 format.toJson := by
        cases format
        · exact (shortText_jsonString (by decide)).mono (by decide)
        · exact (shortText_jsonString (by decide)).mono (by decide)
        · exact (shortText_jsonString (by decide)).mono (by decide)
      exact (shortText_jsonField (by decide) hFormat).mono (by decide)
    · have hSize : size.toNat < 10 ^ (19 + 1) := lt_of_lt_of_le size.toNat_lt (by decide)
      apply (shortText_jsonField (by decide) (shortText_jsonNat hSize)).mono
      decide
  obtain ⟨hLine, hLength⟩ := (Message.clipboardReady format size).short_of_fields hFields
  refine ⟨hLine, hLength.trans ?_⟩
  show 3 * (149 + 1) + 2 ≤ 452
  omega

end DevcontainerBridge
