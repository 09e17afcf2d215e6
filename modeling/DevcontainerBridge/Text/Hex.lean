import DevcontainerBridge.Text.Rows

/-! Bytes as hexadecimal digits: Rust's `{:02x}`, and how it is read back. -/
namespace Text

/-- One digit of Rust's `{:x}`. -/
def hexDigit (value : Nat) : Char := Nat.digitChar value

/-- Rust's `{:02x}` of a byte. -/
def hexByte (byte : UInt8) : List Char :=
  [hexDigit (byte.toNat / 16), hexDigit (byte.toNat % 16)]

def hex (bytes : List UInt8) : List Char := bytes.flatMap hexByte

/-- Read pairs of digits as bytes. -/
def unhex : List Char → Option (List UInt8)
  | [] => some []
  | [_] => none
  | high :: low :: rest =>
      match toDigit 16 high, toDigit 16 low, unhex rest with
      | some high, some low, some bytes => some (UInt8.ofNat (16 * high + low) :: bytes)
      | _, _, _ => none

variable {bytes : List UInt8} {c : Char}

theorem toDigit_hexDigit {value : Nat} (h : value < 16) : toDigit 16 (hexDigit value) = some value := by
  have hAll : ∀ value < 16, toDigit 16 (hexDigit value) = some value := by decide
  exact hAll value h

theorem byte_div_lt (byte : UInt8) : byte.toNat / 16 < 16 := by
  have := byte.toNat_lt
  omega

theorem length_hex (bytes : List UInt8) : (hex bytes).length = 2 * bytes.length := by
  induction bytes with
  | nil => rfl
  | cons byte bytes ih =>
      change (hexByte byte ++ hex bytes).length = _
      rw [List.length_append, ih, List.length_cons]
      change 2 + _ = _
      omega

theorem mem_hex (h : c ∈ hex bytes) : ∃ value < 16, c = hexDigit value := by
  obtain ⟨byte, -, hByte⟩ := List.mem_flatMap.mp h
  rcases List.mem_cons.mp hByte with rfl | hLow
  · exact ⟨_, byte_div_lt byte, rfl⟩
  · exact ⟨_, Nat.mod_lt _ (by decide), List.mem_singleton.mp hLow⟩

end Text
