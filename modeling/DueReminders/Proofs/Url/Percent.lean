import DueReminders.Url.Percent
import Mathlib.Data.List.Basic

/-! Reading percent-encoded texts back. The encoding works on the bytes of a text, so it is the
bytes that decoding restores, and they are UTF-8 again. -/
namespace DueReminders.Url

def hexDigits : List Char := "0123456789ABCDEF".toList

/-- Nothing but ASCII letters, digits, and percent signs with two hexadecimal digits behind each. -/
inductive Escaped : List Char → Prop where
  | nil : Escaped []
  | plain {c : Char} {rest : List Char} (listed : c.isAlphanum = true) (later : Escaped rest) :
      Escaped (c :: rest)
  | byte {high low : Char} {rest : List Char} (first : high ∈ hexDigits) (second : low ∈ hexDigits)
      (later : Escaped rest) : Escaped ('%' :: high :: low :: rest)

/-- The text that is encoded, if its bytes are UTF-8. -/
def unescape? (text : List Char) : Option String :=
  String.fromUTF8? ⟨(percentDecode (text.flatMap String.utf8EncodeChar)).toArray⟩

section

variable {plain : Char → Bool} {value : Nat}

theorem hexDigit_mem (small : value < 16) : hexDigit value ∈ hexDigits := by
  have each : ∀ value < 16, hexDigit value ∈ hexDigits := by decide
  exact each value small

theorem hexValue?_hexDigit (small : value < 16) :
    ∃ byte, String.utf8EncodeChar (hexDigit value) = [byte] ∧ hexValue? byte = some value := by
  have each : ∀ value < 16, String.utf8EncodeChar (hexDigit value) = [(hexDigit value).toNat.toUInt8] ∧
      hexValue? (hexDigit value).toNat.toUInt8 = some value := by decide
  exact ⟨_, each value small⟩

theorem percentDecode_percentByte (byte : UInt8) (rest : List UInt8) :
    percentDecode ((percentByte byte).flatMap String.utf8EncodeChar ++ rest) =
      byte :: percentDecode rest := by
  have size := byte.toNat_lt
  have bounded : byte.toNat / 16 < 16 := by omega
  obtain ⟨high, first, upper⟩ := hexValue?_hexDigit bounded
  obtain ⟨low, second, lower⟩ := hexValue?_hexDigit (Nat.mod_lt byte.toNat (by decide : 16 > 0))
  have written : (percentByte byte).flatMap String.utf8EncodeChar = [37, high, low] := by
    rw [percentByte, List.flatMap_cons, List.flatMap_cons, List.flatMap_cons, first, second]
    rfl
  have whole : byte.toNat / 16 * 16 + byte.toNat % 16 = byte.toNat := by omega
  rw [written, List.cons_append, List.cons_append, List.cons_append, List.nil_append,
    percentDecode, upper, lower]
  simp only [whole, UInt8.ofNat_toNat]

theorem percentDecode_percentBytes (bytes rest : List UInt8) :
    percentDecode ((bytes.flatMap percentByte).flatMap String.utf8EncodeChar ++ rest) =
      bytes ++ percentDecode rest := by
  induction bytes with
  | nil => rfl
  | cons byte bytes ih =>
    rw [List.flatMap_cons, List.flatMap_append, List.append_assoc, percentDecode_percentByte, ih,
      List.cons_append]

theorem percentDecode_append {bytes : List UInt8} (unmarked : 37 ∉ bytes) (rest : List UInt8) :
    percentDecode (bytes ++ rest) = bytes ++ percentDecode rest := by
  induction bytes with
  | nil => rfl
  | cons byte bytes ih =>
    obtain ⟨other, later⟩ := not_or.mp (mt List.mem_cons.mpr unmarked)
    rw [List.cons_append, percentDecode, ih later, List.cons_append]
    rintro high low tail rfl
    exact absurd rfl other

/-- Only the percent sign has its byte; what is not ASCII is written with larger ones. -/
theorem not_mem_utf8EncodeChar {c : Char} (other : c ≠ '%') : 37 ∉ String.utf8EncodeChar c := by
  have number : c.val.toNat ≠ 37 := fun same => other (Char.ext (UInt32.toNat_inj.mp same))
  have apart (value : Nat) (differs : value % 256 ≠ 37) : (37 : UInt8) ≠ UInt8.ofNat value := by
    intro same
    have equal := congrArg UInt8.toNat same
    rw [UInt8.toNat_ofNat'] at equal
    exact differs equal.symm
  unfold String.utf8EncodeChar
  dsimp only
  split
  · simp only [List.mem_singleton]
    exact apart _ (by omega)
  · split
    · simp only [List.mem_cons, List.not_mem_nil, or_false, not_or]
      exact ⟨apart _ (by omega), apart _ (by omega)⟩
    · split
      · simp only [List.mem_cons, List.not_mem_nil, or_false, not_or]
        exact ⟨apart _ (by omega), apart _ (by omega), apart _ (by omega)⟩
      · simp only [List.mem_cons, List.not_mem_nil, or_false, not_or]
        exact ⟨apart _ (by omega), apart _ (by omega), apart _ (by omega), apart _ (by omega)⟩

/-- The bytes of a text are read back, whatever stands for itself, the percent sign excepted. -/
theorem percentDecode_percentEncode (marked : plain '%' = false) (text : List Char) :
    percentDecode ((percentEncode plain text).flatMap String.utf8EncodeChar) =
      text.flatMap String.utf8EncodeChar := by
  induction text with
  | nil => rfl
  | cons c text ih =>
    have split : percentEncode plain (c :: text) =
        (if plain c then [c] else (String.utf8EncodeChar c).flatMap percentByte) ++
          percentEncode plain text := rfl
    rw [split, List.flatMap_append, List.flatMap_cons, ← ih]
    by_cases kept : plain c = true
    · have other : c ≠ '%' := by
        rintro rfl
        cases kept.symm.trans marked
      rw [if_pos kept, List.flatMap_singleton, percentDecode_append (not_mem_utf8EncodeChar other)]
    · rw [if_neg kept, percentDecode_percentBytes]

theorem fromUTF8?_bytes (text : List Char) :
    String.fromUTF8? ⟨(text.flatMap String.utf8EncodeChar).toArray⟩ = some (String.ofList text) := by
  have bytes : (⟨(text.flatMap String.utf8EncodeChar).toArray⟩ : ByteArray) = text.utf8Encode :=
    ByteArray.ext (List.data_toByteArray).symm
  rw [bytes, String.fromUTF8?, dif_pos ByteArray.isValidUTF8_utf8Encode]
  rfl

theorem unescape?_percentEncode (marked : plain '%' = false) (text : List Char) :
    unescape? (percentEncode plain text) = some (String.ofList text) := by
  rw [unescape?, percentDecode_percentEncode marked, fromUTF8?_bytes]

theorem escaped_percentBytes (bytes : List UInt8) {rest : List Char} (later : Escaped rest) :
    Escaped (bytes.flatMap percentByte ++ rest) := by
  induction bytes with
  | nil => exact later
  | cons byte bytes ih =>
    have size := byte.toNat_lt
    rw [List.flatMap_cons, List.append_assoc]
    exact .byte (hexDigit_mem (by omega)) (hexDigit_mem (by omega)) ih

theorem escaped_percentEncode (text : List Char) : Escaped (percentEncode isAlphanumeric text) := by
  induction text with
  | nil => exact .nil
  | cons c text ih =>
    rw [percentEncode, List.flatMap_cons]
    split
    · next listed => exact .plain listed ih
    · exact escaped_percentBytes _ ih

end

end DueReminders.Url
