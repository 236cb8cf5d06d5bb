import Mathlib.Tactic.Common
import ScanWatch.Url.Percent

namespace ScanWatch

namespace Text

variable {cs : List Char} {c : Char} {byte : UInt8}

private theorem bytes_ofList (cs : List Char) :
    bytes (String.ofList cs) = cs.flatMap String.utf8EncodeChar := by
  simp [bytes, String.toByteArray_ofList, List.utf8Encode]

private theorem bytes_singleton (ascii : c.toNat < 128) :
    bytes (String.singleton c) = [UInt8.ofNat c.toNat] := by
  have all : ∀ code : Fin 128, bytes (String.singleton (Char.ofNat code)) = [UInt8.ofNat code] := by
    decide
  have here := all ⟨c.toNat, ascii⟩
  rwa [Char.ofNat_toNat] at here

private theorem toNat_ofNat_of_ascii (ascii : byte.toNat < 128) :
    (Char.ofNat byte.toNat).toNat = byte.toNat := by
  have all : ∀ code : Fin 128, (Char.ofNat code).toNat = code := by decide
  exact all ⟨byte.toNat, ascii⟩

private theorem eq_of_mem_utf8EncodeChar (ascii : byte.toNat < 128)
    (member : byte ∈ String.utf8EncodeChar c) : c = Char.ofNat byte.toNat := by
  rw [String.utf8EncodeChar.eq_1] at member
  by_cases single : c.val.toNat ≤ 127
  · rw [if_pos single] at member
    obtain rfl := List.mem_singleton.mp member
    rw [UInt8.toNat_ofNat', Nat.mod_eq_of_lt (by omega)]
    exact (Char.ofNat_toNat c).symm
  · -- Every byte of a longer encoding is at least 128.
    rw [if_neg single] at member
    have large : 128 ≤ byte.toNat := by
      split at member
      · simp only [List.mem_cons, List.not_mem_nil, or_false] at member
        rcases member with rfl | rfl <;> rw [UInt8.toNat_ofNat'] <;> omega
      · split at member <;> simp only [List.mem_cons, List.not_mem_nil, or_false] at member
        · rcases member with rfl | rfl | rfl <;> rw [UInt8.toNat_ofNat'] <;> omega
        · rcases member with rfl | rfl | rfl | rfl <;> rw [UInt8.toNat_ofNat'] <;> omega
    omega

private theorem mem_of_mem_bytes (ascii : byte.toNat < 128)
    (member : byte ∈ bytes (String.ofList cs)) :
    Char.ofNat byte.toNat ∈ cs := by
  rw [bytes_ofList] at member
  obtain ⟨c, here, encoded⟩ := List.mem_flatMap.mp member
  rwa [← eq_of_mem_utf8EncodeChar ascii encoded]

end Text

namespace Url.Percent

variable {inClass : UInt8 → Bool} {cs : List Char} {c : Char}

/-- What an encoding needs to be undone: the class holds all bytes beyond ASCII and the percent
sign. -/
structure Reversible (inClass : UInt8 → Bool) : Prop where
  beyond : ∀ byte : UInt8, inClass byte = false → byte.toNat < 128
  percent : inClass 0x25 = true

private theorem hexDigit?_upperHexDigit {value : Nat} (digit : value < 16) :
    Text.hexDigit? (upperHexDigit value) = some value := by
  have all : ∀ value : Fin 16, Text.hexDigit? (upperHexDigit value) = some value.val := by decide
  exact all ⟨value, digit⟩

private theorem nibbles_lt (byte : UInt8) : byte.toNat / 16 < 16 ∧ byte.toNat % 16 < 16 := by
  have bound : byte.toNat < 256 := byte.toNat_lt
  omega

private theorem decode_encodeByte (byte : UInt8) (rest : List Char) :
    decode (encodeByte byte ++ rest) = byte :: decode rest := by
  obtain ⟨high, low⟩ := nibbles_lt byte
  simp only [encodeByte, List.cons_append, List.nil_append, decode, hexDigit?_upperHexDigit high,
    hexDigit?_upperHexDigit low]
  rw [Nat.div_add_mod, UInt8.ofNat_toNat]

private theorem decode_plain (ascii : c.toNat < 128) (other : c ≠ '%') (rest : List Char) :
    decode (c :: rest) = UInt8.ofNat c.toNat :: decode rest := by
  rw [decode, Text.bytes_singleton ascii]
  · rfl
  · intro high low tail percent
    exact absurd percent other

private theorem decode_encodeBytes (reversible : Reversible inClass) (bytes : List UInt8)
    (rest : List Char) : decode (encodeBytes inClass bytes ++ rest) = bytes ++ decode rest := by
  induction bytes with
  | nil => rfl
  | cons byte others ih =>
    rw [encodeBytes, List.flatMap_cons, ← encodeBytes, List.append_assoc]
    by_cases inside : inClass byte = true
    · rw [if_pos inside, decode_encodeByte, ih, List.cons_append]
    · have ascii := reversible.beyond byte (Bool.eq_false_iff.mpr inside)
      have same := Text.toNat_ofNat_of_ascii ascii
      have other : Char.ofNat byte.toNat ≠ '%' := by
        intro percent
        rw [percent] at same
        obtain rfl : 0x25 = byte := UInt8.toNat_inj.mp same
        exact inside reversible.percent
      rw [if_neg inside, List.singleton_append, decode_plain (by rwa [same]) other, ih, same,
        UInt8.ofNat_toNat, List.cons_append]

theorem decode_encode (reversible : Reversible inClass) (cs : List Char) :
    decode (encode inClass cs) = Text.bytes (String.ofList cs) := by
  have decoded := decode_encodeBytes reversible (Text.bytes (String.ofList cs)) []
  rwa [List.append_nil, decode, List.append_nil] at decoded

def alphabet : List Char :=
  "%0123456789ABCDEF".toList

private theorem encodeByte_subset (byte : UInt8) : encodeByte byte ⊆ alphabet := by
  have digits : ∀ value : Fin 16, upperHexDigit value ∈ alphabet := by decide
  obtain ⟨high, low⟩ := nibbles_lt byte
  intro c member
  simp only [encodeByte, List.mem_cons, List.not_mem_nil, or_false] at member
  rcases member with rfl | rfl | rfl
  · decide
  · exact digits ⟨_, high⟩
  · exact digits ⟨_, low⟩

theorem mem_of_mem_encode (beyond : ∀ byte : UInt8, inClass byte = false → byte.toNat < 128)
    (plain : c ∉ alphabet) (member : c ∈ encode inClass cs) :
    inClass (UInt8.ofNat c.toNat) = false ∧ c ∈ cs := by
  obtain ⟨byte, here, written⟩ := List.mem_flatMap.mp member
  by_cases inside : inClass byte = true
  · rw [if_pos inside] at written
    exact absurd (encodeByte_subset byte written) plain
  · rw [if_neg inside] at written
    have outside := Bool.eq_false_iff.mpr inside
    have ascii := beyond byte outside
    obtain rfl := List.mem_singleton.mp written
    rw [Text.toNat_ofNat_of_ascii ascii, UInt8.ofNat_toNat]
    exact ⟨outside, Text.mem_of_mem_bytes ascii here⟩

private theorem inControls_beyond {byte : UInt8} (outside : inControls byte = false) :
    byte.toNat < 128 := by
  obtain ⟨-, low⟩ := Bool.or_eq_false_iff.mp outside
  have bound : ¬0x7E < byte.toNat := by simpa [UInt8.lt_iff_toNat_lt] using low
  omega

theorem inPath_beyond (byte : UInt8) (outside : inPath byte = false) : byte.toNat < 128 := by
  obtain ⟨inFragment, -⟩ := Bool.or_eq_false_iff.mp outside
  obtain ⟨controls, -⟩ := Bool.or_eq_false_iff.mp inFragment
  exact inControls_beyond controls

theorem inSegment_reversible : Reversible inSegment where
  beyond := by
    intro byte outside
    exact inPath_beyond byte (Bool.or_eq_false_iff.mp outside).1
  percent := by decide

theorem inSpecialSegment_reversible : Reversible inSpecialSegment where
  beyond := by
    intro byte outside
    exact inSegment_reversible.beyond byte (Bool.or_eq_false_iff.mp outside).1
  percent := by decide

end Url.Percent

end ScanWatch
