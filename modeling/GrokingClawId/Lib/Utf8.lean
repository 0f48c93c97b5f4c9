import Mathlib.Data.List.Basic

/-!
# UTF-8

Text from bytes, when they are valid UTF-8. A byte below 128 stands for its character and occurs in the
encoding of no other one, so that text can be cut at such a byte before it is decoded.
-/

namespace GrokingClawId.Utf8

def encode (text : String) : List UInt8 := text.toUTF8.data.toList

/-- `String::from_utf8`. -/
def decode (bytes : List UInt8) : Option String := String.fromUTF8? ⟨bytes.toArray⟩

theorem decode_encode (text : String) : decode (encode text) = some text := by
  rw [decode, encode, Array.toArray_toList, String.fromUTF8?]
  exact dif_pos text.isValidUTF8

theorem encode_of_decode {bytes : List UInt8} {text : String} (decoded : decode bytes = some text) :
    encode text = bytes := by
  simp only [decode, String.fromUTF8?, Option.dite_none_right_eq_some, Option.some.injEq] at decoded
  obtain ⟨valid, rfl⟩ := decoded
  rfl

theorem encode_chars (text : String) : encode text = text.toList.flatMap String.utf8EncodeChar := by
  have encoded : text.toUTF8 = text.toList.utf8Encode := String.utf8Encode_toList.symm
  rw [encode, encoded, List.utf8Encode]
  simp

theorem encode_append (s t : String) : encode (s ++ t) = encode s ++ encode t := by
  rw [encode_chars, encode_chars, encode_chars, String.toList_append, List.flatMap_append]

/-- The bytes of a character that takes more than one are at least 128. -/
theorem ascii_mem_utf8EncodeChar {c : Char} {b : UInt8} (ascii : b.toNat < 128) :
    b ∈ String.utf8EncodeChar c ↔ c.toNat = b.toNat := by
  have value (n : Nat) (same : b = UInt8.ofNat n) : b.toNat = n % 256 := congrArg UInt8.toNat same
  constructor
  · intro member
    show c.val.toNat = b.toNat
    unfold String.utf8EncodeChar at member
    dsimp only at member
    split at member
    · have := value _ (List.mem_singleton.mp member)
      omega
    · exfalso
      split at member
      · simp only [List.mem_cons, List.not_mem_nil, or_false] at member
        rcases member with h | h <;> have := value _ h <;> omega
      · split at member
        · simp only [List.mem_cons, List.not_mem_nil, or_false] at member
          rcases member with h | h | h <;> have := value _ h <;> omega
        · simp only [List.mem_cons, List.not_mem_nil, or_false] at member
          rcases member with h | h | h | h <;> have := value _ h <;> omega
  · intro same
    have narrow : c.val.toNat ≤ 127 := by
      show c.toNat ≤ 127
      omega
    unfold String.utf8EncodeChar
    rw [if_pos narrow, List.mem_singleton]
    apply UInt8.toNat_inj.mp
    rw [UInt8.toNat_ofNat', ← same]
    exact (Nat.mod_eq_of_lt (by omega)).symm

theorem ascii_mem_encode {text : String} {b : UInt8} (ascii : b.toNat < 128) :
    b ∈ encode text ↔ Char.ofNat b.toNat ∈ text.toList := by
  rw [encode_chars, List.mem_flatMap]
  constructor
  · rintro ⟨c, member, inside⟩
    rw [← (ascii_mem_utf8EncodeChar ascii).mp inside, Char.ofNat_toNat]
    exact member
  · intro member
    refine ⟨_, member, (ascii_mem_utf8EncodeChar ascii).mpr ?_⟩
    have valid : b.toNat.isValidChar := .inl (by omega)
    rw [Char.ofNat, dif_pos valid]
    rfl

end GrokingClawId.Utf8
