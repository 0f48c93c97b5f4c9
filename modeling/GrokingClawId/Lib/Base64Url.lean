import GrokingClawId.Lib.Codec
import GrokingClawId.Lib.Percent

/-!
# Base64 in URLs

The alphabet of URLs, without padding. The padding follows from the length, so nothing is lost with it.
-/

namespace GrokingClawId.Codec

def urlChar (c : Char) : Char := if c = '+' then '-' else if c = '/' then '_' else c

def plainChar (c : Char) : Char := if c = '-' then '+' else if c = '_' then '/' else c

/-- The `URL_SAFE_NO_PAD` engine. -/
def base64UrlEncode (bytes : List UInt8) : List Char := ((base64Encode bytes).filter (· ≠ '=')).map urlChar

def repad (s : List Char) : List Char := s ++ List.replicate ((4 - s.length % 4) % 4) '='

def base64UrlDecode (s : List Char) : Option (List UInt8) := base64Decode (repad (s.map plainChar))

theorem plainChar_urlChar {c : Char} (dash : c ≠ '-') (low : c ≠ '_') : plainChar (urlChar c) = c := by
  unfold urlChar
  split
  · rename_i plus
    rw [plus]
    rfl
  · split
    · rename_i slash
      rw [slash]
      rfl
    · rw [plainChar, if_neg dash, if_neg low]

theorem repad_group {a b c d : Char} (letters : a ≠ '=' ∧ b ≠ '=' ∧ c ≠ '=' ∧ d ≠ '=') {s t : List Char}
    (whole : repad (s.filter (· ≠ '=')) = t) :
    repad (([a, b, c, d] ++ s).filter (· ≠ '=')) = [a, b, c, d] ++ t := by
  have group : [a, b, c, d].filter (· ≠ '=') = [a, b, c, d] := by simp [letters]
  have same (n : Nat) : (4 + n) % 4 = n % 4 := Nat.add_mod_left 4 n
  rw [← whole, List.filter_append, group, repad, repad, List.append_assoc, List.length_append]
  simp only [List.length_cons, List.length_nil, Nat.zero_add, Nat.reduceAdd, same]

/-- The padding comes back. -/
theorem repad_filter (bytes : List UInt8) : repad ((base64Encode bytes).filter (· ≠ '=')) =
    base64Encode bytes := by
  fun_induction base64Encode bytes with
  | case1 => rfl
  | case2 a =>
    have small := a.toNat_lt
    have x := base64Char_ne_pad (a.toNat / 4) (by omega)
    have y := base64Char_ne_pad (a.toNat % 4 * 16) (by omega)
    simp [repad, x, y]
  | case3 a b =>
    have smallA := a.toNat_lt
    have smallB := b.toNat_lt
    have x := base64Char_ne_pad (a.toNat / 4) (by omega)
    have y := base64Char_ne_pad (a.toNat % 4 * 16 + b.toNat / 16) (by omega)
    have z := base64Char_ne_pad (b.toNat % 16 * 4) (by omega)
    simp [repad, x, y, z]
  | case4 a b c rest ih =>
    have smallA := a.toNat_lt
    have smallB := b.toNat_lt
    have smallC := c.toNat_lt
    exact repad_group ⟨base64Char_ne_pad _ (by omega), base64Char_ne_pad _ (by omega),
      base64Char_ne_pad _ (by omega),
      base64Char_ne_pad _ (by omega)⟩ ih

theorem base64UrlDecode_encode (bytes : List UInt8) : base64UrlDecode (base64UrlEncode bytes) =
    some bytes := by
  have letters : ((base64Encode bytes).filter (· ≠ '=')).map (plainChar ∘ urlChar) =
      ((base64Encode bytes).filter (· ≠ '=')).map id := by
    refine List.map_congr_left fun c member => ?_
    have inside := List.mem_of_mem_filter member
    refine plainChar_urlChar ?_ ?_
    · rintro rfl
      exact not_mem_base64Encode (by decide) bytes inside
    · rintro rfl
      exact not_mem_base64Encode (by decide) bytes inside
  rw [base64UrlDecode, base64UrlEncode, List.map_map, letters, List.map_id, repad_filter, base64Decode_encode]

theorem base64UrlEncode_inj {a b : List UInt8} (same : base64UrlEncode a = base64UrlEncode b) : a = b := by
  have decoded := base64UrlDecode_encode a
  rw [same, base64UrlDecode_encode] at decoded
  exact (Option.some.inj decoded).symm

end GrokingClawId.Codec
