import Mathlib.Data.List.Basic

/-!
# Hexadecimal and base64

Lower-case hexadecimal, and the standard base64 alphabet with canonical padding. Both are
written over characters, and both decoders undo their encoder.
-/

namespace GrokingClawId.Codec

/-! ### Hexadecimal -/

def hexByte (b : UInt8) : List Char := [Nat.digitChar (b.toNat / 16), Nat.digitChar (b.toNat % 16)]

def hexEncode (bytes : List UInt8) : List Char := bytes.flatMap hexByte

def hexValue (c : Char) : Option Nat :=
  if '0' ≤ c ∧ c ≤ '9' then some (c.toNat - '0'.toNat)
  else if 'a' ≤ c ∧ c ≤ 'f' then some (c.toNat - 'a'.toNat + 10)
  else if 'A' ≤ c ∧ c ≤ 'F' then some (c.toNat - 'A'.toNat + 10)
  else none

def hexDecode : List Char → Option (List UInt8)
  | [] => some []
  | a :: b :: s => do
    let high ← hexValue a
    let low ← hexValue b
    let rest ← hexDecode s
    some (UInt8.ofNat (16 * high + low) :: rest)
  | [_] => none

theorem hexValue_digitChar : ∀ n < 16, hexValue (Nat.digitChar n) = some n := by decide

theorem hexDecode_hexEncode (bytes : List UInt8) : hexDecode (hexEncode bytes) = some bytes := by
  induction bytes with
  | nil => rfl
  | cons b bytes ih =>
    have small := b.toNat_lt
    have high := hexValue_digitChar (b.toNat / 16) (by omega)
    have low := hexValue_digitChar (b.toNat % 16) (by omega)
    have whole : 16 * (b.toNat / 16) + b.toNat % 16 = b.toNat := Nat.div_add_mod _ _
    rw [hexEncode] at ih
    simp only [hexEncode, hexByte, List.flatMap_cons, List.cons_append, List.nil_append, hexDecode,
      high, low, ih, Option.bind_eq_bind, Option.bind_some, whole, UInt8.ofNat_toNat]

theorem hexEncode_inj {a b : List UInt8} (same : hexEncode a = hexEncode b) : a = b := by
  have decoded := hexDecode_hexEncode a
  rw [same, hexDecode_hexEncode] at decoded
  exact (Option.some.inj decoded).symm

theorem hexEncode_chars {bytes : List UInt8} {c : Char} (member : c ∈ hexEncode bytes) :
    ∃ n < 16, c = Nat.digitChar n := by
  obtain ⟨b, _, inside⟩ := List.mem_flatMap.mp member
  have small := b.toNat_lt
  simp only [hexByte, List.mem_cons, List.not_mem_nil, or_false] at inside
  rcases inside with rfl | rfl
  · exact ⟨_, by omega, rfl⟩
  · exact ⟨_, by omega, rfl⟩

/-- A character that is no hexadecimal digit does not occur in encoded bytes. -/
theorem not_mem_hexEncode {c : Char} (foreign : ∀ n < 16, c ≠ Nat.digitChar n)
    (bytes : List UInt8) :
    c ∉ hexEncode bytes := by
  intro member
  obtain ⟨n, small, equal⟩ := hexEncode_chars member
  exact foreign n small equal

theorem length_hexEncode (bytes : List UInt8) : (hexEncode bytes).length = 2 * bytes.length := by
  induction bytes with
  | nil => rfl
  | cons b bytes ih =>
    rw [hexEncode] at ih
    simp only [hexEncode, hexByte, List.flatMap_cons, List.length_append, List.length_cons,
      List.length_nil, ih]
    omega

/-! ### Base64 -/

def base64Char (n : Nat) : Char :=
  if n < 26 then Char.ofNat ('A'.toNat + n)
  else if n < 52 then Char.ofNat ('a'.toNat + (n - 26))
  else if n < 62 then Char.ofNat ('0'.toNat + (n - 52))
  else if n = 62 then '+'
  else '/'

def base64Value (c : Char) : Option Nat :=
  if 'A' ≤ c ∧ c ≤ 'Z' then some (c.toNat - 'A'.toNat)
  else if 'a' ≤ c ∧ c ≤ 'z' then some (c.toNat - 'a'.toNat + 26)
  else if '0' ≤ c ∧ c ≤ '9' then some (c.toNat - '0'.toNat + 52)
  else if c = '+' then some 62
  else if c = '/' then some 63
  else none

def base64Encode : List UInt8 → List Char
  | [] => []
  | [a] => [base64Char (a.toNat / 4), base64Char (a.toNat % 4 * 16), '=', '=']
  | [a, b] =>
    [base64Char (a.toNat / 4), base64Char (a.toNat % 4 * 16 + b.toNat / 16),
      base64Char (b.toNat % 16 * 4), '=']
  | a :: b :: c :: rest =>
    [base64Char (a.toNat / 4), base64Char (a.toNat % 4 * 16 + b.toNat / 16),
      base64Char (b.toNat % 16 * 4 + c.toNat / 64), base64Char (c.toNat % 64)] ++ base64Encode rest

/-- The last group when it carries padding; the bits under the padding must be zero. -/
def base64Tail (a b c : Char) : Option (List UInt8) := do
  let x ← base64Value a
  let y ← base64Value b
  if c = '=' then
    if y % 16 = 0 then some [UInt8.ofNat (x * 4 + y / 16)] else none
  else
    let z ← base64Value c
    if z % 4 = 0 then some [UInt8.ofNat (x * 4 + y / 16), UInt8.ofNat (y % 16 * 16 + z / 4)] else none

def base64Decode : List Char → Option (List UInt8)
  | [] => some []
  | a :: b :: c :: d :: rest =>
    if d = '=' ∧ rest = [] then base64Tail a b c
    else do
      let x ← base64Value a
      let y ← base64Value b
      let z ← base64Value c
      let w ← base64Value d
      let bytes ← base64Decode rest
      some (UInt8.ofNat (x * 4 + y / 16) :: UInt8.ofNat (y % 16 * 16 + z / 4) ::
        UInt8.ofNat (z % 4 * 64 + w) :: bytes)
  | _ => none

theorem base64Value_char : ∀ n < 64, base64Value (base64Char n) = some n := by decide

theorem base64Char_ne_pad : ∀ n < 64, base64Char n ≠ '=' := by decide

theorem base64Decode_encode (bytes : List UInt8) :
    base64Decode (base64Encode bytes) = some bytes := by
  fun_induction base64Encode bytes with
  | case1 => rfl
  | case2 a =>
    have small := a.toNat_lt
    have x := base64Value_char (a.toNat / 4) (by omega)
    have y := base64Value_char (a.toNat % 4 * 16) (by omega)
    have whole : a.toNat / 4 * 4 + a.toNat % 4 * 16 / 16 = a.toNat := by omega
    simp only [base64Decode, base64Tail, and_self, if_true, x, y, Option.bind_eq_bind,
      Option.bind_some, whole, UInt8.ofNat_toNat]
    rw [if_pos (by omega)]
  | case3 a b =>
    have smallA := a.toNat_lt
    have smallB := b.toNat_lt
    have x := base64Value_char (a.toNat / 4) (by omega)
    have y := base64Value_char (a.toNat % 4 * 16 + b.toNat / 16) (by omega)
    have z := base64Value_char (b.toNat % 16 * 4) (by omega)
    have unpadded := base64Char_ne_pad (b.toNat % 16 * 4) (by omega)
    have first : a.toNat / 4 * 4 + (a.toNat % 4 * 16 + b.toNat / 16) / 16 = a.toNat := by omega
    have second : (a.toNat % 4 * 16 + b.toNat / 16) % 16 * 16 + b.toNat % 16 * 4 / 4 =
        b.toNat := by omega
    simp only [base64Decode, base64Tail, and_self, if_true, x, y, z, if_neg unpadded,
      Option.bind_eq_bind, Option.bind_some, first, second, UInt8.ofNat_toNat]
    rw [if_pos (by omega)]
  | case4 a b c rest ih =>
    have smallA := a.toNat_lt
    have smallB := b.toNat_lt
    have smallC := c.toNat_lt
    have x := base64Value_char (a.toNat / 4) (by omega)
    have y := base64Value_char (a.toNat % 4 * 16 + b.toNat / 16) (by omega)
    have z := base64Value_char (b.toNat % 16 * 4 + c.toNat / 64) (by omega)
    have w := base64Value_char (c.toNat % 64) (by omega)
    have unpadded := base64Char_ne_pad (c.toNat % 64) (by omega)
    have first : a.toNat / 4 * 4 + (a.toNat % 4 * 16 + b.toNat / 16) / 16 = a.toNat := by omega
    have second : (a.toNat % 4 * 16 + b.toNat / 16) % 16 * 16 + (b.toNat % 16 * 4 + c.toNat / 64) / 4 =
        b.toNat := by omega
    have third : (b.toNat % 16 * 4 + c.toNat / 64) % 4 * 64 + c.toNat % 64 = c.toNat := by omega
    simp only [List.cons_append, List.nil_append, base64Decode]
    rw [if_neg (by simp [unpadded])]
    simp only [x, y, z, w, ih, Option.bind_eq_bind, Option.bind_some, first, second, third,
      UInt8.ofNat_toNat]

theorem base64Value_sound {c : Char} {v : Nat} (read : base64Value c = some v) :
    v < 64 ∧ base64Char v = c := by
  have small : ∀ n < 128, ∀ v ∈ base64Value (Char.ofNat n), v < 64 ∧ base64Char v = Char.ofNat n := by
    decide
  have ascii : c.toNat < 128 := by
    unfold base64Value at read
    split_ifs at read with upper lower digit plus slash
    · exact Nat.lt_of_le_of_lt upper.2 (by decide)
    · exact Nat.lt_of_le_of_lt lower.2 (by decide)
    · exact Nat.lt_of_le_of_lt digit.2 (by decide)
    · rw [plus]
      decide
    · rw [slash]
      decide
  have fact := small c.toNat ascii v
  rw [Char.ofNat_toNat] at fact
  exact fact read

theorem base64Encode_tail {a b c : Char} {bytes : List UInt8} (read : base64Tail a b c = some bytes) :
    base64Encode bytes = [a, b, c, '='] := by
  simp only [base64Tail, Option.bind_eq_bind, Option.bind_eq_some_iff] at read
  obtain ⟨x, firstRead, y, secondRead, read⟩ := read
  obtain ⟨xSmall, rfl⟩ := base64Value_sound firstRead
  obtain ⟨ySmall, rfl⟩ := base64Value_sound secondRead
  have first : (UInt8.ofNat (x * 4 + y / 16)).toNat = x * 4 + y / 16 :=
    UInt8.toNat_ofNat_of_lt (show _ < 256 by omega)
  have front : (x * 4 + y / 16) / 4 = x := by omega
  by_cases pad : c = '='
  · rw [if_pos pad] at read
    by_cases zero : y % 16 = 0
    · rw [if_pos zero] at read
      have low : (x * 4 + y / 16) % 4 * 16 = y := by omega
      rw [← Option.some.inj read, base64Encode, first, front, low, pad]
    · rw [if_neg zero] at read
      cases read
  · rw [if_neg pad] at read
    obtain ⟨z, thirdRead, done⟩ := Option.bind_eq_some_iff.mp read
    obtain ⟨zSmall, rfl⟩ := base64Value_sound thirdRead
    by_cases zero : z % 4 = 0
    · rw [if_pos zero] at done
      have second : (UInt8.ofNat (y % 16 * 16 + z / 4)).toNat = y % 16 * 16 + z / 4 :=
        UInt8.toNat_ofNat_of_lt (show _ < 256 by omega)
      have middle : (x * 4 + y / 16) % 4 * 16 + (y % 16 * 16 + z / 4) / 16 = y := by omega
      have low : (y % 16 * 16 + z / 4) % 16 * 4 = z := by omega
      rw [← Option.some.inj done, base64Encode, first, second, front, middle, low]
    · rw [if_neg zero] at done
      cases done

/-- Bytes are decoded from one text only. -/
theorem base64Encode_decode {s : List Char} {bytes : List UInt8} (read : base64Decode s = some bytes) :
    base64Encode bytes = s := by
  fun_induction base64Decode s generalizing bytes with
  | case1 => rw [← Option.some.inj read, base64Encode]
  | case2 a b c d rest last =>
    rw [last.1, last.2]
    exact base64Encode_tail read
  | case3 a b c d rest more ih =>
    simp only [Option.bind_eq_bind, Option.bind_eq_some_iff] at read
    obtain ⟨x, firstRead, y, secondRead, z, thirdRead, w, fourthRead, later, inner, read⟩ := read
    obtain ⟨xSmall, rfl⟩ := base64Value_sound firstRead
    obtain ⟨ySmall, rfl⟩ := base64Value_sound secondRead
    obtain ⟨zSmall, rfl⟩ := base64Value_sound thirdRead
    obtain ⟨wSmall, rfl⟩ := base64Value_sound fourthRead
    have first : (UInt8.ofNat (x * 4 + y / 16)).toNat = x * 4 + y / 16 :=
      UInt8.toNat_ofNat_of_lt (show _ < 256 by omega)
    have second : (UInt8.ofNat (y % 16 * 16 + z / 4)).toNat = y % 16 * 16 + z / 4 :=
      UInt8.toNat_ofNat_of_lt (show _ < 256 by omega)
    have third : (UInt8.ofNat (z % 4 * 64 + w)).toNat = z % 4 * 64 + w :=
      UInt8.toNat_ofNat_of_lt (show _ < 256 by omega)
    have front : (x * 4 + y / 16) / 4 = x := by omega
    have upper : (x * 4 + y / 16) % 4 * 16 + (y % 16 * 16 + z / 4) / 16 = y := by omega
    have lower : (y % 16 * 16 + z / 4) % 16 * 4 + (z % 4 * 64 + w) / 64 = z := by omega
    have back : (z % 4 * 64 + w) % 64 = w := by omega
    rw [← Option.some.inj read, base64Encode, first, second, third, front, upper, lower, back, ih inner]
    rfl
  | case4 => cases read

theorem base64Encode_ne_nil {bytes : List UInt8} (nonempty : bytes ≠ []) :
    base64Encode bytes ≠ [] := by
  fun_cases base64Encode bytes with
  | case1 => exact absurd rfl nonempty
  | case2 a => exact List.cons_ne_nil _ _
  | case3 a b => exact List.cons_ne_nil _ _
  | case4 a b c rest => exact List.cons_ne_nil _ _

/-- Nothing may follow the padding. -/
theorem base64Decode_padded {bytes : List UInt8} (padded : bytes.length % 3 ≠ 0)
    {more : List Char} (follows : more ≠ []) :
    base64Decode (base64Encode bytes ++ more) = none := by
  have pad : base64Value '=' = none := by decide
  fun_induction base64Encode bytes with
  | case1 => exact absurd rfl padded
  | case2 a => simp [base64Decode, follows, pad]
  | case3 a b => simp [base64Decode, follows, pad]
  | case4 a b c rest ih =>
    have later := ih (by simp only [List.length_cons] at padded; omega)
    have behind : base64Encode rest ++ more ≠ [] := List.append_ne_nil_of_right_ne_nil _ follows
    rw [List.append_assoc]
    simp only [List.cons_append, List.nil_append, base64Decode]
    rw [if_neg (fun last => behind last.2), later]
    simp

/-- What holds of the alphabet and of the padding holds throughout encoded bytes. -/
theorem base64Encode_forall {p : Char → Bool} (letter : ∀ n < 64, p (base64Char n) = true)
    (pad : p '=' = true) (bytes : List UInt8) : ∀ c ∈ base64Encode bytes, p c = true := by
  fun_induction base64Encode bytes with
  | case1 => simp
  | case2 a =>
    have small := a.toNat_lt
    simp [pad, letter (a.toNat / 4) (by omega), letter (a.toNat % 4 * 16) (by omega)]
  | case3 a b =>
    have smallA := a.toNat_lt
    have smallB := b.toNat_lt
    simp [pad, letter (a.toNat / 4) (by omega), letter (a.toNat % 4 * 16 + b.toNat / 16) (by omega),
      letter (b.toNat % 16 * 4) (by omega)]
  | case4 a b c rest ih =>
    have smallA := a.toNat_lt
    have smallB := b.toNat_lt
    have smallC := c.toNat_lt
    intro x member
    rcases List.mem_append.mp member with group | later
    · simp only [List.mem_cons, List.not_mem_nil, or_false] at group
      rcases group with rfl | rfl | rfl | rfl
      · exact letter _ (by omega)
      · exact letter _ (by omega)
      · exact letter _ (by omega)
      · exact letter _ (by omega)
    · exact ih x later

def isBase64 (c : Char) : Bool := c.isAlphanum || c == '+' || c == '/' || c == '='

theorem base64Encode_chars (bytes : List UInt8) : ∀ c ∈ base64Encode bytes, isBase64 c = true :=
  base64Encode_forall (by decide) (by decide) bytes

theorem not_mem_base64Encode {c : Char} (foreign : isBase64 c = false) (bytes : List UInt8) :
    c ∉ base64Encode bytes := by
  intro member
  simp [base64Encode_chars bytes c member] at foreign

end GrokingClawId.Codec
