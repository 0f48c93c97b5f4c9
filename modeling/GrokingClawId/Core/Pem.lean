import GrokingClawId.Core.Crypto

/-!
# Key files

The PEM-like texts of `crypto.rs`: one section for the Ed25519 seed and one for the ML-DSA-65
secret key, in a file of their own or one after the other. Markers are searched for as text, and
a slice whose end lies before its start panics.
-/

namespace GrokingClawId.Core
open Text Codec

def chunks (n : Nat) (s : List Char) : List (List Char) :=
  if s = [] ∨ n = 0 then [] else s.take n :: chunks n (s.drop n)
termination_by s.length
decreasing_by
  rename_i nonempty
  simp only [not_or] at nonempty
  have := List.length_pos_of_ne_nil nonempty.1
  simp only [List.length_drop]
  omega

theorem chunks_flatten {n : Nat} (positive : 0 < n) (s : List Char) : (chunks n s).flatten = s := by
  fun_induction chunks n s with
  | case1 s done => exact (done.resolve_right (by omega)).symm
  | case2 s more ih => rw [List.flatten_cons, ih, List.take_append_drop]

theorem chunks_plain {n : Nat} {s : List Char} {c : Char} (free : c ∉ s) :
    ∀ chunk ∈ chunks n s, c ∉ chunk := by
  intro chunk member present
  apply free
  rcases Nat.eq_zero_or_pos n with rfl | positive
  · rw [chunks] at member
    simp at member
  · rw [← chunks_flatten positive s]
    exact List.mem_flatten.mpr ⟨chunk, member, present⟩

/-! ### Sections -/

def edBegin : String := "-----BEGIN ED25519 PRIVATE KEY-----"

def edEnd : String := "-----END ED25519 PRIVATE KEY-----"

def mldsaBegin : String := "-----BEGIN ML-DSA-65 PRIVATE KEY-----"

def mldsaEnd : String := "-----END ML-DSA-65 PRIVATE KEY-----"

def encodePrivateKeyPem (key : Bytes 32) : String :=
  let b64 := base64 key.val
  s!"{edBegin}\n{b64}\n{edEnd}\n"

def decodeSection (pem : List Char) : Option (List UInt8) :=
  let b64 := ((lines pem).filter fun line => !"-----".toList.isPrefixOf line).flatten
  base64Decode (trim b64)

def decodePrivateKeyPem (pem : List Char) : Except String (Bytes 32) := do
  let bytes ← orErr (decodeSection pem) "Failed to decode private key from base64"
  orErr (tryInto 32 bytes) "Private key seed must be exactly 32 bytes"

def encodeMldsaPrivateKeyPem (keyBytes : List UInt8) : String :=
  let b64 := base64Encode keyBytes
  let body := String.ofList (['\n'].intercalate (chunks 64 b64))
  s!"{mldsaBegin}\n{body}\n{mldsaEnd}\n"

def decodeMldsaPrivateKeyPem (pem : List Char) : Except String (List UInt8) :=
  orErr (decodeSection pem) "Failed to decode ML-DSA-65 private key from base64"

def encodeHybridPrivateKeyPem (edKey : Bytes 32) (mldsaSecret : List UInt8) : String :=
  let edSection := encodePrivateKeyPem edKey
  let mldsaSection := encodeMldsaPrivateKeyPem mldsaSecret
  s!"{edSection}\n{mldsaSection}"

def slice (pem : List Char) (start stop : Nat) : Outcome (List Char) :=
  if stop < start then .error (.panic "slice index starts after its end")
    else .ok ((pem.take stop).drop start)

def decodeHybridPrivateKeyPem (pem : List Char) : Outcome (Bytes 32 × List UInt8) := do
  let edStart ← orFault (orErr (find edBegin.toList pem) "Missing Ed25519 section in hybrid PEM")
  let edStop ← orFault (orErr (find edEnd.toList pem) "Missing Ed25519 end marker")
  let edSection ← slice pem edStart (edStop + edEnd.length)
  let mldsaStart ← orFault (orErr (find mldsaBegin.toList pem) "Missing ML-DSA-65 section in hybrid PEM")
  let mldsaStop ← orFault (orErr (find mldsaEnd.toList pem) "Missing ML-DSA-65 end marker")
  let mldsaSection ← slice pem mldsaStart (mldsaStop + mldsaEnd.length)
  let edKey ← orFault (decodePrivateKeyPem edSection)
  let mldsaKey ← orFault (decodeMldsaPrivateKeyPem mldsaSection)
  .ok (edKey, mldsaKey)

/-! ### Round trips of one section -/

theorem base64_ascii {c : Char} (encoded : isBase64 c = true) : c.toNat < 128 := by
  simp only [isBase64, Bool.or_eq_true, beq_iff_eq] at encoded
  rcases encoded with ((alphanumeric | rfl) | rfl) | rfl
  · rcases Bool.or_eq_true_iff.mp alphanumeric with letter | digit
    · rcases Bool.or_eq_true_iff.mp letter with upper | lower
      · exact Nat.lt_of_le_of_lt (of_decide_eq_true upper).2 (by decide)
      · exact Nat.lt_of_le_of_lt (of_decide_eq_true (Bool.and_eq_true_iff.mp lower).2) (by decide)
    · exact Nat.lt_of_le_of_lt (of_decide_eq_true (Bool.and_eq_true_iff.mp digit).2) (by decide)
  · decide
  · decide
  · decide

theorem base64_not_whitespace {c : Char} (encoded : isBase64 c = true) :
    isWhitespace c = false := by
  have small : ∀ n < 128, isBase64 (Char.ofNat n) = true →
      isWhitespace (Char.ofNat n) = false := by decide
  have fact := small c.toNat (base64_ascii encoded)
  rw [Char.ofNat_toNat] at fact
  exact fact encoded

theorem lines_marker {marker : List Char} (plain : '\n' ∉ marker) (bare : '\r' ∉ marker)
    (rest : List Char) :
    lines (marker ++ '\n' :: rest) = marker :: lines rest := by
  rw [lines_cons plain, stripReturn_eq_self bare]

theorem lines_intercalate {parts : List (List Char)} (nonempty : parts ≠ [])
    (plain : ∀ part ∈ parts, '\n' ∉ part) (bare : ∀ part ∈ parts, '\r' ∉ part) (rest : List Char) :
    lines (['\n'].intercalate parts ++ '\n' :: rest) = parts ++ lines rest := by
  induction parts with
  | nil => exact absurd rfl nonempty
  | cons part parts ih =>
    have here := plain part List.mem_cons_self
    have clean := bare part List.mem_cons_self
    cases parts with
    | nil =>
      rw [List.intercalate_singleton]
      exact lines_marker here clean rest
    | cons next parts =>
      rw [List.intercalate_cons_cons, List.append_assoc, List.append_assoc, List.singleton_append,
        lines_marker here clean, ih (List.cons_ne_nil _ _) (fun p member =>
          plain p (List.mem_cons_of_mem _ member))
          (fun p member => bare p (List.mem_cons_of_mem _ member))]
      rfl

theorem filter_body {parts : List (List Char)} (free : ∀ part ∈ parts, '-' ∉ part) :
    (parts.filter fun line => !"-----".toList.isPrefixOf line) = parts := by
  apply List.filter_eq_self.mpr
  intro part member
  rw [Bool.not_eq_true', Bool.eq_false_iff, ne_eq, List.isPrefixOf_iff_prefix]
  intro marker
  exact free part member (marker.subset (by decide : '-' ∈ "-----".toList))

/-- Base64 text between two marker lines is decoded, however it is broken into lines. -/
theorem decodeSection_parts {first last : List Char} {parts : List (List Char)} {bytes : List UInt8}
    (firstPlain : '\n' ∉ first ∧ '\r' ∉ first) (firstMarker : "-----".toList <+: first)
    (lastMarker : "-----".toList <+: last) (nonempty : parts ≠ [])
    (text : parts.flatten = base64Encode bytes) {ending : List Char}
    (done : lines ending = [last]) :
    decodeSection (first ++ '\n' :: (['\n'].intercalate parts ++ '\n' :: ending)) = some bytes := by
  have free : ∀ {c : Char}, isBase64 c = false → ∀ part ∈ parts, c ∉ part := by
    intro c foreign part member present
    apply not_mem_base64Encode foreign bytes
    rw [← text]
    exact List.mem_flatten.mpr ⟨part, member, present⟩
  have kept := filter_body (free (c := '-') (by decide))
  have solid : ∀ c ∈ base64Encode bytes, isWhitespace c = false :=
    fun c member => base64_not_whitespace (base64Encode_chars bytes c member)
  rw [decodeSection, lines_marker firstPlain.1 firstPlain.2,
    lines_intercalate nonempty (free (by decide)) (free (by decide)), done]
  simp only [List.filter_cons, List.filter_append, kept, List.filter_nil,
    List.isPrefixOf_iff_prefix.mpr firstMarker, List.isPrefixOf_iff_prefix.mpr lastMarker, Bool.not_true,
    Bool.false_eq_true, if_false, List.append_nil, text]
  rw [trim, trimMatches_eq_self (trimmed_of_forall solid), base64Decode_encode]

theorem decodePrivateKeyPem_section (key : Bytes 32) {ending : List Char}
    (done : lines (edEnd.toList ++ ending) = [edEnd.toList]) :
    decodePrivateKeyPem (edBegin.toList ++ '\n' ::
      (base64Encode key.val ++ '\n' :: (edEnd.toList ++ ending))) =
      .ok key := by
  have body : decodeSection (edBegin.toList ++ '\n' ::
      (['\n'].intercalate [base64Encode key.val] ++ '\n' :: (edEnd.toList ++ ending))) = some key.val :=
    decodeSection_parts (by decide) (by decide) (by decide) (List.cons_ne_nil _ _) (by simp) done
  rw [List.intercalate_singleton] at body
  simp [decodePrivateKeyPem, body, bind, Except.bind]

theorem encodePrivateKeyPem_chars (key : Bytes 32) : (encodePrivateKeyPem key).toList =
    edBegin.toList ++ '\n' :: (base64Encode key.val ++ '\n' :: (edEnd.toList ++ ['\n'])) := by
  simp [encodePrivateKeyPem, base64, toString]

theorem decodePrivateKeyPem_encode (key : Bytes 32) :
    decodePrivateKeyPem (encodePrivateKeyPem key).toList = .ok key := by
  rw [encodePrivateKeyPem_chars, decodePrivateKeyPem_section key (by decide)]

theorem mldsaBody_parts (keyBytes : List UInt8) : ∃ parts : List (List Char), parts ≠ [] ∧
    parts.flatten = base64Encode keyBytes ∧
    ['\n'].intercalate (chunks 64 (base64Encode keyBytes)) = ['\n'].intercalate parts := by
  have whole := chunks_flatten (n := 64) (by decide) (base64Encode keyBytes)
  cases h : chunks 64 (base64Encode keyBytes) with
  | nil =>
    rw [h] at whole
    exact ⟨[[]], List.cons_ne_nil _ _, whole, rfl⟩
  | cons chunk rest => exact ⟨chunk :: rest, List.cons_ne_nil _ _, h ▸ whole, rfl⟩

theorem decodeMldsaPrivateKeyPem_section (keyBytes : List UInt8) {ending : List Char}
    (done : lines (mldsaEnd.toList ++ ending) = [mldsaEnd.toList]) :
    decodeMldsaPrivateKeyPem (mldsaBegin.toList ++ '\n' ::
      (['\n'].intercalate (chunks 64 (base64Encode keyBytes)) ++ '\n' :: (mldsaEnd.toList ++ ending))) =
      .ok keyBytes := by
  obtain ⟨parts, nonempty, text, same⟩ := mldsaBody_parts keyBytes
  rw [same, decodeMldsaPrivateKeyPem, decodeSection_parts (by decide) (by decide) (by decide)
    nonempty text done,
    orErr_some]

theorem decodeMldsaPrivateKeyPem_encode (keyBytes : List UInt8) :
    decodeMldsaPrivateKeyPem (encodeMldsaPrivateKeyPem keyBytes).toList = .ok keyBytes := by
  have text : (encodeMldsaPrivateKeyPem keyBytes).toList = mldsaBegin.toList ++ '\n' ::
      (['\n'].intercalate (chunks 64 (base64Encode keyBytes)) ++ '\n' :: (mldsaEnd.toList ++ ['\n'])) := by
    simp [encodeMldsaPrivateKeyPem, toString]
  rw [text, decodeMldsaPrivateKeyPem_section keyBytes (by decide)]

/-! ### Round trip of a hybrid file -/

theorem slice_append (before inside after : List Char) :
    slice (before ++ (inside ++ after)) before.length (before.length + inside.length) =
      .ok inside := by
  rw [slice, if_neg (by omega), List.take_length_add_append, List.drop_left, List.take_left]

theorem clear_marker {marker : List Char} (dash : marker.head? = some '-') {body : List Char}
    (free : '-' ∉ body) :
    Clear marker body := by
  obtain ⟨rest, rfl⟩ := List.head?_eq_some_iff.mp dash
  exact clear_of_not_mem free

theorem find_section {marker first body : List Char} (opening : Clear marker (first ++ ['\n']))
    (inside : Clear marker body) (closing : Clear marker ['\n']) (rest : List Char) :
    find marker (first ++ '\n' :: (body ++ '\n' :: rest)) =
      (find marker rest).map (· + (first.length + body.length + 2)) := by
  have split : first ++ '\n' :: (body ++ '\n' :: rest) =
      (first ++ ['\n']) ++ (body ++ (['\n'] ++ rest)) := by simp
  rw [split, find_clear opening, find_clear inside, find_clear closing, Option.map_map,
    Option.map_map]
  congr 1
  funext n
  simp only [Function.comp_apply, List.length_append, List.length_singleton]
  omega

theorem dash_not_mem_base64Encode (bytes : List UInt8) : '-' ∉ base64Encode bytes :=
  not_mem_base64Encode (by decide) bytes

theorem dash_not_mem_mldsaBody (keyBytes : List UInt8) :
    '-' ∉ ['\n'].intercalate (chunks 64 (base64Encode keyBytes)) := by
  intro member
  obtain ⟨chunk, present, inside⟩ := mem_of_mem_intercalate (by decide) member
  exact chunks_plain (dash_not_mem_base64Encode keyBytes) chunk present inside

def sectionText (first body last : List Char) : List Char := first ++ '\n' :: (body ++ '\n' :: last)

/-- A hybrid file: the two sections, an empty line between them. -/
def hybridText (edBody mldsaBody : List Char) : List Char :=
  sectionText edBegin.toList edBody edEnd.toList ++
    (['\n', '\n'] ++ (sectionText mldsaBegin.toList mldsaBody mldsaEnd.toList ++ ['\n']))

theorem hybridText_eq (edBody mldsaBody : List Char) : hybridText edBody mldsaBody =
    edBegin.toList ++ '\n' :: (edBody ++ '\n' :: (edEnd.toList ++ ['\n', '\n'] ++
      (mldsaBegin.toList ++ '\n' :: (mldsaBody ++ '\n' :: (mldsaEnd.toList ++ ['\n']))))) := by
  simp [hybridText, sectionText]

theorem length_sectionText (first body last : List Char) :
    (sectionText first body last).length = first.length + body.length + 2 + last.length := by
  simp only [sectionText, List.length_append, List.length_cons]
  omega

def mldsaStart (edBody : List Char) : Nat :=
  (sectionText edBegin.toList edBody edEnd.toList).length + 2

section Markers
variable {edBody mldsaBody : List Char} (edFree : '-' ∉ edBody) (mldsaFree : '-' ∉ mldsaBody)

theorem find_edBegin : find edBegin.toList (hybridText edBody mldsaBody) = some 0 := by
  rw [hybridText_eq]
  exact find_prefix _ _

include edFree

theorem find_edEnd :
    find edEnd.toList (hybridText edBody mldsaBody) =
      some (edBegin.toList.length + edBody.length + 2) := by
  rw [hybridText_eq, find_section (by decide) (clear_marker (by decide) edFree) (by decide),
    List.append_assoc, find_prefix, Option.map_some, Nat.zero_add]

theorem find_after_edEnd {marker : List Char} (dash : marker.head? = some '-')
    (opening : Clear marker (edBegin.toList ++ ['\n'])) (closing : Clear marker ['\n'])
    (between : Clear marker (edEnd.toList ++ ['\n', '\n'])) :
    find marker (hybridText edBody mldsaBody) =
      (find marker (mldsaBegin.toList ++ '\n' :: (mldsaBody ++ '\n' :: (mldsaEnd.toList ++ ['\n'])))).map
        (· + mldsaStart edBody) := by
  rw [hybridText_eq, find_section opening (clear_marker dash edFree) closing, find_clear between,
    Option.map_map]
  congr 1
  funext n
  simp only [Function.comp_apply, mldsaStart, length_sectionText, List.length_append,
    List.length_cons, List.length_nil]
  omega

theorem find_mldsaBegin : find mldsaBegin.toList (hybridText edBody mldsaBody) =
    some (mldsaStart edBody) := by
  rw [find_after_edEnd edFree (by decide) (by decide) (by decide) (by decide), find_prefix,
    Option.map_some, Nat.zero_add]

include mldsaFree

theorem find_mldsaEnd : find mldsaEnd.toList (hybridText edBody mldsaBody) =
    some (mldsaBegin.toList.length + mldsaBody.length + 2 + mldsaStart edBody) := by
  rw [find_after_edEnd edFree (by decide) (by decide) (by decide) (by decide),
    find_section (by decide) (clear_marker (by decide) mldsaFree) (by decide), find_prefix, Option.map_some,
    Option.map_some, Nat.zero_add]

end Markers

theorem decodeHybridPrivateKeyPem_encode (edKey : Bytes 32) (mldsaSecret : List UInt8) :
    decodeHybridPrivateKeyPem (encodeHybridPrivateKeyPem edKey mldsaSecret).toList =
      .ok (edKey, mldsaSecret) := by
  let edBody := base64Encode edKey.val
  let mldsaBody := ['\n'].intercalate (chunks 64 (base64Encode mldsaSecret))
  have edFree : '-' ∉ edBody := dash_not_mem_base64Encode edKey.val
  have mldsaFree : '-' ∉ mldsaBody := dash_not_mem_mldsaBody mldsaSecret
  have text : (encodeHybridPrivateKeyPem edKey mldsaSecret).toList =
      hybridText edBody mldsaBody := by
    simp [encodeHybridPrivateKeyPem, encodePrivateKeyPem, encodeMldsaPrivateKeyPem, hybridText,
      sectionText, base64, toString, edBody, mldsaBody]
  have edSlice : slice (hybridText edBody mldsaBody) 0 (edBegin.toList.length + edBody.length + 2 +
      edEnd.length) =
      .ok (sectionText edBegin.toList edBody edEnd.toList) := by
    have cut := slice_append [] (sectionText edBegin.toList edBody edEnd.toList)
      (['\n', '\n'] ++ (sectionText mldsaBegin.toList mldsaBody mldsaEnd.toList ++ ['\n']))
    rwa [List.length_nil, Nat.zero_add, List.nil_append, length_sectionText, String.length_toList] at cut
  have mldsaSlice : slice (hybridText edBody mldsaBody) (mldsaStart edBody)
      (mldsaBegin.toList.length + mldsaBody.length + 2 + mldsaStart edBody + mldsaEnd.length) =
      .ok (sectionText mldsaBegin.toList mldsaBody mldsaEnd.toList) := by
    have cut := slice_append (sectionText edBegin.toList edBody edEnd.toList ++ ['\n', '\n'])
      (sectionText mldsaBegin.toList mldsaBody mldsaEnd.toList) ['\n']
    have start : (sectionText edBegin.toList edBody edEnd.toList ++ ['\n', '\n']).length =
        mldsaStart edBody :=
      List.length_append
    have stop : mldsaStart edBody + (sectionText mldsaBegin.toList mldsaBody mldsaEnd.toList).length =
        mldsaBegin.toList.length + mldsaBody.length + 2 + mldsaStart edBody + mldsaEnd.length := by
      rw [length_sectionText, String.length_toList (s := mldsaEnd)]
      omega
    rwa [start, stop, List.append_assoc] at cut
  have edKeyRead : decodePrivateKeyPem (sectionText edBegin.toList edBody edEnd.toList) =
      .ok edKey := by
    have read := @decodePrivateKeyPem_section edKey [] (by decide)
    rwa [List.append_nil] at read
  have mldsaRead : decodeMldsaPrivateKeyPem (sectionText mldsaBegin.toList mldsaBody mldsaEnd.toList) =
      .ok mldsaSecret := by
    have read := @decodeMldsaPrivateKeyPem_section mldsaSecret [] (by decide)
    rwa [List.append_nil] at read
  rw [text, decodeHybridPrivateKeyPem, find_edBegin, find_edEnd edFree, find_mldsaBegin edFree,
    find_mldsaEnd edFree mldsaFree]
  simp only [orErr_some, orFault_ok, bind, Except.bind, edSlice, mldsaSlice, edKeyRead, mldsaRead]

/-! ### A decoder on the other kind of file -/

theorem decodeHybridPrivateKeyPem_ed25519 (key : Bytes 32) :
    decodeHybridPrivateKeyPem (encodePrivateKeyPem key).toList =
      .error (.error "Missing ML-DSA-65 section in hybrid PEM") := by
  have free : '-' ∉ base64Encode key.val := dash_not_mem_base64Encode key.val
  have whole : edBegin.toList ++ '\n' :: (base64Encode key.val ++ '\n' :: (edEnd.toList ++ ['\n'])) =
      sectionText edBegin.toList (base64Encode key.val) edEnd.toList ++ ['\n'] := by
    simp [sectionText]
  have start : find edBegin.toList (encodePrivateKeyPem key).toList = some 0 := by
    rw [encodePrivateKeyPem_chars]
    exact find_prefix _ _
  have stop : find edEnd.toList (encodePrivateKeyPem key).toList =
      some (edBegin.toList.length + (base64Encode key.val).length + 2) := by
    rw [encodePrivateKeyPem_chars, find_section (by decide) (clear_marker (by decide) free) (by decide),
      find_prefix, Option.map_some, Nat.zero_add]
  have missing : find mldsaBegin.toList (encodePrivateKeyPem key).toList = none := by
    have none : find mldsaBegin.toList (edEnd.toList ++ ['\n']) = none := by decide
    rw [encodePrivateKeyPem_chars, find_section (by decide) (clear_marker (by decide) free) (by decide),
      none, Option.map_none]
  have cut : slice (encodePrivateKeyPem key).toList 0
      (edBegin.toList.length + (base64Encode key.val).length + 2 + edEnd.length) =
        .ok (sectionText edBegin.toList (base64Encode key.val) edEnd.toList) := by
    have cut := slice_append [] (sectionText edBegin.toList (base64Encode key.val) edEnd.toList) ['\n']
    rw [encodePrivateKeyPem_chars, whole]
    rwa [List.length_nil, Nat.zero_add, List.nil_append, length_sectionText, String.length_toList] at cut
  simp only [decodeHybridPrivateKeyPem, start, stop, missing, cut, orErr_some, orFault_ok, bind,
    Except.bind]
  rfl

/-- The Ed25519 decoder reads the two sections of a hybrid file as one text. -/
theorem decodePrivateKeyPem_hybrid (edKey : Bytes 32) {mldsaSecret : List UInt8}
    (present : mldsaSecret ≠ []) :
    decodePrivateKeyPem (encodeHybridPrivateKeyPem edKey mldsaSecret).toList =
      .error "Failed to decode private key from base64" := by
  obtain ⟨parts, nonempty, flat, same⟩ := mldsaBody_parts mldsaSecret
  have text : (encodeHybridPrivateKeyPem edKey mldsaSecret).toList =
      edBegin.toList ++ '\n' :: (base64Encode edKey.val ++ '\n' :: (edEnd.toList ++ '\n' ::
        ([] ++ '\n' :: (mldsaBegin.toList ++ '\n' ::
          (['\n'].intercalate parts ++ '\n' :: (mldsaEnd.toList ++ ['\n'])))))) := by
    simp [encodeHybridPrivateKeyPem, encodePrivateKeyPem, encodeMldsaPrivateKeyPem, base64, toString, same]
  have edFree : ∀ {c : Char}, isBase64 c = false → c ∉ base64Encode edKey.val :=
    fun foreign => not_mem_base64Encode foreign edKey.val
  have free : ∀ {c : Char}, isBase64 c = false → ∀ part ∈ parts, c ∉ part := by
    intro c foreign part member inside
    apply not_mem_base64Encode foreign mldsaSecret
    rw [← flat]
    exact List.mem_flatten.mpr ⟨part, member, inside⟩
  have kept := filter_body (free (c := '-') (by decide))
  have edDash : ∀ part ∈ [base64Encode edKey.val], '-' ∉ part :=
    fun part member => List.mem_singleton.mp member ▸ edFree (by decide)
  have edKept := filter_body edDash
  have read : lines (encodeHybridPrivateKeyPem edKey mldsaSecret).toList =
      [edBegin.toList] ++ [base64Encode edKey.val] ++ [edEnd.toList, [], mldsaBegin.toList] ++ parts ++
        [mldsaEnd.toList] := by
    rw [text, lines_marker (by decide) (by decide), lines_marker (edFree (by decide)) (edFree (by decide)),
      lines_marker (by decide) (by decide), lines_marker (by decide) (by decide),
      lines_marker (by decide) (by decide), lines_intercalate nonempty (free (by decide)) (free (by decide))]
    have last : lines (mldsaEnd.toList ++ ['\n']) = [mldsaEnd.toList] := by decide
    rw [last]
    simp
  have markers : [edBegin.toList].filter (fun line => !"-----".toList.isPrefixOf line) = [] ∧
      [edEnd.toList, [], mldsaBegin.toList].filter (fun line => !"-----".toList.isPrefixOf line) = [[]] ∧
      [mldsaEnd.toList].filter (fun line => !"-----".toList.isPrefixOf line) = [] := by decide
  have solid : ∀ c ∈ base64Encode edKey.val ++ base64Encode mldsaSecret, isWhitespace c = false := by
    intro c member
    rcases List.mem_append.mp member with ed | mldsa
    · exact base64_not_whitespace (base64Encode_chars _ c ed)
    · exact base64_not_whitespace (base64Encode_chars _ c mldsa)
  have joined : ((lines (encodeHybridPrivateKeyPem edKey mldsaSecret).toList).filter fun line =>
      !"-----".toList.isPrefixOf line).flatten = base64Encode edKey.val ++ base64Encode mldsaSecret := by
    rw [read]
    simp only [List.filter_append, markers, kept, edKept, List.flatten_append, List.flatten_nil,
      List.nil_append, List.append_nil, flat, List.flatten_cons]
  have padded : edKey.val.length % 3 ≠ 0 := by
    rw [edKey.property]
    decide
  have undecodable : decodeSection (encodeHybridPrivateKeyPem edKey mldsaSecret).toList = none := by
    rw [decodeSection, joined, trim, trimMatches_eq_self (trimmed_of_forall solid),
      base64Decode_padded padded (base64Encode_ne_nil present)]
  rw [decodePrivateKeyPem, undecodable]
  rfl

end GrokingClawId.Core
