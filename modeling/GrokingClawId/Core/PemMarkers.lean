import GrokingClawId.Core.Panics
import GrokingClawId.Core.Pem
import GrokingClawId.Lib.Slices

/-!
# Markers of a key file

`decode_hybrid_private_key_pem` on every text. It searches for the first of each of four markers and
cuts from a BEGIN marker to the end of an END marker, in whatever order the two stand.
-/

namespace GrokingClawId.Core
open Text Codec

/-! ### Files as they are written -/

theorem decodeHybrid_reads_encoded (seed : Bytes 32) (mldsaSecret : List UInt8) :
    decodeHybridPrivateKeyPem (encodeHybridPrivateKeyPem seed mldsaSecret).toList =
      .ok (seed, mldsaSecret) :=
  decodeHybridPrivateKeyPem_encode seed mldsaSecret

/-! ### Files in any order -/

/-- `key` is decoded from the text between the first `first` and the first `last`, which follows
it. -/
def FromSection {K : Type} (first last pem : List Char) (decode : List Char → Except String K)
    (key : K) : Prop :=
  ∃ before body after, pem = before ++ (first ++ (body ++ last) ++ after) ∧
    find first pem = some before.length ∧
    find last pem = some (before.length + first.length + body.length) ∧
    decode (first ++ (body ++ last)) = .ok key

/-- No panic, and keys from their own sections. -/
def DecodesSections (pem : List Char) : Prop :=
  ¬ Panics (decodeHybridPrivateKeyPem pem) ∧
  ∀ edKey mldsaKey, decodeHybridPrivateKeyPem pem = .ok (edKey, mldsaKey) →
    FromSection edBegin.toList edEnd.toList pem decodePrivateKeyPem edKey ∧
    FromSection mldsaBegin.toList mldsaEnd.toList pem decodeMldsaPrivateKeyPem mldsaKey

def HoldsEdKey (pem : List Char) (edStart edStop : Nat) : Prop :=
  ∃ key, decodePrivateKeyPem ((pem.take (edStop + edEnd.length)).drop edStart) = .ok key

/-- One to four dashes of the END marker are cut out, which are not Base64. -/
def EndsInDashes (start stop : Nat) : Prop :=
  start < stop + mldsaEnd.length ∧ stop + mldsaEnd.length ≤ start + 4

/-- No cut ends before it starts; and where there is an Ed25519 key, the markers of the other
section do not overlap so that an empty key is read. -/
def MarkersInOrder (pem : List Char) : Prop :=
  ∀ edStart edStop, find edBegin.toList pem = some edStart → find edEnd.toList pem = some edStop →
    edStart ≤ edStop + edEnd.length ∧
    ∀ start stop, find mldsaBegin.toList pem = some start → find mldsaEnd.toList pem = some stop →
      start ≤ stop + mldsaEnd.length ∧
      (HoldsEdKey pem edStart edStop →
        start + mldsaBegin.length ≤ stop ∨ EndsInDashes start stop)

theorem slice_eq_ok {pem text : List Char} {start stop : Nat} :
    slice pem start stop = .ok text ↔ start ≤ stop ∧ (pem.take stop).drop start = text := by
  unfold slice
  by_cases order : stop < start
  · rw [if_pos order]
    exact ⟨fun same => (by cases same), fun fits => absurd fits.1 (Nat.not_le.mpr order)⟩
  · rw [if_neg order, Except.ok.injEq]
    exact ⟨fun same => ⟨Nat.le_of_not_lt order, same⟩, And.right⟩

theorem panics_slice {pem : List Char} {start stop : Nat} :
    Panics (slice pem start stop) ↔ stop < start := by
  rw [slice, panics_ite]
  simp

/-- The slices are those that are taken by byte offsets. -/
theorem slice_bytes {first last pem : List Char} {start stop i j : Nat}
    (opens : find first pem = some start) (closes : find last pem = some stop)
    (begins : findByte first pem = some i) (ends : findByte last pem = some j) :
    sliceBytes pem i (j + byteLen last) = (slice pem start (stop + last.length)).toOption := by
  rw [sliceBytes_find opens closes begins ends, slice]
  split <;> rfl

/-- The markers that the decoder finds, and the cuts that it takes the keys from. -/
theorem decodeHybrid_eq_ok {pem : List Char} {edKey : Bytes 32} {mldsaKey : List UInt8} :
    decodeHybridPrivateKeyPem pem = .ok (edKey, mldsaKey) ↔
      ∃ edStart edStop, find edBegin.toList pem = some edStart ∧
        find edEnd.toList pem = some edStop ∧
        edStart ≤ edStop + edEnd.length ∧
        ∃ start stop, find mldsaBegin.toList pem = some start ∧
          find mldsaEnd.toList pem = some stop ∧
          start ≤ stop + mldsaEnd.length ∧
          decodePrivateKeyPem ((pem.take (edStop + edEnd.length)).drop edStart) = .ok edKey ∧
          decodeMldsaPrivateKeyPem ((pem.take (stop + mldsaEnd.length)).drop start) =
            .ok mldsaKey := by
  simp only [decodeHybridPrivateKeyPem, bind_eq_ok, orFault_eq, orErr_eq, slice_eq_ok,
    Except.ok.injEq, Prod.mk.injEq]
  constructor
  · rintro ⟨edStart, edOpens, edStop, edCloses, _, ⟨edOrder, rfl⟩, start, opens, stop, closes, _,
      ⟨order, rfl⟩, _, edRead, _, read, rfl, rfl⟩
    exact ⟨edStart, edStop, edOpens, edCloses, edOrder, start, stop, opens, closes, order, edRead, read⟩
  · rintro ⟨edStart, edStop, edOpens, edCloses, edOrder, start, stop, opens, closes, order, edRead, read⟩
    exact ⟨edStart, edOpens, edStop, edCloses, _, ⟨edOrder, rfl⟩, start, opens, stop, closes, _,
      ⟨order, rfl⟩, _, edRead, _, read, rfl, rfl⟩

theorem panics_decodeHybrid {pem : List Char} :
    Panics (decodeHybridPrivateKeyPem pem) ↔
      ∃ edStart edStop, find edBegin.toList pem = some edStart ∧
        find edEnd.toList pem = some edStop ∧
        (edStop + edEnd.length < edStart ∨ edStart ≤ edStop + edEnd.length ∧
          ∃ start stop, find mldsaBegin.toList pem = some start ∧
            find mldsaEnd.toList pem = some stop ∧ stop + mldsaEnd.length < start) := by
  simp only [decodeHybridPrivateKeyPem, panics_bind, not_panics_orFault, not_panics_ok,
    panics_slice, orFault_eq, orErr_eq, slice_eq_ok, false_or, or_false, and_false, exists_false]
  constructor
  · rintro ⟨edStart, edOpens, edStop, edCloses, late | ⟨_, ⟨edOrder, _⟩, start, opens, stop, closes, late⟩⟩
    · exact ⟨edStart, edStop, edOpens, edCloses, .inl late⟩
    · exact ⟨edStart, edStop, edOpens, edCloses, .inr ⟨edOrder, start, stop, opens, closes, late⟩⟩
  · rintro ⟨edStart, edStop, edOpens, edCloses, late | ⟨edOrder, start, stop, opens, closes, late⟩⟩
    · exact ⟨edStart, edOpens, edStop, edCloses, .inl late⟩
    · exact ⟨edStart, edOpens, edStop, edCloses, .inr ⟨_, ⟨edOrder, rfl⟩, start, opens, stop, closes, late⟩⟩

/-! ### Where the cuts lead -/

section Cuts
variable {pem : List Char} {start stop : Nat}

theorem fromSection {K : Type} {first last : List Char} {decode : List Char → Except String K}
    {key : K} (opens : find first pem = some start) (closes : find last pem = some stop)
    (order : start + first.length ≤ stop)
    (decoded : decode ((pem.take (stop + last.length)).drop start) = .ok key) :
    FromSection first last pem decode key := by
  obtain ⟨_, starts⟩ := find_occurs opens
  obtain ⟨inside, ends⟩ := find_occurs closes
  have length : (pem.take start).length = start := List.length_take_of_le (by omega)
  have body : ((pem.take stop).drop (start + first.length)).length =
      stop - (start + first.length) := by
    rw [List.length_drop, List.length_take_of_le inside]
  refine ⟨pem.take start, (pem.take stop).drop (start + first.length), pem.drop (stop + last.length),
    ?_, ?_, ?_, ?_⟩
  · rw [← cut_after starts ends inside order, ← List.append_assoc,
      take_append_drop_take (by omega), List.take_append_drop]
  · rw [length, opens]
  · rw [length, body, closes]
    congr 1
    omega
  · rw [← cut_after starts ends inside order, decoded]

theorem FromSection.ordered {K : Type} {first last : List Char}
    {decode : List Char → Except String K} {key : K} (read : FromSection first last pem decode key)
    (opens : find first pem = some start) (closes : find last pem = some stop) :
    start + first.length ≤ stop := by
  obtain ⟨before, body, _, _, starts, ends, _⟩ := read
  rw [opens] at starts
  rw [closes] at ends
  rw [Option.some.inj starts, Option.some.inj ends]
  exact Nat.le_add_right _ _

/-- A cut that is not BEGIN, body and END holds no seed. -/
theorem edSection_ordered {key : Bytes 32} (opens : find edBegin.toList pem = some start)
    (closes : find edEnd.toList pem = some stop) (order : start ≤ stop + edEnd.length)
    (decoded : decodePrivateKeyPem ((pem.take (stop + edEnd.length)).drop start) = .ok key) :
    start + edBegin.length ≤ stop := by
  have across : ∀ k < 35, (decodePrivateKeyPem (edBegin.toList.take k ++ edEnd.toList)).toOption =
      none := by
    decide
  have within : ∀ k < 34, (decodePrivateKeyPem (edEnd.toList.drop k)).toOption = none := by decide
  obtain ⟨_, starts⟩ := find_occurs opens
  obtain ⟨inside, ends⟩ := find_occurs closes
  have size : edBegin.length = 35 ∧ edEnd.length = 33 := by decide
  by_contra overlap
  have missing : (decodePrivateKeyPem ((pem.take (stop + edEnd.length)).drop start)).toOption =
      none := by
    rw [← String.length_toList (s := edEnd)]
    rcases Nat.le_total start stop with early | late
    · rw [cut_across starts ends inside early (by rw [String.length_toList]; omega)]
      exact across _ (by omega)
    · rw [cut_inside ends inside late]
      exact within _ (by omega)
  rw [decoded] at missing
  cases missing

/-- Markers of the second section that overlap hold the empty key. -/
theorem mldsaSection_overlap (opens : find mldsaBegin.toList pem = some start)
    (closes : find mldsaEnd.toList pem = some stop) (order : start ≤ stop + mldsaEnd.length)
    (overlap : ¬ start + mldsaBegin.length ≤ stop)
    (solid : ¬ EndsInDashes start stop) :
    decodeMldsaPrivateKeyPem ((pem.take (stop + mldsaEnd.length)).drop start) = .ok [] := by
  have across : ∀ k < 37,
      decodeMldsaPrivateKeyPem (mldsaBegin.toList.take k ++ mldsaEnd.toList) = .ok [] := by decide
  have within : ∀ k < 36, (mldsaEnd.toList.drop k <+: mldsaBegin.toList ∨
      mldsaBegin.toList <+: mldsaEnd.toList.drop k) → ¬ (31 ≤ k ∧ k ≤ 34) →
      decodeMldsaPrivateKeyPem (mldsaEnd.toList.drop k) = .ok [] := by decide
  obtain ⟨_, starts⟩ := find_occurs opens
  obtain ⟨inside, ends⟩ := find_occurs closes
  have size : mldsaBegin.length = 37 ∧ mldsaEnd.length = 35 := by decide
  rw [EndsInDashes] at solid
  rw [← String.length_toList (s := mldsaEnd)]
  rcases Nat.le_total start stop with early | late
  · rw [cut_across starts ends inside early (by rw [String.length_toList]; omega)]
    exact across _ (by omega)
  · rw [cut_inside ends inside late]
    exact within _ (by omega) (occurrences_fit ends starts late) (by omega)

theorem mldsaSection_dashes (closes : find mldsaEnd.toList pem = some stop)
    (dashes : EndsInDashes start stop) :
    (decodeMldsaPrivateKeyPem ((pem.take (stop + mldsaEnd.length)).drop start)).toOption =
      none := by
  have within : ∀ k < 35, 31 ≤ k →
      (decodeMldsaPrivateKeyPem (mldsaEnd.toList.drop k)).toOption = none := by decide
  obtain ⟨inside, ends⟩ := find_occurs closes
  have size : mldsaEnd.length = 35 := by decide
  rw [EndsInDashes] at dashes
  rw [← String.length_toList (s := mldsaEnd), cut_inside ends inside (by omega)]
  exact within _ (by omega) (by omega)

end Cuts

/-! ### Exactly the texts that are decoded safely -/

theorem MarkersInOrder.decodes {pem : List Char} (ordered : MarkersInOrder pem) :
    DecodesSections pem := by
  constructor
  · rw [panics_decodeHybrid]
    rintro ⟨edStart, edStop, edOpens, edCloses, late | ⟨_, start, stop, opens, closes, late⟩⟩
    · exact Nat.not_lt.mpr (ordered edStart edStop edOpens edCloses).1 late
    · exact Nat.not_lt.mpr ((ordered edStart edStop edOpens edCloses).2 start stop opens closes).1 late
  · intro edKey mldsaKey decoded
    obtain ⟨edStart, edStop, edOpens, edCloses, edOrder, start, stop, opens, closes, _, edRead, read⟩ :=
      decodeHybrid_eq_ok.mp decoded
    have edSection := edSection_ordered edOpens edCloses edOrder edRead
    rw [← String.length_toList (s := edEnd)] at edRead
    rw [← String.length_toList (s := edBegin)] at edSection
    refine ⟨fromSection edOpens edCloses edSection edRead, ?_⟩
    rw [String.length_toList] at edRead
    rcases ((ordered edStart edStop edOpens edCloses).2 start stop opens closes).2 ⟨edKey, edRead⟩ with
      apart | dashes
    · rw [← String.length_toList (s := mldsaEnd)] at read
      rw [← String.length_toList (s := mldsaBegin)] at apart
      exact fromSection opens closes apart read
    · have missing := mldsaSection_dashes closes dashes
      rw [read] at missing
      cases missing

theorem DecodesSections.ordered {pem : List Char} (decodes : DecodesSections pem) :
    MarkersInOrder pem := by
  obtain ⟨safe, sections⟩ := decodes
  rw [panics_decodeHybrid] at safe
  intro edStart edStop edOpens edCloses
  have edOrder : edStart ≤ edStop + edEnd.length :=
    Nat.le_of_not_lt fun late => safe ⟨edStart, edStop, edOpens, edCloses, .inl late⟩
  refine ⟨edOrder, fun start stop opens closes => ?_⟩
  have order : start ≤ stop + mldsaEnd.length := Nat.le_of_not_lt fun late =>
    safe ⟨edStart, edStop, edOpens, edCloses, .inr ⟨edOrder, start, stop, opens, closes, late⟩⟩
  refine ⟨order, ?_⟩
  rintro ⟨edKey, edRead⟩
  by_contra bad
  rw [not_or] at bad
  have empty := mldsaSection_overlap opens closes order bad.1 bad.2
  obtain ⟨_, read⟩ := sections edKey [] (decodeHybrid_eq_ok.mpr
    ⟨edStart, edStop, edOpens, edCloses, edOrder, start, stop, opens, closes, order, edRead, empty⟩)
  have apart := read.ordered opens closes
  rw [String.length_toList] at apart
  exact bad.1 apart

theorem decodesSections_iff_inOrder (pem : List Char) : DecodesSections pem ↔ MarkersInOrder pem :=
  ⟨DecodesSections.ordered, MarkersInOrder.decodes⟩

/-- The END marker on the line before the BEGIN marker. -/
theorem not_decodesSections : ¬ ∀ pem, DecodesSections pem := by
  intro all
  obtain ⟨safe, _⟩ := all (edEnd.toList ++ '\n' :: edBegin.toList)
  exact safe ⟨"slice index starts after its end", by rfl⟩

end GrokingClawId.Core
