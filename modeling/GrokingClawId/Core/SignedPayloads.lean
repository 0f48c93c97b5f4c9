import GrokingClawId.Core.HttpSigBinds
import GrokingClawId.Core.WsMessage
import GrokingClawId.Core.RevocationRegistry
import GrokingClawId.Lib.Separated

/-!
# What a signed payload determines

The payload of a WebSocket message or the reason of a revocation stands before texts that hold the
separator a known number of times, so that the cut is found from the right end.
-/

namespace GrokingClawId.Core
open Text Separated

/-! ### WebSocket messages -/

theorem uint64_chars {n : UInt64} {c : Char} (member : c ∈ (toString n).toList) :
    c.isDigit = true :=
  digits_repr n.toNat c member

theorem uint64_text_inj {m n : UInt64} (same : (toString m).toList = (toString n).toList) :
    m = n := by
  have texts : m.toNat.repr.toList = n.toNat.repr.toList := same
  have parsed := congrArg parseDigits texts
  rw [parseDigits_repr, parseDigits_repr] at parsed
  exact UInt64.toNat_inj.mp (Option.some.inj parsed)

theorem signData_chars (payload : String) (seq : UInt64) (timestamp : Int64) :
    (signData payload seq timestamp).toList =
      payload.toList ++ '\n' :: ((toString seq).toList ++ '\n' :: (toString timestamp).toList) := by
  simp only [signData, String.toList_append, List.append_assoc]
  rfl

theorem seq_one_line (seq : UInt64) : '\n' ∉ (toString seq).toList :=
  fun member => absurd (uint64_chars member) (by decide)

theorem timestamp_one_line (timestamp : Int64) : '\n' ∉ (toString timestamp).toList :=
  fun member => absurd (SignatureParams.int64_plain _ member).2.2 (by decide)

theorem signData_tail_count (seq : UInt64) (timestamp : Int64) :
    ((toString seq).toList ++ '\n' :: (toString timestamp).toList).count '\n' = 1 := by
  rw [count_pair, List.count_eq_zero.mpr (seq_one_line seq),
    List.count_eq_zero.mpr (timestamp_one_line timestamp)]

theorem signData_eq_iff {payload payload' : String} {seq seq' : UInt64}
    {timestamp timestamp' : Int64} :
    signData payload seq timestamp = signData payload' seq' timestamp' ↔
      payload = payload' ∧ seq = seq' ∧ timestamp = timestamp' := by
  constructor
  · intro same
    have chars := congrArg String.toList same
    rw [signData_chars, signData_chars] at chars
    have counts := (signData_tail_count seq timestamp).trans (signData_tail_count seq' timestamp').symm
    obtain ⟨payloads, tails⟩ := cut_counted counts chars
    obtain ⟨seqs, timestamps⟩ := cut_first (seq_one_line seq) (seq_one_line seq') tails
    exact ⟨String.toList_inj.mp payloads, uint64_text_inj seqs, int64_text_inj timestamps⟩
  · rintro ⟨rfl, rfl, rfl⟩
    rfl

/-! ### Revocations -/

/-- An RFC 3339 text in UTC: the date, the hours, the minutes, the seconds with their fraction, and
the offset. -/
def Rfc3339.Stamp (text : List Char) : Prop :=
  ∃ date hours minutes seconds : List Char, ':' ∉ date ∧ ':' ∉ hours ∧ ':' ∉ minutes ∧
    ':' ∉ seconds ∧
    text = date ++ 'T' :: (hours ++ ':' :: (minutes ++ ':' :: (seconds ++ "+00:00".toList)))

/-- `chrono` writes these times as RFC 3339 texts, and no two of them alike. -/
structure Rfc3339.Stamps [Rfc3339] (times : List DateTime) : Prop where
  stamp : ∀ t ∈ times, Stamp (Chrono.toRfc3339 t).toList
  lossless : ∀ t ∈ times, ∀ t' ∈ times, Chrono.toRfc3339 t = Chrono.toRfc3339 t' → t = t'

theorem Rfc3339.Stamp.count {text : List Char} (stamp : Stamp text) : text.count ':' = 3 := by
  obtain ⟨date, hours, minutes, seconds, inDate, inHours, inMinutes, inSeconds, rfl⟩ := stamp
  have none (s : List Char) (free : ':' ∉ s) : s.count ':' = 0 := List.count_eq_zero.mpr free
  have offset : "+00:00".toList.count ':' = 1 := by decide
  rw [List.count_append, List.count_cons_of_ne (by decide), count_pair, count_pair,
    List.count_append, none date inDate, none hours inHours, none minutes inMinutes,
    none seconds inSeconds, offset]

section Revocation
variable [Rfc3339]

theorem revocationPayload_chars (agentId : Uuid) (reason : String) (revokedAt : DateTime) :
    (revocationPayload agentId reason revokedAt).toList = "REVOKE:".toList ++
      (agentId.toText.toList ++ ':' :: (reason.toList ++ ':' :: (Chrono.toRfc3339 revokedAt).toList)) := by
  simp only [revocationPayload, String.toList_append, List.append_assoc]
  rfl

theorem revocationPayload_eq_iff {agentId agentId' : Uuid} {reason reason' : String}
    {revokedAt revokedAt' : DateTime} (stamps : Rfc3339.Stamps [revokedAt, revokedAt']) :
    revocationPayload agentId reason revokedAt = revocationPayload agentId' reason' revokedAt' ↔
      agentId = agentId' ∧ reason = reason' ∧ revokedAt = revokedAt' := by
  constructor
  · intro same
    have chars := congrArg String.toList same
    rw [revocationPayload_chars, revocationPayload_chars] at chars
    have plain (id : Uuid) : ':' ∉ id.toText.toList :=
      Uuid.not_mem_toText (by decide) (by decide) id
    obtain ⟨ids, rest⟩ := cut_first (plain agentId) (plain agentId') (List.append_cancel_left chars)
    have first : revokedAt ∈ [revokedAt, revokedAt'] := List.mem_cons_self
    have second : revokedAt' ∈ [revokedAt, revokedAt'] := List.mem_cons_of_mem _ List.mem_cons_self
    -- the reason may hold colons and whole stamps: the colons are counted from the right
    have counts := (stamps.stamp _ first).count.trans (stamps.stamp _ second).count.symm
    obtain ⟨reasons, times⟩ := cut_counted counts rest
    exact ⟨Uuid.toText_inj (String.toList_inj.mp ids), String.toList_inj.mp reasons,
      stamps.lossless _ first _ second (String.toList_inj.mp times)⟩
  · rintro ⟨rfl, rfl, rfl⟩
    rfl

end Revocation

/-! ### One signature -/

section Signature
variable [Ed25519]

/-- A signature that verifies over two texts was made over one. -/
theorem verify_same_text {text text' key signature : String}
    (binding : Ed25519.BindingKey key [text.toUTF8, text'.toUTF8])
    (first : verify key text.toUTF8 signature = .ok true)
    (second : verify key text'.toUTF8 signature = .ok true) : text = text' :=
  String.toByteArray_inj.mp (verify_binding binding List.mem_cons_self
    (List.mem_cons_of_mem _ List.mem_cons_self) first second)

/-- The signed texts determine what they are made of, and a signature that is accepted for two
messages or for two revocations under one key is accepted for the same. -/
theorem signed_payloads_unambiguous [MlDsa65] [Rfc3339] :
    (∀ payload payload' seq seq' timestamp timestamp',
      signData payload seq timestamp = signData payload' seq' timestamp' ↔
        payload = payload' ∧ seq = seq' ∧ timestamp = timestamp') ∧
    (∀ agentId agentId' reason reason' revokedAt revokedAt', Rfc3339.Stamps [revokedAt, revokedAt'] →
      (revocationPayload agentId reason revokedAt = revocationPayload agentId' reason' revokedAt' ↔
        agentId = agentId' ∧ reason = reason' ∧ revokedAt = revokedAt')) ∧
    (∀ (msg msg' : SignedWsMessage) edKey pqKey pqKey',
      Ed25519.BindingKey edKey [msg.data.toUTF8, msg'.data.toUTF8] → msg.signature = msg'.signature →
      verifyWsMessage msg edKey pqKey = .ok true → verifyWsMessage msg' edKey pqKey' = .ok true →
        msg.payload = msg'.payload ∧ msg.seq = msg'.seq ∧ msg.timestamp = msg'.timestamp) ∧
    ∀ (entry entry' : RevocationEntry) key,
      Ed25519.BindingKey key [entry.payload.toUTF8, entry'.payload.toUTF8] →
      Rfc3339.Stamps [entry.revokedAt, entry'.revokedAt] → entry.signature = entry'.signature →
      verifyRevocation entry key = .ok true → verifyRevocation entry' key = .ok true →
        entry.agentId = entry'.agentId ∧ entry.reason = entry'.reason ∧
          entry.revokedAt = entry'.revokedAt := by
  refine ⟨fun _ _ _ _ _ _ => signData_eq_iff, fun _ _ _ _ _ _ stamps => revocationPayload_eq_iff stamps,
    ?_, ?_⟩
  · intro msg msg' edKey pqKey pqKey' binding signature accepted accepted'
    obtain ⟨verified, -⟩ := (verifyWsMessage_iff msg edKey pqKey).mp accepted
    obtain ⟨verified', -⟩ := (verifyWsMessage_iff msg' edKey pqKey').mp accepted'
    rw [← signature] at verified'
    exact signData_eq_iff.mp (verify_same_text binding verified verified')
  · intro entry entry' key binding stamps signature accepted accepted'
    unfold verifyRevocation at accepted accepted'
    rw [← signature] at accepted'
    exact (revocationPayload_eq_iff stamps).mp (verify_same_text binding accepted accepted')

end Signature

/-! ### Tampering -/

namespace StandIn

/-- The first two nanoseconds. -/
@[reducible] def stamped : Rfc3339 where
  toChrono := { chrono with
    toRfc3339 := fun t =>
      if t = 0 then "1970-01-01T00:00:00+00:00" else "1970-01-01T00:00:00.000000001+00:00" }
  parseFromRfc3339 text :=
    if text = "1970-01-01T00:00:00+00:00" then some 0
    else if text = "1970-01-01T00:00:00.000000001+00:00" then some 1 else none

theorem stamp_midnight {fraction : List Char} (free : ':' ∉ fraction) :
    Rfc3339.Stamp ("1970-01-01T00:00:00".toList ++ (fraction ++ "+00:00".toList)) := by
  refine ⟨"1970-01-01".toList, "00".toList, "00".toList, "00".toList ++ fraction, by decide, by decide,
    by decide, ?_, by simp⟩
  rw [List.mem_append, not_or]
  exact ⟨by decide, free⟩

theorem stamped_stamps : @Rfc3339.Stamps stamped [0, 1] := by
  have texts : stamped.toRfc3339 0 ≠ stamped.toRfc3339 1 := by decide
  refine @Rfc3339.Stamps.mk stamped _ ?_ ?_
  · intro t member
    rcases List.mem_pair.mp member with rfl | rfl
    · exact stamp_midnight List.not_mem_nil
    · exact @stamp_midnight ".000000001".toList (by decide)
  · intro t member t' member' same
    rcases List.mem_pair.mp member with rfl | rfl <;> rcases List.mem_pair.mp member' with rfl | rfl
    · rfl
    · exact absurd same texts
    · exact absurd same.symm texts
    · rfl

/-- A message with the signature over another payload. -/
def wsMessage [Ed25519] (payload : String) : SignedWsMessage where
  payload := payload
  signature := sign seed (signData "pay" 7 0).toUTF8
  pqSignature := none
  keyid := "bot"
  timestamp := 0
  seq := 7

/-- A revocation with the signature over another reason and time. -/
def revocation [Ed25519] [Rfc3339] (reason : String) (revokedAt : DateTime) : RevocationEntry where
  agentId := Uuid.nil
  agentName := "scout"
  reason := reason
  revokedBy := "self"
  revokedAt := revokedAt
  signature := sign seed (revocationPayload Uuid.nil "lost" 0).toUTF8
  pqSignature := none

theorem wsMessage_accepted [Ed25519] [MlDsa65] (correct : Ed25519.Correct) :
    verifyWsMessage (wsMessage "pay") (encodePublicKey (Ed25519.verifyingKey seed)) none =
      .ok true := by
  refine (verifyWsMessage_iff _ _ _).mpr ⟨verify_sign correct seed _, ?_⟩
  intro pqSig pqPub stored
  cases stored

theorem revocation_accepted [Ed25519] [Rfc3339] (correct : Ed25519.Correct) :
    verifyRevocation (revocation "lost" 0) (encodePublicKey (Ed25519.verifyingKey seed)) =
      .ok true :=
  verify_sign correct seed _

end StandIn

/-- A message whose payload took in its sequence number, and a revocation whose reason took in its
time, are not accepted with the old signature. -/
theorem signed_payloads_unambiguous_tampered :
    (letI : Ed25519 := StandIn.marking (signData "pay" 7 0).toUTF8
     letI := StandIn.mlDsa65
     let key := encodePublicKey (Ed25519.verifyingKey StandIn.seed)
     verifyWsMessage (StandIn.wsMessage "pay") key none = .ok true ∧
       verifyWsMessage (StandIn.wsMessage "pay\n7") key none ≠ .ok true) ∧
    letI := StandIn.stamped
    letI := StandIn.marking (revocationPayload Uuid.nil "lost" 0).toUTF8
    let key := encodePublicKey (Ed25519.verifyingKey StandIn.seed)
    verifyRevocation (StandIn.revocation "lost" 0) key = .ok true ∧
      verifyRevocation (StandIn.revocation "lost:1970-01-01T00:00:00+00:00" 1) key ≠ .ok true := by
  constructor
  · let _ := StandIn.marking (signData "pay" 7 0).toUTF8
    let _ := StandIn.mlDsa65
    let _ := StandIn.stamped
    have accepted := StandIn.wsMessage_accepted (StandIn.marking_correct (signData "pay" 7 0).toUTF8)
    have binding (key : Bytes 32) :=
      StandIn.marking_binding (signData "pay" 7 0).toUTF8 (signData "pay\n7" 7 0).toUTF8 key
    refine ⟨accepted, fun tampered => ?_⟩
    obtain ⟨-, -, one, -⟩ := signed_payloads_unambiguous
    have same := one (StandIn.wsMessage "pay") (StandIn.wsMessage "pay\n7") _ none none
      (fun key _ => binding key) rfl
      accepted tampered
    exact absurd same.1 (by decide)
  · let _ := StandIn.stamped
    let lost := revocationPayload Uuid.nil "lost" 0
    let longer := revocationPayload Uuid.nil "lost:1970-01-01T00:00:00+00:00" 1
    let _ := StandIn.marking lost.toUTF8
    let _ := StandIn.mlDsa65
    have accepted := StandIn.revocation_accepted (StandIn.marking_correct lost.toUTF8)
    have binding (key : Bytes 32) := StandIn.marking_binding lost.toUTF8 longer.toUTF8 key
    refine ⟨accepted, fun tampered => ?_⟩
    obtain ⟨-, -, -, one⟩ := signed_payloads_unambiguous
    have same := one (StandIn.revocation "lost" 0)
      (StandIn.revocation "lost:1970-01-01T00:00:00+00:00" 1) _ (fun key _ => binding key)
      StandIn.stamped_stamps rfl
      accepted tampered
    exact absurd same.2.1 (by decide)

end GrokingClawId.Core
