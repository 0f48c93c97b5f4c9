import GrokingClawId.Core.Revocation
import GrokingClawId.Lib.WriteOnce

/-!
# Revoking and reading back

`revocation.rs`: recording a revocation with one or two signatures, reading the entry of a card
and verifying it. A revocation is signed over the RFC 3339 text of its time, stored as that text
and verified over the text written again after it was read. Database errors other than the
primary key are left out.
-/

namespace GrokingClawId.Core
open Text

/-- `DateTime::parse_from_rfc3339`, in UTC. -/
class Rfc3339 extends Chrono where
  parseFromRfc3339 : String → Option DateTime

/-- `chrono` reads these times back from the text it writes, as it does up to the year 9999. -/
def Rfc3339.ReadsBack [Rfc3339] (times : List DateTime) : Prop :=
  ∀ t ∈ times, parseFromRfc3339 (Chrono.toRfc3339 t) = some t

@[reducible] def StandIn.rfc3339 : Rfc3339 where
  toChrono := StandIn.chrono
  parseFromRfc3339 text := parseInt DateTime.min DateTime.max text.toList

theorem StandIn.rfc3339_readsBack {times : List DateTime}
    (inside : ∀ t ∈ times, DateTime.min ≤ t ∧ t ≤ DateTime.max) :
    @Rfc3339.ReadsBack StandIn.rfc3339 times :=
  fun t member => parseInt_toString (inside t member).1 (inside t member).2

structure RevocationEntry where
  agentId : Uuid
  agentName : String
  reason : String
  revokedBy : String
  revokedAt : DateTime
  signature : String
  pqSignature : Option String
  deriving DecidableEq

/-- What a caller of `revoke_hybrid` passes, with the time its clock shows and what `OsRng`
delivers. -/
structure RevokeCall where
  agentId : Uuid
  agentName : String
  reason : String
  revokedBy : String
  signingKey : Bytes 32
  pqSecretKey : Option (List UInt8)
  now : DateTime
  signing : Nat

section Text
variable [Rfc3339]

def revocationPayload (agentId : Uuid) (reason : String) (revokedAt : DateTime) : String :=
  s!"REVOKE:{agentId.toText}:{reason}:{Chrono.toRfc3339 revokedAt}"

def RevocationEntry.payload (entry : RevocationEntry) : String :=
  revocationPayload entry.agentId entry.reason entry.revokedAt

def RevocationEntry.row (entry : RevocationEntry) : RevocationRow where
  agentId := entry.agentId.toText
  agentName := entry.agentName
  reason := entry.reason
  revokedBy := entry.revokedBy
  revokedAt := Chrono.toRfc3339 entry.revokedAt
  signature := entry.signature
  pqSignature := entry.pqSignature

/-- A result row. An id or a time that does not parse is replaced: by the nil id, and by the
current time. -/
def RevocationRow.toEntry (row : RevocationRow) (now : DateTime) : RevocationEntry where
  agentId := (Uuid.parseStr row.agentId).getD Uuid.nil
  agentName := row.agentName
  reason := row.reason
  revokedBy := row.revokedBy
  revokedAt := (Rfc3339.parseFromRfc3339 row.revokedAt).getD now
  signature := row.signature
  pqSignature := row.pqSignature

def getRevocation (db : RevocationDb) (agentId : Uuid) (now : DateTime) : Option RevocationEntry :=
  (db.find? fun row => decide (row.agentId = agentId.toText)).map fun row => row.toEntry now

/-- `ORDER BY revoked_at DESC`, on the texts. -/
def listRevocations (db : RevocationDb) (now : DateTime) : List RevocationEntry :=
  (db.mergeSort fun a b => decide (b.revokedAt ≤ a.revokedAt)).map fun row => row.toEntry now

theorem RevocationEntry.toEntry_row {entry : RevocationEntry}
    (readsBack : Rfc3339.ReadsBack [entry.revokedAt]) (now : DateTime) :
    entry.row.toEntry now = entry := by
  have time := readsBack entry.revokedAt List.mem_cons_self
  simp only [RevocationEntry.row, RevocationRow.toEntry, Uuid.parseStr_toText, time,
    Option.getD_some]

end Text

/-- `INSERT INTO revocations`, whose primary key is the agent id. -/
def insertRevocation (db : RevocationDb) (row : RevocationRow) : Except String RevocationDb :=
  if ∃ old ∈ db, old.agentId = row.agentId then .error "Failed to insert revocation entry"
  else .ok (db ++ [row])

section Revoke
variable [Ed25519] [MlDsa65] [Rfc3339]

/-- The signed entry; only the ML-DSA signature can fail. -/
def RevokeCall.entry (call : RevokeCall) : Except String RevocationEntry := do
  let payload := revocationPayload call.agentId call.reason call.now
  let signature := sign call.signingKey payload.toUTF8
  let pqSignature ← call.pqSecretKey.mapM fun pqKey => mldsaSign pqKey payload.toUTF8 call.signing
  .ok { agentId := call.agentId, agentName := call.agentName, reason := call.reason,
        revokedBy := call.revokedBy, revokedAt := call.now, signature, pqSignature }

/-- The registry after the call, and what the call returns. -/
def revokeHybrid (db : RevocationDb) (call : RevokeCall) :
    RevocationDb × Except String RevocationEntry :=
  if isRevoked db call.agentId then
    (db, .error s!"Agent {call.agentId.toText} is already revoked")
  else
    match call.entry with
    | .error e => (db, .error e)
    | .ok entry =>
      match insertRevocation db entry.row with
      | .error e => (db, .error e)
      | .ok db => (db, .ok entry)

/-- Without a post-quantum key. -/
def revoke (db : RevocationDb) (call : RevokeCall) : RevocationDb × Except String RevocationEntry :=
  revokeHybrid db { call with pqSecretKey := none }

def verifyRevocation (entry : RevocationEntry) (publicKeyB64 : String) : Except String Bool :=
  verify publicKeyB64 entry.payload.toUTF8 entry.signature

def verifyRevocationHybrid (entry : RevocationEntry) (ed25519PublicKeyB64 : String)
    (pqPublicKeyB64 : Option String) : Except String Bool := do
  let payload := entry.payload
  let edValid ← verify ed25519PublicKeyB64 payload.toUTF8 entry.signature
  if edValid then
    match entry.pqSignature, pqPublicKeyB64 with
    | some pqSig, some pqPub => mldsaVerify pqPub payload.toUTF8 pqSig
    | _, _ => .ok true
  else .ok false

/-- An entry is accepted when its Ed25519 signature verifies, and its ML-DSA signature where there is
one and a key for it. -/
theorem verifyRevocationHybrid_iff (entry : RevocationEntry) (edKey : String) (pqKey : Option String) :
    verifyRevocationHybrid entry edKey pqKey = .ok true ↔
      verify edKey entry.payload.toUTF8 entry.signature = .ok true ∧
        ∀ pqSig pqPub, entry.pqSignature = some pqSig → pqKey = some pqPub →
          mldsaVerify pqPub entry.payload.toUTF8 pqSig = .ok true := by
  unfold verifyRevocationHybrid
  constructor
  · intro accepted
    obtain ⟨edValid, checked, accepted⟩ := bind_ok accepted
    cases edValid with
    | false => cases accepted
    | true =>
      refine ⟨checked, fun pqSig pqPub stored known => ?_⟩
      rw [stored, known] at accepted
      exact accepted
  · rintro ⟨checked, pq⟩
    cases stored : entry.pqSignature with
    | none => simp only [checked, bind, Except.bind, if_true]
    | some pqSig =>
      cases known : pqKey with
      | none => simp only [checked, bind, Except.bind, if_true]
      | some pqPub => simp only [checked, pq pqSig pqPub stored known, bind, Except.bind, if_true]

/-- Calls made one after another on a new registry. -/
def registry (calls : List RevokeCall) : RevocationDb :=
  calls.foldl (fun db call => (revokeHybrid db call).1) []

/-! ### One call -/

/-- What a call tries to insert. -/
def RevokeCall.attempt (call : RevokeCall) : Option RevocationRow :=
  call.entry.toOption.map RevocationEntry.row

omit [Ed25519] [MlDsa65] [Rfc3339] in
theorem isRevoked_lookup (db : RevocationDb) (agentId : Uuid) :
    isRevoked db agentId = (WriteOnce.lookup RevocationRow.agentId db agentId.toText).isSome := by
  apply Bool.eq_iff_iff.mpr
  rw [isRevoked_iff, WriteOnce.lookup_isSome]
  rfl

theorem RevokeCall.entry_ok {call : RevokeCall} {entry : RevocationEntry}
    (signed : call.entry = .ok entry) :
    entry.agentId = call.agentId ∧ entry.revokedAt = call.now ∧
      entry.signature = sign call.signingKey entry.payload.toUTF8 ∧
      ∀ pqKey, call.pqSecretKey = some pqKey → ∃ pqSig, entry.pqSignature = some pqSig ∧
        mldsaSign pqKey entry.payload.toUTF8 call.signing = .ok pqSig := by
  unfold RevokeCall.entry at signed
  obtain ⟨pqSignature, pq, signed⟩ := bind_ok signed
  obtain rfl := Except.ok.inj signed
  refine ⟨rfl, rfl, rfl, ?_⟩
  intro pqKey used
  rw [used] at pq
  obtain ⟨pqSig, made, pq⟩ := bind_ok pq
  exact ⟨pqSig, (Except.ok.inj pq).symm, made⟩

theorem RevokeCall.row_agentId {call : RevokeCall} {entry : RevocationEntry}
    (signed : call.entry = .ok entry) : entry.row.agentId = call.agentId.toText := by
  rw [← (RevokeCall.entry_ok signed).1]
  rfl

theorem insertRevocation_new {db : RevocationDb} {call : RevokeCall} {entry : RevocationEntry}
    (new : isRevoked db call.agentId = false) (signed : call.entry = .ok entry) :
    insertRevocation db entry.row = .ok (db ++ [entry.row]) := by
  have free : ¬ ∃ old ∈ db, old.agentId = entry.row.agentId := by
    rw [RevokeCall.row_agentId signed, ← isRevoked_iff, new]
    exact Bool.false_ne_true
  unfold insertRevocation
  rw [if_neg free]

theorem revokeHybrid_ok {db : RevocationDb} {call : RevokeCall} {entry : RevocationEntry} :
    (revokeHybrid db call).2 = .ok entry ↔
      isRevoked db call.agentId = false ∧ call.entry = .ok entry := by
  unfold revokeHybrid
  cases revoked : isRevoked db call.agentId with
  | true => simp
  | false =>
    cases signed : call.entry with
    | error e => simp
    | ok made => simp [insertRevocation_new revoked signed]

theorem revokeHybrid_row {db : RevocationDb} {call : RevokeCall} {entry : RevocationEntry}
    (ok : (revokeHybrid db call).2 = .ok entry) : (revokeHybrid db call).1 = db ++ [entry.row] := by
  obtain ⟨new, signed⟩ := revokeHybrid_ok.mp ok
  simp [revokeHybrid, new, signed, insertRevocation_new new signed]

/-- A call writes its row when the id is new, and nothing otherwise. -/
theorem revokeHybrid_db (db : RevocationDb) (call : RevokeCall) :
    (revokeHybrid db call).1 = WriteOnce.attempt RevocationRow.agentId db call.attempt := by
  unfold revokeHybrid RevokeCall.attempt
  cases signed : call.entry with
  | error e => split <;> rfl
  | ok made =>
    have found := isRevoked_lookup db call.agentId
    show _ = WriteOnce.insert RevocationRow.agentId db made.row
    unfold WriteOnce.insert
    rw [RevokeCall.row_agentId signed]
    cases present : WriteOnce.lookup RevocationRow.agentId db call.agentId.toText with
    | some old =>
      rw [present] at found
      simp [found]
    | none =>
      rw [present] at found
      simp [found, insertRevocation_new found signed]

theorem revokeHybrid_again {db : RevocationDb} {call : RevokeCall}
    (revoked : isRevoked db call.agentId = true) :
    revokeHybrid db call = (db, .error s!"Agent {call.agentId.toText} is already revoked") := by
  unfold revokeHybrid
  rw [revoked, if_pos rfl]

theorem RevokeCall.entry_verifies (correct : Ed25519.Correct) {call : RevokeCall}
    {entry : RevocationEntry} (signed : call.entry = .ok entry) :
    verifyRevocation entry (encodePublicKey (Ed25519.verifyingKey call.signingKey)) = .ok true := by
  obtain ⟨-, -, signature, -⟩ := RevokeCall.entry_ok signed
  unfold verifyRevocation
  rw [signature]
  exact verify_sign correct call.signingKey _

theorem RevokeCall.entry_verifies_hybrid (correct : Ed25519.Correct) (mldsa : MlDsa65.Correct)
    {call : RevokeCall} {entry : RevocationEntry} (signed : call.entry = .ok entry) {rng : Nat}
    {pair : MlDsaKeyPair} (generated : generateMldsaKeypair rng = .ok pair)
    (used : call.pqSecretKey = some pair.secretKeyBytes) :
    entry.pqSignature ≠ none ∧
      verifyRevocationHybrid entry (encodePublicKey (Ed25519.verifyingKey call.signingKey))
        (some (encodeMldsaPublicKey pair.publicKeyBytes)) = .ok true := by
  obtain ⟨-, -, -, pq⟩ := RevokeCall.entry_ok signed
  obtain ⟨pqSig, stored, made⟩ := pq _ used
  obtain ⟨bytes, remade, verified⟩ := mldsaVerify_sign mldsa generated entry.payload.toUTF8 call.signing
  obtain rfl := Except.ok.inj (made.symm.trans remade)
  have ed := RevokeCall.entry_verifies correct signed
  unfold verifyRevocation at ed
  refine ⟨by simp [stored], ?_⟩
  simp only [verifyRevocationHybrid, ed, stored, verified, bind, Except.bind, if_true]

/-! ### Runs -/

theorem registry_run (calls : List RevokeCall) :
    registry calls = WriteOnce.run RevocationRow.agentId (calls.map RevokeCall.attempt) := by
  induction calls using List.reverseRecOn with
  | nil => rfl
  | append_singleton calls call ih =>
    rw [List.map_append, List.map_cons, List.map_nil, WriteOnce.run_snoc, ← ih, ← revokeHybrid_db]
    unfold registry
    rw [List.foldl_append]
    rfl

theorem lookup_registry (before rest : List RevokeCall) (k : String) :
    WriteOnce.lookup RevocationRow.agentId (registry (before ++ rest)) k =
      (WriteOnce.lookup RevocationRow.agentId (registry before) k).or
        (WriteOnce.lookup RevocationRow.agentId (rest.map RevokeCall.attempt).reduceOption k) := by
  rw [registry_run, registry_run, List.map_append, WriteOnce.lookup_run_append]

/-- What a successful call inserted is found from then on. -/
theorem lookup_revoked {before : List RevokeCall} {call : RevokeCall} {entry : RevocationEntry}
    (ok : (revokeHybrid (registry before) call).2 = .ok entry) (rest : List RevokeCall) :
    WriteOnce.lookup RevocationRow.agentId (registry (before ++ call :: rest)) call.agentId.toText =
      some entry.row := by
  obtain ⟨new, signed⟩ := revokeHybrid_ok.mp ok
  have key := RevokeCall.row_agentId signed
  rw [isRevoked_lookup, Option.isSome_eq_false_iff, Option.isNone_iff_eq_none] at new
  rw [lookup_registry, new, Option.none_or, List.map_cons]
  have written : call.attempt = some entry.row := by
    unfold RevokeCall.attempt
    rw [signed]
    rfl
  rw [written, List.reduceOption_cons_of_some]
  unfold WriteOnce.lookup
  rw [List.find?_cons_of_pos (by simp [key])]

omit [Ed25519] [MlDsa65] [Rfc3339] in
theorem Uuid.toText_inj {id id' : Uuid} (same : id.toText = id'.toText) : id = id' := by
  have parsed := congrArg Uuid.parseStr same
  rw [Uuid.parseStr_toText, Uuid.parseStr_toText] at parsed
  exact Option.some.inj parsed

/-- The calls that revoke an id: it was new, and the call returned its entry. -/
def Revokes (calls : List RevokeCall) (agentId : Uuid) : Prop :=
  ∃ before call rest entry, calls = before ++ call :: rest ∧ call.agentId = agentId ∧
    (revokeHybrid (registry before) call).2 = .ok entry

theorem isRevoked_registry (calls : List RevokeCall) (agentId : Uuid) :
    isRevoked (registry calls) agentId = true ↔ Revokes calls agentId := by
  constructor
  · induction calls using List.reverseRecOn with
    | nil => intro impossible; cases impossible
    | append_singleton calls last ih =>
      intro revoked
      cases already : isRevoked (registry calls) agentId with
      | true =>
        obtain ⟨before, call, rest, entry, rfl, same, ok⟩ := ih already
        exact ⟨before, call, rest ++ [last], entry, by simp, same, ok⟩
      | false =>
        -- the last call inserted the row
        have new := already
        rw [isRevoked_lookup, Option.isSome_eq_false_iff, Option.isNone_iff_eq_none] at new
        rw [isRevoked_lookup, lookup_registry, new, Option.none_or,
          WriteOnce.lookup_isSome] at revoked
        obtain ⟨row, tried, key⟩ := revoked
        obtain ⟨entry, signed, rfl⟩ : ∃ entry, last.entry = .ok entry ∧ entry.row = row := by
          have written : last.attempt = some row := by
            simpa [List.reduceOption_mem_iff, eq_comm] using tried
          unfold RevokeCall.attempt at written
          obtain ⟨entry, made, rfl⟩ := Option.map_eq_some_iff.mp written
          cases signed : last.entry with
          | error e =>
            rw [signed] at made
            cases made
          | ok found =>
            rw [signed] at made
            exact ⟨found, rfl, by rw [Option.some.inj made]⟩
        have same : last.agentId = agentId :=
          Uuid.toText_inj ((RevokeCall.row_agentId signed).symm.trans key)
        subst same
        exact ⟨calls, last, [], entry, rfl, rfl, revokeHybrid_ok.mpr ⟨already, signed⟩⟩
  · rintro ⟨before, call, rest, entry, rfl, rfl, ok⟩
    rw [isRevoked_lookup, lookup_revoked ok rest]
    rfl

/-- The registry has one row for each revoked id and no other rows. -/
structure OneRowEach (db : RevocationDb) : Prop where
  count : ∀ agentId, isRevoked db agentId = true →
    (db.map RevocationRow.agentId).count agentId.toText = 1
  named : ∀ row ∈ db, ∃ agentId, row.agentId = agentId.toText ∧ isRevoked db agentId = true

theorem registry_oneRowEach (calls : List RevokeCall) : OneRowEach (registry calls) := by
  constructor
  · intro agentId revoked
    obtain ⟨row, member, key⟩ := (isRevoked_iff _ agentId).mp revoked
    have distinct : ((registry calls).map RevocationRow.agentId).Nodup := by
      rw [registry_run]
      exact WriteOnce.run_keys RevocationRow.agentId _
    exact List.count_eq_one_of_mem distinct (key ▸ List.mem_map_of_mem member)
  · intro row member
    have tried := member
    rw [registry_run] at tried
    obtain ⟨call, _, attempt⟩ := List.mem_map.mp (WriteOnce.mem_run RevocationRow.agentId tried)
    obtain ⟨entry, _, rfl⟩ := Option.map_eq_some_iff.mp attempt
    exact ⟨entry.agentId, rfl, (isRevoked_iff _ _).mpr ⟨_, member, rfl⟩⟩

/-- What a successful call leaves behind is read back unchanged and verifies. -/
structure Kept (db : RevocationDb) (call : RevokeCall) (entry : RevocationEntry) : Prop where
  read : ∀ now, getRevocation db call.agentId now = some entry
  verified : verifyRevocation entry (encodePublicKey (Ed25519.verifyingKey call.signingKey)) = .ok true
  hybrid : ∀ rng pair, generateMldsaKeypair rng = .ok pair →
    call.pqSecretKey = some pair.secretKeyBytes → entry.pqSignature ≠ none ∧
      verifyRevocationHybrid entry (encodePublicKey (Ed25519.verifyingKey call.signingKey))
        (some (encodeMldsaPublicKey pair.publicKeyBytes)) = .ok true

/-- Over every run of calls: an id is revoked from its first successful call on, with one row, and
that row is read back as the entry the call returned. -/
theorem registry_keeps (correct : Ed25519.Correct) (mldsa : MlDsa65.Correct)
    (calls : List RevokeCall) (readsBack : Rfc3339.ReadsBack (calls.map RevokeCall.now)) :
    (∀ agentId, isRevoked (registry calls) agentId = true ↔ Revokes calls agentId) ∧
      OneRowEach (registry calls) ∧
      (∀ call, isRevoked (registry calls) call.agentId = true → revokeHybrid (registry calls) call =
        (registry calls, .error s!"Agent {call.agentId.toText} is already revoked")) ∧
      ∀ before call rest entry, calls = before ++ call :: rest →
        (revokeHybrid (registry before) call).2 = .ok entry → Kept (registry calls) call entry := by
  refine ⟨isRevoked_registry calls, registry_oneRowEach calls,
    fun _ revoked => revokeHybrid_again revoked, ?_⟩
  rintro before call rest entry rfl ok
  obtain ⟨_, signed⟩ := revokeHybrid_ok.mp ok
  refine ⟨?_, RevokeCall.entry_verifies correct signed, ?_⟩
  · intro now
    have time : Rfc3339.ReadsBack [entry.revokedAt] := by
      intro t member
      rw [List.mem_singleton.mp member, (RevokeCall.entry_ok signed).2.1]
      exact readsBack _ (List.mem_map_of_mem (by simp))
    show (WriteOnce.lookup RevocationRow.agentId _ call.agentId.toText).map _ = some entry
    rw [lookup_revoked ok rest, Option.map_some, RevocationEntry.toEntry_row time]
  · intro rng pair generated used
    exact RevokeCall.entry_verifies_hybrid correct mldsa signed generated used

end Revoke

section
open scoped StandIn

local instance : Rfc3339 := StandIn.rfc3339

def StandIn.revokeCall (reason : String) (pqSecretKey : Option (List UInt8)) (now : DateTime) :
    RevokeCall where
  agentId := Uuid.nil
  agentName := "scout"
  reason := reason
  revokedBy := "self"
  signingKey := StandIn.seed
  pqSecretKey := pqSecretKey
  now := now
  signing := 0

/-- Revoked with both keys, and then once more. -/
theorem registry_keeps_twice :
    let call := StandIn.revokeCall "key compromised" (some (List.replicate 4032 0)) 100
    let again := StandIn.revokeCall "by mistake" none 200
    ∃ entry, (revokeHybrid [] call).2 = .ok entry ∧ entry.reason = "key compromised" ∧
      getRevocation (registry [call, again]) Uuid.nil 300 = some entry ∧
      (revokeHybrid (registry [call]) again).1 = registry [call] := by
  intro call again
  have readsBack : Rfc3339.ReadsBack ([call, again].map RevokeCall.now) := by
    apply StandIn.rfc3339_readsBack
    intro t member
    simp only [List.map_cons, List.map_nil, List.mem_cons, List.not_mem_nil, or_false] at member
    rcases member with rfl | rfl <;> exact ⟨by decide, by decide⟩
  obtain ⟨entry, signed, reason⟩ : ∃ entry, call.entry = .ok entry ∧
      entry.reason = call.reason := by
    have generated : generateMldsaKeypair 0 =
        .ok ⟨List.replicate 1952 0, List.replicate 4032 0⟩ := rfl
    obtain ⟨bytes, made, -⟩ := mldsaVerify_sign StandIn.mlDsa65_correct generated
      (revocationPayload call.agentId call.reason call.now).toUTF8 call.signing
    have secret : call.pqSecretKey = some (List.replicate 4032 0) := rfl
    exact ⟨{ agentId := call.agentId, agentName := call.agentName, reason := call.reason
             revokedBy := call.revokedBy, revokedAt := call.now
             signature := sign call.signingKey
               (revocationPayload call.agentId call.reason call.now).toUTF8
             pqSignature := some (base64 bytes) },
      by simp only [RevokeCall.entry, secret, Option.mapM_some, made, bind, Except.bind]; rfl, rfl⟩
  have ok : (revokeHybrid (registry []) call).2 = .ok entry := revokeHybrid_ok.mpr ⟨rfl, signed⟩
  obtain ⟨-, -, -, kept⟩ :=
    registry_keeps StandIn.ed25519_correct StandIn.mlDsa65_correct [call, again] readsBack
  refine ⟨entry, ok, reason, (kept [] call [again] entry rfl ok).read 300, ?_⟩
  have revoked : isRevoked (registry [call]) again.agentId = true :=
    (isRevoked_registry [call] again.agentId).mpr ⟨[], call, [], entry, rfl, rfl, ok⟩
  rw [revokeHybrid_again revoked]

end

end GrokingClawId.Core
