import GrokingClawId.Core.Iota

/-!
# Attested transfers

`iota.rs`: beside the Ed25519 signature that goes to the node, a hybrid transfer makes an ML-DSA-65 signature
over the same digest and keeps it.
-/

namespace GrokingClawId.Core
open Codec

structure PqTransactionAttestation where
  txDigest : String
  mldsa65Signature : String
  mldsa65PublicKey : String
  attestedAt : String

section Attestations
variable [MlDsa65] [Blake2b]

/-- The digest in the text of an attestation. -/
def expectedDigest (txBytes : List UInt8) : String := String.ofList (hexEncode (computeTxDigest txBytes).val)

def createPqAttestation (mldsaSecretKey mldsaPublicKey txBytes : List UInt8)
    (attestedAt : String) (rng : Nat) :
    Except String PqTransactionAttestation := do
  let digest := computeTxDigest txBytes
  let mldsaSig ← mldsaSign mldsaSecretKey ⟨digest.val.toArray⟩ rng
  .ok { txDigest := expectedDigest txBytes, mldsa65Signature := mldsaSig,
        mldsa65PublicKey := base64 mldsaPublicKey,
        attestedAt }

def verifyPqAttestation (attestation : PqTransactionAttestation) (txBytes : List UInt8) :
    Except String Bool :=
  let digest := computeTxDigest txBytes
  if attestation.txDigest ≠ expectedDigest txBytes then .ok false
  else mldsaVerify attestation.mldsa65PublicKey ⟨digest.val.toArray⟩ attestation.mldsa65Signature

omit [MlDsa65] in
theorem expectedDigest_inj {txBytes txBytes' : List UInt8}
    (same : expectedDigest txBytes = expectedDigest txBytes') :
    computeTxDigest txBytes = computeTxDigest txBytes' :=
  Subtype.ext (hexEncode_inj (String.ofList_inj.mp same))

theorem createPqAttestation_ok {mldsaSecretKey mldsaPublicKey txBytes : List UInt8}
    {attestedAt : String} {rng : Nat}
    {attestation : PqTransactionAttestation}
    (created : createPqAttestation mldsaSecretKey mldsaPublicKey txBytes attestedAt rng = .ok attestation) :
    ∃ signature, mldsaSign mldsaSecretKey ⟨(computeTxDigest txBytes).val.toArray⟩ rng = .ok signature ∧
      attestation = ⟨expectedDigest txBytes, signature, base64 mldsaPublicKey, attestedAt⟩ := by
  obtain ⟨signature, signed, built⟩ := bind_ok created
  exact ⟨signature, signed, (Except.ok.inj built).symm⟩

/-- With the two halves of one key pair an attestation is always made, and it verifies for the transactions
with the digest of this one and for no others. -/
theorem attestation_verifies (correct : MlDsa65.Correct) {rng : Nat} {pair : MlDsaKeyPair}
    (generated : generateMldsaKeypair rng = .ok pair) (txBytes : List UInt8) (attestedAt : String)
    (rng' : Nat) :
    ∃ attestation,
      createPqAttestation pair.secretKeyBytes pair.publicKeyBytes txBytes attestedAt rng' = .ok attestation ∧
      ∀ txBytes', verifyPqAttestation attestation txBytes' =
        .ok (decide (computeTxDigest txBytes = computeTxDigest txBytes')) := by
  obtain ⟨bytes, signed, verified⟩ :=
    mldsaVerify_sign correct generated ⟨(computeTxDigest txBytes).val.toArray⟩ rng'
  refine ⟨⟨expectedDigest txBytes, base64 bytes, base64 pair.publicKeyBytes, attestedAt⟩, ?_, ?_⟩
  · rw [createPqAttestation, signed]
    rfl
  · intro txBytes'
    rw [verifyPqAttestation]
    by_cases same : computeTxDigest txBytes = computeTxDigest txBytes'
    · have text : expectedDigest txBytes = expectedDigest txBytes' :=
        by rw [expectedDigest, expectedDigest, same]
      rw [decide_eq_true same, if_neg (not_not_intro text), ← same]
      exact verified
    · rw [decide_eq_false same, if_pos fun text => same (expectedDigest_inj text)]

/-- Only the length of the secret key is checked: with another length of the public key the attestation that
is made verifies for no transaction. -/
theorem attestation_unverified {mldsaSecretKey mldsaPublicKey txBytes : List UInt8}
    {attestedAt : String} {rng : Nat}
    {attestation : PqTransactionAttestation} (short : mldsaPublicKey.length ≠ 1952)
    (created : createPqAttestation mldsaSecretKey mldsaPublicKey txBytes attestedAt rng = .ok attestation)
    (txBytes' : List UInt8) : verifyPqAttestation attestation txBytes' ≠ .ok true := by
  obtain ⟨signature, _, rfl⟩ := createPqAttestation_ok created
  intro verified
  rw [verifyPqAttestation] at verified
  by_cases same : expectedDigest txBytes = expectedDigest txBytes'
  · rw [if_neg (not_not_intro same)] at verified
    obtain ⟨pkBytes, decoded, verified⟩ := bind_ok verified
    rw [unbase64_base64] at decoded
    obtain rfl := Except.ok.inj decoded
    obtain ⟨_, _, verified⟩ := bind_ok verified
    obtain ⟨_, sized, _⟩ := bind_ok verified
    rw [tryInto, dif_neg short] at sized
    cases sized
  · rw [if_pos same] at verified
    cases verified

end Attestations

section Transfers
variable [Ed25519] [MlDsa65] [Blake2b]

def transferIotaPq (edSigningKey : Bytes 32) (mldsaSecretKey mldsaPublicKey : List UInt8)
    (sender recipient : String)
    (amount gasBudget : UInt64) (attestedAt : String) (rng : Nat) :
    IotaM (String × PqTransactionAttestation) := do
  let txBytes ← buildTransfer sender recipient amount gasBudget
  let edSignature := signTransaction edSigningKey txBytes
  let pqAttestation ← IotaM.ofExcept
    (createPqAttestation mldsaSecretKey mldsaPublicKey txBytes attestedAt rng)
  let digest ← executeTransaction txBytes edSignature
  pure (digest, pqAttestation)

/-- The request that `executeTransaction` sends. -/
def executeRequest (txBytes : List UInt8) (signature : String) : Json :=
  rpcRequest "iota_executeTransactionBlock"
    [.str (base64 txBytes), .arr [.str signature], .obj [("showEffects", .bool true)],
      .str "WaitForLocalExecution"]

omit [Ed25519] [MlDsa65] [Blake2b] in
theorem IotaM.ofExcept_bind {α β : Type} (a : α) (f : α → IotaM β) : IotaM.ofExcept (.ok a) >>= f = f a := rfl

omit [Ed25519] [MlDsa65] [Blake2b] in
theorem IotaM.bind_pure_run {α β : Type} (m : IotaM α) (f : α → β) (node : IotaNode) :
    (m >>= fun a => pure (f a)) node = ((m node).1, (m node).2.map f) := by
  rw [IotaM.bind_run]
  rcases m node with ⟨sent, e | a⟩
  · rfl
  · exact Prod.ext (List.append_nil sent) rfl

omit [Ed25519] [MlDsa65] [Blake2b] in
theorem rpcCall_sent (method : String) (params : List Json) (failed missing : String) (node : IotaNode) :
    (rpcCall method params failed missing node).1 = [rpcRequest method params] := by
  unfold rpcCall
  rw [IotaM.bind_run, IotaM.send]
  rcases node (rpcRequest method params) with _ | body
  · rfl
  · show [rpcRequest method params] ++ _ = _
    cases body.error <;> rfl

omit [Ed25519] [MlDsa65] [Blake2b] in
theorem executeTransaction_sent (txBytes : List UInt8) (signature : String) (node : IotaNode) :
    (executeTransaction txBytes signature node).1 = [executeRequest txBytes signature] := by
  unfold executeTransaction
  rw [IotaM.bind_run]
  have sent := rpcCall_sent "iota_executeTransactionBlock"
    [.str (base64 txBytes), .arr [.str signature], .obj [("showEffects", .bool true)],
      .str "WaitForLocalExecution"]
    "Transaction execution failed" "No execution result" node
  split
  · rename_i called
    rw [called] at sent
    exact sent
  · rename_i called
    rw [called] at sent
    exact (List.append_nil _).trans sent

omit [Ed25519] [MlDsa65] [Blake2b] in
theorem told_attestation {result : Except String String} {made attestation : PqTransactionAttestation}
    {digest : String}
    (told : (result.map fun digest => (digest, made)) = .ok (digest, attestation)) : made = attestation := by
  cases result with
  | error e => cases told
  | ok d => exact (Prod.mk.inj (Except.ok.inj told)).2

omit [Ed25519] [MlDsa65] [Blake2b] in
theorem map_told (result : Except String String) (made : PqTransactionAttestation) :
    (result.map fun digest => (digest, made)).map Prod.fst = result := by
  cases result <;> rfl

omit [Ed25519] [MlDsa65] [Blake2b] in
theorem map_fst_ok {result : Except String (String × PqTransactionAttestation)} {digest : String}
    (told : result.map Prod.fst = .ok digest) : ∃ attestation, result = .ok (digest, attestation) := by
  cases result with
  | error e => cases told
  | ok pair => exact ⟨pair.2, by rw [← Except.ok.inj told]⟩

section
variable {edKey : Bytes 32} {mldsaSecretKey mldsaPublicKey : List UInt8} {sender recipient : String}
  {amount gasBudget : UInt64} {attestedAt : String} {rng : Nat} {node : IotaNode} {sent : List Json}

omit [MlDsa65] in
theorem transferIota_built {txBytes : List UInt8}
    (built : buildTransfer sender recipient amount gasBudget node = (sent, .ok txBytes)) :
    transferIota edKey sender recipient amount gasBudget node =
      (sent ++ [executeRequest txBytes (signTransaction edKey txBytes)],
        (executeTransaction txBytes (signTransaction edKey txBytes) node).2) := by
  unfold transferIota
  rw [IotaM.bind_run, built]
  simp only [executeTransaction_sent]

omit [MlDsa65] in
theorem transferIota_unbuilt {e : String}
    (unbuilt : buildTransfer sender recipient amount gasBudget node = (sent, .error e)) :
    transferIota edKey sender recipient amount gasBudget node = (sent, .error e) := by
  unfold transferIota
  rw [IotaM.bind_run, unbuilt]

theorem transferIotaPq_unbuilt {e : String}
    (unbuilt : buildTransfer sender recipient amount gasBudget node = (sent, .error e)) :
    transferIotaPq edKey mldsaSecretKey mldsaPublicKey sender recipient amount gasBudget attestedAt rng node =
      (sent, .error e) := by
  unfold transferIotaPq
  rw [IotaM.bind_run, unbuilt]

theorem transferIotaPq_refused {txBytes : List UInt8} {e : String}
    (built : buildTransfer sender recipient amount gasBudget node = (sent, .ok txBytes))
    (refused : createPqAttestation mldsaSecretKey mldsaPublicKey txBytes attestedAt rng = .error e) :
    transferIotaPq edKey mldsaSecretKey mldsaPublicKey sender recipient amount gasBudget attestedAt rng node =
      (sent, .error e) := by
  unfold transferIotaPq
  rw [IotaM.bind_run, built]
  simp only [refused]
  exact Prod.ext (List.append_nil sent) rfl

theorem transferIotaPq_attested {txBytes : List UInt8} {attestation : PqTransactionAttestation}
    (built : buildTransfer sender recipient amount gasBudget node = (sent, .ok txBytes))
    (created : createPqAttestation mldsaSecretKey mldsaPublicKey txBytes attestedAt rng = .ok attestation) :
    transferIotaPq edKey mldsaSecretKey mldsaPublicKey sender recipient amount gasBudget attestedAt rng node =
      ((transferIota edKey sender recipient amount gasBudget node).1,
        (transferIota edKey sender recipient amount gasBudget node).2.map fun digest =>
          (digest, attestation)) := by
  rw [transferIota_built built]
  unfold transferIotaPq
  rw [IotaM.bind_run, built]
  simp only [created, IotaM.ofExcept_bind, IotaM.bind_pure_run, executeTransaction_sent]

/-- A transfer that fails before its attestation is made sends nothing to be executed; after that it goes
as the plain one does. -/
theorem transferIotaPq_cases {attested : List Json × Except String (String × PqTransactionAttestation)}
    (ran : transferIotaPq edKey mldsaSecretKey mldsaPublicKey sender recipient amount gasBudget attestedAt rng
      node = attested) :
    (attested.1 = (buildTransfer sender recipient amount gasBudget node).1 ∧ ∃ e, attested.2 = .error e) ∨
      ∃ txBytes attestation, (buildTransfer sender recipient amount gasBudget node).2 = .ok txBytes ∧
        createPqAttestation mldsaSecretKey mldsaPublicKey txBytes attestedAt rng = .ok attestation ∧
        attested.1 = (buildTransfer sender recipient amount gasBudget node).1 ++
          [executeRequest txBytes (signTransaction edKey txBytes)] ∧
        attested.2 = (transferIota edKey sender recipient amount gasBudget node).2.map fun digest =>
          (digest, attestation) := by
  subst ran
  rcases built : buildTransfer sender recipient amount gasBudget node with ⟨sent, e | txBytes⟩
  · refine .inl ?_
    rw [transferIotaPq_unbuilt built]
    exact ⟨rfl, e, rfl⟩
  · cases created : createPqAttestation mldsaSecretKey mldsaPublicKey txBytes attestedAt rng with
    | error e =>
      refine .inl ?_
      rw [transferIotaPq_refused built created]
      exact ⟨rfl, e, rfl⟩
    | ok attestation =>
      refine .inr ⟨txBytes, attestation, rfl, created, ?_⟩
      rw [transferIotaPq_attested built created, transferIota_built built]
      exact ⟨rfl, rfl⟩

/-- The attestation that a transfer returns is of the transaction that was sent last, to be executed. -/
theorem transferIotaPq_made {digest : String} {attestation : PqTransactionAttestation}
    (done : (transferIotaPq edKey mldsaSecretKey mldsaPublicKey sender recipient amount gasBudget
      attestedAt rng
      node).2 = .ok (digest, attestation)) :
    ∃ txBytes, createPqAttestation mldsaSecretKey mldsaPublicKey txBytes attestedAt rng = .ok attestation ∧
      (transferIotaPq edKey mldsaSecretKey mldsaPublicKey sender recipient amount gasBudget attestedAt rng
        node).1.getLast? = some (executeRequest txBytes (signTransaction edKey txBytes)) := by
  rcases transferIotaPq_cases rfl with
    ⟨_, e, failed⟩ | ⟨txBytes, made, _, created, requests, told⟩
  · rw [done] at failed
    cases failed
  · rw [told] at done
    rw [told_attestation done] at created
    refine ⟨txBytes, created, ?_⟩
    rw [requests]
    exact List.getLast?_concat

theorem transferIotaPq_verifies (correct : MlDsa65.Correct) {rng' : Nat} {pair : MlDsaKeyPair}
    (generated : generateMldsaKeypair rng' = .ok pair) {digest : String}
    {attestation : PqTransactionAttestation}
    (done : (transferIotaPq edKey pair.secretKeyBytes pair.publicKeyBytes sender recipient amount
      gasBudget attestedAt
      rng node).2 = .ok (digest, attestation)) :
    ∃ txBytes, (transferIotaPq edKey pair.secretKeyBytes pair.publicKeyBytes sender recipient amount gasBudget
        attestedAt rng node).1.getLast? = some (executeRequest txBytes (signTransaction edKey txBytes)) ∧
      ∀ txBytes', verifyPqAttestation attestation txBytes' =
        .ok (decide (computeTxDigest txBytes = computeTxDigest txBytes')) := by
  obtain ⟨txBytes, created, last⟩ := transferIotaPq_made done
  obtain ⟨made, created', verifies⟩ := attestation_verifies correct generated txBytes attestedAt rng
  rw [Except.ok.inj (created'.symm.trans created)] at verifies
  exact ⟨txBytes, last, verifies⟩

/-- A secret key that signs is all that the transfer needs to go as the plain one does. -/
theorem transferIotaPq_plain (correct : MlDsa65.Correct) {rng' : Nat} {pair : MlDsaKeyPair}
    (generated : generateMldsaKeypair rng' = .ok pair) :
    (transferIotaPq edKey pair.secretKeyBytes mldsaPublicKey sender recipient amount gasBudget
      attestedAt rng node).1 =
        (transferIota edKey sender recipient amount gasBudget node).1 ∧
      (transferIotaPq edKey pair.secretKeyBytes mldsaPublicKey sender recipient amount gasBudget
        attestedAt rng
        node).2.map Prod.fst = (transferIota edKey sender recipient amount gasBudget node).2 := by
  rcases built : buildTransfer sender recipient amount gasBudget node with ⟨sent, e | txBytes⟩
  · rw [transferIotaPq_unbuilt built, transferIota_unbuilt built]
    exact ⟨rfl, rfl⟩
  · obtain ⟨bytes, signed, _⟩ :=
      mldsaVerify_sign correct generated ⟨(computeTxDigest txBytes).val.toArray⟩ rng
    obtain ⟨made, created⟩ : ∃ made,
        createPqAttestation pair.secretKeyBytes mldsaPublicKey txBytes attestedAt rng = .ok made := by
      rw [createPqAttestation, signed]
      exact ⟨_, rfl⟩
    rw [transferIotaPq_attested built created, transferIota_built built]
    exact ⟨rfl, map_told _ made⟩

/-- With the halves of one key pair the hybrid transfer is the plain one with an attestation: the node
gets the same requests and the caller the same digest or error, and the attestation verifies for exactly
the transactions with the digest of the executed one. -/
theorem transferIotaPq_refines (correct : MlDsa65.Correct) {rng : Nat} {pair : MlDsaKeyPair}
    (generated : generateMldsaKeypair rng = .ok pair) (edKey : Bytes 32) (sender recipient : String)
    (amount gasBudget : UInt64) (attestedAt : String) (rng' : Nat) (node : IotaNode) :
    let plain := transferIota edKey sender recipient amount gasBudget node
    let attested := transferIotaPq edKey pair.secretKeyBytes pair.publicKeyBytes sender recipient
      amount gasBudget
      attestedAt rng' node
    attested.1 = plain.1 ∧ attested.2.map Prod.fst = plain.2 ∧
      ∀ digest attestation, attested.2 = .ok (digest, attestation) →
        ∃ txBytes, attested.1.getLast? = some (executeRequest txBytes (signTransaction edKey txBytes)) ∧
          ∀ txBytes', verifyPqAttestation attestation txBytes' =
            .ok (decide (computeTxDigest txBytes = computeTxDigest txBytes')) := by
  obtain ⟨same, told⟩ := transferIotaPq_plain correct generated
  exact ⟨same, told, fun digest attestation done => transferIotaPq_verifies correct generated done⟩

end
end Transfers

section
open scoped StandIn

/-- A node that answers every request with what a transfer looks for. -/
def StandIn.iotaNode : IotaNode := fun _ => .ok
  { result := some (.obj [("data", .arr [.obj [("coinObjectId", .str "coin")]]), ("txBytes", .str ""),
      ("digest", .str "digest")])
    error := none }

/-- A hybrid transfer that the node executes. -/
theorem StandIn.transferIotaPq_refines_executed : ∃ pair attestation txBytes,
    generateMldsaKeypair 0 = .ok pair ∧
    (transferIotaPq StandIn.seed pair.secretKeyBytes pair.publicKeyBytes "a" "b" 1 10000000 "now" 0
      StandIn.iotaNode).2 =
      .ok ("digest", attestation) ∧
    ∀ txBytes', verifyPqAttestation attestation txBytes' =
      .ok (decide (computeTxDigest txBytes = computeTxDigest txBytes')) := by
  obtain ⟨pair, generated⟩ := generateMldsaKeypair_ok StandIn.mlDsa65_correct 0
  obtain ⟨_, told, verifies⟩ :=
    transferIotaPq_refines StandIn.mlDsa65_correct generated StandIn.seed "a" "b" 1 10000000
    "now" 0 StandIn.iotaNode
  have plain : (transferIota StandIn.seed "a" "b" 1 10000000 StandIn.iotaNode).2 = .ok "digest" := rfl
  obtain ⟨attestation, done⟩ := map_fst_ok (told.trans plain)
  obtain ⟨txBytes, _, only⟩ := verifies "digest" attestation done
  exact ⟨pair, attestation, txBytes, generated, done, only⟩

end

section
variable [Ed25519] [MlDsa65] [Blake2b]

/-- The public key is not checked before the transfer: with any bytes in its place the node gets the
requests of the plain one, and when they are too few or too many the attestation verifies for no
transaction. -/
theorem transferIotaPq_unchecked (correct : MlDsa65.Correct) {rng : Nat} {pair : MlDsaKeyPair}
    (generated : generateMldsaKeypair rng = .ok pair) (edKey : Bytes 32) (mldsaPublicKey : List UInt8)
    (sender recipient : String) (amount gasBudget : UInt64) (attestedAt : String) (rng' : Nat)
    (node : IotaNode) :
    let plain := transferIota edKey sender recipient amount gasBudget node
    let attested := transferIotaPq edKey pair.secretKeyBytes mldsaPublicKey sender recipient amount gasBudget
      attestedAt rng' node
    attested.1 = plain.1 ∧ attested.2.map Prod.fst = plain.2 ∧
      (mldsaPublicKey.length ≠ 1952 → ∀ digest attestation, attested.2 = .ok (digest, attestation) →
        ∀ txBytes', verifyPqAttestation attestation txBytes' ≠ .ok true) := by
  obtain ⟨same, told⟩ := transferIotaPq_plain correct generated
  refine ⟨same, told, fun short digest attestation done => ?_⟩
  obtain ⟨txBytes, created, _⟩ := transferIotaPq_made done
  exact attestation_unverified short created

end

section
open scoped StandIn

/-- The public key of the card is empty. -/
theorem StandIn.transferIotaPq_unchecked_empty : ∃ pair attestation, generateMldsaKeypair 0 = .ok pair ∧
    (transferIotaPq StandIn.seed pair.secretKeyBytes [] "a" "b" 1 10000000 "now" 0 StandIn.iotaNode).2 =
      .ok ("digest", attestation) ∧
    ∀ txBytes, verifyPqAttestation attestation txBytes ≠ .ok true := by
  obtain ⟨pair, generated⟩ := generateMldsaKeypair_ok StandIn.mlDsa65_correct 0
  obtain ⟨_, told, unverified⟩ :=
    transferIotaPq_unchecked StandIn.mlDsa65_correct generated StandIn.seed [] "a" "b" 1
    10000000 "now" 0 StandIn.iotaNode
  have plain : (transferIota StandIn.seed "a" "b" 1 10000000 StandIn.iotaNode).2 = .ok "digest" := rfl
  obtain ⟨attestation, done⟩ := map_fst_ok (told.trans plain)
  exact ⟨pair, attestation, generated, done, unverified (by decide) "digest" attestation done⟩

end
end GrokingClawId.Core
