import GrokingClawId.Core.Audit
import GrokingClawId.Core.Pem
import GrokingClawId.Core.PqAttestation
import GrokingClawId.Lib.LastWrite

/-!
# Sending from a wallet

`wallet.rs`: `wallet send` has a node build and execute a transfer, writes a receipt beside the card and puts
an entry into the audit log. A card or key file that cannot be read and the printed lines are left out.
-/

namespace GrokingClawId.Cli.Wallet
open GrokingClawId.Core Text

structure PqAttestation where
  txDigest : String
  mldsa65Signature : String
  mldsa65PublicKey : String
  attestedAt : String

structure WalletReceipt where
  txDigest : String
  sender : String
  recipient : String
  amountNanos : UInt64
  network : String
  agentId : String
  agentName : String
  cryptoScheme : CryptoScheme
  pqAttestation : Option PqAttestation
  timestamp : String

/-- How `fs::write` of the receipt ends. A `torn` file cannot be read. -/
inductive ReceiptWrite where
  | written | refused | torn
  deriving DecidableEq

structure Nodes where
  testnet : IotaNode
  devnet : IotaNode

/-- The two files and the arguments of one run, and what it meets: the clocks, the randomness of
ML-DSA-65, what the nodes answer this time, and whether the receipt and the entry can be written. `dir` is
the directory of the card. -/
structure Send where
  dir : String
  cardJson : String
  keyPem : String
  recipient : String
  amount : String
  network : String
  attestedAt : String
  timestamp : String
  auditTimestamp : Int
  rng : Nat
  nodes : Nodes
  receiptWrite : ReceiptWrite
  audited : Bool

/-- A text with a point in it as an `f64` of IOTA, in nanos: `None` when it is no number. -/
class Decimal where
  nanos : String → Option UInt64

def makeClient (nodes : Nodes) (network : String) : IotaNode :=
  if network = "devnet" then nodes.devnet else nodes.testnet

def parseAmount [Decimal] (amount : String) : Except String UInt64 :=
  if '.' ∈ amount.toList then orErr (Decimal.nanos amount) "Invalid IOTA amount"
  else (orErr (parseUnsigned 18446744073709551615 amount.toList) "Invalid amount in nanos").map UInt64.ofNat

structure Keys where
  edKey : Bytes 32
  mldsa : Option (List UInt8 × List UInt8)

def loadKeys (card : AgentCard) (keyPem : String) : Outcome Keys :=
  match card.cryptoScheme with
  | .ed25519 => do
    let ed ← orFault (decodePrivateKeyPem keyPem.toList)
    .ok ⟨ed, none⟩
  | .mlDsa65 => .error (.error ("ML-DSA-65 only identity cannot sign IOTA transactions. " ++
      "Use --crypto hybrid to get both Ed25519 (on-chain) and ML-DSA-65 (PQ attestation)."))
  | .hybrid => do
    let (ed, mldsaSk) ← decodeHybridPrivateKeyPem keyPem.toList
    let mldsaPk ← orFault (orErr card.pqPublicKey "Hybrid card missing pq_public_key")
    let pkBytes ← orFault (orErr (unbase64 mldsaPk) "Failed to decode ML-DSA-65 public key")
    .ok ⟨ed, some (mldsaSk, pkBytes)⟩

structure Prepared where
  card : AgentCard
  sender : String
  amountNanos : UInt64
  keys : Keys

/-- The receipt in each directory and the log of the user. -/
structure Records where
  receipts : String → Option WalletReceipt
  db : AuditDb

def PqAttestation.ofTransaction (a : PqTransactionAttestation) : PqAttestation :=
  ⟨a.txDigest, a.mldsa65Signature, a.mldsa65PublicKey, a.attestedAt⟩

namespace Send

def receipt (send : Send) (prepared : Prepared) (digest : String)
    (attestation : Option PqTransactionAttestation) : WalletReceipt where
  txDigest := digest
  sender := prepared.sender
  recipient := send.recipient
  amountNanos := prepared.amountNanos
  network := send.network
  agentId := prepared.card.id.toText
  agentName := prepared.card.name
  cryptoScheme := prepared.card.cryptoScheme
  pqAttestation := attestation.map PqAttestation.ofTransaction
  timestamp := send.timestamp

def auditCall (send : Send) (prepared : Prepared) (digest : String) : RecordCall where
  agentId := prepared.card.id
  action := "wallet_transfer"
  target := s!"transfer:{send.recipient}:{prepared.amountNanos}:{send.network}:{digest}"
  signingKey := prepared.keys.edKey
  timestamp := send.auditTimestamp

end Send

section Commands
variable [Ed25519] [Blake2b]

def deriveAddressFromCard (card : AgentCard) : Except String String := do
  let pubBytes ← orErr (unbase64 card.publicKey) "Failed to decode public key"
  let pubArray ← orErr (tryInto 32 pubBytes) "Public key must be 32 bytes"
  .ok (deriveIotaAddress pubArray)

namespace Send

/-- Everything before the node is asked. -/
def prepare [Decimal] [FromStr AgentCard] (send : Send) : Outcome Prepared := do
  let card ← orFault <|
    (FromStr.fromStr send.cardJson : Except String AgentCard).mapError fun _ => "Failed to parse card"
  let sender ← orFault (deriveAddressFromCard card)
  let amountNanos ← orFault (parseAmount send.amount)
  let keys ← loadKeys card send.keyPem
  .ok ⟨card, sender, amountNanos, keys⟩

variable [MlDsa65]

def transfer (send : Send) (prepared : Prepared) : IotaM (String × Option PqTransactionAttestation) :=
  let gasBudget := 10000000
  match prepared.keys.mldsa with
  | some (mldsaSk, mldsaPk) => do
    let (digest, attestation) ← transferIotaPq prepared.keys.edKey mldsaSk mldsaPk prepared.sender
      send.recipient prepared.amountNanos gasBudget send.attestedAt send.rng
    pure (digest, some attestation)
  | none => do
    let digest ← transferIota prepared.keys.edKey prepared.sender send.recipient prepared.amountNanos
      gasBudget
    pure (digest, none)

variable [Sha256] [Decimal] [FromStr AgentCard]

/-- The records after the run, what the node got and how the run ended. A log that cannot be opened or
written only costs the entry. -/
def execute (records : Records) (send : Send) : Records × List Json × Outcome Unit :=
  match send.prepare with
  | .error fault => (records, [], .error fault)
  | .ok prepared =>
    match send.transfer prepared (makeClient send.nodes send.network) with
    | (sent, .error e) => (records, sent, .error (.error e))
    | (sent, .ok (digest, attestation)) =>
      let receipt := send.receipt prepared digest attestation
      match send.receiptWrite with
      | .refused => (records, sent, .error (.error "Failed to write receipt"))
      | .torn =>
        ({ records with receipts := Function.update records.receipts send.dir none }, sent,
          .error (.error "Failed to write receipt"))
      | .written =>
        let records := { records with receipts := Function.update records.receipts send.dir (some receipt) }
        if send.audited then
          ({ records with db := (recordEntry records.db (send.auditCall prepared digest)).1 }, sent, .ok ())
        else (records, sent, .ok ())

def run (records : Records) (sends : List Send) : Records :=
  sends.foldl (fun records send => (send.execute records).1) records

/-! ### What a run leaves -/

/-- What the node executed for the run, as it told. -/
def executed (send : Send) : Option (Prepared × String × Option PqTransactionAttestation) :=
  match send.prepare with
  | .error _ => none
  | .ok prepared =>
    (send.transfer prepared (makeClient send.nodes send.network)).2.toOption.map fun told => (prepared, told)

/-- The entry of the run: it names the transaction and nothing of its attestation. -/
def recorded (send : Send) : Option RecordCall :=
  if send.receiptWrite = .written ∧ send.audited = true then
    send.executed.map fun (prepared, digest, _) => send.auditCall prepared digest
  else none

/-- What the run makes of the receipt in its directory. -/
def writes (send : Send) : Option (String × Option WalletReceipt) :=
  match send.receiptWrite with
  | .refused => none
  | .torn => send.executed.map fun _ => (send.dir, none)
  | .written => send.executed.map fun (prepared, digest, attestation) =>
      (send.dir, some (send.receipt prepared digest attestation))

theorem execute_records (records : Records) (send : Send) : (send.execute records).1 =
    { receipts := send.writes.elim records.receipts fun (dir, r) => Function.update records.receipts dir r
      db := send.recorded.elim records.db fun call => (recordEntry records.db call).1 } := by
  unfold execute writes recorded executed
  cases send.prepare with
  | error fault => cases send.receiptWrite <;> simp
  | ok prepared =>
    rcases called : send.transfer prepared (makeClient send.nodes send.network) with
      ⟨sent, e | ⟨digest, attestation⟩⟩
    · cases send.receiptWrite <;> simp [called, Except.toOption]
    · cases send.receiptWrite <;> cases send.audited <;> simp [called, Except.toOption]

theorem run_snoc (records : Records) (sends : List Send) (send : Send) :
    run records (sends ++ [send]) = (send.execute (run records sends)).1 := by
  rw [run, List.foldl_append]
  rfl

/-- Each directory has the receipt that was written there last. -/
theorem run_receipts (records : Records) (sends : List Send) (dir : String) (r : WalletReceipt) :
    (run records sends).receipts dir = some r ↔
      LastWrite.Stored writes (records.receipts dir) sends dir r := by
  refine LastWrite.lookup_iff (fun (records : Records) (send : Send) => (send.execute records).1)
    (fun records dir => records.receipts dir) ?_ ?_ records
  · intro send _ records dir w written
    rw [execute_records, written]
    exact Function.update_self ..
  · intro send _ records dir other
    rw [execute_records]
    cases written : send.writes with
    | none => rfl
    | some write =>
      exact Function.update_of_ne (fun same => other ⟨write.2, by rw [written, same]⟩) ..

/-- After any runs of `wallet send` the log has one entry more for each transfer whose receipt was written
and whose entry could be, in their order. Each directory has the receipt that was written there last: of
the attestations of the transfers before it nothing is left. -/
theorem run_keeps (receipts : String → Option WalletReceipt) (calls : List RecordCall)
    (sends : List Send) :
    (run ⟨receipts, recordAll calls⟩ sends).db = recordAll (calls ++ sends.filterMap recorded) ∧
    ∀ dir r, (run ⟨receipts, recordAll calls⟩ sends).receipts dir = some r ↔
      LastWrite.Stored writes (receipts dir) sends dir r := by
  constructor
  · induction sends using List.reverseRecOn with
    | nil => rw [List.filterMap_nil, List.append_nil]; rfl
    | append_singleton sends send ih =>
      rw [run_snoc, execute_records, ih, List.filterMap_append, ← List.append_assoc]
      cases entry : send.recorded with
      | none => rw [List.filterMap_cons_none entry, List.filterMap_nil, List.append_nil]; rfl
      | some call => rw [List.filterMap_cons_some entry, List.filterMap_nil, recordAll_snoc]; rfl
  · exact run_receipts ⟨receipts, recordAll calls⟩ sends

/-! ### Attested receipts -/

/-- The key file and the card hold the two halves of one ML-DSA-65 key pair. -/
def Paired (send : Send) : Prop :=
  ∀ prepared, send.prepare = .ok prepared → ∃ rng pair, generateMldsaKeypair rng = .ok pair ∧
    prepared.keys.mldsa = some (pair.secretKeyBytes, pair.publicKeyBytes)

omit [Sha256] [Decimal] [FromStr AgentCard] in
theorem transfer_hybrid (send : Send) {prepared : Prepared} {mldsaSk mldsaPk : List UInt8}
    (hybrid : prepared.keys.mldsa = some (mldsaSk, mldsaPk)) (node : IotaNode) :
    send.transfer prepared node =
      let attested := transferIotaPq prepared.keys.edKey mldsaSk mldsaPk prepared.sender send.recipient
        prepared.amountNanos 10000000 send.attestedAt send.rng node
      (attested.1, attested.2.map fun told => (told.1, some told.2)) := by
  unfold transfer
  rw [hybrid]
  exact IotaM.bind_pure_run _ (fun told : String × PqTransactionAttestation => (told.1, some told.2)) node

omit [Ed25519] [MlDsa65] [Blake2b] [Sha256] [Decimal] [FromStr AgentCard] in
theorem map_some_ok {result : Except String (String × PqTransactionAttestation)} {digest : String}
    {attestation : Option PqTransactionAttestation}
    (told : (result.map fun told => (told.1, some told.2)) = .ok (digest, attestation)) :
    ∃ made, result = .ok (digest, made) ∧ attestation = some made := by
  cases result with
  | error e => cases told
  | ok done =>
    obtain ⟨first, second⟩ := Prod.mk.inj (Except.ok.inj told)
    exact ⟨done.2, by rw [← first], second.symm⟩

/-- The attestation that the receipt holds verifies for exactly the transactions with the digest of the
one that the node was last asked to execute. -/
def Attested (send : Send) (r : WalletReceipt) : Prop :=
  ∃ prepared attestation txBytes, send.prepare = .ok prepared ∧
    r.pqAttestation = some (PqAttestation.ofTransaction attestation) ∧
    (send.transfer prepared (makeClient send.nodes send.network)).1.getLast? =
      some (executeRequest txBytes (signTransaction prepared.keys.edKey txBytes)) ∧
    ∀ txBytes', verifyPqAttestation attestation txBytes' =
      .ok (decide (computeTxDigest txBytes = computeTxDigest txBytes'))

omit [Sha256] in
theorem writes_executed {send : Send} {dir : String} {r : WalletReceipt}
    (written : send.writes = some (dir, some r)) :
    send.dir = dir ∧ ∃ prepared digest attestation, send.prepare = .ok prepared ∧
      (send.transfer prepared (makeClient send.nodes send.network)).2 = .ok (digest, attestation) ∧
      send.receipt prepared digest attestation = r := by
  unfold writes executed at written
  cases prepares : send.prepare with
  | error fault => cases wrote : send.receiptWrite <;> simp [prepares, wrote] at written
  | ok prepared =>
    cases told : (send.transfer prepared (makeClient send.nodes send.network)).2 with
    | error e => cases wrote : send.receiptWrite <;> simp [prepares, told, wrote, Except.toOption] at written
    | ok done =>
      cases wrote : send.receiptWrite with
      | written =>
        simp only [prepares, told, wrote, Except.toOption, Option.map_some] at written
        obtain ⟨there, same⟩ := Prod.mk.inj (Option.some.inj written)
        exact ⟨there, prepared, done.1, done.2, rfl, told, Option.some.inj same⟩
      | refused => simp [wrote] at written
      | torn => simp [prepares, told, wrote, Except.toOption] at written

omit [Sha256] in
theorem paired_attested (correct : MlDsa65.Correct) {send : Send} (paired : send.Paired) {dir : String}
    {r : WalletReceipt} (written : send.writes = some (dir, some r)) : send.Attested r := by
  obtain ⟨_, prepared, digest, attestation, prepares, told, rfl⟩ := writes_executed written
  obtain ⟨rng, pair, generated, hybrid⟩ := paired prepared prepares
  have transferred := transfer_hybrid send hybrid (makeClient send.nodes send.network)
  rw [transferred] at told
  obtain ⟨made, done, same⟩ := map_some_ok told
  obtain ⟨txBytes, last, verifies⟩ := transferIotaPq_verifies correct generated done
  refine ⟨prepared, made, txBytes, prepares, ?_, ?_, verifies⟩
  · rw [same]
    rfl
  · rw [transferred]
    exact last

/-- When the key files and the cards of all runs hold pairs, every receipt that is there after them was
written by one of them, and its attestation verifies for exactly what that run had the node execute. -/
theorem run_attested (correct : MlDsa65.Correct) (db : AuditDb) {sends : List Send}
    (paired : ∀ send ∈ sends, send.Paired) {dir : String} {r : WalletReceipt}
    (kept : (run ⟨fun _ => none, db⟩ sends).receipts dir = some r) :
    ∃ send ∈ sends, send.dir = dir ∧ send.Attested r := by
  rcases (run_receipts ⟨fun _ => none, db⟩ sends dir r).mp kept with
    ⟨before, send, after, split, written, _⟩ | ⟨none, _⟩
  · have member : send ∈ sends := by
      rw [split]
      exact List.mem_append_right _ List.mem_cons_self
    exact ⟨send, member, (writes_executed written).1,
      paired_attested correct (paired send member) written⟩
  · cases none

end Send
end Commands

section
open scoped Core.StandIn

namespace StandIn

scoped instance decimal : Decimal where
  nanos _ := none

def hybridCard (pair : MlDsaKeyPair) : AgentCard where
  id := Uuid.nil
  name := "scout"
  owner := "ops"
  scopes := []
  publicKey := base64 Core.StandIn.seed.val
  pqPublicKey := some (base64 pair.publicKeyBytes)
  signature := ""
  pqSignature := none
  cryptoScheme := .hybrid
  issuedAt := 0
  expiresAt := 0
  agentType := .type
  parentId := none
  spiffeId := none

@[reducible] def cards (pair : MlDsaKeyPair) : FromStr AgentCard :=
  Core.StandIn.parser [("card", hybridCard pair)]

def nodes : Nodes := ⟨Core.StandIn.iotaNode, Core.StandIn.iotaNode⟩

def send (keyPem : String) : Send where
  dir := "home"
  cardJson := "card"
  keyPem := keyPem
  recipient := "b"
  amount := "1"
  network := "testnet"
  attestedAt := "now"
  timestamp := "now"
  auditTimestamp := 0
  rng := 0
  nodes := nodes
  receiptWrite := .written
  audited := true

def prepared (pair : MlDsaKeyPair) : Prepared where
  card := hybridCard pair
  sender := deriveIotaAddress Core.StandIn.seed
  amountNanos := 1
  keys := ⟨Core.StandIn.seed, some (pair.secretKeyBytes, pair.publicKeyBytes)⟩

section
variable {pair : MlDsaKeyPair} {keyPem : String}
  (decoded : decodeHybridPrivateKeyPem keyPem.toList = .ok (Core.StandIn.seed, pair.secretKeyBytes))
include decoded

theorem send_prepares : letI := cards pair; (send keyPem).prepare = .ok (prepared pair) := by
  let := cards pair
  have read : FromStr.fromStr (send keyPem).cardJson = .ok (hybridCard pair) := Core.StandIn.parser_head _ _ _
  have address : deriveAddressFromCard (hybridCard pair) = .ok (deriveIotaAddress Core.StandIn.seed) := by
    simp [deriveAddressFromCard, hybridCard, bind, Except.bind]
  have amount : parseAmount (send keyPem).amount = .ok 1 := by
    show parseAmount "1" = .ok 1
    decide
  have keys : loadKeys (hybridCard pair) (send keyPem).keyPem = .ok (prepared pair).keys := by
    have scheme : (hybridCard pair).cryptoScheme = .hybrid := rfl
    have listed : (hybridCard pair).pqPublicKey = some (base64 pair.publicKeyBytes) := rfl
    rw [loadKeys, scheme, send]
    simp only [decoded, listed, orErr_some, orFault_ok, unbase64_base64, bind, Except.bind]
    rfl
  unfold Send.prepare
  simp only [read, Except.mapError, orFault_ok, bind, Except.bind, address, amount, keys]
  rfl

theorem send_paired (generated : generateMldsaKeypair 0 = .ok pair) :
    letI := cards pair; (send keyPem).Paired := by
  let := cards pair
  intro other prepares
  obtain rfl := Except.ok.inj ((send_prepares decoded).symm.trans prepares)
  exact ⟨0, pair, generated, rfl⟩

omit decoded in
theorem send_told (keyPem : String) (generated : generateMldsaKeypair 0 = .ok pair) : ∃ attestation,
    ((send keyPem).transfer (prepared pair) (makeClient nodes "testnet")).2 =
      .ok ("digest", some attestation) := by
  obtain ⟨requests, built⟩ : ∃ requests, buildTransfer (prepared pair).sender "b" 1 10000000
      (makeClient nodes "testnet") = (requests, .ok []) := ⟨_, rfl⟩
  have executed : (transferIota Core.StandIn.seed (prepared pair).sender "b" 1 10000000
      (makeClient nodes "testnet")).2 = .ok "digest" := rfl
  obtain ⟨attestation, created, _⟩ :=
    attestation_verifies Core.StandIn.mlDsa65_correct generated [] "now" 0
  have hybrid : (prepared pair).keys.mldsa = some (pair.secretKeyBytes, pair.publicKeyBytes) := rfl
  have attested : (transferIotaPq Core.StandIn.seed pair.secretKeyBytes pair.publicKeyBytes
      (prepared pair).sender "b" 1 10000000 "now" 0 (makeClient nodes "testnet")).2 =
        .ok ("digest", attestation) := by
    rw [transferIotaPq_attested built created, executed]
    rfl
  rw [Send.transfer_hybrid _ hybrid]
  exact ⟨attestation, congrArg (fun told => told.map fun told => (told.1, some told.2)) attested⟩

end

/-- One run, whose receipt holds. -/
theorem run_attested_once : ∃ pair keyPem r, letI := cards pair
    (Send.run ⟨fun _ => none, []⟩ [send keyPem]).receipts "home" = some r ∧
      (send keyPem).Attested r := by
  obtain ⟨pair, generated⟩ := generateMldsaKeypair_ok Core.StandIn.mlDsa65_correct 0
  obtain ⟨keyPem, decoded⟩ : ∃ keyPem : String, decodeHybridPrivateKeyPem keyPem.toList =
      .ok (Core.StandIn.seed, pair.secretKeyBytes) := ⟨_, decodeHybridPrivateKeyPem_encode _ _⟩
  let := cards pair
  obtain ⟨attestation, told⟩ := send_told keyPem generated
  have written : (send keyPem).writes =
      some ("home", some ((send keyPem).receipt (prepared pair) "digest" (some attestation))) := by
    have wrote : (send keyPem).receiptWrite = .written := rfl
    have client : makeClient (send keyPem).nodes (send keyPem).network = makeClient nodes "testnet" := rfl
    unfold Send.writes Send.executed
    simp only [wrote, client, send_prepares decoded, told, Except.toOption, Option.map_some]
    rfl
  have kept := (Send.run_receipts ⟨fun _ => none, []⟩ [send keyPem] "home" _).mpr
    (.inl ⟨[], send keyPem, [], rfl, written, fun _ member => nomatch member⟩)
  have paired : ∀ s ∈ [send keyPem], s.Paired := by
    intro s member
    rw [List.mem_singleton.mp member]
    exact send_paired decoded generated
  obtain ⟨s, member, _, attested⟩ := Send.run_attested Core.StandIn.mlDsa65_correct [] paired kept
  rw [List.mem_singleton.mp member] at attested
  exact ⟨pair, keyPem, _, kept, attested⟩

end StandIn
end
end GrokingClawId.Cli.Wallet
