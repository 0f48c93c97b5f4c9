import GrokingClawId.Daemon.BirthMesh
import GrokingClawId.Daemon.Oauth

/-!
# Identity of a born agent

What the files of a born agent say of it: whether its card verifies and agrees with its configuration,
and whether the operations of the daemon find the key and the card where they look for them.
-/

namespace GrokingClawId.Daemon
open GrokingClawId.Core FileTree DiskM

section Verifiable
variable [Ed25519] [MlDsa65] [Chrono] [ConfigFormat] [FromStr AgentCard]

/-- The card in the directory of the agent is signed with the key next to it and agrees with
`agent.toml`. -/
def Verifiable (root : List String) (name : String) (tree : FileTree) : Prop :=
  ∃ cardJson card pem seed text config,
    tree.Holds (agentDir root name ++ cardFile) (.text cardJson) ∧
    tree.Holds (agentDir root name ++ keyFile) (.text pem) ∧
    tree.Holds (agentDir root name ++ configFile) (.text text) ∧
    (FromStr.fromStr cardJson : Except String AgentCard) = .ok card ∧
    decodePrivateKeyPem pem.toList = .ok seed ∧ ConfigFormat.fromStr text = .ok config ∧
    Cli.SignedOver card (Cli.cardSigningPayload card) (card.cryptoScheme ≠ .ed25519) ∧
    card.publicKey = encodePublicKey (Ed25519.verifyingKey seed) ∧
    card.id = config.agentId ∧ card.name = config.name ∧ card.scopes = config.allowedScopes ∧
    some card.expiresAt = config.expiresAt

omit [MlDsa65] [ConfigFormat] [FromStr AgentCard] in
/-- Every card that a local birth signs is of its own key. -/
theorem localCard_signed [MlDsa65] (correct : Ed25519.Correct) (params : BirthParams) (io : LocalIo)
    (expiresAt : DateTime) :
    Cli.SignedOver (params.localCard io expiresAt) (Cli.cardSigningPayload (params.localCard io expiresAt))
      ((params.localCard io expiresAt).cryptoScheme ≠ .ed25519) := by
  refine ⟨?_, fun other => absurd rfl other⟩
  rw [show Cli.cardSigningPayload (params.localCard io expiresAt) =
    Cli.cardSigningPayload { params.localCard io expiresAt with signature := "" } from
      Cli.cardSigningPayload_congr rfl]
  exact verify_sign correct io.seed _

/-- The parser of cards asks for an owner. -/
def RequiresOwner (value : Json) : Prop :=
  value.get "owner" = none → ∃ e, (FromStr.fromStr (Json.pretty 0 value) : Except String AgentCard) = .error e

omit [MlDsa65] [ConfigFormat] in
theorem meshCard_unread {params : BirthParams} {io : MeshIo} {certificate : BirthCertificate}
    (strict : RequiresOwner (meshCard params io certificate)) (card : AgentCard) :
    (FromStr.fromStr (Json.pretty 0 (meshCard params io certificate)) : Except String AgentCard) ≠
      .ok card := by
  obtain ⟨e, failed⟩ := strict rfl
  rw [failed]
  exact fun same => nomatch same

end Verifiable

section Births
variable [Ed25519] [MlDsa65] [Chrono] [ConfigFormat] [FromStr AgentCard] [FromStr TemplateManifest]
    [FromStr Json]
  [FromStr BirthCertificate]
variable {root : List String} {params : BirthParams} {io : BirthIo} {nursery nursery' : Nursery}
  {maxAgents : UInt32} {result : BirthResult}

/-- When the files that the template gives to the agent are none of the agent's own, its identity is
verifiable exactly when it was not born through the mesh. -/
theorem birthAgent_verifiable_iff (correct : Ed25519.Correct) (roundTrip : ConfigFormat.RoundTrip)
    (strict : ∀ mesh certificate, io.tried = some mesh →
    RequiresOwner (meshCard params mesh certificate))
    (reads : ∀ expiresAt, localExpiry params io.onDisk = .ok expiresAt →
      FromStr.fromStr (params.localCard io.onDisk expiresAt).toStringPretty =
        .ok (params.localCard io.onDisk expiresAt))
    (scripts : Scripts root params io nursery.disk.tree)
    (ran : nursery.birthAgent root maxAgents params io = (.ok result, nursery')) :
    (Listed root params.name params.template nursery.disk.tree ∧ ¬ ViaMesh root params io nursery.disk →
      Verifiable root params.name nursery'.disk.tree) ∧
    (Listed root params.name params.template nursery.disk.tree →
      Verifiable root params.name nursery'.disk.tree → ¬ ViaMesh root params io nursery.disk) := by
  suffices exactly : Listed root params.name params.template nursery.disk.tree →
      (Verifiable root params.name nursery'.disk.tree ↔ ¬ ViaMesh root params io nursery.disk) from
    ⟨fun ⟨listed, notMesh⟩ => (exactly listed).mpr notMesh, fun listed => (exactly listed).mp⟩
  intro listed
  obtain ⟨_, config, seed, cardJson, born, _, written, _⟩ :=
    Nursery.birthAgent_ok roundTrip (scripts.tamed listed) ran
  obtain ⟨_, ⟨text, serialized, configHeld⟩, keyHeld, cardHeld⟩ := written
  cases born with
  | viaMesh tried certified settled =>
    constructor
    · rintro ⟨found, card, _, _, _, _, held, _, _, parsed, _⟩
      obtain rfl := holds_text held cardHeld
      exact absurd parsed (meshCard_unread (strict _ _ tried) card)
    · exact fun notMesh => absurd (viaMesh_of tried certified settled) notMesh
  | @locally expiresAt notMesh timed =>
    refine ⟨fun _ => notMesh, fun _ => ?_⟩
    exact ⟨_, _, _, io.onDisk.seed, text, _, cardHeld, keyHeld, configHeld, reads expiresAt timed,
      decodePrivateKeyPem_encode _, roundTrip _ _ serialized,
        localCard_signed correct params io.onDisk expiresAt,
      rfl, rfl, rfl, rfl, rfl⟩

/-! ### The files that are read later -/

/-- A file as it is found by its path and read. -/
def textFile (tree : FileTree) (path : List String) : TextFile :=
  if !FileTree.legal path then .absent
  else
    match tree.lookup path with
    | none => .absent
    | some (.file (.text s)) => .content s
    | some (.file (.binary _)) => .unreadable "stream did not contain valid UTF-8"
    | some .dir => .unreadable "Is a directory"

/-- The key that `start_agent` and the token methods read, and the card of `oauth_exchange`. -/
def identityDir (root : List String) (name : String) (tree : FileTree) : AgentDir where
  agentPem := textFile tree (agentDir root name ++ keyFile)
  agentCard := textFile tree (agentDir root name ++ exchangeFile)

def Carries (cardJson publicKey : String) : Prop :=
  ∃ value : Json, FromStr.fromStr cardJson = .ok value ∧ value.get "public_key" = some (.str publicKey)

omit [Ed25519] [MlDsa65] [Chrono] [ConfigFormat] [FromStr AgentCard] [FromStr TemplateManifest] [FromStr Json]
  [FromStr BirthCertificate] in
theorem textFile_content {tree : FileTree} {path : List String} {s : String} :
    textFile tree path = .content s ↔ FileTree.legal path = true ∧ tree.Holds path (.text s) := by
  unfold textFile FileTree.Holds
  cases FileTree.legal path with
  | false => simp
  | true =>
    simp only [Bool.not_true, Bool.false_eq_true, if_false, true_and]
    split <;> simp_all

/-- The operations of the daemon find the key, and cards of that key: `verify_request_signature` the
one of the requests' callers, `oauth_exchange` its own. -/
structure Identified (root : List String) (name : String) (tree : FileTree) (seed : Core.Bytes 32) :
    Prop where
  key : ∃ pem, (identityDir root name tree).agentPem = .content pem ∧
    decodePrivateKeyPem pem.toList = .ok seed
  card : ∃ cardJson card, textFile tree (agentDir root name ++ cardFile) = .content cardJson ∧
    (FromStr.fromStr cardJson : Except String AgentCard) = .ok card ∧
    card.publicKey = encodePublicKey (Ed25519.verifyingKey seed)
  exchangeCard : ∃ cardJson, (identityDir root name tree).agentCard = .content cardJson ∧
    Carries cardJson (encodePublicKey (Ed25519.verifyingKey seed))

section Exchange
variable [Aead] [Hkdf] [StoreFormat] [FromStr TokenResponse]

/-- With a registration in a store that loads, the provider is asked with a card of the key and a
signature that verifies under it. -/
def Exchanges (dir : AgentDir) (agentName publicKey : String) : Prop :=
  ∀ file io registrationId store signingKey reg,
    loadOauthStore dir agentName file io.fresh = .ok (store, signingKey) →
    store.getRegistration registrationId = some reg →
    ∃ loaded cardJson signature next, oauthExchange dir agentName registrationId io = .load loaded ∧
      loaded file = ask (clawidTokenExchange reg cardJson signature none io.provider io.clock) next ∧
      Carries cardJson publicKey ∧ verify publicKey cardJson.toUTF8 signature = .ok true

omit [MlDsa65] [Chrono] [ConfigFormat] [FromStr TemplateManifest] [FromStr BirthCertificate] in
theorem Identified.exchanges (correct : Ed25519.Correct) {name : String} {tree : FileTree}
    {seed : Core.Bytes 32} (identified : Identified root name tree seed) :
    Exchanges (identityDir root name tree) name (encodePublicKey (Ed25519.verifyingKey seed)) := by
  intro file io registrationId store signingKey reg loaded found
  obtain ⟨pem, pemRead, decoded⟩ := identified.key
  obtain ⟨cardJson, cardRead, carries⟩ := identified.exchangeCard
  have own : signingKey = seed := by
    unfold loadOauthStore at loaded
    rw [pemRead] at loaded
    obtain ⟨key, decodes, loaded⟩ := Core.bind_ok loaded
    obtain ⟨_, _, same⟩ := Core.bind_ok loaded
    rw [decoded] at decodes
    rw [Except.ok.inj decodes, ← (Prod.mk.inj (Except.ok.inj same)).2]
  subst own
  refine ⟨_, cardJson, sign signingKey cardJson.toUTF8, fun tokens =>
    keepTokens name store signingKey tokens io (statusValue "token_exchanged"), rfl, ?_, carries,
    verify_sign correct signingKey _⟩
  simp only [loaded, registered, found, cardRead]

/-- The identity is found, and the token exchange asks the provider with it. -/
def Served (root : List String) (name : String) (tree : FileTree) : Prop :=
  ∃ seed, Identified root name tree seed ∧
    Exchanges (identityDir root name tree) name (encodePublicKey (Ed25519.verifyingKey seed))

/-- A card for the token exchange with the key that the local birth draws lies in the directory of the
agent. -/
def ExchangeCard (root : List String) (params : BirthParams) (io : BirthIo) (tree : FileTree) : Prop :=
  ∃ cardJson, tree.node (target (agentDir root params.name) ++ exchangeFile) = some (.file (.text cardJson)) ∧
    Carries cardJson (encodePublicKey (Ed25519.verifyingKey io.onDisk.seed))

omit [MlDsa65] in
/-- When the files that the template gives to the agent are none of the agent's own, the operations of the
daemon find its identity exactly when it was not born through the mesh and the card that `oauth_exchange`
reads, which no birth writes, is there already. -/
theorem birthAgent_identified_iff (correct : Ed25519.Correct) (roundTrip : ConfigFormat.RoundTrip)
    (strict : ∀ mesh certificate, io.tried = some mesh →
    RequiresOwner (meshCard params mesh certificate))
    (reads : ∀ expiresAt, localExpiry params io.onDisk = .ok expiresAt →
      FromStr.fromStr (params.localCard io.onDisk expiresAt).toStringPretty =
        .ok (params.localCard io.onDisk expiresAt))
    (scripts : Scripts root params io nursery.disk.tree)
    (ran : nursery.birthAgent root maxAgents params io = (.ok result, nursery')) :
    (Listed root params.name params.template nursery.disk.tree ∧
      ¬ ViaMesh root params io nursery.disk ∧ ExchangeCard root params io nursery.disk.tree →
      Served root params.name nursery'.disk.tree) ∧
    (Listed root params.name params.template nursery.disk.tree → Served root params.name nursery'.disk.tree →
      ¬ ViaMesh root params io nursery.disk ∧ ExchangeCard root params io nursery.disk.tree) := by
  suffices exactly : Listed root params.name params.template nursery.disk.tree →
      (Served root params.name nursery'.disk.tree ↔
        ¬ ViaMesh root params io nursery.disk ∧ ExchangeCard root params io nursery.disk.tree) from
    ⟨fun ⟨listed, condition⟩ => (exactly listed).mpr condition, fun listed => (exactly listed).mp⟩
  intro listed
  obtain ⟨_, config, seed, cardJson, born, _, written, _, kept⟩ :=
    Nursery.birthAgent_ok roundTrip (scripts.tamed listed) ran
  obtain ⟨legal, _, keyHeld, cardHeld⟩ := written
  have legal' : ∀ tail ∈ ownFiles, FileTree.legal (agentDir root params.name ++ tail) = true := by
    intro tail own
    have whole : ∀ tail ∈ ownFiles, FileTree.legal tail = true := by decide
    rw [FileTree.legal, List.all_append, Bool.and_eq_true] at legal ⊢
    exact ⟨legal.1, whole tail own⟩
  have found := exchange_lookup keyHeld
  cases born with
  | viaMesh tried certified settled =>
    constructor
    · rintro ⟨other, ⟨_, ⟨held, card, read, parsed, _⟩, _⟩, _⟩
      obtain rfl := holds_text (textFile_content.mp read).2 cardHeld
      exact absurd parsed (meshCard_unread (strict _ _ tried) card)
    · exact fun ⟨notMesh, _⟩ => absurd (viaMesh_of tried certified settled) notMesh
  | @locally expiresAt notMesh timed =>
    constructor
    · rintro ⟨other, ⟨⟨pem, pemRead, decoded⟩, _, ⟨exchanged, read, carries⟩⟩, _⟩
      obtain rfl := holds_text (textFile_content.mp pemRead).2 keyHeld
      rw [decodePrivateKeyPem_encode] at decoded
      obtain rfl := Except.ok.inj decoded
      have there := (textFile_content.mp read).2
      rw [FileTree.Holds, found, kept] at there
      exact ⟨notMesh, exchanged, there, carries⟩
    · rintro ⟨_, exchanged, there, carries⟩
      rw [← kept, ← found] at there
      have identified : Identified root params.name nursery'.disk.tree io.onDisk.seed := by
        refine ⟨⟨_, textFile_content.mpr ⟨legal' keyFile (by decide), keyHeld⟩,
          decodePrivateKeyPem_encode _⟩, ?_, ?_⟩
        · exact ⟨_, _, textFile_content.mpr ⟨legal' cardFile (by decide), cardHeld⟩,
            reads expiresAt timed, rfl⟩
        · exact ⟨exchanged, textFile_content.mpr ⟨legal' exchangeFile (by decide), there⟩, carries⟩
      exact ⟨_, identified, identified.exchanges correct⟩

end Exchange
end Births

/-! ### Concrete births -/

open scoped Core.StandIn StandIn

namespace StandIn.Identities

scoped instance format : ConfigFormat := configs [bornConfig "scout", meshedConfig ["read"]]

def scoutCard : AgentCard := (namedParams "scout").localCard localIo (3600 * 1000000000)

scoped instance cards : FromStr AgentCard :=
  Core.StandIn.parser [(scoutCard.toStringPretty, scoutCard)]

scoped instance tokenResponses : FromStr TokenResponse := Core.StandIn.parser []

theorem roundTrip : ConfigFormat.RoundTrip := configs_roundTrip (by decide)

theorem reads (expiresAt : DateTime)
    (timed : localExpiry (namedParams "scout") localIo = .ok expiresAt) :
    FromStr.fromStr ((namedParams "scout").localCard localIo expiresAt).toStringPretty =
      .ok ((namedParams "scout").localCard localIo expiresAt) := by
  obtain rfl := Except.ok.inj timed
  exact Core.StandIn.parser_head _ _ _

theorem born_scout : ∃ result nursery',
    bareNursery.birthAgent [] 10 (namedParams "scout") unmeshed = (.ok result, nursery') :=
  run_ok (by decide +kernel)

def meshText : String :=
  Json.pretty 0 (meshCard (namedParams "scout") (meshIo approved) (certificate ["read"]))

theorem born_meshed : ∃ result nursery',
    bareNursery.birthAgent [] 10 (namedParams "scout") (meshed approved) = (.ok result, nursery') ∧
      nursery'.disk.tree.Holds (Daemon.agentDir [] "scout" ++ cardFile) (.text meshText) := by
  have born : (bareNursery.birthAgent [] 10 (namedParams "scout") (meshed approved)).1.toOption.isSome =
      true := by
    decide +kernel
  obtain ⟨result, nursery', ran⟩ := run_ok born
  have held : (bareNursery.birthAgent [] 10 (namedParams "scout") (meshed approved)).2.disk.tree.lookup
      (Daemon.agentDir [] "scout" ++ cardFile) = some (.file (.text meshText)) := by decide +kernel
  rw [ran] at held
  exact ⟨result, nursery', ran, held⟩

end StandIn.Identities

open scoped StandIn.Identities

theorem StandIn.birthAgent_verifiable_scout : ∃ result nursery',
    bareNursery.birthAgent [] 10 (namedParams "scout") unmeshed = (.ok result, nursery') ∧
      Verifiable [] "scout" nursery'.disk.tree := by
  obtain ⟨result, nursery', ran⟩ := Identities.born_scout
  refine ⟨result, nursery', ran, (birthAgent_verifiable_iff Core.StandIn.ed25519_correct Identities.roundTrip
    (fun _ _ tried => ?_) Identities.reads (scripts_unmeshed _ _ _) ran).1 ⟨listed_bare _ _ _ _, ?_⟩⟩
  · cases tried
  · rintro ⟨_, _, _, tried, _⟩
    cases tried

/-- The card of a birth via the mesh is not an agent card. -/
theorem birthAgent_unverifiable : ¬ ∀ (root : List String) (nursery nursery' : Nursery)
    (maxAgents : UInt32) (params : BirthParams) (io : BirthIo)
    (result : BirthResult), Tamed root params io nursery.disk.tree →
    nursery.birthAgent root maxAgents params io = (.ok result, nursery') →
    Verifiable root params.name nursery'.disk.tree := by
  intro verifiable
  obtain ⟨result, nursery', ran, there⟩ := StandIn.Identities.born_meshed
  obtain ⟨cardJson, card, _, _, _, _, held, _, _, parsed, _⟩ := verifiable _ _ _ _ _ _ _
    (StandIn.tamed_meshed [] (StandIn.namedParams "scout") StandIn.approved StandIn.bareTree) ran
  obtain rfl := holds_text held there
  have other : StandIn.Identities.meshText ≠ StandIn.Identities.scoutCard.toStringPretty := by decide +kernel
  rw [Core.StandIn.parser_other other] at parsed
  cases parsed

theorem StandIn.birthAgent_unidentified : ∃ result nursery',
    bareNursery.birthAgent [] 10 (namedParams "scout") unmeshed = (.ok result, nursery') ∧
      ¬ ∃ seed, Identified [] "scout" nursery'.disk.tree seed ∧
        Exchanges (identityDir [] "scout" nursery'.disk.tree) "scout"
          (encodePublicKey (Ed25519.verifyingKey seed)) := by
  obtain ⟨result, nursery', ran⟩ := Identities.born_scout
  refine ⟨result, nursery', ran, fun identified => ?_⟩
  obtain ⟨_, cardJson, there, _⟩ :=
    (birthAgent_identified_iff Core.StandIn.ed25519_correct Identities.roundTrip
    (fun _ _ tried => by cases tried) Identities.reads (scripts_unmeshed _ _ _) ran).2 (listed_bare _ _ _ _)
      identified
  revert there
  simp [bareNursery, bareTree]

/-- No birth writes the card that `oauth_exchange` reads. -/
theorem birthAgent_exchangeless : ¬ ∀ (root : List String) (nursery nursery' : Nursery)
    (maxAgents : UInt32) (params : BirthParams) (io : BirthIo)
    (result : BirthResult), Tamed root params io nursery.disk.tree →
    nursery.birthAgent root maxAgents params io = (.ok result, nursery') →
    ∃ seed, Identified root params.name nursery'.disk.tree seed := by
  intro identified
  obtain ⟨result, nursery', ran⟩ := StandIn.Identities.born_scout
  obtain ⟨seed, _, _, cardJson, there, _⟩ := identified _ _ _ _ _ _ _
    (StandIn.tamed_unmeshed [] (StandIn.namedParams "scout") StandIn.bareTree) ran
  have missing : textFile (StandIn.bareNursery.birthAgent [] 10 (StandIn.namedParams "scout")
      StandIn.unmeshed).2.disk.tree (agentDir [] "scout" ++ exchangeFile) = .absent := by
    have unheld : (StandIn.bareNursery.birthAgent [] 10 (StandIn.namedParams "scout")
        StandIn.unmeshed).2.disk.tree.lookup (agentDir [] "scout" ++ exchangeFile) = none := by decide +kernel
    unfold textFile
    rw [unheld]
    rfl
  rw [ran] at missing
  exact absurd (missing.symm.trans there) (by simp)

end GrokingClawId.Daemon
