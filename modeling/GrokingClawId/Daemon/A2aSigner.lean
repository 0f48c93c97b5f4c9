import GrokingClawId.Daemon.A2a
import GrokingClawId.Proxy.Signer

/-!
# Proxy signer and A2A verifier

A request that brings the headers of the proxy's signer, as the A2A server reads it. The verifier
takes over the text of `Signature-Input` with its label, where the signer has signed the parameters
without one.
-/

namespace GrokingClawId.Daemon.A2a
open GrokingClawId.Core GrokingClawId.Proxy Text

/-- The name under which a header arrives. -/
def arrivingName (name : String) : String := String.ofList (name.toList.map Char.toLower)

/-- The request brings these headers. -/
def Carries (request : Request) (headers : List (String × String)) : Prop :=
  ∀ header ∈ headers, request.header (arrivingName header.1) = some (.ofText header.2)

theorem carries_map {headers : List (String × String)} {request : Request}
    (distinct : (headers.map fun header => arrivingName header.1).Nodup)
    (sent : request.headers = headers.map fun header => (arrivingName header.1, .ofText header.2)) :
    Carries request headers := by
  intro header member
  rw [Request.header, sent]
  clear sent
  induction headers with
  | nil => exact absurd member List.not_mem_nil
  | cons first rest ih =>
    rw [List.map_cons, List.nodup_cons] at distinct
    rcases List.mem_cons.mp member with rfl | later
    · rw [List.map_cons, List.lookup_cons_self]
    · have other : (arrivingName header.1 == arrivingName first.1) = false := by
        apply beq_eq_false_iff_ne.mpr
        intro same
        apply distinct.1
        rw [← same]
        exact List.mem_map.mpr ⟨header, later, rfl⟩
      rw [List.map_cons, List.lookup_cons, other]
      exact ih distinct.2 later

/-! ### The signer's parameters are visible text -/

theorem uuid_visible {id : Uuid} {c : Char} (member : c ∈ id.toText.toList) :
    HeaderValue.isVisible c = true := by
  have digits : ∀ n < 16, HeaderValue.isVisible (Nat.digitChar n) = true := by decide
  rcases Uuid.mem_toText member with ⟨n, small, rfl⟩ | rfl
  · exact digits n small
  · decide

theorem int_visible {n : Int} {c : Char} (member : c ∈ (toString n).toList) :
    HeaderValue.isVisible c = true := by
  rcases toString_int_chars member with digit | rfl
  · have range : 48 ≤ c.toNat ∧ c.toNat ≤ 57 := by simpa [Char.isDigit, UInt32.le_iff_toNat_le] using digit
    exact decide_eq_true ⟨by omega, by omega⟩
  · decide

theorem keyId_visible {pemPath : String} {file : Option String} {id : Uuid}
    {signer : RequestSigner} (made : RequestSigner.fromPem pemPath file id.toText = .ok signer) :
    ∀ c ∈ signer.keyId.toList, HeaderValue.isVisible c = true := by
  obtain ⟨_, start, cut, keyId⟩ := RequestSigner.fromPem_ok made
  have text : signer.keyId.toList = "clawid-".toList ++ start := by
    rw [keyId]
    simp [toString]
  intro c member
  rw [text] at member
  rcases List.mem_append.mp member with label | digit
  · exact forall_of_all (p := fun c => HeaderValue.isVisible c = true) (by decide) c label
  · exact uuid_visible (slicePrefix_subset cut c digit)

theorem params_chars (signer : RequestSigner) (now : DateTime) (nonce : Uuid) :
    (s!"sig1={signer.params now nonce}").toList =
      "sig1=".toList ++ ("(\"@method\" \"@target-uri\" \"@authority\");created=".toList ++
        ((toString now.timestamp).toList ++ (";keyid=\"".toList ++ (signer.keyId.toList ++
          ("\";nonce=\"".toList ++ (nonce.toText.toList ++ "\";alg=\"ed25519\"".toList)))))) := by
  unfold RequestSigner.params
  simp only [toString, String.toList_append, List.append_assoc]

theorem params_visible {signer : RequestSigner}
    (keyId : ∀ c ∈ signer.keyId.toList, HeaderValue.isVisible c = true) (now : DateTime)
    (nonce : Uuid) :
    ∀ c ∈ (s!"sig1={signer.params now nonce}").toList, HeaderValue.isVisible c = true := by
  intro c member
  have plain : ∀ s : List Char, (s.all fun c => decide (HeaderValue.isVisible c = true)) = true →
      c ∈ s → HeaderValue.isVisible c = true := fun s all => forall_of_all all c
  rw [params_chars] at member
  rcases List.mem_append.mp member with label | member
  · exact plain _ (by decide) label
  rcases List.mem_append.mp member with start | member
  · exact plain _ (by decide) start
  rcases List.mem_append.mp member with created | member
  · exact int_visible created
  rcases List.mem_append.mp member with between | member
  · exact plain _ (by decide) between
  rcases List.mem_append.mp member with key | member
  · exact keyId c key
  rcases List.mem_append.mp member with between | member
  · exact plain _ (by decide) between
  rcases List.mem_append.mp member with unique | last
  · exact uuid_visible unique
  · exact plain _ (by decide) last

/-! ### What the verifier makes of the headers -/

section Verify
variable [UrlCrate] [Unicode] [Chrono] [Ed25519] [MlDsa65]

theorem carried_headers {request : Request} {signer : RequestSigner} {method uri : String}
    {existing : List (String × String)} {now : DateTime} {nonce : Uuid} {rng : Nat}
    (carried : Carries request (signer.signRequest method uri existing now nonce rng)) :
    request.header "signature-input" = some (.ofText s!"sig1={signer.params now nonce}") ∧
      request.header "signature" =
        some (.ofText s!"sig1=:{sign signer.signingKey (signer.base method uri now nonce).toUTF8}:") ∧
      request.header "x-clawid-agent" = some (.ofText signer.agentId) := by
  obtain ⟨more, headers, _⟩ := signer.signRequest_headers method uri existing now nonce rng
  have brings : ∀ header ∈ signer.signRequest method uri existing now nonce rng,
      request.header (arrivingName header.1) = some (.ofText header.2) := carried
  rw [headers] at brings
  have input := brings _ List.mem_cons_self
  have signature := brings _ (List.mem_cons_of_mem _ List.mem_cons_self)
  have agent := brings _ (List.mem_cons_of_mem _ (List.mem_cons_of_mem _ List.mem_cons_self))
  have names : arrivingName "Signature-Input" = "signature-input" ∧
      arrivingName "Signature" = "signature" ∧ arrivingName "X-ClawID-Agent" = "x-clawid-agent" := by
    decide
  rw [names.1] at input
  rw [names.2.1] at signature
  rw [names.2.2] at agent
  exact ⟨input, signature, agent⟩

theorem readSignature_carried {request : Request} {pemPath : String} {file : Option String}
    {id : Uuid} {signer : RequestSigner}
    (made : RequestSigner.fromPem pemPath file id.toText = .ok signer) {method uri : String}
    {existing : List (String × String)} {now : DateTime} {nonce : Uuid} {rng : Nat}
    (carried : Carries request (signer.signRequest method uri existing now nonce rng)) :
    readSignature request = .ok (some (s!"sig1={signer.params now nonce}",
      (Ed25519.sign signer.signingKey (signer.base method uri now nonce).toUTF8).val)) := by
  obtain ⟨input, signature, _⟩ := carried_headers carried
  exact readSignature_ofText signature input (params_visible (keyId_visible made) now nonce)

omit [Chrono] [Ed25519] [MlDsa65] in
/-- The label of `Signature-Input` stands in the text of the verifier only. -/
theorem signatureBase_ne_base (request : Request) (signer : RequestSigner) (method uri : String)
    (now : DateTime) (nonce : Uuid) :
    signer.base method uri now nonce ≠
      signatureBase request s!"sig1={signer.params now nonce}" := by
  intro same
  have signed : ∃ before, (signer.base method uri now nonce).toList =
      before ++ "\n\"@signature-params\": ".toList ++ (signer.params now nonce).toList := by
    unfold RequestSigner.base
    simp only [toString, String.toList_append]
    exact ⟨_, rfl⟩
  have verified : ∃ before, (signatureBase request s!"sig1={signer.params now nonce}").toList =
      before ++ "sig1=".toList ++ (signer.params now nonce).toList := by
    unfold signatureBase
    simp only [toString, String.toList_append]
    exact ⟨_, (List.append_assoc _ _ _).symm⟩
  obtain ⟨before, signed⟩ := signed
  obtain ⟨before', verified⟩ := verified
  have texts := congrArg String.toList same
  rw [signed, verified] at texts
  have lasts := congrArg List.getLast? (List.append_cancel_right texts)
  rw [List.getLast?_append_of_ne_nil _ (by decide), List.getLast?_append_of_ne_nil _ (by decide)] at lasts
  exact absurd lasts (by decide)

theorem pqHeader_unread (signer : RequestSigner) (method uri : String)
    (existing : List (String × String)) (now : DateTime) (nonce : Uuid) (rng : Nat) :
    ∀ header ∈ signer.signRequest method uri existing now nonce rng,
      arrivingName header.1 ≠ "x-clawid-pq-signature" := by
  obtain ⟨more, headers, names⟩ := signer.signRequest_headers method uri existing now nonce rng
  intro header member
  rw [headers] at member
  rcases List.mem_append.mp member with first | later
  · have name : header.1 ∈ ["Signature-Input", "Signature", "X-ClawID-Agent"] :=
      List.mem_map_of_mem (f := Prod.fst) first
    have none : ∀ name ∈ ["Signature-Input", "Signature", "X-ClawID-Agent"],
        arrivingName name ≠ "x-clawid-pq-signature" := by decide
    exact none _ name
  · rcases names header later with pq | date
    · rw [pq]
      decide
    · rw [date]
      decide

variable [FromStr AgentCard]

/-- No request with the headers of an agent's signer is accepted, and the ML-DSA header among them
is not the one that is checked. -/
theorem signRequest_refused (daemon : DaemonState) {agent : AgentProcess} {pemPath : String}
    {file : Option String} {signer : RequestSigner}
    (made : RequestSigner.fromPem pemPath file agent.config.agentId.toText = .ok signer)
    {method uri : String} {existing : List (String × String)} {now : DateTime} {nonce : Uuid}
    {rng : Nat} {request : Request}
    (carried : Carries request (signer.signRequest method uri existing now nonce rng))
    (exclusive : Ed25519.Exclusive signer.signingKey [(signer.base method uri now nonce).toUTF8,
      (signatureBase request s!"sig1={signer.params now nonce}").toUTF8]) :
    verifyRequestSignature daemon request ≠ .ok true ∧
      ∀ header ∈ signer.signRequest method uri existing now nonce rng,
        arrivingName header.1 ≠ "x-clawid-pq-signature" := by
  refine ⟨fun accepted => ?_, pqHeader_unread signer method uri existing now nonce rng⟩
  obtain ⟨_, card, ⟨_, _, _, read, rfl, verified⟩, _⟩ :=
    (verifyRequestSignature_iff daemon request).mp accepted
  have own := readSignature_carried made carried
  obtain ⟨rfl, rfl⟩ := Prod.mk.inj (Option.some.inj (Except.ok.inj (own.symm.trans read)))
  have same := verify_exclusive exclusive List.mem_cons_self
    (List.mem_cons_of_mem _ List.mem_cons_self) verified
  exact signatureBase_ne_base request signer method uri now nonce (String.toByteArray_inj.mp same)

end Verify

/-! ### A managed agent -/

namespace StandIn

/-- The scout's proxy has loaded its key file. -/
def signer : RequestSigner where
  signingKey := Core.StandIn.seed
  pqSecretKey := none
  agentId := Uuid.nil.toText
  keyId := "clawid-00000000"

theorem signer_made :
    RequestSigner.fromPem "agent.pem" (some (encodePrivateKeyPem Core.StandIn.seed)) Uuid.nil.toText =
      .ok signer := by
  rw [RequestSigner.fromPem_ed25519]
  rfl

open scoped Core.StandIn

variable [Ed25519]

/-- A request of the scout through its proxy. -/
def proxied : Request where
  method := "GET"
  uri := ⟨"http://a.example/x", "/x", some "a.example"⟩
  headers := (signer.signRequest "GET" "http://a.example/x" [] 0 Uuid.nil 0).map
    fun header => (arrivingName header.1, .ofText header.2)
  body := .ok []

theorem proxied_carries :
    Carries proxied (signer.signRequest "GET" "http://a.example/x" [] 0 Uuid.nil 0) := by
  refine carries_map ?_ rfl
  show [arrivingName "Signature-Input", arrivingName "Signature", arrivingName "X-ClawID-Agent",
    arrivingName "Date"].Nodup
  decide

end StandIn

section
open scoped Core.StandIn StandIn.Files

def StandIn.scoutAgent : AgentProcess :=
  { config := StandIn.config "scout", status := .creating, child := none, pid := none, proxyPort := none,
    proxyHandle := none, restartCount := 0, restartTimestamps := [], startedAt := none }

theorem signRequest_refused_scout :
    letI := Core.StandIn.marking (StandIn.signer.base "GET" "http://a.example/x" 0 Uuid.nil).toUTF8
    Carries StandIn.proxied (StandIn.signer.signRequest "GET" "http://a.example/x" [] 0 Uuid.nil 0) ∧
      verifyRequestSignature StandIn.server.daemon StandIn.proxied ≠ .ok true := by
  let _ := Core.StandIn.marking (StandIn.signer.base "GET" "http://a.example/x" 0 Uuid.nil).toUTF8
  have carried := StandIn.proxied_carries
  have made : RequestSigner.fromPem "agent.pem" (some (encodePrivateKeyPem Core.StandIn.seed))
      StandIn.scoutAgent.config.agentId.toText = .ok StandIn.signer := StandIn.signer_made
  exact ⟨carried, (signRequest_refused StandIn.server.daemon made carried
    (Core.StandIn.marking_exclusive _ _ _)).1⟩

/-- The scout is managed, its card holds the key of its signer, and its request counts as
unsigned. -/
theorem signRequest_unrecognised :
    ¬ ∀ (daemon : DaemonState) (name cardJson file : String) (agent : AgentProcess) (card : AgentCard)
      (signer : RequestSigner) (request : Request) (now : DateTime) (nonce : Uuid) (rng : Nat),
      daemon.supervisor.lookup name = some agent →
      daemon.cardFile name = .content cardJson → FromStr.fromStr cardJson = .ok card →
      card.publicKey = encodePublicKey (Ed25519.verifyingKey signer.signingKey) →
      RequestSigner.fromPem "agent.pem" (some file) agent.config.agentId.toText = .ok signer →
      Carries request (signer.signRequest request.method request.uri.text [] now nonce rng) →
      verifyRequestSignature daemon request = .ok true := by
  intro interoperate
  have managed : StandIn.server.daemon.supervisor.lookup "scout" = some StandIn.scoutAgent := rfl
  have accepted := interoperate StandIn.server.daemon "scout" "card"
    (encodePrivateKeyPem Core.StandIn.seed) StandIn.scoutAgent StandIn.callerCard StandIn.signer
    StandIn.proxied 0 Uuid.nil 0 managed rfl (Core.StandIn.parser_head _ _ _) rfl StandIn.signer_made
    StandIn.proxied_carries
  obtain ⟨_, card, ⟨caller, _⟩, _⟩ := (verifyRequestSignature_iff _ _).mp accepted
  have named : (StandIn.proxied.header "x-clawid-agent").bind HeaderValue.toStr =
      some Uuid.nil.toText := by
    rw [(carried_headers StandIn.proxied_carries).2.2]
    exact HeaderValue.toStr_ofText (fun c member => uuid_visible member)
  have unknown : StandIn.server.daemon.supervisor.getAgent Uuid.nil.toText = none := by decide
  rw [A2a.callerCard, named] at caller
  simp only [unknown] at caller
  cases caller

end

end GrokingClawId.Daemon.A2a
