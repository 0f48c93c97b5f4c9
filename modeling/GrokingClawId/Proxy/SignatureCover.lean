import Mathlib.Data.List.Forall2
import GrokingClawId.Proxy.Signer

/-!
# What a signature covers

The proxy puts the token of the agent into a request before it signs the request. The text that is
signed names the method, the target and the authority: two requests that differ in the token leave
with the same signature.
-/

namespace GrokingClawId.Proxy
open GrokingClawId.Core Text

/-- The values of `authorization` differ and nothing else does. -/
structure DifferInAuthorization (headers headers' : List (String × String)) : Prop where
  elsewhere : List.Forall₂ (fun a b => a.1 = b.1 ∧ (a.1 ≠ "authorization" → a.2 = b.2)) headers headers'
  differ : headers ≠ headers'

/-- A header that is the last of its name is replaced in place of another value. -/
theorem differ_insertHeader (headers : List (String × String)) {value value' : String}
    (different : value ≠ value') :
    DifferInAuthorization (insertHeader headers "authorization" value)
      (insertHeader headers "authorization" value') := by
  have name : "authorization".toLower = "authorization" := by decide +kernel
  constructor
  · simp only [insertHeader, name]
    refine List.rel_append (List.forall₂_same.mpr fun _ _ => ⟨rfl, fun _ => rfl⟩) ?_
    exact .cons ⟨rfl, fun other => absurd rfl other⟩ .nil
  · intro same
    have last := congrArg List.getLast? same
    simp only [insertHeader, List.getLast?_append, List.getLast?_singleton, Option.some_or,
      Option.some.injEq, Prod.mk.injEq, true_and] at last
    exact different last

section Cover
variable [UrlCrate] [Unicode] [Chrono] [Ed25519] [MlDsa65]

/-- The signature that the request gets is one over the message. -/
def RequestSigner.Signs (signer : RequestSigner) (method uri : String)
    (headers : List (String × String)) (now : DateTime) (nonce : Uuid) (rng : Nat)
    (message : String) : Prop :=
  ("Signature", s!"sig1=:{sign signer.signingKey message.toUTF8}:") ∈
    signer.signRequest method uri headers now nonce rng

/-- The two requests are signed over different messages. -/
def RequestSigner.Separates (signer : RequestSigner) (method uri : String)
    (headers headers' : List (String × String)) (now : DateTime) (nonce : Uuid) (rng : Nat) :
    Prop :=
  ∀ message message', signer.Signs method uri headers now nonce rng message →
    signer.Signs method uri headers' now nonce rng message' → message ≠ message'

theorem RequestSigner.signs_base (signer : RequestSigner) (method uri : String)
    (headers : List (String × String)) (now : DateTime) (nonce : Uuid) (rng : Nat) :
    signer.Signs method uri headers now nonce rng (signer.base method uri now nonce) := by
  obtain ⟨more, added, _⟩ := signer.signRequest_headers method uri headers now nonce rng
  rw [Signs, added]
  simp

omit [UrlCrate] [Unicode] [Chrono] [Ed25519] [MlDsa65] in
/-- Headers are looked for by name alone. -/
theorem DifferInAuthorization.any_name {headers headers' : List (String × String)}
    (differ : DifferInAuthorization headers headers') (p : String → Bool) :
    (headers'.any fun header => p header.1) = headers.any fun header => p header.1 := by
  have names := differ.elsewhere
  clear differ
  induction names with
  | nil => rfl
  | cons same _ ih => rw [List.any_cons, List.any_cons, same.1, ih]

/-- No signature of the proxy covers the token: requests that differ in it alone get the same
headers, signatures included, over the same text. -/
theorem RequestSigner.authorization_uncovered (signer : RequestSigner) (method uri : String)
    {headers headers' : List (String × String)} (now : DateTime) (nonce : Uuid) (rng : Nat)
    (differ : DifferInAuthorization headers headers') :
    ¬ signer.Separates method uri headers headers' now nonce rng ∧
      signer.signRequest method uri headers' now nonce rng =
        signer.signRequest method uri headers now nonce rng := by
  constructor
  · intro separates
    exact separates _ _ (signer.signs_base method uri headers now nonce rng)
      (signer.signs_base method uri headers' now nonce rng) rfl
  · have dated := differ.any_name fun name => decide (Unicode.toLowercase name = "date")
    simp only [signRequest, dated]

end Cover

section
open scoped Core.StandIn

def StandIn.scoutSigner : RequestSigner := ⟨Core.StandIn.seed, none, "scout", "clawid-scout"⟩

def StandIn.bearing (token : String) : List (String × String) :=
  insertHeader [] "authorization" s!"Bearer {token}"

theorem StandIn.bearing_differ : DifferInAuthorization (bearing "one") (bearing "two") :=
  differ_insertHeader [] (by decide)

theorem StandIn.authorization_uncovered_bearing :
    ¬ scoutSigner.Separates "GET" "/" (bearing "one") (bearing "two") 0 Uuid.nil 0 :=
  (scoutSigner.authorization_uncovered "GET" "/" 0 Uuid.nil 0 bearing_differ).1

/-- A request with one token and the same request with another one. -/
theorem RequestSigner.authorization_unsigned : ¬ ∀ (signer : RequestSigner) (method uri : String)
    (headers headers' : List (String × String)) (now : DateTime) (nonce : Uuid) (rng : Nat),
    DifferInAuthorization headers headers' →
    signer.Separates method uri headers headers' now nonce rng := by
  intro separates
  have apart := separates StandIn.scoutSigner "GET" "/" _ _ 0 Uuid.nil 0 StandIn.bearing_differ
  exact apart _ _ (StandIn.scoutSigner.signs_base _ _ _ _ _ _)
    (StandIn.scoutSigner.signs_base _ _ _ _ _ _) rfl

end
end GrokingClawId.Proxy
