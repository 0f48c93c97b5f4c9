import GrokingClawId.Core.Crypto
import GrokingClawId.Lib.Json

/-!
# Data models

`models.rs`: identifiers, times, the agent card with the JSON value it serializes to, and the
entries of the audit log.
-/

namespace GrokingClawId.Core
open Text Codec

/-! ### Identifiers -/

/-- A UUID is its sixteen bytes. -/
abbrev Uuid := Bytes 16

namespace Uuid

def groups (id : Uuid) : List (List UInt8) :=
  [id.val.take 4, (id.val.drop 4).take 2, (id.val.drop 6).take 2, (id.val.drop 8).take 2, id.val.drop 10]

def toText (id : Uuid) : String :=
  String.ofList (['-'].intercalate (id.groups.map hexEncode))

def parseHyphenated (s : List Char) : Option Uuid := do
  let parts := s.splitOn '-'
  if parts.map List.length = [8, 4, 4, 4, 12] then tryInto 16 (← hexDecode parts.flatten) else none

/-- `Uuid::parse_str`: the simple, hyphenated, braced and URN forms. -/
def parseStr (text : String) : Option Uuid := do
  let s := text.toList
  if s.length = 32 then tryInto 16 (← hexDecode s)
  else if s.length = 36 then parseHyphenated s
  else if s.length = 38 ∧ s.head? = some '\x7b' ∧ s.getLast? = some '\x7d' then
    parseHyphenated (s.drop 1).dropLast
  else if s.length = 45 ∧ "urn:uuid:".toList.isPrefixOf s then parseHyphenated (s.drop 9)
  else none

def nil : Uuid := ⟨List.replicate 16 0, by decide⟩

theorem groups_flatten (id : Uuid) : id.groups.flatten = id.val := by
  obtain ⟨bytes, length⟩ := id
  have cut : ∀ a b, bytes.drop a = (bytes.drop a).take b ++ bytes.drop (a + b) := by
    intro a b
    rw [← List.drop_drop, List.take_append_drop]
  simp only [groups, List.flatten_cons, List.flatten_nil, List.append_nil]
  rw [← cut 8 2, ← cut 6 2, ← cut 4 2, List.take_append_drop]

theorem groups_length (id : Uuid) : id.groups.map List.length = [4, 2, 2, 2, 6] := by
  obtain ⟨bytes, length⟩ := id
  simp [groups, length]

theorem not_mem_toText {c : Char} (foreign : ∀ n < 16, c ≠ Nat.digitChar n) (dash : c ≠ '-')
    (id : Uuid) :
    c ∉ (toText id).toList := by
  rw [toText, String.toList_ofList]
  have digits := not_mem_hexEncode foreign
  simp [groups, List.intercalate_cons_cons, digits, dash]

theorem mem_toText {c : Char} {id : Uuid} (member : c ∈ (toText id).toList) :
    (∃ n < 16, c = Nat.digitChar n) ∨ c = '-' := by
  by_contra neither
  obtain ⟨foreign, dash⟩ := not_or.mp neither
  exact not_mem_toText (fun n small same => foreign ⟨n, small, same⟩) dash id member

theorem parseHyphenated_groups (id : Uuid) :
    parseHyphenated (['-'].intercalate (id.groups.map hexEncode)) = some id := by
  have lengths : (id.groups.map hexEncode).map List.length = [8, 4, 4, 4, 12] := by
    rw [List.map_map, show List.length ∘ hexEncode = (2 * ·) ∘ List.length from funext length_hexEncode,
      ← List.map_map, groups_length]
    rfl
  have joined : (id.groups.map hexEncode).flatten = hexEncode id.val := by
    rw [← groups_flatten id]
    simp [groups, hexEncode]
  have plain : ∀ s ∈ id.groups.map hexEncode, '-' ∉ s := by
    intro s member
    obtain ⟨bytes, _, rfl⟩ := List.mem_map.mp member
    exact not_mem_hexEncode (by decide) bytes
  rw [parseHyphenated, List.splitOn_intercalate '-' plain (by simp [groups])]
  simp only [lengths, if_true, joined, hexDecode_hexEncode, Option.bind_eq_bind, Option.bind_some]
  exact tryInto_val id

theorem parseStr_toText (id : Uuid) : parseStr (toText id) = some id := by
  have length : (['-'].intercalate (id.groups.map hexEncode)).length = 36 := by
    obtain ⟨bytes, size⟩ := id
    simp [groups, List.intercalate_cons_cons, length_hexEncode, size]
  rw [parseStr, toText, String.toList_ofList]
  simp only [length]
  exact parseHyphenated_groups id

end Uuid

/-! ### Times -/

/-- `DateTime<Utc>` in nanoseconds since the epoch. -/
abbrev DateTime := Int

namespace DateTime

def nanosPerSecond : Int := 1000000000

def min : DateTime := -8334601228800 * nanosPerSecond

def max : DateTime := 8210266876799 * nanosPerSecond + 999999999

def timestamp (t : DateTime) : Int := t / nanosPerSecond

/-- `now + duration`, with the duration in seconds. -/
def add (now : DateTime) (seconds : Int) : Outcome DateTime :=
  let t := now + seconds * nanosPerSecond
  if min ≤ t ∧ t ≤ max then .ok t else .error (.panic "`DateTime + TimeDelta` overflowed")

end DateTime

/-- The texts `chrono` writes for a time. -/
class Chrono where
  toRfc3339 : DateTime → String
  toRfc2822 : DateTime → String
  /-- `Serialize for DateTime<Utc>`. -/
  serialize : DateTime → String

/-- `url::Url`, by what its accessors return. -/
structure Url where
  hostStr : Option String
  port : Option Nat
  path : String
  query : Option String

class UrlCrate where
  parse : String → Option Url

namespace StandIn

scoped instance chrono : Chrono where
  toRfc3339 t := toString t
  toRfc2822 t := toString t
  serialize t := toString t

scoped instance urlCrate : UrlCrate where
  parse text :=
    if "http://".toList.isPrefixOf text.toList then
      let rest := text.toList.drop 7
      some { hostStr := some (String.ofList (rest.takeWhile (· ≠ '/'))), port := none,
             path := String.ofList (rest.dropWhile (· ≠ '/')), query := none }
    else none

end StandIn

/-- `serde_json::from_str::<T>`. -/
class FromStr (T : Type) where
  fromStr : String → Except String T

@[reducible] def StandIn.parser {T : Type} (table : List (String × T)) : FromStr T where
  fromStr text := orErr (table.lookup text) "expected value"

theorem StandIn.parser_head {T : Type} (text : String) (t : T) (table : List (String × T)) :
    (StandIn.parser ((text, t) :: table)).fromStr text = .ok t := by
  show orErr (List.lookup text ((text, t) :: table)) _ = _
  rw [List.lookup_cons_self, orErr_some]

theorem StandIn.parser_tail {T : Type} {text key : String} (different : text ≠ key) (t : T)
    (table : List (String × T)) :
    (StandIn.parser ((key, t) :: table)).fromStr text = (StandIn.parser table).fromStr text := by
  show orErr (List.lookup text ((key, t) :: table)) _ = _
  rw [List.lookup_cons, beq_eq_false_iff_ne.mpr different]
  rfl

theorem StandIn.parser_other {T : Type} {text key : String} (different : text ≠ key) (t : T) :
    (StandIn.parser [(key, t)]).fromStr text = .error "expected value" :=
  StandIn.parser_tail different t []

/-! ### Agent cards -/

inductive CryptoScheme where
  | ed25519 | mlDsa65 | hybrid
  deriving DecidableEq, Repr

def CryptoScheme.serialize : CryptoScheme → String
  | ed25519 => "ed25519"
  | mlDsa65 => "ml-dsa-65"
  | hybrid => "hybrid"

def CryptoScheme.display : CryptoScheme → String
  | ed25519 => "ed25519"
  | mlDsa65 => "ml-dsa-65"
  | hybrid => "hybrid (ed25519 + ml-dsa-65)"

def CryptoScheme.parse [Unicode] (s : String) : Except String CryptoScheme :=
  match String.ofList ((Unicode.toLowercase s).toList.map fun c => if c = '_' then '-' else c) with
  | "ed25519" => .ok ed25519
  | "ml-dsa-65" | "mldsa65" | "dilithium" | "pq" => .ok mlDsa65
  | "hybrid" => .ok hybrid
  | _ => .error s!"Invalid crypto scheme: '{s}'. Expected: ed25519, ml-dsa-65, hybrid"

inductive AgentType where
  | type | «instance» | session
  deriving DecidableEq, Repr

def AgentType.serialize : AgentType → String
  | type => "type"
  | .instance => "instance"
  | session => "session"

def AgentType.parse [Unicode] (s : String) : Except String AgentType :=
  match Unicode.toLowercase s with
  | "type" => .ok type
  | "instance" => .ok .instance
  | "session" => .ok session
  | _ => .error s!"Invalid agent type: '{s}'. Expected: type, instance, session"

structure AgentCard where
  id : Uuid
  name : String
  owner : String
  scopes : List String
  publicKey : String
  pqPublicKey : Option String
  signature : String
  pqSignature : Option String
  cryptoScheme : CryptoScheme
  issuedAt : DateTime
  expiresAt : DateTime
  agentType : AgentType
  parentId : Option Uuid
  spiffeId : Option String
  deriving DecidableEq

/-- `skip_serializing_if = "Option::is_none"`. -/
def optionalField (key : String) : Option String → List (String × Json)
  | some s => [(key, .str s)]
  | none => []

namespace AgentCard

/-- The derived serialization: the fields in the order of the struct. -/
def toValue [Chrono] (card : AgentCard) : Json := .obj <|
  [("id", .str card.id.toText), ("name", .str card.name), ("owner", .str card.owner),
    ("scopes", .arr (card.scopes.map .str)), ("public_key", .str card.publicKey)] ++
  optionalField "pq_public_key" card.pqPublicKey ++
  [("signature", .str card.signature)] ++
  optionalField "pq_signature" card.pqSignature ++
  [("crypto_scheme", .str card.cryptoScheme.serialize),
    ("issued_at", .str (Chrono.serialize card.issuedAt)),
    ("expires_at", .str (Chrono.serialize card.expiresAt)),
    ("agent_type", .str card.agentType.serialize)] ++
  optionalField "parent_id" (card.parentId.map Uuid.toText) ++
  optionalField "spiffe_id" card.spiffeId

def toStringPretty [Chrono] (card : AgentCard) : String := Json.pretty 0 card.toValue

/-- The card that is signed: both signature fields cleared. -/
def unsigned (card : AgentCard) : AgentCard := { card with signature := "", pqSignature := none }

def generateSpiffeId [Unicode] (trustDomain name : String) (agentType : AgentType) : String :=
  let typeSegment := agentType.serialize
  let safeName := String.ofList (name.toList.map fun c =>
    if Unicode.isAlphanumeric c || c = '-' || c = '_' then c else '-')
  s!"spiffe://{trustDomain}/agent/{typeSegment}/{safeName}"

end AgentCard

/-! ### Delegation tokens -/

structure DelegationToken where
  id : Uuid
  parentId : Uuid
  agentName : String
  scopes : List String
  issuedAt : DateTime
  expiresAt : DateTime
  signature : String
  pqSignature : Option String
  cryptoScheme : CryptoScheme
  deriving DecidableEq

namespace DelegationToken

def toValue [Chrono] (token : DelegationToken) : Json := .obj <|
  [("id", .str token.id.toText), ("parent_id", .str token.parentId.toText),
    ("agent_name", .str token.agentName), ("scopes", .arr (token.scopes.map .str)),
    ("issued_at", .str (Chrono.serialize token.issuedAt)),
    ("expires_at", .str (Chrono.serialize token.expiresAt)),
    ("signature", .str token.signature)] ++
  optionalField "pq_signature" token.pqSignature ++
  [("crypto_scheme", .str token.cryptoScheme.serialize)]

def toStringPretty [Chrono] (token : DelegationToken) : String := Json.pretty 0 token.toValue

end DelegationToken

/-! ### Audit entries -/

structure AuditEntry where
  id : Nat
  agentId : Uuid
  action : String
  target : String
  timestamp : Int
  prevHash : String
  entryHash : String
  signature : String
  deriving DecidableEq

end GrokingClawId.Core
