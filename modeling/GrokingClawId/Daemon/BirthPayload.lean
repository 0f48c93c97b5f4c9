import GrokingClawId.Cli.CanonicalJson
import GrokingClawId.Daemon.BirthIdentity

/-!
# The signing payload of a birth

`canonical_json_bytes` of `birth.rs`, which is a copy of the encoder of the command line. The card of a
newborn agent is signed over the bytes that a verifier of the card rebuilds.
-/

namespace GrokingClawId.Daemon
open GrokingClawId.Core

mutual

def canonicalJsonString : Json → String
  | .obj map =>
    let entries := Cli.sortByKey (canonicalStringEntries map)
    let inner := entries.map fun entry => Json.quote entry.1 ++ ":" ++ entry.2
    "\x7b" ++ ",".intercalate inner ++ "\x7d"
  | .arr items =>
    let inner := canonicalStringItems items
    "[" ++ ",".intercalate inner ++ "]"
  | .null => Json.render .null
  | .bool b => Json.render (.bool b)
  | .num text => Json.render (.num text)
  | .str s => Json.render (.str s)

def canonicalStringItems : List Json → List String
  | [] => []
  | v :: items => canonicalJsonString v :: canonicalStringItems items

def canonicalStringEntries : List (String × Json) → List (String × String)
  | [] => []
  | (key, v) :: map => (key, canonicalJsonString v) :: canonicalStringEntries map

end

def canonicalJsonBytes (value : Json) : ByteArray := (canonicalJsonString value).toUTF8

mutual

theorem canonicalJsonString_eq : (v : Json) → canonicalJsonString v = Cli.canonicalJson v
  | .null => rfl
  | .bool _ => rfl
  | .num _ => rfl
  | .str _ => rfl
  | .arr items => by
    rw [canonicalJsonString, Cli.canonicalJson, canonicalStringItems_eq items]
  | .obj map => by
    rw [canonicalJsonString, Cli.canonicalJson, canonicalStringEntries_eq map]

theorem canonicalStringItems_eq :
    (items : List Json) → canonicalStringItems items = Cli.canonicalItems items
  | [] => rfl
  | v :: items => by
    rw [canonicalStringItems, Cli.canonicalItems, canonicalJsonString_eq v,
      canonicalStringItems_eq items]

theorem canonicalStringEntries_eq :
    (map : List (String × Json)) → canonicalStringEntries map = Cli.canonicalEntries map
  | [] => rfl
  | (key, v) :: map => by
    rw [canonicalStringEntries, Cli.canonicalEntries, canonicalJsonString_eq v,
      canonicalStringEntries_eq map]

end

theorem canonicalJsonBytes_eq (v : Json) : canonicalJsonBytes v = (Cli.canonicalJson v).toUTF8 := by
  rw [canonicalJsonBytes, canonicalJsonString_eq]

section Payload
variable [Chrono]

theorem canonicalJsonBytes_unsigned (card : AgentCard) :
    canonicalJsonBytes card.unsigned.toValue = (Cli.cardSigningPayload card).toUTF8 :=
  canonicalJsonBytes_eq _

/-- A newborn agent signs the bytes that the command line rebuilds from its card. -/
theorem localCard_signature [Ed25519] (params : BirthParams) (io : LocalIo) (expiresAt : DateTime) :
    (params.localCard io expiresAt).signature =
      sign io.seed (canonicalJsonBytes (params.localCard io expiresAt).unsigned.toValue) := by
  rw [canonicalJsonBytes_unsigned]
  rfl

/-- Canonical JSON is equal for values that are equal up to the order of their keys, and for no
others; payloads are equal for cards that agree on all but their signatures; and both encoders
agree. -/
theorem canonicalJson_canonical (serialize_inj : Function.Injective Chrono.serialize) :
    (∀ v w : Json, v.WellFormed → w.WellFormed →
      (Cli.canonicalJson v = Cli.canonicalJson w ↔ Json.UpToKeyOrder v w)) ∧
    (∀ card card' : AgentCard, Cli.cardSigningPayload card = Cli.cardSigningPayload card' ↔
      card' = { card with signature := card'.signature, pqSignature := card'.pqSignature }) ∧
    ∀ card : AgentCard, canonicalJsonBytes card.toValue = (Cli.canonicalJson card.toValue).toUTF8 :=
  ⟨fun _ _ wellFormed wellFormed' => Cli.canonicalJson_iff wellFormed wellFormed',
    fun _ _ => Cli.cardSigningPayload_iff serialize_inj, fun card => canonicalJsonBytes_eq card.toValue⟩

end Payload

section
open scoped StandIn

def StandIn.ordered : Json := .obj [("a", .null), ("b", .arr [.num "1"])]

def StandIn.swapped : Json := .obj [("b", .arr [.num "1"]), ("a", .null)]

theorem StandIn.one_wellFormed : (Json.arr [.num "1"]).WellFormed := by
  refine .arr fun v member => ?_
  rw [List.mem_singleton.mp member]
  exact .num (by decide) (Text.forall_of_all (by decide))

theorem StandIn.ordered_wellFormed : ordered.WellFormed := by
  refine .obj (by decide) fun field member => ?_
  simp only [List.mem_cons, List.not_mem_nil, or_false] at member
  rcases member with rfl | rfl
  · exact .null
  · exact one_wellFormed

theorem StandIn.swapped_wellFormed : swapped.WellFormed := by
  refine .obj (by decide) fun field member => ?_
  simp only [List.mem_cons, List.not_mem_nil, or_false] at member
  rcases member with rfl | rfl
  · exact one_wellFormed
  · exact .null

theorem canonicalJson_canonical_swapped :
    Cli.canonicalJson StandIn.ordered = Cli.canonicalJson StandIn.swapped := by
  have serialize_inj : Function.Injective Chrono.serialize := fun _ _ => Text.toString_int_inj
  refine ((canonicalJson_canonical serialize_inj).1 _ _ StandIn.ordered_wellFormed
    StandIn.swapped_wellFormed).mpr (.obj (List.Perm.swap _ _ _) fun key v v' member member' => ?_)
  simp only [List.mem_cons, List.not_mem_nil, or_false, Prod.mk.injEq] at member member'
  rcases member with ⟨rfl, rfl⟩ | ⟨rfl, rfl⟩
  · rcases member' with ⟨other, _⟩ | ⟨_, rfl⟩
    · exact absurd other (by decide)
    · exact .null
  · rcases member' with ⟨_, rfl⟩ | ⟨other, _⟩
    · exact .arr rfl fun i v v' at_i at_i' => by
        obtain rfl := Option.some.inj (at_i.symm.trans at_i')
        cases i with
        | zero =>
          obtain rfl := Option.some.inj at_i
          exact .num "1"
        | succ i => cases at_i
    · exact absurd other (by decide)

end

end GrokingClawId.Daemon
