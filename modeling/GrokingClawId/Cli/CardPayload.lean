import Mathlib.Data.List.Sort
import Mathlib.Data.String.Basic
import GrokingClawId.Core.Models

/-!
# Signing payload of a card

`card_signing_payload` and `canonical_json` of `issue.rs`: the card with its signatures cleared,
written with sorted keys. The guard writes the same card in the order of the struct.
-/

namespace GrokingClawId.Cli
open GrokingClawId.Core

/-- `sort_by_key` on the key. -/
def sortByKey (entries : List (String × String)) : List (String × String) :=
  entries.insertionSort fun a b => a.1 ≤ b.1

mutual

/-- Sorted keys at every level, no extra whitespace. -/
def canonicalJson : Json → String
  | .obj fields =>
    let inner := (sortByKey (canonicalEntries fields)).map fun entry =>
      Json.quote entry.1 ++ ":" ++ entry.2
    "\x7b" ++ ",".intercalate inner ++ "\x7d"
  | .arr items => "[" ++ ",".intercalate (canonicalItems items) ++ "]"
  | .null => Json.render .null
  | .bool b => Json.render (.bool b)
  | .num text => Json.render (.num text)
  | .str s => Json.render (.str s)

def canonicalItems : List Json → List String
  | [] => []
  | v :: items => canonicalJson v :: canonicalItems items

def canonicalEntries : List (String × Json) → List (String × String)
  | [] => []
  | (key, v) :: fields => (key, canonicalJson v) :: canonicalEntries fields

end

theorem canonicalEntries_eq (fields : List (String × Json)) :
    canonicalEntries fields = fields.map fun field => (field.1, canonicalJson field.2) := by
  induction fields with
  | nil => rfl
  | cons field fields ih => rw [canonicalEntries, ih, List.map_cons]

theorem intercalate_first (sep first : String) (rest : List String) :
    ∃ tail, sep.intercalate (first :: rest) = first ++ tail := by
  cases rest with
  | nil => exact ⟨"", by rw [String.intercalate_singleton, String.append_empty]⟩
  | cons next rest =>
    exact ⟨sep ++ sep.intercalate (next :: rest), by rw [String.intercalate_cons_cons, String.append_assoc]⟩

theorem canonicalJson_first {fields : List (String × Json)} {key : String}
    (present : key ∈ fields.map Prod.fst) (least : ∀ k ∈ fields.map Prod.fst, key ≤ k) :
    ∃ rest, canonicalJson (.obj fields) = "\x7b" ++ (Json.quote key ++ rest) := by
  have keys : (canonicalEntries fields).map Prod.fst = fields.map Prod.fst := by
    rw [canonicalEntries_eq, List.map_map]
    rfl
  have order : (sortByKey (canonicalEntries fields)).Pairwise fun a b => a.1 ≤ b.1 := by
    have total : Std.Total fun a b : String × String => a.1 ≤ b.1 := ⟨fun a b => le_total a.1 b.1⟩
    have trans : IsTrans (String × String) fun a b => a.1 ≤ b.1 := ⟨fun a b c => le_trans⟩
    exact List.pairwise_insertionSort _ _
  have same : ∀ entry, entry ∈ sortByKey (canonicalEntries fields) ↔
      entry ∈ canonicalEntries fields :=
    fun entry => List.mem_insertionSort _
  cases sorted : sortByKey (canonicalEntries fields) with
  | nil =>
    rw [← keys] at present
    obtain ⟨entry, member, _⟩ := List.mem_map.mp present
    rw [← same, sorted] at member
    cases member
  | cons head tail =>
    have headKey : head.1 = key := by
      rw [sorted] at order same
      refine le_antisymm ?_ (least _ ?_)
      · rw [← keys] at present
        obtain ⟨entry, member, rfl⟩ := List.mem_map.mp present
        rcases List.mem_cons.mp ((same entry).mpr member) with rfl | later
        · exact le_refl _
        · exact (List.pairwise_cons.mp order).1 entry later
      · rw [← keys]
        exact List.mem_map_of_mem ((same head).mp List.mem_cons_self)
    obtain ⟨rest, text⟩ := intercalate_first "," (Json.quote head.1 ++ ":" ++ head.2)
      (tail.map fun entry => Json.quote entry.1 ++ ":" ++ entry.2)
    refine ⟨":" ++ (head.2 ++ (rest ++ "\x7d")), ?_⟩
    rw [canonicalJson, sorted, List.map_cons, text, headKey]
    simp only [String.append_assoc]

theorem render_first (key : String) (value : Json) (fields : List (String × Json)) :
    ∃ rest, Json.render (.obj ((key, value) :: fields)) = "\x7b" ++ (Json.quote key ++ rest) := by
  obtain ⟨rest, text⟩ :=
    intercalate_first "," (Json.quote key ++ ":" ++ Json.render value) (Json.renderFields fields)
  refine ⟨":" ++ (Json.render value ++ (rest ++ "\x7d")), ?_⟩
  rw [Json.render, Json.renderFields, text]
  simp only [String.append_assoc]

section Payload
variable [Chrono]

def cardSigningPayload (card : AgentCard) : String :=
  let cardForSigning := card.unsigned
  canonicalJson cardForSigning.toValue

@[simp] theorem cardSigningPayload_unsigned (card : AgentCard) :
    cardSigningPayload card.unsigned = cardSigningPayload card := rfl

theorem cardSigningPayload_congr {card card' : AgentCard} (same : card.unsigned = card'.unsigned) :
    cardSigningPayload card = cardSigningPayload card' := by
  rw [← cardSigningPayload_unsigned, same, cardSigningPayload_unsigned]

omit [Chrono] in
theorem optionalField_keys {key : String} {value : Option String} {k : String}
    (member : k ∈ (optionalField key value).map Prod.fst) : k = key := by
  cases value with
  | none => cases member
  | some s => exact List.mem_singleton.mp member

theorem cardSigningPayload_first (card : AgentCard) :
    ∃ rest, cardSigningPayload card = "\x7b" ++ (Json.quote "agent_type" ++ rest) := by
  have all : ∀ key ∈ ["id", "name", "owner", "scopes", "public_key", "pq_public_key", "signature",
      "pq_signature",
      "crypto_scheme", "issued_at", "expires_at", "agent_type", "parent_id", "spiffe_id"],
        "agent_type" ≤ key := by
    decide
  refine canonicalJson_first ?_ fun key member => all key ?_
  · simp
  · simp only [List.map_append, List.map_cons, List.map_nil, List.mem_append, List.mem_cons,
      List.not_mem_nil, or_false] at member
    rcases member with ((((((fixed | optional) | fixed) | optional) | fixed) | optional) | optional)
    · rcases fixed with rfl | rfl | rfl | rfl | rfl <;> simp
    · simp [optionalField_keys optional]
    · simp [fixed]
    · simp [optionalField_keys optional]
    · rcases fixed with rfl | rfl | rfl | rfl <;> simp
    · simp [optionalField_keys optional]
    · simp [optionalField_keys optional]

theorem render_toValue_first (card : AgentCard) :
    ∃ rest, Json.render card.toValue = "\x7b" ++ (Json.quote "id" ++ rest) := by
  obtain ⟨fields, shape⟩ : ∃ fields, card.toValue = .obj (("id", .str card.id.toText) :: fields) :=
    ⟨_, rfl⟩
  rw [shape]
  exact render_first _ _ fields

end Payload

end GrokingClawId.Cli
