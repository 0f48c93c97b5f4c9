import GrokingClawId.Lib.MerkleTree
import GrokingClawId.Daemon.Anchor

/-!
# What a Merkle root binds

The roots of `anchor.rs` for hashes of 64 characters. A digest of fixed length has collisions, so it is
only asked that none occurs among the messages that are hashed for the roots in question.
-/

namespace GrokingClawId.Daemon
open GrokingClawId.Core Codec MerkleTree

section Roots
variable [Sha256]

/-- The hash of two hashes, written one after the other. -/
def joined (left right : String) : String := sha256Hex (left ++ right).toUTF8

theorem nextLevel_eq (hashes : List String) : nextLevel hashes = level joined hashes := by
  fun_induction nextLevel hashes with
  | case1 => rfl
  | case2 last => rfl
  | case3 a b rest ih =>
    rw [ih]
    rfl

theorem computeMerkleRoot_eq (hashes : List String) :
    computeMerkleRoot hashes = root joined (sha256Hex "empty".toUTF8) hashes := by
  fun_induction computeMerkleRoot hashes with
  | case1 => rw [root]
  | case2 hash => rw [root]
  | case3 a b rest ih => rw [ih, nextLevel_eq, root]

/-- The messages that are hashed for the root. -/
def merkleMessages (hashes : List String) : List ByteArray :=
  (hashed joined hashes).map fun p => (p.1 ++ p.2).toUTF8

/-- Digests of 32 bytes, different for different ones of the messages. -/
structure CollisionFree (messages : List ByteArray) : Prop where
  length : ∀ message ∈ messages, (Sha256.digest message).length = 32
  apart : ∀ message ∈ messages, ∀ message' ∈ messages, Sha256.digest message = Sha256.digest message' →
    message = message'

theorem CollisionFree.mono {messages within : List ByteArray} (free : CollisionFree within)
    (inside : messages ⊆ within) : CollisionFree messages where
  length message member := free.length message (inside member)
  apart message member message' member' := free.apart message (inside member) message' (inside member')

theorem length_sha256Hex {message : ByteArray} (digest : (Sha256.digest message).length = 32) :
    (sha256Hex message).length = 64 := by
  rw [sha256Hex, String.length_ofList, length_hexEncode, digest]

theorem length_merkle {hashes : List String} (hex : ∀ hash ∈ hashes, hash.length = 64)
    (free : CollisionFree (merkleMessages hashes)) {p : String × String}
    (member : p ∈ hashed joined hashes) : p.1.length = 64 ∧ p.2.length = 64 := by
  refine of_mem_hashed joined hex (fun q inside => ?_) member
  exact length_sha256Hex (free.length _ (List.mem_map_of_mem inside))

theorem joined_free {xs ys : List String} (hexX : ∀ hash ∈ xs, hash.length = 64)
    (hexY : ∀ hash ∈ ys, hash.length = 64)
    (free : CollisionFree (merkleMessages xs ++ merkleMessages ys)) :
    MerkleTree.CollisionFree joined (hashed joined xs ++ hashed joined ys) := by
  have lengths : ∀ p ∈ hashed joined xs ++ hashed joined ys, p.1.length = 64 ∧ p.2.length = 64 := by
    intro p member
    rcases List.mem_append.mp member with left | right
    · exact length_merkle hexX (free.mono (List.subset_append_left _ _)) left
    · exact length_merkle hexY (free.mono (List.subset_append_right _ _)) right
  have message : ∀ p ∈ hashed joined xs ++ hashed joined ys,
      (p.1 ++ p.2).toUTF8 ∈ merkleMessages xs ++ merkleMessages ys := by
    intro p member
    rw [merkleMessages, merkleMessages, ← List.map_append]
    exact List.mem_map_of_mem member
  intro p member q member' same
  have digests : Sha256.digest (p.1 ++ p.2).toUTF8 = Sha256.digest (q.1 ++ q.2).toUTF8 :=
    hexEncode_inj (by simpa [joined, sha256Hex] using congrArg String.toList same)
  have texts := String.toByteArray_inj.mp (free.apart _ (message p member) _ (message q member') digests)
  have chars : p.1.toList ++ p.2.toList = q.1.toList ++ q.2.toList := by
    simpa using congrArg String.toList texts
  obtain ⟨first, second⟩ := List.append_inj chars (by
    rw [String.length_toList, String.length_toList, (lengths p member).1, (lengths q member').1])
  exact Prod.ext (String.toList_inj.mp first) (String.toList_inj.mp second)

/-- The root and the number of the hashes determine the batch. -/
theorem computeMerkleRoot_binds {xs ys : List String} (same : xs.length = ys.length)
    (hexX : ∀ hash ∈ xs, hash.length = 64) (hexY : ∀ hash ∈ ys, hash.length = 64)
    (free : CollisionFree (merkleMessages xs ++ merkleMessages ys)) :
    computeMerkleRoot xs = computeMerkleRoot ys ↔ xs = ys := by
  rw [computeMerkleRoot_eq, computeMerkleRoot_eq]
  exact root_inj _ same (joined_free hexX hexY free)

/-- One hash more makes another root unless it repeats what the list ends in. -/
theorem computeMerkleRoot_append_iff {hashes : List String} (nonempty : hashes ≠ []) {hash : String}
    (hexes : ∀ other ∈ hashes, other.length = 64) (hex : hash.length = 64)
    (free : CollisionFree (merkleMessages hashes ++ merkleMessages (hashes ++ [hash]))) :
    computeMerkleRoot (hashes ++ [hash]) ≠ computeMerkleRoot hashes ↔
      ¬ Repeats hashes hash ∧ ¬ Absorbs joined (sha256Hex "empty".toUTF8) hashes hash := by
  have hexes' : ∀ other ∈ hashes ++ [hash], other.length = 64 := by
    intro other member
    rcases List.mem_append.mp member with before | last
    · exact hexes other before
    · rw [List.mem_singleton.mp last, hex]
  rw [← not_or, computeMerkleRoot_eq, computeMerkleRoot_eq]
  exact not_congr (root_append_iff _ nonempty (joined_free hexes hexes' free))

end Roots

namespace StandIn

/-- The first bytes of the message. -/
@[reducible] def leading : Sha256 where
  digest message := message.data.toList.takeD 32 0

def leaf (c : Char) : String := String.ofList (List.replicate 64 c)

theorem length_leaf (c : Char) : (leaf c).length = 64 := by
  rw [leaf, String.length_ofList, List.length_replicate]

theorem leading_free {messages : List ByteArray}
    (differ : letI := leading
      (messages.map Sha256.digest).Nodup) :
    letI := leading
    CollisionFree messages :=
  letI := leading
  ⟨fun message _ => List.takeD_length 32 message.data.toList 0, fun _ member _ member' same =>
    List.inj_on_of_nodup_map differ member member' same⟩

theorem length_leaves (cs : List Char) : ∀ hash ∈ cs.map leaf, hash.length = 64 := by
  intro hash member
  obtain ⟨c, _, rfl⟩ := List.mem_map.mp member
  exact length_leaf c

theorem computeMerkleRoot_binds_two :
    letI := leading
    computeMerkleRoot (['0', '1'].map leaf) ≠ computeMerkleRoot (['1', '0'].map leaf) := by
  let _ := leading
  have free : CollisionFree (merkleMessages (['0', '1'].map leaf) ++
      merkleMessages (['1', '0'].map leaf)) := by
    show CollisionFree (merkleMessages [leaf '0', leaf '1'] ++ merkleMessages [leaf '1', leaf '0'])
    rw [merkleMessages, merkleMessages, hashed_two, hashed_two]
    refine leading_free ?_
    decide
  have lengths : (['0', '1'].map leaf).length = (['1', '0'].map leaf).length := rfl
  rw [Ne, computeMerkleRoot_binds lengths (length_leaves _) (length_leaves _) free]
  decide

/-- Two entries, and the second once more before the third. -/
theorem three_free :
    letI := leading
    CollisionFree (merkleMessages (['0', '0', '1'].map leaf) ++
      merkleMessages (['0', '0', '1'].map leaf ++ [leaf '1'])) := by
  let _ := leading
  have three : hashed joined [leaf '0', leaf '0', leaf '1'] =
      [(leaf '0', leaf '0'), (leaf '1', leaf '1'),
      (joined (leaf '0') (leaf '0'), joined (leaf '1') (leaf '1'))] := by
    rw [hashed_level joined (by simp)]
    exact congrArg (_ ++ ·) (hashed_two joined _ _)
  have four : hashed joined [leaf '0', leaf '0', leaf '1', leaf '1'] =
      hashed joined [leaf '0', leaf '0', leaf '1'] := by
    rw [three, hashed_level joined (by simp)]
    exact congrArg (_ ++ ·) (hashed_two joined _ _)
  show CollisionFree (merkleMessages [leaf '0', leaf '0', leaf '1'] ++
    merkleMessages [leaf '0', leaf '0', leaf '1', leaf '1'])
  rw [merkleMessages, merkleMessages, four, three]
  refine CollisionFree.mono (leading_free ?_)
    (List.append_subset.mpr ⟨List.Subset.refl _, List.Subset.refl _⟩)
  decide

theorem computeMerkleRoot_append_three :
    letI := leading
    computeMerkleRoot (['0', '0', '1'].map leaf ++ [leaf '1']) =
      computeMerkleRoot (['0', '0', '1'].map leaf) := by
  let _ := leading
  by_contra differ
  have iff := computeMerkleRoot_append_iff (List.cons_ne_nil _ _) (length_leaves ['0', '0', '1'])
    (length_leaf '1') three_free
  exact (iff.mp differ).1 ⟨0, 3, ['0', '0'].map leaf, by decide, le_rfl, rfl, rfl⟩

/-- The last entry of three is appended once more, and the root stays. -/
theorem computeMerkleRoot_extended :
    letI := leading
    ¬ ∀ (hashes : List String)
      (hash : String), hashes ≠ [] → (∀ other ∈ hashes, other.length = 64) →
      hash.length = 64 → CollisionFree (merkleMessages hashes ++ merkleMessages (hashes ++ [hash])) →
      computeMerkleRoot (hashes ++ [hash]) ≠ computeMerkleRoot hashes := by
  let _ := leading
  intro detects
  refine detects (['0', '0', '1'].map leaf) (leaf '1') (List.cons_ne_nil _ _) (length_leaves _)
    (length_leaf '1') three_free ?_
  show computeMerkleRoot [leaf '0', leaf '0', leaf '1', leaf '1'] =
    computeMerkleRoot [leaf '0', leaf '0', leaf '1']
  rw [computeMerkleRoot, computeMerkleRoot]
  rfl

end StandIn
end GrokingClawId.Daemon
