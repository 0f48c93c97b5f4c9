import Mathlib.Algebra.Ring.Parity
import Mathlib.Data.List.Basic

/-!
# Merkle trees

The hashes of a list are put together in pairs, level by level, until one is left. A hash without a
sibling is its own, so that lists of different lengths can have one root. A pair is said to be hashed
for a list when it is put together on the way to the root; that no two of these pairs collide is all
that is asked of the hash function.
-/

namespace GrokingClawId.MerkleTree
variable {H : Type}

def pairs : List H → List (H × H)
  | [] => []
  | [last] => [(last, last)]
  | a :: b :: rest => (a, b) :: pairs rest

@[simp] theorem length_pairs (hashes : List H) :
    (pairs hashes).length = (hashes.length + 1) / 2 := by
  fun_induction pairs hashes with
  | case1 => simp
  | case2 last => simp
  | case3 a b rest ih =>
    rw [List.length_cons, ih, List.length_cons, List.length_cons]
    omega

theorem pairs_append {front : List H} (even : front.length % 2 = 0) (back : List H) :
    pairs (front ++ back) = pairs front ++ pairs back := by
  fun_induction pairs front with
  | case1 => rfl
  | case2 last => simp at even
  | case3 a b rest ih =>
    rw [List.length_cons, List.length_cons] at even
    rw [List.cons_append, List.cons_append, pairs, ih (by omega), List.cons_append]

theorem pairs_inj {xs ys : List H} (same : xs.length = ys.length) (paired : pairs xs = pairs ys) :
    xs = ys := by
  fun_induction pairs xs generalizing ys with
  | case1 => exact (List.length_eq_zero_iff.mp same.symm).symm
  | case2 last =>
    obtain ⟨only, rfl⟩ := List.length_eq_one_iff.mp same.symm
    rw [pairs, List.cons.injEq, Prod.mk.injEq] at paired
    rw [paired.1.1]
  | case3 a b rest ih =>
    rcases ys with _ | ⟨c, _ | ⟨d, others⟩⟩
    · cases same
    · simp at same
    · rw [pairs, List.cons.injEq, Prod.mk.injEq] at paired
      obtain ⟨⟨rfl, rfl⟩, rest_paired⟩ := paired
      rw [ih (by simpa using same) rest_paired]

/-- Back from pairs to the list. -/
def unpair (ps : List (H × H)) : List H := ps.flatMap fun p => [p.1, p.2]

theorem unpair_pairs {hashes : List H} (even : hashes.length % 2 = 0) :
    unpair (pairs hashes) = hashes := by
  fun_induction pairs hashes with
  | case1 => rfl
  | case2 last => simp at even
  | case3 a b rest ih =>
    rw [List.length_cons, List.length_cons] at even
    rw [unpair, List.flatMap_cons, ← unpair, ih (by omega)]
    rfl

theorem pairs_replicate (n : Nat) (hash : H) :
    pairs (List.replicate (2 * n) hash) = List.replicate n (hash, hash) := by
  induction n with
  | zero => rfl
  | succ n ih =>
    rw [Nat.mul_succ, List.replicate_succ, List.replicate_succ, pairs, ih, List.replicate_succ]

theorem unpair_replicate (n : Nat) (hash : H) :
    unpair (List.replicate n (hash, hash)) = List.replicate (2 * n) hash := by
  rw [← pairs_replicate, unpair_pairs (by rw [List.length_replicate]; omega)]

theorem mem_pairs {hashes : List H} {p : H × H} (member : p ∈ pairs hashes) :
    p.1 ∈ hashes ∧ p.2 ∈ hashes := by
  fun_induction pairs hashes with
  | case1 => cases member
  | case2 last =>
    rw [List.mem_singleton.mp member]
    exact ⟨List.mem_singleton_self _, List.mem_singleton_self _⟩
  | case3 a b rest ih =>
    rcases List.mem_cons.mp member with rfl | later
    · exact ⟨List.mem_cons_self, List.mem_cons_of_mem _ List.mem_cons_self⟩
    · obtain ⟨left, right⟩ := ih later
      exact ⟨List.mem_cons_of_mem _ (List.mem_cons_of_mem _ left),
        List.mem_cons_of_mem _ (List.mem_cons_of_mem _ right)⟩

/-! ### Levels and roots -/

variable (node : H → H → H)

/-- One level up. -/
def level (hashes : List H) : List H := (pairs hashes).map fun p => node p.1 p.2

@[simp] theorem length_level (hashes : List H) :
    (level node hashes).length = (hashes.length + 1) / 2 := by
  rw [level, List.length_map, length_pairs]

/-- `empty` is the root of no hashes. -/
def root (empty : H) : List H → H
  | [] => empty
  | [hash] => hash
  | a :: b :: rest => root empty (level node (a :: b :: rest))
termination_by hashes => hashes.length
decreasing_by simp only [length_level, List.length_cons]; omega

/-- The pairs that are hashed for a list. -/
def hashed : List H → List (H × H)
  | [] => []
  | [_] => []
  | a :: b :: rest => pairs (a :: b :: rest) ++ hashed (level node (a :: b :: rest))
termination_by hashes => hashes.length
decreasing_by simp only [length_level, List.length_cons]; omega

theorem root_single (empty only : H) : root node empty [only] = only := by rw [root]

theorem root_two (empty only hash : H) : root node empty [only, hash] = node only hash := by
  rw [root]
  exact root_single node empty _

theorem root_level (empty : H) {hashes : List H} (long : 2 ≤ hashes.length) :
    root node empty hashes = root node empty (level node hashes) := by
  rcases hashes with _ | ⟨a, _ | ⟨b, rest⟩⟩
  · simp at long
  · simp at long
  · rw [root]

theorem hashed_level {hashes : List H} (long : 2 ≤ hashes.length) :
    hashed node hashes = pairs hashes ++ hashed node (level node hashes) := by
  rcases hashes with _ | ⟨a, _ | ⟨b, rest⟩⟩
  · simp at long
  · simp at long
  · rw [hashed]

theorem hashed_single (only : H) : hashed node [only] = [] := by rw [hashed]

theorem hashed_two (a b : H) : hashed node [a, b] = [(a, b)] := by
  rw [hashed]
  exact congrArg ([(a, b)] ++ ·) (hashed_single node _)

/-- What holds of the hashes of a list and of every hash made on the way holds of whatever is
hashed. -/
theorem of_mem_hashed {P : H → Prop} {hashes : List H} (start : ∀ hash ∈ hashes, P hash)
    (made : ∀ p ∈ hashed node hashes, P (node p.1 p.2)) {p : H × H}
    (member : p ∈ hashed node hashes) :
    P p.1 ∧ P p.2 := by
  fun_induction hashed node hashes with
  | case1 => cases member
  | case2 => cases member
  | case3 a b rest ih =>
    rcases List.mem_append.mp member with here | above
    · obtain ⟨left, right⟩ := mem_pairs here
      exact ⟨start _ left, start _ right⟩
    · refine ih (fun hash inside => ?_) (fun q inside => made q (List.mem_append_right _ inside)) above
      obtain ⟨q, paired, rfl⟩ := List.mem_map.mp inside
      exact made q (List.mem_append_left _ paired)

/-- No two of the pairs have one hash. -/
def CollisionFree (ps : List (H × H)) : Prop :=
  ∀ p ∈ ps, ∀ q ∈ ps, node p.1 p.2 = node q.1 q.2 → p = q

variable {node}

theorem CollisionFree.mono {ps qs : List (H × H)} (free : CollisionFree node qs)
    (within : ps ⊆ qs) :
    CollisionFree node ps :=
  fun p member q member' same => free p (within member) q (within member') same

theorem CollisionFree.map_inj {ps qs : List (H × H)} (free : CollisionFree node (ps ++ qs))
    (same : (ps.map fun p => node p.1 p.2) = qs.map fun p => node p.1 p.2) : ps = qs := by
  induction ps generalizing qs with
  | nil => exact (List.map_eq_nil_iff.mp same.symm).symm
  | cons p ps ih =>
    cases qs with
    | nil => cases same
    | cons q qs =>
      rw [List.map_cons, List.map_cons, List.cons.injEq] at same
      have first : p = q := free p List.mem_cons_self q
        (List.mem_append_right _ List.mem_cons_self) same.1
      have rest : CollisionFree node (ps ++ qs) := free.mono fun x member => by
        rcases List.mem_append.mp member with left | right
        · exact List.mem_append_left _ (List.mem_cons_of_mem _ left)
        · exact List.mem_append_right _ (List.mem_cons_of_mem _ right)
      rw [first, ih rest same.2]

/-- The level and the length determine the level below. -/
theorem CollisionFree.level_iff {xs ys : List H}
    (free : CollisionFree node (pairs xs ++ pairs ys)) :
    level node xs = level node ys ↔ pairs xs = pairs ys :=
  ⟨free.map_inj, congrArg _⟩

theorem CollisionFree.up {xs ys : List H} (longX : 2 ≤ xs.length) (longY : 2 ≤ ys.length)
    (free : CollisionFree node (hashed node xs ++ hashed node ys)) :
    CollisionFree node (pairs xs ++ pairs ys) ∧
      CollisionFree node (hashed node (level node xs) ++ hashed node (level node ys)) := by
  rw [hashed_level node longX, hashed_level node longY] at free
  constructor
  · refine free.mono fun p member => ?_
    simp only [List.mem_append] at member ⊢
    tauto
  · refine free.mono fun p member => ?_
    simp only [List.mem_append] at member ⊢
    tauto

/-- The root and the length determine the hashes. -/
theorem root_inj (empty : H) {xs ys : List H} (same : xs.length = ys.length)
    (free : CollisionFree node (hashed node xs ++ hashed node ys)) :
    root node empty xs = root node empty ys ↔ xs = ys := by
  refine ⟨fun roots => ?_, congrArg _⟩
  induction size : xs.length using Nat.strong_induction_on generalizing xs ys with
  | _ n ih =>
    by_cases long : 2 ≤ xs.length
    · have long' : 2 ≤ ys.length := by rwa [← same]
      obtain ⟨here, above⟩ := free.up long long'
      rw [root_level node empty long, root_level node empty long'] at roots
      have levels : level node xs = level node ys :=
        ih _ (by rw [length_level]; omega) (by rw [length_level, length_level, same]) above roots rfl
      exact pairs_inj same (here.level_iff.mp levels)
    · rcases xs with _ | ⟨x, _ | ⟨x', rest⟩⟩
      · exact (List.length_eq_zero_iff.mp same.symm).symm
      · obtain ⟨y, rfl⟩ := List.length_eq_one_iff.mp same.symm
        rw [root_single, root_single] at roots
        rw [roots]
      · simp at long

/-! ### One hash more -/

/-- A hash put together with itself, over and over. -/
def doubled (node : H → H → H) (hash : H) : Nat → H
  | 0 => hash
  | k + 1 => doubled node (node hash hash) k

/-- The hash is once more what the list ends in: after as many levels as the length can be halved,
an odd number of hashes is left, and the last of them stands for copies of the hash alone. -/
def Repeats (hashes : List H) (hash : H) : Prop :=
  ∃ k m front, Odd m ∧ 3 ≤ m ∧ hashes.length = 2 ^ k * m ∧ hashes = front ++ List.replicate (2 ^ k) hash

/-- The root of a full tree is the hash of a pair that it is part of. -/
def Absorbs (node : H → H → H) (empty : H) (hashes : List H) (hash : H) : Prop :=
  ∃ k, hashes.length = 2 ^ k ∧
    node (root node empty hashes) (doubled node hash k) = root node empty hashes

theorem level_append {hashes : List H} (even : hashes.length % 2 = 0) (hash : H) :
    level node (hashes ++ [hash]) = level node hashes ++ [node hash hash] := by
  rw [level, pairs_append even, List.map_append]
  rfl

theorem repeats_level {hashes : List H} {hash : H} (even : hashes.length % 2 = 0)
    (free : CollisionFree node (pairs hashes ++ [(hash, hash)])) :
    Repeats (level node hashes) (node hash hash) ↔ Repeats hashes hash := by
  constructor
  · rintro ⟨k, m, front, odd, three, long, ends⟩
    obtain ⟨before, copies, split, _, same⟩ := List.map_eq_append_iff.mp ends
    have alike : copies = List.replicate (2 ^ k) (hash, hash) := by
      refine List.eq_replicate_iff.mpr ⟨?_, fun p member => ?_⟩
      · simpa using congrArg List.length same
      · refine free p (List.mem_append_left _ (split ▸ List.mem_append_right _ member)) (hash, hash)
          (List.mem_append_right _ (List.mem_singleton_self _)) ?_
        exact List.eq_of_mem_replicate (same ▸ List.mem_map_of_mem member)
    refine ⟨k + 1, m, unpair before, odd, three, ?_, ?_⟩
    · rw [length_level] at long
      rw [pow_succ, Nat.mul_right_comm, ← long]
      omega
    · rw [← unpair_pairs even, split, alike, unpair, List.flatMap_append, ← unpair, ← unpair,
        unpair_replicate, pow_succ, Nat.mul_comm]
  · rintro ⟨k, m, front, odd, three, long, ends⟩
    cases k with
    | zero =>
      rw [Nat.odd_iff] at odd
      rw [pow_zero, Nat.one_mul] at long
      omega
    | succ k =>
      have twice : 2 ^ (k + 1) = 2 * 2 ^ k := by rw [pow_succ, Nat.mul_comm]
      have halves : front.length % 2 = 0 := by
        have := congrArg List.length ends
        rw [List.length_append, List.length_replicate, twice] at this
        omega
      refine ⟨k, m, level node front, odd, three, ?_, ?_⟩
      · rw [length_level, long, twice, Nat.mul_assoc]
        omega
      · rw [ends, level, pairs_append halves, twice, pairs_replicate, List.map_append,
          List.map_replicate]
        rfl

theorem absorbs_level (empty : H) {hashes : List H} {hash : H} (even : hashes.length % 2 = 0)
    (long : 2 ≤ hashes.length) :
    Absorbs node empty (level node hashes) (node hash hash) ↔ Absorbs node empty hashes hash := by
  unfold Absorbs
  rw [← root_level node empty long]
  constructor
  · rintro ⟨k, full, same⟩
    refine ⟨k + 1, ?_, same⟩
    rw [length_level] at full
    rw [pow_succ, ← full]
    omega
  · rintro ⟨k, full, same⟩
    cases k with
    | zero => simp [full] at long
    | succ k =>
      refine ⟨k, ?_, same⟩
      rw [pow_succ] at full
      rw [length_level]
      omega

theorem repeats_odd {front : List H} {last hash : H} (odd : (front.length + 1) % 2 = 1)
    (long : 2 ≤ front.length) : Repeats (front ++ [last]) hash ↔ last = hash := by
  constructor
  · rintro ⟨k, m, before, _, _, length, ends⟩
    rw [List.length_append, List.length_singleton] at length
    cases k with
    | zero =>
      rw [pow_zero, List.replicate_one] at ends
      exact List.singleton_inj.mp (List.append_inj' ends rfl).2
    | succ k =>
      rw [pow_succ, Nat.mul_right_comm] at length
      omega
  · rintro rfl
    refine ⟨0, front.length + 1, front, Nat.odd_iff.mpr odd, by omega, ?_, ?_⟩
    · rw [List.length_append, List.length_singleton, pow_zero, Nat.one_mul]
    · rw [pow_zero, List.replicate_one]

theorem not_absorbs_odd (empty : H) {hashes : List H} {hash : H} (odd : hashes.length % 2 = 1)
    (long : 2 ≤ hashes.length) : ¬ Absorbs node empty hashes hash := by
  rintro ⟨k, full, _⟩
  cases k with
  | zero =>
    rw [pow_zero] at full
    omega
  | succ k =>
    rw [pow_succ] at full
    omega

theorem not_repeats_single (only hash : H) : ¬ Repeats [only] hash := by
  rintro ⟨k, m, front, _, three, single, _⟩
  have positive : 1 ≤ 2 ^ k := Nat.one_le_two_pow
  rw [List.length_singleton] at single
  have large := Nat.mul_le_mul positive three
  omega

theorem absorbs_single (empty only hash : H) :
    Absorbs node empty [only] hash ↔ node only hash = only := by
  unfold Absorbs
  rw [root_single]
  constructor
  · rintro ⟨k, full, same⟩
    cases k with
    | zero => exact same
    | succ k =>
      rw [List.length_singleton, pow_succ] at full
      omega
  · exact fun same => ⟨0, rfl, same⟩

/-- A list has the root of the list without its last hash exactly when that hash repeats what the
rest ends in, but for a full tree whose root is hashed to itself. -/
theorem root_append_iff (empty : H) {hashes : List H} (nonempty : hashes ≠ []) {hash : H}
    (free : CollisionFree node (hashed node hashes ++ hashed node (hashes ++ [hash]))) :
    root node empty (hashes ++ [hash]) = root node empty hashes ↔
      Repeats hashes hash ∨ Absorbs node empty hashes hash := by
  induction size : hashes.length using Nat.strong_induction_on generalizing hashes hash with
  | _ n ih =>
    by_cases long : 2 ≤ hashes.length
    · have longer : 2 ≤ (hashes ++ [hash]).length := by
        rw [List.length_append]
        omega
      obtain ⟨here, above⟩ := free.up long longer
      by_cases even : hashes.length % 2 = 0
      · -- Both lists lose a level, and the hash is paired with itself.
        have here' : CollisionFree node (pairs hashes ++ [(hash, hash)]) :=
          here.mono fun p member => by
          rw [pairs_append even]
          rcases List.mem_append.mp member with left | right
          · exact List.mem_append_left _ left
          · exact List.mem_append_right _ (List.mem_append_right _ right)
        rw [level_append even] at above
        rw [root_level node empty long, root_level node empty longer, level_append even,
          ih _ (by rw [length_level]; omega) _ above rfl, repeats_level even here',
          absorbs_level empty even long]
        intro none
        have := congrArg List.length none
        rw [length_level, List.length_nil] at this
        omega
      · -- The hash takes the place of the copy of the last one, and the levels above have one length.
        have odd : hashes.length % 2 = 1 := by omega
        obtain ⟨front, last, rfl⟩ : ∃ front last, hashes = front ++ [last] :=
          ⟨_, _, (List.dropLast_concat_getLast nonempty).symm⟩
        have odd' : (front.length + 1) % 2 = 1 := by simpa using odd
        have long' : 2 ≤ front.length := by
          rw [List.length_append, List.length_singleton] at long
          omega
        have lengths : (level node (front ++ [last])).length =
            (level node (front ++ [last] ++ [hash])).length := by
          simp only [length_level, List.length_append, List.length_singleton]
          omega
        rw [root_level node empty long, root_level node empty longer, eq_comm,
          root_inj empty lengths above, here.level_iff, List.append_assoc, pairs_append (by omega),
          pairs_append (by omega), List.append_cancel_left_eq, repeats_odd odd' long',
          or_iff_left (not_absorbs_odd empty odd long)]
        simp [pairs]
    · obtain ⟨only, rfl⟩ : ∃ only, hashes = [only] := by
        refine List.length_eq_one_iff.mp ?_
        have := List.length_pos_iff.mpr nonempty
        omega
      rw [or_iff_right (not_repeats_single only hash), absorbs_single, List.singleton_append,
        root_two, root_single]

end GrokingClawId.MerkleTree
