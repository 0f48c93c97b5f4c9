import Mathlib.Data.List.Basic

/-!
# Hash chains

A log in which every entry stores the hash of its predecessor and a hash of itself. A checker
accepts a log when the first entry points to a fixed start and every later entry is linked to
its predecessor and sealed by its own digest; the first entry's own hash is not part of that
check. What such a checker catches depends on which digests collide, so each rule asks only for
the collisions it needs to exclude.
-/

namespace GrokingClawId

structure HashChain (E H : Type) where
  prev : E → H
  hash : E → H
  digest : E → H
  genesis : H

namespace HashChain
variable {E H : Type} (C : HashChain E H)

structure Accepts (xs : List E) : Prop where
  head : ∀ e, xs[0]? = some e → C.prev e = C.genesis
  link : ∀ i e f, xs[i]? = some e → xs[i + 1]? = some f → C.prev f = C.hash e
  sealed : ∀ i e, xs[i + 1]? = some e → C.hash e = C.digest e

def lastHash (xs : List E) : H := (xs.getLast?.map C.hash).getD C.genesis

/-- A log whose entries were all sealed when they were written. -/
structure Recorded (xs : List E) : Prop extends C.Accepts xs where
  written : ∀ e ∈ xs, C.hash e = C.digest e

/-- No two entries of the log have one digest but different predecessors, and none digests to the
start. -/
structure Binding (xs : List E) : Prop where
  prev_eq : ∀ e ∈ xs, ∀ f ∈ xs, C.digest e = C.digest f → C.prev e = C.prev f
  ne_genesis : ∀ e ∈ xs, C.digest e ≠ C.genesis

variable {C}

/-! ### Growing a log -/

theorem accepts_nil : C.Accepts [] := ⟨by simp, by simp, by simp⟩

/-- The checker reads nothing of an entry but its hash, its digest and its predecessor. -/
theorem accepts_map {f : E → E} (prev : ∀ e, C.prev (f e) = C.prev e)
    (hash : ∀ e, C.hash (f e) = C.hash e) (digest : ∀ e, C.digest (f e) = C.digest e)
    (xs : List E) :
    C.Accepts (xs.map f) ↔ C.Accepts xs := by
  have get : ∀ (i : Nat) e, xs[i]? = some e → (xs.map f)[i]? = some (f e) := by
    intro i e ate
    rw [List.getElem?_map, ate, Option.map_some]
  have ofGet : ∀ (i : Nat) e, (xs.map f)[i]? = some e → ∃ x, xs[i]? = some x ∧ f x = e := by
    intro i e ate
    rw [List.getElem?_map] at ate
    exact Option.map_eq_some_iff.mp ate
  constructor
  · intro accepted
    refine ⟨fun e at0 => ?_, fun i e g ate atg => ?_, fun i e ate => ?_⟩
    · rw [← prev e]
      exact accepted.head (f e) (get 0 e at0)
    · rw [← prev g, ← hash e]
      exact accepted.link i (f e) (f g) (get i e ate) (get (i + 1) g atg)
    · rw [← hash e, ← digest e]
      exact accepted.sealed i (f e) (get (i + 1) e ate)
  · intro accepted
    refine ⟨fun e at0 => ?_, fun i e g ate atg => ?_, fun i e ate => ?_⟩
    · obtain ⟨x, atx, rfl⟩ := ofGet 0 e at0
      rw [prev]
      exact accepted.head x atx
    · obtain ⟨x, atx, rfl⟩ := ofGet i e ate
      obtain ⟨y, aty, rfl⟩ := ofGet (i + 1) g atg
      rw [prev, hash]
      exact accepted.link i x y atx aty
    · obtain ⟨x, atx, rfl⟩ := ofGet (i + 1) e ate
      rw [hash, digest]
      exact accepted.sealed i x atx

theorem recorded_nil : C.Recorded [] := ⟨accepts_nil, by simp⟩

/-- A sealed entry keeps the log accepted exactly when it points to the last hash. -/
theorem accepts_snoc {xs : List E} {e : E} (fresh : C.hash e = C.digest e) :
    C.Accepts (xs ++ [e]) ↔ C.Accepts xs ∧ C.prev e = C.lastHash xs := by
  constructor
  · intro accepted
    refine ⟨⟨fun x at0 => accepted.head x ?_, fun i x y ati ats => accepted.link i x y ?_ ?_,
      fun i x ats => accepted.sealed i x ?_⟩, ?_⟩
    · exact List.getElem?_append_left (List.getElem?_eq_some_iff.mp at0).1 ▸ at0
    · exact List.getElem?_append_left (List.getElem?_eq_some_iff.mp ati).1 ▸ ati
    · exact List.getElem?_append_left (List.getElem?_eq_some_iff.mp ats).1 ▸ ats
    · exact List.getElem?_append_left (List.getElem?_eq_some_iff.mp ats).1 ▸ ats
    · rcases List.eq_nil_or_concat xs with rfl | ⟨ys, y, rfl⟩
      · simpa [lastHash] using accepted.head e (by simp)
      · simpa [lastHash] using accepted.link ys.length y e (by simp) (by simp)
  · rintro ⟨accepted, points⟩
    refine ⟨fun x at0 => ?_, fun i x y ati ats => ?_, fun i x ats => ?_⟩
    · cases xs with
      | nil =>
        obtain rfl : e = x := by simpa using at0
        simpa [lastHash] using points
      | cons y ys => exact accepted.head x (by simpa using at0)
    · by_cases inside : i + 1 < xs.length
      · rw [List.getElem?_append_left (by omega)] at ati ats
        exact accepted.link i x y ati ats
      · have bound := (List.getElem?_eq_some_iff.mp ats).1
        simp only [List.length_append, List.length_cons, List.length_nil] at bound
        have index : xs.length = i + 1 := by omega
        rw [List.getElem?_append_left (by omega)] at ati
        rw [← index, List.getElem?_concat_length] at ats
        obtain rfl := Option.some.inj ats
        rw [points, lastHash, List.getLast?_eq_getElem?, index, Nat.add_sub_cancel, ati]
        rfl
    · by_cases inside : i + 1 < xs.length
      · rw [List.getElem?_append_left inside] at ats
        exact accepted.sealed i x ats
      · have bound := (List.getElem?_eq_some_iff.mp ats).1
        simp only [List.length_append, List.length_cons, List.length_nil] at bound
        have index : xs.length = i + 1 := by omega
        rw [← index, List.getElem?_concat_length] at ats
        obtain rfl := Option.some.inj ats
        exact fresh

theorem recorded_snoc {xs : List E} {e : E} (recorded : C.Recorded xs)
    (points : C.prev e = C.lastHash xs) (fresh : C.hash e = C.digest e) :
    C.Recorded (xs ++ [e]) := by
  refine ⟨(accepts_snoc fresh).mpr ⟨recorded.toAccepts, points⟩, ?_⟩
  intro x member
  rcases List.mem_append.mp member with old | new
  · exact recorded.written x old
  · rw [List.mem_singleton.mp new]
    exact fresh

/-! ### Commitment -/

/-- The last hash determines every hash of the log, and the digests of all entries but the first. -/
theorem accepts_commit {xs ys : List E} (left : C.Accepts xs) (right : C.Accepts ys)
    (length : xs.length = ys.length) (last : C.lastHash xs = C.lastHash ys)
    (binds : ∀ e ∈ xs, ∀ f ∈ ys, C.digest e = C.digest f → C.prev e = C.prev f)
    {i : Nat} {e f : E} (ate : xs[i]? = some e) (atf : ys[i]? = some f) :
    C.hash e = C.hash f ∧ (0 < i → C.digest e = C.digest f) := by
  have hashes : ∀ k i e f, i + k + 1 = xs.length → xs[i]? = some e → ys[i]? = some f →
      C.hash e = C.hash f := by
    intro k
    induction k with
    | zero =>
      intro i e f index ate atf
      have lastX : xs.getLast? = some e := by
        rw [List.getLast?_eq_getElem?, ← index, Nat.add_sub_cancel]
        exact ate
      have lastY : ys.getLast? = some f := by
        rw [List.getLast?_eq_getElem?, ← length, ← index, Nat.add_sub_cancel]
        exact atf
      simpa [lastHash, lastX, lastY] using last
    | succ k ih =>
      intro i e f index ate atf
      obtain ⟨e', ate'⟩ : ∃ e', xs[i + 1]? = some e' := ⟨_, List.getElem?_eq_getElem (by omega)⟩
      obtain ⟨f', atf'⟩ : ∃ f', ys[i + 1]? = some f' := ⟨_, List.getElem?_eq_getElem (by omega)⟩
      have next := ih (i + 1) e' f' (by omega) ate' atf'
      rw [left.sealed i e' ate', right.sealed i f' atf'] at next
      have same := binds e' (List.mem_of_getElem? ate') f' (List.mem_of_getElem? atf') next
      rw [left.link i e e' ate ate', right.link i f f' atf atf'] at same
      exact same
  have bound := (List.getElem?_eq_some_iff.mp ate).1
  have equal := hashes (xs.length - i - 1) i e f (by omega) ate atf
  refine ⟨equal, fun positive => ?_⟩
  obtain ⟨j, rfl⟩ : ∃ j, i = j + 1 := ⟨i - 1, by omega⟩
  rw [← left.sealed j e ate, ← right.sealed j f atf]
  exact equal

/-! ### Positions in a recorded log -/

/-- The stored predecessor hash determines the position. -/
theorem prev_inj {xs : List E} (recorded : C.Recorded xs) (binding : C.Binding xs) {i j : Nat}
    {e f : E} (ate : xs[i]? = some e) (atf : xs[j]? = some f) (same : C.prev e = C.prev f) :
    i = j := by
  have start : ∀ i e f, xs[0]? = some e → xs[i + 1]? = some f → C.prev e ≠ C.prev f := by
    intro i e f ate atf equal
    obtain ⟨g, atg⟩ : ∃ g, xs[i]? = some g :=
      ⟨_, List.getElem?_eq_getElem (by have := (List.getElem?_eq_some_iff.mp atf).1; omega)⟩
    have member := List.mem_of_getElem? atg
    rw [recorded.head e ate, recorded.link i g f atg atf, recorded.written g member] at equal
    exact binding.ne_genesis g member equal.symm
  induction i generalizing j e f with
  | zero =>
    cases j with
    | zero => rfl
    | succ j => exact absurd same (start j e f ate atf)
  | succ i ih =>
    cases j with
    | zero => exact absurd same.symm (start i f e atf ate)
    | succ j =>
      obtain ⟨e', ate'⟩ : ∃ e', xs[i]? = some e' :=
        ⟨_, List.getElem?_eq_getElem (by have := (List.getElem?_eq_some_iff.mp ate).1; omega)⟩
      obtain ⟨f', atf'⟩ : ∃ f', xs[j]? = some f' :=
        ⟨_, List.getElem?_eq_getElem (by have := (List.getElem?_eq_some_iff.mp atf).1; omega)⟩
      have memberE := List.mem_of_getElem? ate'
      have memberF := List.mem_of_getElem? atf'
      rw [recorded.link i e' e ate' ate, recorded.link j f' f atf' atf, recorded.written e' memberE,
        recorded.written f' memberF] at same
      rw [ih ate' atf' (binding.prev_eq e' memberE f' memberF same)]

/-- An entry that points to the hash of entry `i` stands right after it. -/
theorem succ_of_link {xs : List E} (recorded : C.Recorded xs) (binding : C.Binding xs) {i j : Nat}
    {e f : E} (ate : xs[i]? = some e) (atf : xs[j]? = some f) (points : C.prev f = C.hash e) :
    j = i + 1 := by
  have memberE := List.mem_of_getElem? ate
  rw [recorded.written e memberE] at points
  cases j with
  | zero =>
    rw [recorded.head f atf] at points
    exact absurd points.symm (binding.ne_genesis e memberE)
  | succ j =>
    obtain ⟨g, atg⟩ : ∃ g, xs[j]? = some g :=
      ⟨_, List.getElem?_eq_getElem (by have := (List.getElem?_eq_some_iff.mp atf).1; omega)⟩
    have memberG := List.mem_of_getElem? atg
    rw [recorded.link j g f atg atf, recorded.written g memberG] at points
    rw [prev_inj recorded binding atg ate (binding.prev_eq g memberG e memberE points)]

/-! ### Selections from a recorded log -/

theorem accepts_prefix {xs ys : List E} (initial : ys <+: xs) (accepted : C.Accepts xs) : C.Accepts ys := by
  have kept : ∀ (i : Nat) (e : E), ys[i]? = some e → xs[i]? = some e := by
    intro i e ate
    obtain ⟨rest, rfl⟩ := initial
    rw [List.getElem?_append_left (List.getElem?_eq_some_iff.mp ate).1, ate]
  exact ⟨fun e at0 => accepted.head e (kept 0 e at0),
    fun i e f ate atf => accepted.link i e f (kept i e ate) (kept (i + 1) f atf),
    fun i e ate => accepted.sealed i e (kept (i + 1) e ate)⟩

/-- Entries of a recorded log are accepted exactly when they are its first ones. -/
theorem accepts_selected {xs ys : List E} (recorded : C.Recorded xs) (binding : C.Binding xs)
    (members : ∀ e ∈ ys, e ∈ xs) : C.Accepts ys ↔ ys <+: xs := by
  constructor
  · intro accepted
    have placed : ∀ (i : Nat) (e : E), ys[i]? = some e → xs[i]? = some e := by
      intro i
      induction i with
      | zero =>
        intro e ate
        obtain ⟨j, atj⟩ := List.mem_iff_getElem?.mp (members e (List.mem_of_getElem? ate))
        obtain ⟨first, at0⟩ : ∃ first, xs[0]? = some first :=
          ⟨_, List.getElem?_eq_getElem
            (Nat.lt_of_le_of_lt (Nat.zero_le j) (List.getElem?_eq_some_iff.mp atj).1)⟩
        have start : C.prev e = C.prev first := (accepted.head e ate).trans (recorded.head first at0).symm
        rw [prev_inj recorded binding atj at0 start] at atj
        exact atj
      | succ i ih =>
        intro f atf
        obtain ⟨e, ate⟩ : ∃ e, ys[i]? = some e :=
          ⟨_, List.getElem?_eq_getElem (Nat.lt_of_succ_lt (List.getElem?_eq_some_iff.mp atf).1)⟩
        obtain ⟨j, atj⟩ := List.mem_iff_getElem?.mp (members f (List.mem_of_getElem? atf))
        rw [succ_of_link recorded binding (ih e ate) atj (accepted.link i e f ate atf)] at atj
        exact atj
    rw [List.prefix_iff_getElem?]
    intro i bound
    rw [placed i ys[i] (List.getElem?_eq_getElem bound)]
  · intro initial
    exact accepts_prefix initial recorded.toAccepts

/-! ### Edits of a recorded log -/

/-- Replacing an entry by one with the same stored hashes is caught by its digest, except at the
start. -/
theorem accepts_set {xs : List E} (recorded : C.Recorded xs) {i : Nat} {e e' : E}
    (ate : xs[i]? = some e) (samePrev : C.prev e' = C.prev e) (sameHash : C.hash e' = C.hash e) :
    C.Accepts (xs.set i e') ↔ (0 < i → C.digest e' = C.digest e) := by
  have bound := (List.getElem?_eq_some_iff.mp ate).1
  have stored : ∀ j x, (xs.set i e')[j]? = some x →
      ∃ y, xs[j]? = some y ∧ C.prev x = C.prev y ∧ C.hash x = C.hash y ∧ (j ≠ i → x = y) := by
    intro j x atx
    rw [List.getElem?_set] at atx
    split at atx
    · rename_i here
      subst here
      obtain rfl : e' = x := by simpa [bound] using atx
      exact ⟨e, ate, samePrev, sameHash, fun away => absurd rfl away⟩
    · exact ⟨x, atx, rfl, rfl, fun _ => rfl⟩
  constructor
  · intro accepted positive
    obtain ⟨j, rfl⟩ : ∃ j, i = j + 1 := ⟨i - 1, by omega⟩
    rw [← accepted.sealed j e' (by simp [bound]), sameHash]
    exact recorded.sealed j e ate
  · intro digests
    refine ⟨fun x at0 => ?_, fun j x y atx aty => ?_, fun j x atx => ?_⟩
    · obtain ⟨y, old, prev, _⟩ := stored 0 x at0
      rw [prev]
      exact recorded.head y old
    · obtain ⟨x', oldX, _, hash, _⟩ := stored j x atx
      obtain ⟨y', oldY, prev, _⟩ := stored (j + 1) y aty
      rw [prev, hash]
      exact recorded.link j x' y' oldX oldY
    · obtain ⟨x', old, _, hash, kept⟩ := stored (j + 1) x atx
      rw [hash, recorded.sealed j x' old]
      by_cases here : j + 1 = i
      · subst here
        obtain rfl : e' = x := by simpa [bound] using atx
        obtain rfl := Option.some.inj (old.symm.trans ate)
        exact (digests (by omega)).symm
      · rw [kept here]

/-- An entry put before entry `i + 1` is always caught. -/
theorem not_accepts_insert {xs : List E} (recorded : C.Recorded xs) (binding : C.Binding xs)
    {i : Nat} {e : E} (bound : i + 1 < xs.length)
    (binds : ∀ a ∈ xs, C.digest e = C.digest a → C.prev e = C.prev a) :
    ¬ C.Accepts (xs.insertIdx (i + 1) e) := by
  intro accepted
  obtain ⟨a, ata⟩ : ∃ a, xs[i]? = some a := ⟨_, List.getElem?_eq_getElem (by omega)⟩
  obtain ⟨b, atb⟩ : ∃ b, xs[i + 1]? = some b := ⟨_, List.getElem?_eq_getElem bound⟩
  have before : (xs.insertIdx (i + 1) e)[i]? = some a := by
    rw [List.getElem?_insertIdx, if_pos (by omega), ata]
  have inserted : (xs.insertIdx (i + 1) e)[i + 1]? = some e := by
    rw [List.getElem?_insertIdx]
    simp [Nat.le_of_lt bound]
  have after : (xs.insertIdx (i + 1) e)[i + 1 + 1]? = some b := by
    rw [List.getElem?_insertIdx, if_neg (by omega), if_neg (by omega), Nat.add_sub_cancel, atb]
  have memberA := List.mem_of_getElem? ata
  have forward := accepted.link i a e before inserted
  have backward := accepted.link (i + 1) e b inserted after
  rw [accepted.sealed i e inserted, recorded.link i a b ata atb,
    recorded.written a memberA] at backward
  rw [binds a memberA backward.symm] at forward
  have loop := succ_of_link recorded binding ata ata forward
  omega

/-- An entry put in front of a log is accepted when it points to the start and hashes to the
start. -/
theorem accepts_cons {xs : List E} (recorded : C.Recorded xs) (nonempty : xs ≠ []) {e : E} :
    C.Accepts (e :: xs) ↔ C.prev e = C.genesis ∧ C.hash e = C.genesis := by
  obtain ⟨x, rest, rfl⟩ := List.exists_cons_of_ne_nil nonempty
  have first := recorded.head x (by simp)
  constructor
  · intro accepted
    refine ⟨accepted.head e (by simp), ?_⟩
    rw [← accepted.link 0 e x (by simp) (by simp)]
    exact first
  · rintro ⟨prev, hash⟩
    refine ⟨fun y at0 => ?_, fun i y z aty atz => ?_, fun i y aty => ?_⟩
    · obtain rfl : e = y := by simpa using at0
      exact prev
    · cases i with
      | zero =>
        obtain rfl : e = y := by simpa using aty
        obtain rfl : x = z := by simpa using atz
        rw [hash, first]
      | succ i => exact recorded.link i y z (by simpa using aty) (by simpa using atz)
    · exact recorded.written y (List.mem_of_getElem? (by simpa using aty))

theorem not_accepts_eraseIdx {xs : List E} (recorded : C.Recorded xs) (binding : C.Binding xs)
    {i : Nat} (bound : i + 1 < xs.length) : ¬ C.Accepts (xs.eraseIdx i) := by
  intro accepted
  obtain ⟨b, atb⟩ : ∃ b, xs[i + 1]? = some b := ⟨_, List.getElem?_eq_getElem bound⟩
  have moved : (xs.eraseIdx i)[i]? = some b := by
    rw [List.getElem?_eraseIdx, if_neg (by omega), atb]
  cases i with
  | zero =>
    obtain ⟨a, ata⟩ : ∃ a, xs[0]? = some a := ⟨_, List.getElem?_eq_getElem (by omega)⟩
    have same : C.prev a = C.prev b := (recorded.head a ata).trans (accepted.head b moved).symm
    have impossible := prev_inj recorded binding ata atb same
    omega
  | succ i =>
    obtain ⟨a, ata⟩ : ∃ a, xs[i]? = some a := ⟨_, List.getElem?_eq_getElem (by omega)⟩
    have kept : (xs.eraseIdx (i + 1))[i]? = some a := by
      rw [List.getElem?_eraseIdx, if_pos (by omega), ata]
    have impossible := succ_of_link recorded binding ata atb (accepted.link i a b kept moved)
    omega

theorem not_accepts_swap {xs : List E} (recorded : C.Recorded xs) (binding : C.Binding xs)
    {i j : Nat} {a b : E} (order : i < j) (ata : xs[i]? = some a) (atb : xs[j]? = some b) :
    ¬ C.Accepts ((xs.set i b).set j a) := by
  intro accepted
  have bound := (List.getElem?_eq_some_iff.mp ata).1
  have moved : ((xs.set i b).set j a)[i]? = some b := by
    rw [List.getElem?_set_ne (by omega), List.getElem?_set_self bound]
  cases i with
  | zero =>
    have same : C.prev a = C.prev b := (recorded.head a ata).trans (accepted.head b moved).symm
    have impossible := prev_inj recorded binding ata atb same
    omega
  | succ i =>
    obtain ⟨c, atc⟩ : ∃ c, xs[i]? = some c := ⟨_, List.getElem?_eq_getElem (by omega)⟩
    have kept : ((xs.set (i + 1) b).set j a)[i]? = some c := by
      rw [List.getElem?_set_ne (by omega), List.getElem?_set_ne (by omega), atc]
    have impossible := succ_of_link recorded binding atc atb (accepted.link i c b kept moved)
    omega

end HashChain
end GrokingClawId
