import Mathlib.Data.List.Basic
import Mathlib.Data.List.Nodup

/-!
# Removal along parent links

Items with keys, each of which may name the key of a parent, and marks that belong to keys. A cascade
removes what is below a key: first what is below each of the children, then the children. It follows
the links of the list that it removes from.
-/

namespace GrokingClawId

/-- The keys of the items and of their parents, and the keys that the marks belong to. -/
structure ParentLinks (Item Mark Key : Type) where
  key : Item → Key
  parent : Item → Option Key
  owner : Mark → Key

namespace ParentLinks

@[ext]
structure Stock (Item Mark : Type) where
  items : List Item
  marks : List Mark

variable {Item Mark Key : Type} (L : ParentLinks Item Mark Key)

/-- The item is below the key, along one or more links of the list. -/
inductive Below (items : List Item) (k : Key) : Item → Prop where
  | child {x : Item} : x ∈ items → L.parent x = some k → Below items k x
  | further {x y : Item} : Below items k y → x ∈ items → L.parent x = some (L.key y) → Below items k x

section Below
variable {L} {items items' : List Item} {k : Key} {x y : Item}

theorem Below.mem (below : L.Below items k x) : x ∈ items := by
  cases below with
  | child member _ => exact member
  | further _ member _ => exact member

theorem Below.mono (subset : items ⊆ items') (below : L.Below items k x) : L.Below items' k x := by
  induction below with
  | child member named => exact .child (subset member) named
  | further _ member named ih => exact .further ih (subset member) named

theorem Below.trans (above : L.Below items k y) (below : L.Below items (L.key y) x) :
    L.Below items k x := by
  induction below with
  | child member named => exact .further above member named
  | further _ member named ih => exact .further ih member named

/-- What is below a key is a child or below one. -/
theorem below_iff : L.Below items k x ↔ (x ∈ items ∧ L.parent x = some k) ∨
    ∃ y ∈ items, L.parent y = some k ∧ L.Below items (L.key y) x := by
  constructor
  · intro below
    induction below with
    | child member named => exact .inl ⟨member, named⟩
    | @further x z _ member named ih =>
      right
      rcases ih with ⟨listed, parent⟩ | ⟨y, listed, parent, between⟩
      · exact ⟨z, listed, parent, .child member named⟩
      · exact ⟨y, listed, parent, .further between member named⟩
  · rintro (⟨member, named⟩ | ⟨y, member, named, below⟩)
    · exact .child member named
    · exact (Below.child member named).trans below

/-- Where the keys differ, a loop below an item leads back through it. -/
theorem loop_above (distinct : (items.map L.key).Nodup) {r : Item} (member : r ∈ items)
    (below : L.Below items (L.key r) x) (loop : L.Below items (L.key x) x) :
    L.Below items (L.key r) r := by
  have one {a b : Item} (first : a ∈ items) (second : b ∈ items)
      (same : L.key a = L.key b) : a = b :=
    List.inj_on_of_nodup_map distinct first second same
  induction below with
  | @child x listed named =>
    cases loop with
    | child _ own =>
      obtain rfl := one member listed (Option.some.inj (named.symm.trans own))
      exact .child listed named
    | @further _ z between _ last =>
      obtain rfl := one member between.mem (Option.some.inj (named.symm.trans last))
      exact (Below.child listed named).trans between
  | @further x y above listed named ih =>
    apply ih
    cases loop with
    | child _ own =>
      obtain rfl := one above.mem listed (Option.some.inj (named.symm.trans own))
      exact .child listed own
    | @further _ z between _ last =>
      obtain rfl := one above.mem between.mem (Option.some.inj (named.symm.trans last))
      exact (Below.child listed named).trans between

end Below

/-! ### What is left -/

def Gone (stock : Stock Item Mark) (ks : List Key) (x : Item) : Prop :=
  ∃ k ∈ ks, L.Below stock.items k x

open Classical in
/-- What is below none of the keys, and the marks of nothing that is below them. -/
noncomputable def without (stock : Stock Item Mark) (ks : List Key) : Stock Item Mark where
  items := stock.items.filter fun x => ¬ L.Gone stock ks x
  marks := stock.marks.filter fun m => ¬ ∃ x, L.Gone stock ks x ∧ L.owner m = L.key x

section Without
variable {L} {stock : Stock Item Mark} {ks : List Key} {k : Key} {x : Item} {m : Mark}

@[simp] theorem gone_single : L.Gone stock [k] x ↔ L.Below stock.items k x := by
  simp [Gone]

theorem not_gone_nil : ¬ L.Gone stock [] x := by
  simp [Gone]

theorem mem_without : x ∈ (L.without stock ks).items ↔ x ∈ stock.items ∧ ¬ L.Gone stock ks x := by
  simp [without]

theorem without_subset : (L.without stock ks).items ⊆ stock.items :=
  fun _ member => (mem_without.mp member).1

theorem without_nil (stock : Stock Item Mark) : L.without stock [] = stock := by
  simp [without, not_gone_nil]

/-- The links above what is left are left too. -/
theorem below_without (left : x ∈ (L.without stock ks).items) :
    L.Below (L.without stock ks).items k x ↔ L.Below stock.items k x := by
  refine ⟨Below.mono without_subset, fun below => ?_⟩
  induction below with
  | child _ named => exact .child left named
  | @further x y above member named ih =>
    refine .further (ih (mem_without.mpr ⟨above.mem, ?_⟩)) left named
    rintro ⟨k', listed, gone⟩
    exact (mem_without.mp left).2 ⟨k', listed, .further gone member named⟩

theorem gone_snoc : L.Gone stock (ks ++ [k]) x ↔
    L.Gone stock ks x ∨ L.Below (L.without stock ks).items k x := by
  constructor
  · rintro ⟨k', listed, below⟩
    by_cases before : L.Gone stock ks x
    · exact .inl before
    · rcases List.mem_append.mp listed with first | last
      · exact .inl ⟨k', first, below⟩
      · rw [List.mem_singleton.mp last] at below
        exact .inr ((below_without (mem_without.mpr ⟨below.mem, before⟩)).mpr below)
  · rintro (⟨k', listed, below⟩ | below)
    · exact ⟨k', List.mem_append_left _ listed, below⟩
    · exact ⟨k, by simp, below.mono without_subset⟩

theorem without_snoc (stock : Stock Item Mark) (ks : List Key) (k : Key) :
    L.without (L.without stock ks) [k] = L.without stock (ks ++ [k]) := by
  apply Stock.ext
  · show List.filter _ (List.filter _ stock.items) = List.filter _ stock.items
    rw [List.filter_filter]
    refine List.filter_congr fun x _ => Bool.eq_iff_iff.mpr ?_
    simp only [Bool.and_eq_true, decide_eq_true_eq, gone_single, gone_snoc, not_or]
    exact and_comm
  · show List.filter _ (List.filter _ stock.marks) = List.filter _ stock.marks
    rw [List.filter_filter]
    refine List.filter_congr fun m _ => Bool.eq_iff_iff.mpr ?_
    simp only [Bool.and_eq_true, decide_eq_true_eq, gone_single, gone_snoc, or_and_right, exists_or,
      not_or]
    exact and_comm

end Without

/-! ### The cascade -/

section Cascade
variable [DecidableEq Key]

/-- `none` where there are more levels than the height. -/
def cascade : Nat → Stock Item Mark → Key → Option (Stock Item Mark)
  | 0, _, _ => none
  | height + 1, stock, k => do
    let children := (stock.items.filter fun x => L.parent x = some k).map L.key
    let stock ← children.foldlM (cascade height) stock
    some { items := stock.items.filter fun x => L.parent x ≠ some k
           marks := stock.marks.filter fun m => !children.contains (L.owner m) }

variable {L} {stock out : Stock Item Mark} {k : Key} {height : Nat}

/-- The keys of the children. -/
def childKeys (L : ParentLinks Item Mark Key) (stock : Stock Item Mark) (k : Key) : List Key :=
  (stock.items.filter fun x => L.parent x = some k).map L.key

theorem mem_childKeys {c : Key} :
    c ∈ L.childKeys stock k ↔ ∃ y ∈ stock.items, L.parent y = some k ∧ L.key y = c := by
  simp [childKeys, and_assoc]

/-- What is left when the children of the key go. -/
def childless (L : ParentLinks Item Mark Key) (stock : Stock Item Mark) (k : Key)
    (children : List Key) : Stock Item Mark where
  items := stock.items.filter fun x => L.parent x ≠ some k
  marks := stock.marks.filter fun m => !children.contains (L.owner m)

theorem cascade_succ : L.cascade (height + 1) stock k = some out ↔ ∃ last,
    (L.childKeys stock k).foldlM (L.cascade height) (L.without stock []) = some last ∧
      L.childless last k (L.childKeys stock k) = out := by
  rw [without_nil, cascade, Option.bind_eq_bind, Option.bind_eq_some_iff]
  exact exists_congr fun last => and_congr_right fun _ => Option.some_inj

/-- What is below a key is a child or below the key of one. -/
theorem below_children {x : Item} : L.Below stock.items k x ↔
    (x ∈ stock.items ∧ L.parent x = some k) ∨ L.Gone stock (L.childKeys stock k) x := by
  rw [below_iff]
  refine or_congr_right ⟨?_, ?_⟩
  · rintro ⟨y, member, named, below⟩
    exact ⟨L.key y, mem_childKeys.mpr ⟨y, member, named, rfl⟩, below⟩
  · rintro ⟨c, listed, below⟩
    obtain ⟨y, member, named, rfl⟩ := mem_childKeys.mp listed
    exact ⟨y, member, named, below⟩

section Fold
variable {f : Stock Item Mark → Key → Option (Stock Item Mark)} {ids done : List Key}

omit [DecidableEq Key] in
theorem fold_without (exactly : ∀ s c s', f s c = some s' → s' = L.without s [c])
    (folded : ids.foldlM f (L.without stock done) = some out) :
    out = L.without stock (done ++ ids) := by
  induction ids generalizing done with
  | nil =>
    rw [List.append_nil]
    exact (Option.some.inj folded).symm
  | cons c ids ih =>
    obtain ⟨next, first, rest⟩ := Option.bind_eq_some_iff.mp folded
    rw [exactly _ _ _ first, without_snoc] at rest
    rw [ih rest, List.append_assoc]
    rfl

omit [DecidableEq Key] in
/-- A loop below one of the keys would still have been there in its turn. -/
theorem fold_loopless (exactly : ∀ s c s', f s c = some s' → s' = L.without s [c])
    (loopless : ∀ s c s', f s c = some s' →
      ∀ x, L.Below s.items c x → ¬ L.Below s.items (L.key x) x)
    (folded : ids.foldlM f (L.without stock done) = some out) {x : Item}
    (before : ¬ L.Gone stock done x) (gone : L.Gone stock ids x) :
    ¬ L.Below stock.items (L.key x) x := by
  induction ids generalizing done with
  | nil => exact absurd gone not_gone_nil
  | cons c ids ih =>
    obtain ⟨next, first, rest⟩ := Option.bind_eq_some_iff.mp folded
    obtain ⟨c', listed, below⟩ := gone
    have left : x ∈ (L.without stock done).items := mem_without.mpr ⟨below.mem, before⟩
    by_cases now : L.Below stock.items c x
    · have turn := loopless _ _ _ first x ((below_without left).mpr now)
      exact fun loop => turn ((below_without left).mpr loop)
    · have later : L.Gone stock ids x := by
        rcases List.mem_cons.mp listed with rfl | listed
        · exact absurd below now
        · exact ⟨c', listed, below⟩
      rw [exactly _ _ _ first, without_snoc] at rest
      refine ih rest (fun gone => ?_) later
      rcases gone_snoc.mp gone with done | new
      · exact before done
      · exact now ((below_without left).mp new)

omit [DecidableEq Key] in
theorem fold_total (exactly : ∀ s c s', f s c = some s' → s' = L.without s [c])
    (one : ∀ c ∈ ids, ∀ done, ∃ s', f (L.without stock done) c = some s') (done : List Key) :
    ∃ out, ids.foldlM f (L.without stock done) = some out := by
  induction ids generalizing done with
  | nil => exact ⟨_, rfl⟩
  | cons c ids ih =>
    obtain ⟨next, first⟩ := one c List.mem_cons_self done
    obtain ⟨out, rest⟩ := ih (fun c' member => one c' (List.mem_cons_of_mem _ member)) (done ++ [c])
    refine ⟨out, Option.bind_eq_some_iff.mpr ⟨next, first, ?_⟩⟩
    rw [exactly _ _ _ first, without_snoc]
    exact rest

end Fold

/-- A cascade that ends has removed what is below the key, and nothing else. -/
theorem cascade_some (ended : L.cascade height stock k = some out) : out = L.without stock [k] := by
  induction height generalizing stock k out with
  | zero => cases ended
  | succ height ih =>
    obtain ⟨last, folded, rfl⟩ := cascade_succ.mp ended
    obtain rfl := fold_without (fun _ _ _ => ih) folded
    rw [List.nil_append]
    apply Stock.ext
    · show List.filter _ (List.filter _ stock.items) = List.filter _ stock.items
      rw [List.filter_filter]
      refine List.filter_congr fun x member => Bool.eq_iff_iff.mpr ?_
      simp only [Bool.and_eq_true, decide_eq_true_eq, gone_single, below_children, member, true_and,
        not_or]
    · show List.filter _ (List.filter _ stock.marks) = List.filter _ stock.marks
      rw [List.filter_filter]
      refine List.filter_congr fun m _ => Bool.eq_iff_iff.mpr ?_
      have owned : L.owner m ∈ L.childKeys stock k ↔
          ∃ x, (x ∈ stock.items ∧ L.parent x = some k) ∧ L.owner m = L.key x := by
        rw [mem_childKeys]
        exact exists_congr fun y => by rw [and_assoc, eq_comm (a := L.key y)]
      simp only [Bool.and_eq_true, Bool.not_eq_true', decide_eq_true_eq, gone_single,
        below_children, or_and_right, exists_or, not_or, ← owned]
      simp [childKeys]

/-- A cascade that ends has met no loop. -/
theorem cascade_loopless (ended : L.cascade height stock k = some out) {x : Item}
    (below : L.Below stock.items k x) : ¬ L.Below stock.items (L.key x) x := by
  induction height generalizing stock k out x with
  | zero => cases ended
  | succ height ih =>
    obtain ⟨last, folded, _⟩ := cascade_succ.mp ended
    have loopless {x : Item} (gone : L.Gone stock (L.childKeys stock k) x) :
        ¬ L.Below stock.items (L.key x) x :=
      fold_loopless (fun _ _ _ => cascade_some) (fun _ _ _ ended _ => ih ended) folded
        not_gone_nil gone
    rcases below_children.mp below with ⟨member, named⟩ | gone
    · exact fun loop => loopless ⟨_, mem_childKeys.mpr ⟨x, member, named, rfl⟩, loop⟩ loop
    · exact loopless gone

open Classical in
/-- How many items are below the key. -/
noncomputable def population (L : ParentLinks Item Mark Key) (items : List Item) (k : Key) : Nat :=
  (items.filter fun x => L.Below items k x).length

omit [DecidableEq Key] in
theorem population_le (items : List Item) (k : Key) : L.population items k ≤ items.length :=
  List.length_filter_le _ _

omit [DecidableEq Key] in
/-- Below a child that is on no loop there are fewer. -/
theorem population_child {y : Item} (member : y ∈ stock.items) (named : L.parent y = some k)
    (loopless : ¬ L.Below stock.items (L.key y) y) (done : List Key) :
    L.population (L.without stock done).items (L.key y) < L.population stock.items k := by
  classical
  have up {x : Item} (below : L.Below (L.without stock done).items (L.key y) x) :
      L.Below stock.items (L.key y) x := below.mono without_subset
  have fewer : L.population (L.without stock done).items (L.key y) ≤
      (stock.items.filter fun x => L.Below stock.items (L.key y) x).length := by
    show (List.filter _ (List.filter _ stock.items)).length ≤ _
    rw [List.filter_filter, ← List.countP_eq_length_filter, ← List.countP_eq_length_filter]
    refine List.countP_mono_left fun x _ kept => ?_
    exact decide_eq_true (up (of_decide_eq_true (Bool.and_eq_true_iff.mp kept).1))
  refine Nat.lt_of_le_of_lt fewer ?_
  have inside : (stock.items.filter fun x => L.Below stock.items (L.key y) x) =
      (stock.items.filter fun x => L.Below stock.items k x).filter
        fun x => L.Below stock.items (L.key y) x := by
    rw [List.filter_filter]
    refine List.filter_congr fun x _ => Bool.eq_iff_iff.mpr ?_
    simp only [Bool.and_eq_true, decide_eq_true_eq]
    exact ⟨fun below => ⟨below, (Below.child member named).trans below⟩, And.left⟩
  rw [inside]
  refine List.length_filter_lt_length_iff_exists.mpr ⟨y, List.mem_filter.mpr ⟨member, ?_⟩, ?_⟩
  · exact decide_eq_true (.child member named)
  · simpa using loopless

/-- Without a loop below the key there are no more levels than items. -/
theorem cascade_total (loopless : ∀ x, L.Below stock.items k x → ¬ L.Below stock.items (L.key x) x)
    (enough : L.population stock.items k < height) :
    ∃ out, L.cascade height stock k = some out := by
  induction height generalizing stock k with
  | zero => exact absurd enough (Nat.not_lt_zero _)
  | succ height ih =>
    have one : ∀ c ∈ L.childKeys stock k, ∀ done, ∃ s,
        L.cascade height (L.without stock done) c = some s := by
      intro c listed done
      obtain ⟨y, member, named, rfl⟩ := mem_childKeys.mp listed
      apply ih
      · intro x below loop
        have above := (Below.child member named).trans (below.mono without_subset)
        exact loopless x above (loop.mono without_subset)
      · have fewer := population_child member named (loopless y (.child member named)) done
        omega
    obtain ⟨last, folded⟩ := fold_total (fun _ _ _ => cascade_some) one []
    exact ⟨_, cascade_succ.mpr ⟨last, folded, rfl⟩⟩

/-- The cascade ends from one height on, or has a loop below the key and ends at none. -/
theorem cascade_ends_iff : (∃ height, ∀ more, height ≤ more →
    ∃ out, L.cascade more stock k = some out) ↔
    ∀ x, L.Below stock.items k x → ¬ L.Below stock.items (L.key x) x := by
  constructor
  · rintro ⟨height, ends⟩ x below
    obtain ⟨out, ended⟩ := ends height (Nat.le_refl height)
    exact cascade_loopless ended below
  · intro loopless
    refine ⟨stock.items.length + 1, fun more high => cascade_total loopless ?_⟩
    have few := population_le (L := L) stock.items k
    omega

end Cascade

end ParentLinks
end GrokingClawId
