import Mathlib.Data.List.Basic

/-!
# Fields with a separator

What a sequence of fields with a separator between them determines. A field that is free of the
separator ends where the first separator stands; a stretch of a known length between two stretches with
one separator each cannot move.
-/

namespace GrokingClawId.Separated
variable {α : Type} {sep : α}

/-- A stretch of elements of one kind ends where the first of another kind stands, or with the
text. -/
theorem cut_where {p : α → Prop} {a a' b b' : List α} (inside : ∀ x ∈ a, p x)
    (inside' : ∀ x ∈ a', p x) (next : ∀ x ∈ b.head?, ¬ p x) (next' : ∀ x ∈ b'.head?, ¬ p x)
    (same : a ++ b = a' ++ b') :
    a = a' ∧ b = b' := by
  induction a generalizing a' with
  | nil =>
    cases a' with
    | nil => exact ⟨rfl, same⟩
    | cons x a' =>
      have first : x ∈ b.head? := by
        rw [List.nil_append] at same
        rw [same]
        rfl
      exact absurd (inside' x List.mem_cons_self) (next x first)
  | cons y a ih =>
    cases a' with
    | nil =>
      have first : y ∈ b'.head? := by
        rw [List.nil_append] at same
        rw [← same]
        rfl
      exact absurd (inside y List.mem_cons_self) (next' y first)
    | cons x a' =>
      obtain ⟨rfl, rest⟩ := List.cons.inj same
      obtain ⟨rfl, rfl⟩ := ih (fun z member => inside z (List.mem_cons_of_mem _ member))
        (fun z member => inside' z (List.mem_cons_of_mem _ member)) rest
      exact ⟨rfl, rfl⟩

theorem ne_of_free {a : List α} (free : sep ∉ a) : ∀ x ∈ a, x ≠ sep :=
  fun _ member same => free (same ▸ member)

theorem cut_or_end {a a' b b' : List α} (free : sep ∉ a) (free' : sep ∉ a')
    (next : ∀ x ∈ b.head?, x = sep) (next' : ∀ x ∈ b'.head?, x = sep)
    (same : a ++ b = a' ++ b') : a = a' ∧ b = b' :=
  cut_where (ne_of_free free) (ne_of_free free') (fun x first => not_not.mpr (next x first))
    (fun x first => not_not.mpr (next' x first)) same

theorem cut_first {a a' b b' : List α} (free : sep ∉ a) (free' : sep ∉ a')
    (same : a ++ sep :: b = a' ++ sep :: b') : a = a' ∧ b = b' := by
  have first (rest : List α) : ∀ x ∈ (sep :: rest).head?, x = sep :=
    fun x member => (Option.mem_some.mp member).symm
  obtain ⟨fields, rest⟩ := cut_or_end free free' (first b) (first b') same
  exact ⟨fields, (List.cons.inj rest).2⟩

/-! ### Encodings that can be read back -/

section Readable
variable {β : Type} {P : β → Prop} {enc : β → List α} {stop : List α → Prop} {close : α}

/-- Before a stop, the encoding of `x` is no beginning of another one. -/
def Readable (P : β → Prop) (enc : β → List α) (stop : List α → Prop) (x : β) : Prop :=
  ∀ y, P y → ∀ r r', stop r → stop r' → enc x ++ r = enc y ++ r' → x = y ∧ r = r'

/-- Encodings one after another, up to a closing element with which none of them begins. -/
theorem flatMap_read (begins : ∀ x, P x → ∃ c s, enc x = c :: s ∧ c ≠ close)
    (follow : ∀ (zs : List β) r, (∀ z ∈ zs, P z) → stop (zs.flatMap enc ++ close :: r))
    {xs ys : List β} (sound : ∀ x ∈ xs, P x) (readable : ∀ x ∈ xs, Readable P enc stop x)
    (sound' : ∀ y ∈ ys, P y) {r r' : List α}
    (same : xs.flatMap enc ++ close :: r = ys.flatMap enc ++ close :: r') :
    xs = ys ∧ r = r' := by
  induction xs generalizing ys with
  | nil =>
    cases ys with
    | nil => exact ⟨rfl, (List.cons.inj same).2⟩
    | cons y ys =>
      obtain ⟨c, s, text, other⟩ := begins y (sound' y List.mem_cons_self)
      rw [List.flatMap_cons, text] at same
      exact absurd (List.cons.inj same).1.symm other
  | cons x xs ih =>
    have later := fun z member => sound z (List.mem_cons_of_mem x member)
    cases ys with
    | nil =>
      obtain ⟨c, s, text, other⟩ := begins x (sound x List.mem_cons_self)
      rw [List.flatMap_cons, text] at same
      exact absurd (List.cons.inj same).1 other
    | cons y ys =>
      have later' := fun z member => sound' z (List.mem_cons_of_mem y member)
      rw [List.flatMap_cons, List.flatMap_cons, List.append_assoc, List.append_assoc] at same
      obtain ⟨rfl, rest⟩ := readable x List.mem_cons_self y (sound' y List.mem_cons_self) _ _
        (follow xs r later) (follow ys r' later') same
      obtain ⟨rfl, rfl⟩ := ih later (fun z member => readable z (List.mem_cons_of_mem x member)) later' rest
      exact ⟨rfl, rfl⟩

theorem intercalate_cons (x : List α) (xs : List (List α)) :
    [sep].intercalate (x :: xs) = x ++ xs.flatMap (sep :: ·) := by
  induction xs generalizing x with
  | nil => simp
  | cons y xs ih => rw [List.intercalate_cons_cons, ih y, List.flatMap_cons, List.append_assoc]; rfl

/-- Encodings with separators between them, up to a closing element. -/
theorem join_read (begins : ∀ x, P x → ∃ c s, enc x = c :: s ∧ c ≠ close) (distinct : sep ≠ close)
    (stops : ∀ c r, c = sep ∨ c = close → stop (c :: r)) {xs ys : List β}
    (sound : ∀ x ∈ xs, P x) (readable : ∀ x ∈ xs, Readable P enc stop x) (sound' : ∀ y ∈ ys, P y)
    {r r' : List α}
    (same : [sep].intercalate (xs.map enc) ++ close :: r = [sep].intercalate (ys.map enc) ++ close :: r') :
    xs = ys ∧ r = r' := by
  let next (x : β) : List α := sep :: enc x
  have nexts (x : β) (xs : List β) : [sep].intercalate ((x :: xs).map enc) =
      enc x ++ xs.flatMap next := by
    rw [List.map_cons, intercalate_cons, List.flatMap_map]
  have follow : ∀ (zs : List β) r, (∀ z ∈ zs, P z) → stop (zs.flatMap next ++ close :: r) := by
    intro zs r _
    cases zs with
    | nil => exact stops close r (.inr rfl)
    | cons z zs => exact stops sep _ (.inl rfl)
  cases xs with
  | nil =>
    cases ys with
    | nil => exact ⟨rfl, (List.cons.inj same).2⟩
    | cons y ys =>
      obtain ⟨c, s, text, other⟩ := begins y (sound' y List.mem_cons_self)
      rw [nexts, text] at same
      exact absurd (List.cons.inj same).1.symm other
  | cons x xs =>
    have later := fun z member => sound z (List.mem_cons_of_mem x member)
    cases ys with
    | nil =>
      obtain ⟨c, s, text, other⟩ := begins x (sound x List.mem_cons_self)
      rw [nexts, text] at same
      exact absurd (List.cons.inj same).1 other
    | cons y ys =>
      have later' := fun z member => sound' z (List.mem_cons_of_mem y member)
      rw [nexts, nexts, List.append_assoc, List.append_assoc] at same
      obtain ⟨rfl, rest⟩ := readable x List.mem_cons_self y (sound' y List.mem_cons_self) _ _
        (follow xs r later) (follow ys r' later') same
      have readNext : ∀ z ∈ xs, Readable P next stop z := by
        intro z member w sound r r' stopped stopped' same
        exact readable z (List.mem_cons_of_mem x member) w sound r r' stopped stopped' (List.cons.inj same).2
      obtain ⟨rfl, rfl⟩ :=
        flatMap_read (fun z _ => ⟨sep, enc z, rfl, distinct⟩) follow later readNext later' rest
      exact ⟨rfl, rfl⟩

end Readable

variable [DecidableEq α]

theorem count_pair (a b : List α) : (a ++ sep :: b).count sep = a.count sep + b.count sep + 1 := by
  rw [List.count_append, List.count_cons_self, Nat.add_assoc]

theorem pair_inj {a a' b b' : List α} (free : sep ∉ a) (last : sep ∉ b)
    (same : a ++ sep :: b = a' ++ sep :: b') : a = a' ∧ b = b' := by
  have counts := congrArg (List.count sep) same
  rw [count_pair, count_pair, List.count_eq_zero.mpr free, List.count_eq_zero.mpr last] at counts
  have free' : sep ∉ a' := List.count_eq_zero.mp (by omega)
  exact cut_first free free' same

/-- Where the texts after a separator have as many separators, it cannot move: one text would be a
proper end of the other and miss the separator before it. -/
theorem cut_counted {a a' b b' : List α} (counts : b.count sep = b'.count sep)
    (same : a ++ sep :: b = a' ++ sep :: b') : a = a' ∧ b = b' := by
  have stays {a b a' b' surplus : List α} (counts : b.count sep = b'.count sep)
      (longer : a' = a ++ surplus) (rest : sep :: b = surplus ++ sep :: b') : a = a' ∧ b = b' := by
    cases surplus with
    | nil =>
      rw [List.append_nil] at longer
      exact ⟨longer.symm, (List.cons.inj rest).2⟩
    | cons x surplus =>
      have text : b = surplus ++ sep :: b' := (List.cons.inj rest).2
      rw [text, count_pair] at counts
      omega
  rcases List.append_eq_append_iff.mp same with ⟨surplus, longer, rest⟩ | ⟨surplus, longer, rest⟩
  · exact stays counts longer rest
  · obtain ⟨front, back⟩ := stays counts.symm longer rest
    exact ⟨front.symm, back.symm⟩

/-- As when the texts before it have as many. -/
theorem cut_counted_front {a a' b b' : List α} (counts : a.count sep = a'.count sep)
    (same : a ++ sep :: b = a' ++ sep :: b') : a = a' ∧ b = b' := by
  have total := congrArg (List.count sep) same
  rw [count_pair, count_pair] at total
  exact cut_counted (by omega) same

/-- A stretch of known length between two pairs does not move: it cannot begin before the end of the
first pair or after the begin of the second, where no separator is left for the pair on the other
side. -/
theorem frame_inj {front front' mid mid' back back' : List α} (length : mid.length = mid'.length)
    (oneFront : front.count sep = 1) (oneBack : back.count sep = 1)
    (front_has : 1 ≤ front'.count sep) (back_has : 1 ≤ back'.count sep)
    (same : front ++ sep :: (mid ++ sep :: back) = front' ++ sep :: (mid' ++ sep :: back')) :
    front = front' ∧ mid = mid' ∧ back = back' := by
  have total := congrArg List.length same
  simp only [List.length_append, List.length_cons] at total
  have notBefore : front.length ≤ front'.length := by
    by_contra before
    have begins : front' ++ [sep] <+: front ++ sep :: (mid ++ sep :: back) :=
      ⟨mid' ++ sep :: back', by rw [same, List.append_assoc]; rfl⟩
    have shorter : (front' ++ [sep]).length ≤ front.length := by
      rw [List.length_append, List.length_singleton]
      omega
    have initial := List.prefix_of_prefix_length_le begins (List.prefix_append front _) shorter
    have more := initial.sublist.count_le sep
    rw [List.count_append, List.count_singleton_self, oneFront] at more
    omega
  have notAfter : front'.length ≤ front.length := by
    by_contra after
    have ends : sep :: back' <:+ front ++ sep :: (mid ++ sep :: back) :=
      ⟨front' ++ sep :: mid', by rw [same, List.append_assoc]; rfl⟩
    have whole : back <:+ front ++ sep :: (mid ++ sep :: back) :=
      ⟨front ++ sep :: (mid ++ [sep]), by simp⟩
    have shorter : (sep :: back').length ≤ back.length := by
      rw [List.length_cons]
      omega
    have final := List.suffix_of_suffix_length_le ends whole shorter
    have more := final.sublist.count_le sep
    rw [List.count_cons_self, oneBack] at more
    omega
  obtain ⟨rfl, rest⟩ := List.append_inj same (Nat.le_antisymm notBefore notAfter)
  obtain ⟨rfl, last⟩ := List.append_inj (List.cons.inj rest).2 length
  exact ⟨rfl, rfl, (List.cons.inj last).2⟩

theorem join_inj {xs ys : List (List α)} (freeX : ∀ x ∈ xs, sep ∉ x) (freeY : ∀ y ∈ ys, sep ∉ y)
    (someX : xs ≠ []) (someY : ys ≠ []) (same : [sep].intercalate xs = [sep].intercalate ys) :
    xs = ys := by
  rw [← List.splitOn_intercalate sep freeX someX, same, List.splitOn_intercalate sep freeY someY]

omit [DecidableEq α] in
/-- What is joined to one field that is free of the separator is that field, or nothing. -/
theorem join_single {x : List α} (free : sep ∉ x) {ys : List (List α)}
    (same : [sep].intercalate ys = x) :
    ys = [x] ∨ ys = [] := by
  cases ys with
  | nil => exact .inr rfl
  | cons y ys =>
    cases ys with
    | nil =>
      rw [List.intercalate_singleton] at same
      exact .inl (by rw [same])
    | cons z ys =>
      rw [List.intercalate_cons_cons] at same
      apply absurd _ free
      rw [← same]
      simp

end GrokingClawId.Separated
