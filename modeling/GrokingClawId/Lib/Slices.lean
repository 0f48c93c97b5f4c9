import GrokingClawId.Lib.Text
import Mathlib.Data.List.Infix

/-!
# Text by byte offsets

A systems language measures and cuts its strings by the bytes of their UTF-8 encoding, and a cut
inside a character is an error. Cuts by bytes are cuts by characters wherever they are possible, and
a search for a text returns offsets at which they are.
-/

namespace GrokingClawId.Text

def byteLen (s : List Char) : Nat := (s.map Char.utf8Size).sum

@[simp] theorem byteLen_nil : byteLen [] = 0 := rfl

@[simp] theorem byteLen_cons (c : Char) (s : List Char) :
    byteLen (c :: s) = c.utf8Size + byteLen s := by
  simp [byteLen]

@[simp] theorem byteLen_append (a b : List Char) : byteLen (a ++ b) = byteLen a + byteLen b := by
  simp [byteLen]

theorem byteLen_eq_zero {s : List Char} : byteLen s = 0 ↔ s = [] := by
  cases s with
  | nil => simp
  | cons c s =>
    have positive := c.utf8Size_pos
    rw [byteLen_cons]
    constructor
    · intro zero
      omega
    · intro empty
      cases empty

theorem utf8Size_ascii {c : Char} (ascii : c.toNat < 128) : c.utf8Size = 1 := by
  rw [Char.utf8Size_eq_one_iff, UInt32.le_iff_toNat_le]
  exact Nat.le_of_lt_succ ascii

theorem byteLen_ascii {s : List Char} (ascii : ∀ c ∈ s, c.toNat < 128) : byteLen s = s.length := by
  induction s with
  | nil => rfl
  | cons c s ih =>
    rw [byteLen_cons, utf8Size_ascii (ascii c List.mem_cons_self),
      ih fun x member => ascii x (List.mem_cons_of_mem _ member), List.length_cons, Nat.add_comm]

/-! ### Boundaries -/

/-- A character begins or the text ends at byte `n`. -/
def Boundary (n : Nat) (s : List Char) : Prop := ∃ a b, s = a ++ b ∧ byteLen a = n

/-- The text before and after a byte offset. -/
def splitAtByte : Nat → List Char → Option (List Char × List Char)
  | 0, s => some ([], s)
  | _ + 1, [] => none
  | n + 1, c :: s =>
    if c.utf8Size ≤ n + 1 then
      (splitAtByte (n + 1 - c.utf8Size) s).map fun (a, b) => (c :: a, b)
    else none

theorem splitAtByte_append (a b : List Char) : splitAtByte (byteLen a) (a ++ b) = some (a, b) := by
  induction a with
  | nil => simp [splitAtByte]
  | cons c a ih =>
    have positive := c.utf8Size_pos
    obtain ⟨n, size⟩ : ∃ n, byteLen (c :: a) = n + 1 := ⟨c.utf8Size + byteLen a - 1, by simp; omega⟩
    have rest : n + 1 - c.utf8Size = byteLen a := by
      rw [← size, byteLen_cons, Nat.add_sub_cancel_left]
    have fits : c.utf8Size ≤ n + 1 := by
      rw [← size, byteLen_cons]
      omega
    rw [size, List.cons_append, splitAtByte, if_pos fits, rest, ih]
    rfl

theorem splitAtByte_sound {n : Nat} {s a b : List Char} (cut : splitAtByte n s = some (a, b)) :
    s = a ++ b ∧ byteLen a = n := by
  induction s generalizing n a with
  | nil =>
    cases n with
    | zero =>
      obtain ⟨rfl, rfl⟩ := Prod.mk.inj (Option.some.inj cut)
      exact ⟨rfl, rfl⟩
    | succ n => cases cut
  | cons c s ih =>
    cases n with
    | zero =>
      obtain ⟨rfl, rfl⟩ := Prod.mk.inj (Option.some.inj cut)
      exact ⟨rfl, rfl⟩
    | succ n =>
      rw [splitAtByte] at cut
      by_cases fits : c.utf8Size ≤ n + 1
      · rw [if_pos fits] at cut
        obtain ⟨⟨front, back⟩, inner, same⟩ := Option.map_eq_some_iff.mp cut
        obtain ⟨rfl, rfl⟩ := Prod.mk.inj same
        obtain ⟨rfl, size⟩ := ih inner
        refine ⟨rfl, ?_⟩
        rw [byteLen_cons, size]
        omega
      · rw [if_neg fits] at cut
        cases cut

theorem splitAtByte_eq_some {n : Nat} {s a b : List Char} :
    splitAtByte n s = some (a, b) ↔ s = a ++ b ∧ byteLen a = n := by
  constructor
  · exact splitAtByte_sound
  · rintro ⟨rfl, rfl⟩
    exact splitAtByte_append a b

theorem splitAtByte_isSome {n : Nat} {s : List Char} :
    (splitAtByte n s).isSome = true ↔ Boundary n s := by
  rw [Option.isSome_iff_exists]
  constructor
  · rintro ⟨⟨a, b⟩, cut⟩
    exact ⟨a, b, splitAtByte_eq_some.mp cut⟩
  · rintro ⟨a, b, parts⟩
    exact ⟨(a, b), splitAtByte_eq_some.mpr parts⟩

instance decidableBoundary (n : Nat) (s : List Char) : Decidable (Boundary n s) :=
  decidable_of_iff _ splitAtByte_isSome

theorem boundary_ascii {s : List Char} (ascii : ∀ c ∈ s, c.toNat < 128) {n : Nat}
    (inside : n ≤ byteLen s) : Boundary n s := by
  rw [byteLen_ascii ascii] at inside
  refine ⟨s.take n, s.drop n, (List.take_append_drop n s).symm, ?_⟩
  rw [byteLen_ascii fun c member => ascii c (List.mem_of_mem_take member),
    List.length_take_of_le inside]

/-- The text between two byte offsets. -/
def sliceBytes (s : List Char) (start stop : Nat) : Option (List Char) :=
  if stop < start then none
  else (splitAtByte stop s).bind fun outer => (splitAtByte start outer.1).map Prod.snd

theorem sliceBytes_eq_some {s inside : List Char} {start stop : Nat} :
    sliceBytes s start stop = some inside ↔
      ∃ before after, s = before ++ (inside ++ after) ∧ byteLen before = start ∧
        start + byteLen inside = stop := by
  unfold sliceBytes
  constructor
  · intro cut
    split at cut
    · cases cut
    · obtain ⟨⟨front, after⟩, outer, cut⟩ := Option.bind_eq_some_iff.mp cut
      obtain ⟨⟨before, _⟩, inner, rfl⟩ := Option.map_eq_some_iff.mp cut
      obtain ⟨rfl, size⟩ := splitAtByte_sound outer
      obtain ⟨rfl, first⟩ := splitAtByte_sound inner
      refine ⟨before, after, List.append_assoc _ _ _, first, ?_⟩
      rw [← size, byteLen_append, first]
  · rintro ⟨before, after, rfl, rfl, rfl⟩
    rw [if_neg (by omega), ← List.append_assoc, ← byteLen_append, splitAtByte_append,
      Option.bind_some, splitAtByte_append, Option.map_some]

/-! ### Offsets of characters -/

theorem take_append_drop_take {s : List Char} {m n : Nat} (order : m ≤ n) :
    s.take m ++ (s.take n).drop m = s.take n := by
  have front : (s.take n).take m = s.take m := by rw [List.take_take, Nat.min_eq_left order]
  rw [← front, List.take_append_drop]

theorem byteLen_take_lt {s : List Char} {m n : Nat} (order : m < n) (inside : n ≤ s.length) :
    byteLen (s.take m) < byteLen (s.take n) := by
  have more : (s.take n).drop m ≠ [] := by
    intro empty
    have length := congrArg List.length empty
    simp only [List.length_drop, List.length_take, List.length_nil] at length
    omega
  have positive : 0 < byteLen ((s.take n).drop m) :=
    Nat.pos_of_ne_zero fun zero => more (byteLen_eq_zero.mp zero)
  rw [← take_append_drop_take order.le, byteLen_append]
  omega

theorem sliceBytes_take {s : List Char} {m n : Nat} (inside : m ≤ s.length) :
    sliceBytes s (byteLen (s.take m)) (byteLen (s.take n)) =
      if n < m then none else some ((s.take n).drop m) := by
  by_cases order : n < m
  · rw [if_pos order, sliceBytes, if_pos (byteLen_take_lt order inside)]
  · have front := take_append_drop_take (s := s) (Nat.le_of_not_lt order)
    rw [if_neg order, sliceBytes_eq_some]
    refine ⟨s.take m, s.drop n, ?_, rfl, ?_⟩
    · rw [← List.append_assoc, front, List.take_append_drop]
    · rw [← byteLen_append, front]

/-- The byte offset of the first occurrence. -/
def findByte (pat : List Char) : List Char → Option Nat
  | [] => if pat.isPrefixOf [] then some 0 else none
  | c :: s => if pat.isPrefixOf (c :: s) then some 0 else (findByte pat s).map (c.utf8Size + ·)

theorem findByte_eq (pat s : List Char) :
    findByte pat s = (find pat s).map fun n => byteLen (s.take n) := by
  induction s with
  | nil =>
    rw [findByte, find]
    split <;> rfl
  | cons c s ih =>
    rw [findByte, find]
    split
    · rfl
    · rw [ih, Option.map_map, Option.map_map]
      congr 1

theorem find_occurs {pat s : List Char} {n : Nat} (found : find pat s = some n) :
    n ≤ s.length ∧ pat <+: s.drop n := by
  induction s generalizing n with
  | nil =>
    rw [find] at found
    split at found
    · obtain rfl := Option.some.inj found
      exact ⟨le_rfl, List.isPrefixOf_iff_prefix.mp ‹_›⟩
    · cases found
  | cons c s ih =>
    rw [find] at found
    split at found
    · obtain rfl := Option.some.inj found
      exact ⟨Nat.zero_le _, List.isPrefixOf_iff_prefix.mp ‹_›⟩
    · obtain ⟨m, later, rfl⟩ := Option.map_eq_some_iff.mp found
      exact ⟨Nat.succ_le_succ (ih later).1, (ih later).2⟩

theorem take_occurrence {pat s : List Char} {n : Nat} (occurs : pat <+: s.drop n) :
    s.take (n + pat.length) = s.take n ++ pat := by
  obtain ⟨rest, whole⟩ := occurs
  rw [List.take_add, ← whole, List.take_left]

/-- A slice from the start of one occurrence to the end of another. -/
theorem sliceBytes_find {first last s : List Char} {start stop i j : Nat}
    (opens : find first s = some start) (closes : find last s = some stop)
    (begins : findByte first s = some i) (ends : findByte last s = some j) :
    sliceBytes s i (j + byteLen last) =
      if stop + last.length < start then none else some ((s.take (stop + last.length)).drop start) := by
  rw [findByte_eq, opens, Option.map_some] at begins
  rw [findByte_eq, closes, Option.map_some] at ends
  have ending := congrArg byteLen (take_occurrence (find_occurs closes).2)
  rw [byteLen_append] at ending
  rw [← Option.some.inj begins, ← Option.some.inj ends, ← ending,
    sliceBytes_take (find_occurs opens).1]

/-! ### The text between two occurrences -/

section Between
variable {first last s : List Char} {start stop : Nat}

theorem cut_after (opens : first <+: s.drop start) (closes : last <+: s.drop stop)
    (inside : stop ≤ s.length) (order : start + first.length ≤ stop) :
    (s.take (stop + last.length)).drop start =
      first ++ ((s.take stop).drop (start + first.length) ++ last) := by
  have length : (s.take stop).length = stop := List.length_take_of_le inside
  have gap : stop - start = first.length + (stop - (start + first.length)) := by omega
  obtain ⟨rest, whole⟩ := opens
  have later : s.drop (start + first.length) = rest := by
    rw [← List.drop_drop, ← whole, List.drop_left]
  rw [take_occurrence closes, List.drop_append_of_le_length (by omega), List.drop_take, ← whole,
    gap, List.take_length_add_append, List.drop_take, later, List.append_assoc]

/-- The second occurrence starts inside the first. -/
theorem cut_across (opens : first <+: s.drop start) (closes : last <+: s.drop stop)
    (inside : stop ≤ s.length) (order : start ≤ stop) (near : stop ≤ start + first.length) :
    (s.take (stop + last.length)).drop start = first.take (stop - start) ++ last := by
  have length : (s.take stop).length = stop := List.length_take_of_le inside
  obtain ⟨rest, whole⟩ := opens
  rw [take_occurrence closes, List.drop_append_of_le_length (by omega), List.drop_take, ← whole,
    List.take_append_of_le_length (by omega)]

/-- The cut starts inside the second occurrence. -/
theorem cut_inside (closes : last <+: s.drop stop) (inside : stop ≤ s.length)
    (order : stop ≤ start) :
    (s.take (stop + last.length)).drop start = last.drop (start - stop) := by
  have length : (s.take stop).length = stop := List.length_take_of_le inside
  rw [take_occurrence closes, List.drop_append, length, List.drop_eq_nil_of_le (by omega),
    List.nil_append]

/-- Two texts occur at places that close only when the rest of one starts like the other. -/
theorem occurrences_fit (opens : first <+: s.drop start) (closes : last <+: s.drop stop)
    (order : start ≤ stop) :
    first.drop (stop - start) <+: last ∨ last <+: first.drop (stop - start) := by
  have rest := List.IsPrefix.drop opens (stop - start)
  rw [List.drop_drop, Nat.add_sub_of_le order] at rest
  exact List.prefix_or_prefix_of_prefix rest closes

end Between

end GrokingClawId.Text
