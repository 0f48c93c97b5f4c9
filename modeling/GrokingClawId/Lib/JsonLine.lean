import Mathlib.Data.List.Induction
import GrokingClawId.Lib.JsonText

/-!
# A JSON value on a line

The compact text of a value has no line break in it, and the text of an object or an array begins and
ends with its brackets, so that a line with it is read back trimmed.
-/

namespace GrokingClawId.Json
open Text

theorem wellFormed_nat (n : Nat) : (num (toString n)).WellFormed := by
  refine .num ?_ fun c member => ?_
  · show (Nat.repr n).toList ≠ []
    rw [Nat.toList_repr]
    exact Nat.toDigits_ne_nil
  · have digit := digits_repr n c member
    simp [isNumberChar, digit]

theorem wellFormed_int (n : Int) : (num (toString n)).WellFormed := by
  refine .num ?_ fun c member => ?_
  · intro empty
    have read : parseInt n n (toString n).toList = some n := parseInt_toString (Int.le_refl n) (Int.le_refl n)
    rw [empty] at read
    cases read
  · rcases toString_int_chars member with digit | minus
    · simp [isNumberChar, digit]
    · simp [isNumberChar, minus]

theorem wellFormed_obj {fields : List (String × Json)} (keys : (fields.map Prod.fst).Nodup)
    (values : fields.Forall fun field => field.2.WellFormed) : (obj fields).WellFormed :=
  .obj keys (List.forall_iff_forall_mem.mp values)

theorem wellFormed_strings (texts : List String) : (arr (texts.map str)).WellFormed := by
  refine .arr fun v member => ?_
  obtain ⟨text, _, rfl⟩ := List.mem_map.mp member
  exact .str text

theorem wellFormed_ofOption {α : Type} {f : α → Json} (all : ∀ a, (f a).WellFormed) (o : Option α) :
    (ofOption f o).WellFormed := by
  cases o with
  | none => exact .null
  | some a => exact all a

/-! ### Line breaks -/

theorem newline_not_mem_escapeChar (c : Char) : '\n' ∉ escapeChar c := by
  have digits : ∀ n < 16, Nat.digitChar n ≠ '\n' := by decide
  unfold escapeChar
  by_cases control : c.toNat < 0x20
  · have high := digits (c.toNat / 16) (by omega)
    have low := digits (c.toNat % 16) (by omega)
    split_ifs <;> simp [high.symm, low.symm]
  · have plain : '\n' ≠ c := by
      rintro rfl
      exact control (by decide)
    split_ifs <;> simp [plain]

theorem newline_not_mem_quote (s : String) : '\n' ∉ (quote s).toList := by
  rw [quote, String.toList_ofList]
  intro member
  rcases List.mem_append.mp member with front | last
  · rcases List.mem_cons.mp front with open_quote | inside
    · cases open_quote
    · obtain ⟨c, _, escaped⟩ := List.mem_flatMap.mp inside
      exact newline_not_mem_escapeChar c escaped
  · cases List.mem_singleton.mp last

theorem WellFormed.one_line {v : Json} (wellFormed : v.WellFormed) : '\n' ∉ (render v).toList := by
  induction wellFormed with
  | null => decide
  | bool b => cases b <;> decide
  | num nonempty chars => exact fun member => absurd (chars _ member) (by decide)
  | str s => exact newline_not_mem_quote s
  | @arr items _ ih =>
    rw [render_arr]
    intro member
    rcases List.mem_cons.mp member with first | member
    · cases first
    rcases List.mem_append.mp member with inside | last
    · obtain ⟨part, listed, member⟩ := mem_of_mem_intercalate (by decide) inside
      obtain ⟨v, inside, rfl⟩ := List.mem_map.mp listed
      exact ih v inside member
    · cases List.mem_singleton.mp last
  | @obj fields _ _ ih =>
    rw [render_obj]
    intro member
    rcases List.mem_cons.mp member with first | member
    · cases first
    rcases List.mem_append.mp member with inside | last
    · obtain ⟨part, listed, member⟩ := mem_of_mem_intercalate (by decide) inside
      obtain ⟨field, inside, rfl⟩ := List.mem_map.mp listed
      rcases List.mem_append.mp member with key | value
      · exact newline_not_mem_quote _ key
      · rcases List.mem_cons.mp value with colon | value
        · cases colon
        · exact ih field inside value
    · cases List.mem_singleton.mp last

/-! ### Trimming -/

theorem trimMatches_append {p : Char → Bool} {s after : List Char} (trimmed : Trimmed p s) (nonempty : s ≠ [])
    (blank : ∀ c ∈ after, p c = true) : trimMatches p (s ++ after) = s := by
  have front : (s ++ after).dropWhile p = s ++ after := by
    cases s with
    | nil => exact absurd rfl nonempty
    | cons c s => simp [trimmed.1 c (by simp)]
  have back : (s ++ after).rdropWhile p = s := by
    induction after using List.reverseRecOn with
    | nil =>
      rw [List.append_nil, List.rdropWhile_eq_self_iff]
      intro nonempty
      rw [trimmed.2 _ (List.getLast?_eq_some_getLast nonempty)]
      exact Bool.false_ne_true
    | append_singleton after c ih =>
      rw [← List.append_assoc, List.rdropWhile_concat_pos _ _ _ (blank c (by simp))]
      refine ih (fun c member => blank c (List.mem_append_left _ member)) ?_
      cases s with
      | nil => exact absurd rfl nonempty
      | cons c s => simp [trimmed.1 c (by simp)]
  rw [trimMatches, front, back]

theorem trimmed_render_obj (fields : List (String × Json)) :
    Trimmed isWhitespace (render (obj fields)).toList := by
  rw [render_obj]
  constructor
  · intro c first
    obtain rfl := Option.some.inj first
    decide
  · intro c last
    rw [← List.cons_append, List.getLast?_concat] at last
    obtain rfl := Option.some.inj last
    decide

theorem render_obj_ne_nil (fields : List (String × Json)) : (render (obj fields)).toList ≠ [] := by
  rw [render_obj]
  exact List.cons_ne_nil _ _

/-- The text of an object is left by trimming it with blanks behind it. -/
theorem trim_render_obj (fields : List (String × Json)) {after : List Char}
    (blank : ∀ c ∈ after, isWhitespace c = true) :
    trim ((render (obj fields)).toList ++ after) = (render (obj fields)).toList :=
  trimMatches_append (trimmed_render_obj fields) (render_obj_ne_nil fields) blank

end GrokingClawId.Json
