import GrokingClawId.Core.HttpSig
import GrokingClawId.Core.Panics
import GrokingClawId.Lib.Slices

/-!
# Slices of a Signature-Input header

`parse_signature_input` takes two slices of the text after the label, from one parenthesis to the
other and from there to the end. It searches for each parenthesis on its own, in a header that a
peer has written.
-/

namespace GrokingClawId.Core
open Text

/-- The two slices by their byte offsets: what is between the parentheses and what is after them. -/
def SlicesInside (rest : List Char) : Prop :=
  ∀ parenStart parenEnd, findByte ['('] rest = some parenStart → findByte [')'] rest = some parenEnd →
    (sliceBytes rest (parenStart + 1) parenEnd).isSome = true ∧
    (sliceBytes rest (parenEnd + 1) (byteLen rest)).isSome = true

def ParsesSafely (input : String) : Prop :=
  (∀ now, ¬ Panics (parseSignatureInput input now)) ∧
  ∀ label rest, splitOnce '=' (trim input.toList) = some (label, rest) → SlicesInside rest

/-- After the first equals sign a closing parenthesis comes before the first opening one. -/
def ClosesFirst (input : String) : Prop :=
  ∃ label before after, trim input.toList = label ++ '=' :: (before ++ ')' :: after) ∧
    '=' ∉ label ∧ '(' ∉ before ∧ '(' ∈ after

/-! ### Where the parentheses are -/

theorem find_singleton (c : Char) (s : List Char) : find [c] s = s.idxOf? c := by
  induction s with
  | nil => rfl
  | cons x s ih =>
    have same : [c].isPrefixOf (x :: s) = (x == c) := by
      rw [List.isPrefixOf_cons_cons, List.isPrefixOf_nil_left, Bool.and_true, BEq.comm]
    rw [find, List.idxOf?_cons, ih, same]

theorem idxOf_split {c : Char} {s : List Char} {n : Nat} (first : s.idxOf? c = some n) :
    n < s.length ∧ s = s.take n ++ c :: s.drop (n + 1) := by
  obtain ⟨inside, here, _⟩ := List.idxOf?_eq_some_iff.mp first
  refine ⟨inside, ?_⟩
  rw [← here, ← List.drop_eq_getElem_cons inside, List.take_append_drop]

/-- The text of a header whose parentheses are crossed. -/
theorem crossed_iff (rest : List Char) :
    (∃ parenStart parenEnd, rest.idxOf? '(' = some parenStart ∧ rest.idxOf? ')' = some parenEnd ∧
      parenEnd < parenStart + 1) ↔
    ∃ before after, rest = before ++ ')' :: after ∧ '(' ∉ before ∧ '(' ∈ after := by
  constructor
  · rintro ⟨parenStart, parenEnd, opens, closes, crossed⟩
    obtain ⟨_, whole⟩ := idxOf_split closes
    have free := not_mem_take_idxOf opens
    have front : rest.take parenEnd <+: rest.take parenStart :=
      List.take_prefix_take_left (Nat.le_of_lt_succ crossed)
    have early : '(' ∉ rest.take parenEnd := fun member => free (front.subset member)
    refine ⟨rest.take parenEnd, rest.drop (parenEnd + 1), whole, early, ?_⟩
    have member : '(' ∈ rest := by
      rw [(idxOf_split opens).2]
      exact List.mem_append_right _ List.mem_cons_self
    rw [whole, List.mem_append, List.mem_cons] at member
    rcases member with there | same | later
    · exact absurd there early
    · cases same
    · exact later
  · rintro ⟨before, after, rfl, free, later⟩
    have opened : '(' ∈ before ++ ')' :: after :=
      List.mem_append_right before (List.mem_cons_of_mem ')' later)
    have closed : ')' ∈ before ++ ')' :: after := List.mem_append_right before List.mem_cons_self
    obtain ⟨parenStart, opens⟩ := Option.isSome_iff_exists.mp (List.isSome_idxOf?.mpr opened)
    obtain ⟨parenEnd, closes⟩ := Option.isSome_iff_exists.mp (List.isSome_idxOf?.mpr closed)
    obtain ⟨_, here, _⟩ := List.idxOf?_eq_some_iff.mp opens
    obtain ⟨_, _, none⟩ := List.idxOf?_eq_some_iff.mp closes
    have early : parenEnd ≤ before.length := by
      by_contra past
      exact none before.length (Nat.lt_of_not_le past) (by simp)
    have late : before.length ≤ parenStart := by
      by_contra short
      apply free
      rw [← here, List.getElem_append_left (Nat.lt_of_not_le short)]
      exact List.getElem_mem _
    exact ⟨parenStart, parenEnd, opens, closes, by omega⟩

/-! ### Exactly the headers that are parsed safely -/

theorem panics_parseSignatureInput (input : String) (now : Int64) :
    Panics (parseSignatureInput input now) ↔
      ∃ label rest, splitOnce '=' (trim input.toList) = some (label, rest) ∧
        ∃ parenStart parenEnd, rest.idxOf? '(' = some parenStart ∧ rest.idxOf? ')' = some parenEnd ∧
          parenEnd < parenStart + 1 := by
  simp only [parseSignatureInput, panics_bind, not_panics_orFault, false_or, orFault_eq, orErr_eq,
    panics_ite, panics_panic, not_panics_ok, true_or, and_true, and_false, or_false, Prod.exists]
  constructor
  · rintro ⟨label, rest, cut, parenStart, opens, parenEnd, closes, crossed⟩
    exact ⟨label, rest, cut, parenStart, parenEnd, opens, closes, crossed⟩
  · rintro ⟨label, rest, cut, parenStart, parenEnd, opens, closes, crossed⟩
    exact ⟨label, rest, cut, parenStart, opens, parenEnd, closes, crossed⟩

theorem closesFirst_iff_panics (input : String) (now : Int64) :
    ClosesFirst input ↔ Panics (parseSignatureInput input now) := by
  rw [panics_parseSignatureInput]
  constructor
  · rintro ⟨label, before, after, text, plain, free, later⟩
    refine ⟨label, before ++ ')' :: after, ?_, (crossed_iff _).mpr ⟨before, after, rfl, free, later⟩⟩
    rw [text, splitOnce_append plain]
  · rintro ⟨label, rest, cut, crossed⟩
    obtain ⟨plain, text⟩ := splitOnce_eq_some cut
    obtain ⟨before, after, rfl, free, later⟩ := (crossed_iff rest).mp crossed
    exact ⟨label, before, after, text, plain, free, later⟩

theorem byteLen_after {c : Char} {s : List Char} {n : Nat} (narrow : c.utf8Size = 1)
    (first : s.idxOf? c = some n) : byteLen (s.take n) + 1 = byteLen (s.take (n + 1)) := by
  have next := take_occurrence (find_occurs ((find_singleton c s).trans first)).2
  rw [List.length_singleton] at next
  rw [next, byteLen_append, byteLen_cons, byteLen_nil, narrow]

theorem slicesInside {rest : List Char}
    (ordered : ∀ parenStart parenEnd, rest.idxOf? '(' = some parenStart →
      rest.idxOf? ')' = some parenEnd → parenStart + 1 ≤ parenEnd) :
    SlicesInside rest := by
  intro i j begins ends
  rw [findByte_eq, find_singleton] at begins ends
  obtain ⟨parenStart, opens, rfl⟩ := Option.map_eq_some_iff.mp begins
  obtain ⟨parenEnd, closes, rfl⟩ := Option.map_eq_some_iff.mp ends
  have order := ordered parenStart parenEnd opens closes
  have inside := (idxOf_split closes).1
  constructor
  · rw [byteLen_after (by decide) opens, sliceBytes_take (by omega), if_neg (by omega)]
    rfl
  · have whole : byteLen rest = byteLen (rest.take rest.length) := by rw [List.take_length]
    rw [byteLen_after (by decide) closes, whole, sliceBytes_take (by omega), if_neg (by omega)]
    rfl

theorem parsesSafely_iff (input : String) : ParsesSafely input ↔ ¬ ClosesFirst input := by
  constructor
  · rintro ⟨safe, _⟩ crossed
    exact safe 0 ((closesFirst_iff_panics input 0).mp crossed)
  · intro ordered
    refine ⟨fun now panics => ordered ((closesFirst_iff_panics input now).mpr panics), ?_⟩
    intro label rest cut
    refine slicesInside fun parenStart parenEnd opens closes => ?_
    by_contra crossed
    exact ordered ((closesFirst_iff_panics input 0).mpr ((panics_parseSignatureInput input 0).mpr
      ⟨label, rest, cut, parenStart, parenEnd, opens, closes, Nat.lt_of_not_le crossed⟩))

/-- A header of seven characters. -/
theorem not_parsesSafely : ¬ ∀ input, ParsesSafely input := by
  intro all
  obtain ⟨safe, _⟩ := all "sig1=)("
  exact safe 0 ⟨"slice index starts after its end", by rfl⟩

/-- The verification of a request ends with such a header. -/
theorem panics_verifyRequest [UrlCrate] [Unicode] [Ed25519] (request : HttpRequest)
    {input : String} (signature key : String) (now : Int64) (crossed : ClosesFirst input) :
    Panics (verifyRequest request input signature key now) := by
  rw [verifyRequest, panics_bind]
  exact .inl ((closesFirst_iff_panics input now).mp crossed)

end GrokingClawId.Core
