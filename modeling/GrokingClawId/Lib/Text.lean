import Mathlib.Algebra.GroupWithZero.Nat
import Mathlib.Data.List.Basic
import Mathlib.Data.List.DropRight

/-!
# Text as lists of characters

The string operations of a systems language that hand-written formats are read and written
with: trimming, splitting at a separator, searching for a marker, lines, decimal integers.
Each operation comes with the rule that undoes the matching way of writing text.
-/

namespace GrokingClawId.Text

/-- Unicode `White_Space`. -/
def isWhitespace (c : Char) : Bool :=
  let n := c.toNat
  (9 ≤ n && n ≤ 13) || n == 0x20 || n == 0x85 || n == 0xA0 || n == 0x1680 ||
    (0x2000 ≤ n && n ≤ 0x200A) || n == 0x2028 || n == 0x2029 || n == 0x202F || n == 0x205F ||
    n == 0x3000

/-- Decides a fact about each character along the text, not over all of `Char`. -/
theorem forall_of_all {p : Char → Prop} [DecidablePred p] {s : List Char}
    (h : (s.all fun c => decide (p c)) = true) : ∀ c ∈ s, p c := by
  intro c member
  exact of_decide_eq_true (List.all_eq_true.mp h c member)

/-! ### Trimming -/

def trimMatches (p : Char → Bool) (s : List Char) : List Char := (s.dropWhile p).rdropWhile p

def trim (s : List Char) : List Char := trimMatches isWhitespace s

def Trimmed (p : Char → Bool) (s : List Char) : Prop :=
  (∀ c ∈ s.head?, p c = false) ∧ ∀ c ∈ s.getLast?, p c = false

theorem trimMatches_eq_self {p : Char → Bool} {s : List Char} (h : Trimmed p s) :
    trimMatches p s = s := by
  obtain ⟨first, last⟩ := h
  have front : s.dropWhile p = s := by
    cases s with
    | nil => rfl
    | cons c s => simp [first c (by simp)]
  rw [trimMatches, front, List.rdropWhile_eq_self_iff]
  intro nonempty
  simp [last _ (List.getLast?_eq_some_getLast nonempty)]

theorem trimmed_of_forall {p : Char → Bool} {s : List Char} (h : ∀ c ∈ s, p c = false) :
    Trimmed p s :=
  ⟨fun c member => h c (List.mem_of_mem_head? member), fun c member => h c (List.mem_of_getLast? member)⟩

/-- One stripped character on each side of trimmed text. -/
theorem trimMatches_wrap {p : Char → Bool} {s : List Char} {c : Char} (hc : p c = true)
    (trimmed : Trimmed p s) : trimMatches p (c :: s ++ [c]) = s := by
  have front : (c :: s ++ [c]).dropWhile p = (s ++ [c]).dropWhile p := by
    simp [hc]
  rw [trimMatches, front]
  cases s with
  | nil => simp [hc]
  | cons x s =>
    have keep : (x :: s ++ [c]).dropWhile p = x :: s ++ [c] := by
      simp [trimmed.1 x (by simp)]
    rw [keep, List.rdropWhile_concat_pos _ _ _ hc]
    refine List.rdropWhile_eq_self_iff.mpr (fun nonempty => ?_)
    simp [trimmed.2 _ (List.getLast?_eq_some_getLast nonempty)]

theorem trimMatches_trimmed (p : Char → Bool) (s : List Char) : Trimmed p (trimMatches p s) := by
  constructor
  · intro c first
    have kept : (trimMatches p s) <+: s.dropWhile p := List.rdropWhile_prefix p _
    have head : c ∈ (s.dropWhile p).head? := by
      obtain ⟨rest, whole⟩ := kept
      rw [← whole, List.head?_append_of_ne_nil _ (List.ne_nil_of_mem (List.mem_of_mem_head? first))]
      exact first
    cases h : s.dropWhile p with
    | nil =>
      rw [h] at head
      cases head
    | cons x rest =>
      rw [h] at head
      obtain rfl : x = c := by simpa using head
      have stop := List.head_dropWhile_not p (l := s) (by rw [h]; exact List.cons_ne_nil _ _)
      simpa [h] using stop
  · intro c last
    have nonempty : trimMatches p s ≠ [] := List.ne_nil_of_mem (List.mem_of_getLast? last)
    have stop := List.rdropWhile_last_not p (s.dropWhile p) nonempty
    rw [List.getLast?_eq_some_getLast nonempty] at last
    rw [← Option.some.inj last]
    exact Bool.eq_false_iff.mpr stop

theorem trimMatches_ne_nil {p : Char → Bool} {s : List Char} {c : Char} (member : c ∈ s)
    (kept : p c = false) :
    trimMatches p s ≠ [] := by
  have inner : c ∈ s.dropWhile p := by
    rw [← List.takeWhile_append_dropWhile (p := p) (l := s), List.mem_append] at member
    rcases member with dropped | inner
    · rw [List.mem_takeWhile_imp dropped] at kept
      cases kept
    · exact inner
  intro empty
  rw [trimMatches, List.rdropWhile_eq_nil_iff] at empty
  rw [empty c inner] at kept
  cases kept

/-! ### Splitting -/

/-- The text before and after the first separator. -/
def splitOnce (sep : Char) : List Char → Option (List Char × List Char)
  | [] => none
  | c :: s => if c = sep then some ([], s) else (splitOnce sep s).map fun (a, b) => (c :: a, b)

/-- The text before and after the last separator. -/
def rsplitOnce (sep : Char) (s : List Char) : Option (List Char × List Char) :=
  (splitOnce sep s.reverse).map fun (a, b) => (b.reverse, a.reverse)

theorem splitOnce_append {sep : Char} {a : List Char} (free : sep ∉ a) (b : List Char) :
    splitOnce sep (a ++ sep :: b) = some (a, b) := by
  induction a with
  | nil => simp [splitOnce]
  | cons c a ih =>
    simp only [List.mem_cons, not_or] at free
    simp [splitOnce, Ne.symm free.1, ih free.2]

theorem splitOnce_eq_some {sep : Char} {s a b : List Char} (cut : splitOnce sep s = some (a, b)) :
    sep ∉ a ∧ s = a ++ sep :: b := by
  induction s generalizing a with
  | nil => cases cut
  | cons c s ih =>
    rw [splitOnce] at cut
    by_cases here : c = sep
    · rw [if_pos here] at cut
      obtain ⟨rfl, rfl⟩ := Prod.mk.inj (Option.some.inj cut)
      exact ⟨List.not_mem_nil, by rw [here, List.nil_append]⟩
    · rw [if_neg here] at cut
      obtain ⟨⟨front, back⟩, rest, same⟩ := Option.map_eq_some_iff.mp cut
      obtain ⟨rfl, rfl⟩ := Prod.mk.inj same
      obtain ⟨free, whole⟩ := ih rest
      refine ⟨?_, by rw [whole, List.cons_append]⟩
      rw [List.mem_cons, not_or]
      exact ⟨Ne.symm here, free⟩

/-- The parts hold none of the characters at which the text is split. -/
theorem splitOnP_plain {p : Char → Bool} {s : List Char} :
    ∀ part ∈ s.splitOnP p, ∀ c ∈ part, p c = false ∧ c ∈ s := by
  induction s with
  | nil => simp
  | cons x s ih =>
    intro part member c inside
    rw [List.splitOnP_cons_eq_if_modifyHead] at member
    by_cases cut : p x = true
    · rw [if_pos cut] at member
      rcases List.mem_cons.mp member with rfl | later
      · cases inside
      · exact ⟨(ih part later c inside).1, List.mem_cons_of_mem _ (ih part later c inside).2⟩
    · rw [if_neg cut] at member
      cases parts : s.splitOnP p with
      | nil => exact absurd parts (List.splitOnP_ne_nil p s)
      | cons first rest =>
        rw [parts, List.modifyHead_cons] at member
        rw [parts] at ih
        rcases List.mem_cons.mp member with rfl | later
        · rcases List.mem_cons.mp inside with rfl | deep
          · exact ⟨Bool.eq_false_iff.mpr cut, List.mem_cons_self⟩
          · have fact := ih first List.mem_cons_self c deep
            exact ⟨fact.1, List.mem_cons_of_mem _ fact.2⟩
        · have fact := ih part (List.mem_cons_of_mem _ later) c inside
          exact ⟨fact.1, List.mem_cons_of_mem _ fact.2⟩

theorem rsplitOnce_append {sep : Char} {b : List Char} (free : sep ∉ b) (a : List Char) :
    rsplitOnce sep (a ++ sep :: b) = some (a, b) := by
  have turned : (a ++ sep :: b).reverse = b.reverse ++ sep :: a.reverse := by simp
  rw [rsplitOnce, turned, splitOnce_append (by simpa using free)]
  simp

/-- The nonempty words between whitespace. -/
def splitWhitespace (s : List Char) : List (List Char) :=
  (s.splitOnP isWhitespace).filter (fun w => w ≠ [])

theorem splitWhitespace_intercalate {words : List (List Char)}
    (solid : ∀ w ∈ words, w ≠ [] ∧ ∀ c ∈ w, isWhitespace c = false) :
    splitWhitespace ([' '].intercalate words) = words := by
  induction words with
  | nil => simp [splitWhitespace, List.intercalate]
  | cons w words ih =>
    obtain ⟨nonempty, plain⟩ := solid w (by simp)
    have rest := ih fun w' member => solid w' (List.mem_cons_of_mem _ member)
    cases words with
    | nil => simp [splitWhitespace, List.splitOnP_eq_singleton plain, nonempty]
    | cons w' words =>
      rw [List.intercalate_cons_cons, List.append_assoc, List.singleton_append, splitWhitespace,
        List.splitOnP_append_cons_of_forall_mem plain ' ' (by decide)]
      rw [splitWhitespace] at rest
      rw [List.filter_cons_of_pos (by simpa using nonempty), rest]

theorem splitWhitespace_solid {s : List Char} : ∀ w ∈ splitWhitespace s,
    w ≠ [] ∧ ∀ c ∈ w, isWhitespace c = false ∧ c ∈ s := by
  intro w member
  obtain ⟨part, nonempty⟩ := List.mem_filter.mp member
  exact ⟨of_decide_eq_true nonempty, splitOnP_plain w part⟩

/-! ### Fields joined by a separator -/

theorem count_intercalate (sep : Char) (fields : List (List Char)) :
    ([sep].intercalate fields).count sep =
      (fields.map (List.count sep)).sum + (fields.length - 1) := by
  induction fields with
  | nil => simp [List.intercalate]
  | cons x fields ih =>
    cases fields with
    | nil => simp
    | cons y fields =>
      rw [List.intercalate_cons_cons]
      simp only [List.count_append, List.count_singleton_self, ih, List.map_cons, List.sum_cons,
        List.length_cons]
      omega

/-- Joined fields determine the fields, when those of one side are free of the separator. -/
theorem intercalate_inj {sep : Char} {xs ys : List (List Char)} (length : xs.length = ys.length)
    (free : ∀ x ∈ xs, sep ∉ x) (same : [sep].intercalate xs = [sep].intercalate ys) : xs = ys := by
  cases xs with
  | nil => exact (List.eq_nil_of_length_eq_zero length.symm).symm
  | cons x xs =>
    have counts := congrArg (List.count sep) same
    rw [count_intercalate, count_intercalate, length] at counts
    have none : ((x :: xs).map (List.count sep)).sum = 0 :=
      List.sum_eq_zero_iff_forall_eq_nat.mpr fun n member => by
        obtain ⟨field, present, rfl⟩ := List.mem_map.mp member
        exact List.count_eq_zero.mpr (free field present)
    have free' : ∀ y ∈ ys, sep ∉ y := by
      intro y member
      have zero : (ys.map (List.count sep)).sum = 0 := by omega
      exact List.count_eq_zero.mp
        (List.sum_eq_zero_iff_forall_eq_nat.mp zero _ (List.mem_map_of_mem member))
    have nonempty : ys ≠ [] := by
      intro empty
      simp [empty] at length
    rw [← List.splitOn_intercalate sep free (by simp), same,
      List.splitOn_intercalate sep free' nonempty]

theorem mem_of_mem_intercalate {sep c : Char} {fields : List (List Char)} (other : c ≠ sep)
    (member : c ∈ [sep].intercalate fields) : ∃ x ∈ fields, c ∈ x := by
  induction fields with
  | nil => simp [List.intercalate] at member
  | cons x fields ih =>
    cases fields with
    | nil => exact ⟨x, by simp, by simpa [List.intercalate] using member⟩
    | cons y fields =>
      rw [List.intercalate_cons_cons, List.append_assoc, List.mem_append, List.mem_append] at member
      rcases member with first | separator | rest
      · exact ⟨x, by simp, first⟩
      · exact absurd (List.mem_singleton.mp separator) other
      · obtain ⟨z, present, inside⟩ := ih rest
        exact ⟨z, List.mem_cons_of_mem _ present, inside⟩

theorem intercalate_ends (sep : List Char) (fields : List (List Char)) (x : List Char) :
    ∃ front, sep.intercalate (fields ++ [x]) = front ++ x := by
  induction fields with
  | nil => exact ⟨[], by rw [List.nil_append, List.intercalate_singleton, List.nil_append]⟩
  | cons y fields ih =>
    obtain ⟨front, ends⟩ := ih
    refine ⟨y ++ sep ++ front, ?_⟩
    rw [List.cons_append, List.intercalate_cons_of_ne_nil (by simp), ends]
    simp only [List.append_assoc]

theorem intercalate_nil_cons (sep : Char) (fields : List (List Char)) :
    [sep].intercalate ([] :: fields) = fields.flatMap (sep :: ·) := by
  induction fields with
  | nil => simp
  | cons x fields ih =>
    rw [List.intercalate_cons_cons, List.nil_append, List.flatMap_cons, ← ih]
    cases fields with
    | nil => simp
    | cons y fields => simp [List.intercalate_cons_cons]

theorem getLast_flatMap_sep {sep : Char} {fields : List (List Char)} (solid : ∀ x ∈ fields, x ≠ [])
    {c : Char} (last : c ∈ (fields.flatMap (sep :: ·)).getLast?) :
    ∃ x ∈ fields, c ∈ x.getLast? := by
  rcases List.eq_nil_or_concat fields with rfl | ⟨rest, x, rfl⟩
  · simp at last
  · refine ⟨x, by simp, ?_⟩
    have nonempty : x ≠ [] := solid x (by simp)
    rw [List.concat_eq_append, List.flatMap_append, List.flatMap_singleton,
      List.getLast?_append_of_ne_nil _ (List.cons_ne_nil _ _),
      List.getLast?_cons_of_ne_nil nonempty] at last
    exact last

/-! ### Searching -/

def find (pat : List Char) : List Char → Option Nat
  | [] => if pat.isPrefixOf [] then some 0 else none
  | c :: s => if pat.isPrefixOf (c :: s) then some 0 else (find pat s).map (· + 1)

theorem idxOf_append {c : Char} {a : List Char} (free : c ∉ a) (b : List Char) :
    (a ++ c :: b).idxOf? c = some a.length := by
  induction a with
  | nil => simp [List.idxOf?_cons]
  | cons x a ih =>
    simp only [List.mem_cons, not_or] at free
    have different : (x == c) = false := beq_eq_false_iff_ne.mpr (Ne.symm free.1)
    simp [List.idxOf?_cons, different, ih free.2]

theorem not_mem_take_idxOf {c : Char} {s : List Char} {n : Nat} (first : s.idxOf? c = some n) :
    c ∉ s.take n := by
  induction s generalizing n with
  | nil => simp
  | cons x s ih =>
    rw [List.idxOf?_cons] at first
    by_cases here : (x == c) = true
    · rw [if_pos here] at first
      obtain rfl := Option.some.inj first
      exact List.not_mem_nil
    · rw [if_neg here] at first
      obtain ⟨m, later, rfl⟩ := Option.map_eq_some_iff.mp first
      rw [List.take_succ_cons, List.mem_cons, not_or]
      exact ⟨fun same => here (beq_iff_eq.mpr same.symm), ih later⟩

/-- No occurrence of `pat` starts inside `s`, whatever follows `s`. -/
def Clear (pat : List Char) : List Char → Prop
  | [] => True
  | c :: s => ¬ c :: s <+: pat ∧ ¬ pat <+: c :: s ∧ Clear pat s

instance decidableClear (pat : List Char) : (s : List Char) → Decidable (Clear pat s)
  | [] => .isTrue trivial
  | c :: s =>
    have := decidableClear pat s
    inferInstanceAs (Decidable (¬ c :: s <+: pat ∧ ¬ pat <+: c :: s ∧ Clear pat s))

theorem find_prefix (pat s : List Char) : find pat (pat ++ s) = some 0 := by
  have found : pat.isPrefixOf (pat ++ s) = true :=
    List.isPrefixOf_iff_prefix.mpr (List.prefix_append _ _)
  cases h : pat ++ s with
  | nil => rw [h] at found; simp [find, found]
  | cons c t => rw [h] at found; simp [find, found]

theorem find_clear {pat s : List Char} (clear : Clear pat s) (rest : List Char) :
    find pat (s ++ rest) = (find pat rest).map (· + s.length) := by
  induction s with
  | nil => simp
  | cons c s ih =>
    obtain ⟨short, long, there⟩ := clear
    have missed : pat.isPrefixOf (c :: s ++ rest) = false := by
      rw [Bool.eq_false_iff, ne_eq, List.isPrefixOf_iff_prefix]
      intro occurs
      rcases List.prefix_or_prefix_of_prefix occurs (List.prefix_append (c :: s) rest) with
        inside | across
      · exact long inside
      · exact short across
    rw [List.cons_append] at missed ⊢
    rw [find, if_neg (by simp [missed]), ih there, Option.map_map]
    rfl

theorem clear_of_not_mem {c : Char} {pat s : List Char} (free : c ∉ s) : Clear (c :: pat) s := by
  induction s with
  | nil => trivial
  | cons x s ih =>
    simp only [List.mem_cons, not_or] at free
    exact ⟨fun occurs => free.1 (List.cons_prefix_cons.mp occurs).1.symm,
      fun occurs => free.1 (List.cons_prefix_cons.mp occurs).1, ih free.2⟩

/-! ### Fixed ends -/

def stripPrefix (start s : List Char) : Option (List Char) :=
  if start.isPrefixOf s then some (s.drop start.length) else none

def stripSuffix (tail s : List Char) : Option (List Char) :=
  if tail.isSuffixOf s then some (s.take (s.length - tail.length)) else none

theorem stripPrefix_append (start s : List Char) : stripPrefix start (start ++ s) = some s := by
  have starts : start.isPrefixOf (start ++ s) = true :=
    List.isPrefixOf_iff_prefix.mpr (List.prefix_append _ _)
  rw [stripPrefix, if_pos starts, List.drop_left]

theorem stripSuffix_append (s tail : List Char) : stripSuffix tail (s ++ tail) = some s := by
  have ends : tail.isSuffixOf (s ++ tail) = true :=
    List.isSuffixOf_iff_suffix.mpr (List.suffix_append _ _)
  rw [stripSuffix, if_pos ends, List.length_append, Nat.add_sub_cancel, List.take_left]

/-! ### Lines -/

/-- A carriage return before the line feed belongs to the line ending. -/
def stripReturn (s : List Char) : List Char := if s.getLast? = some '\r' then s.dropLast else s

/-- The lines of a text; a last line without a line feed counts when it is not empty. -/
def lines (s : List Char) : List (List Char) :=
  let parts := s.splitOn '\n'
  parts.dropLast.map stripReturn ++ (parts.getLast?.toList.filter fun l => l ≠ [])

theorem lines_cons {l : List Char} (free : '\n' ∉ l) (rest : List Char) :
    lines (l ++ '\n' :: rest) = stripReturn l :: lines rest := by
  rw [lines, List.splitOn_append_cons_self_of_not_mem free, lines]
  have nonempty := List.splitOn_ne_nil '\n' rest
  cases h : rest.splitOn '\n' with
  | nil => exact absurd h nonempty
  | cons x xs => simp

theorem stripReturn_eq_self {l : List Char} (free : '\r' ∉ l) : stripReturn l = l := by
  rw [stripReturn, if_neg]
  intro last
  exact free (List.mem_of_getLast? last)

/-! ### Decimal integers -/

def parseDigits (s : List Char) : Option Nat :=
  if s ≠ [] ∧ s.all Char.isDigit then some (Nat.ofDigitChars 10 s 0) else none

/-- A decimal integer with an optional sign, within `[low, high]`. -/
def parseInt (low high : Int) (s : List Char) : Option Int := do
  let n ← match s with
    | '-' :: digits => (parseDigits digits).map fun n : Nat => -(n : Int)
    | '+' :: digits => (parseDigits digits).map fun n : Nat => (n : Int)
    | digits => (parseDigits digits).map fun n : Nat => (n : Int)
  if low ≤ n ∧ n ≤ high then some n else none

theorem parseInt_bounds {low high n : Int} {s : List Char} (read : parseInt low high s = some n) :
    low ≤ n ∧ n ≤ high := by
  have kept : ∀ m : Option Int, (m.bind fun n => if low ≤ n ∧ n ≤ high then some n else none) = some n →
      low ≤ n ∧ n ≤ high := by
    intro m found
    obtain ⟨k, _, found⟩ := Option.bind_eq_some_iff.mp found
    split at found
    · rwa [← Option.some.inj found]
    · cases found
  unfold parseInt at read
  split at read <;> exact kept _ read

/-- A decimal number with an optional plus sign, at most `high`. -/
def parseUnsigned (high : Nat) (s : List Char) : Option Nat := do
  let n ← match s with
    | '+' :: digits => parseDigits digits
    | digits => parseDigits digits
  if n ≤ high then some n else none

theorem digits_repr (n : Nat) : ∀ c ∈ n.repr.toList, c.isDigit = true := by
  intro c member
  rw [Nat.toList_repr] at member
  exact Nat.isDigit_of_mem_toDigits (by decide) (by decide) member

theorem parseDigits_repr (n : Nat) : parseDigits n.repr.toList = some n := by
  have nonempty : n.repr.toList ≠ [] := by
    rw [Nat.toList_repr]
    exact Nat.toDigits_ne_nil
  rw [parseDigits, if_pos ⟨nonempty, List.all_eq_true.mpr (digits_repr n)⟩, Nat.toList_repr,
    Nat.ofDigitChars_ten_toDigits]

theorem parseUnsigned_repr {high n : Nat} (below : n ≤ high) :
    parseUnsigned high n.repr.toList = some n := by
  have digits := parseDigits_repr n
  have plain := digits_repr n
  cases h : n.repr.toList with
  | nil => rw [h] at digits; simp [parseDigits] at digits
  | cons c s =>
    rw [h] at digits plain
    have plus : c ≠ '+' := by
      rintro rfl
      exact absurd (plain '+' (by simp)) (by decide)
    simp [parseUnsigned, digits, below, plus]

theorem toString_int_chars {n : Int} {c : Char} (member : c ∈ (toString n).toList) :
    c.isDigit = true ∨ c = '-' := by
  rw [Int.toString_eq_repr, Int.repr_eq_if] at member
  split at member
  · exact Or.inl (digits_repr _ c member)
  · rw [String.toList_append, List.mem_append] at member
    rcases member with sign | digits
    · exact Or.inr (by simpa using sign)
    · exact Or.inl (digits_repr _ c digits)

theorem parseInt_toString {low high n : Int} (above : low ≤ n) (below : n ≤ high) :
    parseInt low high (toString n).toList = some n := by
  rw [Int.toString_eq_repr, Int.repr_eq_if]
  by_cases sign : 0 ≤ n
  · rw [if_pos sign]
    have digits := parseDigits_repr n.toNat
    have back : ((n.toNat : Nat) : Int) = n := Int.toNat_of_nonneg sign
    have plain := digits_repr n.toNat
    cases h : n.toNat.repr.toList with
    | nil => rw [h] at digits; simp [parseDigits] at digits
    | cons c s =>
      rw [h] at digits plain
      have first := plain c (by simp)
      have minus : c ≠ '-' := by rintro rfl; simp at first
      have plus : c ≠ '+' := by rintro rfl; simp at first
      simp [parseInt, digits, back, above, below, minus, plus]
  · rw [if_neg sign]
    have digits := parseDigits_repr (-n).toNat
    have back : -(((-n).toNat : Nat) : Int) = n := by omega
    have signed : ("-" ++ (-n).toNat.repr).toList = '-' :: (-n).toNat.repr.toList := by
      rw [String.toList_append]
      rfl
    rw [signed, parseInt]
    simp only [digits, Option.map_some, back, Option.bind_eq_bind, Option.bind_some]
    rw [if_pos ⟨above, below⟩]

theorem toString_int_inj {m n : Int} (same : toString m = toString n) : m = n := by
  have left : parseInt (min m n) (max m n) (toString m).toList = some m :=
    parseInt_toString (by omega) (by omega)
  have right : parseInt (min m n) (max m n) (toString n).toList = some n :=
    parseInt_toString (by omega) (by omega)
  rw [same, right] at left
  exact (Option.some.inj left).symm

/-! ### Unicode -/

/-- The Unicode tables behind case mapping, character classes and escapes. -/
class Unicode where
  toLowercase : String → String
  toUppercase : String → String
  isAlphanumeric : Char → Bool
  isPrintable : Char → Bool
  isGraphemeExtended : Char → Bool

/-- ASCII text is mapped letter by letter. -/
structure Unicode.Ascii [Unicode] : Prop where
  toLowercase_ascii : ∀ s : String, (∀ c ∈ s.toList, c.toNat < 128) →
    toLowercase s = String.ofList (s.toList.map Char.toLower)

/-- Lowercasing puts in no blank and no closing parenthesis. -/
structure Unicode.Lowercasing [Unicode] : Prop where
  keeps_solid : ∀ s : String, ∀ c ∈ (toLowercase s).toList,
    isWhitespace c = true ∨ c = ')' → c ∈ s.toList

/-- Uppercasing puts in no newline. -/
structure Unicode.Uppercasing [Unicode] : Prop where
  keeps_line : ∀ s : String, '\n' ∈ (toUppercase s).toList → '\n' ∈ s.toList

section Debug
variable [Unicode]

/-- A character inside a string as a debug format writes it. -/
def escapeDebug (c : Char) : List Char :=
  if c = '\x00' then ['\\', '0']
  else if c = '\t' then ['\\', 't']
  else if c = '\r' then ['\\', 'r']
  else if c = '\n' then ['\\', 'n']
  else if c = '"' then ['\\', '"']
  else if c = '\\' then ['\\', '\\']
  else if Unicode.isGraphemeExtended c || !Unicode.isPrintable c then
    ['\\', 'u', '\x7b'] ++ Nat.toDigits 16 c.toNat ++ ['\x7d']
  else [c]

def debugString (s : String) : String :=
  String.ofList ('"' :: s.toList.flatMap escapeDebug ++ ['"'])

def debugList (items : List String) : String :=
  "[" ++ ", ".intercalate (items.map debugString) ++ "]"

end Debug

end GrokingClawId.Text
