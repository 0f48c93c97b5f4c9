import Mathlib.Data.List.Basic

/-!
# Lines in a stream

A stream carries messages that each end with a separator. A reader takes one line at a time from what
has arrived and waits for the rest of a line that is not there yet; what it reads does not depend on
the pieces in which the stream arrives.
-/

namespace GrokingClawId.LineFraming
variable {α : Type} [DecidableEq α] {sep : α}

/-- The lines of a whole stream with their separators; the last one may have none. -/
def lines (sep : α) : List α → List (List α)
  | [] => []
  | b :: s =>
    if b = sep then [b] :: lines sep s
    else
      match lines sep s with
      | [] => [[b]]
      | line :: rest => (b :: line) :: rest

def cut (sep : α) : List α → Option (List α × List α)
  | [] => none
  | b :: s => if b = sep then some ([b], s) else (cut sep s).map fun (line, rest) => (b :: line, rest)

/-- One line of what has arrived, and what is left. The end of the stream ends a line, and after the
last line there is an empty one. -/
def readLine (sep : α) (closed : Bool) (unread : List α) : Option (List α × List α) :=
  match cut sep unread with
  | some taken => some taken
  | none => if closed then some (unread, []) else none

def frame (sep : α) (message : List α) : List α := message ++ [sep]

/-! ### Lines -/

/-- A message and its separator. -/
def Complete (sep : α) (line : List α) : Prop := ∃ message, sep ∉ message ∧ line = frame sep message

theorem cut_frame {message : List α} (free : sep ∉ message) (rest : List α) :
    cut sep (frame sep message ++ rest) = some (frame sep message, rest) := by
  induction message with
  | nil => exact if_pos rfl
  | cons b message ih =>
    rw [List.mem_cons, not_or] at free
    have tail := ih free.2
    simp only [frame, List.cons_append, cut, if_neg (Ne.symm free.1)]
    rw [frame] at tail
    rw [tail, Option.map_some]

theorem cut_some {s line rest : List α} (taken : cut sep s = some (line, rest)) :
    Complete sep line ∧ s = line ++ rest := by
  induction s generalizing line with
  | nil => cases taken
  | cons b s ih =>
    rw [cut] at taken
    by_cases here : b = sep
    · rw [if_pos here] at taken
      obtain ⟨rfl, rfl⟩ := Prod.mk.inj (Option.some.inj taken)
      exact ⟨⟨[], List.not_mem_nil, by rw [here]; rfl⟩, rfl⟩
    · rw [if_neg here] at taken
      obtain ⟨⟨line', rest'⟩, inner, same⟩ := Option.map_eq_some_iff.mp taken
      obtain ⟨rfl, rfl⟩ := Prod.mk.inj same
      obtain ⟨⟨message, free, rfl⟩, whole⟩ := ih inner
      refine ⟨⟨b :: message, ?_, rfl⟩, by rw [whole]; rfl⟩
      rw [List.mem_cons, not_or]
      exact ⟨Ne.symm here, free⟩

theorem cut_none {s : List α} : cut sep s = none ↔ sep ∉ s := by
  constructor
  · intro none_left member
    obtain ⟨front, back, rfl, free⟩ := List.eq_append_cons_of_mem member
    have found := cut_frame free back
    rw [frame, List.append_assoc, List.singleton_append, none_left] at found
    cases found
  · intro free
    cases taken : cut sep s with
    | none => rfl
    | some pair =>
      obtain ⟨⟨message, _, ended⟩, whole⟩ := cut_some taken
      refine absurd ?_ free
      rw [whole, ended]
      simp [frame]

theorem lines_flatten (sep : α) (s : List α) : (lines sep s).flatten = s := by
  induction s with
  | nil => rfl
  | cons b s ih =>
    rw [lines]
    by_cases here : b = sep
    · rw [if_pos here, List.flatten_cons, ih]
      rfl
    · rw [if_neg here]
      cases cutHere : lines sep s with
      | nil =>
        rw [cutHere] at ih
        rw [← ih]
        rfl
      | cons line rest =>
        rw [cutHere] at ih
        rw [← ih]
        rfl

theorem lines_eq_nil {s : List α} (none_left : lines sep s = []) : s = [] := by
  have whole := lines_flatten sep s
  rw [none_left] at whole
  exact whole.symm

theorem lines_cons {b : α} (other : b ≠ sep) {s line : List α} {rest : List (List α)}
    (tail : lines sep s = line :: rest) : lines sep (b :: s) = (b :: line) :: rest := by
  rw [lines, if_neg other, tail]

/-- A complete line comes first, then the lines of what follows. -/
theorem lines_complete {line : List α} (complete : Complete sep line) (rest : List α) :
    lines sep (line ++ rest) = line :: lines sep rest := by
  obtain ⟨message, free, rfl⟩ := complete
  induction message with
  | nil => exact if_pos rfl
  | cons b message ih =>
    rw [List.mem_cons, not_or] at free
    exact lines_cons (Ne.symm free.1) (ih free.2)

theorem lines_unfinished {s : List α} (free : sep ∉ s) (nonempty : s ≠ []) : lines sep s = [s] := by
  induction s with
  | nil => exact absurd rfl nonempty
  | cons b s ih =>
    rw [List.mem_cons, not_or] at free
    cases s with
    | nil => exact if_neg (Ne.symm free.1)
    | cons c s => exact lines_cons (Ne.symm free.1) (ih free.2 (List.cons_ne_nil _ _))

theorem lines_append {taken : List (List α)} (complete : ∀ line ∈ taken, Complete sep line)
    (rest : List α) : lines sep (taken.flatten ++ rest) = taken ++ lines sep rest := by
  induction taken with
  | nil => rfl
  | cons line taken ih =>
    rw [List.flatten_cons, List.append_assoc, lines_complete (complete line List.mem_cons_self),
      ih fun line member => complete line (List.mem_cons_of_mem _ member)]
    rfl

/-- Messages without a separator are read back from the stream of their frames. -/
theorem lines_frames {messages : List (List α)} (free : ∀ message ∈ messages, sep ∉ message) :
    lines sep (messages.flatMap (frame sep)) = messages.map (frame sep) := by
  have complete : ∀ line ∈ messages.map (frame sep), Complete sep line := by
    intro line member
    obtain ⟨message, inside, rfl⟩ := List.mem_map.mp member
    exact ⟨message, free message inside, rfl⟩
  have whole := lines_append complete []
  rw [List.append_nil, ← List.flatMap_def] at whole
  rw [whole]
  exact List.append_nil _

omit [DecidableEq α] in
theorem frame_inj {a b : List α} (same : frame sep a = frame sep b) : a = b :=
  List.append_cancel_right same

/-! ### Reading -/

theorem readLine_open {closed : Bool} {unread line rest : List α} (still : closed = false)
    (taken : readLine sep closed unread = some (line, rest)) :
    Complete sep line ∧ unread = line ++ rest := by
  subst still
  unfold readLine at taken
  cases found : cut sep unread with
  | none =>
    rw [found] at taken
    cases taken
  | some pair =>
    rw [found] at taken
    obtain rfl := Option.some.inj taken
    exact cut_some found

/-- What is read first is the first line, and there is none only at the end of the stream. -/
theorem readLine_lines {closed : Bool} {unread line rest : List α}
    (taken : readLine sep closed unread = some (line, rest)) :
    unread = line ++ rest ∧
      (lines sep unread = line :: lines sep rest ∨ closed = true ∧ unread = [] ∧ line = []) := by
  unfold readLine at taken
  cases found : cut sep unread with
  | some pair =>
    rw [found] at taken
    obtain rfl := Option.some.inj taken
    obtain ⟨complete, whole⟩ := cut_some found
    exact ⟨whole, .inl (by rw [whole, lines_complete complete])⟩
  | none =>
    rw [found] at taken
    cases closed with
    | false => cases taken
    | true =>
      obtain ⟨rfl, rfl⟩ := Prod.mk.inj (Option.some.inj taken)
      refine ⟨(List.append_nil _).symm, ?_⟩
      by_cases empty : unread = []
      · exact .inr ⟨rfl, empty, empty⟩
      · exact .inl (by rw [lines_unfinished (cut_none.mp found) empty]; rfl)

theorem readLine_none {closed : Bool} {unread : List α} :
    readLine sep closed unread = none ↔ closed = false ∧ sep ∉ unread := by
  unfold readLine
  cases found : cut sep unread with
  | some pair =>
    have present : ¬ sep ∉ unread := by
      intro free
      rw [cut_none.mpr free] at found
      cases found
    simp only [present, and_false, reduceCtorEq]
  | none =>
    have free := cut_none.mp found
    cases closed <;> simp [free]

end GrokingClawId.LineFraming
