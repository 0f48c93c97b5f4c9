import Mathlib.Data.List.Induction
import Mathlib.Data.List.Nodup
import Mathlib.Data.List.ReduceOption

/-!
# Tables in which the first write of a key stays

A table is a list of rows with a key, and a row is inserted only when its key is new. An attempt
that fails before it has a row writes nothing. After any sequence of attempts the table holds, of
each key, the first row that was attempted.
-/

namespace GrokingClawId.WriteOnce

section
variable {K R : Type} [DecidableEq K] (key : R → K)

def Has (rows : List R) (k : K) : Prop := ∃ row ∈ rows, key row = k

def lookup (rows : List R) (k : K) : Option R := rows.find? fun row => decide (key row = k)

def insert (rows : List R) (row : R) : List R :=
  match lookup key rows (key row) with
  | some _ => rows
  | none => rows ++ [row]

def attempt (rows : List R) : Option R → List R
  | some row => insert key rows row
  | none => rows

def run (attempts : List (Option R)) : List R := attempts.foldl (attempt key) []

theorem lookup_isSome {rows : List R} {k : K} : (lookup key rows k).isSome ↔ Has key rows k := by
  simp [lookup, Has]

theorem lookup_none {rows : List R} {k : K} (new : lookup key rows k = none) {row : R}
    (member : row ∈ rows) : key row ≠ k := by
  have all := List.find?_eq_none.mp new row member
  simpa using all

theorem lookup_append {rows : List R} {k : K} (row : R) :
    lookup key (rows ++ [row]) k =
      (lookup key rows k).or (if key row = k then some row else none) := by
  by_cases same : key row = k <;> simp [lookup, List.find?_append, same]

theorem lookup_insert {rows : List R} {k : K} (row : R) :
    lookup key (insert key rows row) k =
      (lookup key rows k).or (if key row = k then some row else none) := by
  unfold insert
  split
  · rename_i found present
    by_cases same : key row = k
    · rw [← same, present, Option.some_or]
    · rw [if_neg same, Option.or_none]
  · exact lookup_append key row

theorem run_snoc (attempts : List (Option R)) (last : Option R) :
    run key (attempts ++ [last]) = attempt key (run key attempts) last := by
  unfold run
  rw [List.foldl_append]
  rfl

theorem lookup_run (attempts : List (Option R)) (k : K) :
    lookup key (run key attempts) k = lookup key attempts.reduceOption k := by
  induction attempts using List.reverseRecOn with
  | nil => rfl
  | append_singleton attempts last ih =>
    rw [run_snoc, List.reduceOption_append]
    cases last with
    | none =>
      rw [show List.reduceOption [(none : Option R)] = [] from rfl, List.append_nil]
      exact ih
    | some row =>
      rw [show List.reduceOption [some row] = [row] from rfl, lookup_append, ← ih]
      exact lookup_insert key row

theorem lookup_run_append (attempts more : List (Option R)) (k : K) :
    lookup key (run key (attempts ++ more)) k =
      (lookup key (run key attempts) k).or (lookup key more.reduceOption k) := by
  rw [lookup_run, lookup_run, List.reduceOption_append]
  exact List.find?_append

theorem mem_insert {rows : List R} {row old : R} (member : old ∈ insert key rows row) :
    old ∈ rows ∨ old = row := by
  unfold insert at member
  split at member
  · exact .inl member
  · simpa using member

theorem mem_run {attempts : List (Option R)} {row : R} (member : row ∈ run key attempts) :
    some row ∈ attempts := by
  induction attempts using List.reverseRecOn with
  | nil => cases member
  | append_singleton attempts last ih =>
    rw [run_snoc] at member
    rw [List.mem_append]
    cases last with
    | none => exact .inl (ih member)
    | some new =>
      rcases mem_insert key member with before | rfl
      · exact .inl (ih before)
      · exact .inr List.mem_cons_self

theorem insert_keys {rows : List R} (distinct : (rows.map key).Nodup) (row : R) :
    ((insert key rows row).map key).Nodup := by
  unfold insert
  split
  · exact distinct
  · rename_i new
    rw [List.map_append, List.nodup_append]
    refine ⟨distinct, List.nodup_singleton _, ?_⟩
    intro k before k' here same
    obtain ⟨old, member, rfl⟩ := List.mem_map.mp before
    obtain rfl : k' = key row := List.mem_singleton.mp here
    exact lookup_none key new member same

theorem run_keys (attempts : List (Option R)) : ((run key attempts).map key).Nodup := by
  induction attempts using List.reverseRecOn with
  | nil => exact List.nodup_nil
  | append_singleton attempts last ih =>
    rw [run_snoc]
    cases last with
    | none => exact ih
    | some row => exact insert_keys key ih row

end

end GrokingClawId.WriteOnce
