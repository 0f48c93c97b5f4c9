import Mathlib.Data.List.Induction
import Mathlib.Order.Defs.PartialOrder

/-!
# Sliding windows

Passes are let through one at a time, each only while fewer than a limit of the earlier ones still
count. A list of stamps that forgets what has lapsed is enough to decide this, and of passes that
all count for one another there are never more than the limit.
-/

namespace GrokingClawId.SlidingWindow

section Window
variable {T : Type} (counts : T → T → Bool)

/-- The stamps that still count at `now`. -/
def within (stamps : List T) (now : T) : List T := stamps.filter fun t => counts t now

@[simp] theorem within_append (stamps stamps' : List T) (now : T) :
    within counts (stamps ++ stamps') now = within counts stamps now ++ within counts stamps' now :=
  List.filter_append ..

/-- At each pass fewer than `limit` of those before it counted. -/
def Spaced (limit : Nat) (passes : List T) : Prop :=
  ∀ before now after, passes = before ++ now :: after → (within counts before now).length < limit

variable {counts} {limit : Nat} {passes : List T}

theorem spaced_nil : Spaced counts limit ([] : List T) := by
  intro before now after same
  simp at same

theorem Spaced.left {passes' : List T} (spaced : Spaced counts limit (passes ++ passes')) :
    Spaced counts limit passes := by
  intro before now after same
  refine spaced before now (after ++ passes') ?_
  rw [same, List.append_assoc, List.cons_append]

theorem Spaced.snoc (spaced : Spaced counts limit passes) {now : T}
    (room : (within counts passes now).length < limit) : Spaced counts limit (passes ++ [now]) := by
  intro before last after same
  rcases List.eq_nil_or_concat after with rfl | ⟨front, final, rfl⟩
  · obtain ⟨rfl, last⟩ := List.append_inj' same rfl
    rw [← (List.cons.inj last).1]
    exact room
  · rw [List.concat_eq_append, ← List.cons_append, ← List.append_assoc] at same
    exact spaced before last front (List.append_inj' same rfl).1

/-- Chosen passes of which each counts at every later one are at most as many as the limit. -/
theorem Spaced.length_le {chosen : T → Bool} (spaced : Spaced counts limit passes)
    (close : (passes.filter chosen).Pairwise fun t now => counts t now = true) :
    (passes.filter chosen).length ≤ limit := by
  induction passes using List.reverseRecOn with
  | nil => exact Nat.zero_le _
  | append_singleton passes now ih =>
    rw [List.filter_append] at close ⊢
    obtain ⟨earlier, _, last⟩ := List.pairwise_append.mp close
    cases taken : chosen now with
    | false =>
      rw [List.filter_cons_of_neg (by simp [taken]), List.filter_nil, List.append_nil]
      exact ih spaced.left earlier
    | true =>
      rw [List.filter_cons_of_pos taken, List.filter_nil] at last ⊢
      have counting : passes.filter chosen = (within counts passes now).filter chosen := by
        rw [within, List.filter_filter]
        refine List.filter_congr fun t member => ?_
        cases picked : chosen t with
        | false => rfl
        | true => simp [last t (List.mem_filter.mpr ⟨member, picked⟩) now (List.mem_singleton_self now)]
      have room := spaced passes now [] rfl
      have shorter := (within counts passes now).length_filter_le chosen
      rw [List.length_append, List.length_singleton, counting]
      omega

end Window

section Kept
variable {T : Type} [LE T] {counts : T → T → Bool} {kept passes : List T} {last now : T}

/-- What has lapsed does not count again. -/
def Lapses (counts : T → T → Bool) : Prop :=
  ∀ t now later, now ≤ later → counts t later = true → counts t now = true

/-- A later stamp counts at least as long. -/
def Outlasts (counts : T → T → Bool) : Prop :=
  ∀ t t' now, t ≤ t' → counts t now = true → counts t' now = true

/-- From `last` on the kept stamps tell which passes count. -/
def Tracks (counts : T → T → Bool) (kept passes : List T) (last : T) : Prop :=
  ∀ now, last ≤ now → within counts kept now = within counts passes now

theorem within_within (lapses : Lapses counts) (stamps : List T) {instant : T}
    (since : now ≤ instant) :
    within counts (within counts stamps now) instant = within counts stamps instant := by
  rw [within, within, List.filter_filter]
  refine List.filter_congr fun t _ => ?_
  cases still : counts t instant with
  | false => rfl
  | true => rw [lapses t now instant since still]; rfl

theorem Tracks.push (tracks : Tracks counts kept passes last) (t : T) :
    Tracks counts (kept ++ [t]) (passes ++ [t]) last := by
  intro now since
  rw [within_append, within_append, tracks now since]

/-- From `last` on the kept stamps tell of all passes that count, and may tell of others. -/
def Covers (counts : T → T → Bool) (kept passes : List T) (last : T) : Prop :=
  ∀ now, last ≤ now → (within counts passes now).Sublist (within counts kept now)

theorem covers_nil (kept : List T) (last : T) : Covers counts kept [] last :=
  fun _ _ => List.nil_sublist _

theorem Covers.push (covers : Covers counts kept passes last) (t : T) :
    Covers counts (kept ++ [t]) (passes ++ [t]) last := by
  intro now since
  rw [within_append, within_append]
  exact (covers now since).append (List.Sublist.refl _)

theorem Covers.more (covers : Covers counts kept passes last) (t : T) :
    Covers counts (kept ++ [t]) passes last := by
  intro now since
  rw [within_append]
  exact (covers now since).trans (List.sublist_append_left _ _)

/-- Of stamps in their order the ones that have lapsed stand first. -/
theorem dropWhile_lapsed (outlasts : Outlasts counts) (sorted : kept.Pairwise (· ≤ ·)) (now : T) :
    (kept.dropWhile fun t => !counts t now) = within counts kept now := by
  induction kept with
  | nil => rfl
  | cons t kept ih =>
    obtain ⟨first, rest⟩ := List.pairwise_cons.mp sorted
    cases still : counts t now with
    | false =>
      rw [List.dropWhile_cons_of_pos (by simp [still]), ih rest, within, within,
        List.filter_cons_of_neg (by simp [still])]
    | true =>
      have all : ∀ t' ∈ t :: kept, counts t' now = true := by
        intro t' member
        rcases List.mem_cons.mp member with rfl | later
        · exact still
        · exact outlasts t t' now (first t' later) still
      rw [List.dropWhile_cons_of_neg (by simp [still]), within, List.filter_eq_self.mpr all]

end Kept

section Later
variable {T : Type} [Preorder T] {counts : T → T → Bool} {kept passes : List T} {last now : T}

theorem Tracks.evict (lapses : Lapses counts) (tracks : Tracks counts kept passes last)
    (passed : last ≤ now) : Tracks counts (within counts kept now) passes now := by
  intro instant since
  rw [within_within lapses kept since, tracks instant (le_trans passed since)]

theorem Covers.later (covers : Covers counts kept passes last) (passed : last ≤ now) :
    Covers counts kept passes now :=
  fun instant since => covers instant (le_trans passed since)

theorem Covers.evict (lapses : Lapses counts) (covers : Covers counts kept passes last)
    (passed : last ≤ now) : Covers counts (within counts kept now) passes now := by
  intro instant since
  rw [within_within lapses kept since]
  exact covers instant (le_trans passed since)

end Later
end GrokingClawId.SlidingWindow
