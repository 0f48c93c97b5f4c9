import GrokingClawId.Lib.SlidingWindow
import GrokingClawId.Proxy.Scope

/-!
# The rate limit over a run

`check_url` and `check_connect` of one scope share its queue of instants. A call that the allowlist
denies has passed the rate check as well as one that is allowed.
-/

namespace GrokingClawId.Proxy
open GrokingClawId.Core SlidingWindow

def window : Nat := 60 * nanosPerSecond

/-- Less than the window ago. -/
def recent (t now : Nat) : Bool := decide (now - t < window)

theorem recent_lapses : Lapses recent := by
  intro t now later since still
  have := of_decide_eq_true still
  exact decide_eq_true (by omega)

theorem recent_outlasts : Outlasts recent := by
  intro t t' now since still
  have := of_decide_eq_true still
  exact decide_eq_true (by omega)

namespace ScopeConfig

/-- The queue after the eviction. -/
def kept (scope : ScopeConfig) (now : Nat) : List Nat :=
  scope.requestTimestamps.dropWhile fun t => decide (window ≤ now - t)

/-- What `front().unwrap()` is called on, when it is called. -/
def unwrapped (scope : ScopeConfig) (now : Nat) : Option (Option Nat) :=
  if scope.maxRequestsPerMinute = 0 then none
  else if scope.maxRequestsPerMinute ≤ (scope.kept now).length % UInt32.size then some (scope.kept now).head?
  else none

theorem checkRateLimit_eq (scope : ScopeConfig) (now : Nat) : scope.checkRateLimit now =
    if scope.maxRequestsPerMinute = 0 then (none, scope)
    else if scope.maxRequestsPerMinute ≤ (scope.kept now).length % UInt32.size then
      (some (max ((window - (now - (scope.kept now).headD now)) / nanosPerSecond) 1),
        { scope with requestTimestamps := scope.kept now })
    else (none, { scope with requestTimestamps := scope.kept now ++ [now] }) := rfl

theorem checkRateLimit_unwrapped (scope : ScopeConfig) (now : Nat) :
    (scope.checkRateLimit now).1 = (scope.unwrapped now).map fun front =>
      max ((window - (now - front.getD now)) / nanosPerSecond) 1 := by
  rw [checkRateLimit_eq, unwrapped, List.headD_eq_head?_getD]
  split
  · rfl
  · split <;> rfl

theorem kept_within {scope : ScopeConfig} (sorted : scope.requestTimestamps.Pairwise (· ≤ ·))
    (now : Nat) : scope.kept now = within recent scope.requestTimestamps now := by
  rw [← dropWhile_lapsed recent_outlasts sorted, kept]
  congr 1
  funext t
  rw [recent, ← decide_not, decide_eq_decide, Nat.not_lt]

/-- The check of a scope with a limit, whose queue is not longer than the limit. -/
theorem checkRateLimit_cases {scope : ScopeConfig} {limit : UInt32} {now : Nat}
    (positive : 0 < limit) (max : scope.maxRequestsPerMinute = limit.toNat)
    (short : (scope.kept now).length ≤ limit.toNat) :
    ((scope.kept now).length = limit.toNat ∧ (scope.checkRateLimit now).1.isSome = true ∧
      (scope.checkRateLimit now).2 = { scope with requestTimestamps := scope.kept now }) ∨
    ((scope.kept now).length < limit.toNat ∧ (scope.checkRateLimit now).1 = none ∧
      (scope.checkRateLimit now).2 =
        { scope with requestTimestamps := scope.kept now ++ [now] }) := by
  have bounded := limit.toNat_lt
  have whole : (scope.kept now).length % UInt32.size = (scope.kept now).length :=
    Nat.mod_eq_of_lt (Nat.lt_of_le_of_lt short bounded)
  have limited : scope.maxRequestsPerMinute ≠ 0 := by
    rw [max]
    exact Nat.ne_of_gt positive
  rw [checkRateLimit_eq, if_neg limited, whole, max]
  rcases Nat.lt_or_ge (scope.kept now).length limit.toNat with room | full
  · rw [if_neg (Nat.not_le.mpr room)]
    exact .inr ⟨room, rfl, rfl⟩
  · rw [if_pos full]
    exact .inl ⟨Nat.le_antisymm short full, rfl, rfl⟩

end ScopeConfig

/-! ### Calls -/

inductive Check where
  | url (url : String)
  | connect (hostPort : String)

structure Call where
  check : Check
  now : Nat

def ScopeDecision.limited : ScopeDecision → Bool
  | .denyRateLimit _ _ => true
  | _ => false

/-- A scope with the instants of the calls that have passed its rate check. -/
structure Passing where
  scope : ScopeConfig
  passes : List Nat

section Calls
variable [UrlCrate]

def Call.decide (call : Call) (scope : ScopeConfig) : ScopeDecision × ScopeConfig :=
  match call.check with
  | .url url => scope.checkUrl url call.now
  | .connect hostPort => scope.checkConnect hostPort call.now

def Passing.step (s : Passing) (call : Call) : Passing where
  scope := (call.decide s.scope).2
  passes := if (call.decide s.scope).1.limited then s.passes else s.passes ++ [call.now]

def Passing.run (scope : ScopeConfig) (calls : List Call) : Passing := calls.foldl step ⟨scope, []⟩

theorem Passing.run_snoc (scope : ScopeConfig) (calls : List Call) (call : Call) :
    run scope (calls ++ [call]) = (run scope calls).step call := by
  rw [run, List.foldl_append]
  rfl

omit [UrlCrate] in
theorem ScopeConfig.limited_rate {scope : ScopeConfig} {now : Nat}
    {checkDomain : ScopeConfig → ScopeDecision}
    (other : ∀ scope, (checkDomain scope).limited = false) :
    (scope.limited now checkDomain).1.limited = (scope.checkRateLimit now).1.isSome ∧
      (scope.limited now checkDomain).2 = (scope.checkRateLimit now).2 := by
  unfold ScopeConfig.limited
  split
  · rename_i waitSecs after checked
    rw [checked]
    exact ⟨rfl, rfl⟩
  · rename_i after checked
    rw [checked]
    exact ⟨other after, rfl⟩

/-- Either check passes and stores what the rate check does. -/
theorem Call.decide_rate (call : Call) (scope : ScopeConfig) :
    (call.decide scope).1.limited = (scope.checkRateLimit call.now).1.isSome ∧
      (call.decide scope).2 = (scope.checkRateLimit call.now).2 := by
  unfold Call.decide
  cases call.check with
  | url url =>
    refine ScopeConfig.limited_rate fun scope => ?_
    dsimp only
    repeat' split
    all_goals rfl
  | connect hostPort =>
    refine ScopeConfig.limited_rate fun scope => ?_
    repeat' split
    all_goals rfl

/-! ### Every run -/

/-- The queue tells which of the passes up to `last` still count. -/
structure Passing.Sound (limit : UInt32) (last : Nat) (s : Passing) : Prop where
  limited : s.scope.maxRequestsPerMinute = limit.toNat
  spaced : Spaced recent limit.toNat s.passes
  tracks : Tracks recent s.scope.requestTimestamps s.passes last
  sorted : s.scope.requestTimestamps.Pairwise (· ≤ ·)
  queued : ∀ t ∈ s.scope.requestTimestamps, t ≤ last
  passed : ∀ t ∈ s.passes, t ≤ last

omit [UrlCrate] in
theorem Passing.Sound.within_le {limit : UInt32} {last now : Nat} {s : Passing}
    (sound : s.Sound limit last) (since : last ≤ now) :
    (within recent s.passes now).length ≤ limit.toNat := by
  refine sound.spaced.length_le ?_
  refine List.pairwise_of_forall_mem_list fun t member t' member' => ?_
  have early := sound.passed t' (List.mem_filter.mp member').1
  have still := of_decide_eq_true (List.mem_filter.mp member).2
  exact decide_eq_true (by omega)

omit [UrlCrate] in
theorem Passing.Sound.kept {limit : UInt32} {last now : Nat} {s : Passing}
    (sound : s.Sound limit last) (since : last ≤ now) :
    s.scope.kept now = within recent s.passes now := by
  rw [ScopeConfig.kept_within sound.sorted, sound.tracks now since]

theorem Passing.step_sound {limit : UInt32} {last : Nat} {s : Passing} {call : Call}
    (positive : 0 < limit) (sound : s.Sound limit last) (since : last ≤ call.now) :
    (s.step call).Sound limit call.now ∧
      ((call.decide s.scope).1.limited = true ↔
        (within recent s.passes call.now).length = limit.toNat) := by
  obtain ⟨limited, scope⟩ := call.decide_rate s.scope
  have kept := sound.kept since
  have short := sound.within_le since
  have evicted : Tracks recent (s.scope.kept call.now) s.passes call.now := by
    rw [ScopeConfig.kept_within sound.sorted]
    exact sound.tracks.evict recent_lapses since
  have sublist : (s.scope.kept call.now).Sublist s.scope.requestTimestamps :=
    List.dropWhile_sublist _
  have early : ∀ t ∈ s.scope.kept call.now, t ≤ call.now := fun t member =>
    (sound.queued t (sublist.subset member)).trans since
  have passed : ∀ t ∈ s.passes, t ≤ call.now := fun t member => (sound.passed t member).trans since
  rw [← kept] at short ⊢
  unfold Passing.step
  rw [limited, scope]
  rcases ScopeConfig.checkRateLimit_cases positive sound.limited short with
    ⟨full, waits, after⟩ | ⟨room, passes, after⟩
  · rw [waits, after]
    refine ⟨⟨sound.limited, sound.spaced, evicted, sound.sorted.sublist sublist, early, passed⟩, ?_⟩
    exact ⟨fun _ => full, fun _ => rfl⟩
  · rw [passes, after]
    refine ⟨⟨sound.limited, sound.spaced.snoc (kept ▸ room), evicted.push call.now, ?_, ?_, ?_⟩, ?_⟩
    · refine List.pairwise_append.mpr ⟨sound.sorted.sublist sublist, List.pairwise_singleton _ _, ?_⟩
      intro t member t' last
      rw [List.mem_singleton.mp last]
      exact early t member
    · intro t member
      rcases List.mem_append.mp member with old | new
      · exact early t old
      · exact (List.mem_singleton.mp new).le
    · intro t member
      rcases List.mem_append.mp member with old | new
      · exact passed t old
      · exact (List.mem_singleton.mp new).le
    · exact ⟨fun contra => (by cases contra), fun full => absurd full (Nat.ne_of_lt room)⟩

theorem Passing.run_sound {scope : ScopeConfig} {limit : UInt32} (positive : 0 < limit)
    (limited : scope.maxRequestsPerMinute = limit.toNat) (fresh : scope.requestTimestamps = [])
    (calls : List Call) (ordered : calls.Pairwise fun call later => call.now ≤ later.now) :
    ∃ last, (run scope calls).Sound limit last ∧ ∀ next : Call,
      (∀ call ∈ calls, call.now ≤ next.now) → last ≤ next.now := by
  induction calls using List.reverseRecOn with
  | nil =>
    refine ⟨0, ⟨limited, spaced_nil, ?_, ?_, ?_, ?_⟩, fun _ _ => Nat.zero_le _⟩
    · intro now _
      exact congrArg (within recent · now) fresh
    · exact fresh ▸ List.Pairwise.nil
    · exact fun t member => absurd (fresh ▸ member) List.not_mem_nil
    · exact fun t member => absurd member List.not_mem_nil
  | append_singleton calls call ih =>
    obtain ⟨before, _, after⟩ := List.pairwise_append.mp ordered
    obtain ⟨last, sound, first⟩ := ih before
    have since := first call fun earlier member => after earlier member call (List.mem_singleton_self call)
    rw [run_snoc]
    refine ⟨call.now, (step_sound positive sound since).1, fun next all => ?_⟩
    exact all call (List.mem_append_right _ (List.mem_singleton_self call))

omit [UrlCrate] in
/-- Passes of which any two are less than the window apart. -/
theorem Passing.Sound.interval {limit : UInt32} {last : Nat} {s : Passing}
    (sound : s.Sound limit last) {chosen : Nat → Bool}
    (close : ∀ t t', chosen t = true → chosen t' = true → t' - t < window) :
    (s.passes.filter chosen).length ≤ limit.toNat := by
  refine sound.spaced.length_le (List.pairwise_of_forall_mem_list fun t member t' member' => ?_)
  exact decide_eq_true (close t t' (List.mem_filter.mp member).2 (List.mem_filter.mp member').2)

/-- In any interval as long as the window at most as many calls pass as the limit allows; a call is
limited exactly when that many have passed in the window before it, and the queue is not empty
then. -/
theorem rateLimit_window {scope : ScopeConfig} {limit : UInt32} (positive : 0 < limit)
    (limited : scope.maxRequestsPerMinute = limit.toNat) (fresh : scope.requestTimestamps = [])
    (calls : List Call) (ordered : calls.Pairwise fun call later => call.now ≤ later.now) :
    (∀ start, ((Passing.run scope calls).passes.filter fun t =>
        decide (start ≤ t ∧ t < start + window)).length ≤ limit.toNat ∧
      ((Passing.run scope calls).passes.filter fun t =>
        decide (start < t ∧ t ≤ start + window)).length ≤ limit.toNat) ∧
    ∀ before call after, calls = before ++ call :: after →
      ((call.decide (Passing.run scope before).scope).1.limited = true ↔
        ((Passing.run scope before).passes.filter fun t =>
          decide (call.now - t < window)).length = limit.toNat) ∧
      (Passing.run scope before).scope.unwrapped call.now ≠ some none := by
  constructor
  · intro start
    obtain ⟨last, sound, _⟩ := Passing.run_sound positive limited fresh calls ordered
    constructor
    · refine sound.interval fun t t' taken taken' => ?_
      have := of_decide_eq_true taken
      have := of_decide_eq_true taken'
      omega
    · refine sound.interval fun t t' taken taken' => ?_
      have := of_decide_eq_true taken
      have := of_decide_eq_true taken'
      omega
  · rintro before call after rfl
    obtain ⟨first, _, later⟩ := List.pairwise_append.mp ordered
    obtain ⟨last, sound, next⟩ := Passing.run_sound positive limited fresh before first
    have since := next call fun earlier member => later earlier member call List.mem_cons_self
    refine ⟨(Passing.step_sound positive sound since).2, fun empty => ?_⟩
    have reached := sound.limited
    have some_limit : 0 < limit.toNat := positive
    unfold ScopeConfig.unwrapped at empty
    split at empty
    · cases empty
    · split at empty
      · rename_i full
        rw [List.head?_eq_none_iff.mp (Option.some.inj empty)] at full
        simp only [List.length_nil, Nat.zero_mod] at full
        omega
      · cases empty

end Calls

/-- Two calls at once, a third within the window and a fourth after it. -/
theorem StandIn.rateLimit_window_two :
    let scope : ScopeConfig := { allowedDomains := [], maxRequestsPerMinute := 2 }
    let calls : List Call := [⟨.connect "a:443", 0⟩, ⟨.connect "b:443", 0⟩, ⟨.connect "c:443", 5⟩,
      ⟨.connect "d:443", window⟩]
    letI := Core.StandIn.urlCrate
    (Passing.run scope calls).passes = [0, 0, window] ∧
    ∀ start, ((Passing.run scope calls).passes.filter fun t =>
      decide (start ≤ t ∧ t < start + window)).length ≤ 2 := by
  intro scope calls
  let := Core.StandIn.urlCrate
  have ordered : calls.Pairwise fun call later => call.now ≤ later.now := by decide
  have limited : scope.maxRequestsPerMinute = (2 : UInt32).toNat := rfl
  exact ⟨by decide, fun start => ((rateLimit_window (by decide) limited rfl calls ordered).1 start).1⟩

end GrokingClawId.Proxy
