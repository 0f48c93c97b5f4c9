import GrokingClawId.Lib.SlidingWindow
import GrokingClawId.Cli.GuardSession

/-!
# Lockout

`handle_authenticate` refuses to look at a card for 60 seconds after the tenth failure that it has
noted. It notes an Ed25519 signature that does not verify and a card that has expired; the other
ways in which it turns a card down are not noted.
-/

namespace GrokingClawId.Cli.Guard
open GrokingClawId.Core Text SlidingWindow

structure Attempt where
  request : JsonRpcRequest
  moment : Moment

def lockout : Nat := 60 * 1000000000

def recent (t now : Nat) : Bool := decide (now - t < lockout)

/-- The state with the instants of the attempts whose card was looked at and turned down. -/
structure Rejecting where
  state : GuardState
  rejections : List Nat

section Lockout
variable [Ed25519] [MlDsa65] [Chrono] [Unicode] [FromStr AgentCard]

def Attempt.rejected (a : Attempt) (state : GuardState) : Bool :=
  match state.rateLimit a.moment.instant, presentedCard a.request with
  | .ok state, .ok card =>
    match checkCard state card a.moment with
    | .error _ => true
    | .ok _ => false
  | _, _ => false

def Rejecting.step (s : Rejecting) (a : Attempt) : Rejecting where
  state := (handleAuthenticate s.state a.request a.moment).1
  rejections := if a.rejected s.state then s.rejections ++ [a.moment.instant] else s.rejections

def Rejecting.run (state : GuardState) (attempts : List Attempt) : Rejecting :=
  attempts.foldl step ⟨state, []⟩

theorem Rejecting.run_snoc (state : GuardState) (attempts : List Attempt) (a : Attempt) :
    run state (attempts ++ [a]) = (run state attempts).step a := by
  rw [run, List.foldl_append]
  rfl

/-- No failure is noted: the guard has just started, or has just accepted a card. -/
structure GuardState.Fresh (state : GuardState) : Prop where
  authFailures : state.authFailures = 0
  lastFailureTime : state.lastFailureTime = none

omit [Ed25519] [MlDsa65] [Chrono] [Unicode] [FromStr AgentCard] in
theorem GuardState.new_fresh (scopes : List String) (requirePq : Bool) :
    (new scopes requirePq).Fresh :=
  ⟨rfl, rfl⟩

/-- A card that the attempt presents and the guard looks at is turned down for a reason that is
noted. -/
def Attempt.Noted (a : Attempt) (state : GuardState) : Prop :=
  ∀ card, presentedCard a.request = .ok card →
    (∃ wait, state.rateLimit a.moment.instant = .error wait) ∨
    verify card.publicKey (guardPayload card).toUTF8 card.signature = .ok false ∨
    (checkEd25519 card = .ok () ∧ checkMldsa state.requirePq card = .ok () ∧
      card.expiresAt ≤ a.moment.now)

/-! ### The count -/

/-- The rejections since the count began anew are counted, those before it are over. -/
structure Rejecting.Sound (last : Nat) (s : Rejecting) : Prop where
  spaced : Spaced recent 10 s.rejections
  counted : ∃ old new, s.rejections = old ++ new ∧ new.length = s.state.authFailures ∧
    (∀ t ∈ old, t + lockout ≤ last) ∧ ∀ t ∈ new, ∃ failed, s.state.lastFailureTime = some failed ∧ t ≤ failed
  few : s.state.authFailures ≤ 10
  failed : ∀ failed, s.state.lastFailureTime = some failed → failed ≤ last

omit [Ed25519] [MlDsa65] [Chrono] [Unicode] [FromStr AgentCard] in
theorem Rejecting.Sound.later {s : Rejecting} {last now : Nat} (sound : s.Sound last)
    (since : last ≤ now) :
    s.Sound now := by
  obtain ⟨spaced, ⟨old, new, split, length, past, noted⟩, few, failed⟩ := sound
  exact ⟨spaced, ⟨old, new, split, length, fun t member => (past t member).trans since, noted⟩, few,
    fun time at_ => (failed time at_).trans since⟩

omit [Ed25519] [MlDsa65] [Chrono] [Unicode] [FromStr AgentCard] in
theorem Rejecting.Sound.passed {s : Rejecting} {last now : Nat} {state : GuardState}
    (sound : s.Sound last) (since : last ≤ now) (passed : s.state.rateLimit now = .ok state) :
    Rejecting.Sound now ⟨state, s.rejections⟩ ∧ state.requirePq = s.state.requirePq ∧
      state.authFailures < 10 ∧ (within recent s.rejections now).length < 10 := by
  have sound := sound.later since
  obtain ⟨spaced, ⟨old, new, split, length, past, noted⟩, few, failed⟩ := sound
  have gone : ∀ t, t + lockout ≤ now → recent t now = false :=
    fun t lapsed => decide_eq_false (by omega)
  have left : within recent old now = [] := List.filter_eq_nil_iff.mpr fun t member => by
    simp [gone t (past t member)]
  have counting : (within recent s.rejections now).length ≤ s.state.authFailures := by
    rw [split, within_append, left, List.nil_append, ← length]
    exact List.length_filter_le _ _
  unfold GuardState.rateLimit at passed
  split at passed
  · rename_i full
    split at passed
    · rename_i time at_
      dsimp only at passed
      split at passed
      · cases passed
      · rename_i waited
        obtain rfl := Except.ok.inj passed
        have lapsed : ∀ t ∈ s.rejections, t + lockout ≤ now := by
          intro t member
          rw [split] at member
          rcases List.mem_append.mp member with before | after
          · exact past t before
          · obtain ⟨time', at', early⟩ := noted t after
            obtain rfl := Option.some.inj (at_.symm.trans at')
            have : 60 ≤ (now - time) / 1000000000 := Nat.not_lt.mp waited
            unfold lockout
            omega
        have nothing : within recent s.rejections now = [] :=
          List.filter_eq_nil_iff.mpr fun t member => by
          simp [gone t (lapsed t member)]
        refine ⟨⟨spaced, ⟨s.rejections, [], ?_, rfl, lapsed, ?_⟩, Nat.zero_le _, ?_⟩, rfl,
          Nat.zero_lt_succ 9, ?_⟩
        · rw [List.append_nil]
        · exact fun t member => absurd member List.not_mem_nil
        · exact fun time at_ => by cases at_
        · rw [nothing]
          decide
    · rename_i unset
      obtain rfl := Except.ok.inj passed
      cases new with
      | nil =>
        rw [List.length_nil] at length
        omega
      | cons t new =>
        obtain ⟨time, at_, _⟩ := noted t List.mem_cons_self
        rw [unset] at at_
        cases at_
  · rename_i room
    obtain rfl := Except.ok.inj passed
    exact ⟨⟨spaced, ⟨old, new, split, length, past, noted⟩, few, failed⟩, rfl, by omega, by omega⟩

omit [Ed25519] [MlDsa65] [Chrono] [Unicode] in
theorem presentedCard_unnoted {request : JsonRpcRequest} {rejection : Rejection}
    (refused : presentedCard request = .error rejection) : rejection.noted = false := by
  unfold presentedCard at refused
  split at refused
  · rw [← Except.error.inj refused]
  · split at refused
    · cases refused
    · rw [← Except.error.inj refused]

omit [FromStr AgentCard] in
theorem checkCard_noted {state : GuardState} {card : AgentCard} {moment : Moment}
    (reason : verify card.publicKey (guardPayload card).toUTF8 card.signature = .ok false ∨
      (checkEd25519 card = .ok () ∧ checkMldsa state.requirePq card = .ok () ∧
      card.expiresAt ≤ moment.now)) :
    ∃ rejection, checkCard state card moment = .error rejection ∧ rejection.noted = true := by
  rcases reason with unsigned | ⟨signed, pqSigned, expired⟩
  · have refused : checkEd25519 card = .error ⟨true, -32002, "Invalid Ed25519 signature on agent card."⟩ := by
      rw [checkEd25519, unsigned]
    exact ⟨⟨true, _, _⟩, by rw [checkCard, refused]; rfl, rfl⟩
  · have refused : checkCard state card moment =
        .error ⟨true, -32002, s!"Agent card expired at {Chrono.toRfc3339 card.expiresAt}"⟩ := by
      rw [checkCard, signed, pqSigned]
      exact if_pos expired
    exact ⟨_, refused, rfl⟩

theorem Rejecting.step_sound {s : Rejecting} {last : Nat} {a : Attempt} (sound : s.Sound last)
    (since : last ≤ a.moment.instant) (forward : a.moment.instant ≤ a.moment.failedAt)
    (noted : a.Noted s.state) : (s.step a).Sound a.moment.failedAt := by
  unfold step Attempt.rejected handleAuthenticate
  cases limited : s.state.rateLimit a.moment.instant with
  | error wait => exact sound.later (since.trans forward)
  | ok state =>
    obtain ⟨fresh, requirePq, room, few⟩ := sound.passed since limited
    cases presented : presentedCard a.request with
    | error rejection =>
      have failed : attempt state a.request a.moment =
          .error rejection := by rw [attempt, presented]; rfl
      simp only [failed, GuardState.reject, presentedCard_unnoted presented]
      exact fresh.later forward
    | ok card =>
      have open_ : ¬ ∃ wait, s.state.rateLimit a.moment.instant = .error wait := by
        rintro ⟨wait, waits⟩
        rw [limited] at waits
        cases waits
      have reason := (noted card presented).resolve_left open_
      rw [← requirePq] at reason
      obtain ⟨rejection, refused, counts⟩ := checkCard_noted reason
      have failed : attempt state a.request a.moment = .error rejection := by
        rw [attempt, presented]
        show (checkCard state card a.moment >>= _) = _
        rw [refused]
        rfl
      simp only [failed, refused, GuardState.reject, counts, if_true]
      obtain ⟨spaced, ⟨old, new, split, length, past, noted⟩, _, failedAt⟩ := fresh
      refine ⟨spaced.snoc few, ⟨old, new ++ [a.moment.instant], ?_, ?_, ?_, ?_⟩, room, ?_⟩
      · rw [← List.append_assoc]
        exact congrArg (· ++ [a.moment.instant]) split
      · rw [List.length_append, length]
        rfl
      · exact fun t member => (past t member).trans forward
      · intro t member
        refine ⟨a.moment.failedAt, rfl, ?_⟩
        rcases List.mem_append.mp member with earlier | last
        · obtain ⟨time, at_, early⟩ := noted t earlier
          exact early.trans ((failedAt time at_).trans forward)
        · rw [List.mem_singleton.mp last]
          exact forward
      · intro time at_
        exact (Option.some.inj at_).ge

/-- The attempts come one after the other. -/
def InOrder (attempts : List Attempt) : Prop :=
  (∀ a ∈ attempts, a.moment.instant ≤ a.moment.failedAt) ∧
    attempts.Pairwise fun a later => a.moment.failedAt ≤ later.moment.instant

/-- Every card that is turned down in the run is turned down for a reason that is noted. -/
def AllNoted (state : GuardState) (attempts : List Attempt) : Prop :=
  ∀ before a after, attempts = before ++ a :: after → a.Noted (Rejecting.run state before).state

theorem Rejecting.run_sound {state : GuardState} (fresh : state.Fresh) {attempts : List Attempt}
    (ordered : InOrder attempts) (noted : AllNoted state attempts) :
    ∃ last, (run state attempts).Sound last ∧ ∀ next : Attempt,
      (∀ a ∈ attempts, a.moment.failedAt ≤ next.moment.instant) → last ≤ next.moment.instant := by
  induction attempts using List.reverseRecOn with
  | nil =>
    refine ⟨0, ⟨spaced_nil, ⟨[], [], rfl, fresh.authFailures.symm, ?_, ?_⟩, ?_, ?_⟩, fun _ _ => Nat.zero_le _⟩
    · exact fun t member => absurd member List.not_mem_nil
    · exact fun t member => absurd member List.not_mem_nil
    · exact fresh.authFailures.le.trans (Nat.zero_le 10)
    · intro time at_
      cases fresh.lastFailureTime.symm.trans at_
  | append_singleton attempts a ih =>
    obtain ⟨forward, following⟩ := ordered
    obtain ⟨before, _, after⟩ := List.pairwise_append.mp following
    have last : a ∈ attempts ++ [a] := List.mem_append_right _ (List.mem_singleton_self a)
    obtain ⟨time, sound, next⟩ := ih ⟨fun b member => forward b (List.mem_append_left _ member), before⟩
      fun front b back same => noted front b (back ++ [a]) (by rw [same, List.append_assoc]; rfl)
    have since := next a fun b member => after b member a (List.mem_singleton_self a)
    rw [run_snoc]
    refine ⟨a.moment.failedAt, step_sound sound since (forward a last) (noted attempts a [] rfl), ?_⟩
    exact fun next all => all a last

/-- In a run whose rejections are all noted at most ten cards are looked at and turned down in any
60 seconds; after ten the rate limit answers, whatever the card. -/
theorem lockout_bounds {state : GuardState} (fresh : state.Fresh) {attempts : List Attempt}
    (ordered : InOrder attempts) (noted : AllNoted state attempts) :
    (∀ start, ((Rejecting.run state attempts).rejections.filter fun t =>
      decide (start ≤ t ∧ t < start + lockout)).length ≤ 10) ∧
    ∀ (before : List Attempt) (a : Attempt)
      (after : List Attempt), attempts = before ++ a :: after →
      10 ≤ (within recent (Rejecting.run state before).rejections a.moment.instant).length →
      ∃ wait : Nat, handleAuthenticate (Rejecting.run state before).state a.request a.moment =
        ((Rejecting.run state before).state, errorResponse a.request.id (-32005)
          s!"Too many auth failures. Try again in {wait} seconds.") := by
  constructor
  · intro start
    obtain ⟨last, sound, _⟩ := Rejecting.run_sound fresh ordered noted
    refine sound.spaced.length_le (List.pairwise_of_forall_mem_list fun t member t' member' => ?_)
    have := of_decide_eq_true (List.mem_filter.mp member).2
    have := of_decide_eq_true (List.mem_filter.mp member').2
    exact decide_eq_true (by omega)
  · rintro before a after rfl many
    obtain ⟨forward, following⟩ := ordered
    obtain ⟨first, _, later⟩ := List.pairwise_append.mp following
    obtain ⟨last, sound, next⟩ := Rejecting.run_sound fresh
      ⟨fun b member => forward b (List.mem_append_left _ member), first⟩
      fun front b back same => noted front b (back ++ a :: after) (by rw [same, List.append_assoc]; rfl)
    have since := next a fun b member => later b member a List.mem_cons_self
    cases limited : (Rejecting.run state before).state.rateLimit a.moment.instant with
    | error wait =>
      refine ⟨wait, ?_⟩
      simp only [handleAuthenticate, limited]
    | ok state =>
      obtain ⟨_, _, _, few⟩ := sound.passed since limited
      exact absurd many (Nat.not_le.mpr few)

/-- A failure that is not noted leaves the state as it was. -/
theorem handleAuthenticate_unnoted {state : GuardState} {request : JsonRpcRequest} {moment : Moment}
    {card : AgentCard} {rejection : Rejection} (fresh : state.authFailures < 10)
    (presented : presentedCard request = .ok card)
    (refused : checkCard state card moment = .error rejection) (unnoted : rejection.noted = false) :
    (handleAuthenticate state request moment).1 = state ∧
      (handleAuthenticate state request moment).2.error ≠ none ∧
      Attempt.rejected ⟨request, moment⟩ state = true := by
  have passed : state.rateLimit moment.instant = .ok state := if_neg (Nat.not_le.mpr fresh)
  have failed : attempt state request moment = .error rejection := by
    rw [attempt, presented]
    show (checkCard state card moment >>= _) = _
    rw [refused]
    rfl
  simp [handleAuthenticate, Attempt.rejected, passed, failed, presented, refused, GuardState.reject,
    unnoted, errorResponse]

/-- Such attempts are all evaluated. -/
theorem rejections_unnoted {state : GuardState} {a : Attempt} {card : AgentCard}
    {rejection : Rejection} (fresh : state.authFailures < 10)
    (presented : presentedCard a.request = .ok card)
    (refused : checkCard state card a.moment = .error rejection) (unnoted : rejection.noted = false)
    (n : Nat) : Rejecting.run state (List.replicate n a) =
      ⟨state, List.replicate n a.moment.instant⟩ := by
  induction n with
  | zero => rfl
  | succ n ih =>
    obtain ⟨same, _, rejected⟩ := handleAuthenticate_unnoted fresh presented refused unnoted
    rw [List.replicate_succ', Rejecting.run_snoc, ih, Rejecting.step, same, if_pos rejected,
      List.replicate_succ']

end Lockout

section
open scoped Core.StandIn

namespace StandIn

/-- The visitor, at a time. -/
def visitAt (instant : Nat) (now : DateTime) : Attempt :=
  ⟨authenticate, ⟨instant, instant, now, .readable []⟩⟩

theorem visitAt_expired [FromStr AgentCard]
    (read : FromStr.fromStr visitor.toStringPretty = .ok visitor) (instant : Nat)
    (state : GuardState) (noPq : state.requirePq = false) : (visitAt instant 10).Noted state := by
  intro card presented
  obtain rfl := Except.ok.inj ((visit_presented read).symm.trans presented)
  refine .inr (.inr ⟨(checkEd25519_iff _).mpr visitor_admitted.signed.1, ?_, le_refl 10⟩)
  rw [noPq]
  exact (checkMldsa_iff false _).mpr visitor_admitted.signed.2

theorem visitAt_unscoped (instant : Nat) :
    ∃ rejection, checkCard (.new ["write"] false) visitor (visitAt instant 0).moment =
      .error rejection ∧
      rejection.noted = false := by
  have signed := (checkEd25519_iff visitor).mpr visitor_admitted.signed.1
  have pqSigned := (checkMldsa_iff false visitor).mpr visitor_admitted.signed.2
  have refused : ∃ text, checkCard (.new ["write"] false) visitor (visitAt instant 0).moment =
      .error ⟨false, -32003, text⟩ := by
    rw [checkCard, signed]
    show ∃ text, (checkMldsa false visitor >>= _) = .error ⟨false, -32003, text⟩
    rw [pqSigned]
    exact ⟨_, rfl⟩
  obtain ⟨_, refused⟩ := refused
  exact ⟨_, refused, rfl⟩

end StandIn

theorem lockout_bounds_expired :
    letI := Core.StandIn.parser [(StandIn.visitor.toStringPretty, StandIn.visitor)]
    ((Rejecting.run (.new ["read"] false) [StandIn.visitAt 0 10]).rejections.filter fun t =>
      decide (0 ≤ t ∧ t < 0 + lockout)).length ≤ 10 := by
  let _ := Core.StandIn.parser [(StandIn.visitor.toStringPretty, StandIn.visitor)]
  have ordered : InOrder [StandIn.visitAt 0 10] := by
    refine ⟨fun a member => ?_, List.pairwise_singleton _ _⟩
    rw [List.mem_singleton.mp member]
    exact le_refl 0
  refine (lockout_bounds (GuardState.new_fresh _ _) ordered ?_).1 0
  intro before a after same
  obtain _ | ⟨first, before⟩ := before
  · obtain ⟨rfl, _⟩ := List.cons.inj same
    exact StandIn.visitAt_expired (Core.StandIn.parser_head _ _ _) 0 _ rfl
  · simp at same

/-- A card without the scopes is looked at again and again. -/
theorem lockout_unscoped :
    letI := Core.StandIn.parser [(StandIn.visitor.toStringPretty, StandIn.visitor)]
    ¬ ∀ (state : GuardState) (attempts : List Attempt), state.Fresh → InOrder attempts →
      (∀ before a after, attempts = before ++ a :: after →
        (handleAuthenticate (Rejecting.run state before).state a.request a.moment).2.error ≠ none) →
      ∀ start, ((Rejecting.run state attempts).rejections.filter fun t =>
        decide (start ≤ t ∧ t < start + lockout)).length ≤ 10 := by
  let _ := Core.StandIn.parser [(StandIn.visitor.toStringPretty, StandIn.visitor)]
  intro bounded
  let guard := GuardState.new ["write"] false
  let knock := StandIn.visitAt 0 0
  have read : FromStr.fromStr StandIn.visitor.toStringPretty = .ok StandIn.visitor :=
    Core.StandIn.parser_head _ _ _
  have presented : presentedCard knock.request = .ok StandIn.visitor := StandIn.visit_presented read
  obtain ⟨rejection, refused, unnoted⟩ := StandIn.visitAt_unscoped 0
  have fresh : guard.authFailures < 10 := by decide
  have looked := rejections_unnoted (a := knock) fresh presented refused unnoted
  have ordered : InOrder (List.replicate 11 knock) := by
    refine ⟨fun a member => ?_, List.pairwise_replicate.mpr (.inr (le_refl 0))⟩
    rw [List.eq_of_mem_replicate member]
    exact le_refl 0
  have few := bounded guard (List.replicate 11 knock) (GuardState.new_fresh _ _) ordered ?_ 0
  · rw [looked 11] at few
    exact absurd few (by decide)
  · intro before a after same
    obtain ⟨_, first, rest⟩ := List.replicate_eq_append_iff.mp same
    have again : a = knock := List.eq_of_mem_replicate (rest ▸ List.mem_cons_self)
    have still : (Rejecting.run guard before).state = guard := by rw [first, looked]
    have answered := (handleAuthenticate_unnoted fresh presented refused unnoted).2.1
    rw [← still] at answered
    exact again ▸ answered

end
end GrokingClawId.Cli.Guard
