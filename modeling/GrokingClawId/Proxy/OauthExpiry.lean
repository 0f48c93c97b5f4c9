import GrokingClawId.Proxy.OauthTasks

/-!
# Tokens that are left to expire

A cache that nobody tells of a revocation keeps its tokens. Once those of a registration have expired
and no refresh brings another, only the requests that already hold one return it.
-/

namespace GrokingClawId.Proxy
open GrokingClawId.Core

theorem CachedOAuthToken.isHardExpired_mono {token : CachedOAuthToken} {time now : DateTime}
    (expired : token.isHardExpired time = true) (later : time ≤ now) :
    token.isHardExpired now = true := by
  have seconds : time.timestamp ≤ now.timestamp := Int.ediv_le_ediv (by decide) later
  have spent : token.expiresAt ≤ time.timestamp := of_decide_eq_true expired
  exact decide_eq_true (Int.le_trans spent seconds)

/-- Neither a token of the registration that waits to be cached, nor one that is about to be
returned to a request after the first `n` tasks. -/
def TokenTask.Fine (id : String) (n i : Nat) : TokenTask → Prop
  | .renews other _ _ => other ≠ id
  | .holds other _ => other = id → i < n
  | _ => True

/-- The events from the time on in which no refresh succeeds for the registration. -/
def TaskEvent.Refused (id : String) (time : DateTime) (s : TokenTasks) : TaskEvent → Prop
  | .look _ now _ => time ≤ now
  | .answer i result =>
    (∃ blocking, s.tasks[i]? = some (.asks id blocking)) → ∀ token, result ≠ .ok token
  | .update other _ => other ≠ id
  | _ => True

namespace TokenTasks

/-- Every cached token of the registration has expired, if a domain leads to it at all. -/
def Expired (id : String) (time : DateTime) (s : TokenTasks) : Prop :=
  s.Binds id → ∀ token, s.cache.tokens.lookup id = some token → token.isHardExpired time = true

def AllFine (id : String) (n : Nat) (s : TokenTasks) : Prop :=
  ∀ (i : Nat) (task : TokenTask), s.tasks[i]? = some task → task.Fine id n i

structure Spent (id : String) (time : DateTime) (n : Nat) (s : TokenTasks) : Prop where
  bound : s.Bound
  expired : s.Expired id time
  fine : s.AllFine id n

variable {s s' : TokenTasks} {id : String} {time : DateTime} {n : Nat}

theorem fine_put {i : Nat} {new : TokenTask} (fine : s.AllFine id n) (at_ : new.Fine id n i) :
    (s.put i new).AllFine id n := by
  intro j task found
  simp only [put, List.getElem?_set] at found
  split at found
  · rename_i same
    split at found
    · obtain rfl := Option.some.inj found
      rw [← same]
      exact at_
    · cases found
  · exact fine j task found

theorem fine_spawn {new : TokenTask} (fine : s.AllFine id n) (at_ : new.Fine id n s.tasks.length) :
    (s.spawn new).AllFine id n := by
  intro j task found
  rcases Nat.lt_or_ge j s.tasks.length with before | after
  · simp only [spawn, List.getElem?_append_left before] at found
    exact fine j task found
  · simp only [spawn, List.getElem?_append_right after, List.getElem?_singleton] at found
    split at found
    · rename_i last
      obtain rfl := Option.some.inj found
      rw [show j = s.tasks.length by omega]
      exact at_
    · cases found

theorem Spent.unrenewed (spent : s.Spent id time n) (token : CachedOAuthToken) (blocking : Bool) :
    .renews id token blocking ∉ s.tasks := by
  intro member
  obtain ⟨i, at_⟩ := List.mem_iff_getElem?.mp member
  exact spent.fine i _ at_ rfl

theorem step_expired {e : TaskEvent} (spent : s.Spent id time n) (refused : e.Refused id time s)
    (stepped : s.step e = some s') : s'.Expired id time := by
  rintro ⟨domain, binding, found, same⟩ token held
  have binds : s.Binds id :=
    ⟨domain, binding, ((step_cache stepped).findBinding domain).symm.trans found, same⟩
  rcases (step_cache stepped).lookup held with old | ⟨blocking, renews⟩ | updates
  · exact spent.expired binds token old
  · exact absurd renews (spent.unrenewed token blocking)
  · rw [updates] at refused
    exact absurd rfl refused

/-- A look finds no token of the registration that could be returned. -/
theorem readToken_fine {i : Nat} {now later : DateTime} (spent : s.Spent id time n)
    (passed : time ≤ now) (stepped : s.readToken i now later = some s') : s'.AllFine id n := by
  have holds {other : String} {token : CachedOAuthToken} {refresh : Bool}
      (at_ : s.tasks[i]? = some (.bound other))
      (got : s.cache.lookUp other now later = .found token refresh) :
      (TokenTask.holds other token).Fine id n i := by
    rintro rfl
    obtain ⟨held, unexpired⟩ := OAuthTokenCache.lookUp_found got
    have binds := spent.bound _ (List.mem_of_getElem? at_) other (.inl rfl)
    have past := CachedOAuthToken.isHardExpired_mono (spent.expired binds token held) passed
    rw [past] at unexpired
    cases unexpired
  unfold readToken at stepped
  split at stepped
  · rename_i other at_
    split at stepped
    · obtain rfl := Option.some.inj stepped
      exact fine_put spent.fine trivial
    · rename_i token got
      obtain rfl := Option.some.inj stepped
      exact fine_put spent.fine (holds at_ got)
    · rename_i token got
      obtain rfl := Option.some.inj stepped
      exact fine_spawn (fine_put spent.fine (holds at_ got)) trivial
    · obtain rfl := Option.some.inj stepped
      exact fine_put spent.fine trivial
  · cases stepped

theorem step_fine {e : TaskEvent} (spent : s.Spent id time n) (refused : e.Refused id time s)
    (stepped : s.step e = some s') : s'.AllFine id n := by
  cases e with
  | call domain =>
    obtain rfl := Option.some.inj stepped
    exact fine_spawn spent.fine trivial
  | bind i =>
    obtain ⟨new, rfl, rfl | ⟨other, rfl, _⟩⟩ := readBinding_spec stepped
    · exact fine_put spent.fine trivial
    · exact fine_put spent.fine trivial
  | look i now later => exact readToken_fine spent refused stepped
  | answer i result =>
    obtain rfl | ⟨other, token, blocking, at_, rfl, rfl⟩ := takeAnswer_spec stepped
    · exact fine_put spent.fine trivial
    · refine fine_put spent.fine (fun same : other = id => ?_)
      rw [same] at at_
      exact refused ⟨blocking, at_⟩ token rfl
  | insert i =>
    obtain ⟨other, token, blocking, renews, rfl⟩ := insertToken_spec stepped
    refine fine_put spent.fine ?_
    cases blocking with
    | true =>
      rintro rfl
      exact absurd renews (spent.unrenewed token true)
    | false => trivial
  | ret i =>
    obtain rfl := finish_spec stepped
    exact fine_put spent.fine trivial
  | update other token =>
    obtain rfl := Option.some.inj stepped
    exact spent.fine
  | remove other =>
    obtain rfl := Option.some.inj stepped
    exact spent.fine

theorem step_spent {e : TaskEvent} (spent : s.Spent id time n) (refused : e.Refused id time s)
    (stepped : s.step e = some s') : s'.Spent id time n :=
  ⟨step_bound spent.bound stepped, step_expired spent refused stepped, step_fine spent refused stepped⟩

/-- What a look finds is about to be returned. -/
theorem run_call {domain : String} {binding : OAuthDomainBinding} {token : CachedOAuthToken}
    {refresh : Bool} {now later : DateTime} (found : s.cache.findBinding domain = some binding)
    (looked : s.cache.lookUp binding.registrationId now later = .found token refresh) :
    ∃ s', Run step s [.call domain, .bind s.tasks.length, .look s.tasks.length now later] =
      some s' ∧
      s'.tasks[s.tasks.length]? = some (.holds binding.registrationId token) := by
  let id := binding.registrationId
  have called : (s.spawn (.called domain)).tasks[s.tasks.length]? = some (.called domain) :=
    List.getElem?_concat_length
  have bound := getElem?_put (.bound id) called
  have holds := getElem?_put (.holds id token) bound
  have binds : (s.spawn (.called domain)).step (.bind s.tasks.length) =
      some ((s.spawn (.called domain)).put s.tasks.length (.bound id)) := by
    simp only [step, readBinding, called]
    simp only [spawn, found, id]
  generalize at_bound : (s.spawn (.called domain)).put s.tasks.length (.bound id) = t at bound binds holds
  have looks : t.cache.lookUp id now later = .found token refresh := by
    rw [← at_bound]
    exact looked
  cases refresh with
  | false =>
    refine ⟨t.put s.tasks.length (.holds id token), ?_, holds⟩
    refine Run.cons rfl (Run.cons binds (Run.cons ?_ rfl))
    simp only [step, readToken, bound, looks]
  | true =>
    refine ⟨(t.put s.tasks.length (.holds id token)).spawn (.asks id false), ?_, ?_⟩
    · refine Run.cons rfl (Run.cons binds (Run.cons ?_ rfl))
      simp only [step, readToken, bound, looks]
    · exact (List.getElem?_append_left (List.getElem?_eq_some_iff.mp holds).1).trans holds

end TokenTasks
end GrokingClawId.Proxy
