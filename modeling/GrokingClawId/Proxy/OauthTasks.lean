import GrokingClawId.Lib.Run
import GrokingClawId.Proxy.Oauth

/-!
# Calls on one token cache

`get_token`, `update_token` and `remove_token` on one cache in any order of their steps. A call reads
the bindings, then the tokens, and what it waits for it does without a lock; the refreshes it starts
in the background are tasks of their own.
-/

namespace GrokingClawId.Proxy
open GrokingClawId.Core

/-- Where a call of `get_token`, or a refresh it has started, stands. -/
inductive TokenTask where
  | called (domain : String)
  | bound (registrationId : String)
  /-- The token is about to be returned. -/
  | holds (registrationId : String) (token : CachedOAuthToken)
  /-- `refresh_token_via_ipc` waits; a blocking one is a request's own. -/
  | asks (registrationId : String) (blocking : Bool)
  /-- The daemon has answered and the cache has not been written. -/
  | renews (registrationId : String) (token : CachedOAuthToken) (blocking : Bool)
  | ended

inductive TaskEvent where
  | call (domain : String)
  | bind (task : Nat)
  | look (task : Nat) (now later : DateTime)
  | answer (task : Nat) (result : Except String CachedOAuthToken)
  | insert (task : Nat)
  | ret (task : Nat)
  | update (registrationId : String) (token : CachedOAuthToken)
  | remove (registrationId : String)

structure TokenTasks where
  cache : OAuthTokenCache
  tasks : List TokenTask

namespace TokenTasks

def start (cache : OAuthTokenCache) : TokenTasks := { cache, tasks := [] }

def put (s : TokenTasks) (i : Nat) (task : TokenTask) : TokenTasks :=
  { s with tasks := s.tasks.set i task }

def spawn (s : TokenTasks) (task : TokenTask) : TokenTasks := { s with tasks := s.tasks ++ [task] }

def readBinding (s : TokenTasks) (i : Nat) : Option TokenTasks :=
  match s.tasks[i]? with
  | some (.called domain) =>
    match s.cache.findBinding domain with
    | none => some (s.put i .ended)
    | some binding => some (s.put i (.bound binding.registrationId))
  | _ => none

def readToken (s : TokenTasks) (i : Nat) (now later : DateTime) : Option TokenTasks :=
  match s.tasks[i]? with
  | some (.bound id) =>
    match s.cache.lookUp id now later with
    | .nothing => some (s.put i .ended)
    | .found token false => some (s.put i (.holds id token))
    | .found token true => some ((s.put i (.holds id token)).spawn (.asks id false))
    | .waits => some (s.put i (.asks id true))
  | _ => none

def takeAnswer (s : TokenTasks) (i : Nat) (result : Except String CachedOAuthToken) :
    Option TokenTasks :=
  match s.tasks[i]? with
  | some (.asks id blocking) =>
    match result with
    | .ok token => some (s.put i (.renews id token blocking))
    | .error _ => some (s.put i .ended)
  | _ => none

def insertToken (s : TokenTasks) (i : Nat) : Option TokenTasks :=
  match s.tasks[i]? with
  | some (.renews id token blocking) =>
    some { s.put i (if blocking then .holds id token else .ended) with cache := s.cache.updateToken id token }
  | _ => none

def finish (s : TokenTasks) (i : Nat) : Option TokenTasks :=
  match s.tasks[i]? with
  | some (.holds _ _) => some (s.put i .ended)
  | _ => none

def step (s : TokenTasks) : TaskEvent → Option TokenTasks
  | .call domain => some (s.spawn (.called domain))
  | .bind i => s.readBinding i
  | .look i now later => s.readToken i now later
  | .answer i result => s.takeAnswer i result
  | .insert i => s.insertToken i
  | .ret i => s.finish i
  | .update id token => some { s with cache := s.cache.updateToken id token }
  | .remove id => some { s with cache := s.cache.removeToken id }

/-- A call ends with this token of the registration. -/
def Returns (s : TokenTasks) (e : TaskEvent) (id : String) (token : CachedOAuthToken) : Prop :=
  ∃ i, e = .ret i ∧ s.tasks[i]? = some (.holds id token)

/-! ### What a step can do -/

/-- Some domain is bound to the registration. -/
def Binds (s : TokenTasks) (id : String) : Prop :=
  ∃ domain binding, s.cache.findBinding domain = some binding ∧ binding.registrationId = id

theorem readBinding_spec {s s' : TokenTasks} {i : Nat} (stepped : s.readBinding i = some s') :
    ∃ task, s' = s.put i task ∧ (task = .ended ∨ ∃ id, task = .bound id ∧ s.Binds id) := by
  unfold readBinding at stepped
  split at stepped
  · rename_i domain _
    split at stepped
    · exact ⟨.ended, (Option.some.inj stepped).symm, .inl rfl⟩
    · rename_i binding found
      exact ⟨_, (Option.some.inj stepped).symm, .inr ⟨_, rfl, domain, binding, found, rfl⟩⟩
  · cases stepped

theorem readToken_spec {s s' : TokenTasks} {i : Nat} {now later : DateTime}
    (stepped : s.readToken i now later = some s') :
    ∃ id, .bound id ∈ s.tasks ∧
      (s' = s.put i .ended ∨ ∃ token, s.cache.tokens.lookup id = some token ∧
      (s' = s.put i (.asks id true) ∨ s' = s.put i (.holds id token) ∨
        s' = (s.put i (.holds id token)).spawn (.asks id false))) := by
  unfold readToken at stepped
  split at stepped
  · rename_i id at_
    refine ⟨id, List.mem_of_getElem? at_, ?_⟩
    split at stepped
    · exact .inl (Option.some.inj stepped).symm
    · rename_i token found
      have held := (OAuthTokenCache.lookUp_found found).1
      exact .inr ⟨token, held, .inr (.inl (Option.some.inj stepped).symm)⟩
    · rename_i token found
      have held := (OAuthTokenCache.lookUp_found found).1
      exact .inr ⟨token, held, .inr (.inr (Option.some.inj stepped).symm)⟩
    · rename_i waits
      obtain ⟨token, held, _⟩ := OAuthTokenCache.lookUp_waits waits
      exact .inr ⟨token, held, .inl (Option.some.inj stepped).symm⟩
  · cases stepped

theorem takeAnswer_spec {s s' : TokenTasks} {i : Nat} {result : Except String CachedOAuthToken}
    (stepped : s.takeAnswer i result = some s') :
    s' = s.put i .ended ∨ ∃ id token blocking, s.tasks[i]? = some (.asks id blocking) ∧
      result = .ok token ∧ s' = s.put i (.renews id token blocking) := by
  unfold takeAnswer at stepped
  split at stepped
  · rename_i id blocking at_
    split at stepped
    · rename_i token
      exact .inr ⟨id, token, blocking, at_, rfl, (Option.some.inj stepped).symm⟩
    · exact .inl (Option.some.inj stepped).symm
  · cases stepped

theorem insertToken_spec {s s' : TokenTasks} {i : Nat} (stepped : s.insertToken i = some s') :
    ∃ id token blocking, .renews id token blocking ∈ s.tasks ∧
      s' = { s.put i (if blocking then .holds id token else .ended) with
        cache := s.cache.updateToken id token } := by
  unfold insertToken at stepped
  split at stepped
  · rename_i id token blocking at_
    exact ⟨id, token, blocking, List.mem_of_getElem? at_, (Option.some.inj stepped).symm⟩
  · cases stepped

theorem finish_spec {s s' : TokenTasks} {i : Nat} (stepped : s.finish i = some s') :
    s' = s.put i .ended := by
  unfold finish at stepped
  split at stepped
  · exact (Option.some.inj stepped).symm
  · cases stepped

/-- Where a task that a step has put in place comes from. -/
def Arises (s : TokenTasks) (e : TaskEvent) : TokenTask → Prop
  | .called _ | .ended => True
  | .bound id => s.Binds id
  | .holds id token =>
    (.bound id ∈ s.tasks ∧ s.cache.tokens.lookup id = some token) ∨ .renews id token true ∈ s.tasks
  | .asks id _ => .bound id ∈ s.tasks ∧ ∃ token, s.cache.tokens.lookup id = some token
  | .renews id token blocking => ∃ i, e = .answer i (.ok token) ∧ s.tasks[i]? = some (.asks id blocking)

theorem mem_put {s : TokenTasks} {e : TaskEvent} {i : Nat} {task : TokenTask} (new : TokenTask)
    (arises : s.Arises e new) (member : task ∈ (s.put i new).tasks) :
    task ∈ s.tasks ∨ s.Arises e task := by
  rcases List.mem_or_eq_of_mem_set member with old | rfl
  · exact .inl old
  · exact .inr arises

theorem mem_spawn {s s' : TokenTasks} {e : TaskEvent} {task : TokenTask} (new : TokenTask)
    (arises : s.Arises e new) (earlier : task ∈ s'.tasks → task ∈ s.tasks ∨ s.Arises e task)
    (member : task ∈ (s'.spawn new).tasks) :
    task ∈ s.tasks ∨ s.Arises e task := by
  rcases List.mem_append.mp member with old | added
  · exact earlier old
  · rw [List.mem_singleton.mp added]
    exact .inr arises

theorem step_task {s s' : TokenTasks} {e : TaskEvent} (stepped : s.step e = some s') {task : TokenTask}
    (member : task ∈ s'.tasks) : task ∈ s.tasks ∨ s.Arises e task := by
  cases e with
  | call domain =>
    obtain rfl := Option.some.inj stepped
    exact mem_spawn (.called domain) trivial .inl member
  | bind i =>
    obtain ⟨new, rfl, rfl | ⟨id, rfl, binds⟩⟩ := readBinding_spec stepped
    · exact mem_put .ended trivial member
    · exact mem_put (.bound id) binds member
  | look i now later =>
    obtain ⟨id, bound, rfl | ⟨token, held, rfl | rfl | rfl⟩⟩ := readToken_spec stepped
    · exact mem_put .ended trivial member
    · exact mem_put (.asks id true) ⟨bound, token, held⟩ member
    · exact mem_put (.holds id token) (.inl ⟨bound, held⟩) member
    · refine mem_spawn (.asks id false) ⟨bound, token, held⟩ (fun old => ?_) member
      exact mem_put (.holds id token) (.inl ⟨bound, held⟩) old
  | answer i result =>
    obtain rfl | ⟨id, token, blocking, at_, rfl, rfl⟩ := takeAnswer_spec stepped
    · exact mem_put .ended trivial member
    · exact mem_put (.renews id token blocking) ⟨i, rfl, at_⟩ member
  | insert i =>
    obtain ⟨id, token, blocking, renews, rfl⟩ := insertToken_spec stepped
    cases blocking with
    | true => exact mem_put (.holds id token) (.inr renews) member
    | false => exact mem_put .ended trivial member
  | ret i =>
    obtain rfl := finish_spec stepped
    exact mem_put .ended trivial member
  | update id token =>
    obtain rfl := Option.some.inj stepped
    exact .inl member
  | remove id =>
    obtain rfl := Option.some.inj stepped
    exact .inl member

/-- What a step does to the cache. -/
inductive Writes (s : TokenTasks) : TaskEvent → OAuthTokenCache → Prop where
  | none (e : TaskEvent) : s.Writes e s.cache
  | insert (i : Nat) (id : String) (token : CachedOAuthToken) (blocking : Bool)
      (renews : .renews id token blocking ∈ s.tasks) : s.Writes (.insert i) (s.cache.updateToken id token)
  | update (id : String) (token : CachedOAuthToken) :
    s.Writes (.update id token) (s.cache.updateToken id token)
  | remove (id : String) : s.Writes (.remove id) (s.cache.removeToken id)

theorem step_cache {s s' : TokenTasks} {e : TaskEvent} (stepped : s.step e = some s') :
    s.Writes e s'.cache := by
  cases e with
  | call domain =>
    obtain rfl := Option.some.inj stepped
    exact .none _
  | bind i =>
    obtain ⟨new, rfl, _⟩ := readBinding_spec stepped
    exact .none _
  | look i now later =>
    obtain ⟨id, _, rfl | ⟨token, _, rfl | rfl | rfl⟩⟩ := readToken_spec stepped <;> exact .none _
  | answer i result =>
    obtain rfl | ⟨id, token, blocking, _, _, rfl⟩ := takeAnswer_spec stepped <;> exact .none _
  | insert i =>
    obtain ⟨id, token, blocking, renews, rfl⟩ := insertToken_spec stepped
    exact .insert i id token blocking renews
  | ret i =>
    obtain rfl := finish_spec stepped
    exact .none _
  | update id token =>
    obtain rfl := Option.some.inj stepped
    exact .update id token
  | remove id =>
    obtain rfl := Option.some.inj stepped
    exact .remove id

theorem Writes.findBinding {s : TokenTasks} {e : TaskEvent} {cache : OAuthTokenCache}
    (writes : s.Writes e cache) (domain : String) :
    cache.findBinding domain = s.cache.findBinding domain := by
  cases writes <;> rfl

theorem Writes.lookup {s : TokenTasks} {e : TaskEvent} {cache : OAuthTokenCache}
    (writes : s.Writes e cache) {id : String} {token : CachedOAuthToken}
    (held : cache.tokens.lookup id = some token) :
    s.cache.tokens.lookup id = some token ∨ (∃ blocking, .renews id token blocking ∈ s.tasks) ∨
      e = .update id token := by
  have written : ∀ other new, (s.cache.updateToken other new).tokens.lookup id = some token →
      s.cache.tokens.lookup id = some token ∨ (id = other ∧ token = new) := by
    intro other new held
    by_cases same : id = other
    · rw [same, OAuthTokenCache.lookup_updateToken] at held
      exact .inr ⟨same, (Option.some.inj held).symm⟩
    · rw [OAuthTokenCache.lookup_updateToken_other same] at held
      exact .inl held
  cases writes with
  | none => exact .inl held
  | insert i other new blocking renews =>
    rcases written other new held with old | ⟨rfl, rfl⟩
    · exact .inl old
    · exact .inr (.inl ⟨blocking, renews⟩)
  | update other new =>
    rcases written other new held with old | ⟨rfl, rfl⟩
    · exact .inl old
    · exact .inr (.inr rfl)
  | remove other => exact .inl (OAuthTokenCache.lookup_of_removeToken held)

end TokenTasks

/-! ### Removed tokens -/

/-- The task has read the tokens for the registration. -/
def TokenTask.Past (id : String) : TokenTask → Prop
  | .holds other _ | .asks other _ | .renews other _ _ => other = id
  | .called _ | .bound _ | .ended => False

namespace TokenTasks

/-- No token of the registration is cached or on its way. -/
def Clear (id : String) (s : TokenTasks) : Prop :=
  s.cache.tokens.lookup id = none ∧ ∀ task ∈ s.tasks, ¬ task.Past id

theorem step_clear {s s' : TokenTasks} {e : TaskEvent} {id : String} (clear : s.Clear id)
    (other : ∀ token, e ≠ .update id token) (stepped : s.step e = some s') : s'.Clear id := by
  obtain ⟨absent, none⟩ := clear
  constructor
  · cases held : s'.cache.tokens.lookup id with
    | none => rfl
    | some token =>
      rcases (step_cache stepped).lookup held with old | ⟨blocking, renews⟩ | updates
      · rw [absent] at old
        cases old
      · exact absurd rfl (none _ renews)
      · exact absurd updates (other token)
  · intro task member past
    rcases step_task stepped member with old | arises
    · exact none task old past
    · cases task with
      | called domain => exact past
      | bound id' => exact past
      | ended => exact past
      | holds id' token =>
        obtain rfl : id' = id := past
        rcases arises with ⟨_, held⟩ | renews
        · rw [absent] at held
          cases held
        · exact none _ renews rfl
      | asks id' blocking =>
        obtain rfl : id' = id := past
        obtain ⟨_, token, held⟩ := arises
        rw [absent] at held
        cases held
      | renews id' token blocking =>
        obtain rfl : id' = id := past
        obtain ⟨i, _, at_⟩ := arises
        exact none _ (List.mem_of_getElem? at_) rfl

/-- The registrations of the tasks are bound. -/
def Bound (s : TokenTasks) : Prop :=
  ∀ task ∈ s.tasks, ∀ id, (task = .bound id ∨ task.Past id) → s.Binds id

theorem step_bound {s s' : TokenTasks} {e : TaskEvent} (bound : s.Bound)
    (stepped : s.step e = some s') :
    s'.Bound := by
  have kept : ∀ id, s.Binds id → s'.Binds id := by
    rintro id ⟨domain, binding, found, same⟩
    exact ⟨domain, binding, ((step_cache stepped).findBinding domain).trans found, same⟩
  intro task member id concerns
  apply kept
  rcases step_task stepped member with old | arises
  · exact bound task old id concerns
  · cases task with
    | called domain => rcases concerns with named | past <;> contradiction
    | ended => rcases concerns with named | past <;> contradiction
    | bound id' =>
      rcases concerns with named | past
      · rw [← TokenTask.bound.inj named]
        exact arises
      · exact past.elim
    | holds id' token =>
      rcases concerns with named | rfl
      · cases named
      · rcases arises with ⟨before, _⟩ | renews
        · exact bound _ before id' (.inl rfl)
        · exact bound _ renews id' (.inr rfl)
    | asks id' blocking =>
      rcases concerns with named | rfl
      · cases named
      · exact bound _ arises.1 id' (.inl rfl)
    | renews id' token blocking =>
      rcases concerns with named | rfl
      · cases named
      · obtain ⟨i, _, at_⟩ := arises
        exact bound _ (List.mem_of_getElem? at_) id' (.inr rfl)

/-! ### Which removals last -/

/-- No call returns a token of the registration before an update brings one. -/
def Gone (id : String) (s : TokenTasks) : Prop :=
  ∀ events, (∀ token, .update id token ∉ events) →
    Run.Each step (fun s e => ∀ token, ¬ s.Returns e id token) s events

theorem clear_gone {s : TokenTasks} {id : String} (clear : s.Clear id) : s.Gone id := by
  intro events others
  induction events generalizing s with
  | nil => trivial
  | cons e events ih =>
    intro s' stepped
    constructor
    · rintro token ⟨i, _, at_⟩
      exact clear.2 _ (List.mem_of_getElem? at_) rfl
    · apply ih
      · refine step_clear clear (fun token same => others token ?_) stepped
        rw [same]
        exact List.mem_cons_self
      · exact fun token member => others token (List.mem_cons_of_mem _ member)

theorem not_gone_step {s s' : TokenTasks} {id : String} {e : TaskEvent}
    (other : ∀ token, e ≠ .update id token) (stepped : s.step e = some s') (more : ¬ s'.Gone id) :
    ¬ s.Gone id := by
  intro gone
  apply more
  intro events others
  have each := gone (e :: events) fun token member => by
    rcases List.mem_cons.mp member with same | later
    · exact other token same.symm
    · exact others token later
  exact (each s' stepped).2

theorem getElem?_put {s : TokenTasks} {i : Nat} {task : TokenTask} (new : TokenTask)
    (at_ : s.tasks[i]? = some task) :
    (s.put i new).tasks[i]? = some new :=
  List.getElem?_set_self (List.getElem?_eq_some_iff.mp at_).1

theorem not_gone_holds {s : TokenTasks} {id : String} {i : Nat} {token : CachedOAuthToken}
    (at_ : s.tasks[i]? = some (.holds id token)) : ¬ s.Gone id := by
  intro gone
  have stepped : s.step (.ret i) = some (s.put i .ended) := by simp only [step, finish, at_]
  exact (gone [.ret i] (by simp) _ stepped).1 token ⟨i, rfl, at_⟩

theorem step_insert {s : TokenTasks} {id : String} {i : Nat} {token : CachedOAuthToken}
    {blocking : Bool} (at_ : s.tasks[i]? = some (.renews id token blocking)) : s.step (.insert i) =
      some { s.put i (if blocking then .holds id token else .ended) with
        cache := s.cache.updateToken id token } := by
  simp only [step, insertToken, at_]

/-- The daemon may answer with any token. -/
theorem step_answer {s : TokenTasks} {id : String} {i : Nat} {blocking : Bool}
    (token : CachedOAuthToken) (at_ : s.tasks[i]? = some (.asks id blocking)) :
    s.step (.answer i (.ok token)) = some (s.put i (.renews id token blocking)) := by
  simp only [step, takeAnswer, at_]

theorem not_gone_answered {s : TokenTasks} {id : String} {i : Nat} {token : CachedOAuthToken}
    (at_ : s.tasks[i]? = some (.renews id token true)) : ¬ s.Gone id := by
  refine not_gone_step (fun _ => TaskEvent.noConfusion) (step_insert at_) ?_
  exact not_gone_holds (getElem?_put (.holds id token) at_)

def anyToken (id : String) : CachedOAuthToken :=
  { accessToken := "", expiresAt := 0, scopes := [], provider := "", registrationId := id }

theorem not_gone_waits {s : TokenTasks} {id : String} {i : Nat}
    (at_ : s.tasks[i]? = some (.asks id true)) :
    ¬ s.Gone id := by
  refine not_gone_step (fun _ => TaskEvent.noConfusion) (step_answer (anyToken id) at_) ?_
  exact not_gone_answered (getElem?_put (.renews id (anyToken id) true) at_)

/-- A cached token of a bound registration is found by the next call, which returns it or waits for
another. -/
theorem not_gone_cached {s : TokenTasks} {id : String} {token : CachedOAuthToken}
    (binds : s.Binds id) (held : s.cache.tokens.lookup id = some token) : ¬ s.Gone id := by
  obtain ⟨domain, binding, found, same⟩ := binds
  let i := s.tasks.length
  have called : s.step (.call domain) = some (s.spawn (.called domain)) := rfl
  have at_ : (s.spawn (.called domain)).tasks[i]? = some (.called domain) :=
    List.getElem?_concat_length
  have bound : (s.spawn (.called domain)).step (.bind i) =
      some ((s.spawn (.called domain)).put i (.bound id)) := by
    rw [← same]
    simp only [step, readBinding, at_]
    simp only [spawn, found]
  have boundAt := getElem?_put (.bound id) at_
  refine not_gone_step (fun _ => TaskEvent.noConfusion) called ?_
  refine not_gone_step (fun _ => TaskEvent.noConfusion) bound ?_
  generalize before : (s.spawn (.called domain)).put i (.bound id) = s' at boundAt
  have cached : s'.cache.tokens.lookup id = some token := by
    rw [← before]
    exact held
  cases looked : s'.cache.lookUp id 0 0 with
  | nothing =>
    simp only [OAuthTokenCache.lookUp, cached] at looked
    split at looked <;> cases looked
  | waits =>
    have waiting : s'.step (.look i 0 0) = some (s'.put i (.asks id true)) := by
      simp only [step, readToken, boundAt, looked]
    refine not_gone_step (fun _ => TaskEvent.noConfusion) waiting ?_
    exact not_gone_waits (getElem?_put (.asks id true) boundAt)
  | found other refresh =>
    cases refresh with
    | false =>
      have holding : s'.step (.look i 0 0) = some (s'.put i (.holds id other)) := by
        simp only [step, readToken, boundAt, looked]
      refine not_gone_step (fun _ => TaskEvent.noConfusion) holding ?_
      exact not_gone_holds (getElem?_put (.holds id other) boundAt)
    | true =>
      have holding : s'.step (.look i 0 0) = some ((s'.put i (.holds id other)).spawn (.asks id false)) := by
        simp only [step, readToken, boundAt, looked]
      refine not_gone_step (fun _ => TaskEvent.noConfusion) holding ?_
      have holds := getElem?_put (.holds id other) boundAt
      have there : ((s'.put i (.holds id other)).spawn (.asks id false)).tasks[i]? =
          some (.holds id other) :=
        (List.getElem?_append_left (List.getElem?_eq_some_iff.mp holds).1).trans holds
      exact not_gone_holds there

theorem not_gone_renews {s : TokenTasks} {id : String} {i : Nat} {token : CachedOAuthToken}
    {blocking : Bool} (binds : s.Binds id) (at_ : s.tasks[i]? = some (.renews id token blocking)) :
    ¬ s.Gone id := by
  refine not_gone_step (fun _ => TaskEvent.noConfusion) (step_insert at_) ?_
  exact not_gone_cached binds (OAuthTokenCache.lookup_updateToken s.cache id token)

theorem not_gone_past {s : TokenTasks} {id : String} {task : TokenTask} (bound : s.Bound)
    (member : task ∈ s.tasks) (past : task.Past id) : ¬ s.Gone id := by
  have binds := bound task member id (.inr past)
  obtain ⟨i, at_⟩ := List.mem_iff_getElem?.mp member
  cases task with
  | called domain => exact past.elim
  | bound other => exact past.elim
  | ended => exact past.elim
  | holds other token =>
    obtain rfl : other = id := past
    exact not_gone_holds at_
  | renews other token blocking =>
    obtain rfl : other = id := past
    exact not_gone_renews binds at_
  | asks other blocking =>
    obtain rfl : other = id := past
    refine not_gone_step (fun _ => TaskEvent.noConfusion) (step_answer (anyToken other) at_) ?_
    exact not_gone_renews binds (getElem?_put (.renews other (anyToken other) blocking) at_)

theorem start_bound (cache : OAuthTokenCache) : (start cache).Bound := by
  intro task member
  cases member

/-- A removal lasts until the next update exactly when no call or refresh has read the tokens for
the registration before it. -/
theorem removeToken_iff (cache : OAuthTokenCache) (before : List TaskEvent) (s s' : TokenTasks)
    (id : String) (ran : Run step (start cache) before = some s)
    (removed : s.step (.remove id) = some s') :
    s'.Gone id ↔ ∀ task ∈ s.tasks, ¬ task.Past id := by
  have kept : ∀ (s : TokenTasks) (e : TaskEvent) (s' : TokenTasks), s.Bound → True →
      s.step e = some s' → s'.Bound :=
    fun _ _ _ bound _ stepped => step_bound bound stepped
  have bound : s.Bound := Run.preserves kept (start_bound cache) (fun _ _ => trivial) ran
  have bound' := step_bound bound removed
  obtain rfl := Option.some.inj removed
  constructor
  · intro gone task member past
    exact not_gone_past bound' member past gone
  · intro none
    exact clear_gone ⟨OAuthTokenCache.lookup_removeToken s.cache id, none⟩

end TokenTasks

def StandIn.mailCache : OAuthTokenCache :=
  { tokens := AList.singleton "mail" (TokenTasks.anyToken "mail")
    bindings := [{ domain := "mail.example", registrationId := "mail", requiredScopes := [] }]
    agentId := "scout", daemonSocket := "daemon.sock", refreshBufferSecs := 60 }

namespace TokenTasks

/-- A removal before the call has looked the token up lasts. -/
theorem removeToken_first :
    ({ cache := StandIn.mailCache.removeToken "mail", tasks := [.bound "mail"] } : TokenTasks).Gone
    "mail" := by
  refine (removeToken_iff StandIn.mailCache [.call "mail.example", .bind 0]
    { cache := StandIn.mailCache, tasks := [.bound "mail"] } _ "mail" rfl rfl).mpr fun task member => ?_
  rw [List.mem_singleton.mp member]
  exact id

/-- A request whose token has expired waits for the daemon while the registration is removed; the
answer is returned and cached. -/
theorem removeToken_overtaken : ¬ ∀ (cache : OAuthTokenCache) (before : List TaskEvent)
    (s s' : TokenTasks) (id : String), Run step (start cache) before = some s →
    s.step (.remove id) = some s' → s'.Gone id := by
  intro gone
  let waiting : TokenTasks := { cache := StandIn.mailCache, tasks := [.asks "mail" true] }
  have ran : Run step (start StandIn.mailCache) [.call "mail.example", .bind 0, .look 0 0 0] =
      some waiting := rfl
  refine not_gone_waits (i := 0) ?_ (gone StandIn.mailCache _ waiting _ "mail" ran rfl)
  rfl

end TokenTasks
end GrokingClawId.Proxy
