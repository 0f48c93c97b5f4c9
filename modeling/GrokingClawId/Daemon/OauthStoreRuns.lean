import GrokingClawId.Lib.Run
import GrokingClawId.Daemon.OauthCascade
import GrokingClawId.Daemon.OauthMethods

/-!
# Runs of the token store

The methods of `oauth_store.rs` that change the store in place, in any order. The registrations keep
distinct identifiers, and every token keeps to one of them.
-/

namespace GrokingClawId.Daemon
open GrokingClawId.Core

/-! ### The methods in place -/

/-- A method on `&mut self`. An error leaves the store as it was when the error was met. -/
abbrev StoreM := EStateM String OAuthStore Unit

namespace StoreM

def registerProvider (reg : OAuthRegistration) : StoreM := do
  let store ← get
  if store.registrations.any fun r => r.id = reg.id then
    throw s!"Registration '{reg.id}' already exists"
  modify fun store => { store with registrations := store.registrations ++ [reg] }

def storeTokens (tokens : StoredOAuthTokens) : StoreM := do
  let store ← get
  if !store.registrations.any fun r => r.id = tokens.registrationId then
    throw s!"Registration '{tokens.registrationId}' not found"
  modify fun store =>
    { store with tokens := store.tokens.filter fun t => t.registrationId ≠ tokens.registrationId }
  modify fun store => { store with tokens := store.tokens ++ [tokens] }

def removeRegistration (registrationId : String) : StoreM := do
  let existed := (← get).registrations.any fun r => r.id = registrationId
  if !existed then
    throw s!"Registration '{registrationId}' not found"
  modify fun store =>
    { store with registrations := store.registrations.filter fun r => r.id ≠ registrationId }
  modify fun store =>
    { store with tokens := store.tokens.filter fun t => t.registrationId ≠ registrationId }

/-- What a method comes to that makes a store or fails. -/
def settle (store : OAuthStore) : Except String OAuthStore → EStateM.Result String OAuthStore Unit
  | .ok store => .ok () store
  | .error e => .error e store

theorem registerProvider_run (reg : OAuthRegistration) (store : OAuthStore) :
    (registerProvider reg).run store = settle store (store.registerProvider reg) := by
  unfold registerProvider OAuthStore.registerProvider
  simp only [EStateM.run_bind, EStateM.run_get]
  split <;> rfl

theorem storeTokens_run (tokens : StoredOAuthTokens) (store : OAuthStore) :
    (storeTokens tokens).run store = settle store (store.storeTokens tokens) := by
  unfold storeTokens OAuthStore.storeTokens
  simp only [EStateM.run_bind, EStateM.run_get]
  split <;> rfl

theorem removeRegistration_run (registrationId : String) (store : OAuthStore) :
    (removeRegistration registrationId).run store =
      settle store (store.removeRegistration registrationId) := by
  unfold removeRegistration OAuthStore.removeRegistration
  simp only [EStateM.run_bind, EStateM.run_get]
  split <;> rfl

theorem settle_error {store after : OAuthStore} {result : Except String OAuthStore} {e : String}
    (failed : settle store result = .error e after) : after = store := by
  cases result with
  | ok next => cases failed
  | error e' => exact (EStateM.Result.error.inj failed).2.symm

theorem settle_ok {store after : OAuthStore} {result : Except String OAuthStore}
    (done : settle store result = .ok () after) : result = .ok after := by
  cases result with
  | ok next => rw [(EStateM.Result.ok.inj done).2]
  | error e => cases done

end StoreM

inductive StoreCall where
  | register (reg : OAuthRegistration)
  | storeTokens (tokens : StoredOAuthTokens)
  | remove (registrationId : String)
  | cascade (parentRegistrationId : String)

/-- A cascade that the stack is too low for does not end. -/
def StoreCall.exec (frames : Nat) :
    StoreCall → OAuthStore → Option (EStateM.Result String OAuthStore Unit)
  | .register reg, store => some ((StoreM.registerProvider reg).run store)
  | .storeTokens tokens, store => some ((StoreM.storeTokens tokens).run store)
  | .remove registrationId, store => some ((StoreM.removeRegistration registrationId).run store)
  | .cascade id, store => (store.cascadeRemove frames id).map (.ok ())

/-- The store after a call, which may have failed. -/
def storeAfter : EStateM.Result String OAuthStore Unit → OAuthStore
  | .ok _ store => store
  | .error _ store => store

/-- One call after another, each with the height of the stack. -/
def storeStep (store : OAuthStore) (event : StoreCall × Nat) : Option OAuthStore :=
  (event.1.exec event.2 store).map storeAfter

/-! ### The invariant -/

namespace OAuthStore

structure Sound (store : OAuthStore) : Prop where
  distinct : store.Distinct
  single : (store.tokens.map StoredOAuthTokens.registrationId).Nodup
  registered : ∀ t ∈ store.tokens, ∃ reg ∈ store.registrations, reg.id = t.registrationId

theorem new_sound (agentId : Uuid) : (new agentId).Sound :=
  ⟨List.nodup_nil, List.nodup_nil, fun _ none => absurd none List.not_mem_nil⟩

/-- Registrations and tokens may go as long as no token loses its registration. -/
theorem Sound.fewer {store store' : OAuthStore} (sound : store.Sound)
    (registrations : store'.registrations.Sublist store.registrations)
    (tokens : store'.tokens.Sublist store.tokens)
    (kept : ∀ t ∈ store'.tokens, ∀ reg ∈ store.registrations, reg.id = t.registrationId →
      reg ∈ store'.registrations) : store'.Sound := by
  refine ⟨sound.distinct.sublist (registrations.map _), sound.single.sublist (tokens.map _), ?_⟩
  intro t member
  obtain ⟨reg, listed, same⟩ := sound.registered t (tokens.subset member)
  exact ⟨reg, kept t member reg listed same, same⟩

theorem Sound.register {store store' : OAuthStore} {reg : OAuthRegistration} (sound : store.Sound)
    (ok : store.registerProvider reg = .ok store') : store'.Sound := by
  obtain ⟨new, added⟩ := registerProvider_ok ok
  have tokens : store'.tokens = store.tokens := by
    unfold registerProvider at ok
    split at ok
    · cases ok
    · rw [← Except.ok.inj ok]
  constructor
  · rw [Distinct, added, List.map_append, List.map_singleton, ← List.concat_eq_append,
      List.nodup_concat]
    refine ⟨fun member => ?_, sound.distinct⟩
    obtain ⟨r, listed, named⟩ := List.mem_map.mp member
    exact new r listed named
  · rw [tokens]
    exact sound.single
  · intro t member
    rw [tokens] at member
    obtain ⟨owner, listed, same⟩ := sound.registered t member
    rw [added]
    exact ⟨owner, List.mem_append_left _ listed, same⟩

theorem storeTokens_stored {store store' : OAuthStore} {tokens : StoredOAuthTokens}
    (ok : store.storeTokens tokens = .ok store') :
    (∃ reg ∈ store.registrations, reg.id = tokens.registrationId) ∧
      store'.tokens =
        (store.tokens.filter fun t => t.registrationId ≠ tokens.registrationId) ++ [tokens] := by
  unfold storeTokens at ok
  split at ok
  · cases ok
  · rename_i known
    refine ⟨by simpa using known, ?_⟩
    rw [← Except.ok.inj ok]

theorem Sound.storeTokens {store store' : OAuthStore} {tokens : StoredOAuthTokens}
    (sound : store.Sound) (ok : store.storeTokens tokens = .ok store') : store'.Sound := by
  have registrations := storeTokens_ok ok
  obtain ⟨⟨owner, listed, named⟩, stored⟩ := storeTokens_stored ok
  constructor
  · rw [Distinct, registrations]
    exact sound.distinct
  · rw [stored, List.map_append, List.map_singleton, ← List.concat_eq_append, List.nodup_concat]
    refine ⟨fun member => ?_, sound.single.sublist (List.filter_sublist.map _)⟩
    obtain ⟨t, left, same⟩ := List.mem_map.mp member
    exact absurd same (by simpa using (List.mem_filter.mp left).2)
  · intro t member
    rw [stored] at member
    rw [registrations]
    rcases List.mem_append.mp member with other | new
    · exact sound.registered t (List.mem_filter.mp other).1
    · rw [List.mem_singleton.mp new]
      exact ⟨owner, listed, named⟩

theorem Sound.remove {store store' : OAuthStore} {id : String} (sound : store.Sound)
    (ok : store.removeRegistration id = .ok store') : store'.Sound := by
  unfold removeRegistration at ok
  split at ok
  · cases ok
  · obtain rfl := Except.ok.inj ok
    refine sound.fewer List.filter_sublist List.filter_sublist fun t member reg listed same => ?_
    refine List.mem_filter.mpr ⟨listed, ?_⟩
    rw [same]
    exact (List.mem_filter.mp member).2

theorem Sound.cascade {store store' : OAuthStore} {frames : Nat} {id : String} (sound : store.Sound)
    (ended : store.cascadeRemove frames id = some store') : store'.Sound := by
  obtain rfl := cascadeRemove_some ended
  refine sound.fewer List.filter_sublist List.filter_sublist fun t member reg listed same => ?_
  have kept := (mem_withoutDescendants_tokens.mp member).2
  exact mem_withoutDescendants.mpr ⟨listed, fun below => kept ⟨reg, below, same.symm⟩⟩

/-- Tokens that were stored are found, and those of the other registrations are the same. -/
theorem getTokens_storeTokens {store store' : OAuthStore} {tokens : StoredOAuthTokens}
    (ok : store.storeTokens tokens = .ok store') :
    store'.getTokens tokens.registrationId = some tokens ∧
      ∀ id, id ≠ tokens.registrationId → store'.getTokens id = store.getTokens id := by
  obtain ⟨-, stored⟩ := storeTokens_stored ok
  constructor
  · have gone : (store.tokens.filter fun t => t.registrationId ≠ tokens.registrationId).find?
        (fun t => t.registrationId = tokens.registrationId) = none := by
      refine List.find?_eq_none.mpr fun t member => ?_
      simpa using (List.mem_filter.mp member).2
    rw [getTokens, stored, List.find?_append, gone]
    simp
  · intro id other
    have last : [tokens].find? (fun t => t.registrationId = id) = none := by
      simpa using Ne.symm other
    rw [getTokens, stored, List.find?_append, last, Option.or_none, List.find?_filter, getTokens]
    congr 1
    funext t
    by_cases named : t.registrationId = id
    · simp [named, other]
    · simp [named]

end OAuthStore

theorem storeStep_sound {store store' : OAuthStore} {event : StoreCall × Nat} (sound : store.Sound)
    (stepped : storeStep store event = some store') : store'.Sound := by
  obtain ⟨call, frames⟩ := event
  have settled (result : Except String OAuthStore)
      (kept : ∀ next, result = .ok next → next.Sound) :
      (storeAfter (StoreM.settle store result)).Sound := by
    cases result with
    | ok next => exact kept next rfl
    | error e => exact sound
  cases call with
  | register reg =>
    obtain rfl := Option.some.inj stepped
    rw [StoreM.registerProvider_run]
    exact settled _ fun next ok => sound.register ok
  | storeTokens tokens =>
    obtain rfl := Option.some.inj stepped
    rw [StoreM.storeTokens_run]
    exact settled _ fun next ok => sound.storeTokens ok
  | remove id =>
    obtain rfl := Option.some.inj stepped
    rw [StoreM.removeRegistration_run]
    exact settled _ fun next ok => sound.remove ok
  | cascade id =>
    obtain ⟨_, ended, rfl⟩ := Option.map_eq_some_iff.mp stepped
    obtain ⟨next, cascaded, rfl⟩ := Option.map_eq_some_iff.mp ended
    exact sound.cascade cascaded

theorem exec_error {call : StoreCall} {frames : Nat} {store after : OAuthStore} {e : String}
    (failed : call.exec frames store = some (.error e after)) : after = store := by
  cases call with
  | register reg =>
    exact StoreM.settle_error ((StoreM.registerProvider_run reg store).symm.trans (Option.some.inj failed))
  | storeTokens tokens =>
    exact StoreM.settle_error ((StoreM.storeTokens_run tokens store).symm.trans (Option.some.inj failed))
  | remove id =>
    exact StoreM.settle_error ((StoreM.removeRegistration_run id store).symm.trans (Option.some.inj failed))
  | cascade id =>
    obtain ⟨_, _, impossible⟩ := Option.map_eq_some_iff.mp failed
    cases impossible

/-- Whatever is called on a new store, in any order: the registrations have distinct identifiers and
the tokens one registration each, a call that fails changes nothing, and stored tokens are found. -/
theorem storeRun_sound {agentId : Uuid} {events : List (StoreCall × Nat)} {store : OAuthStore}
    (ran : Run storeStep (OAuthStore.new agentId) events = some store) :
    store.Sound ∧
      (∀ (call : StoreCall) frames e after, call.exec frames store = some (.error e after) →
        after = store) ∧
      ∀ tokens after, (StoreM.storeTokens tokens).run store = .ok () after →
        after.getTokens tokens.registrationId = some tokens ∧
          ∀ id, id ≠ tokens.registrationId → after.getTokens id = store.getTokens id := by
  refine ⟨?_, fun _ _ _ _ failed => exec_error failed, ?_⟩
  · exact Run.preserves (fun _ _ _ sound _ stepped => storeStep_sound sound stepped)
      (OAuthStore.new_sound agentId) (fun _ _ => trivial) ran
  · intro tokens after done
    rw [StoreM.storeTokens_run] at done
    exact OAuthStore.getTokens_storeTokens (StoreM.settle_ok done)

namespace StandIn

/-- A child with tokens, a registration that fails, and a cascade from the parent. -/
def storeCalls : List (StoreCall × Nat) :=
  [(.register (delegated "root" none), 0), (.register (delegated "child" (some "root")), 0),
    (.storeTokens (bearer "child"), 0), (.storeTokens (bearer "root"), 0),
    (.register (delegated "root" (some "child")), 0), (.cascade "root", 2)]

theorem storeRun_sound_family : ∃ store,
    Run storeStep (OAuthStore.new Uuid.nil) storeCalls = some store ∧
      store.registrations = [delegated "root" none] ∧ store.tokens = [bearer "root"] ∧
      store.Sound := by
  have ran : Run storeStep (OAuthStore.new Uuid.nil) storeCalls = some
      { OAuthStore.new Uuid.nil with
        registrations := [delegated "root" none], tokens := [bearer "root"] } := by rfl
  exact ⟨_, ran, rfl, rfl, (storeRun_sound ran).1⟩

end StandIn
end GrokingClawId.Daemon
