import GrokingClawId.Daemon.OauthRuns

/-!
# OAuth delegation

A registration that names a parent is a delegation, which may only narrow what the parent has. The
two checks for this are in `oauth_store.rs`; `oauth_register` puts a registration into the store
without them.
-/

namespace GrokingClawId.Daemon
open GrokingClawId.Core Text

/-! ### The checks -/

section Validate
variable [Unicode]

def validateDelegation (kind : String) (parent requested : List String) : Except String Unit :=
  match requested.find? fun item => !parent.contains item with
  | some item => .error s!"Delegation {kind} '{item}' not in parent {kind}s {debugList parent}"
  | none => .ok ()

def validateDelegationScopes (parentScopes requestedScopes : List String) : Except String Unit :=
  validateDelegation "scope" parentScopes requestedScopes

def validateDelegationDomains (parentDomains requestedDomains : List String) : Except String Unit :=
  validateDelegation "domain" parentDomains requestedDomains

theorem validateDelegation_ok {kind : String} {parent requested : List String} :
    validateDelegation kind parent requested = .ok () ↔ requested ⊆ parent := by
  unfold validateDelegation
  cases found : requested.find? fun item => !parent.contains item with
  | some item =>
    have outside : item ∉ parent := by simpa using List.find?_some found
    exact ⟨nofun, fun subset => absurd (subset (List.mem_of_find?_eq_some found)) outside⟩
  | none =>
    have inside : ∀ item ∈ requested, item ∈ parent := by simpa using List.find?_eq_none.mp found
    exact ⟨fun _ item member => inside item member, fun _ => rfl⟩

end Validate

/-! ### Stores in which delegations narrow -/

structure OAuthRegistration.Below (reg parent : OAuthRegistration) : Prop where
  scopes : reg.scopes ⊆ parent.scopes
  maxScopes : ∀ most, reg.maxScopes = some most → most ⊆ parent.scopes
  domainBindings : reg.domainBindings ⊆ parent.domainBindings

/-- The registration has its parent in the store and takes nothing that the parent does not have. -/
def OAuthStore.Delegated (store : OAuthStore) (reg : OAuthRegistration) : Prop :=
  ∀ parentId, reg.parentRegistrationId = some parentId →
    ∃ parent ∈ store.registrations, parent.id = parentId ∧ reg.Below parent

def OAuthStore.Narrow (store : OAuthStore) : Prop :=
  ∀ reg ∈ store.registrations, store.Delegated reg

/-- What the two checks would accept. -/
def OAuthStore.Validated [Unicode] (store : OAuthStore) (reg : OAuthRegistration) : Prop :=
  ∀ parentId, reg.parentRegistrationId = some parentId →
    ∃ parent ∈ store.registrations, parent.id = parentId ∧
      validateDelegationScopes parent.scopes reg.scopes = .ok () ∧
      (∀ most, reg.maxScopes = some most → validateDelegationScopes parent.scopes most = .ok ()) ∧
      validateDelegationDomains parent.domainBindings reg.domainBindings = .ok ()

theorem OAuthStore.validated_iff [Unicode] {store : OAuthStore} {reg : OAuthRegistration} :
    store.Validated reg ↔ store.Delegated reg := by
  constructor
  · intro validated parentId named
    obtain ⟨parent, member, same, scopes, most, domains⟩ := validated parentId named
    exact ⟨parent, member, same, validateDelegation_ok.mp scopes,
      fun m is => validateDelegation_ok.mp (most m is), validateDelegation_ok.mp domains⟩
  · intro delegated parentId named
    obtain ⟨parent, member, same, below⟩ := delegated parentId named
    exact ⟨parent, member, same, validateDelegation_ok.mpr below.scopes,
      fun m is => validateDelegation_ok.mpr (below.maxScopes m is),
      validateDelegation_ok.mpr below.domainBindings⟩

theorem OAuthStore.Narrow.same {store store' : OAuthStore} (narrow : store.Narrow)
    (same : store'.registrations = store.registrations) : store'.Narrow := by
  intro reg member parentId named
  rw [same] at member ⊢
  exact narrow reg member parentId named

/-- A parent goes only together with its children. -/
theorem OAuthStore.Narrow.pruned {store store' : OAuthStore} (narrow : store.Narrow)
    (pruned : store.Pruned store') : store'.Narrow := by
  intro reg member parentId named
  obtain ⟨parent, listed, same, below⟩ := narrow reg (pruned.sublist.subset member) parentId named
  refine ⟨parent, by_contra fun gone => ?_, same, below⟩
  rw [← same] at named
  exact pruned.severed parent listed gone reg member named

theorem OAuthStore.Narrow.added {store store' : OAuthStore} {reg : OAuthRegistration}
    (narrow : store.Narrow) (added : store'.registrations = store.registrations ++ [reg])
    (delegated : store'.Delegated reg) :
    store'.Narrow := by
  intro other member
  rw [added] at member
  rcases List.mem_append.mp member with before | new
  · intro parentId named
    obtain ⟨parent, listed, same, below⟩ := narrow other before parentId named
    rw [added]
    exact ⟨parent, List.mem_append_left _ listed, same, below⟩
  · rw [List.mem_singleton.mp new]
    exact delegated

theorem OauthCall.Changes.narrow {io : OauthIo} {call : OauthCall} {store store' : OAuthStore}
    (changes : call.Changes io store store') (other : ∀ params, call ≠ .register params)
    (narrow : store.Narrow) : store'.Narrow := by
  cases call with
  | register params => exact absurd rfl (other params)
  | revoke id => exact narrow.pruned changes.1
  | authorize id => exact narrow.same changes
  | callback id code codeVerifier redirectUri => exact narrow.same changes
  | refresh id => exact narrow.same changes
  | exchange id => exact narrow.same changes

/-! ### Sequences of methods -/

section Runs
variable [Aead] [Hkdf] [StoreFormat]

/-- The method puts its registration into the store, which becomes `store'`. -/
def Registered (dir : AgentDir) (agentName : String) (file : SealedFile) (params : Json)
    (io : OauthIo) (store' : OAuthStore) : Prop :=
  ∃ store key bytes, loadOauthStore dir agentName file io.fresh = .ok (store, key) ∧
    store.registerProvider (registrationOf params io) = .ok store' ∧
    store'.save (OAuthStore.storePath s!"agents/{agentName}") key io.save = .ok bytes

theorem register_exec (dir : AgentDir) (agentName : String) (params : Json) (io : OauthIo)
    (file : SealedFile) :
    ((oauthRegister dir agentName params io).exec file).2 = file ∨
      ∃ store', Registered dir agentName file params io store' := by
  unfold oauthRegister
  cases loaded : loadOauthStore dir agentName file io.fresh with
  | error e =>
    rw [withStore_error loaded]
    exact .inl rfl
  | ok opened =>
    obtain ⟨store, key⟩ := opened
    rw [withStore_ok loaded]
    dsimp only
    cases added : store.registerProvider (registrationOf params io) with
    | error e => exact .inl rfl
    | ok store' =>
      cases saved : store'.save (OAuthStore.storePath s!"agents/{agentName}") key io.save with
      | error e =>
        left
        simp only [saveOauthStore, saved, fail, Program.exec]
      | ok bytes => exact .inr ⟨store', store, key, bytes, loaded, added, saved⟩

theorem Registered.reloaded (correct : Aead.Correct) (format : StoreFormat.RoundTrip)
    {dir : AgentDir} {agentName : String} {file : SealedFile} {params : Json} {io : OauthIo}
    {store' : OAuthStore} (registered : Registered dir agentName file params io store') :
    ∃ key, ∀ fresh,
      loadOauthStore dir agentName ((oauthRegister dir agentName params io).exec file).2 fresh =
        .ok (store', key) := by
  obtain ⟨store, key, bytes, loaded, added, saved⟩ := registered
  have after : ((oauthRegister dir agentName params io).exec file).2 = .content bytes := by
    unfold oauthRegister saveOauthStore
    rw [withStore_ok loaded]
    simp only [added, saved, Program.exec]
  rw [after]
  exact ⟨key, loadOauthStore_save correct format loaded saved⟩

theorem Registered.holds (correct : Aead.Correct) (format : StoreFormat.RoundTrip) {dir : AgentDir}
    {agentName : String} {file : SealedFile} {params : Json} {io : OauthIo} {store' : OAuthStore}
    {P : OAuthStore → Prop} (registered : Registered dir agentName file params io store') :
    Holds dir agentName P ((oauthRegister dir agentName params io).exec file).2 ↔ P store' := by
  obtain ⟨key, reloaded⟩ := registered.reloaded correct format
  refine ⟨fun holds => holds _ _ _ (reloaded Uuid.nil), fun holds fresh opened key' loaded => ?_⟩
  rw [reloaded fresh] at loaded
  rw [← (Prod.mk.inj (Except.ok.inj loaded)).1]
  exact holds

theorem absent_narrow (dir : AgentDir) (agentName : String) :
    Holds dir agentName OAuthStore.Narrow .absent :=
  holds_absent (fun _ _ none => absurd none List.not_mem_nil) dir agentName

variable [FromStr TokenResponse] [Ed25519]

/-- One method after another, each with what it draws and is answered. -/
def oauthStep (dir : AgentDir) (agentName : String) (file : SealedFile)
    (event : OauthCall × OauthIo) :
    Option SealedFile :=
  some ((event.1.program dir agentName event.2).exec file).2

/-- A registration that is put into the store would pass the checks there. -/
def Checked [Unicode] (dir : AgentDir) (agentName : String) (file : SealedFile)
    (event : OauthCall × OauthIo) :
    Prop :=
  ∀ params store', event.1 = .register params → Registered dir agentName file params event.2 store' →
    store'.Validated (registrationOf params event.2)

theorem oauthStep_narrow_iff [Unicode] (correct : Aead.Correct) (format : StoreFormat.RoundTrip)
    {dir : AgentDir} {agentName : String} {file : SealedFile} (event : OauthCall × OauthIo)
    (narrow : Holds dir agentName OAuthStore.Narrow file) :
    Holds dir agentName OAuthStore.Narrow ((event.1.program dir agentName event.2).exec file).2 ↔
      Checked dir agentName file event := by
  obtain ⟨call, io⟩ := event
  constructor
  · rintro after params store' rfl registered
    have narrow' : store'.Narrow := (registered.holds correct format).mp after
    obtain ⟨store, _, _, _, added, _⟩ := registered
    apply OAuthStore.validated_iff.mpr
    apply narrow'
    rw [(OAuthStore.registerProvider_ok added).2]
    exact List.mem_append_right _ (List.mem_singleton_self _)
  · intro checked
    by_cases new : ∃ params, call = .register params
    · obtain ⟨params, rfl⟩ := new
      show Holds dir agentName _ ((oauthRegister dir agentName params io).exec file).2
      rcases register_exec dir agentName params io file with same | ⟨store', registered⟩
      · rw [same]
        exact narrow
      · have validated := checked params store' rfl registered
        refine (registered.holds correct format).mpr ?_
        obtain ⟨store, _, _, loaded, added, _⟩ := registered
        exact (narrow _ _ _ loaded).added (OAuthStore.registerProvider_ok added).2
          (OAuthStore.validated_iff.mp validated)
    · have other : ∀ params, call ≠ .register params := fun params same => new ⟨params, same⟩
      exact (program_outcomes dir agentName io call file).holds correct format
        (fun store store' changes => changes.narrow other) narrow

/-- Every store on the way is narrow exactly when every registration that was put into one would
have passed the checks. -/
theorem narrow_iff [Unicode] (correct : Aead.Correct) (format : StoreFormat.RoundTrip)
    (dir : AgentDir) (agentName : String) (events : List (OauthCall × OauthIo)) :
    (∀ before file, before <+: events → Run (oauthStep dir agentName) .absent before = some file →
      Holds dir agentName OAuthStore.Narrow file) ↔
    Run.Each (oauthStep dir agentName) (Checked dir agentName) .absent events := by
  have exact : ∀ file event file', Holds dir agentName OAuthStore.Narrow file →
      oauthStep dir agentName file event = some file' →
      (Run.Leads (oauthStep dir agentName) (Holds dir agentName OAuthStore.Narrow) file event ↔
        Checked dir agentName file event) := by
    intro file event file' narrow _
    rw [← oauthStep_narrow_iff correct format event narrow]
    exact ⟨fun leads => leads _ rfl, fun after other same => Option.some.inj same ▸ after⟩
  have kept : ∀ file event file', Holds dir agentName OAuthStore.Narrow file →
      Checked dir agentName file event → oauthStep dir agentName file event = some file' →
      Holds dir agentName OAuthStore.Narrow file' := by
    intro file event file' narrow checked stepped
    rw [← Option.some.inj stepped]
    exact (oauthStep_narrow_iff correct format event narrow).mpr checked
  rw [Run.reached_iff, Run.each_iff kept exact (absent_narrow dir agentName)]
  exact and_iff_right (absent_narrow dir agentName)

end Runs

namespace StandIn
open Core.StandIn

/-- A delegation of something that is not there. -/
def orphan : Json := .obj [("registration_id", .str "child"), ("parent_registration_id", .str "nobody")]

def root : Json := .obj [("registration_id", .str "root")]

theorem registered_fresh (params : Json) : Registered agentDir "scout" .absent params oauthIo
    ⟨1, Uuid.nil.toText, [registrationOf params oauthIo], []⟩ :=
  ⟨_, _, _, agentDir_loads "scout", rfl, rfl⟩

theorem narrow_iff_root :
    letI := tokenResponses
    ∃ file, Run (oauthStep agentDir "scout") .absent [(OauthCall.register root, oauthIo)] =
      some file ∧
      Holds agentDir "scout" OAuthStore.Narrow file := by
  let := tokenResponses
  have narrow := narrow_iff aead_correct storeFormat_roundTrip agentDir "scout"
    [(OauthCall.register root, oauthIo)]
  refine ⟨_, rfl, narrow.mpr ?_ _ _ (List.prefix_refl _) rfl⟩
  refine fun file _ => ⟨?_, trivial⟩
  rintro params store' same registered parentId named
  obtain rfl := OauthCall.register.inj same
  cases named

/-- A registration may name a parent that does not exist, and have any scopes under it. -/
theorem orphan_registered :
    letI := tokenResponses
    ¬ ∀ (dir : AgentDir) (agentName : String) (events : List (OauthCall × OauthIo))
      (file : SealedFile),
      Run (oauthStep dir agentName) .absent events = some file →
      Holds dir agentName OAuthStore.Narrow file := by
  let := tokenResponses
  intro narrow
  have after := narrow agentDir "scout" [(.register orphan, oauthIo)] _ rfl
  have narrow' := ((registered_fresh orphan).holds aead_correct storeFormat_roundTrip).mp after
  obtain ⟨parent, member, named, _⟩ :=
    narrow' (registrationOf orphan oauthIo) (List.mem_singleton_self _) "nobody" rfl
  rw [List.mem_singleton.mp member] at named
  exact absurd named (by decide)

end StandIn
end GrokingClawId.Daemon
