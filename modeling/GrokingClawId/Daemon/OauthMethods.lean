import GrokingClawId.Daemon.Oauth

/-!
# OAuth methods on their own

What each method does to the store of its agent, where it loads and where it saves.
-/

namespace GrokingClawId.Daemon
open GrokingClawId.Core Text

/-! ### What a method does to the store -/

namespace OAuthStore

/-- The identifiers of the registrations differ, as `register_provider` makes sure. -/
def Distinct (store : OAuthStore) : Prop := (store.registrations.map OAuthRegistration.id).Nodup

theorem getRegistration_id {store : OAuthStore} {id : String} {reg : OAuthRegistration}
    (found : store.getRegistration id = some reg) : reg ∈ store.registrations ∧ reg.id = id :=
  ⟨List.mem_of_find?_eq_some found, of_decide_eq_true (List.find?_eq_some_iff_append.mp found).1⟩

theorem getRegistration_none {store : OAuthStore} {id : String} :
    store.getRegistration id = none ↔ ∀ reg ∈ store.registrations, reg.id ≠ id := by
  simp [getRegistration, List.find?_eq_none]

theorem storeTokens_ok {store store' : OAuthStore} {tokens : StoredOAuthTokens}
    (ok : store.storeTokens tokens = .ok store') : store'.registrations = store.registrations := by
  unfold storeTokens at ok
  split at ok
  · cases ok
  · rw [← Except.ok.inj ok]

theorem storeTokens_missing {store : OAuthStore} {tokens : StoredOAuthTokens}
    (missing : store.getRegistration tokens.registrationId = none) :
    store.storeTokens tokens = .error s!"Registration '{tokens.registrationId}' not found" := by
  have none : (store.registrations.any fun r => r.id = tokens.registrationId) = false := by
    simpa using getRegistration_none.mp missing
  simp only [storeTokens, none, Bool.not_false, if_true]

/-- There are fewer registrations, and none below one that went. -/
structure Pruned (store store' : OAuthStore) : Prop where
  sublist : store'.registrations.Sublist store.registrations
  severed : ∀ gone ∈ store.registrations, gone ∉ store'.registrations →
    ∀ reg ∈ store'.registrations, reg.parentRegistrationId ≠ some gone.id

theorem Pruned.refl (store : OAuthStore) : store.Pruned store :=
  ⟨List.Sublist.refl _, fun _ member missing => absurd member missing⟩

theorem Pruned.trans {store middle store' : OAuthStore} (first : store.Pruned middle)
    (second : middle.Pruned store') : store.Pruned store' := by
  refine ⟨second.sublist.trans first.sublist, fun gone member missing reg left => ?_⟩
  by_cases between : gone ∈ middle.registrations
  · exact second.severed gone between missing reg left
  · exact first.severed gone member between reg (second.sublist.subset left)

/-- Registrations go from a store in which nothing is below them. -/
theorem pruned_filter {store store' : OAuthStore} {keep : OAuthRegistration → Bool}
    (left : store'.registrations = store.registrations.filter keep)
    (leaf : ∀ gone ∈ store.registrations, keep gone = false →
      ∀ reg ∈ store.registrations, reg.parentRegistrationId ≠ some gone.id) :
        store.Pruned store' := by
  have sublist : store'.registrations.Sublist store.registrations := by
    rw [left]
    exact List.filter_sublist
  refine ⟨sublist, fun gone member missing reg listed => ?_⟩
  rw [left] at missing
  have dropped : keep gone = false := by
    rw [← Bool.not_eq_true]
    exact fun kept => missing (List.mem_filter.mpr ⟨member, kept⟩)
  exact leaf gone member dropped reg (sublist.subset listed)

/-- A cascade leaves nothing below the registration and nothing below what it removes. -/
theorem cascadeRemove_pruned {frames : Nat} {store store' : OAuthStore} {id : String}
    (ok : cascadeRemove frames store id = some store') :
    store.Pruned store' ∧ ∀ reg ∈ store'.registrations, reg.parentRegistrationId ≠ some id := by
  induction frames generalizing store store' id with
  | zero => cases ok
  | succ frames ih =>
    have fold : ∀ (ids : List String) (start last : OAuthStore),
        ids.foldlM (cascadeRemove frames) start = some last →
        start.Pruned last ∧ ∀ child ∈ ids, ∀ reg ∈ last.registrations,
          reg.parentRegistrationId ≠ some child := by
      intro ids
      induction ids with
      | nil =>
        intro start last done
        rw [← Option.some.inj done]
        exact ⟨Pruned.refl start, fun child none => absurd none List.not_mem_nil⟩
      | cons child ids step =>
        intro start last done
        obtain ⟨next, first, rest⟩ := Option.bind_eq_some_iff.mp done
        obtain ⟨pruned, below⟩ := ih first
        obtain ⟨later, others⟩ := step next last rest
        refine ⟨pruned.trans later, fun other listed reg member => ?_⟩
        rcases List.mem_cons.mp listed with rfl | listed
        · exact below reg (later.sublist.subset member)
        · exact others other listed reg member
    obtain ⟨last, folded, removed⟩ := Option.bind_eq_some_iff.mp ok
    obtain ⟨pruned, childless⟩ := fold _ _ _ folded
    rw [← Option.some.inj removed]
    refine ⟨pruned.trans (pruned_filter rfl fun gone member dropped reg listed => ?_), fun reg member => ?_⟩
    · -- What goes at the end is a child, and was a child at the beginning.
      have child : gone.parentRegistrationId = some id := by simpa using dropped
      have listed' : gone.id ∈ store.childIds id :=
        List.mem_map_of_mem (List.mem_filter.mpr ⟨pruned.sublist.subset member, decide_eq_true child⟩)
      exact childless gone.id listed' reg listed
    · exact of_decide_eq_true (List.mem_filter.mp member).2

theorem removeRegistration_ok {store store' : OAuthStore} {id : String}
    (ok : store.removeRegistration id = .ok store') :
    store'.registrations = store.registrations.filter fun r => r.id ≠ id := by
  unfold removeRegistration at ok
  split at ok
  · cases ok
  · rw [← Except.ok.inj ok]

theorem registerProvider_ok {store store' : OAuthStore} {reg : OAuthRegistration}
    (ok : store.registerProvider reg = .ok store') :
    (∀ r ∈ store.registrations, r.id ≠ reg.id) ∧
      store'.registrations = store.registrations ++ [reg] := by
  unfold registerProvider at ok
  split at ok
  · cases ok
  · rename_i new
    refine ⟨by simpa using new, ?_⟩
    rw [← Except.ok.inj ok]

end OAuthStore

/-- What a method that saves has changed in the store that it loaded last. -/
def OauthCall.Changes (io : OauthIo) : OauthCall → OAuthStore → OAuthStore → Prop
  | .register params, store, store' =>
    (∀ r ∈ store.registrations, r.id ≠ (registrationOf params io).id) ∧
      store'.registrations = store.registrations ++ [registrationOf params io]
  | .revoke id, store, store' =>
    store.Pruned store' ∧ ∀ r ∈ store'.registrations, r.id ≠ id
  | _, store, store' => store'.registrations = store.registrations

theorem OauthCall.Changes.keeps {io : OauthIo} {call : OauthCall} {store store' : OAuthStore}
    (changes : call.Changes io store store') (distinct : store.Distinct) {id : String}
    {reg : OAuthRegistration} (found : store.getRegistration id = some reg) :
    store'.getRegistration id = some reg ∨ store'.getRegistration id = none := by
  have same : store'.registrations = store.registrations →
      store'.getRegistration id = some reg := by
    intro same
    rw [OAuthStore.getRegistration, same]
    exact found
  cases call with
  | register params =>
    left
    rw [OAuthStore.getRegistration, changes.2, List.find?_append]
    exact Option.or_eq_some_iff.mpr (.inl found)
  | revoke other =>
    cases found' : store'.getRegistration id with
    | none => exact .inr rfl
    | some reg' =>
      obtain ⟨member, named⟩ := OAuthStore.getRegistration_id found
      obtain ⟨member', named'⟩ := OAuthStore.getRegistration_id found'
      have one := List.inj_on_of_nodup_map distinct (changes.1.sublist.subset member') member
          (named'.trans named.symm)
      exact .inl (congrArg some one)
  | authorize other => exact .inl (same changes)
  | callback other code codeVerifier redirectUri => exact .inl (same changes)
  | refresh other => exact .inl (same changes)
  | exchange other => exact .inl (same changes)

theorem OauthCall.Changes.distinct {io : OauthIo} {call : OauthCall} {store store' : OAuthStore}
    (changes : call.Changes io store store') (distinct : store.Distinct) : store'.Distinct := by
  have same : store'.registrations = store.registrations → store'.Distinct := by
    intro same
    rw [OAuthStore.Distinct, same]
    exact distinct
  cases call with
  | register params =>
    rw [OAuthStore.Distinct, changes.2, List.map_append, List.map_singleton,
      ← List.concat_eq_append, List.nodup_concat]
    refine ⟨fun member => ?_, distinct⟩
    obtain ⟨r, listed, named⟩ := List.mem_map.mp member
    exact changes.1 r listed named
  | revoke id => exact distinct.sublist (changes.1.sublist.map _)
  | authorize id => exact same changes
  | callback id code codeVerifier redirectUri => exact same changes
  | refresh id => exact same changes
  | exchange id => exact same changes

def OauthCall.Registers (io : OauthIo) (id : String) : OauthCall → Prop
  | .register params => (registrationOf params io).id = id
  | _ => False

theorem OauthCall.Changes.absent {io : OauthIo} {call : OauthCall} {store store' : OAuthStore}
    {id : String} (changes : call.Changes io store store') (other : ¬ call.Registers io id)
    (absent : ∀ reg ∈ store.registrations, reg.id ≠ id) :
    ∀ reg ∈ store'.registrations, reg.id ≠ id := by
  have same : store'.registrations = store.registrations →
      ∀ reg ∈ store'.registrations, reg.id ≠ id := by
    intro same
    rw [same]
    exact absent
  cases call with
  | register params =>
    intro reg member
    rw [changes.2] at member
    rcases List.mem_append.mp member with before | new
    · exact absent reg before
    · rw [List.mem_singleton.mp new]
      exact other
  | revoke revoked => exact fun reg member => absent reg (changes.1.sublist.subset member)
  | authorize id => exact same changes
  | callback id code codeVerifier redirectUri => exact same changes
  | refresh id => exact same changes
  | exchange id => exact same changes

/-! ### Where a method saves -/

theorem fail_tail (message : String) : (fail message).Tail := trivial

theorem ask_tail {tokens : Outcome StoredOAuthTokens} {next : StoredOAuthTokens → OauthProgram}
    (tail : ∀ tokens, (next tokens).Tail) : (ask tokens next).Tail := by
  cases tokens with
  | error fault => trivial
  | ok tokens => exact tail tokens

theorem registered_tail {store : OAuthStore} {id : String} {next : OAuthRegistration → OauthProgram}
    (tail : ∀ reg, (next reg).Tail) : (registered store id next).Tail := by
  unfold registered
  cases store.getRegistration id with
  | none => exact fail_tail _
  | some reg => exact tail reg

/-- The file is left as it is, or a store is saved of which `R` holds. -/
def Leaves [Aead] [Hkdf] [StoreFormat] (R : OAuthStore → Prop) (signingKey : Core.Bytes 32)
    (file : SealedFile) (program : OauthProgram) : Prop :=
  (program.exec file).2 = file ∨
    ∃ store path io bytes, R store ∧ OAuthStore.save store path signingKey io = .ok bytes ∧
      (program.exec file).2 = .content bytes

section Methods
variable [Aead] [Hkdf] [StoreFormat]

theorem saveOauthStore_tail (agentName : String) (store : OAuthStore) (key : Core.Bytes 32)
    (io : OauthIo) (result : Json) : (saveOauthStore agentName store key io result).Tail := by
  unfold saveOauthStore
  cases store.save (OAuthStore.storePath s!"agents/{agentName}") key io.save with
  | error e => exact fail_tail _
  | ok bytes => trivial

theorem keepTokens_tail (agentName : String) (store : OAuthStore) (key : Core.Bytes 32)
    (tokens : StoredOAuthTokens) (io : OauthIo) (result : Json) :
    (keepTokens agentName store key tokens io result).Tail := by
  unfold keepTokens
  cases store.storeTokens tokens with
  | error e => exact fail_tail _
  | ok store => exact saveOauthStore_tail agentName store key io result

theorem removeAll_tail (agentName id : String) (store : OAuthStore) (key : Core.Bytes 32)
    (io : OauthIo) :
    (removeAll agentName id store key io).Tail := by
  unfold removeAll
  cases store.cascadeRemove io.frames id with
  | none => trivial
  | some store =>
    dsimp only
    cases store.removeRegistration id with
    | error e => exact fail_tail _
    | ok store => exact saveOauthStore_tail agentName store key io _

theorem leaves_fail {R : OAuthStore → Prop} {key : Core.Bytes 32} {file : SealedFile}
    (message : String) :
    Leaves R key file (fail message) := .inl rfl

theorem leaves_ask {R : OAuthStore → Prop} {key : Core.Bytes 32} {file : SealedFile}
    {tokens : Outcome StoredOAuthTokens} {next : StoredOAuthTokens → OauthProgram}
    (leaves : ∀ tokens, Leaves R key file (next tokens)) : Leaves R key file (ask tokens next) := by
  cases tokens with
  | error fault => exact .inl rfl
  | ok tokens => exact leaves tokens

theorem leaves_registered {R : OAuthStore → Prop} {key : Core.Bytes 32} {file : SealedFile}
    {store : OAuthStore} {id : String} {next : OAuthRegistration → OauthProgram}
    (leaves : ∀ reg, Leaves R key file (next reg)) :
    Leaves R key file (registered store id next) := by
  unfold registered
  cases store.getRegistration id with
  | none => exact leaves_fail _
  | some reg => exact leaves reg

theorem leaves_save {R : OAuthStore → Prop} {key : Core.Bytes 32} {file : SealedFile}
    {agentName : String} {store : OAuthStore} {io : OauthIo} {result : Json} (holds : R store) :
    Leaves R key file (saveOauthStore agentName store key io result) := by
  unfold saveOauthStore
  cases saved : store.save (OAuthStore.storePath s!"agents/{agentName}") key io.save with
  | error e => exact leaves_fail _
  | ok bytes => exact .inr ⟨store, _, io.save, bytes, holds, saved, rfl⟩

theorem leaves_keep {R : OAuthStore → Prop} {key : Core.Bytes 32} {file : SealedFile}
    {agentName : String} {store : OAuthStore} {tokens : StoredOAuthTokens} {io : OauthIo}
    {result : Json} (holds : ∀ store', store'.registrations = store.registrations → R store') :
    Leaves R key file (keepTokens agentName store key tokens io result) := by
  unfold keepTokens
  cases kept : store.storeTokens tokens with
  | error e => exact leaves_fail _
  | ok store' => exact leaves_save (holds store' (OAuthStore.storeTokens_ok kept))

theorem leaves_remove {key : Core.Bytes 32} {file : SealedFile} {agentName id : String}
    {store : OAuthStore} {io : OauthIo} :
    Leaves (fun store' => (OauthCall.revoke id).Changes io store store') key file
      (removeAll agentName id store key io) := by
  unfold removeAll
  cases cascaded : store.cascadeRemove io.frames id with
  | none => exact .inl rfl
  | some store' =>
    dsimp only
    cases removed : store'.removeRegistration id with
    | error e => exact leaves_fail _
    | ok store'' =>
      have left := OAuthStore.removeRegistration_ok removed
      obtain ⟨pruned, childless⟩ := OAuthStore.cascadeRemove_pruned cascaded
      refine leaves_save ⟨pruned.trans (OAuthStore.pruned_filter left fun gone _ dropped => ?_),
        fun r member => ?_⟩
      · have named : gone.id = id := by simpa using dropped
        rw [named]
        exact childless
      · rw [left] at member
        exact of_decide_eq_true (List.mem_filter.mp member).2

theorem withStore_ok {dir : AgentDir} {agentName : String} {fresh : Uuid} {file : SealedFile}
    {store : OAuthStore} {key : Core.Bytes 32}
    (loaded : loadOauthStore dir agentName file fresh = .ok (store, key))
    (next : OAuthStore → Core.Bytes 32 → OauthProgram) :
    (withStore dir agentName fresh next).exec file = (next store key).exec file := by
  simp only [withStore, Program.exec, loaded]

theorem withStore_error {dir : AgentDir} {agentName : String} {fresh : Uuid} {file : SealedFile}
    {e : String} (failed : loadOauthStore dir agentName file fresh = .error e)
    (next : OAuthStore → Core.Bytes 32 → OauthProgram) :
    (withStore dir agentName fresh next).exec file = (.error (.error e), file) := by
  simp only [withStore, Program.exec, failed]
  rfl

/-- Once a store is there its load does not depend on the identifier drawn for a new one. -/
theorem loadOauthStore_found {dir : AgentDir} {agentName : String} {file : SealedFile}
    {fresh : Uuid} {store : OAuthStore} {key : Core.Bytes 32} {id : String}
    {reg : OAuthRegistration} (loaded : loadOauthStore dir agentName file fresh = .ok (store, key))
    (found : store.getRegistration id = some reg) (again : Uuid) :
    loadOauthStore dir agentName file again = .ok (store, key) := by
  cases file with
  | absent =>
    unfold loadOauthStore at loaded
    cases agentPem : dir.agentPem with
    | absent =>
      rw [agentPem] at loaded
      cases loaded
    | unreadable e =>
      rw [agentPem] at loaded
      cases loaded
    | content pem =>
      rw [agentPem] at loaded
      obtain ⟨signingKey, _, loaded⟩ := bind_ok loaded
      obtain ⟨opened, empty, loaded⟩ := bind_ok loaded
      obtain rfl := Except.ok.inj empty
      rw [← (Prod.mk.inj (Except.ok.inj loaded)).1] at found
      cases found
  | unreadable e => exact loaded
  | content bytes => exact loaded

theorem loadOauthStore_save (correct : Aead.Correct) (format : StoreFormat.RoundTrip)
    {dir : AgentDir} {agentName : String} {file : SealedFile} {fresh : Uuid}
    {store store' : OAuthStore} {key : Core.Bytes 32} {path : String} {io : SaveIo}
    {bytes : List UInt8} (loaded : loadOauthStore dir agentName file fresh = .ok (store, key))
    (saved : store'.save path key io = .ok bytes) (again : Uuid) :
    loadOauthStore dir agentName (.content bytes) again = .ok (store', key) := by
  unfold loadOauthStore at loaded ⊢
  cases agentPem : dir.agentPem with
  | absent =>
    rw [agentPem] at loaded
    cases loaded
  | unreadable e =>
    rw [agentPem] at loaded
    cases loaded
  | content pem =>
    rw [agentPem] at loaded
    obtain ⟨signingKey, decoded, loaded⟩ := bind_ok loaded
    obtain ⟨opened, _, loaded⟩ := bind_ok loaded
    obtain ⟨rfl, rfl⟩ := Prod.mk.inj (Except.ok.inj loaded)
    have reloaded := OAuthStore.load_save correct format saved
      (OAuthStore.storePath s!"agents/{agentName}") again
    simp only [decoded, bind, Except.bind, reloaded]

/-- What a method leaves when it ran alone: the file as it was, or a store that it has changed. -/
def Outcomes (dir : AgentDir) (agentName : String) (io : OauthIo) (call : OauthCall)
    (file after : SealedFile) :
    Prop :=
  after = file ∨ ∃ fresh store key store' path saveIo bytes,
    loadOauthStore dir agentName file fresh = .ok (store, key) ∧ call.Changes io store store' ∧
      OAuthStore.save store' path key saveIo = .ok bytes ∧ after = .content bytes

/-- What holds of every store that the file is loaded as. -/
def Holds (dir : AgentDir) (agentName : String) (P : OAuthStore → Prop) (file : SealedFile) :
    Prop :=
  ∀ fresh store key, loadOauthStore dir agentName file fresh = .ok (store, key) → P store

theorem holds_absent {P : OAuthStore → Prop} (new : ∀ fresh, P (OAuthStore.new fresh))
    (dir : AgentDir) (agentName : String) : Holds dir agentName P .absent := by
  intro fresh store key loaded
  unfold loadOauthStore at loaded
  cases agentPem : dir.agentPem with
  | absent =>
    rw [agentPem] at loaded
    cases loaded
  | unreadable e =>
    rw [agentPem] at loaded
    cases loaded
  | content pem =>
    rw [agentPem] at loaded
    obtain ⟨signingKey, _, loaded⟩ := bind_ok loaded
    obtain ⟨opened, empty, loaded⟩ := bind_ok loaded
    obtain rfl := Except.ok.inj empty
    rw [← (Prod.mk.inj (Except.ok.inj loaded)).1]
    exact new fresh

theorem holds_save (correct : Aead.Correct) (format : StoreFormat.RoundTrip) {dir : AgentDir}
    {agentName : String} {file : SealedFile} {fresh : Uuid} {store store' : OAuthStore}
    {key : Core.Bytes 32} {path : String} {io : SaveIo} {bytes : List UInt8} {P : OAuthStore → Prop}
    (loaded : loadOauthStore dir agentName file fresh = .ok (store, key))
    (saved : store'.save path key io = .ok bytes) (holds : P store') :
    Holds dir agentName P (.content bytes) := by
  intro again opened key' reloaded
  have same := loadOauthStore_save correct format loaded saved again
  obtain ⟨rfl, _⟩ := Prod.mk.inj (Except.ok.inj (same.symm.trans reloaded))
  exact holds

theorem Outcomes.holds (correct : Aead.Correct) (format : StoreFormat.RoundTrip) {dir : AgentDir}
    {agentName : String} {io : OauthIo} {call : OauthCall} {file after : SealedFile}
    {P : OAuthStore → Prop} (outcomes : Outcomes dir agentName io call file after)
    (kept : ∀ store store', call.Changes io store store' → P store → P store')
    (holds : Holds dir agentName P file) : Holds dir agentName P after := by
  rcases outcomes with rfl | ⟨fresh, store, key, store', path, saveIo, bytes, loaded, changes, saved, rfl⟩
  · exact holds
  · exact holds_save correct format loaded saved (kept store store' changes (holds _ _ _ loaded))

theorem Outcomes.distinct (correct : Aead.Correct) (format : StoreFormat.RoundTrip) {dir : AgentDir}
    {agentName : String} {io : OauthIo} {call : OauthCall} {file after : SealedFile}
    (outcomes : Outcomes dir agentName io call file after)
    (distinct : Holds dir agentName OAuthStore.Distinct file) :
    Holds dir agentName OAuthStore.Distinct after :=
  outcomes.holds correct format (fun _ _ changes => changes.distinct) distinct

theorem withStore_outcomes {dir : AgentDir} {agentName : String} {io : OauthIo} {call : OauthCall}
    {file : SealedFile} {fresh : Uuid} {next : OAuthStore → Core.Bytes 32 → OauthProgram}
    (leaves : ∀ store key, loadOauthStore dir agentName file fresh = .ok (store, key) →
      Leaves (fun store' => call.Changes io store store') key file (next store key)) :
    Outcomes dir agentName io call file ((withStore dir agentName fresh next).exec file).2 := by
  cases loaded : loadOauthStore dir agentName file fresh with
  | error e =>
    rw [withStore_error loaded]
    exact .inl rfl
  | ok opened =>
    obtain ⟨store, key⟩ := opened
    rw [withStore_ok loaded]
    rcases leaves store key loaded with same | ⟨store', path, saveIo, bytes, changes, saved, after⟩
    · exact .inl same
    · exact .inr ⟨fresh, store, key, store', path, saveIo, bytes, loaded, changes, saved, after⟩

/-- All but one of the methods load the store once. -/
def Single (program : OauthProgram) : Prop :=
  ∃ next, program = .load next ∧ ∀ file, (next file).Tail

theorem withStore_single {dir : AgentDir} {agentName : String} {fresh : Uuid}
    {next : OAuthStore → Core.Bytes 32 → OauthProgram} (tail : ∀ store key, (next store key).Tail) :
    Single (withStore dir agentName fresh next) := by
  refine ⟨_, rfl, fun file => ?_⟩
  cases loadOauthStore dir agentName file fresh with
  | error e => exact fail_tail e
  | ok opened => exact tail opened.1 opened.2

theorem withStore_oneSave {dir : AgentDir} {agentName : String} {fresh : Uuid}
    {next : OAuthStore → Core.Bytes 32 → OauthProgram}
    (once : ∀ store key, (next store key).OneSave) :
    (withStore dir agentName fresh next).OneSave := by
  intro file
  dsimp only
  cases loadOauthStore dir agentName file fresh with
  | error e => exact (fail_tail e).oneSave
  | ok opened => exact once opened.1 opened.2

/-! ### A registration that is revoked -/

/-- The store registers no such identifier. -/
def OAuthStore.Lacks (id : String) (store : OAuthStore) : Prop :=
  ∀ reg ∈ store.registrations, reg.id ≠ id

theorem saveOauthStore_ok {agentName : String} {store : OAuthStore} {key : Core.Bytes 32}
    {io : OauthIo} {result value : Json} {file after : SealedFile}
    (ran : (saveOauthStore agentName store key io result).exec file = (.ok value, after)) :
    ∃ path bytes, store.save path key io.save = .ok bytes ∧ after = .content bytes ∧
      value = result := by
  unfold saveOauthStore at ran
  cases saved : store.save (OAuthStore.storePath s!"agents/{agentName}") key io.save with
  | error e =>
    rw [saved] at ran
    cases (Prod.mk.inj ran).1
  | ok bytes =>
    rw [saved] at ran
    obtain ⟨same, left⟩ := Prod.mk.inj ran
    exact ⟨_, bytes, saved, left.symm, (Except.ok.inj same).symm⟩

theorem removeAll_ok {agentName id : String} {store : OAuthStore} {key : Core.Bytes 32}
    {io : OauthIo} {value : Json} {file after : SealedFile}
    (ran : (removeAll agentName id store key io).exec file = (.ok value, after)) :
    ∃ store' path bytes, (∀ reg ∈ store'.registrations, reg.id ≠ id) ∧
      OAuthStore.save store' path key io.save = .ok bytes ∧ after = .content bytes := by
  unfold removeAll at ran
  cases cascaded : store.cascadeRemove io.frames id with
  | none =>
    rw [cascaded] at ran
    cases (Prod.mk.inj ran).1
  | some store' =>
    rw [cascaded] at ran
    dsimp only at ran
    cases removed : store'.removeRegistration id with
    | error e =>
      rw [removed] at ran
      cases (Prod.mk.inj ran).1
    | ok store'' =>
      rw [removed] at ran
      obtain ⟨path, bytes, saved, same, -⟩ := saveOauthStore_ok ran
      refine ⟨store'', path, bytes, fun reg member => ?_, saved, same⟩
      rw [OAuthStore.removeRegistration_ok removed] at member
      exact of_decide_eq_true (List.mem_filter.mp member).2

theorem revoke_ok (correct : Aead.Correct) (format : StoreFormat.RoundTrip) {dir : AgentDir}
    {agentName id : String} {io : OauthIo} {value : Json} {file after : SealedFile}
    (ran : (oauthRevoke dir agentName id io).exec file = (.ok value, after)) :
    Holds dir agentName (OAuthStore.Lacks id) after := by
  unfold oauthRevoke at ran
  cases loaded : loadOauthStore dir agentName file io.fresh with
  | error e =>
    rw [withStore_error loaded] at ran
    cases (Prod.mk.inj ran).1
  | ok opened =>
    obtain ⟨store, key⟩ := opened
    rw [withStore_ok loaded] at ran
    unfold registered at ran
    cases found : store.getRegistration id with
    | none =>
      rw [found] at ran
      cases (Prod.mk.inj ran).1
    | some reg =>
      rw [found] at ran
      dsimp only at ran
      have removed : (removeAll agentName id store key io).exec file = (.ok value, after) := by
        cases tokens : store.getTokens id with
        | none =>
          rw [tokens] at ran
          exact ran
        | some existing =>
          rw [tokens] at ran
          exact ran
      obtain ⟨store', path, bytes, lacks, saved, rfl⟩ := removeAll_ok removed
      exact holds_save correct format loaded saved lacks

section Flows
variable [FromStr TokenResponse]

theorem authorize_outcomes (dir : AgentDir) (agentName id : String) (io : OauthIo)
    (file : SealedFile) :
    Outcomes dir agentName io (.authorize id) file ((oauthAuthorize dir agentName id io).exec file).2 := by
  unfold oauthAuthorize
  cases loaded : loadOauthStore dir agentName file io.fresh with
  | error e =>
    rw [withStore_error loaded]
    exact .inl rfl
  | ok opened =>
    rw [withStore_ok loaded]
    unfold registered
    cases opened.1.getRegistration id with
    | none => exact .inl rfl
    | some reg =>
      dsimp only
      split
      · exact .inl rfl
      · split
        · cases clientCredentials reg io.provider io.clock with
          | error fault => exact .inl rfl
          | ok tokens => exact withStore_outcomes fun store key _ => leaves_keep fun store' same => same
        · split
          · exact .inl rfl
          · exact .inl rfl

theorem authorize_oneSave (dir : AgentDir) (agentName id : String) (io : OauthIo) :
    (oauthAuthorize dir agentName id io).OneSave := by
  refine withStore_oneSave fun store _ => ?_
  unfold registered
  cases store.getRegistration id with
  | none => exact (fail_tail _).oneSave
  | some reg =>
    dsimp only
    split
    · trivial
    · split
      · cases clientCredentials reg io.provider io.clock with
        | error fault => trivial
        | ok tokens => exact withStore_oneSave fun store key => (keepTokens_tail _ _ _ _ _ _).oneSave
      · split
        · trivial
        · exact (fail_tail _).oneSave

variable [Ed25519]

theorem program_outcomes (dir : AgentDir) (agentName : String) (io : OauthIo) (call : OauthCall)
    (file : SealedFile) :
    Outcomes dir agentName io call file ((call.program dir agentName io).exec file).2 := by
  cases call with
  | register params =>
    refine withStore_outcomes fun store key _ => ?_
    dsimp only
    cases added : store.registerProvider (registrationOf params io) with
    | error e => exact leaves_fail _
    | ok store' => exact leaves_save (OAuthStore.registerProvider_ok added)
  | authorize id => exact authorize_outcomes dir agentName id io file
  | callback id code codeVerifier redirectUri =>
    refine withStore_outcomes fun store key _ => leaves_registered fun reg => leaves_ask fun tokens => ?_
    exact leaves_keep fun store' same => same
  | refresh id =>
    refine withStore_outcomes fun store key _ => leaves_registered fun reg => ?_
    cases store.getTokens id with
    | none => exact leaves_fail _
    | some existing =>
      dsimp only
      cases existing.refreshToken with
      | none => exact leaves_fail _
      | some value => exact leaves_ask fun tokens => leaves_keep fun store' same => same
  | exchange id =>
    refine withStore_outcomes fun store key _ => leaves_registered fun reg => ?_
    cases dir.agentCard with
    | absent => exact leaves_fail _
    | unreadable e => exact leaves_fail _
    | content cardJson => exact leaves_ask fun tokens => leaves_keep fun store' same => same
  | revoke id =>
    refine withStore_outcomes fun store key _ => leaves_registered fun reg => ?_
    cases store.getTokens id with
    | none => exact leaves_remove
    | some tokens => exact leaves_remove

theorem program_single (dir : AgentDir) (agentName : String) (io : OauthIo) (call : OauthCall) :
    (∃ id, call = .authorize id) ∨ Single (call.program dir agentName io) := by
  cases call with
  | authorize id => exact .inl ⟨id, rfl⟩
  | register params =>
    refine .inr (withStore_single fun store key => ?_)
    dsimp only
    cases store.registerProvider (registrationOf params io) with
    | error e => exact fail_tail e
    | ok store' => exact saveOauthStore_tail _ _ _ _ _
  | callback id code codeVerifier redirectUri =>
    refine .inr (withStore_single fun store key => registered_tail fun reg => ask_tail fun tokens => ?_)
    exact keepTokens_tail _ _ _ _ _ _
  | refresh id =>
    refine .inr (withStore_single fun store key => registered_tail fun reg => ?_)
    cases store.getTokens id with
    | none => exact fail_tail _
    | some existing =>
      dsimp only
      cases existing.refreshToken with
      | none => exact fail_tail _
      | some value => exact ask_tail fun tokens => keepTokens_tail _ _ _ _ _ _
  | exchange id =>
    refine .inr (withStore_single fun store key => registered_tail fun reg => ?_)
    cases dir.agentCard with
    | absent => exact fail_tail _
    | unreadable e => exact fail_tail _
    | content cardJson => exact ask_tail fun tokens => keepTokens_tail _ _ _ _ _ _
  | revoke id =>
    refine .inr (withStore_single fun store key => registered_tail fun reg => ?_)
    cases store.getTokens id with
    | none => exact removeAll_tail _ _ _ _ _
    | some tokens => exact removeAll_tail _ _ _ _ _

/-- No method writes twice. -/
theorem program_oneSave (dir : AgentDir) (agentName : String) (io : OauthIo) (call : OauthCall) :
    (call.program dir agentName io).OneSave := by
  rcases program_single dir agentName io call with ⟨id, rfl⟩ | ⟨next, same, tail⟩
  · exact authorize_oneSave dir agentName id io
  · rw [same]
    exact fun file => (tail file).oneSave


end Flows
end Methods
end GrokingClawId.Daemon
