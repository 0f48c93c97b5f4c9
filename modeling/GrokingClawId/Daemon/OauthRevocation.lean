import GrokingClawId.Daemon.OauthCascade
import GrokingClawId.Daemon.OauthDelegation

/-!
# Revocations that come to an end

`oauth_register` takes any parent, also one that does not exist or is the new registration itself.
`oauth_revoke` follows the parent links before it removes anything, and ends unless the registration is
its own ancestor.
-/

namespace GrokingClawId.Daemon
open GrokingClawId.Core

namespace OAuthStore

theorem getRegistration_mem {store : OAuthStore} {reg : OAuthRegistration}
    (member : reg ∈ store.registrations) : ∃ found, store.getRegistration reg.id = some found := by
  cases found : store.getRegistration reg.id with
  | none => exact absurd rfl (getRegistration_none.mp found reg member)
  | some other => exact ⟨other, rfl⟩

theorem removeRegistration_mem {store : OAuthStore} {reg : OAuthRegistration}
    (member : reg ∈ store.registrations) :
    ∃ store', store.removeRegistration reg.id = .ok store' := by
  have known : (store.registrations.any fun r => r.id = reg.id) = true :=
    List.any_eq_true.mpr ⟨reg, member, decide_eq_true rfl⟩
  unfold removeRegistration
  rw [known]
  exact ⟨_, rfl⟩

/-- Where the identifiers differ, a cascade ends when its registration is not its own ancestor. -/
theorem cascadeRemove_ends_distinct {store : OAuthStore} (distinct : store.Distinct)
    {reg : OAuthRegistration} (member : reg ∈ store.registrations) :
    (∃ height, ∀ frames, height ≤ frames →
      ∃ store', cascadeRemove frames store reg.id = some store') ↔
      ¬ store.Descends reg.id reg := by
  rw [cascadeRemove_ends_iff]
  constructor
  · exact fun loopless loop => loopless reg loop loop
  · have keys : (store.registrations.map links.key).Nodup := distinct
    exact fun own other below loop => own (ParentLinks.loop_above keys member below loop)

end OAuthStore

section Revoke
variable [Aead] [Hkdf] [StoreFormat] {dir : AgentDir} {agentName : String} {file : SealedFile}
  {store : OAuthStore} {key : Core.Bytes 32}

/-- The disk, the random source and the cipher do their part in every save. -/
def Saves (io : SaveIo) : Prop :=
  ∀ (store : OAuthStore) path key, ∃ bytes, store.save path key io = .ok bytes

def revokedValue (registrationId : String) : Json :=
  .obj [("ok", .bool true), ("revoked", .str registrationId)]

theorem removeAll_exec (file : SealedFile) {io : OauthIo} (saves : Saves io.save)
    {reg : OAuthRegistration} (member : reg ∈ store.registrations) :
    (∃ after, (removeAll agentName reg.id store key io).exec file = (.ok (revokedValue reg.id), after)) ↔
      ∃ store', store.cascadeRemove io.frames reg.id = some store' := by
  unfold removeAll
  cases cascaded : store.cascadeRemove io.frames reg.id with
  | none =>
    constructor
    · rintro ⟨after, ran⟩
      cases (Prod.mk.inj ran).1
    · rintro ⟨_, impossible⟩
      cases impossible
  | some left =>
    refine ⟨fun _ => ⟨left, rfl⟩, fun _ => ?_⟩
    have stays : reg ∈ left.registrations := by
      rw [OAuthStore.cascadeRemove_some cascaded]
      exact OAuthStore.mem_withoutDescendants.mpr ⟨member, OAuthStore.not_descends_of_ends cascaded⟩
    obtain ⟨last, removed⟩ := OAuthStore.removeRegistration_mem stays
    obtain ⟨bytes, saved⟩ := saves last (OAuthStore.storePath s!"agents/{agentName}") key
    refine ⟨.content bytes, ?_⟩
    simp only [removed, saveOauthStore, saved, Program.exec]
    rfl

theorem revoke_exec {io : OauthIo} {reg : OAuthRegistration}
    (loaded : loadOauthStore dir agentName file io.fresh = .ok (store, key))
    (member : reg ∈ store.registrations) : (oauthRevoke dir agentName reg.id io).exec file =
      (removeAll agentName reg.id store key io).exec file := by
  obtain ⟨found, known⟩ := OAuthStore.getRegistration_mem member
  unfold oauthRevoke registered
  rw [withStore_ok loaded]
  simp only [known]
  cases store.getTokens reg.id with
  | none => rfl
  | some tokens => rfl

variable [FromStr TokenResponse] [Ed25519]

theorem run_distinct (correct : Aead.Correct) (format : StoreFormat.RoundTrip)
    {events : List (OauthCall × OauthIo)}
    (ran : Run (oauthStep dir agentName) .absent events = some file) :
    Holds dir agentName OAuthStore.Distinct file := by
  refine Run.preserves (fun before event after distinct _ stepped => ?_)
    (holds_absent (fun _ => List.nodup_nil) dir agentName) (fun _ _ => trivial) ran
  rw [← Option.some.inj stepped]
  exact (program_outcomes dir agentName event.2 event.1 before).distinct correct format distinct

/-- After any sequence of methods, a registration can be revoked on a stack that is high enough
exactly when it is not its own ancestor. -/
theorem revoke_completes_iff (correct : Aead.Correct) (format : StoreFormat.RoundTrip)
    {events : List (OauthCall × OauthIo)}
    (ran : Run (oauthStep dir agentName) .absent events = some file) {fresh : Uuid}
    (loaded : loadOauthStore dir agentName file fresh = .ok (store, key)) {reg : OAuthRegistration}
    (member : reg ∈ store.registrations) (io : OauthIo) (saves : Saves io.save) :
    (∃ height, ∀ frames, height ≤ frames → ∃ after,
      (oauthRevoke dir agentName reg.id { io with frames }).exec file =
        (.ok (revokedValue reg.id), after)) ↔
    ¬ store.Descends reg.id reg := by
  obtain ⟨found, known⟩ := OAuthStore.getRegistration_mem member
  have again := loadOauthStore_found loaded known io.fresh
  have distinct := run_distinct correct format ran _ _ _ loaded
  rw [← OAuthStore.cascadeRemove_ends_distinct distinct member]
  refine exists_congr fun height => forall_congr' fun frames => imp_congr_right fun _ => ?_
  let high : OauthIo := { io with frames }
  have saves' : Saves high.save := saves
  show (∃ after, (oauthRevoke dir agentName reg.id high).exec file = _) ↔
    ∃ store', store.cascadeRemove high.frames reg.id = some store'
  have same : (oauthRevoke dir agentName reg.id high).exec file =
      (removeAll agentName reg.id store key high).exec file := revoke_exec again member
  rw [same]
  exact removeAll_exec file saves' member

end Revoke

/-! ### A registration below itself -/

namespace StandIn
open Core.StandIn

theorem saves : Saves oauthIo.save := fun _ _ _ => ⟨_, rfl⟩

/-- The store after the only registration of an agent. -/
def only (params : Json) : OAuthStore := ⟨1, Uuid.nil.toText, [registrationOf params oauthIo], []⟩

theorem only_registered (params : Json) :
    letI := tokenResponses
    ∃ file key, Run (oauthStep agentDir "scout") .absent [(OauthCall.register params, oauthIo)] =
      some file ∧
      loadOauthStore agentDir "scout" file Uuid.nil = .ok (only params, key) := by
  let := tokenResponses
  obtain ⟨key, reloaded⟩ := (registered_fresh params).reloaded aead_correct storeFormat_roundTrip
  exact ⟨_, key, rfl, reloaded Uuid.nil⟩

theorem revoke_completes_iff_root :
    letI := tokenResponses
    ∃ file height, Run (oauthStep agentDir "scout") .absent [(OauthCall.register root, oauthIo)] =
      some file ∧
      ∀ frames, height ≤ frames → ∃ after,
        (oauthRevoke agentDir "scout" "root" { oauthIo with frames }).exec file =
          (.ok (revokedValue "root"), after) := by
  let := tokenResponses
  obtain ⟨file, key, ran, loaded⟩ := only_registered root
  have completes := revoke_completes_iff aead_correct storeFormat_roundTrip ran loaded
    (List.mem_singleton_self (registrationOf root oauthIo)) oauthIo saves
  have alone : (only root).Acyclic := @OAuthStore.acyclic_of_ends 1 (only root) (by decide)
  obtain ⟨height, ends⟩ := completes.mpr (alone _ (List.mem_singleton_self _))
  exact ⟨file, height, ran, ends⟩

def ownParent : Json := .obj [("registration_id", .str "a"), ("parent_registration_id", .str "a")]

theorem ownParent_descends : (only ownParent).Descends "a" (registrationOf ownParent oauthIo) :=
  .child (List.mem_singleton_self _) rfl

/-- A registration that names itself as its parent cannot be revoked on any stack. -/
theorem ownParent_stays :
    letI := tokenResponses
    ¬ ∀ (dir : AgentDir) (agentName : String) (calls : List (Json × OauthIo)) (file : SealedFile)
      (fresh : Uuid) (store : OAuthStore) (key : Core.Bytes 32) (reg : OAuthRegistration)
      (io : OauthIo),
      Run (oauthStep dir agentName) .absent
        (calls.map fun call => (OauthCall.register call.1, call.2)) = some file →
      loadOauthStore dir agentName file fresh = .ok (store, key) → reg ∈ store.registrations →
      Saves io.save → ∃ height, ∀ frames, height ≤ frames → ∃ after,
        (oauthRevoke dir agentName reg.id { io with frames }).exec file =
          (.ok (revokedValue reg.id), after) := by
  let := tokenResponses
  intro completes
  obtain ⟨file, key, ran, loaded⟩ := only_registered ownParent
  have member : registrationOf ownParent oauthIo ∈ (only ownParent).registrations :=
    List.mem_singleton_self _
  obtain ⟨height, ends⟩ := completes agentDir "scout" [(ownParent, oauthIo)] file Uuid.nil
    (only ownParent) key _ oauthIo ran loaded member saves
  obtain ⟨after, revoked⟩ := ends height (Nat.le_refl height)
  let high : OauthIo := { oauthIo with frames := height }
  have same : (oauthRevoke agentDir "scout" (registrationOf ownParent oauthIo).id high).exec file =
      (removeAll "scout" (registrationOf ownParent oauthIo).id (only ownParent) key high).exec file :=
    revoke_exec loaded member
  have works : Saves high.save := saves
  obtain ⟨store', ended⟩ := (removeAll_exec file works member).mp ⟨after, same.symm.trans revoked⟩
  exact OAuthStore.not_descends_of_ends ended ownParent_descends

end StandIn

end GrokingClawId.Daemon
