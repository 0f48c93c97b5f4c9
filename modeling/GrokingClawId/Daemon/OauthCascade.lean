import GrokingClawId.Lib.ParentLinks
import GrokingClawId.Daemon.OauthStore

/-!
# What a cascade removes

`cascade_remove` of `oauth_store.rs` as a removal along parent links: every registration below the
given one goes with its tokens, and the rest keeps its order. It comes to an end unless one of them is
its own ancestor.
-/

namespace GrokingClawId.Daemon

namespace OAuthStore

/-- A registration belongs below its parent, and tokens to their registration. -/
def links : ParentLinks OAuthRegistration StoredOAuthTokens String where
  key := OAuthRegistration.id
  parent := OAuthRegistration.parentRegistrationId
  owner := StoredOAuthTokens.registrationId

def stock (store : OAuthStore) : ParentLinks.Stock OAuthRegistration StoredOAuthTokens :=
  ⟨store.registrations, store.tokens⟩

def withStock (store : OAuthStore) (stock : ParentLinks.Stock OAuthRegistration StoredOAuthTokens) :
    OAuthStore :=
  { store with registrations := stock.items, tokens := stock.marks }

theorem cascadeRemove_cascade (frames : Nat) (store : OAuthStore) (id : String) :
    cascadeRemove frames store id = (links.cascade frames store.stock id).map store.withStock := by
  induction frames generalizing store id with
  | zero => rfl
  | succ frames ih =>
    have folded (ids : List String) (start : OAuthStore) : ids.foldlM (cascadeRemove frames) start =
        (ids.foldlM (links.cascade frames) start.stock).map start.withStock := by
      induction ids generalizing start with
      | nil => rfl
      | cons child ids step =>
        rw [List.foldlM_cons, List.foldlM_cons, ih]
        cases links.cascade frames start.stock child with
        | none => rfl
        | some next => exact step (start.withStock next)
    show ((store.childIds id).foldlM (cascadeRemove frames) store).bind _ = _
    rw [folded]
    show _ = Option.map store.withStock
      (((store.childIds id).foldlM (links.cascade frames) store.stock).bind _)
    cases (store.childIds id).foldlM (links.cascade frames) store.stock with
    | none => rfl
    | some last => rfl

/-- The registration is reached from the identifier by one or more links from parent to child. -/
def Descends (store : OAuthStore) (id : String) (reg : OAuthRegistration) : Prop :=
  links.Below store.registrations id reg

/-- No registration is its own ancestor. -/
def Acyclic (store : OAuthStore) : Prop := ∀ reg ∈ store.registrations, ¬ store.Descends reg.id reg

open Classical in
/-- The descendants of the registration are gone, each with its tokens. -/
noncomputable def withoutDescendants (store : OAuthStore) (id : String) : OAuthStore :=
  { store with
    registrations := store.registrations.filter fun reg => ¬ store.Descends id reg
    tokens := store.tokens.filter fun t => ¬ ∃ reg, store.Descends id reg ∧ t.registrationId = reg.id }

theorem withoutDescendants_without (store : OAuthStore) (id : String) :
    store.withoutDescendants id = store.withStock (links.without store.stock [id]) := by
  have gone (reg : OAuthRegistration) : store.Descends id reg ↔
      links.Gone store.stock [id] reg := by
    show links.Below store.stock.items id reg ↔ _
    exact ParentLinks.gone_single.symm
  refine congrArg₂ (OAuthStore.mk store.version store.agentId) ?_ ?_
  · exact List.filter_congr fun reg _ => decide_eq_decide.mpr (not_congr (gone reg))
  · refine List.filter_congr fun t _ => decide_eq_decide.mpr (not_congr ?_)
    exact exists_congr fun reg => and_congr_left' (gone reg)

theorem cascadeRemove_some {frames : Nat} {store store' : OAuthStore} {id : String}
    (ended : cascadeRemove frames store id = some store') :
    store' = store.withoutDescendants id := by
  rw [cascadeRemove_cascade] at ended
  obtain ⟨out, cascaded, rfl⟩ := Option.map_eq_some_iff.mp ended
  rw [ParentLinks.cascade_some cascaded, withoutDescendants_without]

theorem cascadeRemove_ends {frames : Nat} {store : OAuthStore} {id : String} :
    (∃ store', cascadeRemove frames store id = some store') ↔
      ∃ out, links.cascade frames store.stock id = some out := by
  rw [cascadeRemove_cascade]
  constructor
  · rintro ⟨store', ended⟩
    obtain ⟨out, cascaded, -⟩ := Option.map_eq_some_iff.mp ended
    exact ⟨out, cascaded⟩
  · rintro ⟨out, cascaded⟩
    exact ⟨_, by rw [cascaded]; rfl⟩

/-- A stack that is high enough is there unless the cascade comes through a registration that is its
own ancestor. -/
theorem cascadeRemove_ends_iff {store : OAuthStore} {id : String} :
    (∃ height, ∀ frames, height ≤ frames → ∃ store', cascadeRemove frames store id = some store') ↔
      ∀ reg, store.Descends id reg → ¬ store.Descends reg.id reg := by
  simp only [cascadeRemove_ends]
  exact ParentLinks.cascade_ends_iff

theorem mem_withoutDescendants {store : OAuthStore} {id : String} {reg : OAuthRegistration} :
    reg ∈ (store.withoutDescendants id).registrations ↔
      reg ∈ store.registrations ∧ ¬ store.Descends id reg := by
  simp [withoutDescendants]

theorem mem_withoutDescendants_tokens {store : OAuthStore} {id : String} {t : StoredOAuthTokens} :
    t ∈ (store.withoutDescendants id).tokens ↔
      t ∈ store.tokens ∧ ¬ ∃ reg, store.Descends id reg ∧ t.registrationId = reg.id := by
  simp [withoutDescendants]

/-- A cascade below any identifier removes the descendants and their tokens, and keeps the
registration itself and everything else in its order. -/
theorem cascadeRemove_descendants (store : OAuthStore) (acyclic : store.Acyclic) (id : String) :
    (∃ height, ∀ frames, height ≤ frames →
      cascadeRemove frames store id = some (store.withoutDescendants id)) ∧
    ∀ reg ∈ store.registrations, reg.id = id →
      reg ∈ (store.withoutDescendants id).registrations := by
  constructor
  · have loopless : ∀ reg, store.Descends id reg → ¬ store.Descends reg.id reg :=
      fun reg below => acyclic reg below.mem
    obtain ⟨height, ends⟩ := cascadeRemove_ends_iff.mpr loopless
    refine ⟨height, fun frames high => ?_⟩
    obtain ⟨store', ended⟩ := ends frames high
    rw [ended, cascadeRemove_some ended]
  · rintro reg member rfl
    exact mem_withoutDescendants.mpr ⟨member, acyclic reg member⟩

theorem not_descends_of_ends {frames : Nat} {store store' : OAuthStore} {reg : OAuthRegistration}
    (ended : cascadeRemove frames store reg.id = some store') : ¬ store.Descends reg.id reg := by
  obtain ⟨out, cascaded⟩ := cascadeRemove_ends.mp ⟨store', ended⟩
  exact fun loop => ParentLinks.cascade_loopless cascaded loop loop

/-- A store from which every cascade ends has no loops. -/
theorem acyclic_of_ends {frames : Nat} {store : OAuthStore}
    (ends : ∀ reg ∈ store.registrations, (cascadeRemove frames store reg.id).isSome = true) :
    store.Acyclic := by
  intro reg member
  obtain ⟨store', ended⟩ := Option.isSome_iff_exists.mp (ends reg member)
  exact not_descends_of_ends ended

end OAuthStore

namespace StandIn

def delegated (id : String) (parent : Option String) : OAuthRegistration where
  id := id
  provider := "hub"
  clientId := ""
  clientSecret := none
  authorizationUrl := ""
  tokenUrl := ""
  revocationUrl := none
  deviceAuthorizationUrl := none
  scopes := []
  domainBindings := []
  grantType := "authorization_code"
  createdAt := 0
  parentRegistrationId := parent
  maxScopes := none

def bearer (id : String) : StoredOAuthTokens where
  registrationId := id
  accessToken := "at"
  refreshToken := none
  expiresAt := 0
  tokenType := "Bearer"
  grantedScopes := []
  lastRefreshed := 0

/-- A root with a child and a grandchild, and a registration on its own. -/
def family : OAuthStore where
  version := 1
  agentId := "scout"
  registrations :=
    [delegated "grandchild" (some "child"), delegated "root" none, delegated "child" (some "root"),
      delegated "other" none]
  tokens := [bearer "grandchild", bearer "other", bearer "root"]

/-- The family without the descendants of its root. -/
def left : OAuthStore :=
  { family with
    registrations := [delegated "root" none, delegated "other" none]
    tokens := [bearer "other", bearer "root"] }

theorem cascadeRemove_descendants_family : ∃ height, ∀ frames, height ≤ frames →
    OAuthStore.cascadeRemove frames family "root" = some left := by
  have acyclic : family.Acyclic := @OAuthStore.acyclic_of_ends 3 family (by decide)
  obtain ⟨⟨height, ends⟩, -⟩ := OAuthStore.cascadeRemove_descendants family acyclic "root"
  have run : OAuthStore.cascadeRemove 3 family "root" = some left := by decide
  refine ⟨height, fun frames high => ?_⟩
  rw [ends frames high, OAuthStore.cascadeRemove_some run]

end StandIn
end GrokingClawId.Daemon
