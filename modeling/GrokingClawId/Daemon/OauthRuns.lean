import GrokingClawId.Daemon.OauthMethods

/-!
# OAuth methods side by side

Two methods that work on the store of one agent at the same time. Each loads the whole store and
saves the whole store, so a method that saves without having read what the other has saved in the
meantime takes it back.
-/

namespace GrokingClawId.Daemon
open GrokingClawId.Core Text

theorem single_under {program : OauthProgram} (single : Single program) {P : SealedFile → Prop}
    {Q : Outcome Json → Prop}
    (meets : ∀ file, P file → Q (program.exec file).1 ∧ P (program.exec file).2) :
    program.Under P Q := by
  obtain ⟨next, rfl, tail⟩ := single
  intro file holds
  exact (tail file).under (meets file holds).1 (meets file holds).2

theorem single_loads {program : OauthProgram} (single : Single program)
    {R : OauthProgram → Prop} (once : R program) : program.Loads R := by
  obtain ⟨next, rfl, tail⟩ := single
  exact ⟨once, fun file => (tail file).loads R⟩

section Order
variable [Aead] [Hkdf] [StoreFormat]

section Flows
variable [FromStr TokenResponse]

theorem authorize_exec {dir : AgentDir} {agentName id : String} {io : OauthIo} {file : SealedFile}
    {store : OAuthStore} {key : Core.Bytes 32} {reg : OAuthRegistration}
    {tokens : StoredOAuthTokens}
    (loaded : loadOauthStore dir agentName file io.fresh = .ok (store, key))
    (found : store.getRegistration id = some reg) (grant : reg.grantType = "client_credentials")
    (acquired : clientCredentials reg io.provider io.clock = .ok tokens) :
    (oauthAuthorize dir agentName id io).exec file =
      (withStore dir agentName io.again fun store signingKey =>
        keepTokens agentName store signingKey tokens io (statusValue "tokens_acquired")).exec file := by
  have other : ¬ reg.grantType = "device_code" := by
    rw [grant]
    decide
  unfold oauthAuthorize
  rw [withStore_ok loaded]
  simp only [registered, found, if_neg other, if_pos grant, acquired, ask, Program.exec]

/-- The reload sees a store in which the registration is the same or gone, and then the method ends
as if it had begun on that store. -/
theorem authorize_steady (correct : Aead.Correct) (format : StoreFormat.RoundTrip) {dir : AgentDir}
    {agentName id : String} {io io' : OauthIo} {call : OauthCall} {file after : SealedFile}
    (distinct : Holds dir agentName OAuthStore.Distinct file)
    (outcomes : Outcomes dir agentName io' call file after) :
    (oauthAuthorize dir agentName id io).Steady file after := by
  refine ⟨rfl, ?_⟩
  dsimp only
  cases loaded : loadOauthStore dir agentName file io.fresh with
  | error e => trivial
  | ok opened =>
    obtain ⟨store, key⟩ := opened
    dsimp only [registered]
    cases found : store.getRegistration id with
    | none => trivial
    | some reg =>
      dsimp only
      split
      · trivial
      · split
        · rename_i grant
          cases acquired : clientCredentials reg io.provider io.clock with
          | error fault => trivial
          | ok tokens =>
            obtain ⟨next, reload, tail⟩ : Single (withStore dir agentName io.again fun store signingKey =>
                keepTokens agentName store signingKey tokens io (statusValue "tokens_acquired")) :=
              withStore_single fun store key => keepTokens_tail _ _ _ _ _ _
            obtain rfl := Program.load.inj reload
            refine ⟨Eq.symm ?_, (tail file).reads _ file⟩
            dsimp only
            rcases outcomes with
              rfl | ⟨fresh, store₀, key₀, store', path, saveIo, bytes, loaded₀, changes,
              saved, rfl⟩
            · exact authorize_exec loaded found grant acquired
            · have same := loadOauthStore_found loaded found fresh
              obtain ⟨rfl, rfl⟩ := Prod.mk.inj (Except.ok.inj (loaded₀.symm.trans same))
              have reloaded := loadOauthStore_save correct format loaded saved
              rcases changes.keeps (distinct _ _ _ loaded) found with kept | gone
              · exact authorize_exec (reloaded _) kept grant acquired
              · have named : tokens.registrationId = id :=
                  (clientCredentials_id acquired).trans (OAuthStore.getRegistration_id found).2
                have missing : store'.getRegistration tokens.registrationId = none := by
                  rw [named]
                  exact gone
                have refused := OAuthStore.storeTokens_missing missing
                unfold oauthAuthorize
                rw [withStore_ok (reloaded _)]
                simp only [registered, gone, reloaded io.again, keepTokens, refused, named]
        · split
          · trivial
          · trivial

/-- After its first read the method writes nothing before it reads again. -/
theorem authorize_reads {dir : AgentDir} {agentName id : String} {io : OauthIo}
    {P : SealedFile → Prop} {Q : Outcome Json → Prop} (any : ∀ outcome, Q outcome)
    (kept : ∀ file after, Outcomes dir agentName io (.authorize id) file after → P file → P after) :
    ∃ next, oauthAuthorize dir agentName id io = .load next ∧
      ∀ file, (next file).Loads (Program.Under P Q) ∧ (next file).Idle Q := by
  refine ⟨_, rfl, fun file => ?_⟩
  dsimp only
  cases loadOauthStore dir agentName file io.fresh with
  | error e => exact ⟨trivial, any _⟩
  | ok opened =>
    dsimp only [registered]
    cases opened.1.getRegistration id with
    | none => exact ⟨trivial, any _⟩
    | some reg =>
      dsimp only
      split
      · exact ⟨trivial, any _⟩
      · split
        · cases clientCredentials reg io.provider io.clock with
          | error fault => exact ⟨trivial, any _⟩
          | ok tokens =>
            let reload := withStore dir agentName io.again fun store signingKey =>
              keepTokens agentName store signingKey tokens io (statusValue "tokens_acquired")
            have single : Single reload := withStore_single fun store key => keepTokens_tail _ _ _ _ _ _
            have outcomes : ∀ file, Outcomes dir agentName io (.authorize id) file (reload.exec file).2 :=
              fun file => withStore_outcomes fun store key _ => leaves_keep fun store' same => same
            have under : reload.Under P Q :=
              single_under single fun file holds => ⟨any _, kept file _ (outcomes file) holds⟩
            exact ⟨single_loads single under, trivial⟩
        · split
          · exact ⟨trivial, any _⟩
          · exact ⟨trivial, any _⟩

variable [Ed25519]

theorem program_steady (correct : Aead.Correct) (format : StoreFormat.RoundTrip) {dir : AgentDir}
    {agentName : String} {io io' : OauthIo} (call : OauthCall) {other : OauthCall}
    {file after : SealedFile} (distinct : Holds dir agentName OAuthStore.Distinct file)
    (outcomes : Outcomes dir agentName io' other file after) :
    (call.program dir agentName io).Steady file after := by
  rcases program_single dir agentName io call with ⟨id, rfl⟩ | ⟨next, same, tail⟩
  · exact authorize_steady correct format distinct outcomes
  · rw [same]
    exact Program.steady_load tail file after

/-- What the outcomes of a method keep, the method keeps from each of its reads on. -/
theorem program_loads {dir : AgentDir} {agentName : String} {io : OauthIo} {call : OauthCall}
    {P : SealedFile → Prop} {Q : Outcome Json → Prop} (any : ∀ outcome, Q outcome)
    (kept : ∀ file after, Outcomes dir agentName io call file after → P file → P after) :
    (call.program dir agentName io).Loads (Program.Under P Q) := by
  rcases program_single dir agentName io call with ⟨id, rfl⟩ | single
  · obtain ⟨next, same, reads⟩ := authorize_reads any kept
    show (oauthAuthorize dir agentName id io).Loads _
    rw [same]
    exact ⟨fun file _ => (reads file).1.under (reads file).2, fun file => (reads file).1⟩
  · exact single_loads single
      (single_under single fun file holds =>
        ⟨any _, kept file _ (program_outcomes dir agentName io call file) holds⟩)

theorem program_idle (dir : AgentDir) (agentName : String) (io : OauthIo) (call : OauthCall)
    (Q : Outcome Json → Prop) : (call.program dir agentName io).Idle Q := by
  cases call <;> exact trivial

/-- Whatever the order, the registrations of the store stay distinct. -/
theorem program_keeps (correct : Aead.Correct) (format : StoreFormat.RoundTrip) (dir : AgentDir)
    (agentName : String) (io : OauthIo) (call : OauthCall) :
    (call.program dir agentName io).Keeps (Holds dir agentName OAuthStore.Distinct) := by
  have loads := program_loads (Q := fun _ => True) (fun _ => trivial)
    fun file after (outcomes : Outcomes dir agentName io call file after) distinct =>
      outcomes.distinct correct format distinct
  exact (loads.under (program_idle dir agentName io call _)).keeps

/-! ### A registration that was revoked -/

/-- Next to a method that does not register it anew, first or second. -/
theorem revoked_lacks (correct : Aead.Correct) (format : StoreFormat.RoundTrip) {dir : AgentDir}
    {agentName id : String} {io io' : OauthIo} {other : OauthCall} {file after : SealedFile}
    {value : Json} {b : Outcome Json} (new : ¬ other.Registers io' id)
    (order : Program.InOrder (oauthRevoke dir agentName id io) (other.program dir agentName io') file
        (.ok value) b after ∨
      Program.InOrder (other.program dir agentName io') (oauthRevoke dir agentName id io) file b
        (.ok value) after) : Holds dir agentName (OAuthStore.Lacks id) after := by
  rcases order with ⟨first, second⟩ | ⟨first, second⟩
  · have gone : Holds dir agentName (OAuthStore.Lacks id) ((oauthRevoke dir agentName id io).exec file).2 :=
      revoke_ok correct format (Prod.ext first rfl)
    have outcomes := program_outcomes dir agentName io' other ((oauthRevoke dir agentName id io).exec file).2
    rw [second] at outcomes
    exact outcomes.holds correct format (fun _ _ changes => changes.absent new) gone
  · exact revoke_ok correct format second

/-! ### Two methods in any order -/

/-- Two methods that save only when the other has not saved since their last load do what they would
do one after the other, and what was revoked does not come back. The registrations of the store are
distinct before, and they are distinct afterwards. -/
theorem oauth_in_order (correct : Aead.Correct) (format : StoreFormat.RoundTrip) (dir : AgentDir)
    (agentName : String) (first second : OauthCall) (io io' : OauthIo) {file : SealedFile}
    (distinct : Holds dir agentName OAuthStore.Distinct file) {sides : List Side}
    {s : Turns SealedFile (Outcome Json)} {a b : Outcome Json}
    (ran : Run Turns.step ⟨first.program dir agentName io, second.program dir agentName io', file, false,
      false⟩ sides = some s)
    (fresh : Run.Each Turns.step Turns.Fresh ⟨first.program dir agentName io,
      second.program dir agentName io', file, false, false⟩ sides)
    (left : s.left = .done a) (right : s.right = .done b) :
    (Program.InOrder (first.program dir agentName io) (second.program dir agentName io') file a b s.cell ∨
      Program.InOrder (second.program dir agentName io') (first.program dir agentName io) file b a s.cell) ∧
    (∀ id value, first = .revoke id → a = .ok value → ¬ second.Registers io' id →
      Holds dir agentName (OAuthStore.Lacks id) s.cell) ∧
    (∀ id value, second = .revoke id → b = .ok value → ¬ first.Registers io id →
      Holds dir agentName (OAuthStore.Lacks id) s.cell) ∧
    Holds dir agentName OAuthStore.Distinct s.cell := by
  have order := Turns.inOrder_of_fresh (program_oneSave dir agentName io first)
    (program_oneSave dir agentName io' second)
    (program_steady correct format first distinct (program_outcomes dir agentName io' second file))
    (program_steady correct format second distinct (program_outcomes dir agentName io first file))
    ran fresh left right
  have kept := Turns.Kept.run ⟨distinct, program_keeps correct format dir agentName io first,
    program_keeps correct format dir agentName io' second⟩ ran
  refine ⟨order, ?_, ?_, kept.cell⟩
  · rintro id value rfl rfl new
    exact revoked_lacks correct format new order
  · rintro id value rfl rfl new
    exact revoked_lacks correct format new order.symm

end Flows

/-- The registrations and tokens that the file is loaded as. -/
def stored (dir : AgentDir) (agentName : String) (file : SealedFile) :
    Option (List OAuthRegistration × List StoredOAuthTokens) :=
  (loadOauthStore dir agentName file Uuid.nil).toOption.map fun opened =>
    (opened.1.registrations, opened.1.tokens)

end Order

namespace StandIn
open Core.StandIn

def mail : OAuthRegistration where
  id := "mail"
  provider := "p"
  clientId := "c"
  clientSecret := none
  authorizationUrl := ""
  tokenUrl := ""
  revocationUrl := none
  deviceAuthorizationUrl := none
  scopes := []
  domainBindings := []
  grantType := "authorization_code"
  createdAt := 0
  parentRegistrationId := none
  maxScopes := none

def mailTokens : StoredOAuthTokens where
  registrationId := "mail"
  accessToken := "old"
  refreshToken := some "again"
  expiresAt := 0
  tokenType := "Bearer"
  grantedScopes := []
  lastRefreshed := 0

def renewed : StoredOAuthTokens :=
  { mailTokens with accessToken := "new", expiresAt := 3600 * DateTime.nanosPerSecond }

def mailStore (tokens : StoredOAuthTokens) : OAuthStore := ⟨1, "", [mail], [tokens]⟩

@[reducible] def tokenResponses : FromStr TokenResponse :=
  parser [("tokens", ⟨"new", none, none, none, none⟩)]

def agentDir : AgentDir := ⟨.content (encodePrivateKeyPem seed), .absent⟩

def oauthIo : OauthIo where
  fresh := Uuid.nil
  again := Uuid.nil
  newId := Uuid.nil
  createdAt := 0
  clock := ⟨0, 0⟩
  provider _ := .ok ⟨"200 OK", true, .ok "tokens"⟩
  device _ := .error ""
  authCode _ := .error ""
  save := { nonce := .ok ⟨List.replicate 12 0, rfl⟩ }
  frames := 1

theorem agentDir_loads (agentName : String) :
    loadOauthStore agentDir agentName .absent Uuid.nil = .ok (OAuthStore.new Uuid.nil, seed) := by
  unfold loadOauthStore
  simp only [agentDir, decodePrivateKeyPem_encode]
  rfl

theorem store_file (store : OAuthStore) (path : String) : ∃ bytes,
    store.save path seed oauthIo.save = .ok bytes ∧
      ∀ agentName fresh, loadOauthStore agentDir agentName (.content bytes) fresh = .ok (store, seed) := by
  obtain ⟨bytes, saved⟩ : ∃ bytes, store.save path seed oauthIo.save = .ok bytes := ⟨_, rfl⟩
  exact ⟨bytes, saved, fun agentName fresh =>
    loadOauthStore_save aead_correct storeFormat_roundTrip (agentDir_loads agentName) saved fresh⟩

theorem mailStore_file (tokens : StoredOAuthTokens) (path : String) : ∃ bytes,
    (mailStore tokens).save path seed oauthIo.save = .ok bytes ∧
      ∀ agentName fresh, loadOauthStore agentDir agentName (.content bytes) fresh =
        .ok (mailStore tokens, seed) :=
  store_file (mailStore tokens) path

theorem mail_renewed :
    letI := tokenResponses
    refreshToken mail "again" oauthIo.provider oauthIo.clock = .ok renewed := rfl

theorem mail_refresh {file : SealedFile}
    (loaded : loadOauthStore agentDir "scout" file Uuid.nil = .ok (mailStore mailTokens, seed)) :
    letI := tokenResponses
    ∃ next bytes value, (OauthCall.refresh "mail").program agentDir "scout" oauthIo = .load next ∧
      next file = .wait (.save (.content bytes) (.done (.ok value))) ∧
      ∀ fresh, loadOauthStore agentDir "scout" (.content bytes) fresh =
        .ok (mailStore renewed, seed) := by
  let := tokenResponses
  obtain ⟨bytes, saved, reloaded⟩ :=
    mailStore_file renewed (OAuthStore.storePath (toString "agents/" ++ toString "scout"))
  refine ⟨_, bytes, cachedValue (refreshedToken mail "mail" renewed), rfl, ?_, reloaded "scout"⟩
  have found : (mailStore mailTokens).getRegistration "mail" = some mail := rfl
  have existing : (mailStore mailTokens).getTokens "mail" = some mailTokens := rfl
  have refreshable : mailTokens.refreshToken = some "again" := rfl
  have kept : (mailStore mailTokens).storeTokens renewed = .ok (mailStore renewed) := rfl
  have io : oauthIo.fresh = Uuid.nil := rfl
  simp only [io, loaded, registered, found, existing, refreshable, ask, mail_renewed, keepTokens,
    kept, saveOauthStore, saved]

/-- A registration alone in its store goes with its tokens. -/
theorem lone_revoke {file : SealedFile} {reg : OAuthRegistration} {tokens : StoredOAuthTokens}
    (own : tokens.registrationId = reg.id) (root : reg.parentRegistrationId = none)
    (loaded : loadOauthStore agentDir "scout" file Uuid.nil = .ok (⟨1, "", [reg], [tokens]⟩, seed)) :
    letI := tokenResponses
    ∃ next bytes value, (OauthCall.revoke reg.id).program agentDir "scout" oauthIo = .load next ∧
      next file = .wait (.save (.content bytes) (.done (.ok value))) := by
  let := tokenResponses
  have found : OAuthStore.getRegistration ⟨1, "", [reg], [tokens]⟩ reg.id = some reg := by
    simp [OAuthStore.getRegistration]
  have existing : OAuthStore.getTokens ⟨1, "", [reg], [tokens]⟩ reg.id = some tokens := by
    simp [OAuthStore.getTokens, own]
  have cascaded : OAuthStore.cascadeRemove oauthIo.frames ⟨1, "", [reg], [tokens]⟩ reg.id =
      some ⟨1, "", [reg], [tokens]⟩ := by
    simp [OAuthStore.cascadeRemove, OAuthStore.childIds, oauthIo, root]
  have removed : OAuthStore.removeRegistration ⟨1, "", [reg], [tokens]⟩ reg.id =
      .ok ⟨1, "", [], []⟩ := by
    simp [OAuthStore.removeRegistration, own]
  obtain ⟨bytes, saved⟩ : ∃ bytes, OAuthStore.save ⟨1, "", [], []⟩
      (OAuthStore.storePath (toString "agents/" ++ toString "scout")) seed oauthIo.save = .ok bytes :=
    ⟨_, rfl⟩
  refine ⟨_, bytes, .obj [("ok", .bool true), ("revoked", .str reg.id)], rfl, ?_⟩
  have io : oauthIo.fresh = Uuid.nil := rfl
  simp only [io, loaded, registered, found, existing, removeAll, cascaded, removed, saveOauthStore,
    saved]

theorem stored_distinct {bytes : List UInt8} {held : OAuthStore}
    (loaded : ∀ agentName fresh, loadOauthStore agentDir agentName (.content bytes) fresh = .ok (held, seed))
    (distinct : held.Distinct) : Holds agentDir "scout" OAuthStore.Distinct (.content bytes) := by
  intro fresh store key opened
  rw [loaded] at opened
  rw [← (Prod.mk.inj (Except.ok.inj opened)).1]
  exact distinct

/-- A client that gets tokens of its own. -/
def bot : OAuthRegistration :=
  { mail with id := "bot", clientSecret := some "secret", grantType := "client_credentials" }

def botTokens : StoredOAuthTokens :=
  { renewed with registrationId := "bot", refreshToken := none }

theorem pair_revoke {file : SealedFile}
    (loaded : loadOauthStore agentDir "scout" file Uuid.nil =
      .ok (⟨1, "", [bot, mail], [mailTokens]⟩, seed)) :
    letI := tokenResponses
    ∃ next bytes value, (OauthCall.revoke "mail").program agentDir "scout" oauthIo = .load next ∧
      next file = .wait (.save (.content bytes) (.done (.ok value))) ∧
      loadOauthStore agentDir "scout" (.content bytes) Uuid.nil = .ok (⟨1, "", [bot], []⟩, seed) := by
  let := tokenResponses
  obtain ⟨bytes, saved, reloaded⟩ :=
    store_file ⟨1, "", [bot], []⟩ (OAuthStore.storePath (toString "agents/" ++ toString "scout"))
  have found : OAuthStore.getRegistration ⟨1, "", [bot, mail], [mailTokens]⟩ "mail" = some mail := rfl
  have existing : OAuthStore.getTokens ⟨1, "", [bot, mail], [mailTokens]⟩ "mail" = some mailTokens := rfl
  have cascaded : OAuthStore.cascadeRemove oauthIo.frames ⟨1, "", [bot, mail], [mailTokens]⟩ "mail" =
      some ⟨1, "", [bot, mail], [mailTokens]⟩ := rfl
  have removed : OAuthStore.removeRegistration ⟨1, "", [bot, mail], [mailTokens]⟩ "mail" =
      .ok ⟨1, "", [bot], []⟩ := rfl
  refine ⟨_, bytes, .obj [("ok", .bool true), ("revoked", .str "mail")], rfl, ?_, reloaded "scout" Uuid.nil⟩
  have io : oauthIo.fresh = Uuid.nil := rfl
  simp only [io, loaded, registered, found, existing, removeAll, cascaded, removed, saveOauthStore, saved]

theorem bot_tokens :
    letI := tokenResponses
    clientCredentials bot oauthIo.provider oauthIo.clock = .ok botTokens := rfl

theorem withStore_reads {dir : AgentDir} {agentName : String} {fresh : Uuid} {file : SealedFile}
    {store : OAuthStore}
    {key : Core.Bytes 32} {next : OAuthStore → Core.Bytes 32 → OauthProgram}
    (loaded : loadOauthStore dir agentName file fresh = .ok (store, key)) :
    ∃ again, withStore dir agentName fresh next = .load again ∧ again file = next store key :=
  ⟨_, rfl, by simp only [loaded]⟩

/-- Before and after its wait the client reads the store. -/
theorem bot_authorize {file file' : SealedFile} {before after : OAuthStore}
    (found : before.getRegistration "bot" = some bot)
    (loaded : loadOauthStore agentDir "scout" file Uuid.nil = .ok (before, seed))
    (reloaded : loadOauthStore agentDir "scout" file' Uuid.nil = .ok (after, seed))
    {kept : OAuthStore} (stores : after.storeTokens botTokens = .ok kept) :
    letI := tokenResponses
    ∃ next again bytes value, (OauthCall.authorize "bot").program agentDir "scout" oauthIo = .load next ∧
      next file = .wait (.load again) ∧ again file' = .save (.content bytes) (.done (.ok value)) := by
  let := tokenResponses
  obtain ⟨bytes, saved, _⟩ :=
    store_file kept (OAuthStore.storePath (toString "agents/" ++ toString "scout"))
  have notDevice : bot.grantType ≠ "device_code" := by decide
  have client : bot.grantType = "client_credentials" := rfl
  have io : oauthIo.fresh = Uuid.nil := rfl
  have io' : oauthIo.again = Uuid.nil := rfl
  let keep (store : OAuthStore) (key : Core.Bytes 32) : OauthProgram :=
    keepTokens "scout" store key botTokens oauthIo (statusValue "tokens_acquired")
  have waits : registered before "bot" (fun reg =>
      if reg.grantType = "device_code" then .wait (.done (orFault (oauthIo.device reg)))
      else if reg.grantType = "client_credentials" then
        ask (clientCredentials reg oauthIo.provider oauthIo.clock) fun tokens =>
          withStore agentDir "scout" oauthIo.again fun store key =>
            keepTokens "scout" store key tokens oauthIo (statusValue "tokens_acquired")
      else if reg.grantType = "authorization_code" then .done (orFault (oauthIo.authCode reg))
      else fail s!"Unsupported grant type: {reg.grantType}") =
      .wait (withStore agentDir "scout" Uuid.nil keep) := by
    simp only [registered, found, if_neg notDevice, if_pos client, ask, bot_tokens, io', keep]
  obtain ⟨again, later, rest⟩ :=
    (withStore_reads reloaded : ∃ again, withStore agentDir "scout" Uuid.nil keep = _ ∧ _)
  refine ⟨_, again, bytes, statusValue "tokens_acquired", rfl, ?_, ?_⟩
  · rw [← later, ← waits]
    simp only [io, loaded]
  · rw [rest]
    simp only [keep, keepTokens, stores, saveOauthStore, saved]

/-- The client waits for its tokens while the other registration is revoked. -/
theorem oauth_in_order_mail :
    letI := tokenResponses
    ∃ file s value, Run Turns.step ⟨(OauthCall.authorize "bot").program agentDir "scout" oauthIo,
        (OauthCall.revoke "mail").program agentDir "scout" oauthIo, file, false, false⟩
        [.left, .right, .left, .right, .right, .left, .left] = some s ∧
      s.right = .done (.ok value) ∧ Holds agentDir "scout" (OAuthStore.Lacks "mail") s.cell := by
  let := tokenResponses
  obtain ⟨bytes, _, loaded⟩ := store_file ⟨1, "", [bot, mail], [mailTokens]⟩ ""
  obtain ⟨next', bytes', value, program', removed, reloaded⟩ := pair_revoke (loaded "scout" Uuid.nil)
  obtain ⟨next, again, _, _, program, waits, stores⟩ :=
    bot_authorize rfl (loaded "scout" Uuid.nil) reloaded rfl
  obtain ⟨ran, fresh⟩ := Turns.run_reread waits removed stores
  rw [← program, ← program'] at ran fresh
  have order := oauth_in_order aead_correct storeFormat_roundTrip agentDir "scout" (.authorize "bot")
    (.revoke "mail") oauthIo oauthIo (stored_distinct loaded (by unfold OAuthStore.Distinct; decide))
    ran fresh rfl rfl
  exact ⟨_, _, value, ran, rfl, order.2.2.1 "mail" value rfl rfl not_false⟩

/-- A refresh that had loaded the store before a revocation puts the registration back. -/
theorem revoked_reappears :
    letI := tokenResponses
    ¬ ∀ (dir : AgentDir) (agentName : String) (first second : OauthCall) (io io' : OauthIo)
      (file : SealedFile) (sides : List Side) (s : Turns SealedFile (Outcome Json))
      (a b : Outcome Json),
      Holds dir agentName OAuthStore.Distinct file →
      Run Turns.step ⟨first.program dir agentName io, second.program dir agentName io', file, false, false⟩
        sides = some s → s.left = .done a → s.right = .done b →
      (stored dir agentName s.cell = stored dir agentName
          ((second.program dir agentName io').exec ((first.program dir agentName io).exec file).2).2 ∨
        stored dir agentName s.cell = stored dir agentName
          ((first.program dir agentName io).exec ((second.program dir agentName io').exec file).2).2) ∧
      ∀ id value, second = .revoke id → b = .ok value → ¬ first.Registers io id →
        Holds dir agentName (OAuthStore.Lacks id) s.cell := by
  let := tokenResponses
  intro serial
  obtain ⟨bytes, _, loaded⟩ := mailStore_file mailTokens ""
  obtain ⟨next, bytes', value, program, late, reloaded⟩ := mail_refresh (loaded "scout" Uuid.nil)
  obtain ⟨next', bytes'', value', program', early⟩ := lone_revoke rfl rfl (loaded "scout" Uuid.nil)
  have ran := Turns.run_overtaken late early
  rw [← program, ← program'] at ran
  have lacks :=
    (serial agentDir "scout" _ _ oauthIo oauthIo _ _ _ _ _ (stored_distinct loaded (List.nodup_singleton _))
    ran rfl rfl).2
    "mail" value' rfl rfl not_false
  exact lacks Uuid.nil _ _ (reloaded Uuid.nil) mail List.mem_cons_self rfl

end StandIn
end GrokingClawId.Daemon
