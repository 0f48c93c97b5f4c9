import GrokingClawId.Daemon.BirthIdentity
import GrokingClawId.Daemon.OauthRuns

/-!
# Where a refresh of a proxy arrives

A refresh goes from the token cache of a proxy over the socket of the daemon to `oauth_refresh`, which
looks for the store under the name in the request. The cache gives the identifier of its agent there,
and the supervisor has loaded it from the directory that is named after the agent.
-/

namespace GrokingClawId.Daemon
open GrokingClawId.Core GrokingClawId.Proxy Text FileTree

/-! ### Requests -/

/-- The parameters that `refresh_token_via_ipc` sends with `oauth.refresh`. -/
def refreshParams (agentId registrationId : String) : Json :=
  .obj [("agent", .str agentId), ("registration_id", .str registrationId)]

/-- `dispatch` for `oauth.refresh`: which agent's registration is refreshed. -/
def dispatchRefresh (oauthEnabled : Bool) (params : Json) : Except String (String × String) :=
  if !oauthEnabled then .error "OAuth bridge is disabled"
  else
    let agentName := (strParam params "agent").getD ""
    let registrationId := (strParam params "registration_id").getD ""
    .ok (agentName, registrationId)

theorem dispatchRefresh_ok {oauthEnabled : Bool} {agentId registrationId agentName id : String} :
    dispatchRefresh oauthEnabled (refreshParams agentId registrationId) = .ok (agentName, id) ↔
      oauthEnabled = true ∧ agentName = agentId ∧ id = registrationId := by
  cases oauthEnabled with
  | false => exact ⟨fun refused => (by cases refused), fun ⟨on, _⟩ => (by cases on)⟩
  | true =>
    constructor
    · intro dispatched
      obtain ⟨rfl, rfl⟩ := Prod.mk.inj (Except.ok.inj dispatched)
      exact ⟨rfl, rfl, rfl⟩
    · rintro ⟨_, rfl, rfl⟩
      rfl

def storeFile : List String := ["identity", "oauth-tokens.enc"]

/-- A file as it is found by its path and read whole. -/
def sealedFile (tree : FileTree) (path : List String) : SealedFile :=
  if !FileTree.legal path then .absent
  else
    match tree.lookup path with
    | none => .absent
    | some (.file (.text s)) => .content (utf8 s)
    | some (.file (.binary bytes)) => .content bytes
    | some .dir => .unreadable "Is a directory"

/-! ### Where the daemon runs -/

/-- Where a daemon and its proxies run, with what its configuration says of the socket and the OAuth
bridge. -/
structure Site where
  cwd : List String
  home : String
  legal : FileTree.legal (Path.join cwd s!"{home}/.grokingclaw") = true
  listen : String
  oauthEnabled : Bool

namespace Site

/-- `daemon_root`, which is `root_dir` too. -/
def rootText (site : Site) : String := s!"{site.home}/.grokingclaw"

def root (site : Site) : List String := Path.join site.cwd site.rootText

/-- The socket as the supervisor names it to a cache. -/
def daemonSocket (site : Site) : String := s!"{site.rootText}/daemon.sock"

def expandTilde (site : Site) (path : String) : List String :=
  match stripPrefix "~/".toList path.toList with
  | some rest => Path.join (Path.join site.cwd site.home) (String.ofList rest)
  | none => Path.join site.cwd path

/-- The path leads to the socket of the daemon. -/
def connects (site : Site) (tree : FileTree) (socketPath : String) : Bool :=
  match tree.walk [] (Path.join site.cwd socketPath) with
  | some place => tree.walk [] (site.expandTilde site.listen) = some place
  | none => false

/-- Which agent's registration the daemon refreshes when the cache asks for a refresh. -/
def receive (site : Site) (tree : FileTree) (cache : OAuthTokenCache) (registrationId : String) :
    Except String (String × String) :=
  if site.connects tree cache.daemonSocket then
    (dispatchRefresh site.oauthEnabled (refreshParams cache.agentId registrationId)).mapError
      fun e => s!"Daemon oauth.refresh failed: {e}"
  else .error "Failed to connect to daemon socket"

def storePath (site : Site) (agentName : String) : List String :=
  agentDir site.root agentName ++ storeFile

variable [Aead] [Hkdf] [StoreFormat]

/-- `load_oauth_store` on the files of the daemon. -/
def loadStore (site : Site) (tree : FileTree) (agentName : String) (fresh : Uuid) :
    Except String (OAuthStore × Core.Bytes 32) :=
  loadOauthStore (identityDir site.root agentName tree) agentName
    (sealedFile tree (site.storePath agentName)) fresh

/-- The agent was started with the cache, from the files of its directory. -/
def Started (site : Site) (tree : FileTree) (config : AgentConfig) (cache : OAuthTokenCache) :
    Prop :=
  ∃ launch port server, launch.home = some site.home ∧
    launch.agentPem = textFile tree (agentDir site.root config.name ++ keyFile) ∧
    launch.oauthStore = sealedFile tree (site.storePath config.name) ∧
    startProxy config launch = .ok (some (port, server)) ∧ server.oauth = some cache

/-- The store was the content of the cache. -/
def Filled (cache : OAuthTokenCache) (store : OAuthStore) : Prop :=
  cache.tokens = store.getCachedTokens ∧ cache.bindings = store.getDomainBindings

/-- The request for a refresh makes the daemon load the store file of the agent, and the load
succeeds. -/
def Addresses (site : Site) (tree : FileTree) (config : AgentConfig) (cache : OAuthTokenCache)
    (registrationId : String) : Prop :=
  ∃ agentName, site.receive tree cache registrationId = .ok (agentName, registrationId) ∧
    tree.walk [] (site.storePath agentName) = tree.walk [] (site.storePath config.name) ∧
    ∀ fresh, ∃ store key, site.loadStore tree agentName fresh = .ok (store, key) ∧ Filled cache store

/-- The proxy connects where the daemon listens, the bridge is on, and the directory of the agent is
also the one under its identifier. -/
structure Agrees (site : Site) (tree : FileTree) (config : AgentConfig) : Prop where
  socket : site.connects tree site.daemonSocket = true
  enabled : site.oauthEnabled = true
  directory : tree.walk [] (agentDir site.root config.agentId.toText) =
    tree.walk [] (agentDir site.root config.name)

end Site

/-! ### Files that two paths lead to -/

theorem sealedFile_present {tree : FileTree} {path : List String}
    (present : sealedFile tree path ≠ .absent) :
    FileTree.legal path = true ∧ ∃ place, tree.walk [] path = some place := by
  unfold sealedFile at present
  cases legal : FileTree.legal path with
  | false => exact absurd (by simp [legal]) present
  | true =>
    refine ⟨rfl, ?_⟩
    cases walked : tree.walk [] path with
    | none => exact absurd (by simp [legal, lookup, walked]) present
    | some place => exact ⟨place, rfl⟩

theorem files_same {tree : FileTree} {path path' : List String} (legal : FileTree.legal path = true)
    (legal' : FileTree.legal path' = true) (same : tree.walk [] path = tree.walk [] path') :
    sealedFile tree path = sealedFile tree path' ∧ textFile tree path = textFile tree path' := by
  have node : tree.lookup path = tree.lookup path' := by
    rw [lookup, same]
    rfl
  constructor
  · unfold sealedFile
    rw [legal, legal', node]
  · unfold textFile
    rw [legal, legal', node]

theorem walk_under {tree : FileTree} {path path' : List String}
    (same : tree.walk [] path = tree.walk [] path') (names : List String) :
    tree.walk [] (path ++ names) = tree.walk [] (path' ++ names) := by
  rw [walk_append, same, ← walk_append]

theorem toText_ordinary (id : Uuid) : Path.Ordinary id.toText := by
  have dotless : '.' ∉ id.toText.toList := Uuid.not_mem_toText (by decide) (by decide) id
  refine ⟨fun empty => ?_, Uuid.not_mem_toText (by decide) (by decide) id, fun up => ?_, fun here => ?_⟩
  · have read := Uuid.parseStr_toText id
    rw [empty] at read
    cases read
  · rw [up] at dotless
    exact dotless (by decide)
  · rw [here] at dotless
    exact dotless (by decide)

theorem toText_legal (id : Uuid) : FileTree.legal [id.toText] = true := by
  have zeroless : '\x00' ∉ id.toText.toList := Uuid.not_mem_toText (by decide) (by decide) id
  simpa [FileTree.legal] using zeroless

namespace Site
variable (site : Site)

theorem agentDir_id (id : Uuid) :
    agentDir site.root id.toText = site.root ++ ["agents"] ++ [id.toText] :=
  Path.join_ordinary _ (toText_ordinary id)

/-- An ordinary name leads to the directory under the identifier only as the text of it. -/
theorem directory_iff {tree : FileTree} {name : String} (ordinary : Path.Ordinary name) (id : Uuid)
    {dir : Location} (walked : tree.walk [] (agentDir site.root name) = some dir) :
    tree.walk [] (agentDir site.root id.toText) = tree.walk [] (agentDir site.root name) ↔
      name = id.toText := by
  constructor
  · intro same
    have named : agentDir site.root name = site.root ++ ["agents"] ++ [name] :=
      Path.join_ordinary _ ordinary
    have place := walk_target walked
    have place' := walk_target (same.trans walked)
    rw [agentDir_id, target_append_plain _ (by simpa using (toText_ordinary id).2.2)] at place'
    rw [named, target_append_plain _ (by simpa using ordinary.2.2), place'] at place
    simpa using (List.append_cancel_left place).symm
  · rintro rfl
    rfl

theorem legal_id (id : Uuid) {names : List String} (legal : FileTree.legal names = true) :
    FileTree.legal (agentDir site.root id.toText ++ names) = true := by
  have root : FileTree.legal site.root = true := site.legal
  have own := toText_legal id
  rw [agentDir_id]
  simp only [FileTree.legal, List.all_append, Bool.and_eq_true] at root own legal ⊢
  exact ⟨⟨⟨root, by decide⟩, own⟩, legal⟩

end Site

/-! ### The cache of a started agent -/

section Start
variable [Aead] [Hkdf] [StoreFormat] {config : AgentConfig} {launch : Launch} {cache : OAuthTokenCache}

theorem startProxy_ok {port : UInt16} {server : ProxyServer}
    (ran : startProxy config launch = .ok (some (port, server))) :
    ∃ pem key, launch.agentPem = .content pem ∧ decodePrivateKeyPem pem.toList = .ok key ∧
      server.oauth = loadOauthCache config launch key := by
  unfold startProxy at ran
  split at ran
  · cases ran
  · cases ran
  · rename_i pem held
    obtain ⟨key, decoded, ran⟩ := bind_ok ran
    obtain ⟨signer, _, ran⟩ := bind_ok ran
    obtain ⟨_, _, ran⟩ := bind_ok ran
    obtain ⟨bound, _, ran⟩ := bind_ok ran
    obtain ⟨_, rfl⟩ := Prod.mk.inj (Option.some.inj (Except.ok.inj ran))
    exact ⟨pem, key, held, mapError_eq_ok (orFault_eq_ok decoded), rfl⟩

theorem loadOauthCache_some {key : Core.Bytes 32}
    (made : loadOauthCache config launch key = some cache) :
    launch.oauthStore ≠ .absent ∧ cache.agentId = config.agentId.toText ∧
      (∀ site : Site, launch.home = some site.home → cache.daemonSocket = site.daemonSocket) ∧
      ∃ path store, OAuthStore.load path launch.oauthStore key launch.fresh = .ok store ∧
        Site.Filled cache store := by
  unfold loadOauthCache at made
  cases file : launch.oauthStore with
  | absent =>
    rw [file] at made
    cases made
  | _ =>
    rw [file] at made
    dsimp only at made
    split at made
    · cases made
    · rename_i store loaded
      split at made
      · cases made
      · obtain rfl := Option.some.inj made
        refine ⟨SealedFile.noConfusion, rfl, fun site there => ?_, _, store, loaded, rfl, rfl⟩
        rw [there]
        rfl

theorem load_present {path : String} {file : SealedFile} {key : Core.Bytes 32} {fresh : Uuid}
    {store : OAuthStore} (present : file ≠ .absent)
    (loaded : OAuthStore.load path file key fresh = .ok store) (path' : String) (again : Uuid) :
    OAuthStore.load path' file key again = .ok store := by
  cases file with
  | absent => exact absurd rfl present
  | unreadable e => cases loaded
  | content bytes => exact loaded

end Start

/-! ### Which requests arrive -/

namespace Site
section Refresh
variable [Aead] [Hkdf] [StoreFormat] {site : Site} {tree : FileTree} {config : AgentConfig}
  {cache : OAuthTokenCache}

/-- What a started agent has in its directory, and in its cache. -/
theorem Started.files (started : site.Started tree config cache) :
    cache.agentId = config.agentId.toText ∧ cache.daemonSocket = site.daemonSocket ∧
      FileTree.legal (agentDir site.root config.name ++ keyFile) = true ∧
      FileTree.legal (site.storePath config.name) = true ∧
      (∃ place, tree.walk [] (site.storePath config.name) = some place) ∧
      ∀ agentName, textFile tree (agentDir site.root agentName ++ keyFile) =
          textFile tree (agentDir site.root config.name ++ keyFile) →
        sealedFile tree (site.storePath agentName) = sealedFile tree (site.storePath config.name) →
        ∀ fresh, ∃ store key, site.loadStore tree agentName fresh = .ok (store, key) ∧
          Filled cache store := by
  obtain ⟨launch, port, server, home, agentPem, oauthStore, ran, oauth⟩ := started
  obtain ⟨pem, key, held, decoded, made⟩ := startProxy_ok ran
  obtain ⟨present, agentId, socket, path, store, loaded, filled⟩ :=
    loadOauthCache_some (made.symm.trans oauth)
  rw [agentPem] at held
  rw [oauthStore] at present loaded
  obtain ⟨legal, place⟩ := sealedFile_present present
  refine ⟨agentId, socket site home, (textFile_content.mp held).1, legal, place, ?_⟩
  intro agentName samePem sameStore fresh
  refine ⟨store, key, ?_, filled⟩
  have again := load_present present loaded (OAuthStore.storePath s!"agents/{agentName}") fresh
  unfold loadStore loadOauthStore identityDir
  rw [samePem, held, sameStore]
  simp only [decoded, again, bind, Except.bind]

omit [Aead] [Hkdf] [StoreFormat] in
theorem receive_ok {registrationId agentName id : String} :
    site.receive tree cache registrationId = .ok (agentName, id) ↔
      site.connects tree cache.daemonSocket = true ∧ site.oauthEnabled = true ∧
        agentName = cache.agentId ∧ id = registrationId := by
  unfold receive
  by_cases connected : site.connects tree cache.daemonSocket = true
  · rw [if_pos connected, ← dispatchRefresh_ok, and_iff_right connected]
    exact ⟨mapError_eq_ok, fun dispatched => by rw [dispatched]; rfl⟩
  · rw [if_neg connected]
    exact ⟨fun refused => (by cases refused), fun reached => absurd reached.1 connected⟩

theorem Started.addresses (started : site.Started tree config cache) (registrationId : String) :
    site.Addresses tree config cache registrationId ↔ site.Agrees tree config := by
  obtain ⟨agentId, socket, legalKey, legalStore, ⟨place, walked⟩, loads⟩ := started.files
  constructor
  · rintro ⟨agentName, received, same, _⟩
    obtain ⟨connected, enabled, rfl, _⟩ := receive_ok.mp received
    rw [socket] at connected
    rw [agentId] at same
    have plain : ∀ name ∈ storeFile, Plain name := by
      unfold Plain
      decide
    exact ⟨connected, enabled, walk_front plain (same.trans walked) walked⟩
  · rintro ⟨connected, enabled, directory⟩
    refine ⟨cache.agentId, ?_, ?_, loads _ ?_ ?_⟩
    · rw [← socket] at connected
      exact receive_ok.mpr ⟨connected, enabled, rfl, rfl⟩
    · rw [agentId]
      exact walk_under directory storeFile
    · rw [agentId]
      exact (files_same (site.legal_id _ (by decide)) legalKey (walk_under directory keyFile)).2
    · rw [agentId]
      exact (files_same (site.legal_id _ (by decide)) legalStore (walk_under directory storeFile)).1

theorem Started.directory (started : site.Started tree config cache) :
    ∃ dir, tree.walk [] (agentDir site.root config.name) = some dir := by
  obtain ⟨_, _, _, _, ⟨place, walked⟩, _⟩ := started.files
  rw [storePath, walk_append] at walked
  obtain ⟨dir, front, _⟩ := Option.bind_eq_some_iff.mp walked
  exact ⟨dir, front⟩

/-- The refresh of a started agent arrives at the store its cache came from exactly when the proxy
connects where the daemon listens, the bridge is on, and the directory of the agent is the one under
its identifier: for an ordinary name, when the identifier is the name. -/
theorem addresses_iff (started : site.Started tree config cache) (registrationId : String) :
    (site.Addresses tree config cache registrationId ↔ site.Agrees tree config) ∧
      (Path.Ordinary config.name → (site.Agrees tree config ↔ site.connects tree site.daemonSocket = true ∧
        site.oauthEnabled = true ∧ config.name = config.agentId.toText)) := by
  refine ⟨started.addresses registrationId, fun ordinary => ?_⟩
  obtain ⟨dir, walked⟩ := started.directory
  rw [← site.directory_iff ordinary config.agentId walked]
  exact ⟨fun agrees => ⟨agrees.socket, agrees.enabled, agrees.directory⟩,
    fun ⟨socket, enabled, directory⟩ => ⟨socket, enabled, directory⟩⟩

end Refresh
end Site

/-! ### An agent with a bound registration -/

namespace StandIn
open Core.StandIn

def boundMail : OAuthRegistration := { mail with domainBindings := ["mail.example"] }

def boundStore (tokens : StoredOAuthTokens) : OAuthStore := ⟨1, "", [boundMail], [tokens]⟩

theorem site_legal : FileTree.legal (Path.join [] "/home/.grokingclaw") = true := by decide

/-- A daemon with the default configuration. -/
def site : Site where
  cwd := []
  home := "/home"
  legal := site_legal
  listen := "~/.grokingclaw/daemon.sock"
  oauthEnabled := true

theorem unused : (none : Option Node) ≠ some .dir := (Option.some_ne_none _).symm

def homeTree : FileTree :=
  ((bareTree.put [] "home" .dir bareTree.root unused).put ["home"] ".grokingclaw" .dir rfl unused).put
    ["home", ".grokingclaw"] "agents" .dir rfl unused

/-- An agent in the directory `scout`. -/
def scoutFiles (bytes : List UInt8) : FileTree :=
  let agents := ["home", ".grokingclaw", "agents"]
  (((homeTree.put agents "scout" .dir rfl unused).put (agents ++ ["scout"]) "identity" .dir rfl unused).put
    (agents ++ ["scout", "identity"]) "agent.pem" (.file (.text (encodePrivateKeyPem seed))) rfl unused).put
    (agents ++ ["scout", "identity"]) "oauth-tokens.enc" (.file (.binary bytes)) rfl unused

def nilText : String := "00000000-0000-0000-0000-000000000000"

/-- An agent in a directory that is named after its identifier. -/
def nilFiles (bytes : List UInt8) : FileTree :=
  let agents := ["home", ".grokingclaw", "agents"]
  (((homeTree.put agents nilText .dir rfl unused).put (agents ++ [nilText]) "identity" .dir rfl unused).put
    (agents ++ [nilText, "identity"]) "agent.pem" (.file (.text (encodePrivateKeyPem seed))) rfl unused).put
    (agents ++ [nilText, "identity"]) "oauth-tokens.enc" (.file (.binary bytes)) rfl unused

/-- The cache that the agent is started with. -/
def boundCache (tokens : StoredOAuthTokens) (name : String) : OAuthTokenCache where
  tokens := (boundStore tokens).getCachedTokens
  bindings := (boundStore tokens).getDomainBindings
  agentId := (config name).agentId.toText
  daemonSocket := site.daemonSocket
  refreshBufferSecs := 60

/-- What the agent is started from. -/
def boundLaunch (bytes : List UInt8) : Launch :=
  { Launch.bare with
    home := some "/home", agentPem := .content (encodePrivateKeyPem seed), oauthStore := .content bytes }

theorem boundCache_loaded (tokens : StoredOAuthTokens) (name : String) {bytes : List UInt8}
    (saved : (boundStore tokens).save "" seed oauthIo.save = .ok bytes) :
    loadOauthCache (config name) (boundLaunch bytes) seed = some (boundCache tokens name) := by
  have loaded := OAuthStore.load_save aead_correct storeFormat_roundTrip saved
    (OAuthStore.storePath s!"agents/{name}") Uuid.nil
  unfold loadOauthCache
  dsimp only [boundLaunch, config, Launch.bare]
  rw [loaded]
  rfl

theorem boundLaunch_starts (name : String) (bytes : List UInt8) :
    startProxy (config name) (boundLaunch bytes) =
      .ok (some (0, agentServer (config name) (boundLaunch bytes) seed)) :=
  startProxy_key (config name) rfl rfl rfl

theorem boundCache_started (tree : FileTree) (tokens : StoredOAuthTokens) (name : String)
    {bytes : List UInt8} (saved : (boundStore tokens).save "" seed oauthIo.save = .ok bytes)
    (agentPem : textFile tree (Daemon.agentDir site.root name ++ keyFile) =
      .content (encodePrivateKeyPem seed))
    (oauthStore : sealedFile tree (site.storePath name) = .content bytes) :
    site.Started tree (config name) (boundCache tokens name) :=
  ⟨boundLaunch bytes, 0, agentServer (config name) (boundLaunch bytes) seed, rfl, agentPem.symm,
    oauthStore.symm, boundLaunch_starts name bytes, boundCache_loaded tokens name saved⟩

theorem boundStore_bytes (tokens : StoredOAuthTokens) :
    ∃ bytes, (boundStore tokens).save "" seed oauthIo.save = .ok bytes := ⟨_, rfl⟩

theorem addresses_iff_named :
    ∃ tree, site.Started tree (config nilText) (boundCache mailTokens nilText) ∧
      site.Addresses tree (config nilText) (boundCache mailTokens nilText) "mail" := by
  obtain ⟨bytes, saved⟩ := boundStore_bytes mailTokens
  have agent := boundCache_started (nilFiles bytes) mailTokens nilText saved rfl rfl
  exact ⟨nilFiles bytes, agent, (Site.addresses_iff agent "mail").1.mpr ⟨rfl, rfl, rfl⟩⟩

/-- No directory is named after the identifier. -/
theorem refresh_unfound : ¬ ∀ (site : Site) (tree : FileTree) (config : AgentConfig)
    (cache : OAuthTokenCache) (registrationId : String), site.Started tree config cache →
    site.Addresses tree config cache registrationId := by
  intro found
  obtain ⟨bytes, saved⟩ := boundStore_bytes mailTokens
  have agent := boundCache_started (scoutFiles bytes) mailTokens "scout" saved rfl rfl
  obtain ⟨agentName, received, _, loads⟩ := found site _ _ _ "mail" agent
  obtain ⟨_, _, rfl, _⟩ := Site.receive_ok.mp received
  have missing : site.loadStore (scoutFiles bytes) nilText Uuid.nil =
      .error "Agent '00000000-0000-0000-0000-000000000000' identity not found" := rfl
  obtain ⟨store, key, loaded, _⟩ := loads Uuid.nil
  have named : (boundCache mailTokens "scout").agentId = nilText := by decide
  rw [named, missing] at loaded
  cases loaded

end StandIn
end GrokingClawId.Daemon
