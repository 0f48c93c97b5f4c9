import GrokingClawId.Core.License
import GrokingClawId.Lib.JsonText
import GrokingClawId.Lib.Run
import GrokingClawId.Lib.Utf8
import GrokingClawId.Daemon.Supervisor

/-!
# The license of an installation

How `license.rs` loads, activates and deactivates a license. The file is text that anybody may have
written, so a tier above the free one rests on the signature over its payload alone.
-/

namespace GrokingClawId.Daemon
open GrokingClawId.Core Text Codec

/-- `GROKINGCLAW_LICENSE_PUBLIC_KEY`. -/
def licensePublicKey : String := "DrxEgwQ+E6iuwcW4aXtPc1myPvMsMg1LG/GJbBhLz04="

structure LicensePayload where
  tier : LicenseTier
  licenseeEmail : String
  issuedAt : DateTime
  deriving DecidableEq

structure LicenseFile where
  tier : LicenseTier
  licenseKey : String
  issuedAt : DateTime
  licenseeEmail : String
  limits : LicenseLimits

structure LicenseState where
  tier : LicenseTier
  limits : LicenseLimits
  licenseeEmail : Option String
  issuedAt : Option DateTime

/-- `LicenseState::default`. -/
def LicenseState.free : LicenseState := ⟨.free, LicenseLimits.forTier .free, none, none⟩

def LicenseTier.serialize : LicenseTier → String
  | .free => "free"
  | .indie => "indie"
  | .team => "team"
  | .enterprise => "enterprise"

def maxValue (max : Option UInt32) : Json := Json.ofOption (fun n => .num (toString n)) max

def LicenseLimits.toValue (limits : LicenseLimits) : Json := .obj
  [("max_agents", maxValue limits.maxAgents), ("max_mesh_nodes", maxValue limits.maxMeshNodes),
    ("max_proxy_agents", maxValue limits.maxProxyAgents),
    ("features", .arr (limits.features.map fun feature => .str feature.display))]

/-- What the license file becomes when a write fails, besides how the calls end. -/
structure LicenseIo where
  createDir : Except String Unit
  write : Except String Unit
  left : TextFile

section License
variable [Ed25519] [Chrono]

def LicensePayload.toValue (payload : LicensePayload) : Json := .obj
  [("tier", .str (LicenseTier.serialize payload.tier)), ("licensee_email", .str payload.licenseeEmail),
    ("issued_at", .str (Chrono.serialize payload.issuedAt))]

/-- The text that a license key signs. -/
def LicensePayload.text (payload : LicensePayload) : String := payload.toValue.render

def LicenseFile.toValue (license : LicenseFile) : Json := .obj
  [("tier", .str (LicenseTier.serialize license.tier)), ("license_key", .str license.licenseKey),
    ("issued_at", .str (Chrono.serialize license.issuedAt)), ("licensee_email", .str license.licenseeEmail),
    ("limits", LicenseLimits.toValue license.limits)]

def LicenseFile.payload (license : LicenseFile) : LicensePayload :=
  ⟨license.tier, license.licenseeEmail, license.issuedAt⟩

/-- The limits that the file states are not used. -/
def LicenseFile.state (license : LicenseFile) : LicenseState :=
  ⟨license.tier, LicenseLimits.forTier license.tier, some license.licenseeEmail, some license.issuedAt⟩

def validateLicenseKey (license : LicenseFile) : Except String Unit := do
  let valid ← (verify licensePublicKey license.payload.text.toUTF8 license.licenseKey).mapError
    fun _ => "Failed to verify license signature"
  if !valid then .error "Invalid license key — signature verification failed" else .ok ()

def licenseFilePath (home : Option String) : Except String String :=
  (orErr home "Could not determine home directory").map fun home => s!"{home}/.grokingclaw/license.json"

variable [FromStr LicenseFile] [FromStr LicensePayload]

def loadLicenseFromPath (path : String) (file : TextFile) : Except String LicenseState :=
  match file with
  | .absent | .unreadable _ => .error s!"Failed to read license file: {path}"
  | .content content => do
    let license ← (FromStr.fromStr content).mapError fun _ =>
      s!"Failed to parse license file: {path}"
    validateLicenseKey license
    .ok license.state

def loadLicenseFromPathInner (home : Option String) (file : TextFile) :
    Except String LicenseState := do
  let path ← licenseFilePath home
  match file with
  | .absent => .ok .free
  | file => loadLicenseFromPath path file

def loadLicense (home : Option String) (file : TextFile) : LicenseState :=
  (loadLicenseFromPathInner home file).toOption.getD .free

/-- The license that a key `<payload>:<signature>` stands for. -/
def readLicenseKey (key : String) : Except String LicenseFile := do
  let (payloadB64, signatureB64) ← orErr (splitOnce ':' key.toList)
    "Invalid license key format. Expected format: <payload>:<signature>\nGet a valid key at https://grokingclaw.com"
  let payloadJson ← orErr (unbase64 (String.ofList payloadB64))
    "Invalid license key — failed to decode payload"
  let payloadStr ← orErr (Utf8.decode payloadJson) "Invalid license key — payload is not valid UTF-8"
  let payload ← (FromStr.fromStr payloadStr : Except String LicensePayload).mapError
    fun _ => "Invalid license key — payload format error"
  .ok { tier := payload.tier, licenseKey := String.ofList signatureB64, issuedAt := payload.issuedAt,
        licenseeEmail := payload.licenseeEmail, limits := LicenseLimits.forTier payload.tier }

/-- What is checked before the file is touched. -/
def checkedLicense (home : Option String) (key : String) (io : LicenseIo) :
    Except String (LicenseFile × String) := do
  let license ← readLicenseKey key
  validateLicenseKey license
  let path ← licenseFilePath home
  io.createDir.mapError fun _ => "Failed to create license directory"
  .ok (license, path)

omit [FromStr LicensePayload] [FromStr LicenseFile] in
theorem validateLicenseKey_ok {license : LicenseFile} :
    validateLicenseKey license = .ok () ↔
      verify licensePublicKey license.payload.text.toUTF8 license.licenseKey = .ok true := by
  unfold validateLicenseKey
  cases verified : verify licensePublicKey license.payload.text.toUTF8 license.licenseKey with
  | error e => simp [Except.mapError, bind, Except.bind]
  | ok valid => cases valid <;> simp [Except.mapError, bind, Except.bind]

omit [FromStr LicensePayload] in
theorem loadLicenseFromPath_ok {path : String} {file : TextFile} {state : LicenseState} :
    loadLicenseFromPath path file = .ok state ↔ ∃ content, ∃ license : LicenseFile,
      file = .content content ∧ FromStr.fromStr content = .ok license ∧
      verify licensePublicKey license.payload.text.toUTF8 license.licenseKey = .ok true ∧
      state = license.state := by
  constructor
  · intro loaded
    cases file with
    | absent => cases loaded
    | unreadable e => cases loaded
    | content content =>
      obtain ⟨license, parsed, loaded⟩ := bind_ok loaded
      obtain ⟨_, valid, loaded⟩ := bind_ok loaded
      exact ⟨content, license, rfl, mapError_eq_ok parsed, validateLicenseKey_ok.mp valid,
        (Except.ok.inj loaded).symm⟩
  · rintro ⟨content, license, rfl, parsed, verified, rfl⟩
    have valid := validateLicenseKey_ok.mpr verified
    simp only [loadLicenseFromPath, parsed, Except.mapError, valid, bind, Except.bind]

omit [FromStr LicensePayload] in
/-- A license that is loaded is the free one, or the file has it with a signature over it. -/
theorem loadLicense_cases (home : Option String) (file : TextFile) :
    loadLicense home file = .free ∨ ∃ content, ∃ license : LicenseFile,
      file = .content content ∧ FromStr.fromStr content = .ok license ∧
      verify licensePublicKey license.payload.text.toUTF8 license.licenseKey = .ok true ∧
      loadLicense home file = license.state := by
  unfold loadLicense
  cases loaded : loadLicenseFromPathInner home file with
  | error e => exact .inl rfl
  | ok state =>
    obtain ⟨path, _, rest⟩ := bind_ok loaded
    cases file with
    | absent =>
      left
      exact (Except.ok.inj rest).symm
    | unreadable e => cases rest
    | content content =>
      obtain ⟨content, license, same, parsed, verified, rfl⟩ := loadLicenseFromPath_ok.mp rest
      exact .inr ⟨content, license, same, parsed, verified, rfl⟩

omit [Ed25519] [FromStr LicensePayload] [FromStr LicenseFile] in
/-- The signed text says which payload it is of. -/
theorem LicensePayload.text_inj (serialize_inj : Function.Injective Chrono.serialize)
    {payload payload' : LicensePayload} (same : payload.text = payload'.text) :
    payload = payload' := by
  have wellFormed (p : LicensePayload) : p.toValue.WellFormed := by
    refine .obj (show ["tier", "licensee_email", "issued_at"].Nodup by decide) fun field member => ?_
    simp only [List.mem_cons, List.not_mem_nil, or_false] at member
    rcases member with rfl | rfl | rfl <;> exact .str _
  have values := Json.WellFormed.render_inj (wellFormed payload) (wellFormed payload') same
  simp only [LicensePayload.toValue, Json.obj.injEq, List.cons.injEq, Prod.mk.injEq, Json.str.injEq,
    true_and, and_true] at values
  obtain ⟨tiers, emails, times⟩ := values
  have tier : payload.tier = payload'.tier := by
    cases h : payload.tier <;> cases h' : payload'.tier <;> rw [h, h'] at tiers <;>
      first | rfl | exact absurd tiers (by decide)
  cases payload
  cases payload'
  obtain rfl := serialize_inj times
  exact congr (congrArg₂ LicensePayload.mk tier emails) rfl

omit [FromStr LicenseFile] in
theorem checkedLicense_ok {home : Option String} {key : String} {io : LicenseIo}
    {license : LicenseFile} {path : String}
    (checked : checkedLicense home key io = .ok (license, path)) :
    readLicenseKey key = .ok license ∧
      verify licensePublicKey license.payload.text.toUTF8 license.licenseKey = .ok true ∧
      licenseFilePath home = .ok path := by
  obtain ⟨license', read, rest⟩ := bind_ok checked
  obtain ⟨_, valid, rest⟩ := bind_ok rest
  obtain ⟨path', found, rest⟩ := bind_ok rest
  obtain ⟨_, _, same⟩ := bind_ok rest
  obtain ⟨rfl, rfl⟩ := Prod.mk.inj (Except.ok.inj same)
  exact ⟨read, validateLicenseKey_ok.mp valid, found⟩

omit [Ed25519] [Chrono] [FromStr LicenseFile] in
/-- A key that is read, whatever it was signed over. -/
theorem readLicenseKey_key {text : String} {payload : LicensePayload}
    (parsed : FromStr.fromStr text = .ok payload) (signature : String) :
    readLicenseKey (base64 (Utf8.encode text) ++ ":" ++ signature) =
      .ok { tier := payload.tier, licenseKey := signature, issuedAt := payload.issuedAt,
            licenseeEmail := payload.licenseeEmail, limits := LicenseLimits.forTier payload.tier } := by
  have parts : splitOnce ':' (base64 (Utf8.encode text) ++ ":" ++ signature).toList =
      some (base64Encode (Utf8.encode text), signature.toList) := by
    rw [String.toList_append, String.toList_append, base64, String.toList_ofList, List.append_assoc]
    exact splitOnce_append (not_mem_base64Encode (by decide) _) _
  have payloadJson : unbase64 (String.ofList (base64Encode (Utf8.encode text))) =
      some (Utf8.encode text) :=
    unbase64_base64 _
  simp only [readLicenseKey, parts, orErr_some, payloadJson, Utf8.decode_encode, parsed,
    Except.mapError, bind, Except.bind, String.ofList_toList]

/-! ### Runs -/

/-- A call of the CLI, or anything else that leaves something in the place of the license. -/
inductive LicenseEvent where
  | activate (key : String) (io : LicenseIo)
  | deactivate (remove : Except String Unit)
  | edit (file : TextFile)

/-- The file of a license that is activated is read back as it was written. -/
def LicenseEvent.ReadsBack : LicenseEvent → Prop
  | .activate key _ => ∀ license : LicenseFile, readLicenseKey key = .ok license →
    FromStr.fromStr (license.toValue.pretty 0) = .ok license
  | _ => True

/-- Whatever is done to the file of a license that was activated, with its key in it the license in
force is the activated one or the free one. -/
theorem activated_binds (serialize_inj : Function.Injective Chrono.serialize)
    {home home' : Option String} {key : String} {io : LicenseIo} {license : LicenseFile}
    {path : String} (activated : checkedLicense home key io = .ok (license, path))
    {content : String} {tampered : LicenseFile} (parsed : FromStr.fromStr content = .ok tampered)
    (sameKey : tampered.licenseKey = license.licenseKey)
    (binding : Ed25519.BindingKey licensePublicKey [license.payload.text.toUTF8,
      tampered.payload.text.toUTF8]) :
    loadLicense home' (.content content) = .free ∨
    loadLicense home' (.content content) = license.state := by
  obtain ⟨_, verified, _⟩ := checkedLicense_ok activated
  rcases loadLicense_cases home' (.content content) with
    free | ⟨_, loaded, same, parsed', verified', state⟩
  · exact .inl free
  obtain rfl := TextFile.content.inj same
  obtain rfl := Except.ok.inj (parsed.symm.trans parsed')
  rw [sameKey] at verified'
  have texts := verify_binding binding (by simp) (by simp) verified verified'
  have payloads := LicensePayload.text_inj serialize_inj (String.toByteArray_inj.mp texts)
  right
  rw [state]
  obtain ⟨tiers, emails, times⟩ := LicensePayload.mk.inj payloads
  simp only [LicenseFile.state, tiers, emails, times]

end License

/-! ### An activated license -/

namespace StandIn
open GrokingClawId.Core.StandIn

def teamPayload : LicensePayload := ⟨.team, "team@example.com", 0⟩

def teamSignature : String := base64 (List.replicate 64 1)

def licenseOf (payload : LicensePayload) : LicenseFile where
  tier := payload.tier
  licenseKey := teamSignature
  issuedAt := payload.issuedAt
  licenseeEmail := payload.licenseeEmail
  limits := LicenseLimits.forTier payload.tier

def teamKey : String := base64 (Utf8.encode teamPayload.text) ++ ":" ++ teamSignature

def licenseIo : LicenseIo := ⟨.ok (), .ok (), .absent⟩

theorem team_verifies :
    letI := marking teamPayload.text.toUTF8
    verify licensePublicKey teamPayload.text.toUTF8 teamSignature = .ok true := by
  obtain ⟨key, decoded⟩ : ∃ key : Bytes 32, unbase64 licensePublicKey = some key.val :=
    ⟨⟨(unbase64 licensePublicKey).getD [], by decide⟩, by decide⟩
  have signature : tryInto 64 (List.replicate 64 (1 : UInt8)) =
      some ⟨List.replicate 64 1, List.length_replicate⟩ := tryInto_val ⟨_, List.length_replicate⟩
  unfold verify
  simp only [decoded, teamSignature, unbase64_base64, orErr_some, tryInto_val, signature, bind,
    Except.bind]
  have same : List.replicate 64 (1 : UInt8) =
      List.replicate 64 (if teamPayload.text.toUTF8.data = teamPayload.text.toUTF8.data then 1 else 0) := by
    rw [if_pos rfl]
  exact (if_pos rfl).trans (congrArg Except.ok (decide_eq_true same))

theorem team_checked :
    letI := marking teamPayload.text.toUTF8
    letI := parser [(teamPayload.text, teamPayload)]
    checkedLicense (some "/home/ada") teamKey licenseIo =
      .ok (licenseOf teamPayload, "/home/ada/.grokingclaw/license.json") := by
  let _ := marking teamPayload.text.toUTF8
  let _ := parser [(teamPayload.text, teamPayload)]
  have read : readLicenseKey teamKey = .ok (licenseOf teamPayload) :=
    readLicenseKey_key (parser_head _ _ _) teamSignature
  have valid : validateLicenseKey (licenseOf teamPayload) = .ok () :=
    validateLicenseKey_ok.mpr team_verifies
  simp only [checkedLicense, read, valid, bind, Except.bind]
  rfl

/-- The license of a team with the tier rewritten. -/
def tampered : LicenseFile := licenseOf ⟨.enterprise, "team@example.com", 0⟩

theorem activated_binds_tampered :
    letI := marking teamPayload.text.toUTF8
    letI := parser [("tampered", tampered)]
    loadLicense (some "/home/ada") (.content "tampered") = .free ∨
      loadLicense (some "/home/ada") (.content "tampered") = (licenseOf teamPayload).state := by
  let _ := marking teamPayload.text.toUTF8
  let _ := parser [(teamPayload.text, teamPayload)]
  let _ := parser [("tampered", tampered)]
  exact activated_binds (fun _ _ => toString_int_inj) team_checked (parser_head "tampered" tampered []) rfl
    (fun key _ => marking_binding _ _ key)

end StandIn
end GrokingClawId.Daemon
