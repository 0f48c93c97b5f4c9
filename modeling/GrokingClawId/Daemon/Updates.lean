import GrokingClawId.Lib.Semver
import GrokingClawId.Core.Models

/-!
# Updates

`updates.rs`: the check for new versions of the templates and of the daemon, and the installation of
those of the templates that are not major. What the registry answers to a request is a parameter of
each check.
-/

namespace GrokingClawId.Daemon
open GrokingClawId.Core Text

structure TemplateSummary where
  name : String
  version : String

structure VersionResponse where
  version : String
  changelogUrl : Option String

inductive UpdateKind where
  | template
  | daemon
  deriving DecidableEq

structure UpdateInfo where
  kind : UpdateKind
  name : String
  currentVersion : String
  latestVersion : String
  isMajor : Bool
  changelogUrl : Option String
  checkedAt : DateTime

structure UpdateCheckResult where
  availableUpdates : List UpdateInfo
  checkedAt : DateTime
  nextCheckAt : DateTime

structure UpdateState where
  lastCheck : Option DateTime
  availableUpdates : List UpdateInfo

/-- What a request of a check comes to, by its number and its address: nothing where it fails, is
not answered with success or the answer is not read. -/
abbrev Answers := Nat → String → Option (VersionResponse × DateTime)

/-! ### The check -/

def majorComponent (version : String) : Option Nat :=
  parseUnsigned 4294967295 (version.toList.takeWhile (· ≠ '.'))

/-- A component that is not a number makes no update a major one. -/
def isMajorUpdate (current latest : String) : Bool :=
  match majorComponent current, majorComponent latest with
  | some c, some l => decide (c < l)
  | _, _ => false

/-- Any other text is an update. -/
def updateTo (kind : UpdateKind) (name current : String) (response : VersionResponse)
    (now : DateTime) :
    Option UpdateInfo :=
  if response.version ≠ current then
    some { kind, name, currentVersion := current, latestVersion := response.version,
           isMajor := isMajorUpdate current response.version, changelogUrl := response.changelogUrl,
           checkedAt := now }
  else none

def withoutSlashes (url : String) : String := String.ofList (url.toList.rdropWhile (· = '/'))

def daemonVersion : String := "0.4.1"

def checkDaemonUpdate (registryUrl : Option String) (get : Answers) : Option UpdateInfo := do
  let url ← registryUrl
  let (response, now) ← get 0 (withoutSlashes url ++ "/v1/daemon/latest")
  updateTo .daemon "grokingclaw" daemonVersion response now

def templateUrl (url : String) (template : TemplateSummary) : String :=
  s!"{withoutSlashes url}/v1/templates/{template.name}/latest"

def checkTemplate (url : String) (get : Answers) (i : Nat) (template : TemplateSummary) :
    Option UpdateInfo :=
  if template.version = "unknown" then none
  else do
    let (response, now) ← get (i + 1) (templateUrl url template)
    updateTo .template template.name template.version response now

def checkTemplateUpdates (registryUrl : Option String)
    (listed : Except String (List TemplateSummary)) (get : Answers) :
    Except String (List UpdateInfo) :=
  match registryUrl with
  | none => .ok []
  | some url => listed.map fun templates =>
    templates.zipIdx.filterMap fun (template, i) => checkTemplate url get i template

def check (intervalMinutes : UInt32) (registryUrl : Option String)
    (listed : Except String (List TemplateSummary)) (get : Answers) (now : DateTime) :
    Outcome (UpdateCheckResult × UpdateState) := do
  let templates :=
    match checkTemplateUpdates registryUrl listed get with
    | .ok updates => updates
    | .error _ => []
  let updates := (checkDaemonUpdate registryUrl get).toList ++ templates
  let next ← now.add (intervalMinutes.toNat * 60)
  .ok (⟨updates, now, next⟩, ⟨some now, updates⟩)

/-! ### The installation -/

def UpdateState.templateUpdates (state : UpdateState) : List UpdateInfo :=
  state.availableUpdates.filter fun update => update.kind = .template && !update.isMajor

/-- The calls of `install_template`, with what they come to. -/
def UpdateState.installs (state : UpdateState)
    (install : Nat → String → String → Except String Unit) :
    List (UpdateInfo × Except String Unit) :=
  state.templateUpdates.zipIdx.map fun (update, i) => (update, install i update.name update.latestVersion)

def UpdateState.applyTemplateUpdates (state : UpdateState)
    (install : Nat → String → String → Except String Unit) : List String :=
  (state.installs install).filterMap fun (update, result) =>
    result.toOption.map fun _ => s!"{update.name}: {update.currentVersion} → {update.latestVersion}"

/-! ### Safe updates -/

/-- The latest version is a newer one of the same major number. -/
def Safe (current latest : String) : Prop :=
  ∃ v w, Semver.parse current = some v ∧ Semver.parse latest = some w ∧ w.major = v.major ∧ Semver.Newer w v

/-- What the registry offers is installed already, is left to the user or is safe. -/
def Harmless (current latest : String) : Prop :=
  latest = current ∨ isMajorUpdate current latest = true ∨ Safe current latest

theorem majorComponent_parse {text : String} {v : Semver} (read : Semver.parse text = some v)
    (small : v.major ≤ 4294967295) : majorComponent text = some v.major := by
  obtain ⟨major, rest, whole, free, number⟩ := Semver.parse_major read
  have digits := Semver.number_digits number
  have front : text.toList.takeWhile (· ≠ '.') = major := by
    rw [whole, List.takeWhile_append_of_pos fun c member => by simpa using ne_of_mem_of_not_mem member free]
    simp
  cases major with
  | nil => cases digits
  | cons c major =>
    have plus : c ≠ '+' := by
      rintro rfl
      simp [parseDigits] at digits
    rw [majorComponent, front]
    simp [parseUnsigned, digits, small, plus]

/-- Among versions whose major numbers can be compared, what is harmless is the same text or
newer. -/
theorem harmless_semver {current latest : String} {v w : Semver}
    (old : Semver.parse current = some v) (new : Semver.parse latest = some w)
    (smallOld : v.major ≤ 4294967295) (smallNew : w.major ≤ 4294967295) :
    Harmless current latest ↔ latest = current ∨ Semver.Newer w v := by
  have major : isMajorUpdate current latest = true ↔ v.major < w.major := by
    simp [isMajorUpdate, majorComponent_parse old smallOld, majorComponent_parse new smallNew]
  constructor
  · rintro (same | greater | ⟨v', w', old', new', _, newer⟩)
    · exact .inl same
    · exact .inr (Semver.newer_iff.mpr (.inl (major.mp greater)))
    · obtain rfl := Option.some.inj (old.symm.trans old')
      obtain rfl := Option.some.inj (new.symm.trans new')
      exact .inr newer
  · rintro (same | newer)
    · exact .inl same
    · rcases newer.major_le.lt_or_eq with less | equal
      · exact .inr (.inl (major.mpr less))
      · exact .inr (.inr ⟨v, w, old, new, equal.symm, newer⟩)

/-- The registry offers a version for an installed template whose version is known. -/
structure Offer (registryUrl : Option String) (listed : Except String (List TemplateSummary))
    (get : Answers) (template : TemplateSummary) (response : VersionResponse) (now : DateTime) :
    Prop where
  known : template.version ≠ "unknown"
  asked : ∃ url templates i, registryUrl = some url ∧ listed = .ok templates ∧ templates[i]? = some template ∧
    get (i + 1) (templateUrl url template) = some (response, now)

theorem updateTo_eq_some {kind : UpdateKind} {name current : String} {response : VersionResponse}
    {now : DateTime} {update : UpdateInfo}
    (found : updateTo kind name current response now = some update) :
    update.kind = kind ∧ update.currentVersion = current ∧ update.latestVersion = response.version ∧
      update.isMajor = isMajorUpdate current response.version ∧ response.version ≠ current := by
  unfold updateTo at found
  split at found
  · rename_i different
    obtain rfl := Option.some.inj found
    exact ⟨rfl, rfl, rfl, rfl, different⟩
  · cases found

theorem mem_checkTemplateUpdates (registryUrl : Option String)
    (listed : Except String (List TemplateSummary)) (get : Answers) (update : UpdateInfo) :
    (∃ updates, checkTemplateUpdates registryUrl listed get = .ok updates ∧ update ∈ updates) ↔
      ∃ template response now, Offer registryUrl listed get template response now ∧
        updateTo .template template.name template.version response now = some update := by
  constructor
  · rintro ⟨updates, checked, member⟩
    unfold checkTemplateUpdates at checked
    cases registryUrl with
    | none =>
      obtain rfl := Except.ok.inj checked
      cases member
    | some url =>
      cases listed with
      | error e => cases checked
      | ok templates =>
        obtain rfl := Except.ok.inj checked
        obtain ⟨⟨template, i⟩, indexed, found⟩ := List.mem_filterMap.mp member
        dsimp only at found
        unfold checkTemplate at found
        split at found
        · cases found
        · rename_i known
          obtain ⟨⟨response, now⟩, answered, found⟩ := Option.bind_eq_some_iff.mp found
          exact ⟨template, response, now,
            ⟨known, url, templates, i, rfl, rfl, List.mem_zipIdx_iff_getElem?.mp indexed, answered⟩, found⟩
  · rintro ⟨template, response, now, ⟨known, url, templates, i, rfl, rfl, indexed, answered⟩, found⟩
    refine ⟨_, rfl, List.mem_filterMap.mpr ⟨(template, i), List.mem_zipIdx_iff_getElem?.mpr indexed, ?_⟩⟩
    dsimp only [checkTemplate]
    rw [if_neg known, answered]
    exact found

/-- What is to be installed after a check are the offers of another text that are not major. -/
theorem mem_templateUpdates {intervalMinutes : UInt32} {registryUrl : Option String}
    {listed : Except String (List TemplateSummary)} {get : Answers} {now : DateTime}
    {result : UpdateCheckResult} {state : UpdateState}
    (checked : check intervalMinutes registryUrl listed get now = .ok (result, state))
    (update : UpdateInfo) :
    update ∈ state.templateUpdates ↔ update.isMajor = false ∧
      ∃ template response now, Offer registryUrl listed get template response now ∧
        updateTo .template template.name template.version response now = some update := by
  obtain ⟨next, _, checked⟩ := bind_ok checked
  obtain ⟨_, rfl⟩ := Prod.mk.inj (Except.ok.inj checked)
  rw [← mem_checkTemplateUpdates]
  simp only [UpdateState.templateUpdates, List.mem_filter, List.mem_append, Bool.and_eq_true,
    decide_eq_true_eq, Bool.not_eq_true']
  constructor
  · rintro ⟨daemon | template, kind, minor⟩
    · have found := Option.mem_toList.mp daemon
      unfold checkDaemonUpdate at found
      obtain ⟨_, _, found⟩ := Option.bind_eq_some_iff.mp found
      obtain ⟨_, _, found⟩ := Option.bind_eq_some_iff.mp found
      exact absurd ((updateTo_eq_some found).1.symm.trans kind) (by decide)
    · refine ⟨minor, ?_⟩
      split at template
      · exact ⟨_, by assumption, template⟩
      · cases template
  · rintro ⟨minor, updates, found, member⟩
    obtain ⟨_, _, _, _, built⟩ :=
      (mem_checkTemplateUpdates registryUrl listed get update).mp ⟨updates, found, member⟩
    refine ⟨.inr ?_, (updateTo_eq_some built).1, minor⟩
    rw [found]
    exact member

theorem mem_templateUpdates_iff_installed (state : UpdateState) (update : UpdateInfo) :
    update ∈ state.templateUpdates ↔ ∃ install, (update, .ok ()) ∈ state.installs install := by
  constructor
  · intro pending
    obtain ⟨i, indexed⟩ := List.mem_iff_getElem?.mp pending
    exact ⟨fun _ _ _ => .ok (), List.mem_map.mpr ⟨(update, i), List.mem_zipIdx_iff_getElem?.mpr indexed, rfl⟩⟩
  · rintro ⟨install, installed⟩
    obtain ⟨⟨_, i⟩, indexed, same⟩ := List.mem_map.mp installed
    obtain ⟨rfl, _⟩ := Prod.mk.inj same
    exact List.mem_of_getElem? (List.mem_zipIdx_iff_getElem?.mp indexed)

/-- After a check only safe updates are installed, exactly when every offer is harmless. -/
theorem installs_safe_iff {intervalMinutes : UInt32} {registryUrl : Option String}
    {listed : Except String (List TemplateSummary)} {get : Answers} {now : DateTime}
    {result : UpdateCheckResult} {state : UpdateState}
    (checked : check intervalMinutes registryUrl listed get now = .ok (result, state)) :
    (∀ install update, (update, .ok ()) ∈ state.installs install →
      Safe update.currentVersion update.latestVersion) ↔
    ∀ template response now, Offer registryUrl listed get template response now →
      Harmless template.version response.version := by
  constructor
  · intro safe template response now offer
    by_cases same : response.version = template.version
    · exact .inl same
    · by_cases major : isMajorUpdate template.version response.version = true
      · exact .inr (.inl major)
      · have pending := (mem_templateUpdates checked _).mpr
          ⟨Bool.eq_false_iff.mpr major, template, response, now, offer, if_pos same⟩
        obtain ⟨install, installed⟩ := (mem_templateUpdates_iff_installed state _).mp pending
        exact .inr (.inr (safe install _ installed))
  · intro harmless install update installed
    have pending := (mem_templateUpdates_iff_installed state update).mpr ⟨install, installed⟩
    obtain ⟨minor, template, response, now, offer, built⟩ :=
      (mem_templateUpdates checked _).mp pending
    obtain ⟨_, current, latest, major, different⟩ := updateTo_eq_some built
    rcases harmless template response now offer with same | greater | safe
    · exact absurd same different
    · rw [major, greater] at minor
      cases minor
    · rw [current, latest]
      exact safe

namespace StandIn

def sweAgent : TemplateSummary := ⟨"swe-agent", "2.0.0"⟩

/-- The registry has one version of every template. -/
def everyLatest (version : String) : Answers := fun _ _ => some (⟨version, none⟩, 0)

theorem soon : DateTime.add 0 ((60 : UInt32).toNat * 60) = .ok 3600000000000 := by decide

end StandIn

end GrokingClawId.Daemon
