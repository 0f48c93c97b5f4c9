import GrokingClawId.Lib.Run
import GrokingClawId.Daemon.Updates

/-!
# Checks and installations over time

A check reads the installed templates first and keeps what it has found last, when nobody applies
updates; what is applied is what the last check has kept, however often and whatever has been installed
since. Several checks and several applications may be under way.
-/

namespace GrokingClawId.Daemon
open GrokingClawId.Core

/-- The templates as `list_local` gives them, what the last check has kept, the readings of the checks
under way and what is left of the applications under way. -/
structure Updating where
  templates : List TemplateSummary
  state : UpdateState
  reading : List (Except String (List TemplateSummary))
  applying : List (List UpdateInfo)

/-- `change` is everything else that installs or changes templates, such as `templates.install`. -/
inductive UpdateEvent where
  | list (failed : Option String)
  | finish (i : Nat) (get : Answers) (now : DateTime)
  | apply
  | install (i : Nat) (result : Except String Unit) (after : List TemplateSummary)
  | change (after : List TemplateSummary)

namespace Updating

def start (templates : List TemplateSummary) : Updating := ⟨templates, ⟨none, []⟩, [], []⟩

section Step
variable (intervalMinutes : UInt32) (registryUrl : Option String)

def step (s : Updating) : UpdateEvent → Option Updating
  | .list none => some { s with reading := s.reading ++ [.ok s.templates] }
  | .list (some e) => some { s with reading := s.reading ++ [.error e] }
  | .finish i get now =>
    -- The lock for writing waits for the applications, which hold it for reading.
    if !s.applying.isEmpty then none
    else do
      let listed ← s.reading[i]?
      let (_, state) ← (check intervalMinutes registryUrl listed get now).toOption
      some { s with state, reading := s.reading.eraseIdx i }
  | .apply =>
    match s.state.templateUpdates with
    | [] => some s
    | updates => some { s with applying := s.applying ++ [updates] }
  | .install i _ after =>
    match s.applying[i]? with
    | some (_ :: []) => some { s with templates := after, applying := s.applying.eraseIdx i }
    | some (_ :: rest) => some { s with templates := after, applying := s.applying.set i rest }
    | _ => none
  | .change after => some { s with templates := after }

end Step

/-- The template is installed, and each version of it that is. -/
def Over (s : Updating) (update : UpdateInfo) (P : String → Prop) : Prop :=
  (∃ template ∈ s.templates, template.name = update.name) ∧
    ∀ template ∈ s.templates, template.name = update.name → P template.version

/-- The step installs the update. -/
def Installs (s : Updating) (update : UpdateInfo) : UpdateEvent → Prop
  | .install i (.ok ()) _ => ∃ rest, s.applying[i]? = some (update :: rest)
  | _ => False

/-- What is installed is safe over what is there. -/
def SafeStep (s : Updating) (e : UpdateEvent) : Prop :=
  ∀ update, s.Installs update e → s.Over update fun version => Safe version update.latestVersion

/-- The registry offers a check only what is harmless, and what is installed has the version that the check
has read. -/
def Keeps (registryUrl : Option String) (s : Updating) (e : UpdateEvent) : Prop :=
  (∀ i get now, e = .finish i get now → ∀ listed, s.reading[i]? = some listed →
    ∀ template response at_, Offer registryUrl listed get template response at_ →
      Harmless template.version response.version) ∧
  ∀ update, s.Installs update e → s.Over update fun version => version = update.currentVersion

/-- What is going to be installed is safe over what the check has read. -/
def Sound (s : Updating) : Prop :=
  ∀ update, (update ∈ s.state.templateUpdates ∨ ∃ updates ∈ s.applying, update ∈ updates) →
    Safe update.currentVersion update.latestVersion

theorem start_sound (templates : List TemplateSummary) : (start templates).Sound := by
  rintro update (pending | ⟨_, member, _⟩)
  · cases pending
  · cases member

variable {intervalMinutes : UInt32} {registryUrl : Option String}

/-! ### What a step does -/

theorem finish_some {s s' : Updating} {i : Nat} {get : Answers} {now : DateTime}
    (stepped : step intervalMinutes registryUrl s (.finish i get now) = some s') :
    s.applying = [] ∧ ∃ listed result, s.reading[i]? = some listed ∧
      check intervalMinutes registryUrl listed get now = .ok (result, s'.state) ∧
        s'.applying = s.applying := by
  unfold step at stepped
  dsimp only at stepped
  split at stepped
  · cases stepped
  · rename_i idle
    obtain ⟨listed, read, stepped⟩ := Option.bind_eq_some_iff.mp stepped
    obtain ⟨⟨result, state⟩, checked, stepped⟩ := Option.bind_eq_some_iff.mp stepped
    obtain rfl := Option.some.inj stepped
    refine ⟨by simpa using idle, listed, result, read, ?_, rfl⟩
    cases outcome : check intervalMinutes registryUrl listed get now with
    | error fault =>
      rw [outcome] at checked
      cases checked
    | ok found =>
      rw [outcome] at checked
      exact congrArg Except.ok (Option.some.inj checked)

/-- What is left of an application was part of it. -/
theorem install_some {s s' : Updating} {i : Nat} {result : Except String Unit} {after : List TemplateSummary}
    (stepped : step intervalMinutes registryUrl s (.install i result after) = some s') :
    s'.state = s.state ∧ ∀ updates ∈ s'.applying, ∃ before ∈ s.applying, updates ⊆ before := by
  unfold step at stepped
  dsimp only at stepped
  split at stepped
  · obtain rfl := Option.some.inj stepped
    exact ⟨rfl, fun updates member => ⟨updates, List.mem_of_mem_eraseIdx member, List.Subset.refl _⟩⟩
  · rename_i first rest _ current
    obtain rfl := Option.some.inj stepped
    refine ⟨rfl, fun updates member => ?_⟩
    rcases List.mem_or_eq_of_mem_set member with old | rfl
    · exact ⟨updates, old, List.Subset.refl _⟩
    · exact ⟨first :: updates, List.mem_of_getElem? current, List.subset_cons_self _ _⟩
  · cases stepped

/-! ### Safety over a run -/

/-- A check whose offers are harmless keeps only what is safe over what it has read. -/
theorem check_sound {listed : Except String (List TemplateSummary)} {get : Answers} {now : DateTime}
    {result : UpdateCheckResult} {state : UpdateState}
    (checked : check intervalMinutes registryUrl listed get now = .ok (result, state))
    (harmless : ∀ template response at_, Offer registryUrl listed get template response at_ →
      Harmless template.version response.version) {update : UpdateInfo}
        (pending : update ∈ state.templateUpdates) :
    Safe update.currentVersion update.latestVersion := by
  obtain ⟨install, installed⟩ := (mem_templateUpdates_iff_installed state update).mp pending
  exact (installs_safe_iff checked).mpr harmless install update installed

theorem step_sound {s s' : Updating} {e : UpdateEvent} (sound : s.Sound) (keeps : s.Keeps registryUrl e)
    (stepped : step intervalMinutes registryUrl s e = some s') : s'.Sound := by
  cases e with
  | list failed =>
    cases failed with
    | none =>
      obtain rfl := Option.some.inj stepped
      exact sound
    | some e =>
      obtain rfl := Option.some.inj stepped
      exact sound
  | finish i get now =>
    obtain ⟨idle, listed, result, read, checked, same⟩ := finish_some stepped
    rintro update (pending | ⟨updates, member, _⟩)
    · exact check_sound checked (keeps.1 i get now rfl listed read) pending
    · rw [same, idle] at member
      cases member
  | apply =>
    unfold step at stepped
    dsimp only at stepped
    split at stepped
    · obtain rfl := Option.some.inj stepped
      exact sound
    · obtain rfl := Option.some.inj stepped
      rintro update (pending | ⟨updates, member, listed⟩)
      · exact sound update (.inl pending)
      · rcases List.mem_append.mp member with old | new
        · exact sound update (.inr ⟨updates, old, listed⟩)
        · obtain rfl := List.mem_singleton.mp new
          exact sound update (.inl listed)
  | install i result after =>
    obtain ⟨same, shrinks⟩ := install_some stepped
    rintro update (pending | ⟨updates, member, listed⟩)
    · exact sound update (.inl (same ▸ pending))
    · obtain ⟨before, old, subset⟩ := shrinks updates member
      exact sound update (.inr ⟨before, old, subset listed⟩)
  | change after =>
    obtain rfl := Option.some.inj stepped
    exact sound

theorem Installs.pending {s : Updating} {update : UpdateInfo} {e : UpdateEvent}
    (installs : s.Installs update e) :
    ∃ updates ∈ s.applying, update ∈ updates := by
  unfold Installs at installs
  split at installs
  · obtain ⟨rest, current⟩ := installs
    exact ⟨_, List.mem_of_getElem? current, List.mem_cons_self⟩
  · cases installs

theorem safeStep_of_keeps {s : Updating} {e : UpdateEvent} (sound : s.Sound) (keeps : s.Keeps registryUrl e) :
    s.SafeStep e := by
  intro update installs
  obtain ⟨there, versions⟩ := keeps.2 update installs
  refine ⟨there, fun template member named => ?_⟩
  rw [versions template member named]
  exact sound update (.inr installs.pending)

/-- Every update that is installed is safe in every run whose checks are offered only what is harmless and
whose applications find the templates as the check has. Right after a check the part on the offers is
exact: only safe updates are going to be installed when, and only when, every offer is harmless. -/
theorem updates_safe (intervalMinutes : UInt32) (registryUrl : Option String) :
    (∀ templates events, Run.Each (step intervalMinutes registryUrl) (Keeps registryUrl)
      (start templates) events →
      Run.Each (step intervalMinutes registryUrl) SafeStep (start templates) events) ∧
    ∀ listed get now result state, check intervalMinutes registryUrl listed get now = .ok (result, state) →
      ((∀ install update, (update, .ok ()) ∈ state.installs install →
        Safe update.currentVersion update.latestVersion) ↔
      ∀ template response at_, Offer registryUrl listed get template response at_ →
        Harmless template.version response.version) :=
  ⟨fun templates _ => Run.each_imp (fun _ _ _ => step_sound) (fun _ _ => safeStep_of_keeps)
    (start_sound templates),
    fun _ _ _ _ _ => installs_safe_iff⟩

/-! ### One template -/

namespace StandIn
open Daemon.StandIn

def url : Option String := some "https://registry"

/-- The registry is asked once, and what it offers is about to be applied. -/
def asked (version : String) : List UpdateEvent := [.list none, .finish 0 (everyLatest version) 0, .apply]

def applied (version : String) : List UpdateEvent :=
  asked version ++ [.install 0 (.ok ()) [⟨"swe-agent", version⟩]]

def view (s : Updating) : List (String × String) × List (List (String × String × String)) :=
  (s.templates.map fun template => (template.name, template.version),
    s.applying.map fun updates => updates.map fun u => (u.name, u.currentVersion, u.latestVersion))

/-- The version 2.0.0 is installed, and one update of it is about to be. -/
structure Due (version : String) (s : Updating) : Prop where
  templates : ∃ template, s.templates = [template] ∧ template.name = "swe-agent" ∧ template.version = "2.0.0"
  applying : ∃ update, s.applying = [[update]] ∧ update.name = "swe-agent" ∧ update.currentVersion = "2.0.0" ∧
    update.latestVersion = version

theorem asked_due (version : String)
    (shape : (Run (step 60 url) (start [sweAgent]) (asked version)).map view =
    some ([("swe-agent", "2.0.0")], [[("swe-agent", "2.0.0", version)]])) :
    ∃ s, Run (step 60 url) (start [sweAgent]) (asked version) = some s ∧ Due version s := by
  obtain ⟨s, ran, shape⟩ := Option.map_eq_some_iff.mp shape
  obtain ⟨templates, applying⟩ := Prod.mk.inj shape
  obtain ⟨template, one, named⟩ := List.map_eq_singleton_iff.mp templates
  obtain ⟨updates, single, listed⟩ := List.map_eq_singleton_iff.mp applying
  obtain ⟨update, rfl, read⟩ := List.map_eq_singleton_iff.mp listed
  obtain ⟨name, version'⟩ := Prod.mk.inj named
  obtain ⟨name', read⟩ := Prod.mk.inj read
  obtain ⟨current, latest⟩ := Prod.mk.inj read
  exact ⟨s, ran, ⟨template, one, name, version'⟩, ⟨update, single, name', current, latest⟩⟩

end StandIn

theorem updates_safe_patch :
    (Run (step 60 StandIn.url) (start [Daemon.StandIn.sweAgent]) (StandIn.applied "2.0.1")).isSome = true ∧
    Run.Each (step 60 StandIn.url) SafeStep (start [Daemon.StandIn.sweAgent]) (StandIn.applied "2.0.1") := by
  refine ⟨by decide +kernel, (updates_safe 60 StandIn.url).1 _ _ ?_⟩
  obtain ⟨s, ran, ⟨template, templates, named, version⟩, update, applying, name, current, _⟩ :=
    StandIn.asked_due "2.0.1" (by decide +kernel)
  intro first listed
  obtain rfl := Option.some.inj listed
  refine ⟨⟨fun _ _ _ same => (nomatch same), fun _ => False.elim⟩, fun second finished =>
    ⟨⟨?_, fun _ => False.elim⟩,
    fun third began => ⟨⟨fun _ _ _ same => (nomatch same), fun _ => False.elim⟩, fun fourth _ =>
      ⟨⟨fun _ _ _ same => (nomatch same), ?_⟩, trivial⟩⟩⟩⟩
  · rintro i get now same listed read template response at_ ⟨_, url, found, j, _, rfl, indexed, answered⟩
    obtain ⟨rfl, rfl, rfl⟩ := UpdateEvent.finish.inj same
    obtain rfl := Except.ok.inj (Option.some.inj read)
    obtain rfl := List.mem_singleton.mp (List.mem_of_getElem? indexed)
    obtain ⟨rfl, _⟩ := Prod.mk.inj (Option.some.inj answered)
    exact (harmless_semver (v := ⟨2, 0, 0, none⟩) (w := ⟨2, 0, 1, none⟩) rfl rfl (by decide) (by decide)).mpr
      (.inr (by decide))
  · have reached : Run (step 60 StandIn.url) (start [Daemon.StandIn.sweAgent]) (StandIn.asked "2.0.1") =
      some third :=
      Run.cons rfl (Run.cons finished (Run.cons began rfl))
    obtain rfl := Option.some.inj (ran.symm.trans reached)
    rintro other ⟨rest, head⟩
    rw [applying] at head
    obtain ⟨rfl, _⟩ := List.cons.inj (Option.some.inj head)
    rw [Over, templates]
    refine ⟨⟨template, List.mem_cons_self, named.trans name.symm⟩, fun found member _ => ?_⟩
    rw [List.mem_singleton.mp member, version, current]

/-- An older version of the template is installed over a newer one. -/
theorem updates_downgrade : ¬ ∀ (intervalMinutes : UInt32) (registryUrl : Option String)
    (templates : List TemplateSummary) (events : List UpdateEvent),
    Run.Each (step intervalMinutes registryUrl) SafeStep (start templates) events := by
  intro safe
  obtain ⟨s, ran, ⟨template, templates, named, version⟩, update, applying, name, _, latest⟩ :=
    StandIn.asked_due "1.0.0" (by decide +kernel)
  have current : s.applying[0]? = some [update] := by rw [applying]; rfl
  have stepped : ∃ s', step 60 StandIn.url s (.install 0 (.ok ()) [⟨"swe-agent", "1.0.0"⟩]) = some s' := by
    simp only [step, current]
    exact ⟨_, rfl⟩
  obtain ⟨s', stepped⟩ := stepped
  have installed :=
    Run.each_last (safe 60 StandIn.url [Daemon.StandIn.sweAgent] (StandIn.applied "1.0.0")) ran stepped
  obtain ⟨_, versions⟩ := installed update ⟨[], current⟩
  have older := versions template (by rw [templates]; exact List.mem_cons_self) (named.trans name.symm)
  rw [version, latest] at older
  obtain ⟨v, w, old, new, same, _⟩ := older
  obtain rfl : ⟨2, 0, 0, none⟩ = v := Option.some.inj old
  obtain rfl : ⟨1, 0, 0, none⟩ = w := Option.some.inj new
  exact absurd same (by decide)

end Updating
end GrokingClawId.Daemon
