import GrokingClawId.Daemon.BirthFailures
import GrokingClawId.Daemon.Ttl

/-!
# Expiries that come from outside

A provider says for how many seconds a token lives, and a request says it of an agent; both numbers
have 64 bits and reach `Duration::seconds` and the addition to the clock as they are. A panic there
ends the daemon.
-/

namespace GrokingClawId.Daemon
open GrokingClawId.Core DiskM

/-- The time is within the range of `DateTime<Utc>`. -/
def DateRange (t : DateTime) : Prop := DateTime.min ≤ t ∧ t ≤ DateTime.max

/-- The duration and the time at which it ends can both be represented. -/
def Representable (now : DateTime) (seconds : Int) : Prop :=
  ChronoRange seconds ∧ DateRange (now + seconds * DateTime.nanosPerSecond)

/-! ### A duration from now -/

theorem durationSeconds_eq_ok {seconds duration : Int} :
    durationSeconds seconds = .ok duration ↔ ChronoRange seconds ∧ duration = seconds :=
  checked_eq_ok

theorem panics_durationSeconds {seconds : Int} :
    Panics (durationSeconds seconds) ↔ ¬ ChronoRange seconds :=
  panics_checked

theorem add_eq_ok {now t : DateTime} {seconds : Int} : DateTime.add now seconds = .ok t ↔
    DateRange (now + seconds * DateTime.nanosPerSecond) ∧
      t = now + seconds * DateTime.nanosPerSecond :=
  checked_eq_ok

theorem panics_add {now : DateTime} {seconds : Int} : Panics (DateTime.add now seconds) ↔
    ¬ DateRange (now + seconds * DateTime.nanosPerSecond) :=
  panics_checked

theorem expiry_eq_ok {now t : DateTime} {seconds : Int} :
    (durationSeconds seconds >>= DateTime.add now) = .ok t ↔
      Representable now seconds ∧ t = now + seconds * DateTime.nanosPerSecond := by
  simp [bind_eq_ok, durationSeconds_eq_ok, add_eq_ok, Representable, and_assoc]

theorem panics_expiry {now : DateTime} {seconds : Int} :
    Panics (durationSeconds seconds >>= DateTime.add now) ↔ ¬ Representable now seconds := by
  simp only [panics_bind, panics_durationSeconds, durationSeconds_eq_ok, panics_add, Representable]
  by_cases short : ChronoRange seconds <;> simp [short]

/-! ### Tokens of a provider -/

def TokenResponse.seconds (resp : TokenResponse) : Int := (resp.expiresIn.map Int64.toInt).getD 3600

section Tokens
variable [FromStr TokenResponse]

/-- The body is read without a panic, and its tokens expire the given seconds after it came. -/
def TokensTimed (body : String) (clock : Clock) : Prop :=
  ∀ registrationId, ¬ Panics (parseTokenResponse body registrationId clock) ∧
    ∀ tokens, parseTokenResponse body registrationId clock = .ok tokens →
      ∃ resp, FromStr.fromStr body = .ok resp ∧
        tokens.expiresAt = clock.now + TokenResponse.seconds resp * DateTime.nanosPerSecond

theorem parseTokenResponse_eq_ok {body registrationId : String} {clock : Clock}
    {tokens : StoredOAuthTokens}
    (read : parseTokenResponse body registrationId clock = .ok tokens) :
    ∃ resp, FromStr.fromStr body = .ok resp ∧
      tokens.expiresAt = clock.now + TokenResponse.seconds resp * DateTime.nanosPerSecond := by
  obtain ⟨resp, parsed, read⟩ := bind_ok read
  obtain ⟨duration, timed, read⟩ := bind_ok read
  obtain ⟨expiresAt, added, read⟩ := bind_ok read
  have whole : (durationSeconds resp.seconds >>= DateTime.add clock.now) = .ok expiresAt :=
    bind_eq_ok.mpr ⟨duration, timed, added⟩
  refine ⟨resp, mapError_eq_ok (orFault_eq_ok parsed), ?_⟩
  rw [← Except.ok.inj read]
  exact (expiry_eq_ok.mp whole).2

theorem panics_parseTokenResponse {body registrationId : String} {clock : Clock} :
    Panics (parseTokenResponse body registrationId clock) ↔
      ∃ resp, FromStr.fromStr body = .ok resp ∧
        ¬ Representable clock.now (TokenResponse.seconds resp) := by
  simp only [← panics_expiry]
  simp only [parseTokenResponse, panics_bind, not_panics_orFault, false_or, orFault_eq, mapError_eq,
    not_panics_ok, and_false, exists_false, or_false]
  rfl

theorem tokensTimed_iff (body : String) (clock : Clock) : TokensTimed body clock ↔
    ∀ resp, FromStr.fromStr body = .ok resp →
      Representable clock.now (TokenResponse.seconds resp) := by
  constructor
  · intro timed resp read
    by_contra out
    exact (timed "").1 (panics_parseTokenResponse.mpr ⟨resp, read, out⟩)
  · intro inRange registrationId
    refine ⟨fun panics => ?_, fun tokens read => parseTokenResponse_eq_ok read⟩
    obtain ⟨resp, read, out⟩ := panics_parseTokenResponse.mp panics
    exact out (inRange resp read)

end Tokens

/-! ### Agents born locally -/

/-- The lifetime that a request asks for, thirty days when it names none. -/
def requestedTtl (request : Json) : Int64 :=
  (((request.get "scope").bind (Json.get "ttl_seconds")).bind asI64).getD 2592000

theorem not_panics_liftIo {α β : Type} {m : DiskM String α} {f : α → DiskM Fault β}
    (rest : ∀ a d, ¬ Panics (f a d).1) (d : Disk) : ¬ Panics ((liftIo m >>= f) d).1 := by
  rw [bind_run, liftIo, mapError]
  cases (m d).1 with
  | error e => exact not_panics_error e
  | ok a => exact rest a _

section Local
variable [Ed25519] [Chrono] [ConfigFormat] [FromStr TemplateManifest]

theorem panics_birthLocal {root : List String} {params : BirthParams} {io : LocalIo} {d : Disk} :
    Panics (birthLocal root params io d).1 ↔ Panics (localExpiry params io) := by
  cases timed : localExpiry params io with
  | error fault => rw [birthLocal_untimed timed, panics_error, panics_error]
  | ok expiresAt =>
    have returns : ¬ Panics (birthLocal root params io d).1 := by
      rw [birthLocal_eq timed]
      refine not_panics_liftIo (fun _ => not_panics_liftIo fun _ => not_panics_liftIo fun _ _ => ?_) d
      exact not_panics_ok _
    exact ⟨fun panics => absurd panics returns, fun panics => absurd panics (not_panics_ok _)⟩

/-- The template is installed beside a config and a card that carry the expiry. -/
def Records (root : List String) (params : BirthParams) (io : LocalIo) (expiresAt : DateTime)
    (d d' : Disk) : Prop :=
  ∃ d₁ d₂, beginLocal root params io expiresAt d = (.ok (), d₁) ∧
    writeLocalIdentity root params io expiresAt d₁ = (.ok (), d₂) ∧
    Written (agentDir root params.name) (params.localConfig io expiresAt) io.seed
      (params.localCard io expiresAt).toStringPretty d₂.tree ∧
    installForAgent root params.template (agentDir root params.name) io.install d₂ = (.ok (), d')

theorem birthLocal_records {root : List String} {params : BirthParams} {io : LocalIo} {d d' : Disk}
    {result : BirthResult} (ran : birthLocal root params io d = (.ok result, d')) :
    ∃ expiresAt, localExpiry params io = .ok expiresAt ∧ Records root params io expiresAt d d' := by
  obtain ⟨expiresAt, d₁, d₂, timed, begun, wrote, installed, _⟩ := birthLocal_steps ran
  exact ⟨expiresAt, timed, d₁, d₂, begun, wrote, birthLocal_before begun wrote, installed⟩

end Local

section Birth
variable [FromValue (List String)] [FromValue ModelConfig] [FromValue ResourceConfig]

theorem fromJson_ttl {request : Json} {params : BirthParams}
    (read : BirthParams.fromJson request = .ok params) :
    params.ttlSeconds = requestedTtl request := by
  obtain ⟨template, _, read⟩ := bind_ok read
  obtain ⟨name, _, read⟩ := bind_ok read
  rw [← Except.ok.inj read]
  rfl

variable [Ed25519] [Chrono] [ConfigFormat] [FromStr TemplateManifest]

/-- The agent of the request is born or refused without a panic, and its config and its card expire
the requested seconds after its birth. -/
def BirthTimed (request : Json) (io : LocalIo) (root : List String) (d : Disk) : Prop :=
  ∀ params, BirthParams.fromJson request = .ok params → ¬ Panics (birthLocal root params io d).1 ∧
    ∀ result d', birthLocal root params io d = (.ok result, d') →
      Records root params io
        (io.now + (requestedTtl request).toInt * DateTime.nanosPerSecond) d d'

theorem birthTimed_iff (request : Json) (io : LocalIo) (root : List String) (d : Disk) :
    BirthTimed request io root d ↔ ∀ params, BirthParams.fromJson request = .ok params →
      Representable io.now (requestedTtl request).toInt := by
  refine forall₂_congr fun params read => ?_
  have own := fromJson_ttl read
  rw [panics_birthLocal, ← own]
  constructor
  · rintro ⟨returns, _⟩
    by_contra out
    exact returns (panics_expiry.mpr out)
  · intro inRange
    refine ⟨fun panics => panics_expiry.mp panics inRange, fun result d' ran => ?_⟩
    obtain ⟨expiresAt, timed, records⟩ := birthLocal_records ran
    rw [← (expiry_eq_ok.mp timed).2]
    exact records

/-- Every body of a provider and every request. -/
theorem timed_iff_representable [FromStr TokenResponse] :
    (∀ body clock, TokensTimed body clock ↔ ∀ resp, FromStr.fromStr body = .ok resp →
      Representable clock.now (TokenResponse.seconds resp)) ∧
    ∀ request io root d, BirthTimed request io root d ↔
      ∀ params, BirthParams.fromJson request = .ok params →
        Representable io.now (requestedTtl request).toInt :=
  ⟨tokensTimed_iff, birthTimed_iff⟩

end Birth

namespace StandIn

def longest : TokenResponse where
  accessToken := "token"
  tokenType := none
  expiresIn := some 9223372036854775807
  refreshToken := none
  scope := none

def longestBody : String := "\x7b\"access_token\":\"token\",\"expires_in\":9223372036854775807\x7d"

def longestBirth : Json := .obj
  [("template", .str "base"), ("name", .str "scout"),
    ("scope", .obj [("ttl_seconds", .num "9223372036854775807")])]

@[reducible] def noValues (T : Type) : FromValue T where
  fromValue _ := none

theorem not_representable (now : DateTime) : ¬ Representable now 9223372036854775807 :=
  fun inRange => absurd inRange.1.2 (by decide)

end StandIn

open scoped Core.StandIn Daemon.StandIn in
/-- The largest number of 64 bits, from either side. -/
theorem not_timed :
    letI := Core.StandIn.parser [(StandIn.longestBody, StandIn.longest)]
    letI := StandIn.noValues
    letI := StandIn.configs []
    ¬ ((∀ body clock, TokensTimed body clock) ∧ ∀ request io root d, BirthTimed request io root d) ∧
      ¬ ∀ request io root d, BirthTimed request io root d := by
  let _ := Core.StandIn.parser [(StandIn.longestBody, StandIn.longest)]
  let _ := StandIn.noValues
  let _ := StandIn.configs []
  constructor
  · rintro ⟨tokens, _⟩
    have inRange := (tokensTimed_iff StandIn.longestBody ⟨0, 0⟩).mp (tokens _ _) StandIn.longest
      (Core.StandIn.parser_head _ _ _)
    exact StandIn.not_representable 0 inRange
  · intro births
    have inRange := (birthTimed_iff StandIn.longestBirth StandIn.localIo [] ⟨StandIn.bareTree, []⟩).mp
      (births _ _ _ _) _ rfl
    exact StandIn.not_representable 0 inRange

end GrokingClawId.Daemon
