import GrokingClawId.Core.Models

/-!
# License tiers

`license.rs`: what each tier allows. The limits are always those of the tier, which comes from the license
file of the daemon.
-/

namespace GrokingClawId.Core

inductive LicenseTier where
  | free | indie | team | enterprise
  deriving DecidableEq, Repr

def LicenseTier.display : LicenseTier → String
  | free => "Free"
  | indie => "Indie ($99)"
  | team => "Team ($199)"
  | enterprise => "Enterprise ($399)"

inductive LicenseFeature where
  | mesh | birthLocal | birthMesh | birthRemote | unlimitedProxy | complianceReporting | onChainAnchoring
  | agentMonitoring | privateRegistry
  deriving DecidableEq, Repr

def LicenseFeature.display : LicenseFeature → String
  | mesh => "mesh"
  | birthLocal => "birth_local"
  | birthMesh => "birth_mesh"
  | birthRemote => "birth_remote"
  | unlimitedProxy => "unlimited_proxy"
  | complianceReporting => "compliance_reporting"
  | onChainAnchoring => "on_chain_anchoring"
  | agentMonitoring => "agent_monitoring"
  | privateRegistry => "private_registry"

/-- No number means no limit. -/
structure LicenseLimits where
  maxAgents : Option UInt32
  maxMeshNodes : Option UInt32
  maxProxyAgents : Option UInt32
  features : List LicenseFeature

def LicenseLimits.forTier : LicenseTier → LicenseLimits
  | .free => ⟨some 5, some 0, some 1, []⟩
  | .indie => ⟨some 25, some 3, none, [.unlimitedProxy, .birthLocal, .mesh]⟩
  | .team =>
    ⟨some 100, some 10, none, [.unlimitedProxy, .birthLocal, .birthMesh, .mesh, .complianceReporting]⟩
  | .enterprise =>
    ⟨none, none, none, [.unlimitedProxy, .birthLocal, .birthMesh, .birthRemote, .mesh, .complianceReporting,
      .onChainAnchoring, .agentMonitoring, .privateRegistry]⟩

namespace LicenseTier

def limits (tier : LicenseTier) : LicenseLimits := LicenseLimits.forTier tier

def below (tier : LicenseTier) (max : Option UInt32) (what : String) (current : UInt32) :
    Except String Unit :=
  match max with
  | none => .ok ()
  | some max =>
    if max ≤ current then
      .error (s!"{tier.display} tier limited to {max} {what} (currently at {current}). " ++
        "Upgrade at https://grokingclaw.com")
    else .ok ()

def checkLimit (tier : LicenseTier) (limitName : String) (current : UInt32) : Except String Unit :=
  match limitName with
  | "agents" => tier.below tier.limits.maxAgents "agents" current
  | "mesh_nodes" => tier.below tier.limits.maxMeshNodes "mesh nodes" current
  | "proxy_agents" => tier.below tier.limits.maxProxyAgents "proxy agents" current
  | _ => .error s!"Unknown limit: '{limitName}'"

def checkFeature (tier : LicenseTier) (feature : LicenseFeature) : Except String Unit :=
  if feature ∈ tier.limits.features then .ok ()
  else
    .error (s!"{feature.display} feature requires a higher license tier (current: {tier.display}). " ++
      "Upgrade at https://grokingclaw.com")

theorem below_ok {tier : LicenseTier} {max : Option UInt32} {what : String} {current : UInt32} :
    tier.below max what current = .ok () ↔ ∀ m, max = some m → current < m := by
  cases max with
  | none => simp [below]
  | some m =>
    unfold below
    by_cases reached : m ≤ current
    · simp [reached]
    · simp [reached]
      exact UInt32.not_le.mp reached

theorem checkLimit_agents {tier : LicenseTier} {current : UInt32} :
    tier.checkLimit "agents" current = .ok () ↔ ∀ m, tier.limits.maxAgents = some m →
    current < m := below_ok

end LicenseTier
end GrokingClawId.Core
