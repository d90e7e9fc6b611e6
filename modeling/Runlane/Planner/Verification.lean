import Runlane.Core.Vocabulary

/-!
The impact-scoped verification planner: layer, action, impact and policy select
the checks, and what is left out is listed with a reason.
-/

namespace Runlane

/-- Policy toggles used by the impact-scoped verification planner. -/
structure VerificationPolicy where
  requireDependentAppCanaryForPlatform : Bool
  requireBroadPackageAuditForSystemPackageMutation : Bool
deriving DecidableEq

def VerificationPolicy.conservative : VerificationPolicy where
  requireDependentAppCanaryForPlatform := true
  requireBroadPackageAuditForSystemPackageMutation := true

def VerificationPolicy.minimal : VerificationPolicy where
  requireDependentAppCanaryForPlatform := false
  requireBroadPackageAuditForSystemPackageMutation := false

def OperationalLayer.debug : OperationalLayer → String
  | system => "System"
  | platform => "Platform"
  | application => "Application"

def primaryResource (impact : ImpactSet) : String :=
  impact.writes.head?.getD s!"{impact.layer.debug}:unknown"

def dependentResource (impact : ImpactSet) : String :=
  impact.mayAffect.head?.getD (primaryResource impact)

def packageResource (impact : ImpactSet) : String :=
  ((impact.writes ++ impact.mayAffect).find? fun resource =>
    resource.contains "package-db").getD (primaryResource impact)

def rebootResource (impact : ImpactSet) : Option String :=
  (impact.writes ++ impact.mayAffect).find? fun resource => resource.contains "/reboot"

def affectedServiceResource (impact : ImpactSet) : Option String :=
  impact.mayAffect.find? fun resource => resource.contains "/service/"

def VerificationPlan.requiring (checks : List VerificationCheck) : VerificationPlan where
  required := checks
  conditional := []
  skipped := []

def planGenericServiceChange (action : ActionKind) (impact : ImpactSet) : VerificationPlan :=
  let directCheck := if action = .serviceReload then "service_reloaded" else "service_active"
  .requiring [
    ⟨"helper_result_matches_request", primaryResource impact, .directImpact⟩,
    ⟨directCheck, primaryResource impact, .directImpact⟩]

def planGenericTypedAction (impact : ImpactSet) : VerificationPlan :=
  .requiring [⟨"helper_result_matches_request", primaryResource impact, .directImpact⟩]

def planApplicationServiceChange (action : ActionKind) (impact : ImpactSet) : VerificationPlan :=
  let plan := planGenericServiceChange action impact
  { plan with
    skipped := plan.skipped ++ [
      ⟨"package_audit", "application service change did not mutate system package database"⟩,
      ⟨"full_disk_scan", "application service change did not mutate filesystem allocation"⟩,
      ⟨"firewall_audit", "application service change did not mutate firewall rules"⟩] }

def planSystemAllowlistedFileCleanup (impact : ImpactSet) : VerificationPlan :=
  let cleanupResource := primaryResource impact
  let filesystemResource := dependentResource impact
  { required := [
      ⟨"helper_result_matches_request", cleanupResource, .directImpact⟩,
      ⟨"free_space_improved", filesystemResource, .directImpact⟩,
      ⟨"cleaned_paths_match_allowlist", cleanupResource, .directImpact⟩,
      ⟨"no_unrelated_deletion_reported", cleanupResource, .directImpact⟩]
    conditional := []
    skipped := [] }

def planSystemReboot (impact : ImpactSet) : VerificationPlan :=
  let reboot := (rebootResource impact).getD (primaryResource impact)
  { required := [
      ⟨"drain_completed", reboot, .precondition⟩,
      ⟨"reboot_completed", reboot, .directImpact⟩,
      ⟨"node_health_after_reboot", reboot, .directImpact⟩,
      ⟨"affected_services_healthy_after_reboot", dependentResource impact, .dependent⟩]
    conditional := []
    skipped := [⟨"package_audit", "node reboot does not mutate package database; " ++
      "package update verification owns package state"⟩] }

namespace VerificationPolicy

def planPlatformReload (policy : VerificationPolicy) (impact : ImpactSet) : VerificationPlan :=
  let canary : List VerificationCheck :=
    if policy.requireDependentAppCanaryForPlatform then
      [⟨"dependent_app_canary", dependentResource impact, .dependent⟩]
    else []
  { required := [
      ⟨"config_syntax_valid", primaryResource impact, .precondition⟩,
      ⟨"platform_accepts_connections", primaryResource impact, .directImpact⟩] ++ canary
    conditional := []
    skipped := [⟨"full_package_audit",
      "platform config reload did not mutate system package database"⟩] }

def planSystemPackageUpdate (policy : VerificationPolicy) (impact : ImpactSet) :
    VerificationPlan :=
  let package := packageResource impact
  let health : List VerificationCheck := (affectedServiceResource impact).toList.map fun service =>
    ⟨"service_health_for_affected_services", service, .dependent⟩
  let audit : List VerificationCheck :=
    if policy.requireBroadPackageAuditForSystemPackageMutation then
      [⟨"package_audit", package, .broadRegression⟩]
    else []
  let required : List VerificationCheck := [
    ⟨"package_db_consistent", package, .directImpact⟩,
    ⟨"package_state_matches_policy", package, .directImpact⟩,
    ⟨"changed_files_classified", package, .directImpact⟩,
    ⟨"affected_services_identified", package, .dependent⟩,
    ⟨"reboot_required_detected", (rebootResource impact).getD package, .dependent⟩] ++
    health ++ audit
  let undeclared : List SkippedVerification :=
    if required.any fun check => check.id == "service_health_for_affected_services" then []
    else [⟨"service_health_for_affected_services",
      "package impact did not declare affected service resources; " ++
        "affected_services_identified owns discovery"⟩]
  { required
    conditional := []
    skipped := [⟨"full_disk_scan",
      "package mutation classified changed files without broad filesystem writes"⟩] ++ undeclared }

def planSystemPackageMutation (policy : VerificationPolicy) (impact : ImpactSet) :
    VerificationPlan :=
  policy.planSystemPackageUpdate impact

/-- Plans verification for a typed action and impact set. The cases are tried in
order; a system action on the package database falls to the package plan unless
it has a plan of its own. -/
def plan (policy : VerificationPolicy) (action : ActionKind) (impact : ImpactSet) :
    VerificationPlan :=
  match impact.layer, action with
  | .application, .serviceRestart | .application, .serviceReload =>
      planApplicationServiceChange action impact
  | .system, .removeAllowlistedFile => planSystemAllowlistedFileCleanup impact
  | .platform, .serviceReload => policy.planPlatformReload impact
  | .system, .packageUpdate => policy.planSystemPackageUpdate impact
  | .system, .nodeReboot => planSystemReboot impact
  | layer, action =>
      if layer = .system ∧ impact.writes.any fun resource => resource.contains "package-db" then
        policy.planSystemPackageMutation impact
      else
        match action with
        | .serviceRestart | .serviceReload => planGenericServiceChange action impact
        | _ => planGenericTypedAction impact

end VerificationPolicy

end Runlane
