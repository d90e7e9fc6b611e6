import Runlane.Lib.Text
import Runlane.Planner.Verification
import Mathlib.Data.List.Basic

/-!
Which plan an action and an impact are routed to, and what holds of every plan.

Layer and action choose among seven plans, and a system action without a plan of
its own goes to the package plan when it writes a package database. Each plan
takes its resources from the impact, repeats no check, skips none that it
requires, and asks for a broad check or a canary only where the policy does.
-/

namespace Runlane

inductive PlanRoute where
  | applicationServiceChange
  | allowlistedFileCleanup
  | platformReload
  | packageUpdate
  | reboot
  | genericServiceChange
  | genericTypedAction
deriving DecidableEq

def ImpactSet.WritesPackageDb (impact : ImpactSet) : Prop :=
  ∃ resource ∈ impact.writes, resource.contains "package-db" = true

instance (impact : ImpactSet) : Decidable impact.WritesPackageDb :=
  inferInstanceAs (Decidable (∃ resource ∈ impact.writes, resource.contains "package-db" = true))

def planRoute (action : ActionKind) (impact : ImpactSet) : PlanRoute :=
  match impact.layer, action with
  | .application, .serviceRestart | .application, .serviceReload => .applicationServiceChange
  | .system, .removeAllowlistedFile => .allowlistedFileCleanup
  | .platform, .serviceReload => .platformReload
  | .system, .packageUpdate => .packageUpdate
  | .system, .nodeReboot => .reboot
  | layer, action =>
      if layer = .system ∧ impact.WritesPackageDb then .packageUpdate
      else
        match action with
        | .serviceRestart | .serviceReload => .genericServiceChange
        | _ => .genericTypedAction

def PlanRoute.plan (route : PlanRoute) (policy : VerificationPolicy) (action : ActionKind)
    (impact : ImpactSet) : VerificationPlan :=
  match route with
  | applicationServiceChange => planApplicationServiceChange action impact
  | allowlistedFileCleanup => planSystemAllowlistedFileCleanup impact
  | platformReload => policy.planPlatformReload impact
  | packageUpdate => policy.planSystemPackageUpdate impact
  | reboot => planSystemReboot impact
  | genericServiceChange => planGenericServiceChange action impact
  | genericTypedAction => planGenericTypedAction impact

theorem VerificationPolicy.plan_eq_route (policy : VerificationPolicy) (action : ActionKind)
    (impact : ImpactSet) :
    policy.plan action impact = (planRoute action impact).plan policy action impact := by
  obtain ⟨layer, writes, mayAffect, doesNotAffect⟩ := impact
  have named : writes.any (fun resource => resource.contains "package-db") = true ↔
      ImpactSet.WritesPackageDb ⟨layer, writes, mayAffect, doesNotAffect⟩ := List.any_eq_true
  cases layer with
  | platform | application =>
      cases action <;> simp [VerificationPolicy.plan, planRoute, PlanRoute.plan]
  | system =>
      by_cases package : ImpactSet.WritesPackageDb ⟨.system, writes, mayAffect, doesNotAffect⟩
      · cases action <;> simp [VerificationPolicy.plan, planRoute, PlanRoute.plan, named, package,
          VerificationPolicy.planSystemPackageMutation]
      · cases action <;> simp [VerificationPolicy.plan, planRoute, PlanRoute.plan, named, package]

/-- No plan is without a check. -/
theorem VerificationPolicy.plan_required (policy : VerificationPolicy) (action : ActionKind)
    (impact : ImpactSet) : (policy.plan action impact).required ≠ [] := by
  rw [policy.plan_eq_route]
  cases planRoute action impact <;> exact List.cons_ne_nil _ _

/-- What sends an action and an impact along a route. -/
def PlanRoute.Guard (route : PlanRoute) (action : ActionKind) (impact : ImpactSet) : Prop :=
  match route with
  | applicationServiceChange =>
      impact.layer = .application ∧ (action = .serviceRestart ∨ action = .serviceReload)
  | allowlistedFileCleanup => impact.layer = .system ∧ action = .removeAllowlistedFile
  | platformReload => impact.layer = .platform ∧ action = .serviceReload
  | packageUpdate => impact.layer = .system ∧ (action = .packageUpdate ∨
      action ≠ .removeAllowlistedFile ∧ action ≠ .nodeReboot ∧ impact.WritesPackageDb)
  | reboot => impact.layer = .system ∧ action = .nodeReboot
  | genericServiceChange =>
      impact.layer = .platform ∧ action = .serviceRestart ∨ impact.layer = .system ∧
        (action = .serviceRestart ∨ action = .serviceReload) ∧ ¬ impact.WritesPackageDb
  | genericTypedAction =>
      action ≠ .serviceRestart ∧ action ≠ .serviceReload ∧ (impact.layer ≠ .system ∨
        action = .runAllowlistedScript ∧ ¬ impact.WritesPackageDb)

theorem planRoute_eq_iff {route : PlanRoute} {action : ActionKind} {impact : ImpactSet} :
    planRoute action impact = route ↔ route.Guard action impact := by
  obtain ⟨layer, writes, mayAffect, doesNotAffect⟩ := impact
  cases route <;> by_cases package : ImpactSet.WritesPackageDb ⟨layer, writes, mayAffect,
    doesNotAffect⟩ <;> cases layer <;> cases action <;>
    simp [planRoute, PlanRoute.Guard, package]

section
variable {impact : ImpactSet} {resource : String}

theorem primaryResource_mem (written : impact.writes ≠ []) :
    primaryResource impact ∈ impact.writes := by
  unfold primaryResource
  cases writes : impact.writes with
  | nil => exact absurd writes written
  | cons first rest => exact List.mem_cons_self

theorem dependentResource_mem (written : impact.writes ≠ []) :
    dependentResource impact ∈ impact.writes ++ impact.mayAffect := by
  unfold dependentResource
  cases affected : impact.mayAffect with
  | nil => exact List.mem_append_left _ (primaryResource_mem written)
  | cons first rest => exact List.mem_append_right _ List.mem_cons_self

theorem packageResource_mem (written : impact.writes ≠ []) :
    packageResource impact ∈ impact.writes ++ impact.mayAffect := by
  unfold packageResource
  cases found : (impact.writes ++ impact.mayAffect).find? fun resource =>
      resource.contains "package-db" with
  | none => exact List.mem_append_left _ (primaryResource_mem written)
  | some package => exact List.mem_of_find?_eq_some found

theorem rebootResource_mem (found : rebootResource impact = some resource) :
    resource ∈ impact.writes ++ impact.mayAffect :=
  List.mem_of_find?_eq_some found

theorem affectedServiceResource_mem (found : affectedServiceResource impact = some resource) :
    resource ∈ impact.mayAffect :=
  List.mem_of_find?_eq_some found

theorem rebootResource_getD_mem {fallback : String}
    (known : fallback ∈ impact.writes ++ impact.mayAffect) :
    (rebootResource impact).getD fallback ∈ impact.writes ++ impact.mayAffect := by
  cases found : rebootResource impact with
  | none => exact known
  | some reboot => exact rebootResource_mem found

end

/-- The checks are about resources of the impact, none is required twice or both
required and skipped, and what is skipped is skipped for a stated reason. -/
structure VerificationPlan.WellFormed (plan : VerificationPlan) (impact : ImpactSet) : Prop where
  inImpact : ∀ check ∈ plan.required, check.resourceId ∈ impact.writes ++ impact.mayAffect
  distinct : (plan.required.map VerificationCheck.id).Nodup
  disjoint : ∀ id ∈ plan.required.map VerificationCheck.id,
    id ∉ plan.skipped.map SkippedVerification.checkId
  reasoned : ∀ skip ∈ plan.skipped, Text.isBlank skip.reason = false

theorem planGenericServiceChange_wellFormed (action : ActionKind) {impact : ImpactSet}
    (written : impact.writes ≠ []) :
    (planGenericServiceChange action impact).WellFormed impact := by
  have primary := List.mem_append_left impact.mayAffect (primaryResource_mem written)
  refine ⟨?_, ?_, ?_, ?_⟩
  · simpa [planGenericServiceChange, VerificationPlan.requiring] using primary
  · by_cases reload : action = .serviceReload <;>
      simp [planGenericServiceChange, VerificationPlan.requiring, reload]
  · simp [planGenericServiceChange, VerificationPlan.requiring]
  · simp [planGenericServiceChange, VerificationPlan.requiring]

theorem planApplicationServiceChange_wellFormed (action : ActionKind) {impact : ImpactSet}
    (written : impact.writes ≠ []) :
    (planApplicationServiceChange action impact).WellFormed impact where
  inImpact := (planGenericServiceChange_wellFormed action written).inImpact
  distinct := (planGenericServiceChange_wellFormed action written).distinct
  disjoint := by
    by_cases reload : action = .serviceReload <;>
      simp [planApplicationServiceChange, planGenericServiceChange, VerificationPlan.requiring,
        reload]
  reasoned := by
    simp only [planApplicationServiceChange, planGenericServiceChange, VerificationPlan.requiring]
    decide

theorem planGenericTypedAction_wellFormed {impact : ImpactSet} (written : impact.writes ≠ []) :
    (planGenericTypedAction impact).WellFormed impact where
  inImpact := by
    have primary := List.mem_append_left impact.mayAffect (primaryResource_mem written)
    simpa [planGenericTypedAction, VerificationPlan.requiring] using primary
  distinct := by simp [planGenericTypedAction, VerificationPlan.requiring]
  disjoint := by simp [planGenericTypedAction, VerificationPlan.requiring]
  reasoned := by simp [planGenericTypedAction, VerificationPlan.requiring]

theorem planSystemAllowlistedFileCleanup_wellFormed {impact : ImpactSet}
    (written : impact.writes ≠ []) :
    (planSystemAllowlistedFileCleanup impact).WellFormed impact where
  inImpact := by
    have primary := List.mem_append_left impact.mayAffect (primaryResource_mem written)
    have dependent := dependentResource_mem written
    simp only [planSystemAllowlistedFileCleanup, List.forall_mem_cons]
    exact ⟨primary, dependent, primary, primary, List.forall_mem_nil _⟩
  distinct := by simp [planSystemAllowlistedFileCleanup]
  disjoint := by simp [planSystemAllowlistedFileCleanup]
  reasoned := by simp [planSystemAllowlistedFileCleanup]

theorem planSystemReboot_wellFormed {impact : ImpactSet} (written : impact.writes ≠ []) :
    (planSystemReboot impact).WellFormed impact where
  inImpact := by
    have reboot := rebootResource_getD_mem
      (List.mem_append_left impact.mayAffect (primaryResource_mem written))
    have dependent := dependentResource_mem written
    simp only [planSystemReboot, List.forall_mem_cons]
    exact ⟨reboot, reboot, reboot, dependent, List.forall_mem_nil _⟩
  distinct := by simp [planSystemReboot]
  disjoint := by simp [planSystemReboot]
  reasoned := by
    simp only [planSystemReboot]
    decide

theorem VerificationPolicy.planPlatformReload_wellFormed (policy : VerificationPolicy)
    {impact : ImpactSet} (written : impact.writes ≠ []) :
    (policy.planPlatformReload impact).WellFormed impact := by
  have primary := List.mem_append_left impact.mayAffect (primaryResource_mem written)
  have dependent := dependentResource_mem written
  refine ⟨?_, ?_, ?_, ?_⟩
  · cases canary : policy.requireDependentAppCanaryForPlatform with
    | false => simp [VerificationPolicy.planPlatformReload, canary] at *; exact primary
    | true => simp [VerificationPolicy.planPlatformReload, canary] at *; exact ⟨primary, dependent⟩
  · cases canary : policy.requireDependentAppCanaryForPlatform <;>
      simp [VerificationPolicy.planPlatformReload, canary]
  · cases canary : policy.requireDependentAppCanaryForPlatform <;>
      simp [VerificationPolicy.planPlatformReload, canary]
  · simp only [VerificationPolicy.planPlatformReload]
    decide

section
variable (policy : VerificationPolicy) (impact : ImpactSet)

theorem VerificationPolicy.mem_planSystemPackageUpdate {check : VerificationCheck} :
    check ∈ (policy.planSystemPackageUpdate impact).required ↔
      check ∈ ([
        ⟨"package_db_consistent", packageResource impact, .directImpact⟩,
        ⟨"package_state_matches_policy", packageResource impact, .directImpact⟩,
        ⟨"changed_files_classified", packageResource impact, .directImpact⟩,
        ⟨"affected_services_identified", packageResource impact, .dependent⟩,
        ⟨"reboot_required_detected", (rebootResource impact).getD (packageResource impact),
          .dependent⟩] : List VerificationCheck) ∨
      (∃ service, affectedServiceResource impact = some service ∧
        check = ⟨"service_health_for_affected_services", service, .dependent⟩) ∨
      policy.requireBroadPackageAuditForSystemPackageMutation = true ∧
        check = ⟨"package_audit", packageResource impact, .broadRegression⟩ := by
  simp only [planSystemPackageUpdate, List.mem_append, or_assoc, List.mem_map, Option.mem_toList,
    List.mem_ite_nil_right, List.mem_singleton, eq_comm]

theorem VerificationPolicy.planSystemPackageUpdate_ids :
    (policy.planSystemPackageUpdate impact).required.map VerificationCheck.id =
      ["package_db_consistent", "package_state_matches_policy", "changed_files_classified",
        "affected_services_identified", "reboot_required_detected"] ++
      (if (affectedServiceResource impact).isSome then ["service_health_for_affected_services"]
        else []) ++
      if policy.requireBroadPackageAuditForSystemPackageMutation then ["package_audit"]
      else [] := by
  unfold planSystemPackageUpdate
  cases affectedServiceResource impact <;>
    cases policy.requireBroadPackageAuditForSystemPackageMutation <;> rfl

theorem VerificationPolicy.planSystemPackageUpdate_skipped :
    (policy.planSystemPackageUpdate impact).skipped =
      ⟨"full_disk_scan", "package mutation classified changed files without broad filesystem writes"⟩
      :: if (affectedServiceResource impact).isSome then [] else
        [⟨"service_health_for_affected_services",
          "package impact did not declare affected service resources; " ++
            "affected_services_identified owns discovery"⟩] := by
  unfold planSystemPackageUpdate
  cases affectedServiceResource impact <;>
    cases policy.requireBroadPackageAuditForSystemPackageMutation <;> rfl

theorem VerificationPolicy.planSystemPackageUpdate_wellFormed {impact : ImpactSet}
    (written : impact.writes ≠ []) :
    (policy.planSystemPackageUpdate impact).WellFormed impact where
  inImpact := by
    have package := packageResource_mem written
    have reboot := rebootResource_getD_mem package
    intro check member
    rcases (policy.mem_planSystemPackageUpdate impact).mp member with
      base | ⟨service, affected, rfl⟩ | ⟨-, rfl⟩
    · simp only [List.mem_cons, List.not_mem_nil, or_false] at base
      obtain rfl | rfl | rfl | rfl | rfl := base
      · exact package
      · exact package
      · exact package
      · exact package
      · exact reboot
    · exact List.mem_append_right _ (affectedServiceResource_mem affected)
    · exact package
  distinct := by
    rw [planSystemPackageUpdate_ids]
    cases (affectedServiceResource impact).isSome <;>
      cases policy.requireBroadPackageAuditForSystemPackageMutation <;> decide
  disjoint := by
    rw [planSystemPackageUpdate_ids, planSystemPackageUpdate_skipped]
    cases (affectedServiceResource impact).isSome <;>
      cases policy.requireBroadPackageAuditForSystemPackageMutation <;> decide
  reasoned := by
    rw [planSystemPackageUpdate_skipped]
    cases (affectedServiceResource impact).isSome <;> decide

end

theorem VerificationPolicy.plan_wellFormed (policy : VerificationPolicy) (action : ActionKind)
    {impact : ImpactSet} (written : impact.writes ≠ []) :
    (policy.plan action impact).WellFormed impact := by
  rw [policy.plan_eq_route]
  cases planRoute action impact with
  | applicationServiceChange => exact planApplicationServiceChange_wellFormed action written
  | allowlistedFileCleanup => exact planSystemAllowlistedFileCleanup_wellFormed written
  | platformReload => exact policy.planPlatformReload_wellFormed written
  | packageUpdate => exact policy.planSystemPackageUpdate_wellFormed written
  | reboot => exact planSystemReboot_wellFormed written
  | genericServiceChange => exact planGenericServiceChange_wellFormed action written
  | genericTypedAction => exact planGenericTypedAction_wellFormed written

/-- Only the package plan has a broad check, and only where the policy asks for one. -/
theorem PlanRoute.broad {route : PlanRoute} {policy : VerificationPolicy} {action : ActionKind}
    {impact : ImpactSet} {check : VerificationCheck}
    (member : check ∈ (route.plan policy action impact).required)
    (broad : check.tier = .broadRegression) :
    route = .packageUpdate ∧ policy.requireBroadPackageAuditForSystemPackageMutation = true := by
  cases route with
  | packageUpdate =>
      rcases (policy.mem_planSystemPackageUpdate impact).mp member with
        base | ⟨service, -, rfl⟩ | ⟨audit, -⟩
      · simp only [List.mem_cons, List.not_mem_nil, or_false] at base
        obtain rfl | rfl | rfl | rfl | rfl := base <;> cases broad
      · cases broad
      · exact ⟨rfl, audit⟩
  | platformReload =>
      simp only [plan, VerificationPolicy.planPlatformReload, List.mem_append, List.mem_cons,
        List.not_mem_nil, or_false, List.mem_ite_nil_right] at member
      obtain (rfl | rfl) | ⟨-, rfl⟩ := member <;> cases broad
  | reboot | allowlistedFileCleanup =>
      simp only [plan, planSystemReboot, planSystemAllowlistedFileCleanup, List.mem_cons,
        List.not_mem_nil, or_false] at member
      obtain rfl | rfl | rfl | rfl := member <;> cases broad
  | applicationServiceChange | genericServiceChange =>
      simp only [plan, planApplicationServiceChange, planGenericServiceChange,
        VerificationPlan.requiring, List.mem_cons, List.not_mem_nil, or_false] at member
      obtain rfl | rfl := member <;> cases broad
  | genericTypedAction =>
      rw [List.mem_singleton.mp member] at broad
      cases broad

theorem PlanRoute.canary_iff {route : PlanRoute} {policy : VerificationPolicy}
    {action : ActionKind} {impact : ImpactSet} :
    (∃ check ∈ (route.plan policy action impact).required, check.id = "dependent_app_canary") ↔
      route = .platformReload ∧ policy.requireDependentAppCanaryForPlatform = true := by
  rw [← List.mem_map]
  cases route with
  | packageUpdate =>
      have absent : "dependent_app_canary" ∉
          (policy.planSystemPackageUpdate impact).required.map VerificationCheck.id := by
        rw [policy.planSystemPackageUpdate_ids]
        cases (affectedServiceResource impact).isSome <;>
          cases policy.requireBroadPackageAuditForSystemPackageMutation <;> decide
      simpa [plan] using absent
  | platformReload =>
      cases canary : policy.requireDependentAppCanaryForPlatform <;>
        simp [plan, VerificationPolicy.planPlatformReload, canary]
  | reboot => simp [plan, planSystemReboot]
  | allowlistedFileCleanup => simp [plan, planSystemAllowlistedFileCleanup]
  | applicationServiceChange | genericServiceChange =>
      by_cases reload : action = .serviceReload <;>
        simp [plan, planApplicationServiceChange, planGenericServiceChange,
          VerificationPlan.requiring, reload]
  | genericTypedAction => simp [plan, planGenericTypedAction, VerificationPlan.requiring]

/-- Plans are well formed, and no broader than the action and the policy call for. -/
theorem plan_wellFormed_minimal (policy : VerificationPolicy) (action : ActionKind)
    {impact : ImpactSet} (written : impact.writes ≠ []) :
    (policy.plan action impact).WellFormed impact ∧
    (∀ check ∈ (policy.plan action impact).required, check.tier = .broadRegression →
      impact.layer = .system ∧ policy.requireBroadPackageAuditForSystemPackageMutation = true ∧
        (action = .packageUpdate ∨
          ∃ resource ∈ impact.writes, resource.contains "package-db" = true)) ∧
    ((∃ check ∈ (policy.plan action impact).required, check.id = "dependent_app_canary") ↔
      impact.layer = .platform ∧ action = .serviceReload ∧
        policy.requireDependentAppCanaryForPlatform = true) := by
  refine ⟨policy.plan_wellFormed action written, ?_, ?_⟩
  · intro check member broad
    rw [policy.plan_eq_route] at member
    obtain ⟨route, audit⟩ := PlanRoute.broad member broad
    obtain ⟨system, package⟩ := planRoute_eq_iff.mp route
    exact ⟨system, audit, package.imp_right fun other => other.2.2⟩
  · rw [policy.plan_eq_route, PlanRoute.canary_iff, planRoute_eq_iff, ← and_assoc]
    rfl

def mixedImpact : ImpactSet where
  layer := .system
  writes := ["system:node/node-a/package-db", "system:node/node-a/path/etc"]
  mayAffect := ["system:node/node-a/service/sshd", "system:node/node-a/service/nginx"]
  doesNotAffect := []

theorem plan_wellFormed_minimal_mixed :
    (VerificationPolicy.conservative.plan .packageUpdate mixedImpact).WellFormed mixedImpact :=
  (plan_wellFormed_minimal .conservative .packageUpdate (by decide)).1

end Runlane
