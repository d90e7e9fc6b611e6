import Runlane.Planner.Routes

/-!
How much of an impact the verification plans cover.

A plan looks up a representative of what is written and of what may be affected,
so it is complete where these lists offer it nothing else. What it says about the
package database follows the route and not what is written.
-/

namespace Runlane

/-- The first resource of the impact that names a text, written ones before affected ones. -/
def ImpactSet.firstNaming (impact : ImpactSet) (text : String) : Option String :=
  (impact.writes ++ impact.mayAffect).find? fun resource => resource.contains text

/-- The resource is one that the plan of its route looks up. -/
def ImpactSet.Represents (impact : ImpactSet) (policy : VerificationPolicy) (action : ActionKind)
    (resource : String) : Prop :=
  match planRoute action impact with
  | .applicationServiceChange | .genericServiceChange | .genericTypedAction =>
      impact.writes.head? = some resource
  | .allowlistedFileCleanup =>
      impact.writes.head? = some resource ∨
        impact.mayAffect.head?.or impact.writes.head? = some resource
  | .platformReload =>
      impact.writes.head? = some resource ∨
        policy.requireDependentAppCanaryForPlatform = true ∧
          impact.mayAffect.head?.or impact.writes.head? = some resource
  | .packageUpdate =>
      (impact.firstNaming "package-db").or impact.writes.head? = some resource ∨
        impact.firstNaming "/reboot" = some resource ∨
        impact.mayAffect.find? (fun affected => affected.contains "/service/") = some resource
  | .reboot =>
      (impact.firstNaming "/reboot").or impact.writes.head? = some resource ∨
        impact.mayAffect.head?.or impact.writes.head? = some resource

/-- The plan has a check of the resource. -/
def VerificationPlan.Verifies (plan : VerificationPlan) (resource : String) : Prop :=
  ∃ check ∈ plan.required, check.resourceId = resource

section
variable {impact : ImpactSet} {resource : String}

theorem primaryResource_eq_iff (written : impact.writes ≠ []) :
    primaryResource impact = resource ↔ impact.writes.head? = some resource := by
  unfold primaryResource
  cases writes : impact.writes with
  | nil => exact absurd writes written
  | cons first rest => simp

/-- A lookup that falls back on the first written resource. -/
theorem getD_primaryResource_eq_iff (written : impact.writes ≠ []) (found : Option String) :
    found.getD (primaryResource impact) = resource ↔
      found.or impact.writes.head? = some resource := by
  cases found with
  | none => exact primaryResource_eq_iff written
  | some other => simp

end

theorem rebootResource_getD (impact : ImpactSet) (fallback : String) :
    (rebootResource impact).getD fallback = fallback ∨
      rebootResource impact = some ((rebootResource impact).getD fallback) := by
  cases rebootResource impact with
  | none => exact .inl rfl
  | some reboot => exact .inr rfl

/-- A package plan checks what it takes for the package database, the first reboot
marker and the first affected service. -/
theorem planSystemPackageUpdate_verifies_iff {policy : VerificationPolicy} {impact : ImpactSet}
    (written : impact.writes ≠ []) {resource : String} :
    (policy.planSystemPackageUpdate impact).Verifies resource ↔
      (impact.firstNaming "package-db").or impact.writes.head? = some resource ∨
        impact.firstNaming "/reboot" = some resource ∨
        impact.mayAffect.find? (fun affected => affected.contains "/service/") =
          some resource := by
  have package : packageResource impact = resource ↔
      (impact.firstNaming "package-db").or impact.writes.head? = some resource :=
    getD_primaryResource_eq_iff written _
  refine ⟨?_, ?_⟩
  · intro verified
    obtain ⟨check, member, rfl⟩ := verified
    rcases (policy.mem_planSystemPackageUpdate impact).mp member with
      base | ⟨service, affected, rfl⟩ | ⟨-, rfl⟩
    · simp only [List.mem_cons, List.not_mem_nil, or_false] at base
      obtain rfl | rfl | rfl | rfl | rfl := base
      · exact .inl (package.mp rfl)
      · exact .inl (package.mp rfl)
      · exact .inl (package.mp rfl)
      · exact .inl (package.mp rfl)
      · cases rebootResource_getD impact (packageResource impact) with
        | inl fallback => exact .inl (package.mp fallback.symm)
        | inr found => exact .inr (.inl found)
    · exact .inr (.inr affected)
    · exact .inl (package.mp rfl)
  · intro represented
    obtain first | found | affected := represented
    · exact ⟨_, (policy.mem_planSystemPackageUpdate impact).mpr (.inl List.mem_cons_self),
        package.mpr first⟩
    · refine ⟨⟨"reboot_required_detected", resource, .dependent⟩,
        (policy.mem_planSystemPackageUpdate impact).mpr (.inl ?_), rfl⟩
      have detected : (rebootResource impact).getD (packageResource impact) = resource :=
        congrArg (Option.getD · _) found
      simp [detected]
    · exact ⟨_, (policy.mem_planSystemPackageUpdate impact).mpr
        (.inr (.inl ⟨resource, affected, rfl⟩)), rfl⟩

theorem PlanRoute.verifies_iff {policy : VerificationPolicy} {action : ActionKind}
    {impact : ImpactSet} (written : impact.writes ≠ []) {resource : String} :
    ((planRoute action impact).plan policy action impact).Verifies resource ↔
      impact.Represents policy action resource := by
  have primary : primaryResource impact = resource ↔ impact.writes.head? = some resource :=
    primaryResource_eq_iff written
  have dependent : dependentResource impact = resource ↔
      impact.mayAffect.head?.or impact.writes.head? = some resource :=
    getD_primaryResource_eq_iff written _
  unfold ImpactSet.Represents
  cases planRoute action impact with
  | applicationServiceChange | genericServiceChange | genericTypedAction =>
      simp [plan, VerificationPlan.Verifies, planApplicationServiceChange,
        planGenericServiceChange, planGenericTypedAction, VerificationPlan.requiring, primary]
  | allowlistedFileCleanup =>
      simp [plan, VerificationPlan.Verifies, planSystemAllowlistedFileCleanup, primary, dependent]
      tauto
  | platformReload =>
      cases canary : policy.requireDependentAppCanaryForPlatform <;>
        simp [plan, VerificationPlan.Verifies, VerificationPolicy.planPlatformReload, canary,
          primary, dependent]
  | packageUpdate => exact planSystemPackageUpdate_verifies_iff written
  | reboot =>
      have reboot : (rebootResource impact).getD (primaryResource impact) = resource ↔
          (impact.firstNaming "/reboot").or impact.writes.head? = some resource :=
        getD_primaryResource_eq_iff written _
      simp [plan, VerificationPlan.Verifies, planSystemReboot, reboot, dependent]

/-- Every written resource is verified exactly when each is one that the plan looks up. -/
theorem plan_verifies_writes_iff (policy : VerificationPolicy) (action : ActionKind)
    (impact : ImpactSet) (written : impact.writes ≠ []) :
    (∀ resource ∈ impact.writes, ∃ check ∈ (policy.plan action impact).required,
      check.resourceId = resource) ↔
      ∀ resource ∈ impact.writes, impact.Represents policy action resource := by
  rw [policy.plan_eq_route]
  exact forall₂_congr fun resource _ => PlanRoute.verifies_iff written

def twoServicesImpact : ImpactSet where
  layer := .application
  writes := ["application:web/service/frontend", "application:web/service/api"]
  mayAffect := []
  doesNotAffect := ["platform:web"]

def oneServiceImpact : ImpactSet :=
  { twoServicesImpact with writes := ["application:web/service/frontend"] }

theorem plan_verifies_writes_single :
    ∃ check ∈ (VerificationPolicy.minimal.plan .serviceRestart oneServiceImpact).required,
      check.resourceId = "application:web/service/frontend" := by
  refine (plan_verifies_writes_iff .minimal .serviceRestart oneServiceImpact (by decide)).mpr ?_
    "application:web/service/frontend" List.mem_cons_self
  intro resource member
  rw [List.mem_singleton.mp member]
  rfl

theorem plan_misses_second_write :
    ¬ ∀ (policy : VerificationPolicy) (action : ActionKind) (impact : ImpactSet),
      impact.writes ≠ [] → ∀ resource ∈ impact.writes,
        ∃ check ∈ (policy.plan action impact).required, check.resourceId = resource := by
  intro h
  have second := h .minimal .serviceRestart twoServicesImpact (by decide)
    "application:web/service/api" (by decide)
  exact absurd second (by decide)

/-- A lookup gives each of the elements it looks for when they are all the same. -/
theorem forall_find?_eq_some_iff {α : Type} {p : α → Bool} {items : List α} :
    (∀ a ∈ items, p a = true → items.find? p = some a) ↔
      ∀ a ∈ items, ∀ b ∈ items, p a = true → p b = true → a = b := by
  refine ⟨?_, ?_⟩
  · intro found a listed b listed' holds holds'
    exact Option.some.inj ((found a listed holds).symm.trans (found b listed' holds'))
  · intro same a listed holds
    cases found : items.find? p with
    | none => exact absurd holds (List.find?_eq_none.mp found a listed)
    | some b =>
        rw [same b (List.mem_of_find?_eq_some found) a listed (List.find?_some found) holds]

theorem planSystemPackageUpdate_health_iff {policy : VerificationPolicy} {impact : ImpactSet}
    {resource : String} :
    (∃ check ∈ (policy.planSystemPackageUpdate impact).required,
      check.id = "service_health_for_affected_services" ∧ check.resourceId = resource) ↔
      affectedServiceResource impact = some resource := by
  refine ⟨?_, ?_⟩
  · intro checked
    obtain ⟨check, member, named, rfl⟩ := checked
    rcases (policy.mem_planSystemPackageUpdate impact).mp member with
      base | ⟨service, affected, rfl⟩ | ⟨-, rfl⟩
    · simp only [List.mem_cons, List.not_mem_nil, or_false] at base
      obtain rfl | rfl | rfl | rfl | rfl := base <;> simp at named
    · exact affected
    · simp at named
  · intro affected
    exact ⟨_, (policy.mem_planSystemPackageUpdate impact).mpr
      (.inr (.inl ⟨resource, affected, rfl⟩)), rfl, rfl⟩

/-- A package plan checks the health of every affected service exactly when the
impact declares no two. -/
theorem package_plan_checks_services_iff (policy : VerificationPolicy) (action : ActionKind)
    (impact : ImpactSet) (system : impact.layer = .system)
    (package : action = .packageUpdate ∨ action ≠ .removeAllowlistedFile ∧ action ≠ .nodeReboot ∧
      ∃ resource ∈ impact.writes, resource.contains "package-db" = true) :
    (∀ resource ∈ impact.mayAffect, resource.contains "/service/" = true →
      ∃ check ∈ (policy.plan action impact).required,
        check.id = "service_health_for_affected_services" ∧ check.resourceId = resource) ↔
      ∀ resource ∈ impact.mayAffect, ∀ other ∈ impact.mayAffect,
        resource.contains "/service/" = true → other.contains "/service/" = true →
          resource = other := by
  have route : planRoute action impact = .packageUpdate := planRoute_eq_iff.mpr ⟨system, package⟩
  rw [policy.plan_eq_route, route]
  simp only [PlanRoute.plan, planSystemPackageUpdate_health_iff]
  exact forall_find?_eq_some_iff

def oneAffectedService : ImpactSet :=
  { mixedImpact with mayAffect := ["system:node/node-a/service/sshd"] }

theorem package_plan_checks_services_single :
    ∃ check ∈ (VerificationPolicy.minimal.plan .packageUpdate oneAffectedService).required,
      check.id = "service_health_for_affected_services" ∧
        check.resourceId = "system:node/node-a/service/sshd" := by
  refine (package_plan_checks_services_iff .minimal .packageUpdate oneAffectedService rfl
    (.inl rfl)).mpr ?_ "system:node/node-a/service/sshd" List.mem_cons_self
    (Text.contains_parts "system:node/node-a" "/service/" "sshd")
  intro resource member other member' _ _
  exact (List.mem_singleton.mp member).trans (List.mem_singleton.mp member').symm

theorem package_plan_misses_second_service :
    ¬ ∀ (policy : VerificationPolicy) (action : ActionKind) (impact : ImpactSet),
      impact.layer = .system →
      (action = .packageUpdate ∨ action ≠ .removeAllowlistedFile ∧ action ≠ .nodeReboot ∧
        ∃ resource ∈ impact.writes, resource.contains "package-db" = true) →
      ∀ resource ∈ impact.mayAffect, resource.contains "/service/" = true →
        ∃ check ∈ (policy.plan action impact).required,
          check.id = "service_health_for_affected_services" ∧ check.resourceId = resource := by
  intro h
  have checked := h .minimal .packageUpdate mixedImpact rfl (.inl rfl)
  have sshd := planSystemPackageUpdate_health_iff.mp (checked "system:node/node-a/service/sshd"
    (by decide) (Text.contains_parts "system:node/node-a" "/service/" "sshd"))
  have nginx := planSystemPackageUpdate_health_iff.mp (checked "system:node/node-a/service/nginx"
    (by decide) (Text.contains_parts "system:node/node-a" "/service/" "nginx"))
  exact absurd (sshd.symm.trans nginx) (by decide)

/-- A package audit is skipped because nothing mutated the package database. -/
def SkippedVerification.DeniesPackageMutation (skip : SkippedVerification) : Prop :=
  (skip.checkId = "package_audit" ∨ skip.checkId = "full_package_audit") ∧
    skip.reason.contains "not mutate" = true ∧ skip.reason.contains "package database" = true

instance (skip : SkippedVerification) : Decidable skip.DeniesPackageMutation :=
  inferInstanceAs (Decidable (_ ∧ _))

theorem PlanRoute.deniesPackageMutation_iff (route : PlanRoute) (policy : VerificationPolicy)
    (action : ActionKind) (impact : ImpactSet) :
    (∃ skip ∈ (route.plan policy action impact).skipped, skip.DeniesPackageMutation) ↔
      route = .applicationServiceChange ∨ route = .platformReload ∨ route = .reboot := by
  cases route with
  | applicationServiceChange =>
      refine ⟨fun _ => .inl rfl, fun _ => ⟨_, List.mem_cons_self, .inl rfl, ?_, ?_⟩⟩
      · exact Text.contains_parts "application service change did " "not mutate"
          " system package database"
      · exact Text.contains_parts "application service change did not mutate system "
          "package database" ""
  | platformReload =>
      refine ⟨fun _ => .inr (.inl rfl), fun _ => ⟨_, List.mem_cons_self, .inr rfl, ?_, ?_⟩⟩
      · exact Text.contains_parts "platform config reload did " "not mutate"
          " system package database"
      · exact Text.contains_parts "platform config reload did not mutate system "
          "package database" ""
  | reboot =>
      refine ⟨fun _ => .inr (.inr rfl), fun _ => ⟨_, List.mem_cons_self, .inl rfl, ?_, ?_⟩⟩
      · exact Text.contains_parts "node reboot does " "not mutate"
          " package database; package update verification owns package state"
      · exact Text.contains_parts "node reboot does not mutate " "package database"
          "; package update verification owns package state"
  | packageUpdate =>
      simp only [plan, VerificationPolicy.planSystemPackageUpdate_skipped]
      cases (affectedServiceResource impact).isSome <;>
        simp [SkippedVerification.DeniesPackageMutation]
  | allowlistedFileCleanup | genericServiceChange | genericTypedAction =>
      simp [plan, planSystemAllowlistedFileCleanup, planGenericServiceChange,
        planGenericTypedAction, VerificationPlan.requiring]

/-- A plan beside a written package database denies the mutation exactly on the
three routes that are chosen before the writes are looked at. -/
theorem plan_admits_package_mutation_iff (policy : VerificationPolicy) (action : ActionKind)
    (impact : ImpactSet)
    (_ : ∃ resource ∈ impact.writes, resource.contains "package-db" = true) :
    (∀ skip ∈ (policy.plan action impact).skipped, ¬ skip.DeniesPackageMutation) ↔
      ¬ (impact.layer = .application ∧ (action = .serviceRestart ∨ action = .serviceReload) ∨
        impact.layer = .platform ∧ action = .serviceReload ∨
        impact.layer = .system ∧ action = .nodeReboot) := by
  have denied := (planRoute action impact).deniesPackageMutation_iff policy action impact
  simp only [planRoute_eq_iff, PlanRoute.Guard] at denied
  rw [policy.plan_eq_route, ← denied, not_exists]
  simp only [not_and]

theorem mixedImpact_writesPackageDb :
    ∃ resource ∈ mixedImpact.writes, resource.contains "package-db" = true :=
  ⟨"system:node/node-a/package-db", by decide,
    Text.contains_parts "system:node/node-a/" "package-db" ""⟩

theorem plan_admits_package_mutation_mixed :
    ¬ ∃ skip ∈ (VerificationPolicy.minimal.plan .runAllowlistedScript mixedImpact).skipped,
      skip.DeniesPackageMutation := by
  have admitted := (plan_admits_package_mutation_iff .minimal .runAllowlistedScript mixedImpact
    mixedImpact_writesPackageDb).mpr (by decide)
  intro denied
  obtain ⟨skip, member, denies⟩ := denied
  exact admitted skip member denies

theorem reboot_denies_package_mutation :
    ¬ ∀ (policy : VerificationPolicy) (action : ActionKind) (impact : ImpactSet),
      (∃ resource ∈ impact.writes, resource.contains "package-db" = true) →
      ∀ skip ∈ (policy.plan action impact).skipped, ¬ skip.DeniesPackageMutation := by
  intro h
  have admitted := h .minimal .nodeReboot mixedImpact mixedImpact_writesPackageDb
  obtain ⟨skip, member, denies⟩ := (PlanRoute.reboot.deniesPackageMutation_iff .minimal
    .nodeReboot mixedImpact).mpr (.inr (.inr rfl))
  exact admitted skip member denies

end Runlane
