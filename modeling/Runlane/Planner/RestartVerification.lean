import Runlane.Planner.RestartGate
import Runlane.Planner.Routes

/-!
How the restart of the service-unhealthy runbook is verified.

The planner reads the route off the resource that the restart writes, and the
names of the node and of the service stand in it as they are. One that names a
package database turns the restart into a package mutation.
-/

namespace Runlane

theorem serviceResourceId_contains_packageDb {nodeId service : String} :
    (serviceResourceId nodeId service).contains "package-db" = true ↔
      nodeId.contains "package-db" = true ∨ service.contains "package-db" = true := by
  have absent : '/' ∉ "package-db".toList := by decide
  have text : (serviceResourceId nodeId service).toList =
      "system:node".toList ++ '/' :: (nodeId.toList ++ '/' ::
        ("service".toList ++ '/' :: service.toList)) := serviceResourceId_toList nodeId service
  rw [String.contains_string_iff, String.contains_string_iff, String.contains_string_iff, text,
    Text.infix_append_cons_iff absent, Text.infix_append_cons_iff absent,
    Text.infix_append_cons_iff absent]
  have scheme : ¬ "package-db".toList <:+: "system:node".toList := by decide
  have kind : ¬ "package-db".toList <:+: "service".toList := by decide
  simp only [scheme, kind, false_or]

theorem ServiceUnhealthyRunbookRequest.route (request : ServiceUnhealthyRunbookRequest) :
    planRoute .serviceRestart request.impact =
      if request.nodeId.contains "package-db" = true ∨ request.service.contains "package-db" = true
      then .packageUpdate else .genericServiceChange := by
  have named : request.impact.WritesPackageDb ↔ request.nodeId.contains "package-db" = true ∨
      request.service.contains "package-db" = true := by
    rw [← serviceResourceId_contains_packageDb]
    simp [ImpactSet.WritesPackageDb, ServiceUnhealthyRunbookRequest.impact]
  split
  next package =>
    exact planRoute_eq_iff.mpr ⟨rfl, .inr ⟨by decide, by decide, named.mpr package⟩⟩
  next plain =>
    exact planRoute_eq_iff.mpr (.inr ⟨rfl, .inl rfl, fun package => plain (named.mp package)⟩)

/-- The verification of a restart: two direct checks of the service, and the
package and firewall audits skipped for a stated reason. -/
structure RestartVerified (verification : VerificationPlan) (resourceId : String) : Prop where
  helper : ⟨"helper_result_matches_request", resourceId, .directImpact⟩ ∈ verification.required
  active : ⟨"service_active", resourceId, .directImpact⟩ ∈ verification.required
  package : ∃ skip ∈ verification.skipped,
    skip.checkId = "package_audit" ∧ Text.isBlank skip.reason = false
  firewall : ∃ skip ∈ verification.skipped,
    skip.checkId = "firewall_audit" ∧ Text.isBlank skip.reason = false

theorem ServiceUnhealthyRunbookRequest.verified_iff (request : ServiceUnhealthyRunbookRequest) :
    RestartVerified request.verification (serviceResourceId request.nodeId request.service) ↔
      ¬ (request.nodeId.contains "package-db" = true ∨
        request.service.contains "package-db" = true) := by
  have required : request.verification.required =
      ((planRoute .serviceRestart request.impact).plan .minimal .serviceRestart
        request.impact).required := by
    rw [← VerificationPolicy.plan_eq_route]
    rfl
  rw [request.route] at required
  refine ⟨?_, ?_⟩
  · intro verified named
    have helper : "helper_result_matches_request" ∈
        request.verification.required.map VerificationCheck.id :=
      List.mem_map_of_mem verified.helper
    rw [required, if_pos named, PlanRoute.plan, VerificationPolicy.planSystemPackageUpdate_ids]
      at helper
    revert helper
    cases (affectedServiceResource request.impact).isSome <;> decide
  · intro plain
    rw [if_neg plain] at required
    refine ⟨?_, ?_, ?_, ?_⟩
    · rw [required]
      exact List.mem_cons_self
    · rw [required]
      exact List.mem_cons_of_mem _ List.mem_cons_self
    · exact ⟨_, List.mem_append_right _ List.mem_cons_self, rfl, by decide⟩
    · exact ⟨_, List.mem_append_right _ (List.mem_cons_of_mem _ List.mem_cons_self), rfl,
        by decide⟩

/-- The planned restart is verified as a restart exactly when neither name says
that it writes a package database. -/
theorem planned_restart_verified_iff {request : ServiceUnhealthyRunbookRequest}
    {report : CapabilityReport} {plan : ServiceUnhealthyRunbookPlan}
    (planned : planServiceUnhealthyRunbook request report = .ok plan) {restart : Task}
    (member : restart ∈ plan.run.tasks) (named : restart.id = "restart-service") :
    RestartVerified restart.verification
        s!"system:node/{request.nodeId}/service/{request.service}" ↔
      request.nodeId.contains "package-db" = false ∧
        request.service.contains "package-db" = false := by
  obtain ⟨-, capabilities, -, -, rfl⟩ := planServiceUnhealthyRunbook_eq_ok.mp planned
  obtain rfl := request.restart_of_named member named
  refine request.verified_iff.trans ?_
  rw [not_or, Bool.not_eq_true, Bool.not_eq_true]

theorem planned_restart_verified_sshd : ∃ plan restart,
    planServiceUnhealthyRunbook restartRequest linuxReport = .ok plan ∧
    restart ∈ plan.run.tasks ∧
    RestartVerified restart.verification "system:node/node-a/service/sshd" := by
  obtain ⟨capabilities, planned⟩ := restartRequest_planned
  have member : restartRequest.restartService capabilities ∈
      (restartRequest.plan capabilities).run.tasks :=
    List.mem_append_right _ List.mem_cons_self
  have plain : ∀ name ∈ ["node-a", "sshd"], name.contains "package-db" = false := by
    simp only [← Bool.not_eq_true, String.contains_string_iff]
    decide
  exact ⟨_, _, planned, member, (planned_restart_verified_iff planned member rfl).mpr
    ⟨plain "node-a" (by decide), plain "sshd" (by decide)⟩⟩

def packageDbRequest : ServiceUnhealthyRunbookRequest := ⟨"run-1", "node-a", "package-db-sync"⟩

theorem package_db_restart_unverified :
    ¬ ∀ (request : ServiceUnhealthyRunbookRequest) (report : CapabilityReport)
        (plan : ServiceUnhealthyRunbookPlan),
      planServiceUnhealthyRunbook request report = .ok plan →
      ∀ restart ∈ plan.run.tasks, restart.id = "restart-service" →
        RestartVerified restart.verification
          s!"system:node/{request.nodeId}/service/{request.service}" := by
  intro h
  have planned : ∃ capabilities, planServiceUnhealthyRunbook packageDbRequest linuxReport =
      .ok (packageDbRequest.plan capabilities) := ⟨_, rfl⟩
  obtain ⟨capabilities, planned⟩ := planned
  have verified := h _ _ _ planned _ (List.mem_append_right _ List.mem_cons_self) rfl
  exact packageDbRequest.verified_iff.mp verified
    (.inr (Text.contains_parts "" "package-db" "-sync"))

end Runlane
