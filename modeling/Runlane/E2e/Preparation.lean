import Runlane.ControlPlane.Enrollment
import Runlane.E2e.Journey

/-!
The calls that a journey makes on its control plane.

Enrollment creates one token for each node and uses it at once. Tokens are told
apart by a text made of the id of the node, so enrollment fails exactly where two
nodes share an id and not an operating system. Collection then queues, pulls and
answers one task after another, so the queue is empty between two passes.
-/

namespace Runlane

namespace E2e

open Fallible KeyedList

section Calls

variable {debug : DebugTexts} {α : Type} {method : ControlPlane.Runtime α}
  {plane : ControlPlane}

theorem runtimeCall_of_ok {answer : α} {after : ControlPlane}
    (run : method.run plane = .ok answer after) :
    runtimeCall debug method plane = .ok (answer, after) := by
  rw [runtimeCall, run]

theorem runtimeCall_of_error {error : RuntimeError} {after : ControlPlane}
    (run : method.run plane = .error error after) :
    runtimeCall debug method plane = .error (.planning (debug.runtime error)) := by
  rw [runtimeCall, run]

end Calls

namespace EnrollmentLabels

def tokenOf (labels : EnrollmentLabels) (node : FleetInventoryNode) : EnrollmentToken where
  tokenId := s!"{labels.token}-{node.id}"
  token := s!"{labels.enrollment}-{node.id}"
  nodeId := node.id
  os := node.os
  serverTrustRoot := "demo-trust-root"
  expiresAtUnixSeconds := 200
  nonce := s!"{labels.nonce}-{node.id}"

def requestOf (labels : EnrollmentLabels) (node : FleetInventoryNode) :
    AgentEnrollmentRequest where
  token := s!"{labels.enrollment}-{node.id}"
  nodeId := node.id
  os := node.os
  certificateFingerprint := s!"{labels.certificate}-{node.id}"
  serverTrustRoot := "demo-trust-root"
  nowUnixSeconds := 100

def agentOf (labels : EnrollmentLabels) (node : FleetInventoryNode) : AgentIdentityRecord where
  nodeId := node.id
  os := node.os
  certificateFingerprint := s!"{labels.certificate}-{node.id}"
  serverTrustRoot := "demo-trust-root"

theorem lookup_tokenOf (labels : EnrollmentLabels) (nodes : List FleetInventoryNode)
    (node : FleetInventoryNode) :
    lookup EnrollmentToken.token (nodes.map labels.tokenOf) (labels.tokenOf node).token =
      (lookup FleetInventoryNode.id nodes node.id).map labels.tokenOf := by
  refine lookup_map _ (fun other => ?_) nodes
  exact String.append_right_inj _

theorem lookup_agentOf (labels : EnrollmentLabels) (nodes : List FleetInventoryNode)
    (nodeId : String) :
    lookup AgentIdentityRecord.nodeId (nodes.map labels.agentOf) nodeId =
      (lookup FleetInventoryNode.id nodes nodeId).map labels.agentOf :=
  lookup_map _ (fun _ => Iff.rfl) nodes

end EnrollmentLabels

/-- The nodes that are enrolled, and no task or result yet. -/
structure Enrolling (labels : EnrollmentLabels) (done : List FleetInventoryNode)
    (plane : ControlPlane) : Prop where
  tokens : plane.enrollmentTokens = done.map labels.tokenOf
  agents : plane.agents = done.map labels.agentOf
  pendingTasks : plane.pendingTasks = []
  pulledTasks : plane.pulledTasks = []
  nonces : plane.acceptedResultNonces = []
  results : plane.acceptedResults = []

/-- The first node of this id, the node itself included, has its operating system. -/
def FirstHasOs (done : List FleetInventoryNode) (node : FleetInventoryNode) : Prop :=
  ∀ first, lookup FleetInventoryNode.id (done ++ [node]) node.id = some first →
    first.os = node.os

section Enrollment

variable {debug : DebugTexts} {labels : EnrollmentLabels} {done : List FleetInventoryNode}
  {plane : ControlPlane} {node : FleetInventoryNode}

theorem Enrolling.empty : Enrolling labels [] .empty where
  tokens := rfl
  agents := rfl
  pendingTasks := rfl
  pulledTasks := rfl
  nonces := rfl
  results := rfl

theorem Enrolling.enrolls_iff (held : Enrolling labels done plane) :
    (∃ token, ControlPlane.Enrolls (plane.tokenCreated (labels.tokenOf node))
      (labels.requestOf node) token) ↔ FirstHasOs done node := by
  have issued : lookup EnrollmentToken.token
      (plane.tokenCreated (labels.tokenOf node)).enrollmentTokens (labels.requestOf node).token =
        (lookup FleetInventoryNode.id (done ++ [node]) node.id).map labels.tokenOf := by
    rw [← labels.lookup_tokenOf, List.map_append, ← held.tokens]
    rfl
  refine ⟨?_, ?_⟩
  · intro enrolls first found
    obtain ⟨token, guard⟩ := enrolls
    have created := guard.issued
    rw [issued, found, Option.map_some, Option.some.injEq] at created
    rw [← created] at guard
    exact guard.os
  · intro same
    obtain ⟨first, found⟩ := exists_of_mem FleetInventoryNode.id
      (List.mem_append_right done (List.mem_singleton_self node)) rfl
    refine ⟨labels.tokenOf first, ?_, ?_, ?_, same first found, rfl⟩
    · rw [issued, found, Option.map_some]
    · change 100 < 200
      decide
    · exact key_of_lookup FleetInventoryNode.id found

theorem Enrolling.enrollNode_ok (held : Enrolling labels done plane)
    (guard : FirstHasOs done node) :
    ∃ next, enrollNode debug labels plane node = .ok next ∧
      Enrolling labels (done ++ [node]) next := by
  obtain ⟨token, enrolls⟩ := held.enrolls_iff.mpr guard
  obtain ⟨record, rfl, run⟩ := ControlPlane.enrollAgent_run enrolls
  have created := ControlPlane.createEnrollmentToken_run plane (labels.tokenOf node)
  refine ⟨(plane.tokenCreated (labels.tokenOf node)).enrolled (labels.agentOf node), ?_, ?_⟩
  · simp only [enrollNode, bind_eq_ok, pure_eq_ok]
    exact ⟨_, runtimeCall_of_ok created, _, runtimeCall_of_ok run, rfl⟩
  · refine ⟨?_, ?_, held.pendingTasks, held.pulledTasks, held.nonces, held.results⟩
    · rw [List.map_append, ← held.tokens]
      rfl
    · rw [List.map_append, ← held.agents]
      rfl

theorem Enrolling.enrollNode_needs (held : Enrolling labels done plane) {next : ControlPlane}
    (passed : enrollNode debug labels plane node = .ok next) : FirstHasOs done node := by
  by_contra other
  have refused := not_exists.mp (mt held.enrolls_iff.mp other)
  obtain ⟨error, run⟩ := ControlPlane.enrollAgent_refused refused
  simp only [enrollNode, bind_eq_ok] at passed
  obtain ⟨created, first, enrolled, second, -⟩ := passed
  cases (runtimeCall_of_ok (ControlPlane.createEnrollmentToken_run plane
    (labels.tokenOf node))).symm.trans first
  cases (runtimeCall_of_error run).symm.trans second

end Enrollment

/-- Nodes of one id have one operating system. -/
def OneOsPerId (nodes : List FleetInventoryNode) : Prop :=
  ∀ node ∈ nodes, ∀ other ∈ nodes, node.id = other.id → node.os = other.os

theorem oneOsPerId_iff {nodes : List FleetInventoryNode} :
    OneOsPerId nodes ↔
      ∀ before node after, nodes = before ++ node :: after → FirstHasOs before node := by
  refine ⟨?_, ?_⟩
  · intro same before node after split first found
    subst split
    have member : node ∈ before ++ [node] := List.mem_append_right _ (List.mem_singleton_self _)
    have listed : ∀ other ∈ before ++ [node], other ∈ before ++ node :: after := by
      intro other
      simp only [List.mem_append, List.mem_cons, List.not_mem_nil, or_false]
      exact Or.imp_right .inl
    exact same first (listed _ (mem_of_lookup _ found)) node (listed _ member)
      (key_of_lookup FleetInventoryNode.id found)
  · intro guarded
    have agrees : ∀ node ∈ nodes, ∀ first,
        lookup FleetInventoryNode.id nodes node.id = some first → first.os = node.os := by
      intro node member first found
      obtain ⟨before, after, rfl⟩ := List.append_of_mem member
      obtain ⟨early, foundEarly⟩ := exists_of_mem FleetInventoryNode.id
        (List.mem_append_right before (List.mem_singleton_self node)) rfl
      have later := lookup_append_of_some _ foundEarly after
      rw [List.append_assoc, List.singleton_append, found, Option.some.injEq] at later
      rw [later]
      exact guarded before node after rfl early foundEarly
    intro node member other listed same
    obtain ⟨first, found⟩ := exists_of_mem FleetInventoryNode.id member rfl
    rw [← agrees node member first found]
    exact agrees other listed first (same ▸ found)

theorem enrollFleetAgents_isOk_iff {debug : DebugTexts} {fleet : FleetRepository}
    {labels : EnrollmentLabels} :
    (∃ plane, enrollFleetAgents debug .empty fleet labels = .ok plane) ↔
      OneOsPerId fleet.inventory := by
  rw [oneOsPerId_iff]
  exact foldlM_isOk_iff (I := Enrolling labels) (G := FirstHasOs) Enrolling.enrollNode_ok
    (fun held passed => held.enrollNode_needs passed) .empty fleet.inventory

theorem enrollFleetAgents_enrolls {debug : DebugTexts} {fleet : FleetRepository}
    {labels : EnrollmentLabels} {plane : ControlPlane}
    (passed : enrollFleetAgents debug .empty fleet labels = .ok plane) :
    Enrolling labels fleet.inventory plane := by
  have oneOs := enrollFleetAgents_isOk_iff.mp ⟨plane, passed⟩
  obtain ⟨next, passed', held⟩ := foldlM_total (I := Enrolling labels) (G := FirstHasOs)
    (fun held guard => held.enrollNode_ok guard) .empty fleet.inventory (oneOsPerId_iff.mp oneOs)
  cases passed.symm.trans passed'
  exact held

/-- What a pass of the collection loop asks of its task. -/
structure Collectable (evidenceForTask : String → Except E2eError EvidenceEnvelope)
    (task : Task) : Prop where
  capability : ∃ capability, task.requiredCapabilities.head? = some capability
  resource : ∃ resourceId, task.reads.head? = some resourceId
  evidence : ∃ evidence, evidenceForTask task.id = .ok evidence

/-- The agent is let in, nothing is queued, and the results are those of the
tasks that are done. -/
structure Collecting (identity : AgentIdentity) (runId : String)
    (evidenceForTask : String → Except E2eError EvidenceEnvelope) (done : List (Task × Nat))
    (plane : ControlPlane) : Prop where
  authenticated : plane.requireAgent identity = .ok ()
  pendingTasks : plane.pendingTasks = []
  pulled : (plane.pulledTasks.map fun task => task.envelope.envelopeId) =
    done.map fun entry => s!"env-demo-{entry.1.id}"
  nonces : plane.acceptedResultNonces = done.map fun entry => s!"nonce-demo-{entry.1.id}"
  evidence : (done.map fun entry => evidenceForTask entry.1.id) =
    (acceptedEvidence plane runId).map .ok

def collectionTask (runId targetId : String) (task : Task) (capability : Capability)
    (resourceId : String) : PendingAgentTask where
  envelope := {
    envelopeId := s!"env-demo-{task.id}"
    runId := runId
    taskId := task.id
    nodeId := targetId
    issuedAtUnixSeconds := 100
    expiresAtUnixSeconds := 200
    nonce := s!"nonce-demo-{task.id}"
    requiredCapabilities := task.requiredCapabilities
    auditCorrelationId := s!"audit-demo-{task.id}" }
  payload := .collectEvidence capability resourceId

section Collection

variable {debug : DebugTexts} {identity : AgentIdentity} {runId : String}
  {evidenceForTask : String → Except E2eError EvidenceEnvelope} {done : List (Task × Nat)}
  {plane : ControlPlane}

theorem enqueueCollectTask_ok {targetId resourceId : String} {task : Task}
    {capability : Capability} (first : task.requiredCapabilities.head? = some capability)
    (read : task.reads.head? = some resourceId) :
    enqueueCollectTask debug plane runId targetId task = .ok { plane with
      pendingTasks := plane.pendingTasks ++
        [collectionTask runId targetId task capability resourceId] } := by
  simp only [enqueueCollectTask, first, read]
  rfl

theorem acceptedEvidence_accepted (plane : ControlPlane) (envelope : AgentTaskEnvelope)
    (evidence : EvidenceEnvelope) :
    acceptedEvidence (plane.accepted (resultSubmission envelope evidence)) envelope.runId =
      acceptedEvidence plane envelope.runId ++ [evidence] := by
  simp [acceptedEvidence, ControlPlane.accepted, resultSubmission]

/-- The plane while the task of a pass is queued. -/
def enqueued (plane : ControlPlane) (task : PendingAgentTask) : ControlPlane :=
  { plane with pendingTasks := plane.pendingTasks ++ [task] }

theorem Collecting.offers (held : Collecting identity runId evidenceForTask done plane)
    (queued : PendingAgentTask) (node : queued.envelope.nodeId = identity.nodeId) :
    ControlPlane.Offers (enqueued plane queued) identity queued where
  authenticated := held.authenticated
  queued := by
    simp [enqueued, held.pendingTasks, lookup, node]

theorem Collecting.pulledTask (held : Collecting identity runId evidenceForTask done plane)
    {entry : Task × Nat} {queued : PendingAgentTask}
    (envelopeId : queued.envelope.envelopeId = s!"env-demo-{entry.1.id}")
    (fresh : entry.1.id ∉ done.map fun earlier => earlier.1.id) :
    ControlPlane.pulledTask ((enqueued plane queued).delivered queued)
      queued.envelope.envelopeId = some queued := by
  have unpulled : lookup (fun task : PendingAgentTask => task.envelope.envelopeId)
      plane.pulledTasks queued.envelope.envelopeId = none := by
    refine List.find?_eq_none.mpr fun task member same => fresh ?_
    have listed : queued.envelope.envelopeId ∈
        plane.pulledTasks.map fun task => task.envelope.envelopeId :=
      List.mem_map.mpr ⟨task, member, of_decide_eq_true same⟩
    rw [held.pulled, envelopeId] at listed
    obtain ⟨earlier, earlierDone, sameId⟩ := List.mem_map.mp listed
    exact List.mem_map.mpr ⟨earlier, earlierDone, (String.append_right_inj _).mp sameId⟩
  have pulled : ((enqueued plane queued).delivered queued).pulledTasks =
      plane.pulledTasks ++ [queued] := rfl
  rw [ControlPlane.pulledTask, pulled, lookup_append, unpulled, Option.none_or]
  simp [lookup]

theorem Collecting.accepts (held : Collecting identity runId evidenceForTask done plane)
    {entry : Task × Nat} (queued : PendingAgentTask) {now : Nat} (evidence : EvidenceEnvelope)
    (node : queued.envelope.nodeId = identity.nodeId)
    (envelopeId : queued.envelope.envelopeId = s!"env-demo-{entry.1.id}")
    (nonce : queued.envelope.nonce = s!"nonce-demo-{entry.1.id}")
    (unexpired : now < queued.envelope.expiresAtUnixSeconds)
    (fresh : entry.1.id ∉ done.map fun earlier => earlier.1.id) :
    ControlPlane.Accepts ((enqueued plane queued).delivered queued)
      ⟨identity, resultSubmission queued.envelope evidence, now⟩ queued where
  authenticated := held.authenticated
  submitter := node
  fresh := by
    intro used
    change queued.envelope.nonce ∈ plane.acceptedResultNonces at used
    rw [held.nonces, nonce] at used
    obtain ⟨earlier, earlierDone, same⟩ := List.mem_map.mp used
    exact fresh (List.mem_map.mpr ⟨earlier, earlierDone, (String.append_right_inj _).mp same⟩)
  pulled := held.pulledTask envelopeId fresh
  unexpired := unexpired
  taskId := rfl
  runId := rfl
  nonce := rfl

theorem Collecting.next (held : Collecting identity runId evidenceForTask done plane)
    {entry : Task × Nat} {capability : Capability} {resourceId : String}
    {evidence : EvidenceEnvelope} (shown : evidenceForTask entry.1.id = .ok evidence)
    (queued : PendingAgentTask)
    (same : queued = collectionTask runId identity.nodeId entry.1 capability resourceId) :
    Collecting identity runId evidenceForTask (done ++ [entry])
      (((enqueued plane queued).delivered queued).accepted
        (resultSubmission queued.envelope evidence)) where
  authenticated := held.authenticated
  pendingTasks := by
    change (plane.pendingTasks ++ [queued]).eraseP _ = []
    simp [held.pendingTasks]
  pulled := by
    change ((plane.pulledTasks ++ [queued]).map _) = _
    rw [List.map_append, held.pulled, List.map_append, same]
    rfl
  nonces := by
    change plane.acceptedResultNonces ++ [queued.envelope.nonce] = _
    rw [held.nonces, List.map_append, same]
    rfl
  evidence := by
    have run : runId = queued.envelope.runId := by rw [same]; rfl
    have kept : acceptedEvidence ((enqueued plane queued).delivered queued) runId =
        acceptedEvidence plane runId := rfl
    rw [List.map_append, held.evidence, run, acceptedEvidence_accepted, ← run, kept,
      List.map_append, List.map_singleton, shown, List.map_singleton]

theorem Collecting.collect_ok (held : Collecting identity runId evidenceForTask done plane)
    {entry : Task × Nat} (collectable : Collectable evidenceForTask entry.1)
    (early : entry.2 < 90) (fresh : entry.1.id ∉ done.map fun earlier => earlier.1.id) :
    ∃ next, collectTaskEvidence debug identity runId identity.nodeId evidenceForTask plane entry =
        .ok next ∧ Collecting identity runId evidenceForTask (done ++ [entry]) next := by
  obtain ⟨⟨capability, first⟩, ⟨resourceId, read⟩, evidence, shown⟩ := collectable
  have pullable : 101 + entry.2 < 200 := by omega
  have submittable : 110 + entry.2 < 200 := by omega
  let queued := collectionTask runId identity.nodeId entry.1 capability resourceId
  have pulled := ControlPlane.pullTask_run (held.offers queued rfl) pullable
  have submitted := ControlPlane.submitResult_run
    (held.accepts queued evidence rfl rfl rfl submittable fresh)
  refine ⟨_, ?_, held.next shown queued rfl⟩
  simp only [collectTaskEvidence, bind_eq_ok]
  refine ⟨_, enqueueCollectTask_ok first read, _, runtimeCall_of_ok pulled, ?_⟩
  change (evidenceForTask entry.1.id >>= _) = _
  simp only [bind_eq_ok]
  exact ⟨evidence, shown, _, runtimeCall_of_ok submitted, rfl⟩

/-- Collection answers each task with the evidence that belongs to it. -/
theorem collectEvidence_ok (held : Collecting identity runId evidenceForTask [] plane)
    {tasks collecting : List Task}
    (chosen : tasks.filter (fun task => task.id.startsWith "collect-") = collecting)
    (collectable : ∀ task ∈ collecting, Collectable evidenceForTask task)
    (few : collecting.length ≤ 90) (distinct : (collecting.map Task.id).Nodup) :
    ∃ evidence next, collectEvidence debug plane identity runId identity.nodeId tasks
        evidenceForTask = .ok (evidence, next) ∧
      (collecting.map fun task => evidenceForTask task.id) = evidence.map .ok := by
  have ids : (collecting.zipIdx.map fun entry => entry.1.id) = collecting.map Task.id := by
    rw [← List.zipIdx_map_fst 0 collecting, List.map_map, List.zipIdx_map_fst]
    rfl
  obtain ⟨next, passed, final⟩ := foldlM_total (I := Collecting identity runId evidenceForTask)
    (G := fun done entry => Collectable evidenceForTask entry.1 ∧ entry.2 < 90 ∧
      entry.1.id ∉ done.map fun earlier => earlier.1.id)
    (fun held guard => held.collect_ok guard.1 guard.2.1 guard.2.2) held collecting.zipIdx (by
      intro before entry after split
      have member : entry ∈ collecting.zipIdx := by
        rw [split]
        exact List.mem_append_right _ List.mem_cons_self
      refine ⟨collectable _ (List.fst_mem_of_mem_zipIdx member),
        Nat.lt_of_lt_of_le (List.snd_lt_of_mem_zipIdx member) few, ?_⟩
      rw [← ids, split, List.map_append, List.map_cons] at distinct
      intro earlier
      exact (List.nodup_append.mp distinct).2.2 _ earlier _ List.mem_cons_self rfl)
  have answered := final.evidence
  rw [List.nil_append] at answered
  have count : (acceptedEvidence next runId).length = collecting.length := by
    have same := congrArg List.length answered
    simpa using same.symm
  refine ⟨acceptedEvidence next runId, next, ?_, ?_⟩
  · simp only [collectEvidence, chosen, bind_eq_ok]
    refine ⟨next, passed, ?_⟩
    rw [if_neg (not_not.mpr count)]
    rfl
  · rw [← answered, ← List.zipIdx_map_fst 0 collecting, List.map_map, List.zipIdx_map_fst]
    rfl

end Collection

/-- An enrolled node is ready for the collection. -/
theorem Enrolling.collecting {labels : EnrollmentLabels} {nodes : List FleetInventoryNode}
    {plane : ControlPlane} (held : Enrolling labels nodes plane) {target : FleetInventoryNode}
    (found : lookup FleetInventoryNode.id nodes target.id = some target) (runId : String)
    (evidenceForTask : String → Except E2eError EvidenceEnvelope) :
    enrolledIdentity plane target.id = .ok (labels.agentOf target).identity ∧
      Collecting (labels.agentOf target).identity runId evidenceForTask [] plane := by
  have agent : lookup AgentIdentityRecord.nodeId plane.agents target.id =
      some (labels.agentOf target) := by
    rw [held.agents, labels.lookup_agentOf, found, Option.map_some]
  refine ⟨?_, ?_⟩
  · unfold enrolledIdentity
    rw [show plane.agents.find? (fun agent => agent.nodeId = target.id) = _ from agent]
  · refine ⟨?_, held.pendingTasks, ?_, held.nonces, ?_⟩
    · exact ControlPlane.requireAgent_eq_ok.mpr ⟨labels.agentOf target, agent, rfl⟩
    · rw [held.pulledTasks]
      rfl
    · rw [acceptedEvidence, held.results]
      rfl

end E2e

end Runlane
