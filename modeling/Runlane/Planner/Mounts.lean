import Runlane.Planner.CleanupScope
import Mathlib.Data.List.Forall2

/-!
How the disk-pressure plan tells the filesystems of a node apart.

A filesystem is named after its mount, with the root spelled out and every other
slash replaced by a dash. Two mounts therefore share a name when one has slashes
where the other has dashes, or when one is the root and the other is `/root`, and
the plans of two such mounts lease and verify one resource.
-/

namespace Runlane

/-- An absolute path with no doubled slash and, unless it is the root, none at its end. -/
structure PlainMount (mount : String) : Prop where
  absolute : ['/'] <+: mount.toList
  doubled : ¬ ['/', '/'] <:+: mount.toList
  trailing : mount ≠ "/" → ¬ ['/'] <:+ mount.toList

/-- One character may stand where the other does: it is the same, or both are a slash or a dash. -/
def Interchanged (a b : Char) : Prop :=
  a = b ∨ a ∈ ['/', '-'] ∧ b ∈ ['/', '-']

/-- The mounts that have one name. -/
def Confused (mount other : String) : Prop :=
  (mount = "/" ∧ other = "/root") ∨ (mount = "/root" ∧ other = "/") ∨
    List.Forall₂ Interchanged mount.toList other.toList

instance (a b : Char) : Decidable (Interchanged a b) :=
  inferInstanceAs (Decidable (_ ∨ _))

instance (mount other : String) : Decidable (Confused mount other) :=
  inferInstanceAs (Decidable (_ ∨ _ ∨ _))

def slashToDash (c : Char) : Char :=
  if c = '/' then '-' else c

theorem slashToDash_eq_iff {a b : Char} :
    slashToDash a = slashToDash b ↔ Interchanged a b := by
  unfold slashToDash Interchanged
  simp only [List.mem_cons, List.not_mem_nil, or_false]
  split_ifs with slash slash' slash' <;> grind

/-- What was rewritten to a text without a dash is that text. -/
theorem eq_of_map_slashToDash {inner target : List Char} (absent : '-' ∉ target)
    (rewritten : inner.map slashToDash = target) : inner = target := by
  have fixed : inner.map slashToDash = inner.map id := by
    refine List.map_congr_left ?_
    intro c member
    refine if_neg ?_
    intro slash
    have dash : slashToDash c ∈ target := rewritten ▸ List.mem_map_of_mem member
    rw [slashToDash, if_pos slash] at dash
    exact absent dash
  rw [← rewritten, fixed, List.map_id]

theorem map_slashToDash_eq_iff {inner inner' : List Char} :
    inner.map slashToDash = inner'.map slashToDash ↔
      List.Forall₂ Interchanged inner inner' := by
  rw [← List.forall₂_eq_eq_eq, List.forall₂_map_left_iff, List.forall₂_map_right_iff]
  simp only [slashToDash_eq_iff]

/-- The name of a mount other than the root is what follows its first slash, rewritten. -/
theorem PlainMount.named {mount : String} (plain : PlainMount mount) (other : mount ≠ "/") :
    ∃ inner, mount.toList = '/' :: inner ∧
      (mountResourceFragment mount).toList = inner.map slashToDash := by
  obtain ⟨inner, starts⟩ := plain.absolute
  replace starts : mount.toList = '/' :: inner := starts.symm
  refine ⟨inner, starts, ?_⟩
  have front : inner.head? ≠ some '/' := by
    intro slash
    obtain ⟨rest, rfl⟩ := List.head?_eq_some_iff.mp slash
    refine plain.doubled ?_
    rw [starts]
    exact ⟨[], rest, rfl⟩
  have back : inner.getLast? ≠ some '/' := by
    intro slash
    obtain ⟨rest, rfl⟩ := List.getLast?_eq_some_iff.mp slash
    refine plain.trailing other ?_
    rw [starts]
    exact ⟨'/' :: rest, rfl⟩
  rw [mountResourceFragment, if_neg other, String.toList_map,
    Text.toList_trimMatches_cons starts front back]
  rfl

theorem Confused.symm {mount other : String} (confused : Confused mount other) :
    Confused other mount := by
  obtain ⟨root, spelled⟩ | ⟨spelled, root⟩ | pointwise := confused
  · exact .inr (.inl ⟨spelled, root⟩)
  · exact .inl ⟨root, spelled⟩
  · refine .inr (.inr (List.Forall₂.flip (pointwise.imp ?_)))
    intro a b interchanged
    obtain same | both := interchanged
    · exact .inl same.symm
    · exact .inr both.symm

theorem confused_root_iff {other : String} (plain : PlainMount other) (apart : other ≠ "/") :
    mountResourceFragment other = "root" ↔ Confused "/" other := by
  obtain ⟨inner, starts, named⟩ := plain.named apart
  rw [← String.toList_inj, named]
  constructor
  · intro rewritten
    have spelled : inner = "root".toList := eq_of_map_slashToDash (by decide) rewritten
    refine .inl ⟨rfl, ?_⟩
    rw [← String.toList_inj, starts, spelled]
    rfl
  · intro confused
    obtain ⟨-, rfl⟩ | ⟨impossible, -⟩ | pointwise := confused
    · cases starts
      decide
    · exact absurd impossible (by decide)
    · rw [starts] at pointwise
      cases pointwise with
      | cons first rest =>
          cases rest
          exact absurd (String.toList_inj.mp starts) apart

theorem mountResourceFragment_eq_iff {mount other : String} (plain : PlainMount mount)
    (plainOther : PlainMount other) :
    mountResourceFragment mount = mountResourceFragment other ↔ Confused mount other := by
  have root : mountResourceFragment "/" = "root" := if_pos rfl
  by_cases atRoot : mount = "/"
  · subst atRoot
    by_cases alsoRoot : other = "/"
    · subst alsoRoot
      exact iff_of_true rfl (by decide)
    · rw [root, eq_comm]
      exact confused_root_iff plainOther alsoRoot
  · by_cases otherRoot : other = "/"
    · subst otherRoot
      rw [root, confused_root_iff plain atRoot]
      exact ⟨Confused.symm, Confused.symm⟩
    · obtain ⟨inner, starts, named⟩ := plain.named atRoot
      obtain ⟨inner', starts', named'⟩ := plainOther.named otherRoot
      rw [← String.toList_inj, named, named', map_slashToDash_eq_iff, Confused, starts, starts',
        List.forall₂_cons]
      simp only [atRoot, otherRoot, false_and, and_false, false_or, Interchanged, true_or,
        true_and]

/-- The resources under which a plan may affect its filesystem, leases it for the
disk usage and verifies the space that was freed. -/
def DiskPressureRunbookPlan.filesystemResources (plan : DiskPressureRunbookPlan) : List String :=
  plan.run.impact.mayAffect ++
    (plan.run.tasks.filter fun task => task.id = "collect-disk-usage").flatMap
      (fun task => task.effectiveLeaseRequests.map fun request => request.resourceId) ++
    (plan.run.verification.required.filter fun check => check.id = "free_space_improved").map
      fun check => check.resourceId

theorem DiskPressureRunbookRequest.filesystemResources_plan (request : DiskPressureRunbookRequest)
    (capabilities : DiskPressureCapabilities) :
    (request.plan capabilities).filesystemResources =
      [request.filesystemResource, request.filesystemResource, request.filesystemResource] := by
  rfl

/-- The mounts have two names, and no plan for the one takes the filesystem of a
plan for the other on the same node for its own. -/
structure ToldApart (mount other : String) : Prop where
  fragments : mountResourceFragment mount ≠ mountResourceFragment other
  plans : ∀ (request request' : DiskPressureRunbookRequest) (report report' : CapabilityReport)
    (plan plan' : DiskPressureRunbookPlan), request.mount = mount → request'.mount = other →
    request.nodeId = request'.nodeId → planDiskPressureRunbook request report = .ok plan →
    planDiskPressureRunbook request' report' = .ok plan' →
    plan.filesystemResources.Disjoint plan'.filesystemResources

theorem DiskPressureRunbookRequest.filesystemResource_inj
    {request request' : DiskPressureRunbookRequest} (node : request.nodeId = request'.nodeId) :
    request.filesystemResource = request'.filesystemResource ↔
      mountResourceFragment request.mount = mountResourceFragment request'.mount := by
  rw [DiskPressureRunbookRequest.filesystemResource,
    DiskPressureRunbookRequest.filesystemResource, node]
  exact String.append_right_inj _

/-- Mounts are told apart except for the root and `/root`, and for paths that differ
only in slashes where the other has dashes. -/
theorem mounts_told_apart_iff {mount other : String} (plain : PlainMount mount)
    (plainOther : PlainMount other) : ToldApart mount other ↔ ¬ Confused mount other := by
  rw [← mountResourceFragment_eq_iff plain plainOther]
  refine ⟨ToldApart.fragments, fun fragments => ⟨fragments, ?_⟩⟩
  intro request request' report report' plan plan' named named' node planned planned'
  obtain ⟨-, capabilities, -, rfl⟩ := planDiskPressureRunbook_eq_ok.mp planned
  obtain ⟨-, capabilities', -, rfl⟩ := planDiskPressureRunbook_eq_ok.mp planned'
  intro resource member member'
  rw [request.filesystemResources_plan] at member
  rw [request'.filesystemResources_plan] at member'
  have first : resource = request.filesystemResource := by simpa using member
  have second : resource = request'.filesystemResource := by simpa using member'
  have same := (DiskPressureRunbookRequest.filesystemResource_inj node).mp (first.symm.trans second)
  rw [named, named'] at same
  exact fragments same

theorem plainMount_varLog : PlainMount "/var/log" :=
  ⟨by decide, by decide, by decide⟩

theorem mounts_told_apart_var : ToldApart "/var" "/var/log" :=
  (mounts_told_apart_iff ⟨by decide, by decide, by decide⟩ plainMount_varLog).mpr (by decide)

/-- `/var/log` and `/var-log` are both named `var-log`. -/
theorem nested_mount_not_told_apart :
    ¬ ∀ mount other, PlainMount mount → PlainMount other → mount ≠ other →
      ToldApart mount other := by
  intro claimed
  have plain : PlainMount "/var-log" := ⟨by decide, by decide, by decide⟩
  have named : mountResourceFragment "/var/log" = mountResourceFragment "/var-log" :=
    (mountResourceFragment_eq_iff plainMount_varLog plain).mpr (by decide)
  exact (claimed "/var/log" "/var-log" plainMount_varLog plain (by decide)).fragments named

end Runlane
