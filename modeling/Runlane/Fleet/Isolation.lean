import Runlane.Fleet.Repository

/-!
What the overlays of other nodes and other operating systems do to a node.

A repository is resolved once, from the overlays of all its nodes. The overlays
that concern one node give the same settings exactly when no other overlay has
the last word on a key, or says then what they say.
-/

namespace Runlane

open Fallible

/-- Fragments are scoped by operating system and by node; the other tiers are shared. -/
def FleetOverlayTier.concerns (node : FleetInventoryNode) : FleetOverlayTier → Bool
  | .os target => target = node.os
  | .node target => target = node.id
  | _ => true

def applicableOverlays (node : FleetInventoryNode) (overlays : List FleetOverlayFragment) :
    List FleetOverlayFragment :=
  overlays.filter fun fragment => fragment.tier.concerns node

/-- Whenever a fragment that does not concern the node is the last of the highest
rank to set a key, the last of the highest rank among those that do concern the
node sets the key to the same value. -/
def ForeignOverlaysAgree (node : FleetInventoryNode) (overlays : List FleetOverlayFragment) :
    Prop :=
  ∀ key fragment, fleetLayering.Strongest key overlays fragment →
    fragment.tier.concerns node = false →
      ∃ own, fleetLayering.Strongest key (applicableOverlays node overlays) own ∧
        fleetLayering.valueAt key own = fleetLayering.valueAt key fragment

theorem FleetRepository.resolvedOverlay_eq {root : String} {tree : Fleet.FleetTree}
    {yaml : Fleet.FleetYaml} {repository : FleetRepository}
    (loaded : FleetRepository.load root tree yaml = .ok repository) :
    repository.resolvedOverlay = resolveFleetOverlays repository.overlays := by
  simp only [load, bind_eq_ok] at loaded
  obtain ⟨inventory, -, roles, -, runbooks, -, policies, -, allowlists, -, overlays, -, -, -,
    built⟩ := loaded
  rw [← pure_eq_ok.mp built]

theorem FleetRepository.resolved_overlay_unpolluted_iff {root : String} {tree : Fleet.FleetTree}
    {yaml : Fleet.FleetYaml} {repository : FleetRepository}
    (loaded : FleetRepository.load root tree yaml = .ok repository) (node : FleetInventoryNode) :
    resolveFleetOverlays (applicableOverlays node repository.overlays) =
        repository.resolvedOverlay ↔
      ForeignOverlaysAgree node repository.overlays := by
  rw [resolvedOverlay_eq loaded, resolveFleetOverlays_eq_iff]
  exact Layering.merge_filter_equiv_iff _

namespace Fleet

open Yaml

def edgeInventory : String :=
  "id: freebsd-edge-01\nhostname: freebsd-edge-01\nos: freebsd\nlayers:\n  primary: system\n" ++
    "  supports: [system]\ncapabilities:\n  requested: []\npolicy:\n  profile: production\n"

def productionPolicy : String :=
  "id: production\nhelper:\n  require_signed_lease: true\n  reject_replay: true\n"

def osOverlay (os driver : String) : String :=
  s!"tier: os\nname: {os}\nsettings:\n  service.driver: {driver}\n"

def sampleTree : FleetTree
  | "inventory" => some (.ok [.file "freebsd-edge-01.yaml" (.ok edgeInventory)])
  | "policies" => some (.ok [.file "production.yaml" (.ok productionPolicy)])
  | "overlays" => some (.ok [.directory "os"
      [.file "linux.yaml" (.ok (osOverlay "linux" "systemd")),
        .file "freebsd.yaml" (.ok (osOverlay "freebsd" "freebsd-rc"))]])
  | _ => none

def entry (key : String) (value : Value) : Value × Value :=
  (.string key, value)

def document {α : Type} (known : List (String × α)) (text : String) : Except String α :=
  match known.lookup text with
  | some found => .ok found
  | none => .error "not one of the sample documents"

def overlayValue (os driver : String) : Value :=
  .mapping [entry "tier" (.string "os"), entry "name" (.string os),
    entry "settings" (.mapping [entry "service.driver" (.string driver)])]

def sampleFleetYaml : FleetYaml where
  value := document [
    (edgeInventory, .mapping [entry "id" (.string "freebsd-edge-01"),
      entry "hostname" (.string "freebsd-edge-01"), entry "os" (.string "freebsd"),
      entry "layers" (.mapping [entry "primary" (.string "system"),
        entry "supports" (.sequence [.string "system"])]),
      entry "capabilities" (.mapping [entry "requested" (.sequence [])]),
      entry "policy" (.mapping [entry "profile" (.string "production")])]),
    (productionPolicy, .mapping [entry "id" (.string "production"),
      entry "helper" (.mapping [entry "require_signed_lease" (.bool true),
        entry "reject_replay" (.bool true)])]),
    (osOverlay "linux" "systemd", overlayValue "linux" "systemd"),
    (osOverlay "freebsd" "freebsd-rc", overlayValue "freebsd" "freebsd-rc")]
  inventoryNode := document [(edgeInventory, {
    id := "freebsd-edge-01"
    hostname := "freebsd-edge-01"
    os := "freebsd"
    labels := []
    layers := ⟨"system", ["system"]⟩
    requestedCapabilities := []
    policyProfile := "production" })]
  role := document []
  runbook := document []
  policy := document [(productionPolicy, ⟨"production", true, true⟩)]
  allowlist := document []
  overlay := document [
    (osOverlay "linux" "systemd", ⟨"os", some "linux", [("service.driver", "systemd")]⟩),
    (osOverlay "freebsd" "freebsd-rc", ⟨"os", some "freebsd", [("service.driver", "freebsd-rc")]⟩)]

def edgeNode : FleetInventoryNode where
  id := "freebsd-edge-01"
  hostname := "freebsd-edge-01"
  os := .freeBsd
  labels := []
  layers := ⟨.system, [.system]⟩
  requestedCapabilities := []
  policyProfile := "production"

def sampleRepository : FleetRepository where
  root := "fleet"
  inventory := [edgeNode]
  roles := []
  runbooks := []
  policies := [⟨"production", true, true⟩]
  allowlists := []
  overlays := [⟨.os .freeBsd, [⟨"service.driver", "freebsd-rc"⟩]⟩,
    ⟨.os .linux, [⟨"service.driver", "systemd"⟩]⟩]
  resolvedOverlay := ⟨[⟨"service.driver", "systemd"⟩]⟩

theorem load_sample :
    FleetRepository.load "fleet" sampleTree sampleFleetYaml = .ok sampleRepository := by
  decide +kernel

end Fleet

open Fleet

theorem FleetRepository.resolved_overlay_unpolluted_sample :
    resolveFleetOverlays (applicableOverlays edgeNode sampleRepository.overlays) =
        sampleRepository.resolvedOverlay ↔
      ForeignOverlaysAgree edgeNode sampleRepository.overlays :=
  resolved_overlay_unpolluted_iff load_sample edgeNode

theorem FleetRepository.resolved_overlay_of_other_system :
    ¬ ∀ (root : String) (tree : FleetTree) (yaml : FleetYaml) (repository : FleetRepository),
      FleetRepository.load root tree yaml = .ok repository → ∀ node ∈ repository.inventory,
        resolveFleetOverlays (applicableOverlays node repository.overlays) =
          repository.resolvedOverlay := by
  intro claimed
  have same := claimed "fleet" sampleTree sampleFleetYaml sampleRepository load_sample edgeNode
    List.mem_cons_self
  exact absurd same (by decide)

end Runlane
