import Runlane.Core.Vocabulary
import Runlane.Lib.Layers

/-!
Overlays of a fleet: fragments of settings at six tiers. Later tiers override
earlier ones, and of two fragments of one tier the later overrides the earlier,
whatever the tiers name.
-/

namespace Runlane

inductive FleetOverlayTier where
  | global
  | os (os : OperatingSystem)
  | layer (layer : OperationalLayer)
  | role (name : String)
  | environment (name : String)
  | node (id : String)
deriving DecidableEq

def FleetOverlayTier.rank : FleetOverlayTier → Nat
  | global => 0
  | os _ => 1
  | layer _ => 2
  | role _ => 3
  | environment _ => 4
  | node _ => 5

structure FleetIntentSetting where
  key : String
  value : String
deriving DecidableEq

structure FleetOverlayFragment where
  tier : FleetOverlayTier
  settings : List FleetIntentSetting
deriving DecidableEq

/-- Resolved desired intent for one node or node group. -/
structure ResolvedFleetIntent where
  settings : List FleetIntentSetting
deriving DecidableEq

/-- Returns a resolved setting value. -/
def ResolvedFleetIntent.get (intent : ResolvedFleetIntent) (key : String) : Option String :=
  (intent.settings.find? fun setting => setting.key = key).map FleetIntentSetting.value

/-- Resolves fleet overlays using global -> OS -> layer -> role -> environment -> node order. -/
def resolveFleetOverlays (fragments : List FleetOverlayFragment) : ResolvedFleetIntent :=
  let fragments := fragments.insertionSort fun left right => left.tier.rank ≤ right.tier.rank
  let resolved := fragments.foldl (fun resolved fragment =>
    fragment.settings.foldl (fun resolved setting => resolved.insert setting.key setting.value)
      resolved) (∅ : Std.TreeMap String String)
  ⟨resolved.toList.map fun entry => ⟨entry.1, entry.2⟩⟩

def fleetLayering : Layering FleetOverlayFragment FleetIntentSetting String String where
  rank fragment := fragment.tier.rank
  settings := FleetOverlayFragment.settings
  key := FleetIntentSetting.key
  val := FleetIntentSetting.value

theorem resolveFleetOverlays_eq_iff {fragments others : List FleetOverlayFragment} :
    resolveFleetOverlays fragments = resolveFleetOverlays others ↔
      (fleetLayering.merge fragments).Equiv (fleetLayering.merge others) := by
  have injective : Function.Injective fun entry : String × String =>
      (⟨entry.1, entry.2⟩ : FleetIntentSetting) := by
    intro entry other same
    obtain ⟨key, value⟩ := FleetIntentSetting.mk.inj same
    exact Prod.ext key value
  rw [Std.TreeMap.equiv_iff_toList_eq, ← (List.map_injective_iff.mpr injective).eq_iff]
  exact ⟨ResolvedFleetIntent.mk.inj, congrArg ResolvedFleetIntent.mk⟩

theorem resolveFleetOverlays_increasing (fragments : List FleetOverlayFragment) :
    (resolveFleetOverlays fragments).settings.Pairwise fun left right => left.key < right.key := by
  rw [resolveFleetOverlays, List.pairwise_map]
  refine Std.TreeMap.ordered_keys_toList.imp ?_
  intro left right lower
  exact compareOfLessAndEq_eq_lt.mp lower

theorem find?_toList (map : Std.TreeMap String String) (k : String) :
    (map.toList.find? fun entry => entry.1 = k).map Prod.snd = map[k]? := by
  have compared : (fun entry : String × String => decide (entry.1 = k)) =
      fun entry => compare entry.1 k == .eq := by
    funext entry
    rw [Bool.eq_iff_iff, decide_eq_true_iff, beq_iff_eq, Std.compare_eq_iff_eq]
  rw [compared]
  cases value : map[k]? with
  | none =>
      have absent : k ∉ map := by simp [Std.TreeMap.mem_iff_isSome_getElem?, value]
      rw [Std.TreeMap.find?_toList_eq_none_iff_not_mem.mpr absent, Option.map_none]
  | some v =>
      have present : k ∈ map := by simp [Std.TreeMap.mem_iff_isSome_getElem?, value]
      have found := Std.TreeMap.find?_toList_eq_some_iff_getKey?_eq_some_and_getElem?_eq_some.mpr
        ⟨Std.TreeMap.getKey?_eq_some present, value⟩
      rw [found, Option.map_some]

theorem get_resolveFleetOverlays (fragments : List FleetOverlayFragment) (k : String) :
    (resolveFleetOverlays fragments).get k = (fleetLayering.merge fragments)[k]? := by
  rw [← find?_toList, ResolvedFleetIntent.get, resolveFleetOverlays, List.find?_map,
    Option.map_map]
  rfl

/-- Resolution is exactly last-tier-wins. The resolved keys increase; a key is unset when
no fragment sets it, and otherwise has the value of its last setting in the last of the
fragments of the highest rank that set it. So only the order within a rank matters, and
what is resolved resolves to itself. -/
theorem overlays_resolved_last_tier_wins (fragments : List FleetOverlayFragment) :
    ((resolveFleetOverlays fragments).settings.Pairwise fun left right => left.key < right.key) ∧
    (∀ k, (resolveFleetOverlays fragments).get k = none ↔
      ∀ fragment ∈ fragments, ∀ setting ∈ fragment.settings, setting.key ≠ k) ∧
    (∀ k v, (resolveFleetOverlays fragments).get k = some v ↔
      ∃ fragment, fleetLayering.Strongest k fragments fragment ∧
        fleetLayering.valueAt k fragment = some v) ∧
    (∀ others : List FleetOverlayFragment,
      (∀ rank, fragments.filter (fun fragment => fragment.tier.rank = rank) =
        others.filter fun fragment => fragment.tier.rank = rank) →
      resolveFleetOverlays fragments = resolveFleetOverlays others) ∧
    ∀ tier, resolveFleetOverlays [⟨tier, (resolveFleetOverlays fragments).settings⟩] =
      resolveFleetOverlays fragments := by
  refine ⟨resolveFleetOverlays_increasing fragments, ?_, ?_, ?_, ?_⟩
  · intro k
    rw [get_resolveFleetOverlays, Layering.getElem?_merge_eq_none_iff]
    exact forall₂_congr fun fragment _ => Layering.sets_eq_false_iff
  · intro k v
    rw [get_resolveFleetOverlays, Layering.getElem?_merge_eq_some_iff]
  · intro others same
    exact resolveFleetOverlays_eq_iff.mpr (Layering.merge_equiv_of_ranks same)
  · intro tier
    refine resolveFleetOverlays_eq_iff.mpr (.of_forall_constGet?_eq fun k => ?_)
    have distinct := (resolveFleetOverlays_increasing fragments).imp fun lower =>
      String.ne_of_lt lower
    change (fleetLayering.merge [_])[k]? = (fleetLayering.merge fragments)[k]?
    rw [Layering.getElem?_merge_single, Layering.valueAt_eq_find? distinct,
      ← get_resolveFleetOverlays]
    rfl

end Runlane
