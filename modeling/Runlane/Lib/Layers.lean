import Mathlib.Data.List.Induction
import Mathlib.Data.List.Sort

/-!
Layers of settings under a precedence.

Each layer sets some keys and has a rank. A key gets its value from the last of
the layers of the highest rank among those that set it. Sorting the layers by
rank, stably, and writing their settings one after another into a map computes
this.
-/

universe u v w x

structure Layering (β : Type u) (σ : Type v) (κ : Type w) (ν : Type x) where
  rank : β → Nat
  settings : β → List σ
  key : σ → κ
  val : σ → ν

namespace Layering

variable {β : Type u} {σ : Type v} {κ : Type w} {ν : Type x} [DecidableEq κ]
  (L : Layering β σ κ ν)

/-- What a layer sets a key to, which is what its last setting of the key says. -/
def valueAt (k : κ) (layer : β) : Option ν :=
  ((L.settings layer).filter fun setting => L.key setting = k).getLast?.map L.val

def sets (k : κ) (layer : β) : Bool :=
  (L.valueAt k layer).isSome

/-- The layer that a key gets its value from. -/
def Strongest (k : κ) (layers : List β) (layer : β) : Prop :=
  ∃ before after, layers = before ++ layer :: after ∧ L.sets k layer = true ∧
    (∀ later ∈ after, L.sets k later = true → L.rank later < L.rank layer) ∧
    ∀ earlier ∈ before, L.sets k earlier = true → L.rank earlier ≤ L.rank layer

/-- The order in which the layers are applied. -/
def byRank (layers : List β) : List β :=
  layers.insertionSort fun left right => L.rank left ≤ L.rank right

variable {L} {k : κ} {layers : List β} {layer : β}

theorem sets_eq_false_iff :
    L.sets k layer = false ↔ ∀ setting ∈ L.settings layer, L.key setting ≠ k := by
  simp only [sets, valueAt, Option.isSome_eq_false_iff, Option.isNone_iff_eq_none,
    Option.map_eq_none_iff, List.getLast?_eq_none_iff, List.filter_eq_nil_iff, decide_eq_true_eq,
    ne_eq]

/-- Where no key is set twice, the last setting of a key is the first. -/
theorem valueAt_eq_find?
    (distinct : (L.settings layer).Pairwise fun a b => L.key a ≠ L.key b) :
    L.valueAt k layer = ((L.settings layer).find? fun setting => L.key setting = k).map L.val := by
  have all : ∀ setting ∈ (L.settings layer).filter fun setting => L.key setting = k,
      L.key setting = k := by
    intro setting member
    exact of_decide_eq_true (List.mem_filter.mp member).2
  have apart := distinct.filter fun setting => L.key setting = k
  rw [valueAt, ← List.head?_filter]
  generalize (L.settings layer).filter (fun setting => L.key setting = k) = found at all apart ⊢
  cases found with
  | nil => rfl
  | cons first rest =>
      cases rest with
      | nil => rfl
      | cons second rest =>
          have same := (all first (by simp)).trans (all second (by simp)).symm
          exact absurd same ((List.pairwise_cons.mp apart).1 second List.mem_cons_self)

theorem Strongest.mem (h : L.Strongest k layers layer) : layer ∈ layers := by
  obtain ⟨before, after, rfl, -⟩ := h
  exact List.mem_append_right _ List.mem_cons_self

theorem Strongest.sets (h : L.Strongest k layers layer) : L.sets k layer = true := by
  obtain ⟨-, -, -, set, -⟩ := h
  exact set

theorem Strongest.cons {lower : β} (h : L.Strongest k layers layer)
    (weak : L.sets k lower = true → L.rank lower ≤ L.rank layer) :
    L.Strongest k (lower :: layers) layer := by
  obtain ⟨before, after, rfl, set, later, earlier⟩ := h
  exact ⟨lower :: before, after, rfl, set, later, List.forall_mem_cons.mpr ⟨weak, earlier⟩⟩

theorem Strongest.unique {other : β} (h : L.Strongest k layers layer)
    (h' : L.Strongest k layers other) : layer = other := by
  obtain ⟨before, after, rfl, set, later, earlier⟩ := h
  obtain ⟨before', after', same, set', later', earlier'⟩ := h'
  obtain ⟨between, rfl, rest⟩ | ⟨between, rfl, rest⟩ := List.append_eq_append_iff.mp same
  · cases between with
    | nil => exact (List.cons.inj rest).1
    | cons first between =>
        obtain ⟨rfl, rfl⟩ := List.cons.inj rest
        have above := earlier' layer (by simp) set
        have below := later other (by simp) set'
        exact absurd below (Nat.not_lt.mpr above)
  · cases between with
    | nil => exact (List.cons.inj rest).1.symm
    | cons first between =>
        obtain ⟨rfl, rfl⟩ := List.cons.inj rest
        have above := earlier other (by simp) set'
        have below := later' layer (by simp) set
        exact absurd below (Nat.not_lt.mpr above)

/-- Dropping other layers does not weaken a layer. -/
theorem Strongest.filter {keep : β → Bool} (h : L.Strongest k layers layer)
    (kept : keep layer = true) : L.Strongest k (layers.filter keep) layer := by
  obtain ⟨before, after, rfl, set, later, earlier⟩ := h
  refine ⟨before.filter keep, after.filter keep, ?_, set, ?_, ?_⟩
  · rw [List.filter_append, List.filter_cons_of_pos kept]
  · exact fun other hother => later other (List.mem_of_mem_filter hother)
  · exact fun other hother => earlier other (List.mem_of_mem_filter hother)

theorem Strongest.highest (h : L.Strongest k layers layer) :
    ∀ other ∈ layers, L.sets k other = true → L.rank other ≤ L.rank layer := by
  obtain ⟨before, after, rfl, set, later, earlier⟩ := h
  intro other member set'
  obtain before' | rfl | after' : other ∈ before ∨ other = layer ∨ other ∈ after := by
    simpa using member
  · exact earlier other before' set'
  · exact le_rfl
  · exact (later other after' set').le

theorem Strongest.last_of_rank (h : L.Strongest k layers layer) :
    (layers.filter fun other => L.sets k other && decide (L.rank other = L.rank layer)).getLast? =
      some layer := by
  obtain ⟨before, after, rfl, set, later, earlier⟩ := h
  have none : (after.filter fun other =>
      L.sets k other && decide (L.rank other = L.rank layer)) = [] := by
    refine List.filter_eq_nil_iff.mpr ?_
    intro other member both
    obtain ⟨set', same⟩ := Bool.and_eq_true_iff.mp both
    exact absurd (of_decide_eq_true same) (later other member set').ne
  rw [List.filter_append, List.filter_cons_of_pos (by simp [set]), none, List.getLast?_concat]

/-- The strongest layer is the last of its rank to set the key, and none above sets it. -/
theorem strongest_iff_of_rank : L.Strongest k layers layer ↔
    ((layers.filter fun other => L.rank other = L.rank layer).filter (L.sets k)).getLast? =
        some layer ∧
      ∀ other ∈ layers, L.sets k other = true → L.rank other ≤ L.rank layer := by
  rw [List.filter_filter]
  constructor
  · intro strongest
    exact ⟨strongest.last_of_rank, strongest.highest⟩
  · intro last
    obtain ⟨last, highest⟩ := last
    obtain ⟨front, split⟩ := List.getLast?_eq_some_iff.mp last
    obtain ⟨before, rest, rfl, -, tail⟩ := List.filter_eq_append_iff.mp split
    obtain ⟨between, after, rfl, -, here, none⟩ := List.filter_eq_cons_iff.mp tail
    obtain ⟨set, -⟩ := Bool.and_eq_true_iff.mp here
    refine ⟨before ++ between, after, by simp, set, ?_, ?_⟩
    · intro later member set'
      refine lt_of_le_of_ne (highest later (by simp [member]) set') ?_
      intro same
      exact List.filter_eq_nil_iff.mp none later member (by simp [set', same])
    · intro earlier member set'
      refine highest earlier ?_ set'
      rw [← List.append_assoc]
      exact List.mem_append_left _ member

/-- Which layer is the strongest is settled within each rank. -/
theorem Strongest.of_ranks {others : List β} (h : L.Strongest k layers layer)
    (same : ∀ rank, layers.filter (fun layer => L.rank layer = rank) =
      others.filter fun layer => L.rank layer = rank) : L.Strongest k others layer := by
  rw [strongest_iff_of_rank] at h ⊢
  obtain ⟨last, highest⟩ := h
  rw [same] at last
  refine ⟨last, ?_⟩
  intro other member set
  have ranked : other ∈ layers.filter fun layer => L.rank layer = L.rank other := by
    rw [same]
    exact List.mem_filter.mpr ⟨member, decide_eq_true rfl⟩
  exact highest other (List.mem_of_mem_filter ranked) set

omit [DecidableEq κ] in
theorem mem_byRank : layer ∈ L.byRank layers ↔ layer ∈ layers :=
  List.mem_insertionSort _

omit [DecidableEq κ] in
theorem byRank_cons (layer : β) (layers : List β) :
    ∃ lower upper, L.byRank (layer :: layers) = lower ++ layer :: upper ∧
      L.byRank layers = lower ++ upper ∧ (∀ below ∈ lower, L.rank below < L.rank layer) ∧
      ∀ above ∈ upper, L.rank layer ≤ L.rank above := by
  have whole := List.insertionSort_cons_eq_take_drop
    (fun left right => L.rank left ≤ L.rank right) layer layers
  have sorted := List.pairwise_insertionSort
    (fun left right => L.rank left ≤ L.rank right) (layer :: layers)
  refine ⟨_, _, whole, List.takeWhile_append_dropWhile.symm, ?_, ?_⟩
  · intro below hbelow
    have before := List.all_eq_true.mp List.all_takeWhile below hbelow
    simpa using before
  · rw [whole, List.pairwise_append] at sorted
    exact (List.pairwise_cons.mp sorted.2.1).1

/-- The last layer to set a key in the order of application is the strongest. -/
theorem strongest_of_getLast? (last : ((L.byRank layers).filter (L.sets k)).getLast? = some layer) :
    L.Strongest k layers layer := by
  induction layers generalizing layer with
  | nil => simp [byRank] at last
  | cons first layers ih =>
      obtain ⟨lower, upper, whole, rest, below, above⟩ := L.byRank_cons first layers
      rw [rest, List.filter_append, List.getLast?_append] at ih
      rw [whole, List.filter_append, List.filter_cons, List.getLast?_append] at last
      cases high : (upper.filter (L.sets k)).getLast? with
      | some top =>
          have found : top = layer := by
            by_cases set : L.sets k first = true
            · simpa [set, List.getLast?_cons, high] using last
            · simpa [set, high] using last
          subst found
          refine (ih (by rw [high, Option.some_or])).cons fun _ => above top ?_
          exact List.mem_of_mem_filter (List.mem_of_getLast? high)
      | none =>
          have empty := List.getLast?_eq_none_iff.mp high
          by_cases set : L.sets k first = true
          · have found : first = layer := by
              simpa [set, empty] using last
            subst found
            refine ⟨[], layers, rfl, set, ?_, nofun⟩
            intro later hlater laterSets
            have placed : later ∈ lower ++ upper := rest ▸ mem_byRank.mpr hlater
            cases List.mem_append.mp placed with
            | inl low => exact below later low
            | inr high => exact absurd (List.mem_filter.mpr ⟨high, laterSets⟩) (by simp [empty])
          · refine (ih ?_).cons fun set' => absurd set' set
            simpa [set, empty] using last

theorem exists_getLast? (member : layer ∈ layers) (set : L.sets k layer = true) :
    ∃ top, ((L.byRank layers).filter (L.sets k)).getLast? = some top := by
  have placed : layer ∈ (L.byRank layers).filter (L.sets k) :=
    List.mem_filter.mpr ⟨mem_byRank.mpr member, set⟩
  exact ⟨_, List.getLast?_eq_some_getLast (List.ne_nil_of_mem placed)⟩

theorem strongest_iff_getLast? :
    L.Strongest k layers layer ↔ ((L.byRank layers).filter (L.sets k)).getLast? = some layer := by
  refine ⟨?_, strongest_of_getLast?⟩
  intro h
  obtain ⟨top, last⟩ := exists_getLast? h.mem h.sets
  rw [last, h.unique (strongest_of_getLast? last)]

section Map

variable [Ord κ] [Std.TransOrd κ] [Std.LawfulEqOrd κ]

/-- Writes the settings of one layer over what is there. -/
def write (map : Std.TreeMap κ ν) (layer : β) : Std.TreeMap κ ν :=
  (L.settings layer).foldl (fun map setting => map.insert (L.key setting) (L.val setting)) map

theorem getElem?_write (map : Std.TreeMap κ ν) (layer : β) :
    (L.write map layer)[k]? = (L.valueAt k layer).or map[k]? := by
  unfold write valueAt
  induction L.settings layer using List.reverseRecOn with
  | nil => simp
  | append_singleton settings setting ih =>
      rw [List.foldl_concat, Std.TreeMap.getElem?_insert, ih, List.filter_append]
      by_cases same : L.key setting = k
      · simp [same]
      · simp [same]

theorem getElem?_foldl_write (map : Std.TreeMap κ ν) (layers : List β) :
    (layers.foldl L.write map)[k]? =
      ((layers.filter (L.sets k)).getLast?.bind (L.valueAt k)).or map[k]? := by
  induction layers using List.reverseRecOn with
  | nil => simp
  | append_singleton layers layer ih =>
      rw [List.foldl_concat, getElem?_write, ih, List.filter_append]
      cases value : L.valueAt k layer with
      | none => simp [sets, value]
      | some v => simp [sets, value]

variable (L) in
/-- The settings in force when the layers are applied in their order. -/
def merge (layers : List β) : Std.TreeMap κ ν :=
  (L.byRank layers).foldl L.write ∅

theorem getElem?_merge_eq_some_iff {v : ν} :
    (L.merge layers)[k]? = some v ↔
      ∃ layer, L.Strongest k layers layer ∧ L.valueAt k layer = some v := by
  simp only [merge, getElem?_foldl_write, strongest_iff_getLast?, Std.TreeMap.getElem?_emptyc,
    Option.or_none, Option.bind_eq_some_iff]

theorem Strongest.getElem?_merge (h : L.Strongest k layers layer) :
    (L.merge layers)[k]? = L.valueAt k layer := by
  simp only [merge, getElem?_foldl_write, strongest_iff_getLast?.mp h, Std.TreeMap.getElem?_emptyc,
    Option.or_none, Option.bind_some]

theorem getElem?_merge_eq_none_iff :
    (L.merge layers)[k]? = none ↔ ∀ layer ∈ layers, L.sets k layer = false := by
  constructor
  · intro unset layer member
    cases set : L.sets k layer with
    | false => rfl
    | true =>
        obtain ⟨top, last⟩ := exists_getLast? member set
        have strongest := strongest_of_getLast? last
        have value := strongest.sets
        rw [sets, ← strongest.getElem?_merge, unset] at value
        cases value
  · intro unset
    cases found : (L.merge layers)[k]? with
    | none => rfl
    | some v =>
        obtain ⟨layer, strongest, -⟩ := getElem?_merge_eq_some_iff.mp found
        exact absurd strongest.sets (by simp [unset layer strongest.mem])

/-- Only the order of the layers of one rank matters. -/
theorem merge_equiv_of_ranks {others : List β}
    (same : ∀ rank, layers.filter (fun layer => L.rank layer = rank) =
      others.filter fun layer => L.rank layer = rank) :
    (L.merge layers).Equiv (L.merge others) := by
  refine .of_forall_constGet?_eq ?_
  intro k
  refine Option.ext fun v => ?_
  rw [getElem?_merge_eq_some_iff, getElem?_merge_eq_some_iff]
  constructor
  · intro decided
    obtain ⟨layer, strongest, value⟩ := decided
    exact ⟨layer, strongest.of_ranks same, value⟩
  · intro decided
    obtain ⟨layer, strongest, value⟩ := decided
    exact ⟨layer, strongest.of_ranks fun rank => (same rank).symm, value⟩

theorem getElem?_merge_single (layer : β) : (L.merge [layer])[k]? = L.valueAt k layer := by
  have single : L.byRank [layer] = [layer] := rfl
  rw [merge, single, List.foldl_cons, List.foldl_nil, getElem?_write, Std.TreeMap.getElem?_emptyc,
    Option.or_none]

/-- Dropping layers changes nothing exactly when each key that a dropped layer
decides is set alike by the strongest layer that is kept. -/
theorem merge_filter_equiv_iff (keep : β → Bool) :
    (L.merge (layers.filter keep)).Equiv (L.merge layers) ↔
      ∀ k layer, L.Strongest k layers layer → keep layer = false →
        ∃ kept, L.Strongest k (layers.filter keep) kept ∧ L.valueAt k kept = L.valueAt k layer := by
  constructor
  · intro same k layer strongest dropped
    obtain ⟨v, value⟩ := Option.isSome_iff_exists.mp strongest.sets
    have inForce : (L.merge (layers.filter keep))[k]? = some v := by
      rw [same.getElem?_eq, strongest.getElem?_merge, value]
    obtain ⟨kept, strongestKept, valueKept⟩ := getElem?_merge_eq_some_iff.mp inForce
    exact ⟨kept, strongestKept, valueKept.trans value.symm⟩
  · intro replaced
    refine .of_forall_constGet?_eq ?_
    intro k
    cases found : (L.merge layers)[k]? with
    | none =>
        have unset := getElem?_merge_eq_none_iff.mp found
        exact getElem?_merge_eq_none_iff.mpr fun layer hlayer =>
          unset layer (List.mem_of_mem_filter hlayer)
    | some v =>
        obtain ⟨layer, strongest, value⟩ := getElem?_merge_eq_some_iff.mp found
        cases kept : keep layer with
        | true => rw [(strongest.filter kept).getElem?_merge, value]
        | false =>
            obtain ⟨other, strongestOther, alike⟩ := replaced k layer strongest kept
            rw [strongestOther.getElem?_merge, alike, value]

end Map

end Layering
