import Simetro.Sl1.Transforms
import Simetro.Sl1.ValidScene

/-! What the lookup maps of a valid scene hold, and what a fresh load stocks. -/

namespace Simetro.Sl1

open Simetro.Library

/-- Capacity a place declares for a thing; none where it declares no slot. -/
def Sl1Place.storageCapacity (place : Sl1Place) (thing : String) : Nat :=
  (place.storage[thing]?.map (·.capacity)).getD 0

def Sl1Place.storageInitial (place : Sl1Place) (thing : String) : Nat :=
  (place.storage[thing]?.map (·.initial)).getD 0

def Sl1Place.baseCapacity (place : Sl1Place) (bucket : String) : Nat :=
  place.capacity.getD bucket 0

theorem Sl1Place.Valid.initial_le {place : Sl1Place} (valid : place.Valid) (thing : String) :
    place.storageInitial thing ≤ place.storageCapacity thing := by
  unfold storageInitial storageCapacity
  cases found : place.storage[thing]? with
  | none => simp
  | some slot => simpa using (valid.slots thing slot found).initial_le

theorem Sl1Place.Valid.capacity_le {place : Sl1Place} (valid : place.Valid) (thing : String) :
    place.storageCapacity thing ≤ u64Max := by
  unfold storageCapacity
  cases found : place.storage[thing]? with
  | none => simp
  | some slot => simpa using (valid.slots thing slot found).capacity_le

namespace Sl1Scene

/-- The declared slots under their keys, in declaration order. -/
def slotRows (scene : Sl1Scene) : List ((String × String) × Sl1StorageSlot) :=
  scene.places.flatMap fun place => place.storage.toList.map fun row => ((place.id, row.1), row.2)

theorem storageCaps_eq (scene : Sl1Scene) :
    scene.storageCaps = table scene.slotRows (·.1) (·.2.capacity) := by
  simp only [storageCaps, table, slotRows, List.foldl_flatMap, List.foldl_map]

theorem mem_slotRows {scene : Sl1Scene} {place thing : String} {slot : Sl1StorageSlot} :
    ((place, thing), slot) ∈ scene.slotRows ↔ ∃ declared ∈ scene.places,
      declared.id = place ∧ declared.storage[thing]? = some slot := by
  simp only [slotRows, List.mem_flatMap, List.mem_map, Prod.mk.injEq, Prod.exists,
    Std.ExtTreeMap.mem_toList_iff_getElem?_eq_some]
  constructor
  · rintro ⟨declared, member, _, _, found, ⟨same, rfl⟩, rfl⟩
    exact ⟨declared, member, same, found⟩
  · rintro ⟨declared, member, same, found⟩
    exact ⟨declared, member, thing, slot, found, ⟨same, rfl⟩, rfl⟩

end Sl1Scene

namespace Sl1Scene.Valid

variable {scene : Sl1Scene} (valid : scene.Valid)
include valid

theorem transformDefs_of_mem {transform : Sl1Transform} (member : transform ∈ scene.transforms) :
    scene.transformDefs[transform.id]? = some transform :=
  table_of_mem valid.transformsIncreasing.distinct member

theorem place_eq {place other : Sl1Place} (member : place ∈ scene.places)
    (otherMember : other ∈ scene.places) (same : place.id = other.id) : place = other :=
  List.inj_on_of_nodup_map valid.placesIncreasing.distinct member otherMember same

/-- A map over the declared slots holds at a place's slot what that slot gives. -/
theorem slotTable_of_mem {Value : Type} {place : Sl1Place} (member : place ∈ scene.places)
    (thing : String) (value : Sl1StorageSlot → Value) :
    (table scene.slotRows (·.1) (fun row => value row.2) : PairMap Value)[(place.id, thing)]? =
      place.storage[thing]?.map value := by
  cases listed : (table scene.slotRows (·.1) (fun row => value row.2) :
      PairMap Value)[(place.id, thing)]? with
  | some result =>
    obtain ⟨⟨key, slot⟩, row, rfl, rfl⟩ := table_found listed
    obtain ⟨declared, declaredMember, same, found⟩ := mem_slotRows.mp row
    rw [valid.place_eq declaredMember member same] at found
    rw [found]
    rfl
  | none =>
    cases found : place.storage[thing]? with
    | none => rfl
    | some slot =>
      have row := mem_slotRows.mpr ⟨place, member, rfl, found⟩
      have present : (place.id, thing) ∈
          (table scene.slotRows (·.1) (fun row => value row.2) : PairMap Value) :=
        mem_table.mpr ⟨_, row, rfl⟩
      rw [Std.ExtTreeMap.mem_iff_isSome_getElem?, listed] at present
      cases present

theorem storageCaps_of_mem {place : Sl1Place} (member : place ∈ scene.places) (thing : String) :
    scene.storageCaps.getD (place.id, thing) 0 = place.storageCapacity thing := by
  rw [Std.ExtTreeMap.getD_eq_getD_getElem?, storageCaps_eq,
    valid.slotTable_of_mem member thing (·.capacity), Sl1Place.storageCapacity]

theorem placeCaps_of_mem {place : Sl1Place} (member : place ∈ scene.places) (bucket : String) :
    (scene.placeCaps.getD place.id ∅).getD bucket 0 = place.baseCapacity bucket := by
  have found : scene.placeCaps[place.id]? = some place.capacity :=
    table_of_mem valid.placesIncreasing.distinct member
  simp [Std.ExtTreeMap.getD_eq_getD_getElem? (t := scene.placeCaps), found, Sl1Place.baseCapacity]

end Sl1Scene.Valid

namespace Sl1Scene

variable {scene : Sl1Scene}

theorem transformDefs_found {id : String} {transform : Sl1Transform}
    (found : scene.transformDefs[id]? = some transform) :
    transform ∈ scene.transforms ∧ transform.id = id := by
  obtain ⟨element, member, same, rfl⟩ := table_found found
  exact ⟨member, same⟩

theorem storageCaps_undeclared {place : String} (absent : ∀ declared ∈ scene.places, declared.id ≠ place)
    (thing : String) : scene.storageCaps.getD (place, thing) 0 = 0 := by
  rw [Std.ExtTreeMap.getD_eq_getD_getElem?, storageCaps_eq]
  cases listed : (table scene.slotRows (·.1) (·.2.capacity) : PairMap Nat)[(place, thing)]? with
  | none => rfl
  | some capacity =>
    obtain ⟨⟨key, slot⟩, row, rfl, rfl⟩ := table_found listed
    obtain ⟨declared, member, same, -⟩ := mem_slotRows.mp row
    exact absurd same (absent declared member)

end Sl1Scene

namespace Sl1RuntimeState

variable {scene : Sl1Scene}

theorem fromScene_stock (valid : scene.Valid) {place : Sl1Place} (member : place ∈ scene.places)
    (thing : String) : (fromScene scene).stock place.id thing = place.storageInitial thing := by
  rw [stock, Std.ExtTreeMap.getD_eq_getD_getElem? (t := (fromScene scene).inventories)]
  cases listed : (fromScene scene).inventories[place.id]? with
  | some slots =>
    obtain ⟨declared, stocked, same, rfl⟩ := table_found listed
    rw [valid.place_eq (List.mem_of_mem_filter stocked) member same]
    simp [placeSlots, Sl1Place.storageInitial, Std.ExtTreeMap.getD_eq_getD_getElem?]
  | none =>
    have unstocked : place.storage.isEmpty = true := by
      by_contra stocked
      have row : place ∈ scene.places.filter fun place => !place.storage.isEmpty :=
        List.mem_filter.mpr ⟨member, by rw [Bool.eq_false_of_not_eq_true stocked]; rfl⟩
      have present : place.id ∈ (fromScene scene).inventories := mem_table.mpr ⟨place, row, rfl⟩
      rw [Std.ExtTreeMap.mem_iff_isSome_getElem?, listed] at present
      cases present
    have empty : place.storage = ∅ := Std.ExtTreeMap.isEmpty_iff.mp unstocked
    simp [Sl1Place.storageInitial, empty]

theorem fromScene_stock_undeclared {place : String}
    (absent : ∀ declared ∈ scene.places, declared.id ≠ place) (thing : String) :
    (fromScene scene).stock place thing = 0 := by
  rw [stock, Std.ExtTreeMap.getD_eq_getD_getElem? (t := (fromScene scene).inventories)]
  cases listed : (fromScene scene).inventories[place]? with
  | none => simp
  | some slots =>
    obtain ⟨declared, stocked, same, -⟩ := table_found listed
    exact absurd same (absent declared (List.mem_of_mem_filter stocked))

/-- A load marks the stocked slots with tick 0. -/
theorem fromScene_freshness (valid : scene.Valid) {place : Sl1Place} (member : place ∈ scene.places)
    (thing : String) : (fromScene scene).freshness[(place.id, thing)]? =
      place.storage[thing]?.map fun slot =>
        if slot.initial > 0 then FreshnessState.ok 0 else .noData := by
  have rows : (fromScene scene).freshness = table scene.slotRows (·.1)
      fun row => if row.2.initial > 0 then FreshnessState.ok 0 else .noData := by
    simp only [fromScene, freshnessAtLoad, table, Sl1Scene.slotRows, List.foldl_flatMap,
      List.foldl_map]
  rw [rows]
  exact valid.slotTable_of_mem member thing fun slot =>
    if slot.initial > 0 then FreshnessState.ok 0 else .noData

theorem fromScene_used (place bucket : String) : (fromScene scene).used place bucket = 0 := by
  rw [used, Std.ExtTreeMap.getD_eq_getD_getElem? (t := (fromScene scene).placeCapacityUsed)]
  cases listed : (fromScene scene).placeCapacityUsed[place]? with
  | none => simp
  | some buckets =>
    obtain ⟨declared, -, -, rfl⟩ := table_found listed
    rw [Option.getD_some, Std.ExtTreeMap.getD_eq_getD_getElem?, Std.ExtTreeMap.getElem?_map]
    cases declared.capacity[bucket]? <;> rfl

theorem fromScene_reserved (place thing : String) : (fromScene scene).reserved place thing = 0 := by
  simp [reserved, fromScene]

theorem fromScene_transformState (id : String) : (fromScene scene).transformState id = .idle := by
  rw [transformState, Std.ExtTreeMap.getD_eq_getD_getElem?]
  cases listed : (fromScene scene).transforms[id]? with
  | none => rfl
  | some state =>
    obtain ⟨_, -, -, rfl⟩ := table_found listed
    rfl

end Sl1RuntimeState

end Simetro.Sl1
