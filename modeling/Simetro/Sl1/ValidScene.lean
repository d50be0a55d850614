import Simetro.Sl1.Validate

/-! What acceptance by the validator guarantees about a scene. -/

namespace Simetro.Sl1

open Simetro.Library

/-- Strictly increasing identifiers. -/
def Increasing (id : α → String) (elements : List α) : Prop :=
  elements.Pairwise fun left right => id left < id right

theorem Increasing.distinct {id : α → String} {elements : List α} (increasing : Increasing id elements) :
    (elements.map id).Nodup :=
  List.pairwise_map.mpr (increasing.imp ne_of_lt)

/-- A storage slot of a loaded place. -/
structure Sl1StorageSlot.Valid (slot : Sl1StorageSlot) : Prop where
  initial_le : slot.initial ≤ slot.capacity
  capacity_le : slot.capacity ≤ u64Max

structure Sl1Place.Valid (place : Sl1Place) : Prop where
  slots : ∀ (thing : String) (slot : Sl1StorageSlot), place.storage[thing]? = some slot → slot.Valid
  buckets : ∀ (bucket : String) (base : Nat), place.capacity[bucket]? = some base → base ≤ u64Max

/-- An input or output list: distinct things, positive bounded amounts. -/
structure ValidIo (ios : List Sl1TransformIo) : Prop where
  distinct : (ios.map (·.thingId)).Nodup
  positive : ∀ io ∈ ios, 0 < io.amount
  bounded : ∀ io ∈ ios, io.amount ≤ maxTransformAmount

structure Sl1Transform.Valid (places : List Sl1Place) (transform : Sl1Transform) : Prop where
  place : ∃ place ∈ places, place.id = transform.runsOn ∧
    ∀ bucket ∈ transform.capacityCost, bucket ∈ place.capacity
  inputs : ValidIo transform.inputs
  outputs : ValidIo transform.outputs
  cost_bounded : ∀ (bucket : String) (cost : Nat), transform.capacityCost[bucket]? = some cost →
    0 < cost ∧ cost ≤ maxTransformCapacityCost
  cadence_pos : 0 < transform.cadenceTicks
  duration_pos : 0 < transform.durationTicks
  deadline_ge : transform.durationTicks ≤ transform.deadlineTicks
  deadline_le : transform.deadlineTicks ≤ maxTransformTicks
  attempts_pos : 0 < transform.maxAttempts
  attempts_le : transform.maxAttempts ≤ maxTransformMaxAttempts

structure Sl1Demand.Valid (demand : Sl1Demand) : Prop where
  deadline_pos : 0 < demand.deadlineTicks
  penalty_nonpos : demand.penalty.score ≤ 0

structure Sl1VictoryCondition.Valid (condition : Sl1VictoryCondition) : Prop where
  atTick_pos : ∀ atTick, condition.params = .surviveUntil atTick → 0 < atTick

/-- The facts about a loaded scene that its runs rest on. -/
structure Sl1Scene.Valid (scene : Sl1Scene) : Prop where
  placesIncreasing : Increasing (·.id) scene.places
  transformsIncreasing : Increasing (·.id) scene.transforms
  demandIncreasing : Increasing (·.id) scene.demand
  pressureIncreasing : Increasing (·.id) scene.pressure
  objectivesIncreasing : Increasing (·.id) scene.objectives
  failureConditionsIncreasing : Increasing (·.id) scene.failureConditions
  victoryConditionsIncreasing : Increasing (·.id) scene.victoryConditions
  transformCount : scene.transforms.length ≤ maxSl1ItemsPerSection
  places : ∀ place ∈ scene.places, place.Valid
  transforms : ∀ transform ∈ scene.transforms, transform.Valid scene.places
  demand : ∀ demand ∈ scene.demand, demand.Valid
  victoryConditions : ∀ condition ∈ scene.victoryConditions, condition.Valid

@[simp] theorem checkPositive_eq_ok {value max : Nat} {zero tooLarge : Sl1LoadError} {done : Unit} :
    checkPositive value max zero tooLarge = .ok done ↔ 0 < value ∧ value ≤ max := by
  simp [checkPositive, bind_eq_ok, Nat.pos_iff_ne_zero]

private theorem toNat_le_u64Max (value : UInt64) : value.toNat ≤ u64Max :=
  Nat.le_of_lt_succ value.toNat_lt

theorem validatePlace_valid {raw : RawSl1Place} {place : Sl1Place}
    (success : validatePlace raw = .ok place) : place.Valid := by
  simp only [validatePlace, bind_eq_ok] at success
  obtain ⟨_, -, _, -, _, -, _, -, _, -, _, slots, _, -, _, -, _, -, _, -, same⟩ := success
  cases same
  constructor
  · intro thing slot found
    simp only [Std.ExtTreeMap.getElem?_map, Option.map_eq_some_iff] at found
    obtain ⟨rawSlot, declared, rfl⟩ := found
    have passed := checkAll_eq_ok.mp slots _
      (Std.ExtTreeMap.mem_toList_iff_getElem?_eq_some.mpr declared)
    simp only [checkStorageSlot, bind_eq_ok, reject_eq_ok] at passed
    obtain ⟨_, -, _, -, within⟩ := passed
    refine ⟨?_, toNat_le_u64Max _⟩
    simpa [UInt64.le_iff_toNat_le] using within
  · intro bucket base found
    simp only [Std.ExtTreeMap.getElem?_map, Option.map_eq_some_iff] at found
    obtain ⟨value, -, rfl⟩ := found
    exact toNat_le_u64Max _

private theorem validateIo_sound {transform field : String} {thingIds seen : IdSet}
    {raw : List RawSl1TransformIo} {rows : List Sl1TransformIo}
    (success : validateIo transform field thingIds raw seen = .ok rows) :
    ValidIo rows ∧ ∀ row ∈ rows, row.thingId ∉ seen := by
  induction raw generalizing seen rows with
  | nil =>
    cases success
    exact ⟨⟨by simp, by simp, by simp⟩, by simp⟩
  | cons entry rest ih =>
    simp only [validateIo, bind_eq_ok, reject_eq_ok, checkPositive_eq_ok] at success
    obtain ⟨_, -, _, unseen, _, ⟨positive, bounded⟩, others, later, same⟩ := success
    cases same
    obtain ⟨valid, fresh⟩ := ih later
    have new : ∀ row ∈ others, row.thingId ≠ entry.thing := fun row member equal =>
      fresh row member (by simp [equal])
    refine ⟨⟨?_, ?_, ?_⟩, ?_⟩
    · rw [List.map_cons, List.nodup_cons]
      refine ⟨fun present => ?_, valid.distinct⟩
      obtain ⟨row, member, equal⟩ := List.mem_map.mp present
      exact new row member equal
    · simpa [positive] using valid.positive
    · simpa [bounded] using valid.bounded
    · intro row member
      rcases List.mem_cons.mp member with same | member
      · subst row
        exact fun present => by simp [Std.ExtTreeSet.contains_iff_mem.mpr present] at unseen
      · exact fun present => fresh row member (by simp [present])

private theorem validateTransformIo_valid {transform field : String} {thingIds : IdSet}
    {raw : List RawSl1TransformIo} {rows : List Sl1TransformIo}
    (success : validateTransformIo transform field thingIds raw = .ok rows) : ValidIo rows := by
  simp only [validateTransformIo, bind_eq_ok] at success
  obtain ⟨unsorted, read, same⟩ := success
  cases same
  have valid := (validateIo_sound read).1
  have order := sortByKey_perm (·.thingId) unsorted
  exact ⟨(order.map _).nodup_iff.mpr valid.distinct,
    fun row member => valid.positive row (order.mem_iff.mp member),
    fun row member => valid.bounded row (order.mem_iff.mp member)⟩

theorem validateTransform_valid {places : List Sl1Place} {thingIds : IdSet}
    {raw : RawSl1Transform} {transform : Sl1Transform}
    (success : validateTransform (table places (·.id) id) thingIds raw = .ok transform) :
    transform.Valid places := by
  simp only [validateTransform, bind_eq_ok, reject_eq_ok, present_eq_ok, checkPositive_eq_ok,
    decide_eq_false_iff_not] at success
  obtain ⟨_, -, _, -, place, located, inputs, inputsRead, _, -, outputs, outputsRead, _, cadence,
    _, duration, _, deadline, _, ordered, _, costs, policy, -, _, attempts, same⟩ := success
  cases same
  obtain ⟨declared, member, named, rfl⟩ := table_found located
  have costRow : ∀ (bucket : String) (value : UInt64), raw.capacityCost[bucket]? = some value →
      (0 < value.toNat ∧ value.toNat ≤ maxTransformCapacityCost) ∧ bucket ∈ declared.capacity := by
    intro bucket value found
    have passed := checkAll_eq_ok.mp costs _
      (Std.ExtTreeMap.mem_toList_iff_getElem?_eq_some.mpr found)
    simp only [checkCapacityCost, bind_eq_ok, checkPositive_eq_ok, reject_eq_ok] at passed
    obtain ⟨_, -, _, bounds, known⟩ := passed
    exact ⟨bounds, by simpa using known⟩
  refine ⟨⟨declared, member, named, ?_⟩, validateTransformIo_valid inputsRead,
    validateTransformIo_valid outputsRead, ?_, cadence.1, duration.1, Nat.le_of_not_lt ordered,
    deadline.2, attempts.1, attempts.2⟩
  · intro bucket present
    obtain ⟨value, found⟩ := Option.isSome_iff_exists.mp
      (Std.ExtTreeMap.mem_iff_isSome_getElem?.mp (Std.ExtTreeMap.mem_map.mp present))
    exact (costRow bucket value found).2
  · intro bucket cost found
    simp only [Std.ExtTreeMap.getElem?_map, Option.map_eq_some_iff] at found
    obtain ⟨value, declaredCost, rfl⟩ := found
    exact (costRow bucket value declaredCost).1

theorem validateDemand_valid {placeIds thingIds : IdSet} {raw : RawSl1Demand} {demand : Sl1Demand}
    (success : validateDemand placeIds thingIds raw = .ok demand) : demand.Valid := by
  simp only [validateDemand, bind_eq_ok, checkPositive_eq_ok] at success
  obtain ⟨_, -, _, -, _, -, _, -, _, -, _, deadline, _, -, _, -, penalty, checked, same⟩ := success
  cases same
  simp only [validateDemandPenalty, bind_eq_ok, reject_eq_ok] at checked
  obtain ⟨_, nonpos, _, -, _, -, same⟩ := checked
  cases same
  exact ⟨deadline.1, by simpa using nonpos⟩

theorem validateVictoryCondition_valid {raw : RawSl1VictoryCondition}
    {condition : Sl1VictoryCondition}
    (success : validateVictoryCondition raw = .ok condition) : condition.Valid := by
  simp only [validateVictoryCondition, surviveUntilParams, bind_eq_ok, reject_eq_ok] at success
  obtain ⟨_, -, kind, -, params, ⟨atTick, -, _, range, same⟩, done⟩ := success
  cases done
  cases same
  constructor
  intro tick equal
  cases equal
  simp only [Bool.or_eq_false_iff, beq_eq_false_iff_ne] at range
  exact Nat.pos_of_ne_zero range.1

private theorem checkShape_transforms {raw : RawSl1Scene} {done : Unit}
    (success : checkShape raw = .ok done) :
    raw.transforms.length ≤ maxSl1ItemsPerSection := by
  simp only [checkShape, checkSectionCap, bind_eq_ok, reject_eq_ok] at success
  obtain ⟨_, -, _, -, _, -, _, -, _, -, _, within, -⟩ := success
  simpa using within

/-- Everything the validator accepts is valid. -/
theorem validate_valid {raw : RawSl1Scene} {scene : Sl1Scene}
    (success : validate raw = .ok scene) : scene.Valid := by
  simp only [validate, bind_eq_ok] at success
  obtain ⟨_, shape, things, -, places, placesRead, links, -, transforms, transformsRead, demand,
    demandRead, pressure, pressureRead, objectives, objectivesRead, failures, failuresRead,
    victories, victoriesRead, observability, -, agents, -, milestones, -, same⟩ := success
  cases same
  have placeCatalog := catalog_sound placesRead
  have transformCatalog := catalog_sound transformsRead
  have demandCatalog := catalog_sound demandRead
  have victoryCatalog := catalog_sound victoriesRead
  refine ⟨placeCatalog.increasing, transformCatalog.increasing, demandCatalog.increasing,
    (catalog_sound pressureRead).increasing, (catalog_sound objectivesRead).increasing,
    (catalog_sound failuresRead).increasing, victoryCatalog.increasing, ?_, ?_, ?_, ?_, ?_⟩
  · exact transformCatalog.length ▸ checkShape_transforms shape
  · intro place member
    obtain ⟨source, -, read⟩ := placeCatalog.readFrom member
    exact validatePlace_valid read
  · intro transform member
    obtain ⟨source, -, read⟩ := transformCatalog.readFrom member
    exact validateTransform_valid read
  · intro demand member
    obtain ⟨source, -, read⟩ := demandCatalog.readFrom member
    exact validateDemand_valid read
  · intro condition member
    obtain ⟨source, -, read⟩ := victoryCatalog.readFrom member
    exact validateVictoryCondition_valid read

end Simetro.Sl1
