import Mathlib.Algebra.Group.Action.Defs
import Mathlib.Algebra.Order.BigOperators.Group.List
import Simetro.Sl1.Lookups
import Simetro.Sl1.StockChanges
import Simetro.Sl1.TransformSteps

/-! The runtime as a store shared by tasks: slots are place and thing, buckets
place and capacity, tasks the transforms. Every ledger entry of a run is a step
of that store. -/

namespace Simetro.Sl1

open Simetro.Library Simetro.Protocol

/-- What a declared transform books on a slot or bucket. -/
def Sl1Scene.amountAt (scene : Sl1Scene) (rows : Sl1Transform → List (String × Nat)) (id : String)
    (slot : String × String) : Nat :=
  match scene.transformDefs[id]? with
  | some transform => transform.amountAt (rows transform) slot.1 slot.2
  | none => 0

/-- The reservation plan a scene declares. -/
def Sl1Scene.plan (scene : Sl1Scene) : Plan String (String × String) (String × String) where
  tasks := scene.transforms.map (·.id)
  needs := scene.amountAt (·.inputRows)
  yields := scene.amountAt (·.outputRows)
  cost := scene.amountAt (·.costRows)
  room slot := scene.storageCaps.getD slot 0
  base bucket := (scene.placeCaps.getD bucket.1 ∅).getD bucket.2 0
  limit := u64Max

/-- The store a runtime stands for, given which transforms hold claims. -/
def Sl1RuntimeState.store (runtime : Sl1RuntimeState) (running : String → Bool) :
    Store String (String × String) (String × String) where
  stock slot := runtime.stock slot.1 slot.2
  reserved slot := runtime.reserved slot.1 slot.2
  used bucket := runtime.used bucket.1 bucket.2
  running := running

/-- The transforms in the `Running` state. -/
def Sl1RuntimeState.running (runtime : Sl1RuntimeState) (id : String) : Bool :=
  (runtime.transformState id).isRunning

def LedgerOp.storeOp : LedgerOp → StoreOp String (String × String)
  | .inject _ place thing due units => .supply (place, thing) due units
  | .start transform => .start transform
  | .complete transform => .finish transform
  | .abort transform => .abort transform

/-- A ledger entry books a step between the stores of its two runtimes. -/
structure Sl1Scene.Books (scene : Sl1Scene) (before : Store String (String × String) (String × String))
    (entry : LedgerEntry) (after : Store String (String × String) (String × String)) : Prop where
  taken : scene.plan.Step before entry.op.storeOp after
  before : before = entry.before.store before.running
  after : after = entry.after.store after.running

/-- The store of a fresh load. -/
def Sl1Scene.initialStore (scene : Sl1Scene) : Store String (String × String) (String × String) :=
  (Sl1RuntimeState.fromScene scene).store fun _ => false

/-- The frame's ledger leads from the fresh store to the frame's own. -/
def Tracked (scene : Sl1Scene) (running : String → Bool) (frame : Frame) : Prop :=
  Trace scene.Books scene.initialStore frame.ledger (frame.runtime.store running)

section Amounts

variable {scene : Sl1Scene} {transform : Sl1Transform}

theorem ioRows_tally {ios : List Sl1TransformIo} (valid : ValidIo ios) (thing : String) :
    tally (ioRows ios) thing = 0 ∨ ∃ io ∈ ios, io.thingId = thing ∧ io.amount = tally (ioRows ios) thing := by
  have distinct : ((ioRows ios).map Prod.fst).Nodup := by
    simpa [ioRows, Function.comp_def] using valid.distinct
  rcases (tally_mem distinct : tally _ thing = 0 ∨ _) with none | row
  · exact .inl none
  · obtain ⟨io, member, same⟩ := List.mem_map.mp row
    exact .inr ⟨io, member, congrArg Prod.fst same, congrArg Prod.snd same⟩

theorem costRows_tally (bucket : String) :
    tally transform.costRows bucket = transform.capacityCost.getD bucket 0 :=
  tally_toList transform.capacityCost bucket

theorem costRows_mem {bucket : String} (positive : 0 < tally transform.costRows bucket) :
    (bucket, tally transform.costRows bucket) ∈ transform.costRows := by
  rcases (tally_mem (nodup_keys_toList transform.capacityCost) : tally _ bucket = 0 ∨ _) with
    none | row
  · exact absurd none (Nat.ne_of_gt positive)
  · exact row

theorem Sl1Scene.Valid.amountAt_of_mem (valid : scene.Valid) (member : transform ∈ scene.transforms)
    (rows : Sl1Transform → List (String × Nat)) (slot : String × String) :
    scene.amountAt rows transform.id slot = transform.amountAt (rows transform) slot.1 slot.2 := by
  simp only [amountAt, valid.transformDefs_of_mem member]

private theorem output_le (valid : scene.Valid) (id : String) (slot : String × String) :
    scene.amountAt (·.outputRows) id slot ≤ maxTransformAmount := by
  unfold Sl1Scene.amountAt
  split
  · rename_i transform found
    have member := (Sl1Scene.transformDefs_found found).1
    unfold Sl1Transform.amountAt
    split
    · rcases ioRows_tally (valid.transforms transform member).outputs slot.2 with none | ⟨io, row, -, same⟩
      · exact none ▸ Nat.zero_le _
      · exact same ▸ (valid.transforms transform member).outputs.bounded io row
    · exact Nat.zero_le _
  · exact Nat.zero_le _

private theorem cost_le (valid : scene.Valid) (id : String) (bucket : String × String) :
    scene.amountAt (·.costRows) id bucket ≤ maxTransformCapacityCost := by
  unfold Sl1Scene.amountAt
  split
  · rename_i transform found
    have member := (Sl1Scene.transformDefs_found found).1
    unfold Sl1Transform.amountAt
    split
    · rw [costRows_tally, Std.ExtTreeMap.getD_eq_getD_getElem?]
      cases declared : transform.capacityCost[bucket.2]? with
      | none => exact Nat.zero_le _
      | some cost => exact ((valid.transforms transform member).cost_bounded _ _ declared).2
    · exact Nat.zero_le _
  · exact Nat.zero_le _

private theorem sum_within (valid : scene.Valid) {amount : String → Nat}
    (bounded : ∀ id, amount id ≤ 1000000000) :
    ((scene.transforms.map (·.id)).map amount).sum ≤ u64Max := by
  have total := List.sum_le_card_nsmul ((scene.transforms.map (·.id)).map amount) 1000000000 (by
    intro value listed
    obtain ⟨id, -, rfl⟩ := List.mem_map.mp listed
    exact bounded id)
  have count : scene.transforms.length ≤ 100000 := valid.transformCount
  simp only [List.length_map, smul_eq_mul] at total
  have limit : 100000 * 1000000000 ≤ u64Max := by decide
  exact Nat.le_trans total (Nat.le_trans (Nat.mul_le_mul_right _ count) limit)

/-- All the transforms' outputs together stay far below the 64-bit limit. -/
theorem Sl1Scene.Valid.yields_total (valid : scene.Valid) (slot : String × String) :
    (scene.plan.tasks.map (scene.plan.yields · slot)).sum ≤ u64Max :=
  sum_within valid fun id => output_le valid id slot

theorem Sl1Scene.Valid.cost_total (valid : scene.Valid) (bucket : String × String) :
    (scene.plan.tasks.map (scene.plan.cost · bucket)).sum ≤ u64Max :=
  sum_within valid fun id => cost_le valid id bucket

theorem Sl1Scene.Valid.tasks_distinct (valid : scene.Valid) : scene.plan.tasks.Nodup :=
  valid.transformsIncreasing.distinct

theorem Sl1Scene.declared_of_mem (member : transform ∈ scene.transforms) :
    transform.id ∈ scene.plan.tasks := List.mem_map_of_mem member

end Amounts

section Steps

variable {scene : Sl1Scene} (valid : scene.Valid) {transform : Sl1Transform}
  (member : transform ∈ scene.transforms) {runtime : Sl1RuntimeState} {running : String → Bool}
include valid member

/-- The checks of a start admit it to the plan. -/
private theorem admits (idle : running transform.id = false)
    (balanced : scene.plan.Balanced (runtime.store running))
    (startable : Transforms.Startable transform scene.passCaps runtime) :
    scene.plan.Admits (runtime.store running) transform.id := by
  have declared := scene.declared_of_mem member
  have sound := valid.transforms transform member
  refine ⟨declared, idle, ?_, ?_, ?_⟩
  · intro slot
    change scene.amountAt _ _ _ ≤ runtime.stock slot.1 slot.2
    rw [valid.amountAt_of_mem member, Sl1Transform.amountAt]
    split
    · rename_i here
      rcases ioRows_tally sound.inputs slot.2 with none | ⟨io, row, thing, same⟩
      · exact none ▸ Nat.zero_le _
      · have available := startable.inputs io row
        rw [here, thing, same] at available
        exact available
    · exact Nat.zero_le _
  · intro bucket positive
    have within := balanced.used_add_cost_le valid.tasks_distinct declared idle bucket
    have total := valid.cost_total bucket
    change 0 < scene.amountAt _ _ _ at positive
    change runtime.used bucket.1 bucket.2 + scene.amountAt _ _ _ ≤ _ at within ⊢
    rw [valid.amountAt_of_mem member, Sl1Transform.amountAt] at positive within ⊢
    split at positive
    · rename_i here
      rw [if_pos here] at within ⊢
      have claim := startable.capacity _ (costRows_mem positive)
      simp only [here] at claim
      rw [saturatingAdd_of_le (Nat.le_trans within total)] at claim
      exact claim
    · cases positive
  · intro slot positive
    change 0 < scene.amountAt _ _ _ at positive
    change min (runtime.stock slot.1 slot.2 + runtime.reserved slot.1 slot.2 + scene.amountAt _ _ _)
      u64Max ≤ _
    rw [valid.amountAt_of_mem member, Sl1Transform.amountAt] at positive ⊢
    split at positive
    · rename_i here
      rw [if_pos here]
      rcases ioRows_tally sound.outputs slot.2 with none | ⟨io, row, thing, same⟩
      · exact absurd none (Nat.ne_of_gt positive)
      · have fits := startable.room io row
        rw [here, thing, same] at fits
        simp only [saturatingAdd] at fits
        change _ ≤ scene.storageCaps.getD (slot.1, slot.2) 0
        refine Nat.le_trans ?_ fits
        change _ ≤ min (min _ _ + tally transform.outputRows slot.2) _
        omega
    · cases positive

/-- A committed start is a start of the plan. -/
theorem commitStart_step (idle : running transform.id = false)
    (balanced : scene.plan.Balanced (runtime.store running))
    (startable : Transforms.Startable transform scene.passCaps runtime) :
    scene.plan.Step (runtime.store running) (.start transform.id)
      ((Transforms.commitStart transform runtime).store
        (Function.update running transform.id true)) := by
  have declared := scene.declared_of_mem member
  have same : (Transforms.commitStart transform runtime).store
      (Function.update running transform.id true) =
      scene.plan.started (runtime.store running) transform.id := by
    simp only [Sl1RuntimeState.store, Plan.started, Store.mk.injEq, and_true]
    refine ⟨?_, ?_, ?_⟩
    · funext slot
      rw [Transforms.commitStart_stock, ← valid.amountAt_of_mem member (·.inputRows) slot]
      rfl
    · funext slot
      have within := balanced.reserved_add_yields_le valid.tasks_distinct declared idle slot
      have fits := Nat.le_trans within (valid.yields_total slot)
      change runtime.reserved slot.1 slot.2 + scene.amountAt (·.outputRows) transform.id slot ≤ _ at fits
      rw [valid.amountAt_of_mem member] at fits
      rw [Transforms.commitStart_reserved _ _ _ _ fits, ← valid.amountAt_of_mem member (·.outputRows) slot]
      rfl
    · funext bucket
      have within := balanced.used_add_cost_le valid.tasks_distinct declared idle bucket
      have fits := Nat.le_trans within (valid.cost_total bucket)
      change runtime.used bucket.1 bucket.2 + scene.amountAt (·.costRows) transform.id bucket ≤ _ at fits
      rw [valid.amountAt_of_mem member] at fits
      rw [Transforms.commitStart_used _ _ _ _ fits, ← valid.amountAt_of_mem member (·.costRows) bucket]
      rfl
  exact same ▸ .start (admits valid member idle balanced startable)

/-- A release is an abort of the plan. -/
theorem release_step (busy : running transform.id = true) :
    scene.plan.Step (runtime.store running) (.abort transform.id)
      ((Transforms.release transform runtime).store
        (Function.update running transform.id false)) := by
  have same : (Transforms.release transform runtime).store
      (Function.update running transform.id false) =
      scene.plan.released (runtime.store running) transform.id := by
    simp only [Sl1RuntimeState.store, Plan.released, Store.mk.injEq, and_true]
    refine ⟨rfl, ?_, ?_⟩
    · funext slot
      rw [Transforms.release_reserved, ← valid.amountAt_of_mem member (·.outputRows) slot]
      rfl
    · funext bucket
      rw [Transforms.release_used, ← valid.amountAt_of_mem member (·.costRows) bucket]
      rfl
  exact same ▸ .abort (scene.declared_of_mem member) busy

/-- A completion is a finish of the plan. -/
theorem completeRun_step (now : Nat) (busy : running transform.id = true) :
    scene.plan.Step (runtime.store running) (.finish transform.id)
      ((Transforms.completeRun transform now runtime).store
        (Function.update running transform.id false)) := by
  have same : (Transforms.completeRun transform now runtime).store
      (Function.update running transform.id false) =
      { scene.plan.released (runtime.store running) transform.id with
        stock := fun slot => (Transforms.completeRun transform now runtime).stock slot.1 slot.2 } := by
    simp only [Sl1RuntimeState.store, Plan.released, Store.mk.injEq, and_true, true_and]
    refine ⟨?_, ?_⟩
    · funext slot
      rw [Transforms.completeRun_reserved, ← valid.amountAt_of_mem member (·.outputRows) slot]
      rfl
    · funext bucket
      rw [Transforms.completeRun_used, ← valid.amountAt_of_mem member (·.costRows) bucket]
      rfl
  rw [same]
  refine .finish (scene.declared_of_mem member) busy fun slot => ?_
  have lands := Transforms.completeRun_stock transform runtime now slot.1 slot.2
  rw [← valid.amountAt_of_mem member (·.outputRows) slot] at lands
  exact lands

end Steps

/-- An injection is a supply of the plan. -/
theorem land_step (scene : Sl1Scene) (runtime : Sl1RuntimeState) (running : String → Bool)
    (injection : Pressure.SourceInjection) {due units : Nat}
    (clamped : units = min due (scene.storageCaps.getD (injection.place, injection.thing) 0 -
      runtime.stock injection.place injection.thing)) :
    scene.plan.Step (runtime.store running) (.supply (injection.place, injection.thing) due units)
      ((injection.land runtime units).store running) := by
  have same : (injection.land runtime units).store running =
      { runtime.store running with
        stock := Function.update (runtime.store running).stock (injection.place, injection.thing)
          (saturatingAdd u64Max (runtime.stock injection.place injection.thing) units) } := by
    simp only [Sl1RuntimeState.store, Store.mk.injEq, and_true]
    refine ⟨?_, rfl, rfl⟩
    funext slot
    rw [Pressure.SourceInjection.land_stock]
    by_cases here : slot = (injection.place, injection.thing)
    · subst here
      simp
    · rw [Function.update_of_ne here, if_neg fun equal => here equal.symm]
  exact same ▸ .supply clamped (Pressure.SourceInjection.saturatingAdd_lands _ _ _)

end Simetro.Sl1
