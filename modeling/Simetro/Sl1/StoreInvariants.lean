import Simetro.Sl1.StoreRuns

/-! What every run of an accepted scene keeps: capacity claims are those of the
running transforms, stored and reserved units fit, and stock is conserved. -/

namespace Simetro.Sl1

open Simetro.Library Simetro.Protocol

/-- Stored and reserved units together fit every slot. -/
def Sl1RuntimeState.FitsStorage (scene : Sl1Scene) (runtime : Sl1RuntimeState) : Prop :=
  ∀ place ∈ scene.places, ∀ thing : String,
    runtime.stock place.id thing + runtime.reserved place.id thing ≤ place.storageCapacity thing

/-- Transforms on `place` that are in the `Running` state. -/
def Sl1RuntimeState.runningOn (scene : Sl1Scene) (runtime : Sl1RuntimeState) (place : String) :
    List Sl1Transform :=
  scene.transforms.filter fun transform => transform.runsOn = place ∧ runtime.running transform.id

/-- Every output slot holds what a start leaves there and reserves, without overflow. -/
def Sl1Transform.OutputsFit (transform : Sl1Transform) (runtime : Sl1RuntimeState) : Prop :=
  ∀ output ∈ transform.outputs,
    runtime.stock transform.runsOn output.thingId - tally transform.inputRows output.thingId +
      runtime.reserved transform.runsOn output.thingId + output.amount ≤ u64Max

instance (transform : Sl1Transform) (runtime : Sl1RuntimeState) :
    Decidable (transform.OutputsFit runtime) := by
  unfold Sl1Transform.OutputsFit
  infer_instance

namespace LedgerEntry

variable (scene : Sl1Scene) (entry : LedgerEntry)

/-- The entry leaves reserved room alone: an injection finds no reservation, or
what it is due fits beside the stock and the reservation; a start's outputs do
not overflow beside what stays in stock. -/
def LeavesRoom : Prop :=
  match entry.op with
  | .inject _ place thing due _ => entry.before.reserved place thing = 0 ∨
      entry.before.stock place thing + entry.before.reserved place thing + due ≤
        scene.storageCaps.getD (place, thing) 0
  | .start id => ∀ transform ∈ scene.transformDefs[id]?, transform.OutputsFit entry.before
  | .complete _ | .abort _ => True

instance : Decidable (entry.LeavesRoom scene) := by
  unfold LeavesRoom
  split <;> infer_instance

/-- Units the entry injects into a slot, consumes from it, or produces into it. -/
def injected (place thing : String) : Nat :=
  match entry.op with
  | .inject _ target kind _ units => if (place, thing) = (target, kind) then units else 0
  | _ => 0

def consumed (place thing : String) : Nat :=
  match entry.op with
  | .start id => scene.amountAt (·.inputRows) id (place, thing)
  | _ => 0

def produced (place thing : String) : Nat :=
  match entry.op with
  | .complete id => scene.amountAt (·.outputRows) id (place, thing)
  | _ => 0

/-- No subtraction of the entry is clamped: a start consumes what is in stock, and
a release gives back what is claimed and reserved. -/
def Unclamped : Prop :=
  match entry.op with
  | .start id => ∀ place thing : String,
      scene.amountAt (·.inputRows) id (place, thing) ≤ entry.before.stock place thing
  | .complete id | .abort id => ∀ place key : String,
      scene.amountAt (·.costRows) id (place, key) ≤ entry.before.used place key ∧
        scene.amountAt (·.outputRows) id (place, key) ≤ entry.before.reserved place key
  | .inject _ _ _ _ _ => True

end LedgerEntry

section Capacity

variable {scene : Sl1Scene} (valid : scene.Valid)
include valid

/-- The plan's load of a slot or bucket is what the running transforms book there. -/
theorem load_rows (rows : Sl1Transform → List (String × Nat)) (runtime : Sl1RuntimeState)
    (place key : String) :
    scene.plan.load (scene.amountAt rows · (place, key)) runtime.running =
      ((runtime.runningOn scene place).map fun transform => tally (rows transform) key).sum := by
  have booked : (scene.plan.tasks.map fun id =>
      if runtime.running id then scene.amountAt rows id (place, key) else 0) =
      scene.transforms.map fun transform =>
        if transform.runsOn = place ∧ runtime.running transform.id = true then
          tally (rows transform) key else 0 := by
    change (scene.transforms.map (·.id)).map _ = _
    rw [List.map_map]
    apply List.map_congr_left
    intro transform member
    have amount : scene.amountAt rows transform.id (place, key) =
        if transform.runsOn = place then tally (rows transform) key else 0 :=
      valid.amountAt_of_mem member rows (place, key)
    simp only [Function.comp_apply, amount]
    split <;> split <;> simp_all
  rw [Plan.load, booked, List.sum_map_ite]
  simp [Sl1RuntimeState.runningOn]

private theorem load_cost (runtime : Sl1RuntimeState) (place bucket : String) :
    scene.plan.load (scene.plan.cost · (place, bucket)) runtime.running =
      ((runtime.runningOn scene place).map fun transform =>
        transform.capacityCost.getD bucket 0).sum := by
  simp only [← costRows_tally]
  exact load_rows valid (·.costRows) runtime place bucket

omit valid in
private theorem initialStore_withinBase (scene : Sl1Scene) : scene.plan.WithinBase scene.initialStore := by
  intro bucket
  have unused : scene.initialStore.used bucket = 0 :=
    Sl1RuntimeState.fromScene_used bucket.1 bucket.2
  exact Nat.le_trans (Nat.le_of_eq unused) (Nat.zero_le _)

end Capacity

/-- A mine whose slot is fed by a transform and by a source pressure. -/
def surgeScene (capacity : UInt64) : RawSl1Scene where
  places := [{
    id := "mine", role := "source", pos := (0, 0)
    capacity := (∅ : IdMap UInt64).insert "crew" 2
    storage := (∅ : IdMap RawSl1StorageSlot).insert "ore" { capacity } }]
  things := [{ id := "ore", kind := "material" }]
  transforms := [{
    id := "dig", kind := "extract", runsOn := "mine"
    outputs := [⟨"ore", 10⟩]
    cadenceTicks := 1, durationTicks := 5, deadlineTicks := 5
    capacityCost := (∅ : IdMap UInt64).insert "crew" 1
    failurePolicy := "drop" }]
  pressure := [{
    id := "surge", kind := "source_multiplier", atTick := 2, durationTicks := 2, target := "mine"
    thing := some "ore", multiplier := some 3.0 }]

/-- The surge keeps one of the mine's crew at work on tick 2; over six ticks it leaves reserved
room alone and the mine's ore below the limit. -/
theorem surge_roomy : ∃ scene, validate (surgeScene 20) = .ok scene ∧
    (∃ place ∈ scene.places, (ticks scene defaultBackend 2).runtime.used place.id "crew" = 1) ∧
    (∀ entry ∈ (ticks scene defaultBackend 6).ledger, entry.LeavesRoom scene) ∧
    ∃ place ∈ scene.places, place.id = "mine" ∧
      ∀ entry ∈ (ticks scene defaultBackend 6).ledger, entry.after.stock place.id "ore" < u64Max := by
  have evaluated : yields (validate (surgeScene 20)) (fun scene => decide (
      (∃ place ∈ scene.places, (ticks scene defaultBackend 2).runtime.used place.id "crew" = 1) ∧
      (∀ entry ∈ (ticks scene defaultBackend 6).ledger, entry.LeavesRoom scene) ∧
      ∃ place ∈ scene.places, place.id = "mine" ∧
        ∀ entry ∈ (ticks scene defaultBackend 6).ledger,
          entry.after.stock place.id "ore" < u64Max)) = true := by
    decide +kernel
  obtain ⟨scene, accepted, roomy⟩ := yields_iff.mp evaluated
  exact ⟨scene, accepted, of_decide_eq_true roomy⟩

/-- In every run the claims on a bucket are exactly the costs of the transforms
running there, and they stay within the declared base. -/
theorem capacityUsed_balanced {raw : RawSl1Scene} {scene : Sl1Scene}
    (accepted : validate raw = .ok scene) (backend : AgentBackend) (count : Nat) {place : Sl1Place}
    (member : place ∈ scene.places) (bucket : String) :
    let runtime := (ticks scene backend count).runtime
    runtime.used place.id bucket = ((runtime.runningOn scene place.id).map fun transform =>
      transform.capacityCost.getD bucket 0).sum ∧
    runtime.used place.id bucket ≤ place.baseCapacity bucket := by
  have valid := validate_valid accepted
  have tracked := ticks_tracked valid backend count
  constructor
  · rw [← load_cost valid]
    exact (tracked.balanced valid).used (place.id, bucket)
  · rw [← valid.placeCaps_of_mem member bucket]
    exact Trace.invariant tracked (fun _ _ _ _ within books => within.step books.taken)
      (initialStore_withinBase scene) (place.id, bucket)

theorem capacityUsed_balanced_surge : ∃ scene, validate (surgeScene 20) = .ok scene ∧
    ∃ place ∈ scene.places,
      ((((ticks scene defaultBackend 2).runtime.runningOn scene place.id).map fun transform =>
        transform.capacityCost.getD "crew" 0).sum = 1 ∧ 1 ≤ place.baseCapacity "crew") := by
  obtain ⟨scene, accepted, ⟨place, member, used⟩, -⟩ := surge_roomy
  obtain ⟨sum, within⟩ := capacityUsed_balanced accepted defaultBackend 2 member "crew"
  exact ⟨scene, accepted, place, member, sum ▸ used, used ▸ within⟩

section Storage

variable {scene : Sl1Scene} (valid : scene.Valid)
include valid

private theorem room_eq {place : Sl1Place} (member : place ∈ scene.places) (thing : String) :
    scene.plan.room (place.id, thing) = place.storageCapacity thing :=
  valid.storageCaps_of_mem member thing

theorem room_le (slot : String × String) : scene.plan.room slot ≤ u64Max := by
  obtain ⟨id, thing⟩ := slot
  by_cases declared : ∃ place ∈ scene.places, place.id = id
  · obtain ⟨place, member, rfl⟩ := declared
    rw [room_eq valid member]
    exact (valid.places place member).capacity_le thing
  · have absent : ∀ place ∈ scene.places, place.id ≠ id := fun place member same =>
      declared ⟨place, member, same⟩
    exact Nat.le_trans (Nat.le_of_eq (Sl1Scene.storageCaps_undeclared absent thing)) (Nat.zero_le _)

private theorem initialStore_withinRoom : scene.plan.WithinRoom scene.initialStore := by
  rintro ⟨id, thing⟩
  change (Sl1RuntimeState.fromScene scene).stock id thing +
    (Sl1RuntimeState.fromScene scene).reserved id thing ≤ _
  rw [Sl1RuntimeState.fromScene_reserved, Nat.add_zero]
  by_cases declared : ∃ place ∈ scene.places, place.id = id
  · obtain ⟨place, member, rfl⟩ := declared
    rw [Sl1RuntimeState.fromScene_stock valid member, room_eq valid member]
    exact (valid.places place member).initial_le thing
  · have absent : ∀ place ∈ scene.places, place.id ≠ id := fun place member same =>
      declared ⟨place, member, same⟩
    rw [Sl1RuntimeState.fromScene_stock_undeclared absent]
    exact Nat.zero_le _

private theorem fitsStorage_of_withinRoom {runtime : Sl1RuntimeState} {running : String → Bool}
    (within : scene.plan.WithinRoom (runtime.store running)) : runtime.FitsStorage scene := by
  intro place member thing
  rw [← room_eq valid member]
  exact within (place.id, thing)

private theorem leavesRoom_step {before after : Store String (String × String) (String × String)}
    {entry : LedgerEntry} (leaves : entry.LeavesRoom scene) (books : scene.Books before entry after) :
    scene.plan.LeavesRoom before entry.op.storeOp := by
  rw [books.before]
  unfold LedgerEntry.LeavesRoom at leaves
  cases op : entry.op with
  | inject pressure place thing due units =>
    rw [op] at leaves
    exact leaves
  | start id =>
    rw [op] at leaves
    intro slot positive
    change 0 < scene.amountAt _ id slot at positive
    cases found : scene.transformDefs[id]? with
    | none => simp [Sl1Scene.amountAt, found] at positive
    | some transform =>
      have fits := leaves transform found
      have outputs := (valid.transforms transform (Sl1Scene.transformDefs_found found).1).outputs
      change entry.before.stock slot.1 slot.2 - scene.amountAt _ id slot +
        entry.before.reserved slot.1 slot.2 + scene.amountAt _ id slot ≤ u64Max
      simp only [Sl1Scene.amountAt, found, Sl1Transform.amountAt] at positive ⊢
      split at positive
      · rename_i here
        rw [if_pos here]
        rcases ioRows_tally outputs slot.2 with none | ⟨io, row, thing, same⟩
        · exact absurd none (Nat.ne_of_gt positive)
        · have fit := fits io row
          rw [here, thing, same] at fit
          rw [if_pos here]
          exact fit
      · cases positive
  | complete => trivial
  | abort => trivial

/-- Over a run whose entries leave reserved room alone, claims stay balanced and
everything fits. -/
private theorem trace_withinRoom {first last : Store String (String × String) (String × String)}
    {entries : List LedgerEntry} (trace : Trace scene.Books first entries last)
    (leaves : ∀ entry ∈ entries, entry.LeavesRoom scene)
    (initial : scene.plan.Balanced first ∧ scene.plan.WithinRoom first) :
    scene.plan.Balanced last ∧ scene.plan.WithinRoom last := by
  have preserved : ∀ before entry after, entry ∈ entries →
      scene.plan.Balanced before ∧ scene.plan.WithinRoom before → scene.Books before entry after →
      scene.plan.Balanced after ∧ scene.plan.WithinRoom after := by
    rintro before entry after member ⟨balanced, within⟩ books
    exact ⟨balanced.step valid.tasks_distinct books.taken,
      within.step balanced valid.tasks_distinct books.taken
        (leavesRoom_step valid (leaves entry member) books)⟩
  exact trace.invariant preserved initial

end Storage

/-- In every run whose entries leave reserved room alone, stored and reserved
units fit at the end and around every entry, and every completion lands whole. -/
theorem storage_fits {raw : RawSl1Scene} {scene : Sl1Scene} (accepted : validate raw = .ok scene)
    (backend : AgentBackend) (count : Nat)
    (leaves : ∀ entry ∈ (ticks scene backend count).ledger, entry.LeavesRoom scene) :
    (ticks scene backend count).runtime.FitsStorage scene ∧
    ∀ entry ∈ (ticks scene backend count).ledger,
      entry.before.FitsStorage scene ∧ entry.after.FitsStorage scene ∧
      ∀ id, entry.op = .complete id → ∀ place thing : String,
        entry.after.stock place thing =
          entry.before.stock place thing + scene.amountAt (·.outputRows) id (place, thing) := by
  have valid := validate_valid accepted
  have tracked := ticks_tracked valid backend count
  have initial := And.intro (Tracked.initialStore_balanced scene) (initialStore_withinRoom valid)
  refine ⟨fitsStorage_of_withinRoom valid (trace_withinRoom valid tracked leaves initial).2, ?_⟩
  intro entry member
  obtain ⟨earlier, before, after, included, reached, books⟩ := Trace.step_of_mem tracked member
  obtain ⟨balanced, within⟩ := trace_withinRoom valid reached
    (fun other present => leaves other (included other present)) initial
  have kept := within.step balanced valid.tasks_distinct books.taken
    (leavesRoom_step valid (leaves entry member) books)
  refine ⟨fitsStorage_of_withinRoom valid (books.before ▸ within),
    fitsStorage_of_withinRoom valid (books.after ▸ kept), ?_⟩
  intro id completes place thing
  have taken := books.taken
  rw [completes] at taken
  have landed := (within.finish_exact balanced valid.tasks_distinct (room_le valid) taken
    (place, thing)).1
  rw [books.before, books.after] at landed
  exact landed

theorem storage_fits_surge : ∃ scene, validate (surgeScene 20) = .ok scene ∧
    (ticks scene defaultBackend 6).runtime.FitsStorage scene := by
  obtain ⟨scene, accepted, -, leaves, -⟩ := surge_roomy
  exact ⟨scene, accepted, (storage_fits accepted defaultBackend 6 leaves).1⟩

/-- Three units land beside a reservation that fills the slot. -/
theorem storage_overfilled : ∃ scene, validate (surgeScene 10) = .ok scene ∧
    ¬ (ticks scene defaultBackend 2).runtime.FitsStorage scene := by
  have evaluated : yields (validate (surgeScene 10)) (fun scene => scene.places.any fun place =>
      place.storageCapacity "ore" < (ticks scene defaultBackend 2).runtime.stock place.id "ore" +
        (ticks scene defaultBackend 2).runtime.reserved place.id "ore") = true := by decide +kernel
  obtain ⟨scene, accepted, found⟩ := yields_iff.mp evaluated
  obtain ⟨place, member, exceeds⟩ := List.any_eq_true.mp found
  exact ⟨scene, accepted, fun fits =>
    absurd (fits place member "ore") (Nat.not_le_of_lt (of_decide_eq_true exceeds))⟩

section Conservation

variable {scene : Sl1Scene} {before after : Store String (String × String) (String × String)}
  {entry : LedgerEntry}

/-- An entry that stays below the 64-bit limit moves exactly what it names. -/
private theorem entry_conserves (books : scene.Books before entry after) {place thing : String}
    (below : entry.after.stock place thing < u64Max) :
    after.stock (place, thing) + entry.consumed scene place thing =
      before.stock (place, thing) +
        (entry.injected place thing + entry.produced scene place thing) := by
  have unclamped : after.stock (place, thing) < scene.plan.limit := by
    rw [books.after]
    exact below
  have moved := books.taken.conserves unclamped
  unfold LedgerEntry.consumed LedgerEntry.injected LedgerEntry.produced
  cases op : entry.op <;>
    simpa only [op, Sl1Scene.plan, LedgerOp.storeOp, Plan.consumed, Plan.supplied, Plan.produced,
      Nat.add_zero, Nat.zero_add] using moved

private theorem entry_unclamped (valid : scene.Valid) (books : scene.Books before entry after)
    (balanced : scene.plan.Balanced before) : entry.Unclamped scene := by
  have taken := books.taken
  have released {id : String} (declared : id ∈ scene.plan.tasks) (busy : before.running id = true)
      (place key : String) : scene.amountAt (·.costRows) id (place, key) ≤ entry.before.used place key ∧
        scene.amountAt (·.outputRows) id (place, key) ≤ entry.before.reserved place key := by
    have cost := balanced.cost_le_used valid.tasks_distinct declared busy (place, key)
    have yields := balanced.yields_le_reserved valid.tasks_distinct declared busy (place, key)
    rw [books.before] at cost yields
    exact ⟨cost, yields⟩
  unfold LedgerEntry.Unclamped
  cases op : entry.op with
  | inject => trivial
  | start id =>
    rw [op] at taken
    intro place thing
    cases taken with
    | start admitted =>
      have stocked := admitted.inStock (place, thing)
      rw [books.before] at stocked
      exact stocked
  | complete id =>
    rw [op] at taken
    cases taken with
    | finish declared busy => exact released declared busy
  | abort id =>
    rw [op] at taken
    cases taken with
    | abort declared busy => exact released declared busy

end Conservation

/-- In every run: stock below the 64-bit limit is conserved, no subtraction of a
consume or a release is clamped, and a refused start changes nothing. -/
theorem stock_conserved {raw : RawSl1Scene} {scene : Sl1Scene} (accepted : validate raw = .ok scene)
    (backend : AgentBackend) (count : Nat) :
    let run := ticks scene backend count
    (∀ place ∈ scene.places, ∀ thing : String,
      (∀ entry ∈ run.ledger, entry.after.stock place.id thing < u64Max) →
        run.runtime.stock place.id thing +
            (run.ledger.map fun entry => entry.consumed scene place.id thing).sum =
          place.storageInitial thing +
            (run.ledger.map fun entry => entry.injected place.id thing).sum +
            (run.ledger.map fun entry => entry.produced scene place.id thing).sum) ∧
    (∀ entry ∈ run.ledger, entry.Unclamped scene) ∧
    (∀ transform caps now (frame : Frame),
      (Transforms.tryStart transform caps now frame).1 ≠ .started →
        (Transforms.tryStart transform caps now frame).2 = frame) := by
  have valid := validate_valid accepted
  have tracked := ticks_tracked valid backend count
  refine ⟨?_, ?_, ?_⟩
  · intro place member thing unsaturated
    have initial : scene.initialStore.stock (place.id, thing) = place.storageInitial thing :=
      Sl1RuntimeState.fromScene_stock valid member thing
    have total := Trace.accounted tracked fun before entry after listed books =>
      entry_conserves books (unsaturated entry listed)
    rw [List.sum_map_add, initial, ← Nat.add_assoc] at total
    exact total
  · intro entry member
    obtain ⟨_, _, _, _, reached, books⟩ := Trace.step_of_mem tracked member
    exact entry_unclamped valid books (reached.invariant
      (fun _ _ _ _ balanced books => balanced.step valid.tasks_distinct books.taken)
      (Tracked.initialStore_balanced scene))
  · intro transform caps now frame refused
    rcases Transforms.tryStart_cases transform caps now frame with ⟨-, same⟩ | ⟨_, -, same⟩
    · exact absurd (congrArg Prod.fst same) refused
    · exact congrArg Prod.snd same

theorem stock_conserved_surge : ∃ scene, validate (surgeScene 20) = .ok scene ∧
    ∃ place ∈ scene.places, place.id = "mine" ∧
      (ticks scene defaultBackend 6).runtime.stock place.id "ore" +
          ((ticks scene defaultBackend 6).ledger.map fun entry =>
            entry.consumed scene place.id "ore").sum =
        place.storageInitial "ore" +
          ((ticks scene defaultBackend 6).ledger.map fun entry => entry.injected place.id "ore").sum +
          ((ticks scene defaultBackend 6).ledger.map fun entry =>
            entry.produced scene place.id "ore").sum := by
  obtain ⟨scene, accepted, -, -, place, member, named, unsaturated⟩ := surge_roomy
  exact ⟨scene, accepted, place, member, named,
    (stock_conserved accepted defaultBackend 6).1 place member "ore" unsaturated⟩

end Simetro.Sl1
