import Simetro.Sl1.StockDates
import Simetro.Sl1.TwoRuns

/-! What one place sees of a frame. A step that is about another place keeps the view;
what a step about this place makes of it depends on the view alone. -/

namespace Simetro.Protocol

/-- A warning of one of the named transforms. -/
def SimMessage.isFrom (ids : String → Bool) : SimMessage → Bool
  | .warning (.sl1Transform id _ _ _) => ids id
  | _ => false

end Simetro.Protocol

namespace Simetro.Sl1

open Simetro.Library Simetro.Protocol

/-- The pressure works on what `place` stocks or can claim. -/
def Sl1Pressure.bearsOn (place : String) (pressure : Sl1Pressure) : Bool :=
  match pressure.params with
  | .sourceMultiplier _ _ | .quotaReduction _ _ => pressure.target == place
  | .demandGrowth _ | .pathOutage | .unsupportedInThisPr => false

/-- A place with the names of its transforms and of the pressures that bear on it. -/
structure Locality where
  place : String
  hosts : String → Bool
  presses : String → Bool

def Sl1Scene.locality (scene : Sl1Scene) (place : String) : Locality where
  place := place
  hosts id := scene.transforms.any fun transform => transform.id == id && transform.runsOn == place
  presses id := scene.pressure.any fun pressure => pressure.id == id && pressure.bearsOn place

theorem Sl1Scene.hosts_iff {scene : Sl1Scene} {place id : String} :
    (scene.locality place).hosts id = true ↔
      ∃ transform ∈ scene.transforms, transform.id = id ∧ transform.runsOn = place := by
  simp [locality]

theorem Sl1Scene.presses_iff {scene : Sl1Scene} {place id : String} :
    (scene.locality place).presses id = true ↔
      ∃ pressure ∈ scene.pressure, pressure.id = id ∧ pressure.bearsOn place = true := by
  simp [locality]

@[ext]
structure PlaceView where
  slots : Option (IdMap Nat)
  used : Option (IdMap Nat)
  pending : String → Option Nat
  lastSet : String → Option Nat
  states : String → Option Sl1TransformState
  warnings : List SimMessage
  reduction : String → Nat
  active : String → Bool
  carry : String → String → Option Nat

namespace Frame

variable (locale : Locality) (frame : Frame)

def seenFrom : PlaceView where
  slots := frame.runtime.inventories[locale.place]?
  used := frame.runtime.placeCapacityUsed[locale.place]?
  pending thing := frame.runtime.pendingOutputs[(locale.place, thing)]?
  lastSet := Objectives.lastSetTick frame.runtime locale.place
  states id := if locale.hosts id then frame.runtime.transforms[id]? else none
  warnings := frame.messages.filter (SimMessage.isFrom locale.hosts)
  reduction bucket := frame.runtime.pressure.quotaReduction.getD (locale.place, bucket) 0
  active id := locale.presses id && frame.runtime.pressure.active.contains id
  carry id thing :=
    if locale.presses id then frame.runtime.injectCarry id locale.place thing else none

theorem warn_seenFrom {payload : WarningPayload}
    (other : SimMessage.isFrom locale.hosts (.warning payload) = false) :
    (frame.warn payload).seenFrom locale = frame.seenFrom locale := by
  simp [seenFrom, other]

end Frame

section Reads

variable {locale : Locality} {first second : Frame}
  (same : first.seenFrom locale = second.seenFrom locale)
include same

theorem seenFrom_stock (thing : String) :
    first.runtime.stock locale.place thing = second.runtime.stock locale.place thing := by
  have slots : first.runtime.inventories[locale.place]? = second.runtime.inventories[locale.place]? :=
    congrArg PlaceView.slots same
  rw [Sl1RuntimeState.stock, Sl1RuntimeState.stock,
    Std.ExtTreeMap.getD_eq_getD_getElem? (t := first.runtime.inventories), slots,
    ← Std.ExtTreeMap.getD_eq_getD_getElem?]

theorem seenFrom_used (bucket : String) :
    first.runtime.used locale.place bucket = second.runtime.used locale.place bucket := by
  have used : first.runtime.placeCapacityUsed[locale.place]? =
      second.runtime.placeCapacityUsed[locale.place]? := congrArg PlaceView.used same
  rw [Sl1RuntimeState.used, Sl1RuntimeState.used,
    Std.ExtTreeMap.getD_eq_getD_getElem? (t := first.runtime.placeCapacityUsed), used,
    ← Std.ExtTreeMap.getD_eq_getD_getElem?]

theorem seenFrom_reserved (thing : String) :
    first.runtime.reserved locale.place thing = second.runtime.reserved locale.place thing := by
  have pending : first.runtime.pendingOutputs[(locale.place, thing)]? =
      second.runtime.pendingOutputs[(locale.place, thing)]? :=
    congrFun (congrArg PlaceView.pending same) thing
  rw [Sl1RuntimeState.reserved, Sl1RuntimeState.reserved,
    Std.ExtTreeMap.getD_eq_getD_getElem?, pending, ← Std.ExtTreeMap.getD_eq_getD_getElem?]

theorem seenFrom_state {id : String} (hosted : locale.hosts id = true) :
    first.runtime.transforms[id]? = second.runtime.transforms[id]? := by
  have states := congrFun (congrArg PlaceView.states same) id
  simpa only [Frame.seenFrom, hosted, if_true] using states

theorem seenFrom_effectiveCapacity (bucket : String) (base : Nat) :
    Pressure.effectiveCapacity first.runtime.pressure locale.place bucket base =
      Pressure.effectiveCapacity second.runtime.pressure locale.place bucket base := by
  have reduction : first.runtime.pressure.quotaReduction.getD (locale.place, bucket) 0 =
      second.runtime.pressure.quotaReduction.getD (locale.place, bucket) 0 :=
    congrFun (congrArg PlaceView.reduction same) bucket
  rw [Pressure.effectiveCapacity, Pressure.effectiveCapacity, reduction]

theorem seenFrom_active {id : String} (presses : locale.presses id = true) :
    first.runtime.pressure.active.contains id = second.runtime.pressure.active.contains id := by
  have active := congrFun (congrArg PlaceView.active same) id
  simpa only [Frame.seenFrom, presses, Bool.true_and] using active

theorem seenFrom_carry {id : String} (presses : locale.presses id = true) (thing : String) :
    first.runtime.injectCarry id locale.place thing =
      second.runtime.injectCarry id locale.place thing := by
  have carry := congrFun (congrFun (congrArg PlaceView.carry same) id) thing
  simpa only [Frame.seenFrom, presses, if_true] using carry

theorem seenFrom_warn (payload : WarningPayload) :
    (first.warn payload).seenFrom locale = (second.warn payload).seenFrom locale := by
  have warned (frame : Frame) : (frame.warn payload).seenFrom locale =
      { frame.seenFrom locale with
        warnings := (frame.seenFrom locale).warnings ++
          [SimMessage.warning payload].filter (SimMessage.isFrom locale.hosts) } := by
    rw [Frame.seenFrom, Frame.warn_messages, List.filter_append]
    rfl
  rw [warned, warned, same]

end Reads

namespace Transforms

variable {locale : Locality} {transform : Sl1Transform} {now : Nat} {first second : Frame}

section Foreign

variable (frame : Frame) (elsewhere : transform.runsOn ≠ locale.place)
  (foreign : locale.hosts transform.id = false)

include foreign in
theorem emitWarning_foreign (event : Sl1TransformWarningKind) (attempt : Option Nat) :
    (emitWarning transform now frame event attempt).seenFrom locale = frame.seenFrom locale :=
  Frame.warn_seenFrom locale frame foreign

include foreign in
theorem keepState_foreign (state : Sl1TransformState) :
    (frame.modify (keepState transform state)).seenFrom locale = frame.seenFrom locale := by
  have states : ((frame.modify (keepState transform state)).seenFrom locale).states =
      (frame.seenFrom locale).states := by
    funext id
    simp only [Frame.seenFrom]
    split
    · rename_i hosted
      have different : transform.id ≠ id := by
        rintro rfl
        rw [foreign] at hosted
        cases hosted
      simp [keepState, Std.ExtTreeMap.getElem?_insert, different]
    · rfl
  exact PlaceView.ext rfl rfl rfl rfl states rfl rfl rfl rfl

include elsewhere

theorem reservationRows_absent (thing : String) :
    ∀ row ∈ transform.reservationRows, row.1 ≠ (locale.place, thing) := by
  intro row member same
  obtain ⟨output, -, rfl⟩ := List.mem_map.mp member
  exact elsewhere (Prod.mk.inj same).1

theorem begun_foreign : (begun transform now frame).seenFrom locale = frame.seenFrom locale := by
  refine PlaceView.ext ?_ ?_ ?_ rfl rfl rfl rfl rfl rfl
  · simp [Frame.seenFrom, begun, commitStart, Sl1RuntimeState.updateSlots,
      Std.ExtTreeMap.getElem?_insert, elsewhere]
  · simp [Frame.seenFrom, begun, commitStart, Sl1RuntimeState.updateSlots,
      Std.ExtTreeMap.getElem?_insert, elsewhere]
  · exact funext fun thing => deposit_getElem?_of_absent (reservationRows_absent elsewhere thing)

theorem aborted_foreign : (aborted transform now frame).seenFrom locale = frame.seenFrom locale := by
  refine PlaceView.ext rfl ?_ ?_ rfl rfl rfl rfl rfl rfl
  · simp [Frame.seenFrom, aborted, release, releasePendingOutputs, releaseCapacity,
      Std.ExtTreeMap.getElem?_modify, elsewhere]
  · exact funext fun thing => cancel_getElem?_of_absent (reservationRows_absent elsewhere thing)

theorem completed_foreign :
    (completed transform now frame).seenFrom locale = frame.seenFrom locale := by
  refine PlaceView.ext ?_ ?_ ?_ ?_ rfl rfl rfl rfl rfl
  · simp [Frame.seenFrom, completed, completeRun, release, releasePendingOutputs, releaseCapacity,
      produceOutputs, Sl1RuntimeState.updateSlots, Std.ExtTreeMap.getElem?_insert, elsewhere]
  · simp [Frame.seenFrom, completed, completeRun, release, releasePendingOutputs, releaseCapacity,
      produceOutputs, Sl1RuntimeState.updateSlots, Std.ExtTreeMap.getElem?_modify, elsewhere]
  · exact funext fun thing => cancel_getElem?_of_absent (reservationRows_absent elsewhere thing)
  · funext thing
    change Objectives.lastSetTick (produceOutputs transform now frame.runtime) _ _ = _
    rw [Objectives.lastSetTick_eq, produceOutputs_freshness, if_neg fun filled => elsewhere filled.1,
      ← Objectives.lastSetTick_eq]
    rfl

variable {caps : PassCaps} {last : Frame} {state next : Sl1TransformState}
include foreign

theorem Advanced.seenFrom_foreign {frame : Frame}
    (advanced : Advanced transform caps now frame state next last) :
    last.seenFrom locale = frame.seenFrom locale := by
  have warned (frame : Frame) (event : Sl1TransformWarningKind) (attempt : Option Nat) :=
    (emitWarning_foreign frame foreign event attempt :
      (emitWarning transform now frame event attempt).seenFrom locale = frame.seenFrom locale)
  cases advanced with
  | kept => rfl
  | started => exact begun_foreign frame elsewhere
  | completed => exact completed_foreign frame elsewhere
  | breached => exact (warned _ _ _).trans (aborted_foreign frame elsewhere)
  | breachedFailed =>
    exact (warned _ _ _).trans ((warned _ _ _).trans (aborted_foreign frame elsewhere))
  | overdue | exhausted => exact warned _ _ _
  | overdueFailed => exact (warned _ _ _).trans (warned _ _ _)

theorem Served.seenFrom_foreign {frame : Frame}
    (served : Served transform caps now frame state next last) :
    last.seenFrom locale = frame.seenFrom locale := by
  cases served with
  | quiet => rfl
  | started => exact begun_foreign frame elsewhere
  | missed | starved | blocked => exact emitWarning_foreign frame foreign _ _

/-- A transform of another place goes unseen. -/
theorem processOne_foreign :
    (processOne transform caps now frame).seenFrom locale = frame.seenFrom locale := by
  obtain ⟨_, _, middle, last, advanced, served, same⟩ := processOne_cases transform caps now frame
  rw [same, keepState_foreign last foreign, served.seenFrom_foreign elsewhere foreign,
    advanced.seenFrom_foreign elsewhere foreign]

end Foreign

section Local

variable {locale : Locality} {transform : Sl1Transform} {now : Nat} {first second : Frame}
  (here : transform.runsOn = locale.place) (same : first.seenFrom locale = second.seenFrom locale)
include same

theorem keepState_local (hosted : locale.hosts transform.id = true) (state : Sl1TransformState) :
    (first.modify (keepState transform state)).seenFrom locale =
      (second.modify (keepState transform state)).seenFrom locale := by
  have kept (frame : Frame) : (frame.modify (keepState transform state)).seenFrom locale =
      { frame.seenFrom locale with
        states := fun id =>
          if transform.id = id then some state else (frame.seenFrom locale).states id } := by
    refine PlaceView.ext rfl rfl rfl rfl ?_ rfl rfl rfl rfl
    funext id
    by_cases own : transform.id = id
    · subst own
      simp [Frame.seenFrom, keepState, hosted]
    · simp [Frame.seenFrom, keepState, Std.ExtTreeMap.getElem?_insert, own]
  rw [kept, kept, same]

include here

theorem begun_local :
    (begun transform now first).seenFrom locale = (begun transform now second).seenFrom locale := by
  have begins (frame : Frame) : (begun transform now frame).seenFrom locale =
      { frame.seenFrom locale with
        slots := some (withdraw ((frame.seenFrom locale).slots.getD ∅) transform.inputRows)
        used := some (deposit u64Max ((frame.seenFrom locale).used.getD ∅) transform.costRows)
        pending := fun thing =>
          (deposit u64Max frame.runtime.pendingOutputs transform.reservationRows)[(locale.place,
            thing)]? } := by
    refine PlaceView.ext ?_ ?_ rfl rfl rfl rfl rfl rfl rfl
    · simp [Frame.seenFrom, begun, commitStart, Sl1RuntimeState.updateSlots, here,
        Std.ExtTreeMap.getD_eq_getD_getElem?]
    · simp [Frame.seenFrom, begun, commitStart, Sl1RuntimeState.updateSlots, here,
        Std.ExtTreeMap.getD_eq_getD_getElem?]
  have pending (thing : String) := deposit_getElem?_congr u64Max transform.reservationRows
    (congrFun (congrArg PlaceView.pending same) thing)
  rw [begins, begins, same, funext pending]

/-- What a release leaves of the claims at the place and of its reservations. -/
theorem aborted_local :
    (aborted transform now first).seenFrom locale = (aborted transform now second).seenFrom locale := by
  have aborts (frame : Frame) : (aborted transform now frame).seenFrom locale =
      { frame.seenFrom locale with
        used := (frame.seenFrom locale).used.map fun used => drain used transform.costRows
        pending := fun thing =>
          (cancel frame.runtime.pendingOutputs transform.reservationRows)[(locale.place, thing)]? } := by
    refine PlaceView.ext rfl ?_ rfl rfl rfl rfl rfl rfl rfl
    simp [Frame.seenFrom, aborted, release, releasePendingOutputs, releaseCapacity, here]
  have pending (thing : String) := cancel_getElem?_congr transform.reservationRows
    (congrFun (congrArg PlaceView.pending same) thing)
  rw [aborts, aborts, same, funext pending]

theorem completed_local : (completed transform now first).seenFrom locale =
    (completed transform now second).seenFrom locale := by
  have completes (frame : Frame) : (completed transform now frame).seenFrom locale =
      { (aborted transform now frame).seenFrom locale with
        slots := some (deposit u64Max ((frame.seenFrom locale).slots.getD ∅) transform.outputRows)
        lastSet := fun thing =>
          if thing ∈ transform.outputs.map (·.thingId) then some now
          else (frame.seenFrom locale).lastSet thing } := by
    refine PlaceView.ext ?_ rfl rfl ?_ rfl rfl rfl rfl rfl
    · simp [Frame.seenFrom, completed, completeRun, release, releasePendingOutputs, releaseCapacity,
        produceOutputs, Sl1RuntimeState.updateSlots, here, Std.ExtTreeMap.getD_eq_getD_getElem?]
    · funext thing
      change Objectives.lastSetTick (produceOutputs transform now frame.runtime) _ _ = _
      rw [Objectives.lastSetTick_eq, produceOutputs_freshness]
      simp only [here, true_and]
      split
      · rfl
      · exact (Objectives.lastSetTick_eq _ _ _).symm
  rw [completes, completes, aborted_local here same, same]

omit same in
/-- A transform of the place acts alike in frames the place cannot tell apart. -/
theorem respects_seenFrom {left right : PassCaps} (hosted : locale.hosts transform.id = true)
    (storage : ∀ thing, left.storage.getD (locale.place, thing) 0 =
      right.storage.getD (locale.place, thing) 0)
    (capacity : ∀ bucket, (left.place.getD locale.place ∅).getD bucket 0 =
      (right.place.getD locale.place ∅).getD bucket 0) :
    Respects (fun first second => first.seenFrom locale = second.seenFrom locale) transform left right
      now where
  state same := by
    rw [Sl1RuntimeState.transformState, Sl1RuntimeState.transformState,
      Std.ExtTreeMap.getD_eq_getD_getElem?, seenFrom_state same hosted,
      ← Std.ExtTreeMap.getD_eq_getD_getElem?]
  inputs same := by
    simp only [inputsAvailable, here, seenFrom_stock same]
  headroom same := by
    simp only [capacityHeadroom, here, seenFrom_used same, seenFrom_effectiveCapacity same, capacity]
  room same := by
    simp only [storageRoom, here, seenFrom_stock same, seenFrom_reserved same, storage]
  warned _ _ same := seenFrom_warn same _
  begun same := begun_local here same
  aborted same := aborted_local here same
  completed same := completed_local here same
  kept state same := keepState_local same hosted state

end Local

end Transforms

end Simetro.Sl1
