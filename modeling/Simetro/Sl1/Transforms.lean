import Simetro.Library.Tally
import Simetro.Sl1.Pressure

/-! Freshness aging and the per-transform state machine
`Idle | Running | Starved | Blocked | Late`. -/

namespace Simetro.Sl1

open Simetro.Library Simetro.Protocol

/-- Booked rows of an input or output list. -/
def ioRows (ios : List Sl1TransformIo) : List (String × Nat) :=
  ios.map fun io => (io.thingId, io.amount)

namespace Sl1Transform

variable (transform : Sl1Transform)

def inputRows : List (String × Nat) := ioRows transform.inputs

def outputRows : List (String × Nat) := ioRows transform.outputs

/-- Output rows under the keys of the reservation map. -/
def reservationRows : List ((String × String) × Nat) :=
  transform.outputs.map fun output => ((transform.runsOn, output.thingId), output.amount)

def costRows : List (String × Nat) := transform.capacityCost.toList

end Sl1Transform

/-- Capacity lookups shared by one pass over the transforms. -/
structure PassCaps where
  storage : PairMap Nat
  place : IdMap (IdMap Nat)

def Sl1Scene.placeCaps (scene : Sl1Scene) : IdMap (IdMap Nat) :=
  table scene.places (·.id) (·.capacity)

def Sl1Scene.passCaps (scene : Sl1Scene) : PassCaps := ⟨scene.storageCaps, scene.placeCaps⟩

def Sl1Scene.transformDefs (scene : Sl1Scene) : IdMap Sl1Transform :=
  table scene.transforms (·.id) id

namespace Transforms

def thingBudgets (scene : Sl1Scene) : IdMap (Option Nat) :=
  table scene.things (·.id) (·.freshnessBudgetTicks)

/-- An `Ok` entry older than its thing's budget turns `Stale`. -/
def ageEntry (budget : Option Nat) (now : Nat) : FreshnessState → FreshnessState
  | .ok lastSetTick =>
      match budget with
      | some ticks => if now - lastSetTick > ticks then .stale lastSetTick else .ok lastSetTick
      | none => .ok lastSetTick
  | state => state

def ageFreshness (scene : Sl1Scene) (now : Nat) (frame : Frame) : Frame :=
  let budgets := thingBudgets scene
  frame.modify fun runtime => { runtime with
    freshness := runtime.freshness.map fun key state => ageEntry (budgets.getD key.2 none) now state }

inductive StartResult where
  | started
  | starved
  | blocked
  deriving DecidableEq

variable (transform : Sl1Transform) (caps : PassCaps) (now : Nat)

def emitWarning (frame : Frame) (event : Sl1TransformWarningKind) (attempt : Option Nat) : Frame :=
  frame.warn (.sl1Transform transform.id event now attempt)

/-- Every input is in stock. -/
def inputsAvailable (runtime : Sl1RuntimeState) : Bool :=
  transform.inputs.all fun input => input.amount ≤ runtime.stock transform.runsOn input.thingId

/-- Every claim fits under the effective capacity of its bucket. -/
def capacityHeadroom (runtime : Sl1RuntimeState) : Bool :=
  transform.costRows.all fun (bucket, cost) =>
    let base := (caps.place.getD transform.runsOn ∅).getD bucket 0
    saturatingAdd u64Max (runtime.used transform.runsOn bucket) cost ≤
      Pressure.effectiveCapacity runtime.pressure transform.runsOn bucket base

/-- Every output fits beside the stock and the room already promised. -/
def storageRoom (runtime : Sl1RuntimeState) : Bool :=
  transform.outputs.all fun output =>
    saturatingAdd u64Max
      (saturatingAdd u64Max (runtime.stock transform.runsOn output.thingId)
        (runtime.reserved transform.runsOn output.thingId)) output.amount ≤
      caps.storage.getD (transform.runsOn, output.thingId) 0

/-- Consume inputs, claim capacity, reserve output room. -/
def commitStart (runtime : Sl1RuntimeState) : Sl1RuntimeState :=
  let runtime := runtime.updateSlots transform.runsOn fun slots => withdraw slots transform.inputRows
  { runtime with
    placeCapacityUsed := runtime.placeCapacityUsed.insert transform.runsOn
      (deposit u64Max (runtime.placeCapacityUsed.getD transform.runsOn ∅) transform.costRows)
    pendingOutputs := deposit u64Max runtime.pendingOutputs transform.reservationRows }

def tryStart (frame : Frame) : StartResult × Frame :=
  if ¬ inputsAvailable transform frame.runtime then (.starved, frame)
  else if ¬ capacityHeadroom transform caps frame.runtime then (.blocked, frame)
  else if ¬ storageRoom transform caps frame.runtime then (.blocked, frame)
  else (.started, frame.perform now (.start transform.id) (commitStart transform))

/-- Give the claimed capacity back; buckets that hold no entry are left alone. -/
def releaseCapacity (runtime : Sl1RuntimeState) : Sl1RuntimeState :=
  { runtime with
    placeCapacityUsed := runtime.placeCapacityUsed.modify transform.runsOn fun used =>
      drain used transform.costRows }

/-- Cancel the reservations; an entry that reaches zero is removed. -/
def releasePendingOutputs (runtime : Sl1RuntimeState) : Sl1RuntimeState :=
  { runtime with pendingOutputs := cancel runtime.pendingOutputs transform.reservationRows }

/-- Give back what a start took besides its inputs. -/
def release (runtime : Sl1RuntimeState) : Sl1RuntimeState :=
  releasePendingOutputs transform (releaseCapacity transform runtime)

/-- Land every output and mark it fresh. -/
def produceOutputs (runtime : Sl1RuntimeState) : Sl1RuntimeState :=
  let runtime := runtime.updateSlots transform.runsOn fun slots =>
    deposit u64Max slots transform.outputRows
  { runtime with
    freshness := transform.outputs.foldl (fun freshness output =>
      freshness.insert (transform.runsOn, output.thingId) (.ok now)) runtime.freshness }

def completeRun (runtime : Sl1RuntimeState) : Sl1RuntimeState :=
  release transform (produceOutputs transform now runtime)

def handleFailurePolicy (scheduledAt attempt : Nat) (frame : Frame) : Sl1TransformState × Frame :=
  match transform.failurePolicy with
  | .drop => (.idle, emitWarning transform now frame .failed (some attempt))
  | .retryThenWarn =>
      if transform.maxAttempts ≤ attempt then
        (.idle, emitWarning transform now frame .failed (some attempt))
      else (.late scheduledAt (saturatingAdd u32Max attempt 1) now, frame)

def deadlineTick (scheduledAt : Nat) : Nat := saturatingAdd u64Max scheduledAt transform.deadlineTicks

def completionTick (startedAt : Nat) : Nat := saturatingAdd u64Max startedAt transform.durationTicks

def advanceRunning (scheduledAt startedAt attempt : Nat) (frame : Frame) :
    Sl1TransformState × Frame :=
  -- the deadline is checked before the completion
  if deadlineTick transform scheduledAt < now then
    handleFailurePolicy transform now scheduledAt attempt
      (emitWarning transform now (frame.perform now (.abort transform.id) (release transform))
        .late (some attempt))
  else if completionTick transform startedAt ≤ now then
    (.idle, frame.perform now (.complete transform.id) (completeRun transform now))
  else (.running scheduledAt startedAt attempt, frame)

def startAttemptQuiet (scheduledAt since attempts : Nat) (frame : Frame) :
    Sl1TransformState × Frame :=
  match tryStart transform caps now frame with
  | (.started, frame) => (.running scheduledAt now attempts, frame)
  | (.starved, frame) => (.starved scheduledAt since attempts, frame)
  | (.blocked, frame) => (.blocked scheduledAt since attempts, frame)

def advanceWaiting (scheduledAt since attempts : Nat) (frame : Frame) :
    Sl1TransformState × Frame :=
  if deadlineTick transform scheduledAt < now then
    handleFailurePolicy transform now scheduledAt attempts
      (emitWarning transform now frame .late (some attempts))
  else startAttemptQuiet transform caps now scheduledAt since attempts frame

def advanceLate (scheduledAt attempt since : Nat) (frame : Frame) : Sl1TransformState × Frame :=
  match transform.failurePolicy with
  | .drop => (.idle, emitWarning transform now frame .failed (some attempt))
  | .retryThenWarn =>
      match tryStart transform caps now frame with
      | (.started, frame) => (.running now now attempt, frame)
      | (_, frame) =>
          let nextAttempt := saturatingAdd u32Max attempt 1
          if transform.maxAttempts < nextAttempt then
            (.idle, emitWarning transform now frame .failed (some attempt))
          else (.late scheduledAt nextAttempt since, frame)

def startAttempt (scheduledAt attempts : Nat) (frame : Frame) : Sl1TransformState × Frame :=
  match tryStart transform caps now frame with
  | (.started, frame) => (.running scheduledAt now attempts, frame)
  | (.starved, frame) =>
      (.starved scheduledAt now attempts, emitWarning transform now frame .starved none)
  | (.blocked, frame) =>
      (.blocked scheduledAt now attempts, emitWarning transform now frame .blocked none)

/-- Advance the instance in flight, if any. -/
def advance (frame : Frame) : Sl1TransformState → Sl1TransformState × Frame
  | .idle => (.idle, frame)
  | .running scheduledAt startedAt attempt =>
      advanceRunning transform now scheduledAt startedAt attempt frame
  | .starved scheduledAt since attempts | .blocked scheduledAt since attempts =>
      advanceWaiting transform caps now scheduledAt since attempts frame
  | .late scheduledAt attempt since =>
      advanceLate transform caps now scheduledAt attempt since frame

/-- `now` opens a cadence slot; tick 0 never does. -/
def cadenceFires : Bool := 0 < now && 0 < transform.cadenceTicks && now % transform.cadenceTicks == 0

/-- Serve the cadence slot: start on an idle transform, miss it on a busy one. -/
def cadence (state : Sl1TransformState) (frame : Frame) : Sl1TransformState × Frame :=
  if ¬ cadenceFires transform now then (state, frame)
  else
    match state with
    | .idle => startAttempt transform caps now now 1 frame
    | busy => (busy, emitWarning transform now frame .slotMissed none)

def keepState (state : Sl1TransformState) (runtime : Sl1RuntimeState) : Sl1RuntimeState :=
  { runtime with transforms := runtime.transforms.insert transform.id state }

/-- One transform's tick. The id the source passes beside the definition is the
definition's own. -/
def processOne (frame : Frame) : Frame :=
  let (state, frame) := advance transform caps now frame (frame.runtime.transformState transform.id)
  let (state, frame) := cadence transform caps now state frame
  frame.modify (keepState transform state)

/-- `run_transforms`, in id order; ids without a definition are skipped. -/
def runTransforms (scene : Sl1Scene) (now : Nat) (frame : Frame) : Frame :=
  let defs := scene.transformDefs
  frame.runtime.transforms.keys.foldl (fun frame id =>
    match defs[id]? with
    | some transform => processOne transform scene.passCaps now frame
    | none => frame) frame

end Transforms

end Simetro.Sl1
