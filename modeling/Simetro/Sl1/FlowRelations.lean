import Simetro.Sl1.DemandThrottles
import Simetro.Sl1.TwoRuns

/-! The frame rule of the passes before the objectives: apart from the freshness, which they age
and renew, they read and write the stores alone. What relates two frames and is kept by such
writes is kept by these passes. -/

namespace Simetro.Sl1

open Simetro.Library Simetro.Protocol

namespace Sl1RuntimeState

/-- What the passes before the objectives work on, without the freshness. -/
def stores (runtime : Sl1RuntimeState) : Sl1RuntimeState :=
  { runtime with
    freshness := ∅
    objectives := ∅
    failureConditions := ∅
    victoryConditions := ∅
    gameOutcome := .inProgress
    gamePhase := .stabilizing
    unsupportedObjectivesWarned := ∅
    metricStates := ∅
    dashboardStates := ∅
    alertStates := ∅
    agents := ∅
    milestones := ∅ }

/-- The runtime with other stores. -/
def restock (stores runtime : Sl1RuntimeState) : Sl1RuntimeState :=
  { runtime with
    inventories := stores.inventories
    placeCapacityUsed := stores.placeCapacityUsed
    pendingOutputs := stores.pendingOutputs
    transforms := stores.transforms
    demand := stores.demand
    pressure := stores.pressure
    agentDemandPauses := stores.agentDemandPauses }

/-- A change that reads and writes the stores alone. -/
def Local (change : Sl1RuntimeState → Sl1RuntimeState) : Prop :=
  ∀ runtime, change runtime = (change runtime.stores).restock runtime

end Sl1RuntimeState

/-- Related frames have the same stores, and local changes keep them related. -/
structure FlowRelation (related : Frame → Frame → Prop) : Prop where
  stores : ∀ {first second}, related first second → first.runtime.stores = second.runtime.stores
  modify : ∀ {first second change}, related first second → Sl1RuntimeState.Local change →
    related (first.modify change) (second.modify change)
  perform : ∀ {first second change} tick op, related first second → Sl1RuntimeState.Local change →
    related (first.perform tick op change) (second.perform tick op change)
  emit : ∀ {first second} event, related first second → related (first.emit event) (second.emit event)
  warn : ∀ {first second} payload, related first second →
    related (first.warn payload) (second.warn payload)
  enqueue : ∀ {first second} entries, related first second →
    related (first.enqueue entries) (second.enqueue entries)
  serve : ∀ {first second} entry, related first second →
    related (first.serve entry) (second.serve entry)

namespace FlowRelation

variable {related : Frame → Frame → Prop} (flow : FlowRelation related) {first second : Frame}
include flow

/-- A read of the stores. -/
theorem read {Value : Type} (same : related first second) (look : Sl1RuntimeState → Value)
    (only : ∀ runtime, look runtime = look runtime.stores) : look first.runtime = look second.runtime := by
  rw [only first.runtime, flow.stores same, ← only]

section Pressure

variable (scene : Sl1Scene) (now : Nat)

theorem deactivate (id : String) (same : related first second) :
    related (Pressure.deactivate scene now first id) (Pressure.deactivate scene now second id) := by
  unfold Pressure.deactivate
  cases Pressure.pressureDef scene id with
  | none => exact flow.modify same fun _ => rfl
  | some pressure => exact flow.emit _ (flow.modify same fun _ => rfl)

theorem warnUnsupported (pressure : Sl1Pressure) (same : related first second) :
    related (Pressure.warnUnsupported now first pressure)
      (Pressure.warnUnsupported now second pressure) := by
  unfold Pressure.warnUnsupported
  rw [flow.read same (·.pressure) fun _ => rfl]
  split
  · exact same
  · exact flow.warn _ (flow.modify same fun _ => rfl)

theorem activate (pressure : Sl1Pressure) (same : related first second) :
    related (Pressure.activate now first pressure) (Pressure.activate now second pressure) := by
  unfold Pressure.activate
  rw [flow.read same (·.pressure) fun _ => rfl]
  split
  · exact flow.warnUnsupported now pressure (flow.emit _ (flow.modify same fun _ => rfl))
  · exact same

theorem injectSource (caps : PairMap Nat) (injection : Pressure.SourceInjection)
    (same : related first second) : related (Pressure.injectSource caps now first injection)
      (Pressure.injectSource caps now second injection) := by
  unfold Pressure.injectSource
  simp only
  rw [flow.read same injection.due fun _ => rfl, flow.read same (injection.units caps) fun _ => rfl]
  have carried : related (first.modify injection.keepCarry) (second.modify injection.keepCarry) :=
    flow.modify same fun _ => rfl
  split
  · exact carried
  · exact flow.perform _ _ carried fun _ => rfl

theorem pressureRun (same : related first second) :
    related (Pressure.run scene now first) (Pressure.run scene now second) := by
  unfold Pressure.run Pressure.applySourceInjection
  split
  · exact same
  · simp only
    rw [flow.read same (Pressure.toDeactivate scene · now) fun _ => rfl]
    have deactivated := List.foldl_rel same fun id
      (_ : id ∈ Pressure.toDeactivate scene second.runtime now) _ _ same =>
        flow.deactivate scene now id same
    have activated := List.foldl_rel deactivated fun pressure (_ : pressure ∈ scene.pressure)
      _ _ same => flow.activate now pressure same
    have overlaid : related (Frame.modify _ (Pressure.rebuildOverlays scene))
        (Frame.modify _ (Pressure.rebuildOverlays scene)) := flow.modify activated fun _ => rfl
    rw [flow.read overlaid (Pressure.activeInjections scene) fun _ => rfl]
    exact List.foldl_rel overlaid fun injection _ _ _ same =>
      flow.injectSource now scene.storageCaps injection same

end Pressure

section Transforms

variable {now : Nat}

/-- Landing outputs renews the freshness as well. -/
theorem respects (transform : Sl1Transform) (caps : PassCaps)
    (completed : ∀ {first second}, related first second →
      related (Transforms.completed transform now first) (Transforms.completed transform now second)) :
    Transforms.Respects related transform caps caps now where
  state same := flow.read same (·.transformState transform.id) fun _ => rfl
  inputs same := flow.read same (Transforms.inputsAvailable transform) fun _ => rfl
  headroom same := flow.read same (Transforms.capacityHeadroom transform caps) fun _ => rfl
  room same := flow.read same (Transforms.storageRoom transform caps) fun _ => rfl
  warned _ _ same := flow.warn _ same
  begun same := flow.perform _ _ same fun _ => rfl
  aborted same := flow.perform _ _ same fun _ => rfl
  completed := completed
  kept _ same := flow.modify same fun _ => rfl

theorem runTransforms (scene : Sl1Scene)
    (completed : ∀ transform {first second}, related first second →
      related (Transforms.completed transform now first) (Transforms.completed transform now second))
    (same : related first second) :
    related (Transforms.runTransforms scene now first) (Transforms.runTransforms scene now second) := by
  rw [Transforms.runTransforms_eq, Transforms.runTransforms_eq,
    flow.read same (·.transforms) fun _ => rfl]
  refine List.foldl_rel same fun id _ one two same => ?_
  unfold Transforms.visit
  split
  · exact (flow.respects _ scene.passCaps (completed _)).processOne same
  · exact same

end Transforms

section Demand

variable (demand : Sl1Demand) (now : Nat)

theorem spawnScheduled (same : related first second) :
    related (Demand.spawnScheduled demand now first) (Demand.spawnScheduled demand now second) := by
  unfold Demand.spawnScheduled
  rw [flow.read same (·.demandRuntime demand.id) fun _ => rfl, flow.read same (·.pressure) fun _ => rfl]
  simp only
  split
  · exact flow.modify same fun _ => rfl
  · split
    · exact flow.warn _ (flow.enqueue _ (flow.modify same fun _ => rfl))
    · exact flow.enqueue _ (flow.modify same fun _ => rfl)

theorem spawn (same : related first second) :
    related (Demand.spawn demand now first) (Demand.spawn demand now second) := by
  unfold Demand.spawn
  rw [flow.read same (·.agentDemandPauses) fun _ => rfl]
  split
  · exact flow.spawnScheduled demand now same
  · split
    · exact same
    · exact flow.spawnScheduled demand now (flow.modify same fun _ => rfl)

theorem drop (same : related first second) :
    related (Demand.drop demand now first) (Demand.drop demand now second) := by
  unfold Demand.drop
  simp only
  rw [flow.read same (·.demandRuntime demand.id) fun _ => rfl]
  exact List.foldl_rel (flow.modify same fun _ => rfl) fun one _ _ _ same => flow.warn _ same

theorem fulfill (same : related first second) :
    related (Demand.fulfill demand now first) (Demand.fulfill demand now second) := by
  unfold Demand.fulfill
  rw [flow.read same (Demand.demandRequirementsMet demand) fun _ => rfl,
    flow.read same (·.demandRuntime demand.id) fun _ => rfl]
  simp only
  split
  · exact same
  · split
    · exact same
    · exact flow.serve _ (flow.modify same fun _ => rfl)

theorem serveOne (same : related first second) :
    related (Demand.serve demand now first) (Demand.serve demand now second) := by
  unfold Demand.serve
  rw [flow.read same (·.demand.contains demand.id) fun _ => rfl]
  split
  · exact flow.modify (flow.fulfill demand now (flow.drop demand now (flow.spawn demand now same)))
      fun _ => rfl
  · exact same

theorem runDemand (scene : Sl1Scene) (same : related first second) :
    related (Demand.runDemand scene now first) (Demand.runDemand scene now second) :=
  List.foldl_rel same fun demand _ _ _ same => flow.serveOne demand now same

end Demand

/-- Two scenes that differ at most in their things and in what the later passes work on. -/
theorem runFlow {left right : Sl1Scene} (now : Nat) (places : left.places = right.places)
    (transforms : left.transforms = right.transforms) (demand : left.demand = right.demand)
    (pressure : left.pressure = right.pressure)
    (aged : ∀ {first second}, related first second → related
      (Transforms.ageFreshness left now first) (Transforms.ageFreshness right now second))
    (completed : ∀ transform {first second}, related first second →
      related (Transforms.completed transform now first) (Transforms.completed transform now second))
    (same : related first second) :
    related (Sl1.runFlow left now first) (Sl1.runFlow right now second) := by
  have pressed : Pressure.run right = Pressure.run left := by
    cases left
    cases right
    cases places
    cases pressure
    rfl
  have moved : Transforms.runTransforms right = Transforms.runTransforms left := by
    cases left
    cases right
    cases places
    cases transforms
    rfl
  have served : Demand.runDemand right = Demand.runDemand left := by
    cases left
    cases right
    cases demand
    rfl
  have aging := aged (flow.pressureRun left now same)
  rw [runFlow_eq, runFlow_eq, served, moveStock_eq, moveStock_eq, moved, pressed]
  exact flow.runDemand now left (flow.runTransforms left completed aging)

end FlowRelation

end Simetro.Sl1
