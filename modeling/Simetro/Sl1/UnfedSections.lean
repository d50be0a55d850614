import Simetro.Sl1.DemandThrottles
import Simetro.Sl1.Footprints

/-! A section of the runtime whose subject the scene does not declare stays as the load
left it: every pass either does not run, finds nothing to visit, or writes elsewhere. -/

namespace Simetro.Sl1

open Simetro.Library Simetro.Protocol

/-- Nothing in the scene can move a thing. -/
structure Sl1Scene.Thingless (scene : Sl1Scene) : Prop where
  transforms : scene.transforms = []
  sources : ∀ pressure ∈ scene.pressure, ∀ thing multiplierMilli,
    pressure.params ≠ .sourceMultiplier thing multiplierMilli

theorem validateTransform_declares {places : IdMap Sl1Place} {thingIds : IdSet}
    {raw : RawSl1Transform} {transform : Sl1Transform}
    (success : validateTransform places thingIds raw = .ok transform) : ∃ thing, thing ∈ thingIds := by
  simp only [validateTransform, bind_eq_ok, reject_eq_ok] at success
  obtain ⟨_, -, _, -, _, -, _, -, _, some', outputs, outputsRead, -⟩ := success
  cases declared : raw.outputs with
  | nil => simp [declared] at some'
  | cons output rest =>
    simp only [validateTransformIo, declared, validateIo, bind_eq_ok, reject_eq_ok] at outputsRead
    obtain ⟨_, ⟨_, known, -⟩, -⟩ := outputsRead
    exact ⟨output.thing, by simpa using known⟩

/-- Only a source names a thing, and a declared one. -/
theorem pressureParams_declares (scope : PressureScope) (kind : Sl1PressureKind)
    (raw : RawSl1Pressure) : Returns (pressureParams scope kind raw) fun params =>
      ∀ thing multiplierMilli, params = .sourceMultiplier thing multiplierMilli →
        thing ∈ scope.thingIds := by
  cases kind with
  | sourceMultiplier =>
    intro params read thing multiplierMilli source
    simp only [pressureParams, sourceMultiplierParams, bind_eq_ok, reject_eq_ok] at read
    obtain ⟨_, -, _, -, _, -, thing', -, _, known, _, -, _, -, _, -, _, -, _, -, same⟩ := read
    cases same
    cases source
    simpa using known
  | _ =>
    repeat first
      | exact Returns.pure (by simp)
      | (apply Returns.bind; intro _)

theorem validatePressure_declares {scope : PressureScope} {raw : RawSl1Pressure}
    {pressure : Sl1Pressure} {thing : String} {multiplierMilli : Nat}
    (success : validatePressure scope raw = .ok pressure)
    (source : pressure.params = .sourceMultiplier thing multiplierMilli) :
    thing ∈ scope.thingIds := by
  simp only [validatePressure, bind_eq_ok, reject_eq_ok] at success
  obtain ⟨_, -, _, -, _, -, _, -, _, -, kind, -, _, -, params, read, same⟩ := success
  cases same
  exact pressureParams_declares scope kind raw params read thing multiplierMilli source

theorem validate_thingless {raw : RawSl1Scene} {scene : Sl1Scene}
    (success : validate raw = .ok scene) (none : scene.things.isEmpty) : scene.Thingless := by
  simp only [validate, bind_eq_ok] at success
  obtain ⟨_, -, things, -, places, -, links, -, transforms, transformsRead, demand, -, pressure,
    pressureRead, _, -, _, -, _, -, _, -, _, -, _, -, same⟩ := success
  cases same
  have empty : things = [] := List.isEmpty_iff.mp none
  subst empty
  constructor
  · rw [List.eq_nil_iff_forall_not_mem]
    intro transform member
    obtain ⟨source, -, read⟩ := (catalog_sound transformsRead).readFrom member
    obtain ⟨thing, known⟩ := validateTransform_declares read
    simp [idSet] at known
  · intro pressure member thing multiplierMilli source
    obtain ⟨raw, -, read⟩ := (catalog_sound pressureRead).readFrom member
    have known := validatePressure_declares read source
    simp [idSet] at known

/-- The sections no hash shows, for want of a declaration, hold what the load put there. -/
structure Dormant (scene : Sl1Scene) (runtime : Sl1RuntimeState) : Prop where
  inventories : scene.things.isEmpty →
    runtime.inventories = (Sl1RuntimeState.fromScene scene).inventories
  freshness : scene.things.isEmpty →
    runtime.freshness = (Sl1RuntimeState.fromScene scene).freshness
  transforms : scene.transforms.isEmpty → runtime.transforms = ∅
  placeCapacityUsed : scene.transforms.isEmpty →
    runtime.placeCapacityUsed = (Sl1RuntimeState.fromScene scene).placeCapacityUsed
  pendingOutputs : scene.transforms.isEmpty → runtime.pendingOutputs = ∅
  demand : scene.demand.isEmpty → runtime.demand = ∅
  objectives : scene.objectives.isEmpty → runtime.objectives = ∅
  warned : scene.objectives.isEmpty → runtime.unsupportedObjectivesWarned = ∅
  failureConditions : scene.failureConditions.isEmpty → runtime.failureConditions = ∅
  victoryConditions : scene.victoryConditions.isEmpty → runtime.victoryConditions = ∅
  outcome : scene.objectives.isEmpty → scene.failureConditions.isEmpty →
    scene.victoryConditions.isEmpty → runtime.gameOutcome = .inProgress
  phase : scene.objectives.isEmpty → scene.failureConditions.isEmpty →
    scene.victoryConditions.isEmpty → runtime.gamePhase = .stabilizing
  metrics : ((scene.observability.map (·.metrics)).getD []).isEmpty → runtime.metricStates = ∅
  dashboards : ((scene.observability.map (·.dashboards)).getD []).isEmpty →
    runtime.dashboardStates = ∅
  alerts : ((scene.observability.map (·.alerts)).getD []).isEmpty → runtime.alertStates = ∅
  agents : scene.agents.isEmpty → runtime.agents = ∅
  pauses : scene.agents.isEmpty → runtime.agentDemandPauses = ∅
  milestones : scene.milestones.isEmpty → runtime.milestones = ∅

theorem table_of_isEmpty {Entry Value : Type} {entries : List Entry} {key : Entry → String}
    {value : Entry → Value} (empty : entries.isEmpty) :
    table entries key value = (∅ : IdMap Value) := by
  rw [List.isEmpty_iff.mp empty]
  rfl

/-- Without sources the pressure pass moves no stock. -/
theorem Pressure.run_inventories {scene : Sl1Scene} (now : Nat) (frame : Frame)
    (sourceless : ∀ pressure ∈ scene.pressure, ∀ thing multiplierMilli,
      pressure.params ≠ .sourceMultiplier thing multiplierMilli) :
    (run scene now frame).runtime.inventories = frame.runtime.inventories := by
  have still : (overlaid scene now frame).runtime.inventories = frame.runtime.inventories :=
    congrArg Flow.inventories (Frame.flow_of_core (overlaid_core scene now frame))
  have none (runtime : Sl1RuntimeState) : activeInjections scene runtime = [] := by
    refine List.filterMap_eq_nil_iff.mpr fun pressure member => ?_
    have source := sourceless pressure (List.mem_of_mem_filter member)
    cases params : pressure.params with
    | sourceMultiplier thing multiplierMilli => exact absurd params (source thing multiplierMilli)
    | _ => rfl
  rw [run_eq]
  split
  · rfl
  · rw [applySourceInjection, none]
    exact still

/-- The demand pass pauses nothing. -/
theorem Demand.runDemand_unpaused (scene : Sl1Scene) (now : Nat) {frame : Frame}
    (unpaused : frame.runtime.agentDemandPauses = ∅) :
    (runDemand scene now frame).runtime.agentDemandPauses = ∅ := by
  refine List.foldlRecOn (motive := fun frame : Frame => frame.runtime.agentDemandPauses = ∅) _ _
    unpaused fun frame unpaused demand _ => ?_
  have spawned : (spawn demand now frame).runtime.agentDemandPauses = frame.runtime.agentDemandPauses := by
    have absent : frame.runtime.agentDemandPauses[demand.id]? = none := by simp [unpaused]
    unfold spawn
    rw [absent]
    exact spawnScheduled_keeps frame (pauses_kept demand now)
  unfold serve
  split
  · exact (settle_keeps _ (pauses_kept demand now)).trans (spawned.trans unpaused)
  · exact unpaused

namespace Dormant

variable {scene : Sl1Scene} {frame : Frame} {now : Nat}

theorem load (scene : Sl1Scene) : Dormant scene (.fromScene scene) := by
  constructor
  case inventories => exact fun _ => rfl
  case freshness => exact fun _ => rfl
  case placeCapacityUsed => exact fun _ => rfl
  case pendingOutputs => exact fun _ => rfl
  case warned => exact fun _ => rfl
  case outcome => exact fun _ _ _ => rfl
  case phase => exact fun _ _ _ => rfl
  case pauses => exact fun _ => rfl
  all_goals exact table_of_isEmpty

section Passes

theorem pressureRun (dormant : Dormant scene frame.runtime)
    (thingless : scene.things.isEmpty → scene.Thingless) :
    Dormant scene (Pressure.run scene now frame).runtime := by
  obtain ⟨pressure, inventories, same⟩ := Pressure.run_writes scene now frame
  have stock (empty : scene.things.isEmpty) : inventories = frame.runtime.inventories := by
    have sourceless := Pressure.run_inventories now frame (thingless empty).sources
    rwa [same] at sourceless
  rw [same]
  exact { dormant with inventories := fun empty => (stock empty).trans (dormant.inventories empty) }

theorem ageFreshness (dormant : Dormant scene frame.runtime) :
    Dormant scene (Transforms.ageFreshness scene now frame).runtime := by
  refine { dormant with freshness := fun empty => ?_ }
  rw [← dormant.freshness empty]
  have ageless : Transforms.thingBudgets scene = ∅ := table_of_isEmpty empty
  apply Std.ExtTreeMap.ext_getElem?
  intro key
  simp only [Transforms.ageFreshness, Frame.modify_runtime, Std.ExtTreeMap.getElem?_map, ageless]
  cases frame.runtime.freshness[key]? with
  | none => rfl
  | some state => cases state <;> rfl

theorem runTransforms (dormant : Dormant scene frame.runtime)
    (thingless : scene.things.isEmpty → scene.Thingless) (some' : ¬ scene.transforms.isEmpty) :
    Dormant scene (Transforms.runTransforms scene now frame).runtime := by
  obtain ⟨inventories, freshness, transforms, placeCapacityUsed, pendingOutputs, same⟩ :=
    Transforms.runTransforms_writes scene now frame
  have things : ¬ scene.things.isEmpty := fun empty =>
    some' (List.isEmpty_iff.mpr (thingless empty).transforms)
  rw [same]
  exact { dormant with
    inventories := fun empty => absurd empty things
    freshness := fun empty => absurd empty things
    transforms := fun empty => absurd empty some'
    placeCapacityUsed := fun empty => absurd empty some'
    pendingOutputs := fun empty => absurd empty some' }

theorem runDemand (dormant : Dormant scene frame.runtime) (some' : ¬ scene.demand.isEmpty) :
    Dormant scene (Demand.runDemand scene now frame).runtime := by
  obtain ⟨queues, pauses, same⟩ := Demand.runDemand_writes now frame scene
  have unpaused (empty : scene.agents.isEmpty) : pauses = ∅ := by
    have kept := Demand.runDemand_unpaused scene now (dormant.pauses empty)
    rwa [same] at kept
  rw [same]
  exact { dormant with demand := fun empty => absurd empty some', pauses := unpaused }

theorem runFlow (dormant : Dormant scene frame.runtime)
    (thingless : scene.things.isEmpty → scene.Thingless) :
    Dormant scene (runFlow scene now frame).runtime := by
  have pressed : Dormant scene (Pressure.run scene now frame).runtime := dormant.pressureRun thingless
  have aged : Dormant scene
      (Transforms.ageFreshness scene now (Pressure.run scene now frame)).runtime :=
    pressed.ageFreshness
  have moved : Dormant scene (moveStock scene now frame).runtime := by
    unfold moveStock
    simp only
    split
    · exact aged
    · rename_i some'
      exact aged.runTransforms thingless some'
  change Dormant scene (if scene.demand.isEmpty then moveStock scene now frame
    else Demand.runDemand scene now (moveStock scene now frame)).runtime
  split
  · exact moved
  · rename_i some'
    exact moved.runDemand some'

theorem evaluateObjectives (dormant : Dormant scene frame.runtime) :
    Dormant scene (Objectives.evaluateObjectives scene now frame).runtime := by
  by_cases empty : scene.objectives.isEmpty
  · rw [Objectives.evaluateObjectives, List.isEmpty_iff.mp empty]
    exact dormant
  · obtain ⟨objectives, warned, same⟩ := Objectives.evaluateObjectives_writes scene now frame
    rw [same]
    exact { dormant with
      objectives := fun none => absurd none empty
      warned := fun none => absurd none empty }

theorem evaluateFailureConditions (dormant : Dormant scene frame.runtime) :
    Dormant scene (Objectives.evaluateFailureConditions scene now frame).runtime := by
  by_cases empty : scene.failureConditions.isEmpty
  · rw [Objectives.evaluateFailureConditions, List.isEmpty_iff.mp empty]
    exact dormant
  · obtain ⟨failureConditions, same⟩ :=
      Objectives.evaluateFailureConditions_writes scene now frame
    rw [same]
    exact { dormant with failureConditions := fun none => absurd none empty }

theorem evaluateVictoryConditions (dormant : Dormant scene frame.runtime) :
    Dormant scene (Objectives.evaluateVictoryConditions scene now frame).runtime := by
  by_cases empty : scene.victoryConditions.isEmpty
  · rw [Objectives.evaluateVictoryConditions, List.isEmpty_iff.mp empty]
    exact dormant
  · obtain ⟨victoryConditions, same⟩ :=
      Objectives.evaluateVictoryConditions_writes scene now frame
    rw [same]
    exact { dormant with victoryConditions := fun none => absurd none empty }

/-- With nothing to win or lose the game goes on. -/
theorem recomputeOutcome (dormant : Dormant scene frame.runtime) :
    Dormant scene (Objectives.recomputeOutcome scene now frame).runtime := by
  rw [Objectives.recomputeOutcome_writes]
  refine { dormant with outcome := fun _ failures victories => ?_ }
  simp [Objectives.outcomeOf, List.isEmpty_iff.mp failures, List.isEmpty_iff.mp victories]

theorem computePhase (dormant : Dormant scene frame.runtime) :
    Dormant scene (frame.modify fun runtime =>
      { runtime with gamePhase := Objectives.computePhase scene runtime }).runtime := by
  refine { dormant with phase := fun objectives failures victories => ?_ }
  have outcome := dormant.outcome objectives failures victories
  have valueless (Value : Type) : (∅ : IdMap Value).values = [] := rfl
  simp [Objectives.computePhase, outcome, valueless, dormant.objectives objectives,
    dormant.failureConditions failures, List.isEmpty_iff.mp objectives]

theorem objectivesRun (dormant : Dormant scene frame.runtime) :
    Dormant scene (Objectives.run scene now frame).runtime := by
  unfold Objectives.run
  split
  · exact dormant
  · exact dormant.evaluateObjectives.evaluateFailureConditions.evaluateVictoryConditions
      |>.recomputeOutcome.computePhase

section Observers

variable {observability : Sl1Observability} (declared : scene.observability = some observability)
include declared

theorem updateDashboards (dormant : Dormant scene frame.runtime) : Dormant scene
    (observability.dashboards.foldl (Observability.updateDashboard now) frame).runtime := by
  by_cases empty : observability.dashboards.isEmpty
  · rw [List.isEmpty_iff.mp empty]
    exact dormant
  · obtain ⟨dashboardStates, same⟩ :=
      Observability.updateDashboards_writes now frame observability.dashboards
    rw [same]
    exact { dormant with dashboards := fun none => absurd (by simpa [declared] using none) empty }

theorem updateMetrics (dormant : Dormant scene frame.runtime) : Dormant scene
    (observability.metrics.foldl (Observability.updateMetric scene now) frame).runtime := by
  by_cases empty : observability.metrics.isEmpty
  · rw [List.isEmpty_iff.mp empty]
    exact dormant
  · obtain ⟨metricStates, same⟩ :=
      Observability.updateMetrics_writes scene now frame observability.metrics
    rw [same]
    exact { dormant with metrics := fun none => absurd (by simpa [declared] using none) empty }

theorem updateAlerts (dormant : Dormant scene frame.runtime) : Dormant scene
    (observability.alerts.foldl (Observability.updateAlert now) frame).runtime := by
  by_cases empty : observability.alerts.isEmpty
  · rw [List.isEmpty_iff.mp empty]
    exact dormant
  · obtain ⟨alertStates, same⟩ := Observability.updateAlerts_writes now frame observability.alerts
    rw [same]
    exact { dormant with alerts := fun none => absurd (by simpa [declared] using none) empty }

end Observers

theorem observabilityRun (dormant : Dormant scene frame.runtime) :
    Dormant scene (Observability.run scene now frame).runtime := by
  unfold Observability.run
  split
  · exact dormant
  · rename_i observability declared
    exact (dormant.updateDashboards declared).updateMetrics declared |>.updateAlerts declared

theorem agentsRun (dormant : Dormant scene frame.runtime) (backend : AgentBackend)
    (some' : ¬ scene.agents.isEmpty) :
    Dormant scene (Agents.run scene now backend frame).runtime := by
  obtain ⟨agents, pauses, same⟩ := Agents.run_writes scene now backend frame
  rw [same]
  exact { dormant with
    agents := fun none => absurd none some'
    pauses := fun none => absurd none some' }

theorem milestonesRun (dormant : Dormant scene frame.runtime)
    (some' : ¬ scene.milestones.isEmpty) :
    Dormant scene (Milestones.run scene now frame).runtime := by
  obtain ⟨milestones, same⟩ := Milestones.run_writes scene now frame
  rw [same]
  exact { dormant with milestones := fun none => absurd none some' }

/-- A tick leaves the unfed sections alone. -/
theorem run (dormant : Dormant scene frame.runtime)
    (thingless : scene.things.isEmpty → scene.Thingless) (backend : AgentBackend) :
    Dormant scene (run scene backend now frame).runtime := by
  have moved : Dormant scene (Sl1.runFlow scene now frame).runtime := dormant.runFlow thingless
  have judged : Dormant scene (Objectives.run scene now (Sl1.runFlow scene now frame)).runtime :=
    moved.objectivesRun
  have observed : Dormant scene (Observability.run scene now
      (Objectives.run scene now (Sl1.runFlow scene now frame))).runtime := judged.observabilityRun
  have decided : Dormant scene (if scene.agents.isEmpty then
      Observability.run scene now (Objectives.run scene now (Sl1.runFlow scene now frame))
    else Agents.run scene now backend
      (Observability.run scene now (Objectives.run scene now (Sl1.runFlow scene now frame)))).runtime := by
    split
    · exact observed
    · rename_i some'
      exact observed.agentsRun backend some'
  unfold Sl1.run runObservers
  simp only
  split
  · exact decided
  · rename_i some'
    exact decided.milestonesRun some'

end Passes

/-- So does every run. -/
theorem ticks (thingless : scene.things.isEmpty → scene.Thingless) (backend : AgentBackend)
    (count : Nat) : Dormant scene (ticks scene backend count).runtime := by
  induction count with
  | zero => exact load scene
  | succ count ih => exact ih.run thingless backend

end Dormant

end Simetro.Sl1
