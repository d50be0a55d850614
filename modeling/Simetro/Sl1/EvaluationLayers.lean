import Simetro.Sl1.FlowRelations

/-! The evaluation layers never feed back: what the simulation layers do next depends
on their own state alone. -/

namespace Simetro.Sl1

open Simetro.Library Simetro.Protocol

/-- The runtime without what the evaluation layers and the agents keep. -/
def Sl1RuntimeState.simulation (runtime : Sl1RuntimeState) : Sl1RuntimeState :=
  { runtime with
    objectives := ∅
    failureConditions := ∅
    victoryConditions := ∅
    gameOutcome := .inProgress
    gamePhase := .stabilizing
    unsupportedObjectivesWarned := ∅
    metricStates := ∅
    dashboardStates := ∅
    alertStates := ∅
    agents := ∅
    milestones := ∅ }

/-- The simulation layers cannot tell the frames apart, nor their part of the transcript. -/
structure Frame.Alike (first second : Frame) : Prop where
  runtime : first.runtime.simulation = second.runtime.simulation
  pressureEvents : first.events.filter SimEvent.isPressure =
    second.events.filter SimEvent.isPressure
  transformWarnings : first.messages.filter SimMessage.isTransform =
    second.messages.filter SimMessage.isTransform
  demandWarnings : first.messages.filter SimMessage.isDemand =
    second.messages.filter SimMessage.isDemand
  pressureWarnings : first.messages.filter SimMessage.isPressure =
    second.messages.filter SimMessage.isPressure

namespace Frame.Alike

variable {first second third : Frame}

theorem symm (same : first.Alike second) : second.Alike first :=
  ⟨same.runtime.symm, same.pressureEvents.symm, same.transformWarnings.symm,
    same.demandWarnings.symm, same.pressureWarnings.symm⟩

theorem trans (same : first.Alike second) (also : second.Alike third) : first.Alike third :=
  ⟨same.runtime.trans also.runtime, same.pressureEvents.trans also.pressureEvents,
    same.transformWarnings.trans also.transformWarnings,
    same.demandWarnings.trans also.demandWarnings,
    same.pressureWarnings.trans also.pressureWarnings⟩

/-- A read that looks at the simulation's state only. -/
theorem read {Value : Type} (same : first.Alike second) (look : Sl1RuntimeState → Value)
    (only : ∀ runtime, look runtime = look runtime.simulation) :
    look first.runtime = look second.runtime := by
  rw [only first.runtime, same.runtime, ← only]

theorem modify (same : first.Alike second) (change : Sl1RuntimeState → Sl1RuntimeState)
    (only : ∀ runtime, (change runtime).simulation = (change runtime.simulation).simulation) :
    (first.modify change).Alike (second.modify change) :=
  { same with runtime := same.read (fun runtime => (change runtime).simulation) only }

theorem perform (same : first.Alike second) (tick : Nat) (op : LedgerOp)
    (change : Sl1RuntimeState → Sl1RuntimeState)
    (only : ∀ runtime, (change runtime).simulation = (change runtime.simulation).simulation) :
    (first.perform tick op change).Alike (second.perform tick op change) :=
  { same with runtime := same.read (fun runtime => (change runtime).simulation) only }

/-- What a local change makes of the simulation. -/
private theorem local_simulation {change : Sl1RuntimeState → Sl1RuntimeState}
    (only : Sl1RuntimeState.Local change) (runtime : Sl1RuntimeState) :
    (change runtime).simulation = (change runtime.simulation).simulation := by
  rw [only runtime, only runtime.simulation]
  rfl

/-- The passes before the objectives keep frames alike. -/
theorem flowRelation : FlowRelation Frame.Alike where
  stores same := same.read (·.stores) fun _ => rfl
  modify same only := same.modify _ (local_simulation only)
  perform tick op same only := same.perform tick op _ (local_simulation only)
  emit event same := { same with
    pressureEvents := by
      rw [Frame.emit_events, Frame.emit_events, List.filter_append, List.filter_append,
        same.pressureEvents] }
  warn payload same := {
    runtime := same.runtime
    pressureEvents := same.pressureEvents
    transformWarnings := by
      rw [Frame.warn_messages, Frame.warn_messages, List.filter_append, List.filter_append,
        same.transformWarnings]
    demandWarnings := by
      rw [Frame.warn_messages, Frame.warn_messages, List.filter_append, List.filter_append,
        same.demandWarnings]
    pressureWarnings := by
      rw [Frame.warn_messages, Frame.warn_messages, List.filter_append, List.filter_append,
        same.pressureWarnings] }
  enqueue _ same := { same with }
  serve _ same := { same with }

end Frame.Alike

theorem runFlow_alike (scene : Sl1Scene) (now : Nat) {first second : Frame}
    (same : first.Alike second) : (runFlow scene now first).Alike (runFlow scene now second) := by
  have aged {one two : Frame} (same : one.Alike two) :
      (Transforms.ageFreshness scene now one).Alike (Transforms.ageFreshness scene now two) :=
    same.modify (fun runtime => { runtime with
      freshness := runtime.freshness.map fun key state =>
        Transforms.ageEntry ((Transforms.thingBudgets scene).getD key.2 none) now state })
      fun _ => rfl
  exact Frame.Alike.flowRelation.runFlow now rfl rfl rfl rfl aged
    (fun _ _ _ same => same.perform _ _ _ fun _ => rfl) same

section Observers

variable {first second : Frame}

theorem Frame.Alike.of_views (flow : first.flow = second.flow) (queues : first.queues = second.queues)
    (overlays : first.overlays = second.overlays)
    (freshness : first.runtime.freshness = second.runtime.freshness)
    (pauses : first.throttles.pauses = second.throttles.pauses) : first.Alike second where
  runtime := by
    have inventories : first.runtime.inventories = _ := congrArg Flow.inventories flow
    have used : first.runtime.placeCapacityUsed = _ := congrArg Flow.placeCapacityUsed flow
    have pending : first.runtime.pendingOutputs = _ := congrArg Flow.pendingOutputs flow
    have transforms : first.runtime.transforms = _ := congrArg Flow.transforms flow
    have demand : first.runtime.demand = _ := congrArg Queues.demand queues
    have pressure : first.runtime.pressure = _ := congrArg Overlays.pressure overlays
    have paused : first.runtime.agentDemandPauses = _ := pauses
    simp only [Sl1RuntimeState.simulation, inventories, used, pending, transforms, demand, pressure,
      paused, freshness]
    rfl
  pressureEvents := congrArg Overlays.events overlays
  transformWarnings := congrArg Flow.warnings flow
  demandWarnings := congrArg Queues.warnings queues
  pressureWarnings := congrArg Overlays.warnings overlays

variable {backend : AgentBackend} (quiet : ∀ agent tick, backend agent tick = none)
include quiet

theorem Agents.run_throttles_quiet (scene : Sl1Scene) (now : Nat) (frame : Frame) :
    (Agents.run scene now backend frame).throttles = frame.throttles := by
  refine foldl_keeps Frame.throttles (fun frame agent _ => ?_) frame
  rcases decideOne_throttles scene now backend frame agent with same | ⟨_, _, decided, _⟩
  · exact same
  · rw [quiet] at decided
    cases decided

/-- With quiet agents the layers after the demand leave the simulation as it is. -/
theorem run_alike_runFlow (scene : Sl1Scene) (now : Nat) (frame : Frame) :
    (run scene backend now frame).Alike (runFlow scene now frame) := by
  have core := runObservers_core scene backend now (Objectives.run scene now (runFlow scene now frame))
  have ambient := Objectives.run_ambient scene now (runFlow scene now frame)
  refine .of_views ?_ ?_ ?_ ?_ ?_
  · exact (Frame.flow_of_core core).trans (Objectives.run_flow scene now _)
  · exact (Frame.queues_of_core core).trans (Objectives.run_queues scene now _)
  · exact (runObservers_overlays scene backend now _).trans (Frame.overlays_of_ambient ambient)
  · exact (runObservers_freshness scene backend now _).trans (Frame.freshness_of_ambient ambient)
  · obtain ⟨calm, before, after⟩ := run_throttles scene backend now frame
    rw [after, Agents.run_throttles_quiet quiet, before, runFlow_eq]

end Observers

/-- Two scenes that differ at most in objectives, failure and victory conditions,
observability and milestones. -/
structure Sl1Scene.SameSimulation (scene other : Sl1Scene) : Prop where
  schemaVersion : scene.schemaVersion = other.schemaVersion
  places : scene.places = other.places
  links : scene.links = other.links
  things : scene.things = other.things
  transforms : scene.transforms = other.transforms
  demand : scene.demand = other.demand
  pressure : scene.pressure = other.pressure
  agents : scene.agents = other.agents

namespace Sl1Scene.SameSimulation

variable {scene other : Sl1Scene} (shared : scene.SameSimulation other)
include shared

theorem runFlow_eq (now : Nat) (frame : Frame) :
    runFlow scene now frame = runFlow other now frame := by
  obtain ⟨_, places, _, things, transforms, demand, pressure, _⟩ := shared
  cases scene
  cases other
  cases places
  cases things
  cases transforms
  cases demand
  cases pressure
  rfl

theorem load_alike : (Frame.load scene).Alike (.load other) where
  runtime := by
    obtain ⟨_, places, _, _, transforms, demand, _, _⟩ := shared
    simp only [Frame.load, Sl1RuntimeState.fromScene, Sl1RuntimeState.simulation, places, transforms,
      demand]
  pressureEvents := rfl
  transformWarnings := rfl
  demandWarnings := rfl
  pressureWarnings := rfl

theorem ticks_alike {backend : AgentBackend} (quiet : ∀ agent tick, backend agent tick = none)
    (count : Nat) : (ticks scene backend count).Alike (ticks other backend count) := by
  induction count with
  | zero => exact shared.load_alike
  | succ count ih =>
    have here := run_alike_runFlow quiet scene (worldTick (count + 1)) (ticks scene backend count)
    have there := run_alike_runFlow quiet other (worldTick (count + 1)) (ticks other backend count)
    have flows := runFlow_alike scene (worldTick (count + 1)) ih
    rw [shared.runFlow_eq _ (ticks other backend count)] at flows
    exact here.trans (flows.trans there.symm)

end Sl1Scene.SameSimulation

/-- Scenes with one simulation and different evaluation layers run alike, tick for tick,
whichever of them is won or lost on the way. -/
theorem evaluation_never_feeds_back {scene other : Sl1Scene}
    (shared : scene.SameSimulation other) {backend : AgentBackend}
    (quiet : ∀ agent tick, backend agent tick = none) (count : Nat) :
    let first := ticks scene backend count
    let second := ticks other backend count
    first.runtime.inventories = second.runtime.inventories ∧
    first.runtime.placeCapacityUsed = second.runtime.placeCapacityUsed ∧
    first.runtime.pendingOutputs = second.runtime.pendingOutputs ∧
    first.runtime.transforms = second.runtime.transforms ∧
    first.runtime.demand = second.runtime.demand ∧
    first.runtime.pressure = second.runtime.pressure ∧
    first.runtime.freshness = second.runtime.freshness ∧
    first.messages.filter SimMessage.isTransform = second.messages.filter SimMessage.isTransform ∧
    first.messages.filter SimMessage.isDemand = second.messages.filter SimMessage.isDemand ∧
    first.messages.filter SimMessage.isPressure = second.messages.filter SimMessage.isPressure ∧
    first.events.filter SimEvent.isPressure = second.events.filter SimEvent.isPressure := by
  have same := shared.ticks_alike quiet count
  exact ⟨same.read (·.inventories) fun _ => rfl, same.read (·.placeCapacityUsed) fun _ => rfl,
    same.read (·.pendingOutputs) fun _ => rfl, same.read (·.transforms) fun _ => rfl,
    same.read (·.demand) fun _ => rfl, same.read (·.pressure) fun _ => rfl,
    same.read (·.freshness) fun _ => rfl, same.transformWarnings, same.demandWarnings,
    same.pressureWarnings, same.pressureEvents⟩

/-- With a goal that is met on tick 3 the game is won and the shop runs on as without. -/
theorem evaluation_never_feeds_back_lapsing : ∃ scene, validate lapsingScene = .ok scene ∧
    let other := { scene with victoryConditions := [⟨"held", .surviveUntil, .surviveUntil 3⟩] }
    (ticks scene defaultBackend 7).runtime.gameOutcome = .inProgress ∧
      (ticks other defaultBackend 7).runtime.gameOutcome = .won ∧
      (ticks scene defaultBackend 7).runtime.demand = (ticks other defaultBackend 7).runtime.demand := by
  have evaluated : yields (validate lapsingScene) (fun scene =>
      let other := { scene with victoryConditions := [⟨"held", .surviveUntil, .surviveUntil 3⟩] }
      decide ((ticks scene defaultBackend 7).runtime.gameOutcome = .inProgress ∧
        (ticks other defaultBackend 7).runtime.gameOutcome = .won)) = true := by
    decide +kernel
  obtain ⟨scene, accepted, outcomes⟩ := yields_iff.mp evaluated
  obtain ⟨open', won⟩ := of_decide_eq_true outcomes
  refine ⟨scene, accepted, open', won, ?_⟩
  have shared : scene.SameSimulation
      { scene with victoryConditions := [⟨"held", .surviveUntil, .surviveUntil 3⟩] } :=
    ⟨rfl, rfl, rfl, rfl, rfl, rfl, rfl, rfl⟩
  have quiet : ∀ agent tick, defaultBackend agent tick = none := fun _ _ => rfl
  obtain ⟨-, -, -, -, demand, -⟩ := evaluation_never_feeds_back shared quiet 7
  exact demand

end Simetro.Sl1
