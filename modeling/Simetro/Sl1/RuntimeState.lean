import Simetro.Library.Saturating
import Simetro.Library.Table
import Simetro.Sl1.Scene

/-! Mutable per-scene state of the SL1 runtime and its initial value. -/

namespace Simetro.Sl1

inductive FreshnessState where
  | noData
  | ok (lastSetTick : Nat)
  | stale (lastSetTick : Nat)
  | degraded
  | invalid
  deriving DecidableEq

inductive Sl1TransformState where
  | idle
  | running (scheduledAt startedAt attempt : Nat)
  | starved (scheduledAt since attempts : Nat)
  | blocked (scheduledAt since attempts : Nat)
  | late (scheduledAt attempt since : Nat)
  deriving DecidableEq

def Sl1TransformState.isRunning : Sl1TransformState → Bool
  | .running _ _ _ => true
  | _ => false

structure Sl1DemandInstance where
  sequence : Nat
  spawnedAt : Nat
  deadlineTick : Nat
  deriving DecidableEq

structure Sl1DemandRuntime where
  nextSequence : Nat := 0
  pending : List Sl1DemandInstance := []
  fulfilledCount : Nat := 0
  droppedCount : Nat := 0
  scriptedCursor : Nat := 0
  overflow : Bool := false
  deriving DecidableEq

structure Sl1PressureRuntime where
  active : IdMap Nat := ∅
  demandSpawnMultiplier : IdMap Nat := ∅
  quotaReduction : PairMap Nat := ∅
  outagedLinks : IdSet := ∅
  sourceInjectCarryMilli : TripleMap Nat := ∅
  unsupportedWarned : IdSet := ∅

inductive GameOutcome where
  | inProgress
  | won
  | lost (reason : String)
  deriving DecidableEq

def GameOutcome.isTerminal : GameOutcome → Bool
  | .won | .lost _ => true
  | .inProgress => false

def GameOutcome.variantStr : GameOutcome → String
  | .inProgress => "in_progress"
  | .won => "won"
  | .lost _ => "lost"

inductive Sl1ObjectiveStatus where
  | unknown
  | met
  | breached
  | unsupported
  deriving DecidableEq

structure Sl1ObjectiveRuntime where
  status : Sl1ObjectiveStatus := .unknown
  breachTickCount : Nat := 0
  lastChangeTick : Nat := 0
  deriving DecidableEq

structure Sl1FailureConditionRuntime where
  breachStreakTicks : Nat := 0
  firedAtTick : Option Nat := none
  deriving DecidableEq

structure Sl1VictoryConditionRuntime where
  metAtTick : Option Nat := none
  deriving DecidableEq

inductive Sl1GamePhase where
  | stabilizing
  | winning
  | losing
  | spiraling
  | won
  | lost
  deriving DecidableEq

inductive Sl1MetricState where
  | ok (value : Nat)
  | noData
  deriving DecidableEq

inductive Sl1DashboardState where
  | ok
  | stale (freshnessTicks : Nat)
  | noData
  deriving DecidableEq

inductive Sl1AlertState where
  | inactive
  | firing (firedAtTick : Nat)
  deriving DecidableEq

structure Sl1AgentRuntimeState where
  lastDecisionTick : Option Nat := none
  cooldownUntilTick : Option Nat := none
  llmDisabledEmitted : Bool := false
  deriving DecidableEq

structure Sl1MilestoneRuntime where
  firedAtTick : Option Nat
  armed : Bool
  deriving DecidableEq

structure Sl1RuntimeState where
  inventories : IdMap (IdMap Nat)
  freshness : PairMap FreshnessState
  transforms : IdMap Sl1TransformState
  placeCapacityUsed : IdMap (IdMap Nat)
  pendingOutputs : PairMap Nat
  demand : IdMap Sl1DemandRuntime
  pressure : Sl1PressureRuntime
  objectives : IdMap Sl1ObjectiveRuntime
  failureConditions : IdMap Sl1FailureConditionRuntime
  victoryConditions : IdMap Sl1VictoryConditionRuntime
  gameOutcome : GameOutcome
  gamePhase : Sl1GamePhase
  unsupportedObjectivesWarned : IdSet
  metricStates : IdMap Sl1MetricState
  dashboardStates : IdMap Sl1DashboardState
  alertStates : IdMap Sl1AlertState
  agents : IdMap Sl1AgentRuntimeState
  agentDemandPauses : IdMap Nat
  milestones : IdMap Sl1MilestoneRuntime

namespace Sl1RuntimeState

open Simetro.Library

/-- Units of `thing` held at `place`; an absent slot holds none. -/
def stock (runtime : Sl1RuntimeState) (place thing : String) : Nat :=
  (runtime.inventories.getD place ∅).getD thing 0

/-- Units of `bucket` claimed at `place`. -/
def used (runtime : Sl1RuntimeState) (place bucket : String) : Nat :=
  (runtime.placeCapacityUsed.getD place ∅).getD bucket 0

/-- Output room promised to running transforms. -/
def reserved (runtime : Sl1RuntimeState) (place thing : String) : Nat :=
  runtime.pendingOutputs.getD (place, thing) 0

def transformState (runtime : Sl1RuntimeState) (id : String) : Sl1TransformState :=
  runtime.transforms.getD id .idle

def placeSlots (place : Sl1Place) : IdMap Nat :=
  place.storage.map fun _ slot => slot.initial

def freshnessAtLoad (place : Sl1Place) (entries : PairMap FreshnessState) :
    PairMap FreshnessState :=
  place.storage.toList.foldl (fun entries (thing, slot) =>
    entries.insert (place.id, thing)
      (if slot.initial > 0 then .ok 0 else .noData)) entries

def armedAtLoad : Sl1MilestoneTrigger → Bool
  | .pressureDeactivated _ => false
  | _ => true

/-- `Sl1RuntimeState::from_scene`. -/
def fromScene (scene : Sl1Scene) : Sl1RuntimeState where
  inventories := table (scene.places.filter fun place => !place.storage.isEmpty) (·.id) placeSlots
  freshness := scene.places.foldl (fun entries place => freshnessAtLoad place entries) ∅
  transforms := table scene.transforms (·.id) fun _ => .idle
  placeCapacityUsed := table (scene.places.filter fun place => !place.capacity.isEmpty) (·.id)
    fun place => place.capacity.map fun _ _ => 0
  pendingOutputs := ∅
  demand := table scene.demand (·.id) fun _ => {}
  pressure := {}
  objectives := table scene.objectives (·.id) fun _ => {}
  failureConditions := table scene.failureConditions (·.id) fun _ => {}
  victoryConditions := table scene.victoryConditions (·.id) fun _ => {}
  gameOutcome := .inProgress
  gamePhase := .stabilizing
  unsupportedObjectivesWarned := ∅
  metricStates := table ((scene.observability.map (·.metrics)).getD []) (·.id) fun _ => .noData
  dashboardStates :=
    table ((scene.observability.map (·.dashboards)).getD []) (·.id) fun _ => .noData
  alertStates := table ((scene.observability.map (·.alerts)).getD []) (·.id) fun _ => .inactive
  agents := table scene.agents (·.id) fun _ => {}
  agentDemandPauses := ∅
  milestones := table scene.milestones (·.id) fun milestone =>
    { firedAtTick := none, armed := armedAtLoad milestone.trigger }

end Sl1RuntimeState

end Simetro.Sl1
