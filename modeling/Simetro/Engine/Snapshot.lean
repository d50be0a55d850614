import Simetro.Engine.MoverWalks
import Simetro.Sl1.StateHash

/-! The periodic snapshot of a world, encoded into a buffer that is used again and again, and
what its rows of movers tell. -/

namespace Simetro.Engine

open Simetro.Library Simetro.Protocol Simetro.Sl1

/-- A mover on the wire. -/
structure WireMover where
  id : Nat
  pos : Float32 × Float32
  speed : Float32
  onPath : Nat
  deriving DecidableEq

structure Sl1PlaceInventoryView where
  placeId : String
  thingId : String
  count : Nat
  freshness : FreshnessState
  deriving DecidableEq

structure Sl1TransformRuntimeView where
  transformId : String
  state : Sl1TransformState
  deriving DecidableEq

structure Sl1DemandRuntimeView where
  demandId : String
  outstanding : Nat
  fulfilledCount : Nat
  droppedCount : Nat
  nextSequence : Nat
  deriving DecidableEq

structure Sl1ObjectiveRuntimeView where
  objectiveId : String
  status : Sl1ObjectiveStatus
  breachTickCount : Nat
  deriving DecidableEq

structure Sl1FailureConditionRuntimeView where
  failureConditionId : String
  breachStreakTicks : Nat
  firedAtTick : Option Nat
  deriving DecidableEq

structure Sl1VictoryConditionRuntimeView where
  victoryConditionId : String
  metAtTick : Option Nat
  deriving DecidableEq

structure Sl1GameOutcomeView where
  state : String
  reason : Option String
  deriving DecidableEq

structure Sl1MetricStateView where
  metricId : String
  state : String
  value : Option Nat
  deriving DecidableEq

structure Sl1DashboardStateView where
  dashboardId : String
  state : String
  freshnessTicks : Option Nat
  deriving DecidableEq

structure Sl1AlertStateView where
  alertId : String
  state : String
  firedAtTick : Option Nat
  deriving DecidableEq

/-- The payload of a snapshot. The views of freshness, of transforms and of the status of an
objective repeat the runtime's constructors and stand as these. -/
structure SnapshotPayload where
  tick : Nat := 0
  movers : List WireMover := []
  sl1PlaceInventories : List Sl1PlaceInventoryView := []
  sl1TransformStates : List Sl1TransformRuntimeView := []
  sl1DemandStates : List Sl1DemandRuntimeView := []
  sl1ObjectiveStates : List Sl1ObjectiveRuntimeView := []
  sl1FailureConditionStates : List Sl1FailureConditionRuntimeView := []
  sl1VictoryConditionStates : List Sl1VictoryConditionRuntimeView := []
  sl1GameOutcome : Option Sl1GameOutcomeView := none
  sl1GamePhase : Option String := none
  sl1MetricStates : List Sl1MetricStateView := []
  sl1DashboardStates : List Sl1DashboardStateView := []
  sl1AlertStates : List Sl1AlertStateView := []
  deriving DecidableEq

/-- `f32::clamp` to the unit interval; no number stays none. -/
def clampUnit (value : Float32) : Float32 :=
  if value < 0.0 then 0.0 else if 1.0 < value then 1.0 else value

def between (source target progress : Float32) : Float32 := source + (target - source) * progress

/-- The row of a mover, unless it is empty or where it is does not exist. -/
def moverRow (transit : Transit) (mover : Mover) : Option WireMover :=
  match mover.state with
  | .empty => none
  | .waiting node => do
    let node ← transit.nodes[node]?
    return ⟨mover.id, node.pos, mover.speed, 0⟩
  | .traveling id progress => do
    let path ← transit.paths[id]?
    let source ← transit.nodes[path.source]?
    let target ← transit.nodes[path.target]?
    let progress := clampUnit progress
    let pos := (between source.pos.1 target.pos.1 progress, between source.pos.2 target.pos.2 progress)
    return ⟨mover.id, pos, mover.speed, id⟩

section Rows

variable (runtime : Sl1RuntimeState)

def inventoryRow (key : String × String) (state : FreshnessState) : Sl1PlaceInventoryView :=
  ⟨key.1, key.2, ((runtime.inventories[key.1]?.bind (·[key.2]?)).getD 0), state⟩

def demandRow (id : String) (demand : Sl1DemandRuntime) : Sl1DemandRuntimeView :=
  ⟨id, min demand.pending.length u32Max, demand.fulfilledCount, demand.droppedCount,
    demand.nextSequence⟩

def objectiveRow (id : String) (objective : Sl1ObjectiveRuntime) : Sl1ObjectiveRuntimeView :=
  ⟨id, objective.status, objective.breachTickCount⟩

def failureConditionRow (id : String) (condition : Sl1FailureConditionRuntime) :
    Sl1FailureConditionRuntimeView :=
  ⟨id, condition.breachStreakTicks, condition.firedAtTick⟩

def victoryConditionRow (id : String) (condition : Sl1VictoryConditionRuntime) :
    Sl1VictoryConditionRuntimeView :=
  ⟨id, condition.metAtTick⟩

def outcomeToView (outcome : GameOutcome) : Sl1GameOutcomeView where
  state := outcome.variantStr
  reason := match outcome with
    | .lost reason => some reason
    | _ => none

def metricRow (id : String) : Sl1MetricState → Sl1MetricStateView
  | .ok value => ⟨id, "ok", some value⟩
  | .noData => ⟨id, "no_data", none⟩

/-- A dashboard that is fine shows its age worked out anew. -/
def dashboardRow (scene : Option Sl1Scene) (now : Nat) (id : String) :
    Sl1DashboardState → Sl1DashboardStateView
  | .ok =>
    let age := do
      let scene ← scene
      let observability ← scene.observability
      let dashboard ← observability.dashboards.find? (·.id = id)
      return (Observability.dashboardFreshness runtime now dashboard).getD 0
    ⟨id, "ok", age⟩
  | .stale freshnessTicks => ⟨id, "stale", some freshnessTicks⟩
  | .noData => ⟨id, "no_data", none⟩

def alertRow (id : String) : Sl1AlertState → Sl1AlertStateView
  | .inactive => ⟨id, "inactive", none⟩
  | .firing firedAtTick => ⟨id, "firing", some firedAtTick⟩

end Rows

/-- One row behind the others for each entry, in the order of the keys. -/
def pushRows {Key Value Row : Type} {cmp : Key → Key → Ordering} [Std.TransCmp cmp] (rows : List Row)
    (entries : Std.ExtTreeMap Key Value cmp) (row : Key → Value → Row) : List Row :=
  rows ++ entries.toList.map fun entry => row entry.1 entry.2

namespace SnapshotPayload

/-- The buffer before the rows of a tick are pushed. -/
def clear (out : SnapshotPayload) (tick : Nat) : SnapshotPayload :=
  { out with
    tick
    movers := []
    sl1PlaceInventories := []
    sl1TransformStates := []
    sl1DemandStates := []
    sl1ObjectiveStates := []
    sl1FailureConditionStates := []
    sl1VictoryConditionStates := []
    sl1GameOutcome := none
    sl1GamePhase := none
    sl1MetricStates := []
    sl1DashboardStates := []
    sl1AlertStates := [] }

def pushMovers (out : SnapshotPayload) (transit : Transit) : SnapshotPayload :=
  { out with
    movers := out.movers ++ transit.movers.toList.filterMap fun entry => moverRow transit entry.2 }

def pushRuntime (out : SnapshotPayload) (scene : Option Sl1Scene) (now : Nat)
    (runtime : Sl1RuntimeState) : SnapshotPayload :=
  { out with
    sl1PlaceInventories := pushRows out.sl1PlaceInventories runtime.freshness (inventoryRow runtime)
    sl1TransformStates := pushRows out.sl1TransformStates runtime.transforms .mk
    sl1DemandStates := pushRows out.sl1DemandStates runtime.demand demandRow
    sl1ObjectiveStates := pushRows out.sl1ObjectiveStates runtime.objectives objectiveRow
    sl1FailureConditionStates :=
      pushRows out.sl1FailureConditionStates runtime.failureConditions failureConditionRow
    sl1VictoryConditionStates :=
      pushRows out.sl1VictoryConditionStates runtime.victoryConditions victoryConditionRow
    sl1GameOutcome := some (outcomeToView runtime.gameOutcome)
    sl1GamePhase := some runtime.gamePhase.asStr
    sl1MetricStates := pushRows out.sl1MetricStates runtime.metricStates metricRow
    sl1DashboardStates :=
      pushRows out.sl1DashboardStates runtime.dashboardStates (dashboardRow runtime scene now)
    sl1AlertStates := pushRows out.sl1AlertStates runtime.alertStates alertRow }

end SnapshotPayload

/-- Encode a world into the buffer, with the number of movers written. -/
def encodeSnapshot (world : World Transit) (out : SnapshotPayload) : SnapshotPayload × Nat :=
  let out := (out.clear world.tick).pushMovers world.network
  let out := match world.sl1Runtime with
    | none => out
    | some runtime => out.pushRuntime world.sl1 world.tick runtime
  (out, out.movers.length)

end Simetro.Engine
