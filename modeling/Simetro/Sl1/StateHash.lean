import Simetro.Library.Encoding
import Simetro.Sl1.RuntimeState

/-! What `state_hash` feeds to the hasher for an SL1 scene: the static part, section by
section in the scene's order, and the runtime part of a tick. -/

namespace Simetro.Sl1

open Simetro.Library Chunk

def Sl1AgentKind.asStr : Sl1AgentKind → String
  | .mock => "mock"
  | .builtin => "builtin"
  | .llm => "llm"

namespace Sl1AgentObservationTarget

def kindStr : Sl1AgentObservationTarget → String
  | .place _ => "place"
  | .transform _ => "transform"
  | .demand _ => "demand"
  | .dashboard _ => "dashboard"
  | .metric _ => "metric"

def id : Sl1AgentObservationTarget → String
  | .place id | .transform id | .demand id | .dashboard id | .metric id => id

end Sl1AgentObservationTarget

def Sl1MetricSource.kind : Sl1MetricSource → Sl1MetricSourceKind
  | .placeCapacityUsedPercent .. => .placeCapacityUsedPercent
  | .placeInventoryCount .. => .placeInventoryCount
  | .dashboardFreshness .. => .dashboardFreshness

def Sl1DashboardKind.asStr : Sl1DashboardKind → String
  | .report => "report"
  | .live => "live"
  | .adHoc => "ad_hoc"

def Sl1MilestonePredicate.asStr : Sl1MilestonePredicate → String
  | .gte => "gte"
  | .lte => "lte"
  | .gt => "gt"
  | .lt => "lt"

def Sl1MilestoneDashboardState.asStr : Sl1MilestoneDashboardState → String
  | .ok => "ok"
  | .stale => "stale"
  | .noData => "no_data"

def Sl1GamePhase.asStr : Sl1GamePhase → String
  | .stabilizing => "stabilizing"
  | .winning => "winning"
  | .losing => "losing"
  | .spiraling => "spiraling"
  | .won => "won"
  | .lost => "lost"

namespace StateHash

/-! ## Places, links and things -/

def feedPredicate : Sl1OperatingPredicate → Chunk
  | .usedPercentGte metric threshold => byte 0x01 ++ str metric ++ u8 threshold
  | .overloadedTicksGt ticks => byte 0x02 ++ u64 ticks

def feedStorageSlot (slot : Sl1StorageSlot) : Chunk := u64 slot.capacity ++ u64 slot.initial

def feedOperatingState (state : Sl1OperatingState) : Chunk :=
  feedPredicate state.predicate ++ maybe u64 state.graceTicks

def feedPlace (place : Sl1Place) : Chunk :=
  bare "sl1.place.v1" ++ str place.id ++ str place.role ++ f32 place.pos.1 ++ f32 place.pos.2 ++
    maybe str place.shape ++ maybe u32 place.color ++ entries str u64 place.capacity ++
    entries str feedStorageSlot place.storage ++ counted str place.accepts ++
    counted str place.produces ++ counted str place.failureDomains ++
    entries str feedOperatingState place.operatingStates

def linkDirectionTag : Sl1LinkDirection → UInt8
  | .forward => 0x01
  | .bidirectional => 0x02

def linkBackpressureTag : Sl1LinkBackpressure → UInt8
  | .blockUpstream => 0x01
  | .dropLowPriority => 0x02
  | .spillToBuffer => 0x03
  | .degradeQuality => 0x04

def feedLinkRender (render : Sl1LinkRenderHint) : Chunk :=
  str render.style ++ maybe u32 render.color

def feedLink (link : Sl1Link) : Chunk :=
  bare "sl1.link.v1" ++ str link.id ++ str link.linkType ++ str link.source ++ str link.target ++
    byte (linkDirectionTag link.direction) ++ entries str u64 link.capacity ++
    u64 link.travelTicks ++ counted str link.compatibility ++ u64 link.queueCapacity ++
    byte (linkBackpressureTag link.backpressure) ++ maybe feedLinkRender link.render

/-- Canonicalize `-0.0` to `0.0`. -/
def canonical (value : Float) : Float := if value == 0.0 then 0.0 else value

def feedQualityContract (contract : Sl1ThingQualityContract) : Chunk :=
  maybe (fun value => f64 (canonical value)) contract.maxDropPercent ++
    maybe u64 contract.maxLateTicks ++ counted str contract.requiredFields

def feedThingRender (render : Sl1ThingRenderHint) : Chunk :=
  str render.glyph ++ maybe u32 render.color

def feedThing (thing : Sl1Thing) : Chunk :=
  bare "sl1.thing.v1" ++ str thing.id ++ str thing.kind ++ counted str thing.tags ++
    maybe u32 thing.schemaVersion ++ maybe u64 thing.freshnessBudgetTicks ++
    maybe feedQualityContract thing.qualityContract ++ maybe feedThingRender thing.render

/-! ## Transforms, demand and pressure -/

def feedTransformIo (io : Sl1TransformIo) : Chunk := str io.thingId ++ u64 io.amount

def failurePolicyTag : Sl1FailurePolicy → UInt8
  | .retryThenWarn => 1
  | .drop => 2

def feedTransform (transform : Sl1Transform) : Chunk :=
  bare "sl1.transform.v1" ++ str transform.id ++ str transform.kind ++ str transform.runsOn ++
    counted feedTransformIo transform.inputs ++ counted feedTransformIo transform.outputs ++
    u64 transform.cadenceTicks ++ u64 transform.durationTicks ++ u64 transform.deadlineTicks ++
    entries str u64 transform.capacityCost ++ byte (failurePolicyTag transform.failurePolicy) ++
    u32 transform.maxAttempts

def feedDemandTarget : Sl1DemandTarget → Chunk
  | .place id => byte 0x01 ++ str id

def feedDemandSchedule : Sl1DemandSchedule → Chunk
  | .fixed everyTicks startTick => byte 0x01 ++ u64 everyTicks ++ u64 startTick
  | .scripted ticks => byte 0x02 ++ counted u64 ticks

def demandPriorityTag : Sl1DemandPriority → UInt8
  | .low => 1
  | .normal => 2
  | .high => 3
  | .critical => 4

def feedDemand (demand : Sl1Demand) : Chunk :=
  bare "sl1.demand.v1" ++ str demand.id ++ str demand.kind ++ feedDemandTarget demand.target ++
    counted str demand.requires ++ feedDemandSchedule demand.spawnSchedule ++
    u64 demand.deadlineTicks ++ byte (demandPriorityTag demand.priority) ++ u64 demand.value ++
    i64 demand.penalty.score ++ maybe str demand.penalty.warning

def pressureKindTag : Sl1PressureKind → UInt8
  | .sourceMultiplier => 0x01
  | .demandGrowth => 0x02
  | .quotaReduction => 0x03
  | .pathOutage => 0x04
  | .schemaDrift => 0x05
  | .dashboardStorm => 0x06
  | .spotEvictionWave => 0x07
  | .storageMetadataStorm => 0x08
  | .coolingDegradation => 0x09

def feedPressureParams : Sl1PressureParams → Chunk
  | .sourceMultiplier thing multiplierMilli => byte 0x01 ++ str thing ++ u64 multiplierMilli
  | .demandGrowth spawnMultiplier => byte 0x02 ++ u32 spawnMultiplier
  | .quotaReduction capacity reductionPercent => byte 0x03 ++ str capacity ++ u8 reductionPercent
  | .pathOutage => byte 0x04
  | .unsupportedInThisPr => byte 0x05

def feedPressure (pressure : Sl1Pressure) : Chunk :=
  bare "sl1.pressure.v1" ++ str pressure.id ++ byte (pressureKindTag pressure.kind) ++
    u64 pressure.atTick ++ u64 pressure.durationTicks ++ str pressure.target ++
    feedPressureParams pressure.params

/-! ## Objectives and conditions -/

def objectiveKindTag : Sl1ObjectiveKind → UInt8
  | .keepFresh => 0x01
  | .completeJobsBeforeDeadline => 0x02
  | .maintainUtilization => 0x03
  | .costBudget => 0x04
  | .dataQuality => 0x05
  | .queryLatency => 0x06

def feedObjectiveParams : Sl1ObjectiveParams → Chunk
  | .keepFresh place thing maxStaleTicks => byte 0x01 ++ str place ++ str thing ++ u64 maxStaleTicks
  | .completeJobsBeforeDeadline demand maxMissed => byte 0x02 ++ str demand ++ u64 maxMissed
  | .maintainUtilization place capacity minPercent maxPercent =>
      byte 0x03 ++ str place ++ str capacity ++ u8 minPercent ++ u8 maxPercent
  | .unsupportedInThisPr => byte 0x04

def feedObjective (objective : Sl1Objective) : Chunk :=
  bare "sl1.objective.v1" ++ str objective.id ++ byte (objectiveKindTag objective.kind) ++
    u32 objective.weight ++ feedObjectiveParams objective.params

def failureConditionKindTag : Sl1FailureConditionKind → UInt8
  | .staleTarget => 0x01
  | .placeState => 0x02
  | .objectiveBreachCount => 0x03

def feedFailureConditionParams : Sl1FailureConditionParams → Chunk
  | .staleTarget place thing thresholdTicks graceTicks =>
      byte 0x01 ++ str place ++ str thing ++ u64 thresholdTicks ++ u64 graceTicks
  | .placeState place state graceTicks => byte 0x02 ++ str place ++ str state ++ u64 graceTicks
  | .objectiveBreachCount objectiveId maxCount => byte 0x03 ++ str objectiveId ++ u64 maxCount

def feedFailureCondition (condition : Sl1FailureCondition) : Chunk :=
  bare "sl1.failure_condition.v1" ++ str condition.id ++
    byte (failureConditionKindTag condition.kind) ++ feedFailureConditionParams condition.params

def victoryConditionKindTag : Sl1VictoryConditionKind → UInt8
  | .surviveUntil => 0x01

def feedVictoryConditionParams : Sl1VictoryConditionParams → Chunk
  | .surviveUntil atTick => byte 0x01 ++ u64 atTick

def feedVictoryCondition (condition : Sl1VictoryCondition) : Chunk :=
  bare "sl1.victory_condition.v1" ++ str condition.id ++
    byte (victoryConditionKindTag condition.kind) ++ feedVictoryConditionParams condition.params

/-! ## Observability, agents and milestones -/

def feedMetricSource (source : Sl1MetricSource) : Chunk :=
  bare source.kind.asStr ++
    match source with
    | .placeCapacityUsedPercent place capacity => str place ++ str capacity
    | .placeInventoryCount place thing => str place ++ str thing
    | .dashboardFreshness dashboard => str dashboard

def feedMetric (metric : Sl1Metric) : Chunk := str metric.id ++ feedMetricSource metric.source

def feedDashboard (dashboard : Sl1Dashboard) : Chunk :=
  str dashboard.id ++ bare dashboard.kind.asStr ++ counted str dashboard.dependsOn ++
    u64 dashboard.freshnessSloTicks

def feedAlertPredicate : Sl1AlertPredicate → Chunk
  | .gt threshold => byte 1 ++ u64 threshold
  | .lt threshold => byte 2 ++ u64 threshold
  | .outOfRange min max => byte 3 ++ u64 min ++ u64 max

def feedAlert (alert : Sl1Alert) : Chunk :=
  str alert.id ++ str alert.metric ++ feedAlertPredicate alert.predicate ++
    bare alert.severity.asStr

def feedObservability : Option Sl1Observability → Chunk
  | none => raw []
  | some observability =>
      labelled "sl1.observability.metrics.v1" feedMetric observability.metrics ++
        labelled "sl1.observability.dashboards.v1" feedDashboard observability.dashboards ++
        labelled "sl1.observability.alerts.v1" feedAlert observability.alerts

def feedObservationTarget (target : Sl1AgentObservationTarget) : Chunk :=
  bare target.kindStr ++ str target.id

def feedAllowedAction (kind : Sl1AgentActionKind) : Chunk := bare kind.asStr

def feedAgent (agent : Sl1Agent) : Chunk :=
  bare "sl1.agent.v1" ++ str agent.id ++ bare agent.kind.asStr ++ str agent.role ++
    u64 agent.intervalTicks ++ counted feedObservationTarget agent.observationScope ++
    counted feedAllowedAction agent.allowedActions ++ u64 agent.maxCostPerDecision ++
    u64 agent.cooldownTicks ++ entries str f64 agent.objectiveWeights

def feedTrigger : Sl1MilestoneTrigger → Chunk
  | .pressureActivated pressure => byte 0x01 ++ str pressure
  | .pressureDeactivated pressure => byte 0x02 ++ str pressure
  -- the predicate is fed without its length, and `gt` starts `gte`
  | .metricThreshold metric predicate value =>
      byte 0x03 ++ str metric ++ bare predicate.asStr ++ i64 value
  | .dashboardState dashboard targetState =>
      byte 0x04 ++ str dashboard ++ bare targetState.asStr

def feedMilestone (milestone : Sl1Milestone) : Chunk :=
  bare "sl1.milestone.v1" ++ str milestone.id ++ str milestone.label ++
    feedTrigger milestone.trigger ++ counted str milestone.cameraFocus ++
    maybe str milestone.highlight

/-! ## The static part -/

def feedHeader (scene : Sl1Scene) : Chunk :=
  bare "sl1.v1" ++ u32 scene.schemaVersion ++ u64 scene.places.length ++ u64 scene.links.length ++
    u64 scene.things.length ++ u64 scene.transforms.length ++ u64 scene.demand.length ++
    u64 scene.pressure.length ++ u64 scene.objectives.length ++
    u64 scene.failureConditions.length ++ u64 scene.agents.length ++
    u64 scene.milestones.length ++ flag scene.observability.isSome

/-- The sections of a scene, before the runtime. -/
def feedStatic (scene : Sl1Scene) : Chunk :=
  feedHeader scene ++ each feedPlace scene.places ++ each feedLink scene.links ++
    each feedThing scene.things ++ each feedTransform scene.transforms ++
    each feedDemand scene.demand ++ each feedPressure scene.pressure ++
    each feedObjective scene.objectives ++ each feedFailureCondition scene.failureConditions ++
    each feedVictoryCondition scene.victoryConditions ++ feedObservability scene.observability ++
    headed "sl1.agents.v1" feedAgent scene.agents ++
    headed "sl1.milestones.v1" feedMilestone scene.milestones

/-! ## The runtime part -/

def feedFreshnessState : FreshnessState → Chunk
  | .noData => byte 0x01
  | .ok lastSetTick => byte 0x02 ++ u64 lastSetTick
  | .stale lastSetTick => byte 0x03 ++ u64 lastSetTick
  | .degraded => byte 0x04
  | .invalid => byte 0x05

def feedTransformState : Sl1TransformState → Chunk
  | .idle => byte 0
  | .running scheduledAt startedAt attempt =>
      byte 1 ++ u64 scheduledAt ++ u64 startedAt ++ u32 attempt
  | .starved scheduledAt since attempts => byte 2 ++ u64 scheduledAt ++ u64 since ++ u32 attempts
  | .blocked scheduledAt since attempts => byte 3 ++ u64 scheduledAt ++ u64 since ++ u32 attempts
  | .late scheduledAt attempt since => byte 4 ++ u64 scheduledAt ++ u32 attempt ++ u64 since

def feedDemandInstance (waiting : Sl1DemandInstance) : Chunk :=
  u64 waiting.sequence ++ u64 waiting.spawnedAt ++ u64 waiting.deadlineTick

def feedDemandRuntime (demand : Sl1DemandRuntime) : Chunk :=
  u64 demand.nextSequence ++ u64 demand.fulfilledCount ++ u64 demand.droppedCount ++
    u64 demand.scriptedCursor ++ flag demand.overflow ++ counted feedDemandInstance demand.pending

def objectiveStatusTag : Sl1ObjectiveStatus → UInt8
  | .unknown => 0x00
  | .met => 0x01
  | .breached => 0x02
  | .unsupported => 0x03

def feedObjectiveRuntime (objective : Sl1ObjectiveRuntime) : Chunk :=
  byte (objectiveStatusTag objective.status) ++ u64 objective.breachTickCount ++
    u64 objective.lastChangeTick

def feedFailureConditionRuntime (condition : Sl1FailureConditionRuntime) : Chunk :=
  u64 condition.breachStreakTicks ++ maybe u64 condition.firedAtTick

def feedVictoryConditionRuntime (condition : Sl1VictoryConditionRuntime) : Chunk :=
  maybe u64 condition.metAtTick

def feedGameOutcome (outcome : GameOutcome) : Chunk :=
  bare outcome.variantStr ++
    match outcome with
    | .lost reason => byte 0x01 ++ str reason
    | _ => byte 0x00

def feedMetricState : Sl1MetricState → Chunk
  | .ok value => byte 1 ++ u64 value
  | .noData => byte 0

def feedDashboardState : Sl1DashboardState → Chunk
  | .ok => byte 1
  | .stale freshnessTicks => byte 2 ++ u64 freshnessTicks
  | .noData => byte 0

def feedAlertState : Sl1AlertState → Chunk
  | .inactive => byte 0
  | .firing firedAtTick => byte 1 ++ u64 firedAtTick

def feedAgentRuntime (agent : Sl1AgentRuntimeState) : Chunk :=
  maybe u64 agent.lastDecisionTick ++ maybe u64 agent.cooldownUntilTick ++
    flag agent.llmDisabledEmitted

def feedMilestoneRuntime (milestone : Sl1MilestoneRuntime) : Chunk :=
  maybe u64 milestone.firedAtTick ++ flag milestone.armed

def feedPair (pair : String × String) : Chunk := str pair.1 ++ str pair.2

def feedThingsRuntime (runtime : Sl1RuntimeState) : Chunk :=
  bare "sl1.runtime.v1" ++ entries str (entries str u64) runtime.inventories ++
    entries feedPair feedFreshnessState runtime.freshness

def feedTransformsRuntime (runtime : Sl1RuntimeState) : Chunk :=
  bare "sl1.runtime.transforms.v1" ++ entries str feedTransformState runtime.transforms ++
    entries str (entries str u64) runtime.placeCapacityUsed ++
    bare "sl1.runtime.transforms.pending_outputs.v1" ++
    entries feedPair u64 runtime.pendingOutputs

def feedObjectivesRuntime (runtime : Sl1RuntimeState) : Chunk :=
  bare "sl1.runtime.objectives.v1" ++ entries str feedObjectiveRuntime runtime.objectives ++
    members str runtime.unsupportedObjectivesWarned

def feedOutcome (runtime : Sl1RuntimeState) : Chunk :=
  bare "sl1.runtime.outcome.v1" ++ feedGameOutcome runtime.gameOutcome ++
    bare runtime.gamePhase.asStr

def feedAgentsRuntime (runtime : Sl1RuntimeState) : Chunk :=
  bare "sl1.runtime.agents.v1" ++ entries str feedAgentRuntime runtime.agents ++
    entries str u64 runtime.agentDemandPauses

/-- A section of the runtime that is fed where the scene has the section it belongs to. -/
def gated (declared : Bool) (part : Chunk) : Chunk := if declared then part else raw []

def feedObservabilityRuntime (observability : Option Sl1Observability)
    (runtime : Sl1RuntimeState) : Chunk :=
  match observability with
  | none => raw []
  | some observability =>
      gated (!observability.metrics.isEmpty) (bare "sl1.runtime.observability.metrics.v1" ++
        entries str feedMetricState runtime.metricStates) ++
      gated (!observability.dashboards.isEmpty) (bare "sl1.runtime.observability.dashboards.v1" ++
        entries str feedDashboardState runtime.dashboardStates) ++
      gated (!observability.alerts.isEmpty) (bare "sl1.runtime.observability.alerts.v1" ++
        entries str feedAlertState runtime.alertStates)

def feedRuntime (scene : Sl1Scene) (runtime : Sl1RuntimeState) : Chunk :=
  gated (!scene.things.isEmpty) (feedThingsRuntime runtime) ++
    gated (!scene.transforms.isEmpty) (feedTransformsRuntime runtime) ++
    gated (!scene.demand.isEmpty)
      (bare "sl1.runtime.demand.v1" ++ entries str feedDemandRuntime runtime.demand) ++
    gated (!scene.objectives.isEmpty) (feedObjectivesRuntime runtime) ++
    gated (!scene.failureConditions.isEmpty) (bare "sl1.runtime.failure_conditions.v1" ++
      entries str feedFailureConditionRuntime runtime.failureConditions) ++
    gated (!scene.victoryConditions.isEmpty) (bare "sl1.runtime.victory_conditions.v1" ++
      entries str feedVictoryConditionRuntime runtime.victoryConditions) ++
    gated (!scene.objectives.isEmpty || !scene.failureConditions.isEmpty ||
      !scene.victoryConditions.isEmpty) (feedOutcome runtime) ++
    feedObservabilityRuntime scene.observability runtime ++
    gated (!scene.agents.isEmpty) (feedAgentsRuntime runtime) ++
    gated (!scene.milestones.isEmpty)
      (bare "sl1.runtime.milestones.v1" ++ entries str feedMilestoneRuntime runtime.milestones)

/-- `feed_sl1` of a world with this SL1 block; the runtime is missing before a scene is
started. -/
def feedSl1 (scene : Sl1Scene) (runtime : Option Sl1RuntimeState) : Chunk :=
  feedStatic scene ++
    match runtime with
    | none => raw []
    | some runtime => feedRuntime scene runtime

end StateHash

end Simetro.Sl1
