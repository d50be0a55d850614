import Std.Data.ExtTreeMap.Lemmas
import Std.Data.ExtTreeSet.Lemmas

/-! The validated `scenario_language_v1` scene. Unsigned machine integers are
natural numbers; wherever the engine's arithmetic can overflow, the model
saturates explicitly. -/

namespace Simetro.Sl1

/-- Maps keyed by a stable identifier, iterated in key order. -/
abbrev IdMap (Value : Type) := Std.ExtTreeMap String Value

/-- Maps keyed by a pair of identifiers, in lexicographic order. -/
abbrev PairMap (Value : Type) := Std.ExtTreeMap (String × String) Value lexOrd.compare

/-- Maps keyed by three identifiers, in lexicographic order. -/
abbrev TripleMap (Value : Type) :=
  Std.ExtTreeMap (String × String × String) Value (@lexOrd _ _ _ lexOrd).compare

abbrev IdSet := Std.ExtTreeSet String

def sl1SchemaVersion : Nat := 1
def maxSl1ItemsPerSection : Nat := 100000
def maxSl1IdLen : Nat := 64
def sl1PercentMax : Nat := 100
def maxLinkQueueCapacity : Nat := 1000000000
def maxLinkTravelTicks : Nat := 1000000000
def maxThingFreshnessBudget : Nat := 1000000000
def maxTransformTicks : Nat := 1000000000
def maxTransformAmount : Nat := 1000000000
def maxTransformCapacityCost : Nat := 1000000000
def maxTransformMaxAttempts : Nat := 1000
def maxThingLateTicks : Nat := 1000000000
def maxDemandTicks : Nat := 1000000000
def maxDemandValue : Nat := 1000000000
def maxDemandPenaltyScore : Int := 1000000000
def maxDemandScriptedTicks : Nat := 100000
def maxDemandRequires : Nat := 64
def maxDemandOutstanding : Nat := 10000
def maxPressureTicks : Nat := 1000000000
def maxPressureMultiplierMilli : Nat := 1000000
def maxPressureSpawnMultiplier : Nat := 64
def maxPressureReductionPercent : Nat := 100
def maxObjectiveTicks : Nat := 1000000
def maxObjectiveWeight : Nat := 10000
def maxObjectiveBreachCount : Nat := 1000000
def maxObservabilityItems : Nat := 1000
def sl1AgentMaxIntervalTicks : Nat := 1000000
def sl1AgentMaxCooldownTicks : Nat := 1000000
def sl1AgentMaxListLen : Nat := 256
def sl1AgentMaxObjectiveWeights : Nat := 256

structure Sl1StorageSlot where
  capacity : Nat
  initial : Nat
  deriving DecidableEq

inductive Sl1OperatingPredicate where
  | usedPercentGte (metric : String) (threshold : Nat)
  | overloadedTicksGt (ticks : Nat)
  deriving DecidableEq

structure Sl1OperatingState where
  predicate : Sl1OperatingPredicate
  graceTicks : Option Nat
  deriving DecidableEq

structure Sl1Place where
  id : String
  role : String
  pos : Float32 × Float32
  shape : Option String
  color : Option Nat
  capacity : IdMap Nat
  storage : IdMap Sl1StorageSlot
  accepts : List String
  produces : List String
  failureDomains : List String
  operatingStates : IdMap Sl1OperatingState

inductive Sl1LinkDirection where
  | forward
  | bidirectional
  deriving DecidableEq

inductive Sl1LinkBackpressure where
  | blockUpstream
  | dropLowPriority
  | spillToBuffer
  | degradeQuality
  deriving DecidableEq

structure Sl1LinkRenderHint where
  style : String
  color : Option Nat

structure Sl1Link where
  id : String
  linkType : String
  source : String
  target : String
  direction : Sl1LinkDirection
  capacity : IdMap Nat
  travelTicks : Nat
  compatibility : List String
  queueCapacity : Nat
  backpressure : Sl1LinkBackpressure
  render : Option Sl1LinkRenderHint

structure Sl1ThingQualityContract where
  maxDropPercent : Option Float
  maxLateTicks : Option Nat
  requiredFields : List String

structure Sl1ThingRenderHint where
  glyph : String
  color : Option Nat

structure Sl1Thing where
  id : String
  kind : String
  tags : List String
  schemaVersion : Option Nat
  freshnessBudgetTicks : Option Nat
  qualityContract : Option Sl1ThingQualityContract
  render : Option Sl1ThingRenderHint

structure Sl1TransformIo where
  thingId : String
  amount : Nat
  deriving DecidableEq

inductive Sl1FailurePolicy where
  | retryThenWarn
  | drop
  deriving DecidableEq

structure Sl1Transform where
  id : String
  kind : String
  runsOn : String
  inputs : List Sl1TransformIo
  outputs : List Sl1TransformIo
  cadenceTicks : Nat
  durationTicks : Nat
  deadlineTicks : Nat
  capacityCost : IdMap Nat
  failurePolicy : Sl1FailurePolicy
  maxAttempts : Nat
  deriving DecidableEq

inductive Sl1DemandTarget where
  | place (id : String)
  deriving DecidableEq

inductive Sl1DemandSchedule where
  | fixed (everyTicks startTick : Nat)
  | scripted (ticks : List Nat)
  deriving DecidableEq

inductive Sl1DemandPriority where
  | low
  | normal
  | high
  | critical
  deriving DecidableEq

structure Sl1DemandPenalty where
  score : Int
  warning : Option String
  deriving DecidableEq

structure Sl1Demand where
  id : String
  kind : String
  target : Sl1DemandTarget
  requires : List String
  spawnSchedule : Sl1DemandSchedule
  deadlineTicks : Nat
  priority : Sl1DemandPriority
  value : Nat
  penalty : Sl1DemandPenalty
  deriving DecidableEq

inductive Sl1PressureKind where
  | sourceMultiplier
  | demandGrowth
  | quotaReduction
  | pathOutage
  | schemaDrift
  | dashboardStorm
  | spotEvictionWave
  | storageMetadataStorm
  | coolingDegradation
  deriving DecidableEq

def Sl1PressureKind.asStr : Sl1PressureKind → String
  | .sourceMultiplier => "source_multiplier"
  | .demandGrowth => "demand_growth"
  | .quotaReduction => "quota_reduction"
  | .pathOutage => "path_outage"
  | .schemaDrift => "schema_drift"
  | .dashboardStorm => "dashboard_storm"
  | .spotEvictionWave => "spot_eviction_wave"
  | .storageMetadataStorm => "storage_metadata_storm"
  | .coolingDegradation => "cooling_degradation"

def Sl1PressureKind.hasRuntimeEffectInPr7 : Sl1PressureKind → Bool
  | .sourceMultiplier | .demandGrowth | .quotaReduction | .pathOutage => true
  | _ => false

inductive Sl1PressureParams where
  | sourceMultiplier (thing : String) (multiplierMilli : Nat)
  | demandGrowth (spawnMultiplier : Nat)
  | quotaReduction (capacity : String) (reductionPercent : Nat)
  | pathOutage
  | unsupportedInThisPr
  deriving DecidableEq

structure Sl1Pressure where
  id : String
  kind : Sl1PressureKind
  atTick : Nat
  durationTicks : Nat
  target : String
  params : Sl1PressureParams
  deriving DecidableEq

inductive Sl1ObjectiveKind where
  | keepFresh
  | completeJobsBeforeDeadline
  | maintainUtilization
  | costBudget
  | dataQuality
  | queryLatency
  deriving DecidableEq

def Sl1ObjectiveKind.asStr : Sl1ObjectiveKind → String
  | .keepFresh => "keep_fresh"
  | .completeJobsBeforeDeadline => "complete_jobs_before_deadline"
  | .maintainUtilization => "maintain_utilization"
  | .costBudget => "cost_budget"
  | .dataQuality => "data_quality"
  | .queryLatency => "query_latency"

inductive Sl1ObjectiveParams where
  | keepFresh (place thing : String) (maxStaleTicks : Nat)
  | completeJobsBeforeDeadline (demand : String) (maxMissed : Nat)
  | maintainUtilization (place capacity : String) (minPercent maxPercent : Nat)
  | unsupportedInThisPr
  deriving DecidableEq

structure Sl1Objective where
  id : String
  kind : Sl1ObjectiveKind
  weight : Nat
  params : Sl1ObjectiveParams
  deriving DecidableEq

inductive Sl1FailureConditionKind where
  | staleTarget
  | placeState
  | objectiveBreachCount
  deriving DecidableEq

def Sl1FailureConditionKind.asStr : Sl1FailureConditionKind → String
  | .staleTarget => "stale_target"
  | .placeState => "place_state"
  | .objectiveBreachCount => "objective_breach_count"

inductive Sl1FailureConditionParams where
  | staleTarget (place thing : String) (thresholdTicks graceTicks : Nat)
  | placeState (place state : String) (graceTicks : Nat)
  | objectiveBreachCount (objectiveId : String) (maxCount : Nat)
  deriving DecidableEq

structure Sl1FailureCondition where
  id : String
  kind : Sl1FailureConditionKind
  params : Sl1FailureConditionParams
  deriving DecidableEq

inductive Sl1VictoryConditionKind where
  | surviveUntil
  deriving DecidableEq

def Sl1VictoryConditionKind.asStr : Sl1VictoryConditionKind → String
  | .surviveUntil => "survive_until"

inductive Sl1VictoryConditionParams where
  | surviveUntil (atTick : Nat)
  deriving DecidableEq

structure Sl1VictoryCondition where
  id : String
  kind : Sl1VictoryConditionKind
  params : Sl1VictoryConditionParams
  deriving DecidableEq

inductive Sl1AgentKind where
  | mock
  | builtin
  | llm
  deriving DecidableEq

inductive Sl1AgentObservationTarget where
  | place (id : String)
  | transform (id : String)
  | demand (id : String)
  | dashboard (id : String)
  | metric (id : String)
  deriving DecidableEq

inductive Sl1AgentActionKind where
  | setJobPriority
  | throttleDemand
  | scalePlaceCapacity
  | warmCache
  | prioritizeTransform
  | pauseReportRefresh
  deriving DecidableEq

def Sl1AgentActionKind.asStr : Sl1AgentActionKind → String
  | .setJobPriority => "set_job_priority"
  | .throttleDemand => "throttle_demand"
  | .scalePlaceCapacity => "scale_place_capacity"
  | .warmCache => "warm_cache"
  | .prioritizeTransform => "prioritize_transform"
  | .pauseReportRefresh => "pause_report_refresh"

structure Sl1Agent where
  id : String
  kind : Sl1AgentKind
  role : String
  intervalTicks : Nat
  observationScope : List Sl1AgentObservationTarget
  allowedActions : List Sl1AgentActionKind
  maxCostPerDecision : Nat
  cooldownTicks : Nat
  objectiveWeights : IdMap Float

inductive Sl1MetricSourceKind where
  | placeCapacityUsedPercent
  | placeInventoryCount
  | dashboardFreshness
  deriving DecidableEq

def Sl1MetricSourceKind.asStr : Sl1MetricSourceKind → String
  | .placeCapacityUsedPercent => "place_capacity_used_percent"
  | .placeInventoryCount => "place_inventory_count"
  | .dashboardFreshness => "dashboard_freshness"

inductive Sl1MetricSource where
  | placeCapacityUsedPercent (place capacity : String)
  | placeInventoryCount (place thing : String)
  | dashboardFreshness (dashboard : String)
  deriving DecidableEq

structure Sl1Metric where
  id : String
  source : Sl1MetricSource
  deriving DecidableEq

inductive Sl1DashboardKind where
  | report
  | live
  | adHoc
  deriving DecidableEq

structure Sl1Dashboard where
  id : String
  kind : Sl1DashboardKind
  dependsOn : List String
  freshnessSloTicks : Nat
  deriving DecidableEq

inductive Sl1AlertPredicate where
  | gt (threshold : Nat)
  | lt (threshold : Nat)
  | outOfRange (min max : Nat)
  deriving DecidableEq

inductive Sl1AlertSeverity where
  | info
  | warning
  | critical
  deriving DecidableEq

def Sl1AlertSeverity.asStr : Sl1AlertSeverity → String
  | .info => "info"
  | .warning => "warning"
  | .critical => "critical"

structure Sl1Alert where
  id : String
  metric : String
  predicate : Sl1AlertPredicate
  severity : Sl1AlertSeverity
  deriving DecidableEq

structure Sl1Observability where
  metrics : List Sl1Metric
  dashboards : List Sl1Dashboard
  alerts : List Sl1Alert
  deriving DecidableEq

inductive Sl1MilestonePredicate where
  | gte
  | lte
  | gt
  | lt
  deriving DecidableEq

inductive Sl1MilestoneDashboardState where
  | ok
  | stale
  | noData
  deriving DecidableEq

inductive Sl1MilestoneTrigger where
  | pressureActivated (pressure : String)
  | pressureDeactivated (pressure : String)
  | metricThreshold (metric : String) (predicate : Sl1MilestonePredicate) (value : Int)
  | dashboardState (dashboard : String) (targetState : Sl1MilestoneDashboardState)
  deriving DecidableEq

structure Sl1Milestone where
  id : String
  trigger : Sl1MilestoneTrigger
  label : String
  cameraFocus : List String
  highlight : Option String
  deriving DecidableEq

structure Sl1Scene where
  schemaVersion : Nat
  places : List Sl1Place
  links : List Sl1Link
  things : List Sl1Thing
  transforms : List Sl1Transform
  demand : List Sl1Demand
  pressure : List Sl1Pressure
  objectives : List Sl1Objective
  failureConditions : List Sl1FailureCondition
  victoryConditions : List Sl1VictoryCondition
  agents : List Sl1Agent
  observability : Option Sl1Observability
  milestones : List Sl1Milestone

end Simetro.Sl1
