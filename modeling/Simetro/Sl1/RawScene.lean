import Simetro.Sl1.Scene

/-! The scene block as deserialized, before validation. Fields keep the machine
types the deserializer enforces. Of unknown fields only the names matter. -/

namespace Simetro.Sl1

structure RawSl1StorageSlot where
  capacity : UInt64
  initial : UInt64 := 0

structure RawSl1OperatingState where
  when : String
  graceTicks : Option UInt64 := none

structure RawSl1Place where
  id : String
  role : String
  pos : Float32 × Float32
  shape : Option String := none
  color : Option UInt32 := none
  capacity : IdMap UInt64 := ∅
  storage : IdMap RawSl1StorageSlot := ∅
  accepts : List String := []
  produces : List String := []
  failureDomains : List String := []
  operatingStates : IdMap RawSl1OperatingState := ∅

structure RawSl1LinkRenderHint where
  style : String
  color : Option UInt32 := none

structure RawSl1Link where
  id : String
  linkType : String
  source : String
  target : String
  direction : Option String := none
  capacity : IdMap UInt64 := ∅
  travelTicks : UInt64
  compatibility : List String := []
  queueCapacity : UInt64
  backpressure : Option String := none
  render : Option RawSl1LinkRenderHint := none

structure RawSl1ThingQualityContract where
  maxDropPercent : Option Float := none
  maxLateTicks : Option UInt64 := none
  requiredFields : List String := []

structure RawSl1ThingRenderHint where
  glyph : String
  color : Option UInt32 := none

structure RawSl1Thing where
  id : String
  kind : String
  tags : List String := []
  schemaVersion : Option UInt32 := none
  freshnessBudgetTicks : Option UInt64 := none
  qualityContract : Option RawSl1ThingQualityContract := none
  render : Option RawSl1ThingRenderHint := none

structure RawSl1TransformIo where
  thing : String
  amount : UInt64

structure RawSl1Transform where
  id : String
  kind : String
  runsOn : String
  inputs : List RawSl1TransformIo := []
  outputs : List RawSl1TransformIo := []
  cadenceTicks : UInt64
  durationTicks : UInt64
  deadlineTicks : UInt64
  capacityCost : IdMap UInt64 := ∅
  failurePolicy : String
  maxAttempts : UInt32 := 1

structure RawSl1DemandTarget where
  kind : String
  id : String

structure RawSl1DemandSchedule where
  kind : String
  everyTicks : Option UInt64 := none
  startTick : Option UInt64 := none
  ticks : Option (List UInt64) := none

structure RawSl1DemandPenalty where
  score : Int64
  warning : Option String := none

structure RawSl1Demand where
  id : String
  kind : String
  target : RawSl1DemandTarget
  requires : List String := []
  spawnSchedule : RawSl1DemandSchedule
  deadlineTicks : UInt64
  priority : String
  value : UInt64
  penalty : RawSl1DemandPenalty

structure RawSl1Pressure where
  id : String
  kind : String
  atTick : UInt64
  durationTicks : UInt64
  target : String
  thing : Option String := none
  multiplier : Option Float := none
  spawnMultiplier : Option UInt32 := none
  capacity : Option String := none
  reductionPercent : Option UInt8 := none

structure RawSl1Objective where
  id : String
  kind : String
  weight : Option UInt32 := none
  place : Option String := none
  thing : Option String := none
  maxStaleTicks : Option UInt64 := none
  demand : Option String := none
  maxMissed : Option UInt64 := none
  capacity : Option String := none
  minPercent : Option UInt8 := none
  maxPercent : Option UInt8 := none
  maxCost : Option UInt64 := none
  maxContractViolations : Option UInt64 := none
  p95MaxTicks : Option UInt64 := none
  target : Option String := none

structure RawSl1FailureCondition where
  id : String
  kind : String
  place : Option String := none
  thing : Option String := none
  thresholdTicks : Option UInt64 := none
  graceTicks : Option UInt64 := none
  state : Option String := none
  objectiveId : Option String := none
  maxCount : Option UInt64 := none

structure RawSl1VictoryCondition where
  id : String
  kind : String
  atTick : Option UInt64 := none

structure RawSl1AgentBudgets where
  maxCostPerDecision : UInt64
  cooldownTicks : UInt64

structure RawSl1Agent where
  id : String
  kind : String
  role : String
  intervalTicks : UInt64
  observationScope : List String := []
  allowedActions : List String := []
  budgets : RawSl1AgentBudgets
  objectiveWeights : IdMap Float := ∅

structure RawSl1Metric where
  id : String
  source : String
  place : Option String := none
  capacity : Option String := none
  thing : Option String := none
  dashboard : Option String := none

structure RawSl1Dashboard where
  id : String
  kind : String
  dependsOn : List String := []
  freshnessSloTicks : UInt64

inductive RawSl1AlertPredicate where
  | gt (threshold : UInt64)
  | lt (threshold : UInt64)
  | outOfRange (min max : UInt64)

structure RawSl1Alert where
  id : String
  metric : String
  predicate : RawSl1AlertPredicate
  severity : String

structure RawSl1Observability where
  metrics : List RawSl1Metric := []
  dashboards : List RawSl1Dashboard := []
  alerts : List RawSl1Alert := []

inductive RawSl1MilestoneTrigger where
  | pressureActivated (pressure : String)
  | pressureDeactivated (pressure : String)
  | metricThreshold (metric predicate : String) (value : Int64)
  | dashboardState (dashboard state : String)

structure RawSl1Milestone where
  id : String
  trigger : RawSl1MilestoneTrigger
  label : String
  cameraFocus : Option (List String) := none
  highlight : Option String := none

structure RawSl1Scene where
  schemaVersion : UInt32 := 1
  places : List RawSl1Place := []
  links : List RawSl1Link := []
  things : List RawSl1Thing := []
  transforms : List RawSl1Transform := []
  demand : List RawSl1Demand := []
  pressure : List RawSl1Pressure := []
  objectives : List RawSl1Objective := []
  failureConditions : List RawSl1FailureCondition := []
  victoryConditions : List RawSl1VictoryCondition := []
  agents : List RawSl1Agent := []
  observability : Option RawSl1Observability := none
  milestones : List RawSl1Milestone := []
  extra : IdSet := ∅

end Simetro.Sl1
