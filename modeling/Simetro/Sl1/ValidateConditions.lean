import Simetro.Sl1.ValidateStructure

/-! Validation of objectives, failure conditions and victory conditions. -/

namespace Simetro.Sl1

open Simetro.Library

def requireObjectiveField (id : String) (kind : Sl1ObjectiveKind) (field : String)
    (value : Option α) : Checked α :=
  present value (.objectiveMissingField id kind.asStr field)

def rejectObjectiveField (id : String) (kind : Sl1ObjectiveKind) (field : String)
    (present : Bool) : Checked Unit :=
  reject present (.objectiveUnexpectedField id kind.asStr field)

def requireFcField (id : String) (kind : Sl1FailureConditionKind) (field : String)
    (value : Option α) : Checked α :=
  present value (.failureConditionMissingField id kind.asStr field)

def rejectFcField (id : String) (kind : Sl1FailureConditionKind) (field : String)
    (present : Bool) : Checked Unit :=
  reject present (.failureConditionUnexpectedField id kind.asStr field)

def requireVcField (id : String) (kind : Sl1VictoryConditionKind) (field : String)
    (value : Option α) : Checked α :=
  present value (.victoryConditionMissingField id kind.asStr field)

def objectiveKindFromStr (id : String) : String → Checked Sl1ObjectiveKind
  | "keep_fresh" => .ok .keepFresh
  | "complete_jobs_before_deadline" => .ok .completeJobsBeforeDeadline
  | "maintain_utilization" => .ok .maintainUtilization
  | "cost_budget" => .ok .costBudget
  | "data_quality" => .ok .dataQuality
  | "query_latency" => .ok .queryLatency
  | kind => .error (.objectiveUnknownType id kind)

def fcKindFromStr (id : String) : String → Checked Sl1FailureConditionKind
  | "stale_target" => .ok .staleTarget
  | "place_state" => .ok .placeState
  | "objective_breach_count" => .ok .objectiveBreachCount
  | kind => .error (.failureConditionUnknownType id kind)

def vcKindFromStr (id : String) : String → Checked Sl1VictoryConditionKind
  | "survive_until" => .ok .surviveUntil
  | kind => .error (.victoryConditionUnknownType id kind)

def checkTicksInRange (id field : String) (value min : Nat) : Checked Unit :=
  reject (value < min || maxObjectiveTicks < value)
    (.objectiveValueOutOfRange id field value maxObjectiveTicks)

/-- What objectives may refer to. -/
structure ObjectiveScope where
  places : List Sl1Place
  placeIds : IdSet
  thingIds : IdSet
  transformIds : IdSet
  demandIds : IdSet

def ObjectiveScope.place (scope : ObjectiveScope) (id : String) : Option Sl1Place :=
  scope.places.find? fun place => place.id = id

section Objective

variable (scope : ObjectiveScope) (kind : Sl1ObjectiveKind) (raw : RawSl1Objective)

def keepFreshParams : Checked Sl1ObjectiveParams := do
  let place ← requireObjectiveField raw.id kind "place" raw.place
  let thing ← requireObjectiveField raw.id kind "thing" raw.thing
  let maxStaleTicks ←
    requireObjectiveField raw.id kind "max_stale_ticks" (raw.maxStaleTicks.map (·.toNat))
  rejectObjectiveField raw.id kind "demand" raw.demand.isSome
  rejectObjectiveField raw.id kind "max_missed" raw.maxMissed.isSome
  rejectObjectiveField raw.id kind "capacity" raw.capacity.isSome
  rejectObjectiveField raw.id kind "min_percent" raw.minPercent.isSome
  rejectObjectiveField raw.id kind "max_percent" raw.maxPercent.isSome
  rejectObjectiveField raw.id kind "max_cost" raw.maxCost.isSome
  rejectObjectiveField raw.id kind "max_contract_violations" raw.maxContractViolations.isSome
  rejectObjectiveField raw.id kind "p95_max_ticks" raw.p95MaxTicks.isSome
  rejectObjectiveField raw.id kind "target" raw.target.isSome
  checkTicksInRange raw.id "max_stale_ticks" maxStaleTicks 1
  let element ← present (scope.place place) (.objectiveUnknownTarget raw.id "place" place)
  reject (!scope.thingIds.contains thing) (.objectiveUnknownTarget raw.id "thing" thing)
  reject (!element.storage.contains thing) (.objectiveNoStorageSlot raw.id place thing)
  return .keepFresh place thing maxStaleTicks

def completeJobsParams : Checked Sl1ObjectiveParams := do
  let demand ← requireObjectiveField raw.id kind "demand" raw.demand
  let maxMissed ← requireObjectiveField raw.id kind "max_missed" (raw.maxMissed.map (·.toNat))
  rejectObjectiveField raw.id kind "place" raw.place.isSome
  rejectObjectiveField raw.id kind "thing" raw.thing.isSome
  rejectObjectiveField raw.id kind "max_stale_ticks" raw.maxStaleTicks.isSome
  rejectObjectiveField raw.id kind "capacity" raw.capacity.isSome
  rejectObjectiveField raw.id kind "min_percent" raw.minPercent.isSome
  rejectObjectiveField raw.id kind "max_percent" raw.maxPercent.isSome
  rejectObjectiveField raw.id kind "max_cost" raw.maxCost.isSome
  rejectObjectiveField raw.id kind "max_contract_violations" raw.maxContractViolations.isSome
  rejectObjectiveField raw.id kind "p95_max_ticks" raw.p95MaxTicks.isSome
  rejectObjectiveField raw.id kind "target" raw.target.isSome
  checkTicksInRange raw.id "max_missed" maxMissed 1
  reject (!scope.demandIds.contains demand) (.objectiveUnknownTarget raw.id "demand" demand)
  return .completeJobsBeforeDeadline demand maxMissed

def maintainUtilizationParams : Checked Sl1ObjectiveParams := do
  let place ← requireObjectiveField raw.id kind "place" raw.place
  let capacity ← requireObjectiveField raw.id kind "capacity" raw.capacity
  let minPercent ← requireObjectiveField raw.id kind "min_percent" (raw.minPercent.map (·.toNat))
  let maxPercent ← requireObjectiveField raw.id kind "max_percent" (raw.maxPercent.map (·.toNat))
  rejectObjectiveField raw.id kind "thing" raw.thing.isSome
  rejectObjectiveField raw.id kind "max_stale_ticks" raw.maxStaleTicks.isSome
  rejectObjectiveField raw.id kind "demand" raw.demand.isSome
  rejectObjectiveField raw.id kind "max_missed" raw.maxMissed.isSome
  rejectObjectiveField raw.id kind "max_cost" raw.maxCost.isSome
  rejectObjectiveField raw.id kind "max_contract_violations" raw.maxContractViolations.isSome
  rejectObjectiveField raw.id kind "p95_max_ticks" raw.p95MaxTicks.isSome
  rejectObjectiveField raw.id kind "target" raw.target.isSome
  reject (100 < minPercent || 100 < maxPercent || maxPercent < minPercent)
    (.objectiveInvalidPercentRange raw.id minPercent maxPercent)
  let element ← present (scope.place place) (.objectiveUnknownTarget raw.id "place" place)
  reject (!element.capacity.contains capacity)
    (.objectiveUnknownCapacityBucket raw.id place capacity)
  return .maintainUtilization place capacity minPercent maxPercent

/-- An optional bound of a kind without effect. -/
def checkOptionalTicks (field : String) (value : Option UInt64) : Checked Unit :=
  checkSome (fun ticks => checkTicksInRange raw.id field ticks.toNat 1) value

def unsupportedObjectiveParams : Checked Sl1ObjectiveParams := do
  checkOptionalTicks raw "max_cost" raw.maxCost
  checkOptionalTicks raw "max_contract_violations" raw.maxContractViolations
  checkOptionalTicks raw "p95_max_ticks" raw.p95MaxTicks
  checkSome (fun target =>
    reject (!scope.placeIds.contains target && !scope.thingIds.contains target &&
      !scope.transformIds.contains target && !scope.demandIds.contains target)
      (.objectiveUnknownTarget raw.id "place|thing|transform|demand" target)) raw.target
  return .unsupportedInThisPr

def objectiveParams : Checked Sl1ObjectiveParams :=
  match kind with
  | .keepFresh => keepFreshParams scope kind raw
  | .completeJobsBeforeDeadline => completeJobsParams scope kind raw
  | .maintainUtilization => maintainUtilizationParams scope kind raw
  | .costBudget | .dataQuality | .queryLatency => unsupportedObjectiveParams scope raw

end Objective

def validateObjective (scope : ObjectiveScope) (raw : RawSl1Objective) : Checked Sl1Objective := do
  reject (!isValidSl1Id raw.id) (.objectiveInvalidId raw.id)
  let kind ← objectiveKindFromStr raw.id raw.kind
  let weight := ((raw.weight.map (·.toNat)).getD 1)
  reject (weight == 0 || maxObjectiveWeight < weight)
    (.objectiveWeightOutOfRange raw.id weight maxObjectiveWeight)
  let params ← objectiveParams scope kind raw
  return { id := raw.id, kind, weight, params }

/-- What failure conditions may refer to. -/
structure FailureScope where
  places : List Sl1Place
  thingIds : IdSet
  objectiveIds : IdSet

def FailureScope.place (scope : FailureScope) (id : String) : Option Sl1Place :=
  scope.places.find? fun place => place.id = id

section Failure

variable (scope : FailureScope) (kind : Sl1FailureConditionKind) (raw : RawSl1FailureCondition)

def checkGrace (graceTicks : Nat) : Checked Unit :=
  reject (maxObjectiveTicks < graceTicks)
    (.failureConditionGraceOutOfRange raw.id graceTicks maxObjectiveTicks)

def staleTargetParams : Checked Sl1FailureConditionParams := do
  let place ← requireFcField raw.id kind "place" raw.place
  let thing ← requireFcField raw.id kind "thing" raw.thing
  let thresholdTicks ←
    requireFcField raw.id kind "threshold_ticks" (raw.thresholdTicks.map (·.toNat))
  let graceTicks := (raw.graceTicks.map (·.toNat)).getD 0
  rejectFcField raw.id kind "state" raw.state.isSome
  rejectFcField raw.id kind "objective_id" raw.objectiveId.isSome
  rejectFcField raw.id kind "max_count" raw.maxCount.isSome
  reject (thresholdTicks == 0 || maxObjectiveTicks < thresholdTicks)
    (.failureConditionThresholdOutOfRange raw.id thresholdTicks maxObjectiveTicks)
  checkGrace raw graceTicks
  let element ← present (scope.place place) (.failureConditionUnknownTarget raw.id "place" place)
  reject (!scope.thingIds.contains thing) (.failureConditionUnknownTarget raw.id "thing" thing)
  reject (!element.storage.contains thing) (.failureConditionNoStorageSlot raw.id place thing)
  return .staleTarget place thing thresholdTicks graceTicks

/-- Only used-percent states can be evaluated. -/
def checkEvaluable (place state : String) : Sl1OperatingPredicate → Checked Unit
  | .usedPercentGte _ _ => .ok ()
  | .overloadedTicksGt _ => .error (.failureConditionPlaceStatePredicateUnsupported raw.id place
      state "overloaded_ticks_gt")

def placeStateParams : Checked Sl1FailureConditionParams := do
  let place ← requireFcField raw.id kind "place" raw.place
  let state ← requireFcField raw.id kind "state" raw.state
  let graceTicks := (raw.graceTicks.map (·.toNat)).getD 0
  rejectFcField raw.id kind "thing" raw.thing.isSome
  rejectFcField raw.id kind "threshold_ticks" raw.thresholdTicks.isSome
  rejectFcField raw.id kind "objective_id" raw.objectiveId.isSome
  rejectFcField raw.id kind "max_count" raw.maxCount.isSome
  checkGrace raw graceTicks
  let element ← present (scope.place place) (.failureConditionUnknownTarget raw.id "place" place)
  let operating ← present element.operatingStates[state]?
    (.failureConditionUnknownPlaceState raw.id place state)
  checkEvaluable raw place state operating.predicate
  return .placeState place state graceTicks

def objectiveBreachCountParams : Checked Sl1FailureConditionParams := do
  let objectiveId ← requireFcField raw.id kind "objective_id" raw.objectiveId
  let maxCount ← requireFcField raw.id kind "max_count" (raw.maxCount.map (·.toNat))
  rejectFcField raw.id kind "place" raw.place.isSome
  rejectFcField raw.id kind "thing" raw.thing.isSome
  rejectFcField raw.id kind "threshold_ticks" raw.thresholdTicks.isSome
  rejectFcField raw.id kind "grace_ticks" raw.graceTicks.isSome
  rejectFcField raw.id kind "state" raw.state.isSome
  reject (maxCount == 0 || maxObjectiveBreachCount < maxCount)
    (.failureConditionMaxCountOutOfRange raw.id maxCount maxObjectiveBreachCount)
  reject (!scope.objectiveIds.contains objectiveId)
    (.failureConditionUnknownObjective raw.id objectiveId)
  return .objectiveBreachCount objectiveId maxCount

def failureParams : Checked Sl1FailureConditionParams :=
  match kind with
  | .staleTarget => staleTargetParams scope kind raw
  | .placeState => placeStateParams scope kind raw
  | .objectiveBreachCount => objectiveBreachCountParams scope kind raw

end Failure

def validateFailureCondition (scope : FailureScope) (raw : RawSl1FailureCondition) :
    Checked Sl1FailureCondition := do
  reject (!isValidSl1Id raw.id) (.failureConditionInvalidId raw.id)
  let kind ← fcKindFromStr raw.id raw.kind
  let params ← failureParams scope kind raw
  return { id := raw.id, kind, params }

def surviveUntilParams (kind : Sl1VictoryConditionKind) (raw : RawSl1VictoryCondition) :
    Checked Sl1VictoryConditionParams := do
  let atTick ← requireVcField raw.id kind "at_tick" (raw.atTick.map (·.toNat))
  reject (atTick == 0 || maxObjectiveTicks < atTick)
    (.victoryConditionAtTickOutOfRange raw.id atTick maxObjectiveTicks)
  return .surviveUntil atTick

def validateVictoryCondition (raw : RawSl1VictoryCondition) : Checked Sl1VictoryCondition := do
  reject (!isValidSl1Id raw.id) (.victoryConditionInvalidId raw.id)
  let kind ← vcKindFromStr raw.id raw.kind
  let params ← surviveUntilParams kind raw
  return { id := raw.id, kind, params }

end Simetro.Sl1
