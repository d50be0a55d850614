import Simetro.Sl1.ValidateStructure

/-! Validation of observability, agents and milestones. -/

namespace Simetro.Sl1

open Simetro.Library

def dashboardKind (id : String) : String → Checked Sl1DashboardKind
  | "report" => .ok .report
  | "live" => .ok .live
  | "ad_hoc" => .ok .adHoc
  | kind => .error (.dashboardUnsupportedKind id kind)

def checkDependsOn (dashboard : String) (thingIds : IdSet) : List String → IdSet → Checked Unit
  | [], _ => .ok ()
  | entry :: rest, seen => do
      reject (isBlank entry || seen.contains entry) (.dashboardInvalidDependsOn dashboard entry)
      reject (!thingIds.contains entry) (.dashboardUnknownThing dashboard entry)
      checkDependsOn dashboard thingIds rest (seen.insert entry)

def validateDashboard (thingIds : IdSet) (raw : RawSl1Dashboard) : Checked Sl1Dashboard := do
  reject (!isValidSl1Id raw.id) (.dashboardInvalidId raw.id)
  let kind ← dashboardKind raw.id raw.kind
  reject (raw.freshnessSloTicks == 0) (.dashboardFreshnessSloZero raw.id)
  checkDependsOn raw.id thingIds raw.dependsOn ∅
  return {
    id := raw.id
    kind
    dependsOn := sortByKey id raw.dependsOn
    freshnessSloTicks := raw.freshnessSloTicks.toNat }

def metricSourceKind (id : String) : String → Checked Sl1MetricSourceKind
  | "place_capacity_used_percent" => .ok .placeCapacityUsedPercent
  | "place_inventory_count" => .ok .placeInventoryCount
  | "dashboard_freshness" => .ok .dashboardFreshness
  | source => .error (.metricUnsupportedSource id source)

def takeMetricField (id : String) (kind : Sl1MetricSourceKind) (field : String)
    (value : Option String) : Checked String :=
  present value (.metricMissingField id kind.asStr field)

def forbidMetricField (id : String) (kind : Sl1MetricSourceKind) (field : String)
    (present : Bool) : Checked Unit :=
  reject present (.metricExtraField id kind.asStr field)

/-- What metrics may refer to. -/
structure MetricScope where
  places : List Sl1Place
  thingIds : IdSet
  dashboardIds : IdSet

def MetricScope.place (scope : MetricScope) (id : String) : Option Sl1Place :=
  scope.places.find? fun place => place.id = id

section Metric

variable (scope : MetricScope) (kind : Sl1MetricSourceKind) (raw : RawSl1Metric)

def capacityUsedSource : Checked Sl1MetricSource := do
  forbidMetricField raw.id kind "thing" raw.thing.isSome
  forbidMetricField raw.id kind "dashboard" raw.dashboard.isSome
  let place ← takeMetricField raw.id kind "place" raw.place
  let capacity ← takeMetricField raw.id kind "capacity" raw.capacity
  let element ← present (scope.place place) (.metricUnknownPlace raw.id place)
  reject (!element.capacity.contains capacity) (.metricUnknownCapacityBucket raw.id place capacity)
  return .placeCapacityUsedPercent place capacity

def inventoryCountSource : Checked Sl1MetricSource := do
  forbidMetricField raw.id kind "capacity" raw.capacity.isSome
  forbidMetricField raw.id kind "dashboard" raw.dashboard.isSome
  let place ← takeMetricField raw.id kind "place" raw.place
  let thing ← takeMetricField raw.id kind "thing" raw.thing
  let element ← present (scope.place place) (.metricUnknownPlace raw.id place)
  reject (!scope.thingIds.contains thing) (.metricUnknownThing raw.id thing)
  reject (!element.storage.contains thing) (.metricNoStorageSlot raw.id place thing)
  return .placeInventoryCount place thing

def dashboardFreshnessSource : Checked Sl1MetricSource := do
  forbidMetricField raw.id kind "place" raw.place.isSome
  forbidMetricField raw.id kind "thing" raw.thing.isSome
  forbidMetricField raw.id kind "capacity" raw.capacity.isSome
  let dashboard ← takeMetricField raw.id kind "dashboard" raw.dashboard
  reject (!scope.dashboardIds.contains dashboard) (.metricUnknownDashboard raw.id dashboard)
  return .dashboardFreshness dashboard

def metricSource : Checked Sl1MetricSource :=
  match kind with
  | .placeCapacityUsedPercent => capacityUsedSource scope kind raw
  | .placeInventoryCount => inventoryCountSource scope kind raw
  | .dashboardFreshness => dashboardFreshnessSource scope kind raw

end Metric

def validateMetric (scope : MetricScope) (raw : RawSl1Metric) : Checked Sl1Metric := do
  reject (!isValidSl1Id raw.id) (.metricInvalidId raw.id)
  let kind ← metricSourceKind raw.id raw.source
  let source ← metricSource scope kind raw
  return { id := raw.id, source }

def alertPredicate (id : String) : RawSl1AlertPredicate → Checked Sl1AlertPredicate
  | .gt threshold => .ok (.gt threshold.toNat)
  | .lt threshold => .ok (.lt threshold.toNat)
  | .outOfRange min max => do
      reject (max < min) (.alertOutOfRangeInverted id min.toNat max.toNat)
      return .outOfRange min.toNat max.toNat

def alertSeverity (id : String) : String → Checked Sl1AlertSeverity
  | "info" => .ok .info
  | "warning" => .ok .warning
  | "critical" => .ok .critical
  | severity => .error (.alertUnsupportedSeverity id severity)

def validateAlert (metricIds : IdSet) (raw : RawSl1Alert) : Checked Sl1Alert := do
  reject (!isValidSl1Id raw.id) (.alertInvalidId raw.id)
  reject (!metricIds.contains raw.metric) (.alertUnknownMetric raw.id raw.metric)
  let predicate ← alertPredicate raw.id raw.predicate
  let severity ← alertSeverity raw.id raw.severity
  return { id := raw.id, metric := raw.metric, predicate, severity }

def checkObservabilityCap (sectionName : String) (count : Nat) : Checked Unit :=
  reject (maxObservabilityItems < count)
    (.observabilityTooManyItems sectionName count maxObservabilityItems)

/-- A section without cross checks of its own. -/
def noCrossCheck (_ : α) : Checked Unit := .ok ()

def idSet (ids : List String) : IdSet := .ofList ids

def validateObservability (places : List Sl1Place) (thingIds : IdSet)
    (raw : RawSl1Observability) : Checked Sl1Observability := do
  checkObservabilityCap "metrics" raw.metrics.length
  checkObservabilityCap "dashboards" raw.dashboards.length
  checkObservabilityCap "alerts" raw.alerts.length
  let dashboards ← catalog (validateDashboard thingIds) (·.id) (.dashboardDuplicateId ·.id)
    noCrossCheck raw.dashboards
  let scope := ⟨places, thingIds, idSet (dashboards.map (·.id))⟩
  let metrics ← catalog (validateMetric scope) (·.id) (.metricDuplicateId ·.id) noCrossCheck
    raw.metrics
  let metricIds := idSet (metrics.map (·.id))
  let alerts ← catalog (validateAlert metricIds) (·.id) (.alertDuplicateId ·.id) noCrossCheck
    raw.alerts
  return { metrics, dashboards, alerts }

/-- What agents may refer to. -/
structure AgentScope where
  placeIds : IdSet
  transformIds : IdSet
  demandIds : IdSet
  dashboardIds : IdSet
  metricIds : IdSet
  objectiveIds : IdSet

section Agent

variable (scope : AgentScope) (agent : String)

/-- One `<kind>:<id>` target of a known kind. -/
def resolveTarget (ids : IdSet) (kind target : String)
    (wrap : String → Sl1AgentObservationTarget) : Checked Sl1AgentObservationTarget := do
  reject (!ids.contains target) (.agentObservationScopeUnknownId agent kind target)
  return wrap target

def parseObservationTarget (entry : String) : Checked Sl1AgentObservationTarget := do
  let malformed := .agentObservationScopeMalformed agent entry
  let (kind, target) ← present (splitOnce ":".toList entry.toList) malformed
  reject target.isEmpty malformed
  let id := String.ofList target
  match String.ofList kind with
  | "place" => resolveTarget agent scope.placeIds "place" id .place
  | "transform" => resolveTarget agent scope.transformIds "transform" id .transform
  | "demand" => resolveTarget agent scope.demandIds "demand" id .demand
  | "dashboard" => resolveTarget agent scope.dashboardIds "dashboard" id .dashboard
  | "metric" => resolveTarget agent scope.metricIds "metric" id .metric
  | _ => .error malformed

def parseScope : List String → IdSet → Checked (List Sl1AgentObservationTarget)
  | [], _ => .ok []
  | entry :: rest, seen => do
      reject (seen.contains entry) (.agentObservationScopeDuplicate agent entry)
      let target ← parseObservationTarget scope agent entry
      let others ← parseScope rest (seen.insert entry)
      return target :: others

def agentActionKind : String → Checked Sl1AgentActionKind
  | "set_job_priority" => .ok .setJobPriority
  | "throttle_demand" => .ok .throttleDemand
  | "scale_place_capacity" => .ok .scalePlaceCapacity
  | "warm_cache" => .ok .warmCache
  | "prioritize_transform" => .ok .prioritizeTransform
  | "pause_report_refresh" => .ok .pauseReportRefresh
  | kind => .error (.agentAllowedActionsUnknownKind agent kind)

def parseActions : List String → IdSet → Checked (List Sl1AgentActionKind)
  | [], _ => .ok []
  | action :: rest, seen => do
      reject (seen.contains action) (.agentAllowedActionsDuplicate agent action)
      let kind ← agentActionKind agent action
      let others ← parseActions rest (seen.insert action)
      return kind :: others

def agentKind : String → Checked Sl1AgentKind
  | "mock" => .ok .mock
  | "builtin" => .ok .builtin
  | "llm" => .ok .llm
  | kind => .error (.agentUnknownKind agent kind)

def checkListLen (field : String) (count max : Nat) : Checked Unit :=
  reject (max < count) (.agentTooManyEntries agent field count max)

def checkObjectiveWeight (row : String × Float) : Checked Unit := do
  let (objective, weight) := row
  reject (!weight.isFinite) (.agentObjectiveWeightNonFinite agent objective)
  reject (!(0.0 ≤ weight && weight ≤ 1.0)) (.agentObjectiveWeightOutOfRange agent objective weight)
  reject (!scope.objectiveIds.contains objective) (.agentObjectiveWeightUnknown agent objective)

end Agent

/-- Place in the declared order of target kinds. -/
def Sl1AgentObservationTarget.rank : Sl1AgentObservationTarget → Nat × String
  | .place id => (0, id)
  | .transform id => (1, id)
  | .demand id => (2, id)
  | .dashboard id => (3, id)
  | .metric id => (4, id)

def Sl1AgentActionKind.rank : Sl1AgentActionKind → Nat
  | .setJobPriority => 0
  | .throttleDemand => 1
  | .scalePlaceCapacity => 2
  | .warmCache => 3
  | .prioritizeTransform => 4
  | .pauseReportRefresh => 5

def sortTargets (targets : List Sl1AgentObservationTarget) : List Sl1AgentObservationTarget :=
  targets.insertionSort fun left right =>
    left.rank.1 < right.rank.1 ∨ (left.rank.1 = right.rank.1 ∧ left.rank.2 ≤ right.rank.2)

def sortActions (actions : List Sl1AgentActionKind) : List Sl1AgentActionKind :=
  actions.insertionSort fun left right => left.rank ≤ right.rank

def validateAgent (scope : AgentScope) (raw : RawSl1Agent) : Checked Sl1Agent := do
  reject (!isValidSl1Id raw.id) (.agentInvalidId raw.id)
  let kind ← agentKind raw.id raw.kind
  reject (isBlank raw.role) (.agentRoleEmpty raw.id)
  let interval := raw.intervalTicks.toNat
  checkPositive interval sl1AgentMaxIntervalTicks (.agentIntervalTicksZero raw.id)
    (.agentIntervalTicksOutOfRange raw.id interval sl1AgentMaxIntervalTicks)
  checkListLen raw.id "observation_scope" raw.observationScope.length sl1AgentMaxListLen
  checkListLen raw.id "allowed_actions" raw.allowedActions.length sl1AgentMaxListLen
  checkListLen raw.id "objective_weights" raw.objectiveWeights.size sl1AgentMaxObjectiveWeights
  let targets ← parseScope scope raw.id raw.observationScope ∅
  let actions ← parseActions raw.id raw.allowedActions ∅
  reject (raw.budgets.maxCostPerDecision == 0) (.agentMaxCostPerDecisionZero raw.id)
  let cooldown := raw.budgets.cooldownTicks.toNat
  reject (sl1AgentMaxCooldownTicks < cooldown)
    (.agentCooldownTicksOutOfRange raw.id cooldown sl1AgentMaxCooldownTicks)
  checkAll (checkObjectiveWeight scope raw.id) raw.objectiveWeights.toList
  return {
    id := raw.id
    kind
    role := raw.role
    intervalTicks := interval
    observationScope := sortTargets targets
    allowedActions := sortActions actions
    maxCostPerDecision := raw.budgets.maxCostPerDecision.toNat
    cooldownTicks := cooldown
    objectiveWeights := raw.objectiveWeights }

/-- What milestones may refer to. -/
structure MilestoneScope where
  pressureIds : IdSet
  metricIds : IdSet
  dashboardIds : IdSet
  focusableIds : IdSet

section Milestone

variable (scope : MilestoneScope) (milestone : String)

def checkCameraFocus : List String → IdSet → Checked Unit
  | [], _ => .ok ()
  | entry :: rest, seen => do
      reject (isBlank entry) (.milestoneEmptyCameraFocusEntry milestone)
      reject (seen.contains entry) (.milestoneDuplicateCameraFocus milestone entry)
      reject (!scope.focusableIds.contains entry) (.milestoneUnknownCameraFocus milestone entry)
      checkCameraFocus rest (seen.insert entry)

def validateCameraFocus : Option (List String) → Checked (List String)
  | none => .ok []
  | some entries => do
      reject entries.isEmpty (.milestoneEmptyCameraFocus milestone)
      checkCameraFocus scope milestone entries ∅
      return entries

def validateHighlight : Option String → Checked (Option String)
  | none => .ok none
  | some target => do
      reject (isBlank target) (.milestoneEmptyHighlight milestone)
      reject (!scope.focusableIds.contains target) (.milestoneUnknownHighlight milestone target)
      return some target

def milestonePredicate : String → Option Sl1MilestonePredicate
  | "gte" => some .gte
  | "lte" => some .lte
  | "gt" => some .gt
  | "lt" => some .lt
  | _ => none

def milestoneDashboardState : String → Option Sl1MilestoneDashboardState
  | "ok" => some .ok
  | "stale" => some .stale
  | "no_data" => some .noData
  | _ => none

def validateTrigger : RawSl1MilestoneTrigger → Checked Sl1MilestoneTrigger
  | .pressureActivated pressure => do
      reject (!scope.pressureIds.contains pressure) (.milestoneUnknownPressure milestone pressure)
      return .pressureActivated pressure
  | .pressureDeactivated pressure => do
      reject (!scope.pressureIds.contains pressure) (.milestoneUnknownPressure milestone pressure)
      return .pressureDeactivated pressure
  | .metricThreshold metric predicate value => do
      reject (!scope.metricIds.contains metric) (.milestoneUnknownMetric milestone metric)
      let parsed ← present (milestonePredicate predicate)
        (.milestoneUnknownPredicate milestone predicate)
      return .metricThreshold metric parsed value.toInt
  | .dashboardState dashboard state => do
      reject (!scope.dashboardIds.contains dashboard)
        (.milestoneUnknownDashboard milestone dashboard)
      let parsed ← present (milestoneDashboardState state)
        (.milestoneUnknownDashboardState milestone state)
      return .dashboardState dashboard parsed

end Milestone

def validateMilestone (scope : MilestoneScope) (raw : RawSl1Milestone) : Checked Sl1Milestone := do
  reject (!isValidSl1Id raw.id) (.milestoneInvalidId raw.id)
  reject (isBlank raw.label) (.milestoneEmptyLabel raw.id)
  let cameraFocus ← validateCameraFocus scope raw.id raw.cameraFocus
  let highlight ← validateHighlight scope raw.id raw.highlight
  let trigger ← validateTrigger scope raw.id raw.trigger
  return { id := raw.id, trigger, label := raw.label, cameraFocus, highlight }

end Simetro.Sl1
