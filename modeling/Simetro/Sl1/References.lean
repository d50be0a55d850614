import Simetro.Sl1.Milestones
import Simetro.Sl1.Observability
import Simetro.Sl1.ValidScene

/-! What the failure conditions, the observers and the milestones of an accepted scene refer to
is declared in it. -/

namespace Simetro.Sl1

open Simetro.Library

/-- Declared under its own id. -/
def Declares {Entry : Type} (key : Entry → String) (entries : List Entry) (id : String) : Prop :=
  ∃ entry ∈ entries, key entry = id

theorem declares_of_idSet {Entry : Type} {key : Entry → String} {entries : List Entry} {id : String}
    (known : (!(idSet (entries.map key)).contains id) = false) : Declares key entries id := by
  simp only [idSet, Bool.not_eq_false', Std.ExtTreeSet.contains_ofList, List.contains_eq_mem,
    decide_eq_true_eq] at known
  exact List.mem_map.mp known

namespace Sl1Scene

def dashboards (scene : Sl1Scene) : List Sl1Dashboard :=
  (scene.observability.map (·.dashboards)).getD []

def metrics (scene : Sl1Scene) : List Sl1Metric := (scene.observability.map (·.metrics)).getD []

def alerts (scene : Sl1Scene) : List Sl1Alert := (scene.observability.map (·.alerts)).getD []

end Sl1Scene

section Resolved

variable (scene : Sl1Scene)

/-- The condition is patient within bounds and names a declared objective. -/
def Sl1FailureConditionParams.Resolved : Sl1FailureConditionParams → Prop
  | .staleTarget _ _ _ graceTicks | .placeState _ _ graceTicks => graceTicks ≤ maxObjectiveTicks
  | .objectiveBreachCount objectiveId maxCount =>
      maxCount ≤ maxObjectiveBreachCount ∧ Declares (·.id) scene.objectives objectiveId

def Sl1MetricSource.Resolved : Sl1MetricSource → Prop
  | .placeCapacityUsedPercent place bucket =>
      ∃ element ∈ scene.places, element.id = place ∧ bucket ∈ element.capacity
  | .placeInventoryCount place thing =>
      ∃ element ∈ scene.places, element.id = place ∧ thing ∈ element.storage
  | .dashboardFreshness dashboard => Declares (·.id) scene.dashboards dashboard

def Sl1MilestoneTrigger.Resolved : Sl1MilestoneTrigger → Prop
  | .pressureActivated pressure | .pressureDeactivated pressure =>
      Declares (·.id) scene.pressure pressure
  | .metricThreshold metric _ _ => Declares (·.id) scene.metrics metric
  | .dashboardState dashboard _ => Declares (·.id) scene.dashboards dashboard

/-- Ids are distinct and references resolve. -/
structure Sl1Scene.References : Prop where
  dashboardsIncreasing : Increasing (·.id) scene.dashboards
  metricsIncreasing : Increasing (·.id) scene.metrics
  alertsIncreasing : Increasing (·.id) scene.alerts
  milestonesIncreasing : Increasing (·.id) scene.milestones
  failureConditions : ∀ condition ∈ scene.failureConditions, condition.params.Resolved scene
  metrics : ∀ metric ∈ scene.metrics, metric.source.Resolved scene
  alerts : ∀ alert ∈ scene.alerts, Declares (·.id) scene.metrics alert.metric
  milestones : ∀ milestone ∈ scene.milestones, milestone.trigger.Resolved scene

end Resolved

section Read

variable {scene : Sl1Scene}

theorem failureParams_resolved {thingIds : IdSet} {kind : Sl1FailureConditionKind}
    {raw : RawSl1FailureCondition} {params : Sl1FailureConditionParams}
    (read : failureParams ⟨scene.places, thingIds, idSet (scene.objectives.map (·.id))⟩ kind raw =
      .ok params) : params.Resolved scene := by
  cases kind with
  | staleTarget =>
    simp only [failureParams, staleTargetParams, checkGrace, bind_eq_ok, reject_eq_ok] at read
    obtain ⟨_, -, _, -, _, -, _, -, _, -, _, -, _, -, _, grace, _, -, _, -, _, -, same⟩ := read
    cases same
    simpa [Sl1FailureConditionParams.Resolved] using grace
  | placeState =>
    simp only [failureParams, placeStateParams, checkGrace, bind_eq_ok, reject_eq_ok] at read
    obtain ⟨_, -, _, -, _, -, _, -, _, -, _, -, _, grace, _, -, _, -, _, -, same⟩ := read
    cases same
    simpa [Sl1FailureConditionParams.Resolved] using grace
  | objectiveBreachCount =>
    simp only [failureParams, objectiveBreachCountParams, bind_eq_ok, reject_eq_ok] at read
    obtain ⟨_, -, _, -, _, -, _, -, _, -, _, -, _, -, _, bounded, _, known, same⟩ := read
    cases same
    simp only [Bool.or_eq_false_iff, decide_eq_false_iff_not, Nat.not_lt] at bounded
    exact ⟨bounded.2, declares_of_idSet known⟩

theorem metricSource_resolved {thingIds : IdSet} {kind : Sl1MetricSourceKind} {raw : RawSl1Metric}
    {source : Sl1MetricSource}
    (read : metricSource ⟨scene.places, thingIds, idSet (scene.dashboards.map (·.id))⟩ kind raw =
      .ok source) : source.Resolved scene := by
  have placed {id : String} {element : Sl1Place}
      (listed : (scene.places.find? fun place => place.id = id) = some element) :
      element ∈ scene.places ∧ element.id = id := by
    have named := List.find?_some listed
    exact ⟨List.mem_of_find?_eq_some listed, of_decide_eq_true named⟩
  cases kind with
  | placeCapacityUsedPercent =>
    simp only [metricSource, capacityUsedSource, bind_eq_ok, reject_eq_ok, present_eq_ok] at read
    obtain ⟨_, -, _, -, place, -, bucket, -, element, listed, _, known, same⟩ := read
    cases same
    exact ⟨element, (placed listed).1, (placed listed).2, by simpa using known⟩
  | placeInventoryCount =>
    simp only [metricSource, inventoryCountSource, bind_eq_ok, reject_eq_ok, present_eq_ok] at read
    obtain ⟨_, -, _, -, place, -, thing, -, element, listed, _, -, _, known, same⟩ := read
    cases same
    exact ⟨element, (placed listed).1, (placed listed).2, by simpa using known⟩
  | dashboardFreshness =>
    simp only [metricSource, dashboardFreshnessSource, bind_eq_ok, reject_eq_ok] at read
    obtain ⟨_, -, _, -, _, -, dashboard, -, _, known, same⟩ := read
    cases same
    exact declares_of_idSet known

theorem validateTrigger_resolved {focusable : IdSet} {id : String} {raw : RawSl1MilestoneTrigger}
    {trigger : Sl1MilestoneTrigger}
    (read : validateTrigger ⟨idSet (scene.pressure.map (·.id)), idSet (scene.metrics.map (·.id)),
      idSet (scene.dashboards.map (·.id)), focusable⟩ id raw = .ok trigger) :
    trigger.Resolved scene := by
  cases raw with
  | pressureActivated | pressureDeactivated =>
    simp only [validateTrigger, bind_eq_ok, reject_eq_ok] at read
    obtain ⟨_, known, same⟩ := read
    cases same
    exact declares_of_idSet known
  | metricThreshold =>
    simp only [validateTrigger, bind_eq_ok, reject_eq_ok] at read
    obtain ⟨_, known, _, -, same⟩ := read
    cases same
    exact declares_of_idSet known
  | dashboardState =>
    simp only [validateTrigger, bind_eq_ok, reject_eq_ok] at read
    obtain ⟨_, known, _, -, same⟩ := read
    cases same
    exact declares_of_idSet known

/-- The observers' sections. -/
structure Observed (scene : Sl1Scene) : Prop where
  dashboardsIncreasing : Increasing (·.id) scene.dashboards
  metricsIncreasing : Increasing (·.id) scene.metrics
  alertsIncreasing : Increasing (·.id) scene.alerts
  metrics : ∀ metric ∈ scene.metrics, metric.source.Resolved scene
  alerts : ∀ alert ∈ scene.alerts, Declares (·.id) scene.metrics alert.metric

theorem validateObservability_observed {places : List Sl1Place} {thingIds : IdSet}
    {raw : Option RawSl1Observability} {observability : Option Sl1Observability}
    (read : raw.mapM (validateObservability places thingIds) = .ok observability)
    (scene : Sl1Scene) (placesSame : scene.places = places)
    (same : scene.observability = observability) : Observed scene := by
  subst placesSame same
  cases raw with
  | none =>
    have absent : scene.observability = none := (Except.ok.inj read).symm
    have none {Entry : Type} (section' : Sl1Observability → List Entry) :
        (scene.observability.map section').getD [] = [] := by
      rw [absent]
      rfl
    constructor <;> simp [Sl1Scene.dashboards, Sl1Scene.metrics, Sl1Scene.alerts, none, Increasing]
  | some raw =>
    simp only [Option.mapM_some, map_eq_pure_bind, bind_eq_ok] at read
    obtain ⟨observability, read, same⟩ := read
    have present : scene.observability = some observability := (Except.ok.inj same).symm
    have some' {Entry : Type} (section' : Sl1Observability → List Entry) :
        (scene.observability.map section').getD [] = section' observability := by
      rw [present]
      rfl
    have dashboards : scene.dashboards = observability.dashboards := some' _
    have metrics : scene.metrics = observability.metrics := some' _
    have alerts : scene.alerts = observability.alerts := some' _
    simp only [validateObservability, bind_eq_ok] at read
    obtain ⟨_, -, _, -, _, -, declared, dashboardsRead, measured, metricsRead, alerting, alertsRead,
      same⟩ := read
    cases same
    simp only at dashboards metrics alerts
    have metricCatalog := catalog_sound metricsRead
    have alertCatalog := catalog_sound alertsRead
    refine ⟨dashboards ▸ (catalog_sound dashboardsRead).increasing, metrics ▸ metricCatalog.increasing,
      alerts ▸ alertCatalog.increasing, fun metric listed => ?_, fun alert listed => ?_⟩
    · rw [metrics] at listed
      obtain ⟨raw, -, read⟩ := metricCatalog.readFrom listed
      rw [← dashboards] at read
      simp only [validateMetric, bind_eq_ok, reject_eq_ok] at read
      obtain ⟨_, -, kind, -, source, found, same⟩ := read
      cases same
      exact metricSource_resolved found
    · rw [alerts] at listed
      obtain ⟨raw, -, read⟩ := alertCatalog.readFrom listed
      rw [← metrics] at read
      simp only [validateAlert, bind_eq_ok, reject_eq_ok] at read
      obtain ⟨_, -, _, known, _, -, _, -, same⟩ := read
      cases same
      exact declares_of_idSet known

/-- Every reference of an accepted scene resolves. -/
theorem validate_references {raw : RawSl1Scene} (success : validate raw = .ok scene) :
    scene.References := by
  simp only [validate, bind_eq_ok] at success
  obtain ⟨_, -, things, -, places, -, links, -, transforms, -, demand, -, pressure, -, objectives, -,
    failures, failuresRead, victories, -, observability, observed, agents, -, milestones,
    milestonesRead, same⟩ := success
  have built : scene.places = places ∧ scene.observability = observability := by
    cases same
    exact ⟨rfl, rfl⟩
  have seen := validateObservability_observed observed scene built.1 built.2
  have milestoneCatalog := catalog_sound milestonesRead
  cases same
  refine ⟨seen.dashboardsIncreasing, seen.metricsIncreasing, seen.alertsIncreasing,
    milestoneCatalog.increasing, fun condition listed => ?_, seen.metrics, seen.alerts,
    fun milestone listed => ?_⟩
  · obtain ⟨raw, -, read⟩ := (catalog_sound failuresRead).readFrom listed
    simp only [validateFailureCondition, bind_eq_ok] at read
    obtain ⟨_, -, kind, -, params, found, same⟩ := read
    cases same
    exact failureParams_resolved found
  · obtain ⟨raw, -, read⟩ := milestoneCatalog.readFrom listed
    simp only [validateMilestone, bind_eq_ok] at read
    obtain ⟨_, -, _, -, _, -, _, -, trigger, found, same⟩ := read
    cases same
    exact validateTrigger_resolved found

end Read

end Simetro.Sl1
