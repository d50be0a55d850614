import Simetro.Sl1.Footprints
import Simetro.Sl1.References

/-! The evaluators with their `expect`s: `none` stands where the engine panics. A declared element
has its entry from the load on, so no expectation fails. -/

namespace Simetro.Sl1

open Simetro.Library Simetro.Protocol

namespace Objectives

variable (scene : Sl1Scene) (now : Nat)

def expectObjective (frame : Frame) (objective : Sl1Objective) : Option Frame :=
  (frame.runtime.objectives[objective.id]?).map fun _ => evaluateObjective scene now frame objective

def expectFailureCondition (frame : Frame) (condition : Sl1FailureCondition) : Option Frame :=
  (frame.runtime.failureConditions[condition.id]?).map fun _ =>
    evaluateFailureCondition scene now frame condition

def expectVictoryCondition (frame : Frame) (condition : Sl1VictoryCondition) : Option Frame :=
  (frame.runtime.victoryConditions[condition.id]?).map fun _ =>
    evaluateVictoryCondition now frame condition

def expectRun (frame : Frame) : Option Frame :=
  if frame.runtime.gameOutcome.isTerminal then some frame
  else do
    let frame ← scene.objectives.foldlM (expectObjective scene now) frame
    let frame ← scene.failureConditions.foldlM (expectFailureCondition scene now) frame
    let frame ← scene.victoryConditions.foldlM (expectVictoryCondition now) frame
    let frame := recomputeOutcome scene now frame
    return frame.modify fun runtime => { runtime with gamePhase := computePhase scene runtime }

end Objectives

namespace Observability

variable (scene : Sl1Scene) (now : Nat)

def expectDashboard (frame : Frame) (dashboard : Sl1Dashboard) : Option Frame :=
  (frame.runtime.dashboardStates[dashboard.id]?).map fun _ => updateDashboard now frame dashboard

/-- The metric's place or dashboard is declared. -/
def expectMetric (frame : Frame) (metric : Sl1Metric) : Option Frame :=
  (computeMetricState scene frame.runtime now metric.source).map fun _ =>
    updateMetric scene now frame metric

/-- An alert that begins to fire has a value to report. -/
def emitsValue : Sl1AlertState → Sl1AlertState → Sl1MetricState → Bool
  | .inactive, .firing _, .noData => false
  | _, _, _ => true

def expectAlert (frame : Frame) (alert : Sl1Alert) : Option Frame := do
  let metric ← frame.runtime.metricStates[alert.metric]?
  let previous ← frame.runtime.alertStates[alert.id]?
  if emitsValue previous (nextAlertState now alert.predicate previous metric) metric then
    some (updateAlert now frame alert)
  else none

def expectRun (frame : Frame) : Option Frame :=
  match scene.observability with
  | none => some frame
  | some observability => do
    let frame ← observability.dashboards.foldlM (expectDashboard now) frame
    let frame ← observability.metrics.foldlM (expectMetric scene now) frame
    observability.alerts.foldlM (expectAlert now) frame

end Observability

namespace Milestones

def expectMilestone (now : Nat) (frame : Frame) (milestone : Sl1Milestone) : Option Frame :=
  (frame.runtime.milestones[milestone.id]?).map fun _ => evaluate now frame milestone

def expectRun (scene : Sl1Scene) (now : Nat) (frame : Frame) : Option Frame :=
  scene.milestones.foldlM (expectMilestone now) frame

end Milestones

/-- One tick, with the `expect`s of the objective, observability and milestone evaluators. -/
def expectRun (scene : Sl1Scene) (backend : AgentBackend) (now : Nat) (frame : Frame) :
    Option Frame := do
  let frame ← Objectives.expectRun scene now (runFlow scene now frame)
  let frame ← Observability.expectRun scene now frame
  let frame := if scene.agents.isEmpty then frame else Agents.run scene now backend frame
  if scene.milestones.isEmpty then some frame else Milestones.expectRun scene now frame

/-- Every declared element has its runtime entry. -/
structure Sl1Scene.Entered (scene : Sl1Scene) (runtime : Sl1RuntimeState) : Prop where
  objectives : ∀ objective ∈ scene.objectives, objective.id ∈ runtime.objectives
  failureConditions : ∀ condition ∈ scene.failureConditions, condition.id ∈ runtime.failureConditions
  victoryConditions : ∀ condition ∈ scene.victoryConditions, condition.id ∈ runtime.victoryConditions
  dashboards : ∀ dashboard ∈ scene.dashboards, dashboard.id ∈ runtime.dashboardStates
  metrics : ∀ metric ∈ scene.metrics, metric.id ∈ runtime.metricStates
  alerts : ∀ alert ∈ scene.alerts, alert.id ∈ runtime.alertStates
  milestones : ∀ milestone ∈ scene.milestones, milestone.id ∈ runtime.milestones

namespace Sl1Scene.Entered

section Map

variable {Value : Type} {map : IdMap Value}

theorem mem_insert {id : String} (present : id ∈ map) (changed : String) (value : Value) :
    id ∈ map.insert changed value :=
  Std.ExtTreeMap.mem_insert.mpr (.inr present)

theorem held {id : String} (present : id ∈ map) : ∃ value, map[id]? = some value :=
  Option.isSome_iff_exists.mp (Std.ExtTreeMap.mem_iff_isSome_getElem?.mp present)

end Map

variable {scene : Sl1Scene} {now : Nat} {frame : Frame}

/-- The attempt reaches the frame, and every entry is still there. -/
def Reaches (scene : Sl1Scene) (attempt : Option Frame) (frame : Frame) : Prop :=
  attempt = some frame ∧ scene.Entered frame.runtime

theorem load (scene : Sl1Scene) : scene.Entered (.fromScene scene) where
  objectives _ listed := mem_table.mpr ⟨_, listed, rfl⟩
  failureConditions _ listed := mem_table.mpr ⟨_, listed, rfl⟩
  victoryConditions _ listed := mem_table.mpr ⟨_, listed, rfl⟩
  dashboards _ listed := mem_table.mpr ⟨_, listed, rfl⟩
  metrics _ listed := mem_table.mpr ⟨_, listed, rfl⟩
  alerts _ listed := mem_table.mpr ⟨_, listed, rfl⟩
  milestones _ listed := mem_table.mpr ⟨_, listed, rfl⟩

variable (now) in
theorem runFlow (entered : scene.Entered frame.runtime) :
    scene.Entered (runFlow scene now frame).runtime := by
  obtain ⟨_, _, _, _, _, _, _, _, same⟩ := runFlow_writes scene now frame
  rw [same]
  exact { entered with }

section Objectives

theorem evaluateObjective (entered : scene.Entered frame.runtime) (objective : Sl1Objective) :
    scene.Entered (Objectives.evaluateObjective scene now frame objective).runtime := by
  have warned : scene.Entered (Objectives.warnUnsupported now frame objective).runtime := by
    unfold Objectives.warnUnsupported
    split
    · exact { entered with }
    · exact entered
  have stored (entry : Sl1ObjectiveRuntime) : scene.Entered
      ((Objectives.warnUnsupported now frame objective).modify fun runtime => { runtime with
        objectives := runtime.objectives.insert objective.id entry }).runtime :=
    { warned with
      objectives := fun other listed => mem_insert (warned.objectives other listed) _ _ }
  unfold Objectives.evaluateObjective
  split
  · exact entered
  · simp only
    split
    · exact stored _
    · exact stored _

theorem evaluateFailureCondition (entered : scene.Entered frame.runtime)
    (condition : Sl1FailureCondition) :
    scene.Entered (Objectives.evaluateFailureCondition scene now frame condition).runtime := by
  have stored (entry : Sl1FailureConditionRuntime) : scene.Entered { frame.runtime with
      failureConditions := frame.runtime.failureConditions.insert condition.id entry } :=
    { entered with
      failureConditions := fun other listed =>
        mem_insert (entered.failureConditions other listed) _ _ }
  unfold Objectives.evaluateFailureCondition
  split
  · exact entered
  · simp only
    split
    · exact stored _
    · exact stored _

theorem evaluateVictoryCondition (entered : scene.Entered frame.runtime)
    (condition : Sl1VictoryCondition) :
    scene.Entered (Objectives.evaluateVictoryCondition now frame condition).runtime := by
  unfold Objectives.evaluateVictoryCondition
  split
  · exact entered
  · split
    · exact { entered with
        victoryConditions := fun other listed =>
          mem_insert (entered.victoryConditions other listed) _ _ }
    · exact entered

variable (now) in
theorem evaluateObjectives (entered : scene.Entered frame.runtime) :
    Reaches scene (scene.objectives.foldlM (Objectives.expectObjective scene now) frame)
      (Objectives.evaluateObjectives scene now frame) := by
  refine foldlM_succeeds (fun frame : Frame => scene.Entered frame.runtime)
    (fun frame objective listed entered => ?_)
    (fun _ objective _ entered => entered.evaluateObjective objective) entered
  obtain ⟨entry, found⟩ := held (entered.objectives objective listed)
  rw [Objectives.expectObjective, found, Option.map_some]

variable (now) in
theorem evaluateFailureConditions (entered : scene.Entered frame.runtime) :
    Reaches scene
      (scene.failureConditions.foldlM (Objectives.expectFailureCondition scene now) frame)
      (Objectives.evaluateFailureConditions scene now frame) := by
  refine foldlM_succeeds (fun frame : Frame => scene.Entered frame.runtime)
    (fun frame condition listed entered => ?_)
    (fun _ condition _ entered => entered.evaluateFailureCondition condition) entered
  obtain ⟨entry, found⟩ := held (entered.failureConditions condition listed)
  rw [Objectives.expectFailureCondition, found, Option.map_some]

variable (now) in
theorem evaluateVictoryConditions (entered : scene.Entered frame.runtime) :
    Reaches scene (scene.victoryConditions.foldlM (Objectives.expectVictoryCondition now) frame)
      (Objectives.evaluateVictoryConditions scene now frame) := by
  refine foldlM_succeeds (fun frame : Frame => scene.Entered frame.runtime)
    (fun frame condition listed entered => ?_)
    (fun _ condition _ entered => entered.evaluateVictoryCondition condition) entered
  obtain ⟨entry, found⟩ := held (entered.victoryConditions condition listed)
  rw [Objectives.expectVictoryCondition, found, Option.map_some]

variable (now) in
/-- No `expect` of the objectives pass fails. -/
theorem objectivesRun (entered : scene.Entered frame.runtime) :
    Reaches scene (Objectives.expectRun scene now frame) (Objectives.run scene now frame) := by
  unfold Objectives.expectRun Objectives.run
  split
  · exact ⟨rfl, entered⟩
  · obtain ⟨judged, entered⟩ := entered.evaluateObjectives now
    obtain ⟨failed, entered⟩ := entered.evaluateFailureConditions now
    obtain ⟨met, entered⟩ := entered.evaluateVictoryConditions now
    constructor
    · simp only [judged, failed, met, Option.bind_eq_bind, Option.bind_some]
      rfl
    · simp only [Frame.modify_runtime, Objectives.recomputeOutcome_writes]
      exact { entered with }

end Objectives

section Observability

theorem updateDashboard (entered : scene.Entered frame.runtime) (dashboard : Sl1Dashboard) :
    scene.Entered (Observability.updateDashboard now frame dashboard).runtime := by
  have stored (state : Sl1DashboardState) : scene.Entered { frame.runtime with
      dashboardStates := frame.runtime.dashboardStates.insert dashboard.id state } :=
    { entered with
      dashboards := fun other listed => mem_insert (entered.dashboards other listed) _ _ }
  unfold Observability.updateDashboard
  simp only
  split
  · exact entered
  · split
    · exact stored _
    · exact stored _

theorem updateMetric (entered : scene.Entered frame.runtime) (metric : Sl1Metric) :
    scene.Entered (Observability.updateMetric scene now frame metric).runtime := by
  unfold Observability.updateMetric
  split
  · exact entered
  · exact { entered with
      metrics := fun other listed => mem_insert (entered.metrics other listed) _ _ }

theorem updateAlert (entered : scene.Entered frame.runtime) (alert : Sl1Alert) :
    scene.Entered (Observability.updateAlert now frame alert).runtime := by
  have stored (state : Sl1AlertState) : scene.Entered { frame.runtime with
      alertStates := frame.runtime.alertStates.insert alert.id state } :=
    { entered with alerts := fun other listed => mem_insert (entered.alerts other listed) _ _ }
  unfold Observability.updateAlert
  split
  · simp only
    split
    · exact stored _
    · exact stored _
  · exact entered

/-- The source of a metric resolves, so it has a state. -/
theorem computeMetricState_resolved {source : Sl1MetricSource} (resolved : source.Resolved scene)
    (runtime : Sl1RuntimeState) (now : Nat) :
    ∃ state, Observability.computeMetricState scene runtime now source = some state := by
  cases source with
  | placeCapacityUsedPercent place capacity =>
    obtain ⟨element, listed, named, -⟩ := resolved
    have found : (scene.placeDef place).isSome = true := by
      simpa [Sl1Scene.placeDef] using ⟨element, listed, named⟩
    obtain ⟨element, found⟩ := Option.isSome_iff_exists.mp found
    exact ⟨_, by rw [Observability.computeMetricState, found, Option.map_some]⟩
  | placeInventoryCount place thing => exact ⟨_, rfl⟩
  | dashboardFreshness dashboard =>
    obtain ⟨declared, listed, named⟩ := resolved
    cases present : scene.observability with
    | none => simp [Sl1Scene.dashboards, present] at listed
    | some observability =>
      have member : declared ∈ observability.dashboards := by
        simpa [Sl1Scene.dashboards, present] using listed
      have found : (observability.dashboards.find? fun other => other.id = dashboard).isSome = true := by
        simpa using ⟨declared, member, named⟩
      obtain ⟨declared, found⟩ := Option.isSome_iff_exists.mp found
      simp only [Observability.computeMetricState, present, Option.bind_eq_bind, Option.bind_some, found]
      split
      · exact ⟨_, rfl⟩
      · exact ⟨_, rfl⟩

/-- Only a value makes an alert fire. -/
theorem emitsValue_next (predicate : Sl1AlertPredicate) (previous : Sl1AlertState)
    (metric : Sl1MetricState) : Observability.emitsValue previous
      (Observability.nextAlertState now predicate previous metric) metric = true := by
  unfold Observability.emitsValue
  split
  · rename_i fires
    cases fires
  · rfl

variable (now) in
theorem updateDashboards (entered : scene.Entered frame.runtime) :
    Reaches scene (scene.dashboards.foldlM (Observability.expectDashboard now) frame)
      (scene.dashboards.foldl (Observability.updateDashboard now) frame) := by
  refine foldlM_succeeds (fun frame : Frame => scene.Entered frame.runtime)
    (fun frame dashboard listed entered => ?_)
    (fun _ dashboard _ entered => entered.updateDashboard dashboard) entered
  obtain ⟨previous, found⟩ := held (entered.dashboards dashboard listed)
  rw [Observability.expectDashboard, found, Option.map_some]

variable (now) in
theorem updateMetrics (references : scene.References) (entered : scene.Entered frame.runtime) :
    Reaches scene (scene.metrics.foldlM (Observability.expectMetric scene now) frame)
      (scene.metrics.foldl (Observability.updateMetric scene now) frame) := by
  refine foldlM_succeeds (fun frame : Frame => scene.Entered frame.runtime)
    (fun frame metric listed entered => ?_)
    (fun _ metric _ entered => entered.updateMetric metric) entered
  obtain ⟨state, computed⟩ := computeMetricState_resolved
    (references.metrics metric listed) frame.runtime now
  rw [Observability.expectMetric, computed, Option.map_some]

variable (now) in
theorem updateAlerts (references : scene.References) (entered : scene.Entered frame.runtime) :
    Reaches scene (scene.alerts.foldlM (Observability.expectAlert now) frame)
      (scene.alerts.foldl (Observability.updateAlert now) frame) := by
  refine foldlM_succeeds (fun frame : Frame => scene.Entered frame.runtime)
    (fun frame alert listed entered => ?_)
    (fun _ alert _ entered => entered.updateAlert alert) entered
  obtain ⟨measure, declared, named⟩ := references.alerts alert listed
  have measures : measure.id = alert.metric := named
  obtain ⟨metric, measured⟩ := held (entered.metrics measure declared)
  obtain ⟨previous, found⟩ := held (entered.alerts alert listed)
  rw [measures] at measured
  simp only [Observability.expectAlert, measured, found, Option.bind_eq_bind, Option.bind_some,
    emitsValue_next, if_true]

variable (now) in
/-- No `expect` of the observability pass fails. -/
theorem observabilityRun (references : scene.References) (entered : scene.Entered frame.runtime) :
    Reaches scene (Observability.expectRun scene now frame) (Observability.run scene now frame) := by
  obtain ⟨shown, entered'⟩ := entered.updateDashboards now
  obtain ⟨measured, entered'⟩ := entered'.updateMetrics now references
  obtain ⟨alerted, entered'⟩ := entered'.updateAlerts now references
  unfold Observability.expectRun Observability.run
  cases present : scene.observability with
  | none => exact ⟨rfl, entered⟩
  | some observability =>
    have dashboards : scene.dashboards = observability.dashboards := by
      simp [Sl1Scene.dashboards, present]
    have metrics : scene.metrics = observability.metrics := by simp [Sl1Scene.metrics, present]
    have alerts : scene.alerts = observability.alerts := by simp [Sl1Scene.alerts, present]
    rw [dashboards] at shown
    rw [dashboards, metrics] at measured
    rw [dashboards, metrics, alerts] at alerted entered'
    refine ⟨?_, entered'⟩
    simp only [shown, measured, Option.bind_eq_bind, Option.bind_some]
    exact alerted

end Observability

section Milestones

theorem milestone (entered : scene.Entered frame.runtime) (milestone : Sl1Milestone) :
    scene.Entered (Milestones.evaluate now frame milestone).runtime := by
  have stored (entry : Sl1MilestoneRuntime) :
      scene.Entered (Milestones.store milestone entry frame).runtime :=
    { entered with
      milestones := fun other listed => mem_insert (entered.milestones other listed) _ _ }
  unfold Milestones.evaluate
  split
  · exact entered
  · split
    · exact entered
    · split
      · split
        · exact stored _
        · exact entered
      · split
        · exact entered
        · exact stored _

variable (now) in
/-- No `expect` of the milestones pass fails. -/
theorem milestonesRun (entered : scene.Entered frame.runtime) :
    Reaches scene (Milestones.expectRun scene now frame) (Milestones.run scene now frame) := by
  refine foldlM_succeeds (fun frame : Frame => scene.Entered frame.runtime)
    (fun frame milestone listed entered => ?_)
    (fun _ milestone _ entered => entered.milestone milestone) entered
  obtain ⟨entry, found⟩ := held (entered.milestones milestone listed)
  rw [Milestones.expectMilestone, found, Option.map_some]

end Milestones

variable (now) in
/-- No `expect` of a tick fails. -/
theorem run (references : scene.References) (backend : AgentBackend)
    (entered : scene.Entered frame.runtime) :
    Reaches scene (expectRun scene backend now frame) (Sl1.run scene backend now frame) := by
  obtain ⟨judged, entered⟩ := (entered.runFlow now).objectivesRun now
  obtain ⟨observed, entered⟩ := entered.observabilityRun now references
  unfold expectRun Sl1.run runObservers
  simp only [judged, observed, Option.bind_eq_bind, Option.bind_some]
  generalize Observability.run scene now _ = observer at entered ⊢
  have acted : scene.Entered (if scene.agents.isEmpty then observer
      else Agents.run scene now backend observer).runtime := by
    split
    · exact entered
    · obtain ⟨_, _, same⟩ := Agents.run_writes scene now backend observer
      rw [same]
      exact { entered with }
  split
  · exact ⟨rfl, acted⟩
  · exact acted.milestonesRun now

end Sl1Scene.Entered

theorem ticks_entered {scene : Sl1Scene} (references : scene.References) (backend : AgentBackend)
    (count : Nat) : scene.Entered (ticks scene backend count).runtime := by
  induction count with
  | zero => exact .load scene
  | succ count ih => exact (ih.run _ references backend).2

/-- In every run of an accepted scene every reference resolves, every declared element has its
entry, and the next tick gets past every `expect`. -/
theorem expects_unreachable {raw : RawSl1Scene} {scene : Sl1Scene}
    (accepted : validate raw = .ok scene) (backend : AgentBackend) (count : Nat) :
    scene.References ∧ scene.Entered (ticks scene backend count).runtime ∧
      expectRun scene backend (worldTick (count + 1)) (ticks scene backend count) =
        some (ticks scene backend (count + 1)) := by
  have references := validate_references accepted
  have entered := ticks_entered references backend count
  exact ⟨references, entered, (entered.run _ references backend).1⟩

/-- A stock that only ages: on tick 2 its dashboard goes stale, the alert on that age fires and
the milestone on that state is reached. -/
def agingScene : RawSl1Scene where
  places := [{
    id := "shop", role := "sink", pos := (0, 0)
    storage := (∅ : IdMap RawSl1StorageSlot).insert "ore" { capacity := 10, initial := 1 } }]
  things := [{ id := "ore", kind := "material" }]
  observability := some {
    metrics := [{ id := "ore_age", source := "dashboard_freshness", dashboard := some "feed" }]
    dashboards := [{
      id := "feed", kind := "live", dependsOn := ["ore"], freshnessSloTicks := 1 }]
    alerts := [{ id := "aged", metric := "ore_age", predicate := .gt 1, severity := "warning" }] }
  milestones := [{ id := "stale_feed", trigger := .dashboardState "feed" "stale", label := "Stale" }]

theorem expects_unreachable_aging : ∃ scene, validate agingScene = .ok scene ∧
    scene.alerts ≠ [] ∧ scene.milestones ≠ [] ∧
    expectRun scene defaultBackend 2 (ticks scene defaultBackend 1) =
      some (ticks scene defaultBackend 2) := by
  have evaluated : yields (validate agingScene) (fun scene =>
      !scene.alerts.isEmpty && !scene.milestones.isEmpty) = true := by decide +kernel
  obtain ⟨scene, accepted, declared⟩ := yields_iff.mp evaluated
  obtain ⟨alerts, milestones⟩ : scene.alerts ≠ [] ∧ scene.milestones ≠ [] := by
    simpa using declared
  exact ⟨scene, accepted, alerts, milestones, (expects_unreachable accepted defaultBackend 1).2.2⟩

end Simetro.Sl1
