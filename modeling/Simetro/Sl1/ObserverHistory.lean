import Simetro.Library.History
import Simetro.Sl1.Expectations
import Simetro.Sl1.Transcript

/-! Dashboards and alerts over a whole run: their events against the states after each tick. -/

namespace Simetro.Protocol

/-- A change of the dashboard's state: its tick, and both variants. -/
def SimEvent.dashboardChange (id : String) : SimEvent → Option (Nat × String × String)
  | .sl1DashboardStateChanged dashboard before after now _ =>
      if dashboard = id then some (now, before, after) else none
  | _ => none

/-- Whether the alert fired or cleared. -/
def SimEvent.alertEdge (id : String) : SimEvent → Option Bool
  | .sl1AlertFired alert _ _ _ _ _ => if alert = id then some true else none
  | .sl1AlertCleared alert _ _ => if alert = id then some false else none
  | _ => none

/-- The tick the alert fired on. -/
def SimEvent.alertFired (id : String) : SimEvent → Option Nat
  | .sl1AlertFired alert _ _ _ _ now => if alert = id then some now else none
  | _ => none

theorem SimEvent.dashboardChange_topic {id : String} (event : SimEvent)
    (read : (event.dashboardChange id).isSome = true) : event.topic = some .dashboard := by
  cases event <;> first | rfl | cases read

theorem SimEvent.alertEdge_topic {id : String} (event : SimEvent)
    (read : (event.alertEdge id).isSome = true) : event.topic = some .alert := by
  cases event <;> first | rfl | cases read

theorem SimEvent.alertFired_topic {id : String} (event : SimEvent)
    (read : (event.alertFired id).isSome = true) : event.topic = some .alert := by
  cases event <;> first | rfl | cases read

end Simetro.Protocol

namespace Simetro.Sl1

open Simetro.Library Simetro.Library.History Simetro.Protocol

/-- The variant a dashboard is in. -/
def Frame.dashboardVariant (frame : Frame) (id : String) : String :=
  (frame.runtime.dashboardStates.getD id .noData).discriminantStr

def Sl1AlertState.isFiring : Sl1AlertState → Bool
  | .firing _ => true
  | .inactive => false

namespace Observability

variable {scene : Sl1Scene} {now : Nat} {frame : Frame}

section Dashboards

/-- What updating one dashboard reads, and what it writes. -/
private def showing (id : String) (frame : Frame) :
    PairMap FreshnessState × Option Sl1DashboardState × List (Nat × String × String) :=
  (frame.runtime.freshness, frame.runtime.dashboardStates[id]?,
    frame.events.filterMap (SimEvent.dashboardChange id))

private theorem updateDashboard_showing {dashboard : Sl1Dashboard} {id : String}
    (apart : dashboard.id ≠ id) :
    showing id (updateDashboard now frame dashboard) = showing id frame := by
  unfold updateDashboard
  simp only
  split
  · rfl
  · split
    · simp [showing, getElem?_insert_of_ne apart, SimEvent.dashboardChange, apart]
    · simp [showing, getElem?_insert_of_ne apart]

/-- The freshness alone decides the age of a dashboard. -/
theorem dashboardFreshness_congr {runtime other : Sl1RuntimeState} (dashboard : Sl1Dashboard)
    (same : runtime.freshness = other.freshness) :
    dashboardFreshness runtime now dashboard = dashboardFreshness other now dashboard := by
  refine dashboardFreshness_of_ages dashboard fun thing => ?_
  rw [minAge, minAge, ages, ages, same]

theorem computeDashboardState_congr {runtime other : Sl1RuntimeState} (dashboard : Sl1Dashboard)
    (same : runtime.freshness = other.freshness) :
    computeDashboardState runtime now dashboard = computeDashboardState other now dashboard := by
  rw [computeDashboardState, computeDashboardState, dashboardFreshness_congr dashboard same]

/-- The pass updates each declared dashboard once. -/
theorem updateDashboards_entry (distinct : (scene.dashboards.map (·.id)).Nodup)
    {dashboard : Sl1Dashboard} (member : dashboard ∈ scene.dashboards) {previous : Sl1DashboardState}
    (held : frame.runtime.dashboardStates[dashboard.id]? = some previous) :
    let after := scene.dashboards.foldl (updateDashboard now) frame
    let state := computeDashboardState frame.runtime now dashboard
    after.runtime.dashboardStates[dashboard.id]? = some state ∧
    after.events.filterMap (SimEvent.dashboardChange dashboard.id) =
      frame.events.filterMap (SimEvent.dashboardChange dashboard.id) ++
        if previous.discriminantStr = state.discriminantStr then []
        else [(now, previous.discriminantStr, state.discriminantStr)] := by
  intro after state
  have others (current : Frame) (other : Sl1Dashboard) (present : other ∈ scene.dashboards)
      (different : other ≠ dashboard) : showing dashboard.id (updateDashboard now current other) =
        showing dashboard.id current :=
    updateDashboard_showing fun same =>
      different (List.inj_on_of_nodup_map distinct present member same)
  obtain ⟨before, reached, final⟩ := foldl_once (showing dashboard.id)
    (List.Nodup.of_map _ distinct) member others frame
  have same : before.runtime.freshness = frame.runtime.freshness := congrArg (·.1) reached
  have stored : before.runtime.dashboardStates[dashboard.id]? = some previous :=
    (congrArg (·.2.1) reached).trans held
  have logged : before.events.filterMap (SimEvent.dashboardChange dashboard.id) =
      frame.events.filterMap (SimEvent.dashboardChange dashboard.id) := congrArg (·.2.2) reached
  have updated : (updateDashboard now before dashboard).runtime.dashboardStates[dashboard.id]? =
      some state ∧
      (updateDashboard now before dashboard).events.filterMap
        (SimEvent.dashboardChange dashboard.id) =
        before.events.filterMap (SimEvent.dashboardChange dashboard.id) ++
          if previous.discriminantStr = state.discriminantStr then []
          else [(now, previous.discriminantStr, state.discriminantStr)] := by
    unfold updateDashboard
    rw [stored, computeDashboardState_congr dashboard same]
    by_cases unchanged : previous.discriminantStr = state.discriminantStr
    · simp [state, unchanged]
    · simp [state, unchanged, SimEvent.dashboardChange]
  refine ⟨(congrArg (·.2.1) final).trans updated.1, (congrArg (·.2.2) final).trans ?_⟩
  rw [← logged]
  exact updated.2

end Dashboards

section Alerts

/-- What updating one alert reads, and what it writes. -/
private def alarming (id : String) (frame : Frame) :
    IdMap Sl1MetricState × Option Sl1AlertState × List Bool × List Nat :=
  (frame.runtime.metricStates, frame.runtime.alertStates[id]?,
    frame.events.filterMap (SimEvent.alertEdge id), frame.events.filterMap (SimEvent.alertFired id))

private theorem updateAlert_alarming {alert : Sl1Alert} {id : String} (apart : alert.id ≠ id) :
    alarming id (updateAlert now frame alert) = alarming id frame := by
  unfold updateAlert
  split
  · simp only
    split
    · rename_i event due
      have quiet : event.alertEdge id = none ∧ event.alertFired id = none := by
        unfold alertEvent at due
        split at due
        · split at due
          · cases due
            simp [SimEvent.alertEdge, SimEvent.alertFired, apart]
          · cases due
        · cases due
          simp [SimEvent.alertEdge, SimEvent.alertFired, apart]
        · cases due
      simp [alarming, getElem?_insert_of_ne apart, quiet]
    · simp [alarming, getElem?_insert_of_ne apart]
  · rfl

variable (now) in
/-- Events are emitted on the edges only. -/
theorem alertEvent_reads (alert : Sl1Alert) (previous : Sl1AlertState) (metric : Sl1MetricState) :
    let state := nextAlertState now alert.predicate previous metric
    let due := (alertEvent now alert metric previous state).toList
    due.filterMap (SimEvent.alertEdge alert.id) =
      (if previous.isFiring = state.isFiring then [] else [state.isFiring]) ∧
    due.filterMap (SimEvent.alertFired alert.id) =
      if state.isFiring && !previous.isFiring then [now] else [] := by
  cases metric with
  | noData =>
    cases previous with
    | inactive => exact ⟨rfl, rfl⟩
    | firing _ => simp [nextAlertState, alertEvent, Sl1AlertState.isFiring, SimEvent.alertEdge,
        SimEvent.alertFired]
  | ok value =>
    by_cases fires : alert.predicate.fires value = true
    · cases previous with
      | inactive => simp [nextAlertState, fires, alertEvent, Sl1AlertState.isFiring,
          SimEvent.alertEdge, SimEvent.alertFired]
      | firing _ => simp [nextAlertState, fires, alertEvent, Sl1AlertState.isFiring]
    · cases previous with
      | inactive => simp [nextAlertState, fires, alertEvent, Sl1AlertState.isFiring]
      | firing _ => simp [nextAlertState, fires, alertEvent, Sl1AlertState.isFiring,
          SimEvent.alertEdge, SimEvent.alertFired]

/-- An alert fires exactly where its metric has a value and the predicate holds of it. -/
theorem nextAlertState_isFiring (predicate : Sl1AlertPredicate) (previous : Sl1AlertState)
    (metric : Sl1MetricState) : (nextAlertState now predicate previous metric).isFiring = true ↔
      ∃ value, metric = .ok value ∧ predicate.fires value = true := by
  cases metric with
  | noData => simp [nextAlertState, Sl1AlertState.isFiring]
  | ok value =>
    by_cases fires : predicate.fires value = true
    · cases previous <;> simp [nextAlertState, fires, Sl1AlertState.isFiring]
    · simp [nextAlertState, fires, Sl1AlertState.isFiring]

/-- A firing alert keeps the tick it began on. -/
theorem nextAlertState_firing {predicate : Sl1AlertPredicate} {previous : Sl1AlertState}
    {metric : Sl1MetricState} {firedAtTick : Nat}
    (firing : nextAlertState now predicate previous metric = .firing firedAtTick) :
    previous = .firing firedAtTick ∨ previous = .inactive ∧ firedAtTick = now := by
  cases metric with
  | noData => cases firing
  | ok value =>
    unfold nextAlertState at firing
    simp only at firing
    split at firing
    · cases previous with
      | firing _ => exact .inl firing
      | inactive => exact .inr ⟨rfl, (Sl1AlertState.firing.inj firing).symm⟩
    · cases firing

/-- The pass updates each declared alert once. -/
theorem updateAlerts_entry (distinct : (scene.alerts.map (·.id)).Nodup) {alert : Sl1Alert}
    (member : alert ∈ scene.alerts) {metric : Sl1MetricState}
    (measured : frame.runtime.metricStates[alert.metric]? = some metric) {previous : Sl1AlertState}
    (held : frame.runtime.alertStates[alert.id]? = some previous) :
    let after := scene.alerts.foldl (updateAlert now) frame
    let state := nextAlertState now alert.predicate previous metric
    after.runtime.metricStates[alert.metric]? = some metric ∧
    after.runtime.alertStates[alert.id]? = some state ∧
    after.events.filterMap (SimEvent.alertEdge alert.id) =
      frame.events.filterMap (SimEvent.alertEdge alert.id) ++
        (if previous.isFiring = state.isFiring then [] else [state.isFiring]) ∧
    after.events.filterMap (SimEvent.alertFired alert.id) =
      frame.events.filterMap (SimEvent.alertFired alert.id) ++
        if state.isFiring && !previous.isFiring then [now] else [] := by
  intro after state
  have others (current : Frame) (other : Sl1Alert) (present : other ∈ scene.alerts)
      (different : other ≠ alert) : alarming alert.id (updateAlert now current other) =
        alarming alert.id current :=
    updateAlert_alarming fun same =>
      different (List.inj_on_of_nodup_map distinct present member same)
  obtain ⟨before, reached, final⟩ := foldl_once (alarming alert.id)
    (List.Nodup.of_map _ distinct) member others frame
  have metrics : before.runtime.metricStates = frame.runtime.metricStates := congrArg (·.1) reached
  have stored : before.runtime.alertStates[alert.id]? = some previous :=
    (congrArg (·.2.1) reached).trans held
  have edges : before.events.filterMap (SimEvent.alertEdge alert.id) =
      frame.events.filterMap (SimEvent.alertEdge alert.id) := congrArg (·.2.2.1) reached
  have fired : before.events.filterMap (SimEvent.alertFired alert.id) =
      frame.events.filterMap (SimEvent.alertFired alert.id) := congrArg (·.2.2.2) reached
  have updated : alarming alert.id (updateAlert now before alert) =
      (before.runtime.metricStates, some state,
        before.events.filterMap (SimEvent.alertEdge alert.id) ++
          (if previous.isFiring = state.isFiring then [] else [state.isFiring]),
        before.events.filterMap (SimEvent.alertFired alert.id) ++
          if state.isFiring && !previous.isFiring then [now] else []) := by
    obtain ⟨edge, started⟩ := alertEvent_reads now alert previous metric
    unfold updateAlert
    rw [metrics, measured, stored, ← edge, ← started]
    simp only
    split
    · rename_i event due
      simp [alarming, due, metrics, state]
    · rename_i quiet
      simp [alarming, quiet, metrics, state]
  have last := final.trans updated
  refine ⟨?_, congrArg (·.2.1) last, (congrArg (·.2.2.1) last).trans ?_,
    (congrArg (·.2.2.2) last).trans ?_⟩
  · have same : after.runtime.metricStates = before.runtime.metricStates := congrArg (·.1) last
    rw [same, metrics, measured]
  · rw [edges]
  · rw [fired]

end Alerts

theorem run_eq : run scene now frame = scene.alerts.foldl (updateAlert now)
    (scene.metrics.foldl (updateMetric scene now)
      (scene.dashboards.foldl (updateDashboard now) frame)) := by
  unfold run
  cases present : scene.observability with
  | none => simp [Sl1Scene.alerts, Sl1Scene.metrics, Sl1Scene.dashboards, present]
  | some observability => simp [Sl1Scene.alerts, Sl1Scene.metrics, Sl1Scene.dashboards, present]

/-- What the whole pass does to a declared dashboard. -/
theorem run_dashboard (distinct : (scene.dashboards.map (·.id)).Nodup) {dashboard : Sl1Dashboard}
    (member : dashboard ∈ scene.dashboards) {previous : Sl1DashboardState}
    (held : frame.runtime.dashboardStates[dashboard.id]? = some previous) :
    let after := run scene now frame
    let state := computeDashboardState frame.runtime now dashboard
    after.runtime.dashboardStates[dashboard.id]? = some state ∧
    after.events.filterMap (SimEvent.dashboardChange dashboard.id) =
      frame.events.filterMap (SimEvent.dashboardChange dashboard.id) ++
        if previous.discriminantStr = state.discriminantStr then []
        else [(now, previous.discriminantStr, state.discriminantStr)] := by
  intro after state
  obtain ⟨stored, logged⟩ := @updateDashboards_entry scene now _ distinct _ member _ held
  have about := @SimEvent.dashboardChange_topic dashboard.id
  obtain ⟨_, measured⟩ := updateMetrics_writes scene now
    (scene.dashboards.foldl (updateDashboard now) frame) scene.metrics
  obtain ⟨_, alerted⟩ := updateAlerts_writes now (scene.metrics.foldl (updateMetric scene now)
    (scene.dashboards.foldl (updateDashboard now) frame)) scene.alerts
  constructor
  · rw [show after = _ from run_eq, alerted, measured]
    exact stored
  · rw [show after = _ from run_eq, (updateAlerts_extends now _ _).filterMap_of_topic about (by simp),
      (updateMetrics_extends scene now _ _).filterMap_of_topic about (by simp)]
    exact logged

/-- What the whole pass does to a declared alert, whose metric it has measured. -/
theorem run_alert (distinct : (scene.alerts.map (·.id)).Nodup) {alert : Sl1Alert}
    (member : alert ∈ scene.alerts) {metric : Sl1MetricState}
    (measured : (run scene now frame).runtime.metricStates[alert.metric]? = some metric)
    {previous : Sl1AlertState} (held : frame.runtime.alertStates[alert.id]? = some previous) :
    let after := run scene now frame
    let state := nextAlertState now alert.predicate previous metric
    after.runtime.alertStates[alert.id]? = some state ∧
    after.events.filterMap (SimEvent.alertEdge alert.id) =
      frame.events.filterMap (SimEvent.alertEdge alert.id) ++
        (if previous.isFiring = state.isFiring then [] else [state.isFiring]) ∧
    after.events.filterMap (SimEvent.alertFired alert.id) =
      frame.events.filterMap (SimEvent.alertFired alert.id) ++
        if state.isFiring && !previous.isFiring then [now] else [] := by
  intro after state
  let shown := scene.dashboards.foldl (updateDashboard now) frame
  let measuring := scene.metrics.foldl (updateMetric scene now) shown
  have same : after = scene.alerts.foldl (updateAlert now) measuring := run_eq
  obtain ⟨_, showed⟩ := updateDashboards_writes now frame scene.dashboards
  obtain ⟨_, measures⟩ := updateMetrics_writes scene now shown scene.metrics
  obtain ⟨_, alerted⟩ := updateAlerts_writes now measuring scene.alerts
  have present : measuring.runtime.metricStates[alert.metric]? = some metric := by
    rw [show run scene now frame = _ from same, alerted] at measured
    exact measured
  have kept : measuring.runtime.alertStates[alert.id]? = some previous := by
    rw [measures, showed]
    exact held
  obtain ⟨-, stored, edges, fired⟩ :=
    @updateAlerts_entry scene now _ distinct _ member _ present _ kept
  have edge := @SimEvent.alertEdge_topic alert.id
  have start := @SimEvent.alertFired_topic alert.id
  rw [same]
  refine ⟨stored, edges.trans ?_, fired.trans ?_⟩
  · rw [(updateMetrics_extends scene now _ _).filterMap_of_topic edge (by simp),
      (updateDashboards_extends now _ _).filterMap_of_topic edge (by simp)]
  · rw [(updateMetrics_extends scene now _ _).filterMap_of_topic start (by simp),
      (updateDashboards_extends now _ _).filterMap_of_topic start (by simp)]

end Observability

section Ticks

variable (scene : Sl1Scene) (backend : AgentBackend) (count : Nat)

/-- The frame tick `count + 1` observes. -/
def settled : Frame :=
  Objectives.run scene (worldTick (count + 1))
    (runFlow scene (worldTick (count + 1)) (ticks scene backend count))

/-- The frame after the observability pass of tick `count + 1`. -/
def observed : Frame := Observability.run scene (worldTick (count + 1)) (settled scene backend count)

/-- What a tick does around its observability pass. -/
structure Surrounded : Prop where
  dashboardsBefore : (settled scene backend count).runtime.dashboardStates =
    (ticks scene backend count).runtime.dashboardStates
  metricsBefore : (settled scene backend count).runtime.metricStates =
    (ticks scene backend count).runtime.metricStates
  alertsBefore : (settled scene backend count).runtime.alertStates =
    (ticks scene backend count).runtime.alertStates
  milestonesBefore : (observed scene backend count).runtime.milestones =
    (ticks scene backend count).runtime.milestones
  eventsBefore : (ticks scene backend count).Extends
    [.pressure, .objective, .failure, .victory, .outcome] (settled scene backend count)
  dashboards : (ticks scene backend (count + 1)).runtime.dashboardStates =
    (observed scene backend count).runtime.dashboardStates
  metrics : (ticks scene backend (count + 1)).runtime.metricStates =
    (observed scene backend count).runtime.metricStates
  alerts : (ticks scene backend (count + 1)).runtime.alertStates =
    (observed scene backend count).runtime.alertStates
  events : (observed scene backend count).Extends [.agent, .milestone]
    (ticks scene backend (count + 1))

theorem surrounded : Surrounded scene backend count := by
  have flowed := runFlow_extends scene (worldTick (count + 1)) (ticks scene backend count)
  have before : (ticks scene backend count).Extends [.pressure, .objective, .failure, .victory, .outcome]
      (settled scene backend count) :=
    (flowed.mono (by simp)).trans ((Objectives.run_extends scene _ _).mono (by simp))
  obtain ⟨_, _, _, _, _, _, _, _, flow⟩ := runFlow_writes scene (worldTick (count + 1))
    (ticks scene backend count)
  obtain ⟨_, _, _, _, _, _, judged⟩ := Objectives.run_writes scene (worldTick (count + 1))
    (runFlow scene (worldTick (count + 1)) (ticks scene backend count))
  rw [flow] at judged
  change (settled scene backend count).runtime = _ at judged
  obtain ⟨_, _, _, wrote⟩ := runObservers_writes scene backend (worldTick (count + 1))
    (settled scene backend count)
  change (ticks scene backend (count + 1)).runtime = _ at wrote
  obtain ⟨_, _, _, watched⟩ := Observability.run_writes scene (worldTick (count + 1))
    (settled scene backend count)
  change (observed scene backend count).runtime = _ at watched
  constructor
  · rw [judged]
  · rw [judged]
  · rw [judged]
  · rw [watched, judged]
  · exact before
  · rw [wrote, observed]
  · rw [wrote, observed]
  · rw [wrote, observed]
  · exact runObservers_follows scene backend _ _

end Ticks

section Dashboards

variable {scene : Sl1Scene} (references : scene.References) (backend : AgentBackend)
  {dashboard : Sl1Dashboard} (member : dashboard ∈ scene.dashboards) (count : Nat)

/-- The variants a dashboard was in after each tick. -/
def dashboardVariants (scene : Sl1Scene) (backend : AgentBackend) (id : String) (count : Nat) :
    List String :=
  (List.range count).map fun past => (ticks scene backend (past + 1)).dashboardVariant id

theorem dashboardVariants_succ (scene : Sl1Scene) (backend : AgentBackend) (id : String)
    (count : Nat) : dashboardVariants scene backend id (count + 1) =
      dashboardVariants scene backend id count ++
        [(ticks scene backend (count + 1)).dashboardVariant id] := by
  rw [dashboardVariants, List.range_succ, List.map_append]
  rfl

theorem dashboardVariants_last (scene : Sl1Scene) (backend : AgentBackend) (id : String)
    (count : Nat) (declared : (Frame.load scene).dashboardVariant id = "no_data") :
    (dashboardVariants scene backend id count).getLastD "no_data" =
      (ticks scene backend count).dashboardVariant id := by
  cases count with
  | zero => exact declared.symm
  | succ count => rw [dashboardVariants_succ, List.getLastD_concat]

theorem variant_of_held {frame : Frame} {id : String} {state : Sl1DashboardState}
    (held : frame.runtime.dashboardStates[id]? = some state) :
    frame.dashboardVariant id = state.discriminantStr := by
  rw [Frame.dashboardVariant, Std.ExtTreeMap.getD_eq_getD_getElem?, held, Option.getD_some]

include references member in
private theorem ticks_dashboard :
    (ticks scene backend (count + 1)).events.filterMap (SimEvent.dashboardChange dashboard.id) =
      (ticks scene backend count).events.filterMap (SimEvent.dashboardChange dashboard.id) ++
        if (ticks scene backend count).dashboardVariant dashboard.id =
          (ticks scene backend (count + 1)).dashboardVariant dashboard.id then []
        else [(worldTick (count + 1), (ticks scene backend count).dashboardVariant dashboard.id,
          (ticks scene backend (count + 1)).dashboardVariant dashboard.id)] := by
  have around := surrounded scene backend count
  obtain ⟨previous, held⟩ := Sl1Scene.Entered.held
    ((ticks_entered references backend count).dashboards dashboard member)
  have before : (settled scene backend count).runtime.dashboardStates[dashboard.id]? =
      some previous := by rw [around.dashboardsBefore, held]
  have about := @SimEvent.dashboardChange_topic dashboard.id
  obtain ⟨stored, logged⟩ := @Observability.run_dashboard scene (worldTick (count + 1)) _
    references.dashboardsIncreasing.distinct _ member _ before
  have after := around.dashboards ▸ stored
  rw [variant_of_held held, variant_of_held after,
    around.events.filterMap_of_topic about (by simp), observed, logged,
    around.eventsBefore.filterMap_of_topic about (by simp)]

include references member in
theorem dashboard_changes :
    (ticks scene backend count).events.filterMap (SimEvent.dashboardChange dashboard.id) =
      (changes "no_data" (dashboardVariants scene backend dashboard.id count)).map
        fun (position, variants) => (worldTick position, variants) := by
  have stored : (Frame.load scene).runtime.dashboardStates[dashboard.id]? = some .noData :=
    table_of_mem references.dashboardsIncreasing.distinct member
  have fresh : (Frame.load scene).dashboardVariant dashboard.id = "no_data" := variant_of_held stored
  induction count with
  | zero => rfl
  | succ count ih =>
    have length : (dashboardVariants scene backend dashboard.id count).length = count := by
      rw [dashboardVariants, List.length_map, List.length_range]
    rw [ticks_dashboard references backend member, ih, dashboardVariants_succ, changes_snoc,
      dashboardVariants_last scene backend _ _ fresh, List.map_append, length]
    congr 1
    split <;> rfl

end Dashboards

section Alerts

/-- An alert on record: firing where its metric is alarming, with its events by turns. -/
structure Alarmed (frame : Frame) (alert : Sl1Alert) : Prop where
  standing : ∃ metric state, frame.runtime.metricStates[alert.metric]? = some metric ∧
    frame.runtime.alertStates[alert.id]? = some state ∧
    (state.isFiring = true ↔ ∃ value, metric = .ok value ∧ alert.predicate.fires value = true) ∧
    (frame.events.filterMap (SimEvent.alertEdge alert.id)).getLastD false = state.isFiring ∧
    ∀ firedAtTick, state = .firing firedAtTick →
      (frame.events.filterMap (SimEvent.alertFired alert.id)).getLast? = some firedAtTick
  byTurns : alternates true (frame.events.filterMap (SimEvent.alertEdge alert.id)) = true

variable {scene : Sl1Scene} (references : scene.References) (backend : AgentBackend)
  {alert : Sl1Alert} (member : alert ∈ scene.alerts)
include references member

private theorem load_alarmed : Alarmed (.load scene) alert := by
  obtain ⟨measure, declared, named⟩ := references.alerts alert member
  have measured : (Frame.load scene).runtime.metricStates[measure.id]? = some .noData :=
    table_of_mem references.metricsIncreasing.distinct declared
  have held : (Frame.load scene).runtime.alertStates[alert.id]? = some .inactive :=
    table_of_mem references.alertsIncreasing.distinct member
  have measures : measure.id = alert.metric := named
  rw [measures] at measured
  refine ⟨⟨.noData, .inactive, measured, held, ?_, rfl, ?_⟩, rfl⟩
  · simp [Sl1AlertState.isFiring]
  · intro firedAtTick firing
    cases firing

private theorem ticks_alarmed (count : Nat) (alarmed : Alarmed (ticks scene backend count) alert) :
    Alarmed (ticks scene backend (count + 1)) alert := by
  have around := surrounded scene backend count
  obtain ⟨⟨_, previous, -, held, -, last, since⟩, byTurns⟩ := alarmed
  obtain ⟨measure, declared, named⟩ := references.alerts alert member
  have measures : measure.id = alert.metric := named
  obtain ⟨metric, measured⟩ := Sl1Scene.Entered.held
    ((ticks_entered references backend (count + 1)).metrics measure declared)
  rw [measures] at measured
  have before : (settled scene backend count).runtime.alertStates[alert.id]? = some previous := by
    rw [around.alertsBefore, held]
  obtain ⟨stored, edges, fired⟩ := @Observability.run_alert scene (worldTick (count + 1)) _
    references.alertsIncreasing.distinct _ member _ (around.metrics ▸ measured) _ before
  have edge := @SimEvent.alertEdge_topic alert.id
  have start := @SimEvent.alertFired_topic alert.id
  change (observed scene backend count).events.filterMap _ = _ at edges fired
  rw [← around.events.filterMap_of_topic edge (by simp),
    around.eventsBefore.filterMap_of_topic edge (by simp)] at edges
  rw [← around.events.filterMap_of_topic start (by simp),
    around.eventsBefore.filterMap_of_topic start (by simp)] at fired
  have firing := @Observability.nextAlertState_isFiring (worldTick (count + 1)) alert.predicate
    previous metric
  have since' := @Observability.nextAlertState_firing (worldTick (count + 1)) alert.predicate
    previous metric
  change (observed scene backend count).runtime.alertStates[alert.id]? = _ at stored
  rw [← around.alerts] at stored
  generalize Observability.nextAlertState (worldTick (count + 1)) alert.predicate previous metric =
    state at stored edges fired firing since'
  refine ⟨⟨metric, state, measured, stored, firing, ?_, fun firedAtTick began => ?_⟩, ?_⟩
  · rw [edges]
    by_cases same : previous.isFiring = state.isFiring
    · rw [if_pos same, List.append_nil, last, same]
    · rw [if_neg same, List.getLastD_concat]
  · rw [fired]
    rcases since' began with before | ⟨rested, dated⟩
    · rw [before, began]
      simpa [Sl1AlertState.isFiring] using since firedAtTick before
    · rw [rested, began, dated]
      simp [Sl1AlertState.isFiring]
  · rw [edges]
    by_cases same : previous.isFiring = state.isFiring
    · rw [if_pos same, List.append_nil]
      exact byTurns
    · rw [if_neg same, alternates_snoc, byTurns, Bool.true_and, Bool.not_true, last]
      simpa using Ne.symm same

theorem ticks_alert (count : Nat) : Alarmed (ticks scene backend count) alert := by
  induction count with
  | zero => exact load_alarmed references member
  | succ count ih => exact ticks_alarmed references backend member count ih

end Alerts

/-- In every run an alert's Fired and Cleared events take turns, Fired first; the alert is firing
exactly where its metric holds a value that the predicate is true of, since its latest Fired event;
and a dashboard's events are the changes of its state's variant, each from where the one before it
led. -/
theorem observers_follow_states {raw : RawSl1Scene} {scene : Sl1Scene}
    (accepted : validate raw = .ok scene) (backend : AgentBackend) (count : Nat) :
    let run := ticks scene backend count
    (∀ alert ∈ scene.alerts,
      alternates true (run.events.filterMap (SimEvent.alertEdge alert.id)) = true ∧
      ∃ metric state, run.runtime.metricStates[alert.metric]? = some metric ∧
        run.runtime.alertStates[alert.id]? = some state ∧
        (state.isFiring = true ↔
          ∃ value, metric = .ok value ∧ alert.predicate.fires value = true) ∧
        ∀ firedAtTick, state = .firing firedAtTick →
          (run.events.filterMap (SimEvent.alertFired alert.id)).getLast? = some firedAtTick) ∧
    (∀ dashboard ∈ scene.dashboards,
      let shown := run.events.filterMap (SimEvent.dashboardChange dashboard.id)
      shown = (changes "no_data" (dashboardVariants scene backend dashboard.id count)).map
        (fun (position, variants) => (worldTick position, variants)) ∧
      shown.IsChain fun first second => first.2.2 = second.2.1) := by
  intro run
  have references := validate_references accepted
  constructor
  · intro alert member
    obtain ⟨⟨metric, state, measured, held, firing, -, since⟩, byTurns⟩ :=
      ticks_alert references backend member count
    exact ⟨byTurns, metric, state, measured, held, firing, since⟩
  · intro dashboard member
    have changed := dashboard_changes references backend member count
    refine ⟨changed, ?_⟩
    rw [changed]
    exact (List.isChain_map _).mpr
      (changes_isChain "no_data" (dashboardVariants scene backend dashboard.id count))

/-- The stock ages beyond its bound on the second tick. -/
theorem observers_follow_states_aging : ∃ scene, validate agingScene = .ok scene ∧
    (∃ tick, (ticks scene defaultBackend 2).runtime.alertStates["aged"]? = some (.firing tick) ∧
      ((ticks scene defaultBackend 2).events.filterMap (SimEvent.alertFired "aged")).getLast? =
        some tick) ∧
    (ticks scene defaultBackend 2).events.filterMap (SimEvent.dashboardChange "feed") =
      [(1, "no_data", "ok"), (2, "ok", "stale")] := by
  have evaluated : yields (validate agingScene) (fun scene =>
      decide (∃ alert ∈ scene.alerts, alert.id = "aged") &&
      decide (∃ dashboard ∈ scene.dashboards, dashboard.id = "feed") &&
      decide ((ticks scene defaultBackend 2).runtime.alertStates["aged"]? = some (.firing 2)) &&
      decide (dashboardVariants scene defaultBackend "feed" 2 = ["ok", "stale"])) = true := by
    decide +kernel
  obtain ⟨scene, accepted, read⟩ := yields_iff.mp evaluated
  simp only [Bool.and_eq_true, decide_eq_true_eq] at read
  obtain ⟨⟨⟨⟨alert, listed, named⟩, dashboard, declared, titled⟩, firing⟩, variants⟩ := read
  obtain ⟨alerts, dashboards⟩ := observers_follow_states accepted defaultBackend 2
  obtain ⟨-, metric, state, -, held, -, since⟩ := alerts alert listed
  rw [named] at held since
  have same := Option.some.inj (held.symm.trans firing)
  have shown := (dashboards dashboard declared).1
  rw [titled, variants] at shown
  exact ⟨scene, accepted, ⟨2, firing, since 2 same⟩, shown⟩

end Simetro.Sl1
