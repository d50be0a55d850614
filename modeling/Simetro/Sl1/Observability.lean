import Simetro.Sl1.Objectives

/-! Dashboards, metrics and alerts, recomputed every tick in that order. -/

namespace Simetro.Sl1

open Simetro.Library Simetro.Protocol

def Sl1DashboardState.discriminantStr : Sl1DashboardState → String
  | .ok => "ok"
  | .stale _ => "stale"
  | .noData => "no_data"

def Sl1AlertPredicate.fires (value : Nat) : Sl1AlertPredicate → Bool
  | .gt threshold => threshold < value
  | .lt threshold => value < threshold
  | .outOfRange min max => value < min || max < value

def Sl1AlertPredicate.summary : Sl1AlertPredicate → String
  | .gt threshold => "> " ++ toString threshold
  | .lt threshold => "< " ++ toString threshold
  | .outOfRange min max => "out_of_range [" ++ toString min ++ ", " ++ toString max ++ "]"

namespace Observability

variable (scene : Sl1Scene) (runtime : Sl1RuntimeState) (now : Nat)

/-- Ages of a thing's timestamped entries, over all places. -/
def ages (thing : String) : List Nat :=
  runtime.freshness.toList.filterMap fun (key, state) =>
    if key.2 = thing then
      match state with
      | .ok lastSetTick | .stale lastSetTick => some (now - lastSetTick)
      | _ => none
    else none

def minAge (thing : String) : Option Nat :=
  (ages runtime now thing).foldl (fun least age =>
    some (match least with
      | some previous => min previous age
      | none => age)) none

/-- The worst of the freshest ages; absent as soon as one thing has none. -/
def maxOfMinAges : List String → Nat → Option Nat
  | [], maxAge => some maxAge
  | thing :: rest, maxAge =>
      match minAge runtime now thing with
      | none => none
      | some age => maxOfMinAges rest (max maxAge age)

def dashboardFreshness (dashboard : Sl1Dashboard) : Option Nat :=
  if dashboard.dependsOn.isEmpty then some 0 else maxOfMinAges runtime now dashboard.dependsOn 0

/-- The age of a dashboard is decided by the ages of things. -/
theorem dashboardFreshness_of_ages {runtime other : Sl1RuntimeState} {now : Nat}
    (dashboard : Sl1Dashboard)
    (read : ∀ thing, minAge runtime now thing = minAge other now thing) :
    dashboardFreshness runtime now dashboard = dashboardFreshness other now dashboard := by
  have folded (things : List String) (maxAge : Nat) :
      maxOfMinAges runtime now things maxAge = maxOfMinAges other now things maxAge := by
    induction things generalizing maxAge with
    | nil => rfl
    | cons thing rest ih => simp only [maxOfMinAges, read, ih]
  rw [dashboardFreshness, dashboardFreshness, folded]

def computeDashboardState (dashboard : Sl1Dashboard) : Sl1DashboardState :=
  match dashboardFreshness runtime now dashboard with
  | none => .noData
  | some age => if dashboard.freshnessSloTicks < age then .stale age else .ok

def staleTicks : Sl1DashboardState → Option Nat
  | .stale freshnessTicks => some freshnessTicks
  | _ => none

def updateDashboard (frame : Frame) (dashboard : Sl1Dashboard) : Frame :=
  let state := computeDashboardState frame.runtime now dashboard
  match frame.runtime.dashboardStates[dashboard.id]? with
  | none => frame
  | some previous =>
      let frame :=
        if previous.discriminantStr != state.discriminantStr then
          frame.emit (.sl1DashboardStateChanged dashboard.id previous.discriminantStr
            state.discriminantStr now (staleTicks state))
        else frame
      frame.modify fun runtime => { runtime with
        dashboardStates := runtime.dashboardStates.insert dashboard.id state }

/-- `none` stands where the engine expects a declared place or dashboard. -/
def computeMetricState (source : Sl1MetricSource) : Option Sl1MetricState :=
  match source with
  | .placeCapacityUsedPercent place capacity =>
      (scene.placeDef place).map fun element =>
        let cap := element.capacity.getD capacity 0
        .ok (if cap = 0 then 0 else Objectives.usedPercent (runtime.used place capacity) cap)
  | .placeInventoryCount place thing => some (.ok (runtime.stock place thing))
  | .dashboardFreshness dashboard => do
      let observability ← scene.observability
      let declared ← observability.dashboards.find? fun other => other.id = dashboard
      match dashboardFreshness runtime now declared with
      | some age => some (.ok age)
      | none => some .noData

def updateMetric (frame : Frame) (metric : Sl1Metric) : Frame :=
  match computeMetricState scene frame.runtime now metric.source with
  | none => frame
  | some state => frame.modify fun runtime => { runtime with
      metricStates := runtime.metricStates.insert metric.id state }

/-- The alert's next state; a metric without data cannot fire. -/
def nextAlertState (predicate : Sl1AlertPredicate) (previous : Sl1AlertState) :
    Sl1MetricState → Sl1AlertState
  | .ok value =>
      if predicate.fires value then
        match previous with
        | .firing firedAtTick => .firing firedAtTick
        | .inactive => .firing now
      else .inactive
  | .noData => .inactive

def alertEvent (alert : Sl1Alert) (metric : Sl1MetricState) :
    Sl1AlertState → Sl1AlertState → Option SimEvent
  | .inactive, .firing _ =>
      match metric with
      | .ok value => some (.sl1AlertFired alert.id alert.metric value alert.severity.asStr
          alert.predicate.summary now)
      | .noData => none
  | .firing _, .inactive => some (.sl1AlertCleared alert.id alert.metric now)
  | _, _ => none

def updateAlert (frame : Frame) (alert : Sl1Alert) : Frame :=
  match frame.runtime.metricStates[alert.metric]?, frame.runtime.alertStates[alert.id]? with
  | some metric, some previous =>
      let state := nextAlertState now alert.predicate previous metric
      let frame :=
        match alertEvent now alert metric previous state with
        | some event => frame.emit event
        | none => frame
      frame.modify fun runtime => { runtime with
        alertStates := runtime.alertStates.insert alert.id state }
  | _, _ => frame

/-- `sl1_observability::run`. -/
def run (frame : Frame) : Frame :=
  match scene.observability with
  | none => frame
  | some observability =>
      let frame := observability.dashboards.foldl (updateDashboard now) frame
      let frame := observability.metrics.foldl (updateMetric scene now) frame
      observability.alerts.foldl (updateAlert now) frame

end Observability

end Simetro.Sl1
