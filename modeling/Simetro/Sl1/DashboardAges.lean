import Mathlib.Order.Bounds.Basic
import Simetro.Sl1.ObserverHistory
import Simetro.Sl1.Roster
import Simetro.Sl1.StockDates

/-! The age of a dashboard: the greatest, over the things it depends on, of the least age any
place has for the thing. What a tick stores of it agrees with what is worked out after the tick. -/

namespace Simetro.Sl1

open Simetro.Library Simetro.Protocol

namespace Observability

variable {runtime : Sl1RuntimeState} {now : Nat}

/-- The ages of the thing at the places whose entry carries a tick. -/
def EntryAges (runtime : Sl1RuntimeState) (now : Nat) (thing : String) : Set Nat :=
  {age | ∃ (place : String) (lastSetTick : Nat),
    (runtime.freshness[(place, thing)]?).bind FreshnessState.lastWrite = some lastSetTick ∧
      age = now - lastSetTick}

theorem mem_ages {thing : String} {age : Nat} :
    age ∈ ages runtime now thing ↔ age ∈ EntryAges runtime now thing := by
  unfold ages EntryAges
  rw [List.mem_filterMap]
  constructor
  · rintro ⟨⟨⟨place, other⟩, state⟩, listed, read⟩
    have found := Std.ExtTreeMap.mem_toList_iff_getElem?_eq_some.mp listed
    simp only at read
    split at read
    · rename_i same
      obtain rfl : other = thing := same
      split at read
      · exact ⟨place, _, by rw [found]; rfl, (Option.some.inj read).symm⟩
      · exact ⟨place, _, by rw [found]; rfl, (Option.some.inj read).symm⟩
      · cases read
    · cases read
  · rintro ⟨place, lastSetTick, dated, rfl⟩
    obtain ⟨state, found, written⟩ := Option.bind_eq_some_iff.mp dated
    refine ⟨((place, thing), state), Std.ExtTreeMap.mem_toList_iff_getElem?_eq_some.mpr found, ?_⟩
    simp only [if_true]
    cases state <;> cases written <;> rfl

/-- The least of a list so far and of what is still to come. -/
theorem foldl_least (more : List Nat) : ∀ least : Option Nat,
    more.foldl (fun least age => some (match least with
      | some previous => min previous age
      | none => age)) least = (least.toList ++ more).min? := by
  induction more with
  | nil => intro least; cases least <;> rfl
  | cons age rest ih =>
    intro least
    rw [List.foldl_cons, ih]
    cases least with
    | none => rfl
    | some previous => rw [Option.toList_some, Option.toList_some]; rfl

theorem minAge_eq (thing : String) : minAge runtime now thing = (ages runtime now thing).min? :=
  foldl_least _ none

theorem minAge_eq_some {thing : String} {age : Nat} :
    minAge runtime now thing = some age ↔ IsLeast (EntryAges runtime now thing) age := by
  rw [minAge_eq, List.min?_eq_some_iff]
  simp only [mem_ages]
  rfl

theorem minAge_eq_none {thing : String} :
    minAge runtime now thing = none ↔ EntryAges runtime now thing = ∅ := by
  rw [minAge_eq, List.min?_eq_none_iff, Set.eq_empty_iff_forall_notMem, List.eq_nil_iff_forall_not_mem]
  simp only [mem_ages]

/-- The greatest, over the things, of the least age of an entry: 0 where there are no things. -/
structure WorstAge (runtime : Sl1RuntimeState) (now : Nat) (things : List String) (worst : Nat) :
    Prop where
  bounds : ∀ thing ∈ things, ∃ age, IsLeast (EntryAges runtime now thing) age ∧ age ≤ worst
  attained : (things = [] ∧ worst = 0) ∨
    ∃ thing ∈ things, IsLeast (EntryAges runtime now thing) worst

theorem WorstAge.unique {things : List String} {worst other : Nat}
    (first : WorstAge runtime now things worst) (second : WorstAge runtime now things other) :
    worst = other := by
  have below {one two : Nat} (first : WorstAge runtime now things one)
      (second : WorstAge runtime now things two) : one ≤ two := by
    rcases first.attained with ⟨-, rfl⟩ | ⟨thing, listed, least⟩
    · exact Nat.zero_le _
    · obtain ⟨age, leastToo, within⟩ := second.bounds thing listed
      rwa [least.unique leastToo]
  exact Nat.le_antisymm (below first second) (below second first)

/-- The loop over the things, with the greatest age so far. -/
theorem maxOfMinAges_eq_none {things : List String} (maxAge : Nat) :
    maxOfMinAges runtime now things maxAge = none ↔
      ∃ thing ∈ things, EntryAges runtime now thing = ∅ := by
  induction things generalizing maxAge with
  | nil => exact ⟨nofun, nofun⟩
  | cons thing rest ih =>
    unfold maxOfMinAges
    cases known : minAge runtime now thing with
    | none => exact ⟨fun _ => ⟨thing, List.mem_cons_self, minAge_eq_none.mp known⟩, fun _ => rfl⟩
    | some age =>
      simp only
      rw [ih, List.exists_mem_cons_iff, or_iff_right]
      intro empty
      rw [minAge_eq_none.mpr empty] at known
      cases known

theorem maxOfMinAges_worst {things : List String} {maxAge worst : Nat}
    (found : maxOfMinAges runtime now things maxAge = some worst) :
    maxAge ≤ worst ∧
      (∀ thing ∈ things, ∃ age, IsLeast (EntryAges runtime now thing) age ∧ age ≤ worst) ∧
      (worst = maxAge ∨ ∃ thing ∈ things, IsLeast (EntryAges runtime now thing) worst) := by
  induction things generalizing maxAge with
  | nil =>
    cases found
    exact ⟨Nat.le_refl _, nofun, .inl rfl⟩
  | cons thing rest ih =>
    unfold maxOfMinAges at found
    cases known : minAge runtime now thing with
    | none =>
      rw [known] at found
      cases found
    | some age =>
      rw [known] at found
      have least := minAge_eq_some.mp known
      obtain ⟨above, bounds, attained⟩ := ih found
      refine ⟨Nat.le_trans (Nat.le_max_left _ _) above, ?_, ?_⟩
      · intro other listed
        rcases List.mem_cons.mp listed with rfl | later
        · exact ⟨age, least, Nat.le_trans (Nat.le_max_right _ _) above⟩
        · exact bounds other later
      · rcases attained with same | ⟨other, later, leastToo⟩
        · rcases Nat.le_total maxAge age with greater | smaller
          · rw [Nat.max_eq_right greater] at same
            exact .inr ⟨thing, List.mem_cons_self, same ▸ least⟩
          · exact .inl (same.trans (Nat.max_eq_left smaller))
        · exact .inr ⟨other, List.mem_cons_of_mem _ later, leastToo⟩

variable {dashboard : Sl1Dashboard}

theorem dashboardFreshness_eq_none : dashboardFreshness runtime now dashboard = none ↔
    ∃ thing ∈ dashboard.dependsOn, EntryAges runtime now thing = ∅ := by
  unfold dashboardFreshness
  split
  · rename_i empty
    rw [List.isEmpty_iff.mp empty]
    exact ⟨nofun, nofun⟩
  · exact maxOfMinAges_eq_none 0

theorem dashboardFreshness_eq_some {worst : Nat} :
    dashboardFreshness runtime now dashboard = some worst ↔
      WorstAge runtime now dashboard.dependsOn worst := by
  have sound {age : Nat} (found : dashboardFreshness runtime now dashboard = some age) :
      WorstAge runtime now dashboard.dependsOn age := by
    unfold dashboardFreshness at found
    split at found
    · rename_i empty
      cases found
      rw [List.isEmpty_iff.mp empty]
      exact ⟨nofun, .inl ⟨rfl, rfl⟩⟩
    · rename_i filled
      obtain ⟨-, bounds, attained⟩ := maxOfMinAges_worst found
      refine ⟨bounds, .inr (attained.elim (fun zero => ?_) id)⟩
      -- nothing is fresher than an entry of this very tick
      obtain ⟨thing, listed⟩ := List.exists_mem_of_ne_nil dashboard.dependsOn fun empty =>
        filled (List.isEmpty_iff.mpr empty)
      obtain ⟨age, least, within⟩ := bounds thing listed
      obtain rfl : age = 0 := Nat.le_zero.mp (zero ▸ within)
      exact ⟨thing, listed, zero ▸ least⟩
  refine ⟨sound, fun worst => ?_⟩
  cases found : dashboardFreshness runtime now dashboard with
  | none =>
    obtain ⟨thing, listed, empty⟩ := dashboardFreshness_eq_none.mp found
    obtain ⟨age, least, -⟩ := worst.bounds thing listed
    rw [empty] at least
    exact least.1.elim
  | some age => rw [(sound found).unique worst]

/-- A stored state tells an age, against the dashboard's freshness objective. -/
structure Tells (dashboard : Sl1Dashboard) (age : Option Nat) (state : Sl1DashboardState) : Prop where
  noData : state = .noData ↔ age = none
  stale : ∀ ticks, state = .stale ticks ↔ age = some ticks ∧ dashboard.freshnessSloTicks < ticks
  ok : state = .ok ↔ ∃ ticks, age = some ticks ∧ ticks ≤ dashboard.freshnessSloTicks

theorem computeDashboardState_tells : Tells dashboard (dashboardFreshness runtime now dashboard)
    (computeDashboardState runtime now dashboard) := by
  unfold computeDashboardState
  cases dashboardFreshness runtime now dashboard with
  | none => constructor <;> simp
  | some age =>
    by_cases late : dashboard.freshnessSloTicks < age
    · constructor <;> grind
    · constructor <;> grind

/-- What a metric makes of an age. -/
def ageMetric : Option Nat → Sl1MetricState
  | some age => .ok age
  | none => .noData

/-- What the runtime holds of the dashboards, and of the metrics on them, is of this very tick. -/
structure Watched (scene : Sl1Scene) (now : Nat) (runtime : Sl1RuntimeState) : Prop where
  dashboards : ∀ dashboard ∈ scene.dashboards,
    runtime.dashboardStates[dashboard.id]? = some (computeDashboardState runtime now dashboard)
  metrics : ∀ dashboard ∈ scene.dashboards, ∀ metric ∈ scene.metrics,
    metric.source = .dashboardFreshness dashboard.id → runtime.metricStates[metric.id]? =
      some (ageMetric (dashboardFreshness runtime now dashboard))

variable {scene : Sl1Scene} {frame : Frame} {metric : Sl1Metric}

theorem Watched.of_same {other : Sl1RuntimeState} (watched : Watched scene now runtime)
    (dates : other.freshness = runtime.freshness)
    (dashboards : other.dashboardStates = runtime.dashboardStates)
    (metrics : other.metricStates = runtime.metricStates) : Watched scene now other := by
  constructor
  · intro dashboard member
    rw [dashboards, computeDashboardState_congr dashboard dates]
    exact watched.dashboards dashboard member
  · intro dashboard member metric declared source
    rw [metrics, dashboardFreshness_congr dashboard dates]
    exact watched.metrics dashboard member metric declared source

/-- A metric on a declared dashboard. -/
theorem computeMetricState_age (distinct : (scene.dashboards.map (·.id)).Nodup)
    (member : dashboard ∈ scene.dashboards) :
    computeMetricState scene runtime now (.dashboardFreshness dashboard.id) =
      some (ageMetric (dashboardFreshness runtime now dashboard)) := by
  unfold Sl1Scene.dashboards at distinct member
  unfold computeMetricState
  cases present : scene.observability with
  | none =>
    rw [present] at member
    cases member
  | some observability =>
    rw [present] at distinct member
    have found : observability.dashboards.find? (fun other => other.id = dashboard.id) = some dashboard :=
      find?_of_mem distinct member
    simp only [Option.bind_eq_bind, Option.bind_some]
    rw [found, Option.bind_some]
    cases dashboardFreshness runtime now dashboard <;> rfl

/-- The pass over the metrics measures each declared one once. -/
theorem updateMetrics_age (references : scene.References) (member : dashboard ∈ scene.dashboards)
    (declared : metric ∈ scene.metrics) (source : metric.source = .dashboardFreshness dashboard.id) :
    (scene.metrics.foldl (updateMetric scene now) frame).runtime.metricStates[metric.id]? =
      some (ageMetric (dashboardFreshness frame.runtime now dashboard)) := by
  have distinct := references.metricsIncreasing.distinct
  let view (frame : Frame) : PairMap FreshnessState × Option Sl1MetricState :=
    (frame.runtime.freshness, frame.runtime.metricStates[metric.id]?)
  have others (current : Frame) (other : Sl1Metric) (listed : other ∈ scene.metrics)
      (different : other ≠ metric) : view (updateMetric scene now current other) = view current := by
    have apart : other.id ≠ metric.id := fun same =>
      different (List.inj_on_of_nodup_map distinct listed declared same)
    unfold updateMetric
    split
    · rfl
    · exact congrArg (Prod.mk _) (getElem?_insert_of_ne apart _)
  obtain ⟨before, reached, final⟩ := foldl_once view (List.Nodup.of_map _ distinct) declared others frame
  have measured : (updateMetric scene now before metric).runtime.metricStates[metric.id]? =
      some (ageMetric (dashboardFreshness before.runtime now dashboard)) := by
    unfold updateMetric
    rw [source, computeMetricState_age references.dashboardsIncreasing.distinct member]
    exact Std.ExtTreeMap.getElem?_insert_self
  rw [← dashboardFreshness_congr dashboard (congrArg (·.1) reached), ← measured]
  exact congrArg (·.2) final

/-- The observers work everything out on the stock dates that the tick leaves. -/
theorem run_watched (references : scene.References) (entered : ∀ dashboard ∈ scene.dashboards,
    dashboard.id ∈ frame.runtime.dashboardStates) :
    Watched scene now (run scene now frame).runtime := by
  obtain ⟨dashboardStates, metricStates, alertStates, written⟩ := run_writes scene now frame
  have dates : (run scene now frame).runtime.freshness = frame.runtime.freshness := by
    rw [written]
  constructor
  · intro dashboard member
    obtain ⟨previous, held⟩ := Sl1Scene.Entered.held (entered dashboard member)
    rw [computeDashboardState_congr dashboard dates]
    exact (run_dashboard references.dashboardsIncreasing.distinct member held).1
  · intro dashboard member metric declared source
    obtain ⟨_, alerted⟩ := updateAlerts_writes now (scene.metrics.foldl (updateMetric scene now)
      (scene.dashboards.foldl (updateDashboard now) frame)) scene.alerts
    obtain ⟨_, shown⟩ := updateDashboards_writes now frame scene.dashboards
    rw [dashboardFreshness_congr dashboard dates, run_eq, alerted,
      updateMetrics_age references member declared source]
    exact congrArg (some ∘ ageMetric) (dashboardFreshness_congr dashboard (by rw [shown]))

/-- After a tick, a block holds what its dashboards come to on that tick. -/
theorem tick_watched (references : scene.References) (backend : AgentBackend)
    (entered : ∀ dashboard ∈ scene.dashboards, dashboard.id ∈ frame.runtime.dashboardStates) :
    Watched scene now (Sl1.run scene backend now frame).runtime := by
  obtain ⟨_, _, _, _, _, _, _, _, flowed⟩ := runFlow_writes scene now frame
  obtain ⟨_, _, _, _, _, _, judged⟩ := Objectives.run_writes scene now (runFlow scene now frame)
  obtain ⟨agents, pauses, milestones, passed⟩ := runObservers_writes scene backend now
    (Objectives.run scene now (runFlow scene now frame))
  have watched : Watched scene now
      (run scene now (Objectives.run scene now (runFlow scene now frame))).runtime :=
    run_watched references fun dashboard member => by
      rw [judged, flowed]
      exact entered dashboard member
  change Watched scene now (runObservers scene backend now _).runtime
  rw [passed]
  exact watched.of_same rfl rfl rfl

end Observability

end Simetro.Sl1
