import Simetro.Engine.SnapshotRows
import Simetro.Sl1.DashboardAges

/-! One age for each dashboard: from a tick on, its stored state, the metrics on it and the row of
it in the snapshot all tell what is worked out from the stock dates of the world. -/

namespace Simetro.Engine

open Simetro.Library Simetro.Protocol Simetro.Sl1

section Block

variable {scene : LoadedScene} {world : World Transit} {declared : Sl1Scene}

/-- From the first tick on, what is stored of the dashboards is of the tick of the world. -/
theorem LoadedScene.Reaches.watched (reached : scene.Reaches world) {llmLive : Bool} {raw : RawScene}
    (accepted : SceneLoader.validate llmLive raw = .ok scene) (present : scene.sl1 = some declared)
    (ticked : 0 < world.tick) : ∃ runtime, world.sl1Runtime = some runtime ∧
      Observability.Watched declared world.tick runtime := by
  obtain ⟨loaded, checked⟩ := SceneLoader.validate_block accepted
  obtain ⟨source, valid⟩ := checked declared present
  let holds (block : Block) : Prop := scene.Furnished block ∧ (0 < block.tick →
    ∃ runtime, block.sl1Runtime = some runtime ∧ Observability.Watched declared block.tick runtime)
  have start : holds scene.world.block := by
    refine ⟨.load loaded, fun later => ?_⟩
    rw [loaded] at later
    cases later
  have held : holds world.block :=
    reached.block start fun backend events messages before ⟨furnished, _⟩ => by
      refine ⟨furnished.ticked checked backend events messages, fun _ => ?_⟩
      obtain ⟨runtime, active, rostered⟩ := furnished.rostered declared present
      have entered (dashboard : Sl1Dashboard) (member : dashboard ∈ declared.dashboards) :
          dashboard.id ∈ runtime.dashboardStates := by
        have keys : runtime.dashboardStates.keys = (Sl1RuntimeState.fromScene declared).dashboardStates.keys :=
          congrArg Roster.dashboards rostered.roster
        rw [← Std.ExtTreeMap.mem_keys, keys, Std.ExtTreeMap.mem_keys]
        exact (Sl1Scene.Entered.load declared).dashboards dashboard member
      exact ⟨_, Block.ticked_runtime (furnished.sl1.trans present) active backend events messages,
        Observability.tick_watched (validate_references valid) backend entered⟩
  exact held.2 ticked

end Block

/-- A dashboard's row is what its stored state and its age come to. -/
theorem dashboardRow_tells {scene : Sl1Scene} {now : Nat} {runtime : Sl1RuntimeState}
    {dashboard : Sl1Dashboard} (distinct : (scene.dashboards.map (·.id)).Nodup)
    (member : dashboard ∈ scene.dashboards) {state : Sl1DashboardState}
    (tells : Observability.Tells dashboard
      (Observability.dashboardFreshness runtime now dashboard) state) :
    dashboardRow runtime (some scene) now dashboard.id state = ⟨dashboard.id, state.discriminantStr,
      Observability.dashboardFreshness runtime now dashboard⟩ := by
  cases state with
  | noData => rw [tells.noData.mp rfl]; rfl
  | stale ticks => rw [((tells.stale ticks).mp rfl).1]; rfl
  | ok =>
    obtain ⟨age, known, -⟩ := tells.ok.mp rfl
    unfold Sl1Scene.dashboards at distinct member
    cases observed : scene.observability with
    | none =>
      rw [observed] at member
      cases member
    | some observability =>
      rw [observed] at distinct member
      have found : observability.dashboards.find? (·.id = dashboard.id) = some dashboard :=
        find?_of_mem distinct member
      simp only [dashboardRow, Option.bind_eq_bind, Option.bind_some, observed]
      rw [found, Option.bind_some, known]
      rfl

/-- From a tick on, whatever ran since: the age of a dashboard is the greatest, over the things it
depends on, of the least age of an entry, and absent where some thing has no dated entry; its stored
state, the metrics on it and its one row in the snapshot tell this age. -/
theorem dashboards_agree {llmLive : Bool} {raw : RawScene} {scene : LoadedScene}
    (accepted : SceneLoader.validate llmLive raw = .ok scene) {declared : Sl1Scene}
    (present : scene.sl1 = some declared) {world : World Transit} (reached : scene.Reaches world)
    (ticked : 0 < world.tick) (out : SnapshotPayload) : ∃ runtime, world.sl1Runtime = some runtime ∧
      ∀ dashboard ∈ declared.dashboards,
        let age := Observability.dashboardFreshness runtime world.tick dashboard
        (age = none ↔
          ∃ thing ∈ dashboard.dependsOn, Observability.EntryAges runtime world.tick thing = ∅) ∧
        (∀ worst, age = some worst ↔
          Observability.WorstAge runtime world.tick dashboard.dependsOn worst) ∧
        (∃ state, runtime.dashboardStates[dashboard.id]? = some state ∧
          Observability.Tells dashboard age state ∧
          ∀ row, row ∈ (encodeSnapshot world out).1.sl1DashboardStates ∧
            row.dashboardId = dashboard.id ↔ row = ⟨dashboard.id, state.discriminantStr, age⟩) ∧
        ∀ metric ∈ declared.metrics, metric.source = .dashboardFreshness dashboard.id →
          runtime.metricStates[metric.id]? = some (Observability.ageMetric age) := by
  obtain ⟨loaded, checked⟩ := SceneLoader.validate_block accepted
  obtain ⟨source, valid⟩ := checked declared present
  obtain ⟨runtime, active, watched⟩ := reached.watched accepted present ticked
  refine ⟨runtime, active, fun dashboard member => ⟨Observability.dashboardFreshness_eq_none,
    fun worst => Observability.dashboardFreshness_eq_some, ?_, watched.metrics dashboard member⟩⟩
  have tells := @Observability.computeDashboardState_tells runtime world.tick dashboard
  have stored := watched.dashboards dashboard member
  refine ⟨_, stored, tells, fun row => ?_⟩
  have shown := dashboardRow_tells (validate_references valid).dashboardsIncreasing.distinct member tells
  have given : world.sl1 = some declared := (reached.furnished accepted).sl1.trans present
  have rows : (encodeSnapshot world out).1.sl1DashboardStates = runtime.dashboardStates.toList.map
      fun entry => dashboardRow runtime (some declared) world.tick entry.1 entry.2 := by
    unfold encodeSnapshot
    rw [active, given]
    rfl
  have named (id : String) (state : Sl1DashboardState) :
      (dashboardRow runtime (some declared) world.tick id state).dashboardId = id := by
    cases state <;> rfl
  rw [rows, List.mem_map]
  constructor
  · rintro ⟨⟨⟨id, state⟩, listed, rfl⟩, same⟩
    rw [named] at same
    subst same
    have found := Std.ExtTreeMap.mem_toList_iff_getElem?_eq_some.mp listed
    rw [Option.some.inj (found.symm.trans stored)]
    exact shown
  · rintro rfl
    exact ⟨⟨(dashboard.id, _), Std.ExtTreeMap.mem_toList_iff_getElem?_eq_some.mpr stored, shown⟩, rfl⟩

theorem dashboards_agree_aging : ∃ scene declared world runtime,
    SceneLoader.validate false agingShuttleScene = .ok scene ∧ scene.sl1 = some declared ∧
      scene.Reaches world ∧ world.tick = 2 ∧ world.sl1Runtime = some runtime ∧
      ∃ dashboard ∈ declared.dashboards,
        (∃ metric ∈ declared.metrics, metric.source = .dashboardFreshness dashboard.id ∧
          runtime.metricStates[metric.id]? = some (Observability.ageMetric
            (Observability.dashboardFreshness runtime world.tick dashboard))) ∧
        ∀ worst, Observability.dashboardFreshness runtime world.tick dashboard = some worst ↔
          Observability.WorstAge runtime world.tick dashboard.dependsOn worst := by
  have evaluated : yields (SceneLoader.validate false agingShuttleScene) (fun scene =>
      (scene.sl1.any fun declared => declared.dashboards.any fun dashboard =>
        declared.metrics.any fun metric => metric.source = .dashboardFreshness dashboard.id) &&
      match driven scene [.tick, .tick] with
      | .done voyage => voyage.machine.world.tick = 2
      | .panicked .. => false) = true := by
    decide +kernel
  obtain ⟨scene, accepted, read⟩ := yields_iff.mp evaluated
  obtain ⟨voyage, ran, -⟩ :=
    movers_walk (fun _ => "") unattended defaultBackend accepted {} [.tick, .tick]
  have reached : scene.Reaches voyage.machine.world :=
    ⟨Unit, Unit, Unit, _, unattended, _, {}, _, voyage, ran, rfl⟩
  simp only [show driven scene [.tick, .tick] = .done voyage from ran, Bool.and_eq_true,
    Option.any_eq_true, List.any_eq_true, decide_eq_true_eq] at read
  obtain ⟨⟨declared, present, dashboard, member, metric, listed, source⟩, clock⟩ := read
  obtain ⟨runtime, active, agree⟩ :=
    dashboards_agree accepted present reached (clock ▸ Nat.zero_lt_two) {}
  obtain ⟨-, worst, -, metrics⟩ := agree dashboard member
  exact ⟨scene, declared, _, runtime, accepted, present, reached, clock, active, dashboard, member,
    ⟨metric, listed, source, metrics metric listed source⟩, worst⟩

end Simetro.Engine
