import Simetro.Library.Registry
import Simetro.Sl1.ObserverHistory
import Simetro.Sl1.StoreRuns

/-! Under which keys a runtime holds entries. Every part of it has one entry for each element
the scene declares, and no tick adds or drops any. -/

namespace Simetro.Sl1

open Simetro.Library Simetro.Protocol

/-- The keys of a runtime, part by part. -/
structure Roster where
  slots : List (String × String)
  transforms : List String
  demand : List String
  objectives : List String
  failureConditions : List String
  victoryConditions : List String
  metrics : List String
  dashboards : List String
  alerts : List String

def Sl1RuntimeState.roster (runtime : Sl1RuntimeState) : Roster where
  slots := runtime.freshness.keys
  transforms := runtime.transforms.keys
  demand := runtime.demand.keys
  objectives := runtime.objectives.keys
  failureConditions := runtime.failureConditions.keys
  victoryConditions := runtime.victoryConditions.keys
  metrics := runtime.metricStates.keys
  dashboards := runtime.dashboardStates.keys
  alerts := runtime.alertStates.keys

/-- Every output of the transform lands in a slot that is there. -/
def Sl1Transform.Lands (transform : Sl1Transform) (runtime : Sl1RuntimeState) : Prop :=
  ∀ output ∈ transform.outputs, (transform.runsOn, output.thingId) ∈ runtime.freshness

/-- The slots are those declared, and what runs will land in some of them. -/
structure Sl1Scene.Landing (scene : Sl1Scene) (runtime : Sl1RuntimeState) : Prop where
  slots : ∀ key, key ∈ runtime.freshness ↔ key ∈ scene.slotRows.map (·.1)
  running : ∀ transform ∈ scene.transforms,
    (runtime.transformState transform.id).isRunning = true → transform.Lands runtime

namespace Transforms

variable {scene : Sl1Scene} {transform : Sl1Transform} {now : Nat} {frame last : Frame}
  {state next : Sl1TransformState}

theorem mem_slotRows_of_room {key : String × String} (room : 0 < scene.storageCaps.getD key 0) :
    key ∈ scene.slotRows.map (·.1) := by
  by_contra undeclared
  rw [Std.ExtTreeMap.getD_eq_getD_getElem?, Sl1Scene.storageCaps_eq] at room
  cases listed : (table scene.slotRows (·.1) (·.2.capacity) : PairMap Nat)[key]? with
  | none =>
    rw [listed] at room
    exact absurd room (Nat.lt_irrefl 0)
  | some capacity =>
    obtain ⟨row, member, rfl, -⟩ := table_found listed
    exact undeclared (List.mem_map_of_mem member)

/-- What may start has room for its outputs, so their slots are declared. -/
theorem Startable.lands (startable : Startable transform scene.passCaps frame.runtime)
    (outputs : ValidIo transform.outputs)
    (slots : ∀ key, key ∈ frame.runtime.freshness ↔ key ∈ scene.slotRows.map (·.1)) :
    transform.Lands frame.runtime := by
  intro output listed
  rw [slots]
  apply mem_slotRows_of_room
  have room := startable.room output listed
  have some := outputs.positive output listed
  refine Nat.lt_of_lt_of_le ?_ room
  unfold saturatingAdd
  have bound : 0 < u64Max := by decide
  omega

/-- A completed run marks only slots that are there. -/
theorem completeRun_roster {runtime : Sl1RuntimeState} (lands : transform.Lands runtime) :
    (completeRun transform now runtime).roster = runtime.roster := by
  have marked : (transform.outputs.foldl (fun freshness output =>
      freshness.insert (transform.runsOn, output.thingId) (.ok now)) runtime.freshness).keys =
      runtime.freshness.keys := by
    refine List.foldlRecOn (motive := fun freshness : PairMap FreshnessState =>
      freshness.keys = runtime.freshness.keys) _ _ rfl fun freshness same output listed => ?_
    rw [keys_insert_of_mem _ _, same]
    rw [← Std.ExtTreeMap.mem_keys, same, Std.ExtTreeMap.mem_keys]
    exact lands output listed
  exact congrArg (fun slots => { runtime.roster with slots }) marked

/-- The roster is as it was, and a running transform lands in slots that are there. -/
structure Enrolled (transform : Sl1Transform) (before : Frame) (state : Sl1TransformState)
    (after : Frame) : Prop where
  roster : after.runtime.roster = before.runtime.roster
  lands : state.isRunning = true → transform.Lands before.runtime

theorem Advanced.enrolled (advanced : Advanced transform scene.passCaps now frame state next last)
    (outputs : ValidIo transform.outputs)
    (slots : ∀ key, key ∈ frame.runtime.freshness ↔ key ∈ scene.slotRows.map (·.1))
    (lands : state.isRunning = true → transform.Lands frame.runtime) :
    Enrolled transform frame next last := by
  cases advanced with
  | kept idle running => exact ⟨rfl, fun runs => lands (running ▸ runs)⟩
  | started busy waiting startable => exact ⟨rfl, fun _ => startable.lands outputs slots⟩
  | completed running =>
    refine ⟨completeRun_roster (lands running), fun runs => ?_⟩
    cases runs
  | breached | breachedFailed | overdue | overdueFailed | exhausted =>
    refine ⟨rfl, fun runs => ?_⟩
    cases runs

theorem Served.enrolled (served : Served transform scene.passCaps now frame state next last)
    (outputs : ValidIo transform.outputs)
    (slots : ∀ key, key ∈ frame.runtime.freshness ↔ key ∈ scene.slotRows.map (·.1))
    (lands : state.isRunning = true → transform.Lands frame.runtime) :
    Enrolled transform frame next last := by
  cases served with
  | quiet | missed => exact ⟨rfl, lands⟩
  | started slot startable => exact ⟨rfl, fun _ => startable.lands outputs slots⟩
  | starved | blocked =>
    refine ⟨rfl, fun runs => ?_⟩
    cases runs

theorem slots_iff {runtime other : Sl1RuntimeState} (same : other.roster = runtime.roster)
    (key : String × String) : key ∈ other.freshness ↔ key ∈ runtime.freshness := by
  have slots : other.freshness.keys = runtime.freshness.keys := congrArg Roster.slots same
  rw [← Std.ExtTreeMap.mem_keys, slots, Std.ExtTreeMap.mem_keys]

/-- One transform's tick leaves the roster as it is. -/
theorem processOne_roster (valid : scene.Valid) (member : transform ∈ scene.transforms)
    (enrolled : transform.id ∈ frame.runtime.transforms) (landing : scene.Landing frame.runtime) :
    (processOne transform scene.passCaps now frame).runtime.roster = frame.runtime.roster ∧
      scene.Landing (processOne transform scene.passCaps now frame).runtime := by
  obtain ⟨advancedState, servedState, middle, last, advanced, served, same⟩ :=
    processOne_cases transform scene.passCaps now frame
  have outputs := (valid.transforms transform member).outputs
  have first := advanced.enrolled outputs landing.slots (landing.running transform member)
  have middleSlots (key : String × String) :
      key ∈ middle.runtime.freshness ↔ key ∈ scene.slotRows.map (·.1) :=
    (slots_iff first.roster key).trans (landing.slots key)
  have second := served.enrolled outputs middleSlots fun runs output listed =>
    (slots_iff first.roster _).mpr (first.lands runs output listed)
  have roster : last.runtime.roster = frame.runtime.roster := second.roster.trans first.roster
  have states : last.runtime.transforms = frame.runtime.transforms :=
    served.transforms.trans advanced.transforms
  rw [same, Frame.modify_runtime]
  constructor
  · have kept : (last.runtime.transforms.insert transform.id servedState).keys =
        last.runtime.transforms.keys := keys_insert_of_mem (states ▸ enrolled) _
    rw [← roster]
    exact congrArg (fun transforms => { last.runtime.roster with transforms }) kept
  · constructor
    · exact fun key => (slots_iff roster key).trans (landing.slots key)
    · intro other listed runs output declared
      refine (slots_iff roster _).mpr ?_
      rw [Sl1RuntimeState.transformState_keepState] at runs
      split at runs
      · rename_i here
        obtain rfl := List.inj_on_of_nodup_map valid.transformsIncreasing.distinct listed member here.symm
        exact (slots_iff first.roster _).mp (second.lands runs output declared)
      · rw [Sl1RuntimeState.transformState, states] at runs
        exact landing.running other listed runs output declared

theorem runTransforms_roster (valid : scene.Valid) (landing : scene.Landing frame.runtime) :
    (runTransforms scene now frame).runtime.roster = frame.runtime.roster ∧
      scene.Landing (runTransforms scene now frame).runtime := by
  rw [runTransforms_eq]
  refine List.foldlRecOn (motive := fun current : Frame =>
    current.runtime.roster = frame.runtime.roster ∧ scene.Landing current.runtime) _ _
    ⟨rfl, landing⟩ fun current ⟨same, landing⟩ id listed => ?_
  unfold visit
  split
  · rename_i transform found
    obtain ⟨member, rfl⟩ := Sl1Scene.transformDefs_found found
    have enrolled : transform.id ∈ current.runtime.transforms := by
      have keys : current.runtime.transforms.keys = frame.runtime.transforms.keys :=
        congrArg Roster.transforms same
      rw [← Std.ExtTreeMap.mem_keys, keys]
      exact listed
    obtain ⟨roster, landing⟩ := processOne_roster valid member enrolled landing
    exact ⟨roster.trans same, landing⟩
  · exact ⟨same, landing⟩

end Transforms

/-- A runtime holds entries for the declared elements alone. -/
structure Sl1Scene.Rostered (scene : Sl1Scene) (runtime : Sl1RuntimeState) : Prop where
  roster : runtime.roster = (Sl1RuntimeState.fromScene scene).roster
  landing : scene.Landing runtime

namespace Sl1Scene.Rostered

variable {scene : Sl1Scene} {now : Nat} {frame : Frame}

theorem load (scene : Sl1Scene) : scene.Rostered (.fromScene scene) where
  roster := rfl
  landing := by
    constructor
    · intro key
      have rows : (Sl1RuntimeState.fromScene scene).freshness = table scene.slotRows (·.1)
          fun row => if row.2.initial > 0 then FreshnessState.ok 0 else .noData := by
        simp only [Sl1RuntimeState.fromScene, Sl1RuntimeState.freshnessAtLoad, table,
          Sl1Scene.slotRows, List.foldl_flatMap, List.foldl_map]
      rw [rows, mem_table, List.mem_map]
    · intro transform _ running
      rw [Sl1RuntimeState.fromScene_transformState] at running
      cases running

/-- The parts a pass leaves alone. -/
theorem of_same {runtime other : Sl1RuntimeState} (rostered : scene.Rostered runtime)
    (roster : other.roster = runtime.roster) (transforms : other.transforms = runtime.transforms) :
    scene.Rostered other := by
  refine ⟨roster.trans rostered.roster, fun key => ?_, fun transform listed runs output declared => ?_⟩
  · exact (Transforms.slots_iff roster key).trans (rostered.landing.slots key)
  · rw [Sl1RuntimeState.transformState, transforms] at runs
    exact (Transforms.slots_iff roster _).mpr
      (rostered.landing.running transform listed runs output declared)

theorem ageFreshness (rostered : scene.Rostered frame.runtime) :
    scene.Rostered (Transforms.ageFreshness scene now frame).runtime := by
  unfold Transforms.ageFreshness
  rw [Frame.modify_runtime]
  refine rostered.of_same ?_ rfl
  have keys : (frame.runtime.freshness.map fun key state => Transforms.ageEntry
      ((Transforms.thingBudgets scene).getD key.2 none) now state).keys = frame.runtime.freshness.keys :=
    Std.ExtTreeMap.keys_map
  exact congrArg (fun slots => { frame.runtime.roster with slots }) keys

theorem moveStock (valid : scene.Valid) (rostered : scene.Rostered frame.runtime) :
    scene.Rostered (moveStock scene now frame).runtime := by
  obtain ⟨pressure, inventories, pressed⟩ := Pressure.run_writes scene now frame
  have injected : scene.Rostered (Pressure.run scene now frame).runtime := by
    rw [pressed]
    exact rostered.of_same rfl rfl
  have aged : scene.Rostered
      (Transforms.ageFreshness scene now (Pressure.run scene now frame)).runtime :=
    injected.ageFreshness
  obtain ⟨roster, landing⟩ := Transforms.runTransforms_roster valid aged.landing
  rw [moveStock_eq]
  exact ⟨roster.trans aged.roster, landing⟩

end Sl1Scene.Rostered

/-- What no pass behind the transforms changes. -/
private def enlisted (frame : Frame) : Roster × IdMap Sl1TransformState :=
  (frame.runtime.roster, frame.runtime.transforms)

namespace Demand

variable (demand : Sl1Demand) (now : Nat) (frame : Frame)

private theorem store_enlisted (id : String) (queue : Sl1DemandRuntime) :
    enlisted (frame.modify (·.storeDemand id queue)) = enlisted frame :=
  congrArg (fun demand => ({ frame.runtime.roster with demand }, frame.runtime.transforms))
    (keys_modify id _)

private theorem enlisted_kept : Keeps demand now enlisted where
  stored frame _ := store_enlisted frame _ _
  entered _ _ := rfl
  overflowed _ := rfl
  dropped _ _ := rfl
  served _ _ := rfl

private theorem runDemand_enlisted (scene : Sl1Scene) :
    enlisted (runDemand scene now frame) = enlisted frame :=
  runDemand_keeps now frame scene (enlisted_kept · now) fun _ _ => rfl

end Demand

namespace Objectives

variable (scene : Sl1Scene) (now : Nat) (frame : Frame)

/-- An entry that is there is replaced. -/
private theorem replaced {Value : Type} {map : IdMap Value} {id : String} {entry : Value}
    (found : map[id]? = some entry) (value : Value) : (map.insert id value).keys = map.keys :=
  keys_insert_of_mem (mem_of_getElem? found) value

private theorem evaluateObjective_enlisted (objective : Sl1Objective) :
    enlisted (evaluateObjective scene now frame objective) = enlisted frame := by
  have warned : enlisted (warnUnsupported now frame objective) = enlisted frame ∧
      (warnUnsupported now frame objective).runtime.objectives = frame.runtime.objectives := by
    unfold warnUnsupported
    split <;> exact ⟨rfl, rfl⟩
  unfold evaluateObjective
  split
  · rfl
  · rename_i entry found
    have stored (entry : Sl1ObjectiveRuntime) : enlisted
        ((warnUnsupported now frame objective).modify fun runtime => { runtime with
          objectives := runtime.objectives.insert objective.id entry }) = enlisted frame := by
      have keys : ((warnUnsupported now frame objective).runtime.objectives.insert
          objective.id entry).keys = (warnUnsupported now frame objective).runtime.objectives.keys := by
        rw [warned.2]
        exact replaced found entry
      exact (congrArg (fun objectives =>
        ({ (warnUnsupported now frame objective).runtime.roster with objectives },
          (warnUnsupported now frame objective).runtime.transforms)) keys).trans warned.1
    simp only
    split
    · exact stored _
    · exact stored _

private theorem evaluateFailureCondition_enlisted (condition : Sl1FailureCondition) :
    enlisted (evaluateFailureCondition scene now frame condition) = enlisted frame := by
  unfold evaluateFailureCondition
  split
  · rfl
  · rename_i entry found
    have stored (entry : Sl1FailureConditionRuntime) : enlisted (frame.modify fun runtime =>
        { runtime with
          failureConditions := runtime.failureConditions.insert condition.id entry }) =
        enlisted frame :=
      congrArg (fun failureConditions =>
        ({ frame.runtime.roster with failureConditions }, frame.runtime.transforms))
        (replaced found _)
    simp only
    split
    · exact stored _
    · exact stored _

private theorem evaluateVictoryCondition_enlisted (condition : Sl1VictoryCondition) :
    enlisted (evaluateVictoryCondition now frame condition) = enlisted frame := by
  unfold evaluateVictoryCondition
  split
  · rfl
  · rename_i entry found
    split
    · exact congrArg (fun victoryConditions =>
        ({ frame.runtime.roster with victoryConditions }, frame.runtime.transforms))
        (replaced found _)
    · rfl

private theorem run_enlisted : enlisted (run scene now frame) = enlisted frame := by
  unfold run
  split
  · rfl
  · have objectives : enlisted (evaluateObjectives scene now frame) = enlisted frame :=
      foldl_keeps enlisted (fun frame objective _ =>
        evaluateObjective_enlisted scene now frame objective) frame
    have failures (frame : Frame) :
        enlisted (evaluateFailureConditions scene now frame) = enlisted frame :=
      foldl_keeps enlisted (fun frame condition _ =>
        evaluateFailureCondition_enlisted scene now frame condition) frame
    have victories (frame : Frame) :
        enlisted (evaluateVictoryConditions scene now frame) = enlisted frame :=
      foldl_keeps enlisted (fun frame condition _ =>
        evaluateVictoryCondition_enlisted now frame condition) frame
    have decided (frame : Frame) : enlisted (recomputeOutcome scene now frame) = enlisted frame := by
      unfold recomputeOutcome
      simp only
      split <;> rfl
    exact (decided _).trans ((victories _).trans ((failures _).trans objectives))

end Objectives

namespace Observability

variable {scene : Sl1Scene} {now : Nat} {frame : Frame}

private theorem updateDashboard_enlisted (dashboard : Sl1Dashboard) :
    enlisted (updateDashboard now frame dashboard) = enlisted frame := by
  unfold updateDashboard
  simp only
  split
  · rfl
  · rename_i previous found
    have keys (state : Sl1DashboardState) : (frame.runtime.dashboardStates.insert dashboard.id
        state).keys = frame.runtime.dashboardStates.keys :=
      keys_insert_of_mem (mem_of_getElem? found) state
    split
    · exact congrArg (fun dashboards =>
        ({ frame.runtime.roster with dashboards }, frame.runtime.transforms)) (keys _)
    · exact congrArg (fun dashboards =>
        ({ frame.runtime.roster with dashboards }, frame.runtime.transforms)) (keys _)

private theorem updateAlert_enlisted (alert : Sl1Alert) :
    enlisted (updateAlert now frame alert) = enlisted frame := by
  unfold updateAlert
  split
  · rename_i metric previous _ found
    have keys (state : Sl1AlertState) : (frame.runtime.alertStates.insert alert.id state).keys =
        frame.runtime.alertStates.keys := keys_insert_of_mem (mem_of_getElem? found) state
    simp only
    split
    · exact congrArg (fun alerts =>
        ({ frame.runtime.roster with alerts }, frame.runtime.transforms)) (keys _)
    · exact congrArg (fun alerts =>
        ({ frame.runtime.roster with alerts }, frame.runtime.transforms)) (keys _)
  · rfl

/-- A metric is written whether it had an entry or not. -/
private theorem updateMetric_enlisted {metric : Sl1Metric}
    (entered : metric.id ∈ frame.runtime.metricStates) :
    enlisted (updateMetric scene now frame metric) = enlisted frame := by
  unfold updateMetric
  split
  · rfl
  · exact congrArg (fun metrics => ({ frame.runtime.roster with metrics }, frame.runtime.transforms))
      (keys_insert_of_mem entered _)

private theorem run_enlisted (entered : ∀ metric ∈ scene.metrics, metric.id ∈ frame.runtime.metricStates) :
    enlisted (run scene now frame) = enlisted frame := by
  rw [run_eq]
  have dashboards : enlisted (scene.dashboards.foldl (updateDashboard now) frame) = enlisted frame :=
    foldl_keeps enlisted (fun _ dashboard _ => updateDashboard_enlisted dashboard) frame
  refine (foldl_keeps enlisted (fun _ alert _ => updateAlert_enlisted alert) _).trans ?_
  refine List.foldlRecOn (motive := fun current : Frame => enlisted current = enlisted frame) _ _
    dashboards fun current same metric listed => ?_
  refine (updateMetric_enlisted ?_).trans same
  have keys : current.runtime.metricStates.keys = frame.runtime.metricStates.keys :=
    congrArg (fun view => view.1.metrics) same
  rw [← Std.ExtTreeMap.mem_keys, keys, Std.ExtTreeMap.mem_keys]
  exact entered metric listed

end Observability

namespace Sl1Scene.Rostered

variable {scene : Sl1Scene} {now : Nat} {frame other : Frame}

private theorem of_enlisted (rostered : scene.Rostered frame.runtime)
    (same : enlisted other = enlisted frame) : scene.Rostered other.runtime :=
  rostered.of_same (congrArg (·.1) same) (congrArg (·.2) same)

/-- A tick leaves the roster as the scene declares it. -/
theorem run (valid : scene.Valid) (backend : AgentBackend) (rostered : scene.Rostered frame.runtime) :
    scene.Rostered (Sl1.run scene backend now frame).runtime := by
  have flowed : scene.Rostered (runFlow scene now frame).runtime := by
    have moved : scene.Rostered (Sl1.moveStock scene now frame).runtime := rostered.moveStock valid
    rw [runFlow_eq]
    exact moved.of_enlisted (Demand.runDemand_enlisted now _ scene)
  have judged : scene.Rostered (Objectives.run scene now (runFlow scene now frame)).runtime :=
    flowed.of_enlisted (Objectives.run_enlisted scene now _)
  have observed : scene.Rostered
      (Observability.run scene now (Objectives.run scene now (runFlow scene now frame))).runtime := by
    refine judged.of_enlisted (Observability.run_enlisted fun metric listed => ?_)
    have keys : (Objectives.run scene now (runFlow scene now frame)).runtime.metricStates.keys =
        (Sl1RuntimeState.fromScene scene).metricStates.keys := congrArg Roster.metrics judged.roster
    rw [← Std.ExtTreeMap.mem_keys, keys, Std.ExtTreeMap.mem_keys]
    exact (Entered.load scene).metrics metric listed
  obtain ⟨agents, pauses, milestones, passed⟩ := runObservers_writes scene backend now
    (Objectives.run scene now (runFlow scene now frame))
  change scene.Rostered (runObservers scene backend now _).runtime
  rw [passed]
  exact observed.of_same rfl rfl

end Sl1Scene.Rostered

end Simetro.Sl1
