import Simetro.Sl1.Expectations
import Simetro.Sl1.FlowRelations
import Simetro.Library.Reordering

/-! The age tag of a freshness entry is for show: runs whose things have other freshness budgets
differ in the tags alone. -/

namespace Simetro.Sl1

open Simetro.Library Simetro.Protocol

/-- The state without its tag. -/
def FreshnessState.untagged : FreshnessState → FreshnessState
  | .stale lastSetTick => .ok lastSetTick
  | state => state

def Sl1RuntimeState.untagged (runtime : Sl1RuntimeState) : Sl1RuntimeState :=
  { runtime with freshness := runtime.freshness.map fun _ => FreshnessState.untagged }

/-- Frames that differ in the tags alone. -/
structure Frame.SameDates (first second : Frame) : Prop where
  runtime : first.runtime.untagged = second.runtime.untagged
  events : first.events = second.events
  messages : first.messages = second.messages

namespace Frame.SameDates

variable {first second : Frame}

/-- A read that does not look at the tags. -/
theorem read {Value : Type} (same : first.SameDates second) (look : Sl1RuntimeState → Value)
    (only : ∀ runtime, look runtime = look runtime.untagged) :
    look first.runtime = look second.runtime := by
  rw [only first.runtime, same.runtime, ← only]

/-- A change that does not look at the tags. -/
theorem modify (same : first.SameDates second) (change : Sl1RuntimeState → Sl1RuntimeState)
    (only : ∀ runtime, (change runtime).untagged = change runtime.untagged) :
    (first.modify change).SameDates (second.modify change) :=
  { same with
    runtime := by
      rw [Frame.modify_runtime, Frame.modify_runtime, only, only, same.runtime] }

theorem emit (same : first.SameDates second) (event : SimEvent) :
    (first.emit event).SameDates (second.emit event) :=
  { same with events := by rw [Frame.emit_events, Frame.emit_events, same.events] }

theorem warn (same : first.SameDates second) (payload : WarningPayload) :
    (first.warn payload).SameDates (second.warn payload) :=
  { same with messages := by rw [Frame.warn_messages, Frame.warn_messages, same.messages] }

theorem perform (same : first.SameDates second) (tick : Nat) (op : LedgerOp)
    (change : Sl1RuntimeState → Sl1RuntimeState)
    (only : ∀ runtime, (change runtime).untagged = change runtime.untagged) :
    (first.perform tick op change).SameDates (second.perform tick op change) :=
  ⟨(same.modify change only).runtime, same.events, same.messages⟩

private theorem local_untagged {change : Sl1RuntimeState → Sl1RuntimeState}
    (only : Sl1RuntimeState.Local change) (runtime : Sl1RuntimeState) :
    (change runtime).untagged = change runtime.untagged := by
  rw [only runtime, only runtime.untagged]
  rfl

theorem flowRelation : FlowRelation Frame.SameDates where
  stores same := same.read (·.stores) fun _ => rfl
  modify same only := same.modify _ (local_untagged only)
  perform tick op same only := same.perform tick op _ (local_untagged only)
  emit event same := same.emit event
  warn payload same := same.warn payload
  enqueue _ same := { same with }
  serve _ same := { same with }

end Frame.SameDates

section Freshness

variable {entries : PairMap FreshnessState}

theorem untagged_insert (key : String × String) (state : FreshnessState) :
    (entries.insert key state).map (fun _ => FreshnessState.untagged) =
      (entries.map fun _ => FreshnessState.untagged).insert key state.untagged := by
  apply Std.ExtTreeMap.ext_getElem?
  intro other
  rw [Std.ExtTreeMap.getElem?_map, Std.ExtTreeMap.getElem?_insert, Std.ExtTreeMap.getElem?_insert,
    Std.ExtTreeMap.getElem?_map]
  split <;> rfl

/-- Aging changes tags alone. -/
theorem ageFreshness_untagged (scene : Sl1Scene) (now : Nat) (frame : Frame) :
    (Transforms.ageFreshness scene now frame).runtime.untagged = frame.runtime.untagged := by
  have aged (budget : Option Nat) (state : FreshnessState) :
      (Transforms.ageEntry budget now state).untagged = state.untagged := by
    cases state with
    | ok lastSetTick =>
      cases budget with
      | none => rfl
      | some ticks =>
        unfold Transforms.ageEntry
        simp only
        split <;> rfl
    | noData | stale | degraded | invalid => rfl
  simp only [Transforms.ageFreshness, Frame.modify_runtime, Sl1RuntimeState.untagged,
    Std.ExtTreeMap.map_map, aged]

theorem completeRun_untagged (transform : Sl1Transform) (now : Nat) (runtime : Sl1RuntimeState) :
    (Transforms.completeRun transform now runtime).untagged =
      Transforms.completeRun transform now runtime.untagged := by
  have landed (outputs : List Sl1TransformIo) (entries : PairMap FreshnessState) :
      (outputs.foldl (fun freshness output =>
        freshness.insert (transform.runsOn, output.thingId) (.ok now)) entries).map
          (fun _ => FreshnessState.untagged) =
      outputs.foldl (fun freshness output =>
        freshness.insert (transform.runsOn, output.thingId) (.ok now))
          (entries.map fun _ => FreshnessState.untagged) := by
    induction outputs generalizing entries with
    | nil => rfl
    | cons output rest ih =>
      rw [List.foldl_cons, List.foldl_cons, ih, untagged_insert]
      rfl
  have fresh := landed transform.outputs runtime.freshness
  unfold Sl1RuntimeState.untagged Transforms.completeRun Transforms.produceOutputs
  simp only [Transforms.release, Transforms.releaseCapacity, Transforms.releasePendingOutputs,
    Sl1RuntimeState.updateSlots]
  rw [fresh]

end Freshness

section Evaluators

variable (runtime : Sl1RuntimeState) (now : Nat)

theorem lastSetTick_untagged (place thing : String) :
    Objectives.lastSetTick runtime place thing =
      Objectives.lastSetTick runtime.untagged place thing := by
  unfold Objectives.lastSetTick
  rw [Std.ExtTreeMap.getD_eq_getD_getElem?, Std.ExtTreeMap.getD_eq_getD_getElem?,
    Sl1RuntimeState.untagged, Std.ExtTreeMap.getElem?_map]
  cases runtime.freshness[(place, thing)]? with
  | none => rfl
  | some state => cases state <;> rfl

theorem objectiveStatus_untagged (scene : Sl1Scene) (params : Sl1ObjectiveParams) :
    Objectives.objectiveStatus scene runtime now params =
      Objectives.objectiveStatus scene runtime.untagged now params := by
  cases params with
  | keepFresh place thing maxStaleTicks =>
    simp only [Objectives.objectiveStatus, Objectives.evaluateKeepFresh,
      ← lastSetTick_untagged runtime]
  | completeJobsBeforeDeadline | maintainUtilization | unsupportedInThisPr => rfl

theorem fcBreached_untagged (scene : Sl1Scene) (params : Sl1FailureConditionParams) :
    Objectives.fcBreached scene runtime now params =
      Objectives.fcBreached scene runtime.untagged now params := by
  cases params with
  | staleTarget place thing thresholdTicks _ =>
    simp only [Objectives.fcBreached, Objectives.staleTargetBreached, ← lastSetTick_untagged runtime]
  | placeState | objectiveBreachCount => rfl

theorem dashboardFreshness_untagged (dashboard : Sl1Dashboard) :
    Observability.dashboardFreshness runtime now dashboard =
      Observability.dashboardFreshness runtime.untagged now dashboard := by
  refine Observability.dashboardFreshness_of_ages dashboard fun thing => ?_
  unfold Observability.minAge Observability.ages
  rw [Sl1RuntimeState.untagged, Std.ExtTreeMap.toList_map, List.filterMap_map]
  congr 1
  apply List.filterMap_congr
  intro entry _
  obtain ⟨key, state⟩ := entry
  cases state <;> rfl

theorem computeDashboardState_untagged (dashboard : Sl1Dashboard) :
    Observability.computeDashboardState runtime now dashboard =
      Observability.computeDashboardState runtime.untagged now dashboard := by
  rw [Observability.computeDashboardState, dashboardFreshness_untagged]
  rfl

theorem computeMetricState_untagged (scene : Sl1Scene) (source : Sl1MetricSource) :
    Observability.computeMetricState scene runtime now source =
      Observability.computeMetricState scene runtime.untagged now source := by
  cases source with
  | placeCapacityUsedPercent | placeInventoryCount => rfl
  | dashboardFreshness dashboard =>
    simp only [Observability.computeMetricState, ← dashboardFreshness_untagged runtime]

end Evaluators

section Passes

variable (scene : Sl1Scene) (now : Nat) {first second : Frame}

namespace Objectives

theorem evaluateObjective_sameDates (objective : Sl1Objective) (same : first.SameDates second) :
    (evaluateObjective scene now first objective).SameDates
      (evaluateObjective scene now second objective) := by
  have warned : (warnUnsupported now first objective).SameDates
      (warnUnsupported now second objective) := by
    unfold warnUnsupported
    rw [same.read (·.unsupportedObjectivesWarned) fun _ => rfl]
    split
    · exact (same.modify _ fun _ => by rfl).warn _
    · exact same
  unfold evaluateObjective
  rw [same.read (objectiveStatus scene · now objective.params)
      (objectiveStatus_untagged · now scene objective.params),
    same.read (·.objectives) fun _ => rfl]
  split
  · exact same
  · simp only
    split
    · exact warned.modify _ fun _ => rfl
    · exact (warned.modify _ fun _ => by rfl).emit _

theorem evaluateFailureCondition_sameDates (condition : Sl1FailureCondition)
    (same : first.SameDates second) : (evaluateFailureCondition scene now first condition).SameDates
      (evaluateFailureCondition scene now second condition) := by
  unfold evaluateFailureCondition
  rw [same.read (fcBreached scene · now condition.params)
      (fcBreached_untagged · now scene condition.params),
    same.read (·.failureConditions) fun _ => rfl]
  split
  · exact same
  · simp only
    split
    · exact (same.modify _ fun _ => by rfl).emit _
    · exact same.modify _ fun _ => rfl

theorem evaluateVictoryCondition_sameDates (condition : Sl1VictoryCondition)
    (same : first.SameDates second) : (evaluateVictoryCondition now first condition).SameDates
      (evaluateVictoryCondition now second condition) := by
  unfold evaluateVictoryCondition
  rw [same.read (·.victoryConditions) fun _ => rfl]
  split
  · exact same
  · split
    · exact (same.modify _ fun _ => by rfl).emit _
    · exact same

theorem recomputeOutcome_sameDates (same : first.SameDates second) :
    (recomputeOutcome scene now first).SameDates (recomputeOutcome scene now second) := by
  unfold recomputeOutcome
  simp only
  rw [same.read (outcomeOf scene) fun _ => rfl, same.read (·.gameOutcome) fun _ => rfl]
  split
  · exact same
  · exact (same.emit _).modify _ fun _ => rfl

theorem run_sameDates (same : first.SameDates second) :
    (run scene now first).SameDates (run scene now second) := by
  unfold run
  rw [same.read (·.gameOutcome) fun _ => rfl]
  split
  · exact same
  · have judged := List.foldl_rel same fun objective (_ : objective ∈ scene.objectives) _ _ same =>
      evaluateObjective_sameDates scene now objective same
    have failed := List.foldl_rel judged fun condition (_ : condition ∈ scene.failureConditions)
      _ _ same => evaluateFailureCondition_sameDates scene now condition same
    have met := List.foldl_rel failed fun condition (_ : condition ∈ scene.victoryConditions)
      _ _ same => evaluateVictoryCondition_sameDates now condition same
    exact (recomputeOutcome_sameDates scene now met).modify
      (fun runtime => { runtime with gamePhase := computePhase scene runtime }) fun _ => rfl

end Objectives

namespace Observability

theorem updateDashboard_sameDates (dashboard : Sl1Dashboard) (same : first.SameDates second) :
    (updateDashboard now first dashboard).SameDates (updateDashboard now second dashboard) := by
  unfold updateDashboard
  rw [same.read (computeDashboardState · now dashboard) (computeDashboardState_untagged · now dashboard),
    same.read (·.dashboardStates) fun _ => rfl]
  simp only
  split
  · exact same
  · split
    · exact (same.emit _).modify _ fun _ => rfl
    · exact same.modify _ fun _ => rfl

theorem updateMetric_sameDates (metric : Sl1Metric) (same : first.SameDates second) :
    (updateMetric scene now first metric).SameDates (updateMetric scene now second metric) := by
  unfold updateMetric
  rw [same.read (computeMetricState scene · now metric.source)
    (computeMetricState_untagged · now scene metric.source)]
  split
  · exact same
  · exact same.modify _ fun _ => rfl

theorem updateAlert_sameDates (alert : Sl1Alert) (same : first.SameDates second) :
    (updateAlert now first alert).SameDates (updateAlert now second alert) := by
  unfold updateAlert
  rw [same.read (·.metricStates) fun _ => rfl, same.read (·.alertStates) fun _ => rfl]
  split
  · simp only
    split
    · exact (same.emit _).modify _ fun _ => rfl
    · exact same.modify _ fun _ => rfl
  · exact same

theorem run_sameDates (same : first.SameDates second) :
    (run scene now first).SameDates (run scene now second) := by
  unfold run
  split
  · exact same
  · rename_i observability _
    have shown := List.foldl_rel same fun dashboard (_ : dashboard ∈ observability.dashboards)
      _ _ same => updateDashboard_sameDates now dashboard same
    have measured := List.foldl_rel shown fun metric (_ : metric ∈ observability.metrics)
      _ _ same => updateMetric_sameDates scene now metric same
    exact List.foldl_rel measured fun alert (_ : alert ∈ observability.alerts) _ _ same =>
      updateAlert_sameDates now alert same

end Observability

theorem Agents.run_sameDates (backend : AgentBackend) (same : first.SameDates second) :
    (run scene now backend first).SameDates (run scene now backend second) := by
  refine List.foldl_rel same fun agent _ one two same => ?_
  unfold decideOne
  rw [same.read (·.agents) fun _ => rfl]
  split
  · exact same
  · split
    · exact same
    · split
      · unfold reportDisabled
        simp only
        split
        · exact same.modify _ fun _ => rfl
        · exact (same.emit _).modify _ fun _ => rfl
      · simp only
        have decided := same.modify (updateAgent agent fun state =>
          { state with lastDecisionTick := some now }) fun _ => rfl
        split
        · exact decided
        · rename_i action _
          unfold settleAction
          split
          · exact decided.emit _
          · have applied := decided.modify (applyAction now action) fun _ => rfl
            exact (applied.modify _ fun _ => by rfl).emit _

theorem Milestones.run_sameDates (same : first.SameDates second) :
    (run scene now first).SameDates (run scene now second) := by
  refine List.foldl_rel same fun milestone _ one two same => ?_
  unfold evaluate
  rw [same.read (·.milestones) fun _ => rfl,
    same.read (armsNow · milestone.trigger) fun _ => by cases milestone.trigger <;> rfl,
    same.read (triggerSatisfied · milestone.trigger) fun _ => by cases milestone.trigger <;> rfl]
  split
  · exact same
  · split
    · exact same
    · split
      · split
        · exact same.modify _ fun _ => rfl
        · exact same
      · split
        · exact same
        · exact (same.modify _ fun _ => by rfl).emit _

theorem runObservers_sameDates (backend : AgentBackend) (same : first.SameDates second) :
    (runObservers scene backend now first).SameDates (runObservers scene backend now second) := by
  have observed := Observability.run_sameDates scene now same
  have acted := Agents.run_sameDates scene now backend observed
  rw [runObservers_eq, runObservers_eq]
  exact Milestones.run_sameDates scene now acted

end Passes

def RawSl1Thing.unbudgeted (raw : RawSl1Thing) : RawSl1Thing :=
  { raw with freshnessBudgetTicks := none }

def Sl1Thing.unbudgeted (thing : Sl1Thing) : Sl1Thing :=
  { thing with freshnessBudgetTicks := none }

/-- Scenes that differ at most in the freshness budgets of their things. -/
structure Sl1Scene.SameButBudgets (scene other : Sl1Scene) : Prop where
  things : scene.things.map Sl1Thing.unbudgeted = other.things.map Sl1Thing.unbudgeted
  rest : { scene with things := [] } = { other with things := [] }

namespace Sl1Scene.SameButBudgets

variable {scene other : Sl1Scene} (differ : scene.SameButBudgets other)
include differ

/-- What does not read the things is the same. -/
theorem same {Value : Type} (look : Sl1Scene → Value)
    (only : ∀ scene, look scene = look { scene with things := [] }) : look scene = look other := by
  rw [only scene, differ.rest, ← only]

theorem ticks_sameDates (backend : AgentBackend) (count : Nat) :
    (ticks scene backend count).SameDates (ticks other backend count) := by
  induction count with
  | zero =>
    have load : Sl1RuntimeState.fromScene scene = Sl1RuntimeState.fromScene other :=
      differ.same Sl1RuntimeState.fromScene fun _ => rfl
    exact ⟨congrArg Sl1RuntimeState.untagged load, rfl, rfl⟩
  | succ count ih =>
    have aged {one two : Frame} (same : one.SameDates two) :
        (Transforms.ageFreshness scene (worldTick (count + 1)) one).SameDates
          (Transforms.ageFreshness other (worldTick (count + 1)) two) := by
      refine ⟨?_, same.events, same.messages⟩
      rw [ageFreshness_untagged, ageFreshness_untagged, same.runtime]
    have flowed := Frame.SameDates.flowRelation.runFlow (worldTick (count + 1))
      (differ.same (·.places) fun _ => rfl) (differ.same (·.transforms) fun _ => rfl)
      (differ.same (·.demand) fun _ => rfl) (differ.same (·.pressure) fun _ => rfl) aged
      (fun transform _ _ same => same.perform _ _ _ (completeRun_untagged transform _)) ih
    have judged := Objectives.run_sameDates scene (worldTick (count + 1)) flowed
    have judges : Objectives.run other = Objectives.run scene :=
      (differ.same Objectives.run fun _ => rfl).symm
    have observes : runObservers other = runObservers scene :=
      (differ.same runObservers fun _ => rfl).symm
    rw [ticks, ticks, run, run, judges, observes]
    exact runObservers_sameDates scene _ backend judged

end Sl1Scene.SameButBudgets

/-- Freshness budgets reach no evaluator: two runs whose scenes differ in them alone have, tick by
tick, the same evaluated states and the same transcript, and every evaluator gives two states that
differ in their tags the same answer. -/
theorem budgets_unobservable {scene other : Sl1Scene} (differ : scene.SameButBudgets other)
    (backend : AgentBackend) (count : Nat) :
    let run := ticks scene backend count
    let twin := ticks other backend count
    (run.events = twin.events ∧ run.messages = twin.messages) ∧
    (run.runtime.objectives = twin.runtime.objectives ∧
      run.runtime.failureConditions = twin.runtime.failureConditions ∧
      run.runtime.victoryConditions = twin.runtime.victoryConditions ∧
      run.runtime.gameOutcome = twin.runtime.gameOutcome ∧
      run.runtime.gamePhase = twin.runtime.gamePhase ∧
      run.runtime.metricStates = twin.runtime.metricStates ∧
      run.runtime.dashboardStates = twin.runtime.dashboardStates ∧
      run.runtime.alertStates = twin.runtime.alertStates ∧
      run.runtime.milestones = twin.runtime.milestones ∧
      run.runtime.untagged = twin.runtime.untagged) ∧
    ∀ first second : Sl1RuntimeState, first.untagged = second.untagged → ∀ now,
      (∀ params, Objectives.objectiveStatus scene first now params =
        Objectives.objectiveStatus scene second now params) ∧
      (∀ params, Objectives.fcBreached scene first now params =
        Objectives.fcBreached scene second now params) ∧
      (∀ dashboard, Observability.computeDashboardState first now dashboard =
        Observability.computeDashboardState second now dashboard) ∧
      ∀ source, Observability.computeMetricState scene first now source =
        Observability.computeMetricState scene second now source := by
  intro run twin
  have same : run.SameDates twin := differ.ticks_sameDates backend count
  refine ⟨⟨same.events, same.messages⟩, ⟨same.read (·.objectives) fun _ => rfl,
    same.read (·.failureConditions) fun _ => rfl, same.read (·.victoryConditions) fun _ => rfl,
    same.read (·.gameOutcome) fun _ => rfl, same.read (·.gamePhase) fun _ => rfl,
    same.read (·.metricStates) fun _ => rfl, same.read (·.dashboardStates) fun _ => rfl,
    same.read (·.alertStates) fun _ => rfl, same.read (·.milestones) fun _ => rfl,
    same.runtime⟩, ?_⟩
  intro first second alike now
  refine ⟨fun params => ?_, fun params => ?_, fun dashboard => ?_, fun source => ?_⟩
  · rw [objectiveStatus_untagged, alike, ← objectiveStatus_untagged]
  · rw [fcBreached_untagged, alike, ← fcBreached_untagged]
  · rw [computeDashboardState_untagged, alike, ← computeDashboardState_untagged]
  · rw [computeMetricState_untagged, alike, ← computeMetricState_untagged]

theorem validateThing_unbudgeted {raw : RawSl1Thing} {thing : Sl1Thing}
    (accepted : validateThing raw = .ok thing) : validateThing raw.unbudgeted = .ok thing.unbudgeted := by
  simp only [validateThing, bind_eq_ok] at accepted ⊢
  obtain ⟨⟨⟩, named, ⟨⟩, kind, tags, tagged, ⟨⟩, versioned, ⟨⟩, -, contract, quality, ⟨⟩, drawn,
    built⟩ := accepted
  cases built
  exact ⟨(), named, (), kind, tags, tagged, (), versioned, (), rfl, contract, quality, (), drawn, rfl⟩

theorem things_unbudgeted {raws others : List RawSl1Thing} {things also : List Sl1Thing}
    (matched : raws.map RawSl1Thing.unbudgeted = others.map RawSl1Thing.unbudgeted)
    (read : catalog validateThing (·.id) (.thingDuplicateId ·.id) noCrossCheck raws = .ok things)
    (readToo : catalog validateThing (·.id) (.thingDuplicateId ·.id) noCrossCheck others = .ok also) :
    things.map Sl1Thing.unbudgeted = also.map Sl1Thing.unbudgeted := by
  obtain ⟨rows, ⟨stepped, -⟩, rfl⟩ := catalog_eq_ok.mp read
  obtain ⟨rest, ⟨steppedToo, -⟩, rfl⟩ := catalog_eq_ok.mp readToo
  have erased {raws : List RawSl1Thing} {entries : List Sl1Thing}
      (stepped : List.Forall₂ (ReadsAs validateThing noCrossCheck) raws entries) :
      List.Forall₂ (ReadsAs validateThing noCrossCheck) (raws.map RawSl1Thing.unbudgeted)
        (entries.map Sl1Thing.unbudgeted) := by
    rw [List.forall₂_map_left_iff, List.forall₂_map_right_iff]
    exact stepped.imp fun _ _ step => ⟨validateThing_unbudgeted step.1, rfl⟩
  have unique : Relator.RightUnique (ReadsAs validateThing noCrossCheck) := by
    intro raw one two first second
    exact Except.ok.inj (first.1.symm.trans second.1)
  have same : rows.map Sl1Thing.unbudgeted = rest.map Sl1Thing.unbudgeted :=
    unique.forall₂ (matched ▸ erased stepped) (erased steppedToo)
  have named (thing : Sl1Thing) : thing.unbudgeted.id = thing.id := rfl
  rw [sortByKey_map Sl1Thing.unbudgeted named, sortByKey_map Sl1Thing.unbudgeted named, same]

/-- Scenes read from texts that differ in the budgets differ in the budgets. -/
theorem validate_sameButBudgets {raw : RawSl1Scene} {things : List RawSl1Thing}
    {scene other : Sl1Scene}
    (matched : raw.things.map RawSl1Thing.unbudgeted = things.map RawSl1Thing.unbudgeted)
    (accepted : validate raw = .ok scene) (acceptedToo : validate { raw with things } = .ok other) :
    scene.SameButBudgets other := by
  simp only [validate, bind_eq_ok] at accepted acceptedToo
  obtain ⟨-, -, first, read, accepted⟩ := accepted
  obtain ⟨-, -, second, readToo, acceptedToo⟩ := acceptedToo
  have budgets := things_unbudgeted matched read readToo
  have ids : first.map (·.id) = second.map (·.id) := by
    simpa [Function.comp_def, Sl1Thing.unbudgeted] using congrArg (List.map (·.id)) budgets
  have tags : first.flatMap (·.tags) = second.flatMap (·.tags) := by
    simpa [List.flatMap_map, Sl1Thing.unbudgeted] using congrArg (List.flatMap (·.tags)) budgets
  rw [← ids, ← tags] at acceptedToo
  -- the other sections read only the ids and the tags of the things
  have step {α : Type} {check : Checked α} {one two : α → Prop}
      (here : ∃ value, check = .ok value ∧ one value)
      (there : ∃ value, check = .ok value ∧ two value) : ∃ value, one value ∧ two value := by
    obtain ⟨value, passed, held⟩ := here
    obtain ⟨_, again, heldToo⟩ := there
    cases passed.symm.trans again
    exact ⟨value, held, heldToo⟩
  obtain ⟨places, accepted, acceptedToo⟩ := step accepted acceptedToo
  obtain ⟨links, accepted, acceptedToo⟩ := step accepted acceptedToo
  obtain ⟨transforms, accepted, acceptedToo⟩ := step accepted acceptedToo
  obtain ⟨demand, accepted, acceptedToo⟩ := step accepted acceptedToo
  obtain ⟨pressure, accepted, acceptedToo⟩ := step accepted acceptedToo
  obtain ⟨objectives, accepted, acceptedToo⟩ := step accepted acceptedToo
  obtain ⟨failureConditions, accepted, acceptedToo⟩ := step accepted acceptedToo
  obtain ⟨victoryConditions, accepted, acceptedToo⟩ := step accepted acceptedToo
  obtain ⟨observability, accepted, acceptedToo⟩ := step accepted acceptedToo
  obtain ⟨agents, accepted, acceptedToo⟩ := step accepted acceptedToo
  obtain ⟨milestones, accepted, acceptedToo⟩ := step accepted acceptedToo
  cases accepted
  cases acceptedToo
  exact ⟨budgets, rfl⟩

/-- The aging scene with a budget on its ore. -/
def budgetedScene : RawSl1Scene :=
  { agingScene with
    things := agingScene.things.map fun thing => { thing with freshnessBudgetTicks := some 1 } }

theorem budgets_unobservable_aging : ∃ scene other,
    validate agingScene = .ok scene ∧ validate budgetedScene = .ok other ∧
    scene.things.map (·.freshnessBudgetTicks) ≠ other.things.map (·.freshnessBudgetTicks) ∧
    (ticks scene defaultBackend 3).events = (ticks other defaultBackend 3).events := by
  have evaluated : yields (validate agingScene) (fun scene =>
      yields (validate budgetedScene) fun other => decide (scene.things.map (·.freshnessBudgetTicks) ≠ other.things.map (·.freshnessBudgetTicks))) = true := by
    decide +kernel
  obtain ⟨scene, accepted, evaluated⟩ := yields_iff.mp evaluated
  obtain ⟨other, acceptedToo, differ⟩ := yields_iff.mp evaluated
  have same : scene.SameButBudgets other := by
    apply validate_sameButBudgets ?_ accepted acceptedToo
    rfl
  exact ⟨scene, other, accepted, acceptedToo, of_decide_eq_true differ,
    (budgets_unobservable same defaultBackend 3).1.1⟩

end Simetro.Sl1
