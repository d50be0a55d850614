import Simetro.Sl1.Ambient

/-! Which parts of the runtime each pass writes. Each lemma names them and says that the
rest of the runtime is as it was. -/

namespace Simetro.Sl1

open Simetro.Library Simetro.Protocol

namespace Pressure

variable (scene : Sl1Scene) (now : Nat) (frame : Frame)

private def rest (frame : Frame) : Sl1RuntimeState :=
  { frame.runtime with pressure := {}, inventories := ∅ }

private theorem run_rest : rest (run scene now frame) = rest frame := by
  refine run_keeps rest ?_ fun frame _ =>
    injectSource_rule (motive := fun after => rest after = rest frame) rfl rfl
  exact overlaid_rule (rest · = rest frame) rfl (fun _ _ same => same) (fun _ _ _ _ same => same)
    fun _ _ _ same => same

theorem run_writes : ∃ pressure inventories,
    (run scene now frame).runtime = { frame.runtime with pressure, inventories } :=
  ⟨_, _, congrArg (fun runtime : Sl1RuntimeState => { runtime with
    pressure := (run scene now frame).runtime.pressure
    inventories := (run scene now frame).runtime.inventories }) (run_rest scene now frame)⟩

end Pressure

namespace Transforms

variable {transform : Sl1Transform} {caps : PassCaps} {now : Nat} {frame last : Frame}
  {state next : Sl1TransformState}

private def rest (frame : Frame) : Sl1RuntimeState :=
  { frame.runtime with
    inventories := ∅, freshness := ∅, transforms := ∅, placeCapacityUsed := ∅, pendingOutputs := ∅ }

private theorem Advanced.rest (advanced : Advanced transform caps now frame state next last) :
    Transforms.rest last = Transforms.rest frame := by
  cases advanced <;> rfl

private theorem Served.rest (served : Served transform caps now frame state next last) :
    Transforms.rest last = Transforms.rest frame := by
  cases served <;> rfl

private theorem runTransforms_rest (scene : Sl1Scene) (now : Nat) (frame : Frame) :
    rest (runTransforms scene now frame) = rest frame :=
  runTransforms_keeps rest (fun transform =>
    processOne_keeps transform _ now rest Advanced.rest Served.rest fun _ _ => rfl) frame

theorem runTransforms_writes (scene : Sl1Scene) (now : Nat) (frame : Frame) :
    ∃ inventories freshness transforms placeCapacityUsed pendingOutputs,
      (runTransforms scene now frame).runtime = { frame.runtime with
        inventories, freshness, transforms, placeCapacityUsed, pendingOutputs } :=
  ⟨_, _, _, _, _, congrArg (fun runtime : Sl1RuntimeState => { runtime with
    inventories := (runTransforms scene now frame).runtime.inventories
    freshness := (runTransforms scene now frame).runtime.freshness
    transforms := (runTransforms scene now frame).runtime.transforms
    placeCapacityUsed := (runTransforms scene now frame).runtime.placeCapacityUsed
    pendingOutputs := (runTransforms scene now frame).runtime.pendingOutputs })
    (runTransforms_rest scene now frame)⟩

end Transforms

namespace Demand

variable (demand : Sl1Demand) (now : Nat) (frame : Frame)

private def rest (frame : Frame) : Sl1RuntimeState :=
  { frame.runtime with demand := ∅, agentDemandPauses := ∅ }

theorem drop_runtime : (drop demand now frame).runtime = frame.runtime.storeDemand demand.id
    (dropExpired now (frame.runtime.demandRuntime demand.id)) := by
  unfold drop
  exact foldl_keeps Frame.runtime (fun frame one _ => Frame.warn_runtime frame _) _

private theorem rest_kept : Keeps demand now rest where
  stored _ _ := rfl
  entered _ _ := rfl
  overflowed _ := rfl
  dropped _ _ := rfl
  served _ _ := rfl

theorem runDemand_writes (scene : Sl1Scene) : ∃ queues pauses,
    (runDemand scene now frame).runtime =
      { frame.runtime with demand := queues, agentDemandPauses := pauses } :=
  ⟨_, _, congrArg (fun runtime : Sl1RuntimeState => { runtime with
    demand := (runDemand scene now frame).runtime.demand
    agentDemandPauses := (runDemand scene now frame).runtime.agentDemandPauses })
    (runDemand_keeps now frame scene (rest_kept · now) fun _ _ => rfl)⟩

end Demand

theorem runFlow_writes (scene : Sl1Scene) (now : Nat) (frame : Frame) :
    ∃ pressure inventories freshness transforms placeCapacityUsed pendingOutputs queues pauses,
      (runFlow scene now frame).runtime = { frame.runtime with
        pressure, inventories, freshness, transforms, placeCapacityUsed, pendingOutputs
        demand := queues, agentDemandPauses := pauses } := by
  obtain ⟨pressure, injected, pressed⟩ := Pressure.run_writes scene now frame
  have aged : ∃ freshness, (Transforms.ageFreshness scene now (Pressure.run scene now frame)).runtime =
      { frame.runtime with pressure, inventories := injected, freshness } := by
    unfold Transforms.ageFreshness
    rw [Frame.modify_runtime, pressed]
    exact ⟨_, rfl⟩
  obtain ⟨aging, aged⟩ := aged
  have moved : ∃ inventories freshness transforms placeCapacityUsed pendingOutputs,
      (moveStock scene now frame).runtime = { frame.runtime with
        pressure, inventories, freshness, transforms, placeCapacityUsed, pendingOutputs } := by
    obtain ⟨_, _, _, _, _, ran⟩ := Transforms.runTransforms_writes scene now
      (Transforms.ageFreshness scene now (Pressure.run scene now frame))
    rw [moveStock_eq, ran, aged]
    exact ⟨_, _, _, _, _, rfl⟩
  obtain ⟨_, _, _, _, _, moved⟩ := moved
  obtain ⟨_, _, served⟩ := Demand.runDemand_writes now (moveStock scene now frame) scene
  rw [runFlow_eq, served, moved]
  exact ⟨_, _, _, _, _, _, _, _, rfl⟩

namespace Objectives

variable (scene : Sl1Scene) (now : Nat) (frame : Frame)

theorem evaluateObjectives_writes : ∃ objectives warned,
    (evaluateObjectives scene now frame).runtime =
      { frame.runtime with objectives, unsupportedObjectivesWarned := warned } := by
  let rest (frame : Frame) : Sl1RuntimeState :=
    { frame.runtime with objectives := ∅, unsupportedObjectivesWarned := ∅ }
  have kept : rest (evaluateObjectives scene now frame) = rest frame :=
    evaluateObjectives_rule (rest · = rest frame) rfl (fun _ _ same => same) (fun _ _ _ same => same)
      (fun _ _ _ same => same) fun _ _ _ _ same => same
  exact ⟨_, _, congrArg (fun runtime : Sl1RuntimeState => { runtime with
    objectives := (evaluateObjectives scene now frame).runtime.objectives
    unsupportedObjectivesWarned :=
      (evaluateObjectives scene now frame).runtime.unsupportedObjectivesWarned }) kept⟩

theorem evaluateFailureConditions_writes : ∃ failureConditions,
    (evaluateFailureConditions scene now frame).runtime =
      { frame.runtime with failureConditions } := by
  let rest (frame : Frame) : Sl1RuntimeState := { frame.runtime with failureConditions := ∅ }
  have kept : rest (evaluateFailureConditions scene now frame) = rest frame :=
    evaluateFailureConditions_rule (rest · = rest frame) rfl (fun _ _ _ same => same)
      fun _ _ same => same
  exact ⟨_, congrArg (fun runtime : Sl1RuntimeState => { runtime with
    failureConditions := (evaluateFailureConditions scene now frame).runtime.failureConditions })
    kept⟩

theorem evaluateVictoryConditions_writes : ∃ victoryConditions,
    (evaluateVictoryConditions scene now frame).runtime =
      { frame.runtime with victoryConditions } := by
  let rest (frame : Frame) : Sl1RuntimeState := { frame.runtime with victoryConditions := ∅ }
  have kept : rest (evaluateVictoryConditions scene now frame) = rest frame :=
    evaluateVictoryConditions_rule (rest · = rest frame) rfl (fun _ _ _ same => same)
      fun _ _ same => same
  exact ⟨_, congrArg (fun runtime : Sl1RuntimeState => { runtime with
    victoryConditions := (evaluateVictoryConditions scene now frame).runtime.victoryConditions })
    kept⟩

theorem recomputeOutcome_writes : (recomputeOutcome scene now frame).runtime =
    { frame.runtime with gameOutcome := outcomeOf scene frame.runtime } := by
  unfold recomputeOutcome
  simp only
  split
  · rename_i same
    rw [same]
  · rfl

theorem run_writes : ∃ objectives warned failureConditions victoryConditions gameOutcome gamePhase,
    (run scene now frame).runtime = { frame.runtime with
      objectives, failureConditions, victoryConditions, gameOutcome, gamePhase
      unsupportedObjectivesWarned := warned } := by
  unfold run
  split
  · exact ⟨_, _, _, _, _, _, rfl⟩
  · obtain ⟨objectives, warned, judged⟩ := evaluateObjectives_writes scene now frame
    obtain ⟨conditions, failed⟩ := evaluateFailureConditions_writes scene now
      (evaluateObjectives scene now frame)
    obtain ⟨victories, met⟩ := evaluateVictoryConditions_writes scene now
      (evaluateFailureConditions scene now (evaluateObjectives scene now frame))
    simp only [Frame.modify_runtime, recomputeOutcome_writes, met, failed, judged]
    exact ⟨_, _, _, _, _, _, rfl⟩

end Objectives

namespace Observability

variable (scene : Sl1Scene) (now : Nat) (frame : Frame)

theorem updateDashboards_writes (dashboards : List Sl1Dashboard) : ∃ dashboardStates,
    (dashboards.foldl (updateDashboard now) frame).runtime =
      { frame.runtime with dashboardStates } := by
  let rest (frame : Frame) : Sl1RuntimeState := { frame.runtime with dashboardStates := ∅ }
  have kept : rest (dashboards.foldl (updateDashboard now) frame) = rest frame :=
    updateDashboards_rule (rest · = rest frame) rfl dashboards (fun _ _ _ _ _ same => same)
      fun _ _ _ same => same
  exact ⟨_, congrArg (fun runtime : Sl1RuntimeState => { runtime with
    dashboardStates := (dashboards.foldl (updateDashboard now) frame).runtime.dashboardStates }) kept⟩

theorem updateMetrics_writes (metrics : List Sl1Metric) : ∃ metricStates,
    (metrics.foldl (updateMetric scene now) frame).runtime =
      { frame.runtime with metricStates } := by
  let rest (frame : Frame) : Sl1RuntimeState := { frame.runtime with metricStates := ∅ }
  have kept : rest (metrics.foldl (updateMetric scene now) frame) = rest frame :=
    updateMetrics_rule (rest · = rest frame) rfl metrics fun _ _ _ same => same
  exact ⟨_, congrArg (fun runtime : Sl1RuntimeState => { runtime with
    metricStates := (metrics.foldl (updateMetric scene now) frame).runtime.metricStates }) kept⟩

theorem updateAlerts_writes (alerts : List Sl1Alert) : ∃ alertStates,
    (alerts.foldl (updateAlert now) frame).runtime = { frame.runtime with alertStates } := by
  let rest (frame : Frame) : Sl1RuntimeState := { frame.runtime with alertStates := ∅ }
  have kept : rest (alerts.foldl (updateAlert now) frame) = rest frame :=
    updateAlerts_rule (rest · = rest frame) rfl alerts (fun _ _ _ _ _ _ same => same)
      (fun _ _ _ same => same) fun _ _ _ same => same
  exact ⟨_, congrArg (fun runtime : Sl1RuntimeState => { runtime with
    alertStates := (alerts.foldl (updateAlert now) frame).runtime.alertStates }) kept⟩

theorem run_writes : ∃ dashboardStates metricStates alertStates, (run scene now frame).runtime =
    { frame.runtime with dashboardStates, metricStates, alertStates } := by
  unfold run
  split
  · exact ⟨_, _, _, rfl⟩
  · rename_i observability _
    obtain ⟨dashboards, shown⟩ := updateDashboards_writes now frame observability.dashboards
    obtain ⟨metrics, measured⟩ := updateMetrics_writes scene now
      (observability.dashboards.foldl (updateDashboard now) frame) observability.metrics
    obtain ⟨alerts, alerted⟩ := updateAlerts_writes now (observability.metrics.foldl
      (updateMetric scene now) (observability.dashboards.foldl (updateDashboard now) frame))
      observability.alerts
    simp only [alerted, measured, shown]
    exact ⟨_, _, _, rfl⟩

end Observability

theorem Agents.run_writes (scene : Sl1Scene) (now : Nat) (backend : AgentBackend) (frame : Frame) :
    ∃ agents pauses, (run scene now backend frame).runtime =
      { frame.runtime with agents, agentDemandPauses := pauses } := by
  let rest (frame : Frame) : Sl1RuntimeState :=
    { frame.runtime with agents := ∅, agentDemandPauses := ∅ }
  have kept : rest (run scene now backend frame) = rest frame := by
    refine run_rule (rest · = rest frame) rfl (fun _ _ _ same => same) (fun current action same => ?_)
      (fun _ _ same => same) (fun _ _ _ _ _ same => same) fun _ _ _ _ _ same => same
    cases action
    exact same
  exact ⟨_, _, congrArg (fun runtime : Sl1RuntimeState => { runtime with
    agents := (run scene now backend frame).runtime.agents
    agentDemandPauses := (run scene now backend frame).runtime.agentDemandPauses }) kept⟩

theorem Milestones.run_writes (scene : Sl1Scene) (now : Nat) (frame : Frame) : ∃ milestones,
    (run scene now frame).runtime = { frame.runtime with milestones } := by
  let rest (frame : Frame) : Sl1RuntimeState := { frame.runtime with milestones := ∅ }
  have kept : rest (run scene now frame) = rest frame :=
    run_rule (rest · = rest frame) rfl (fun _ _ _ same => same) fun _ _ _ _ _ _ same => same
  exact ⟨_, congrArg (fun runtime : Sl1RuntimeState => { runtime with
    milestones := (run scene now frame).runtime.milestones }) kept⟩

/-- What follows the observability pass. -/
theorem runObservers_writes (scene : Sl1Scene) (backend : AgentBackend) (now : Nat) (frame : Frame) :
    ∃ agents pauses milestones, (runObservers scene backend now frame).runtime =
      { (Observability.run scene now frame).runtime with
        agents, agentDemandPauses := pauses, milestones } := by
  obtain ⟨_, _, acted⟩ := Agents.run_writes scene now backend (Observability.run scene now frame)
  obtain ⟨_, passed⟩ := Milestones.run_writes scene now
    (Agents.run scene now backend (Observability.run scene now frame))
  rw [runObservers_eq, passed, acted]
  exact ⟨_, _, _, rfl⟩

end Simetro.Sl1
