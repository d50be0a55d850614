import Simetro.Sl1.StoreRuns

/-! The parts of a frame around the flow and the queues: the pressures in force,
the freshness of the stock and the pauses of the agents, and the passes that leave
them alone. -/

namespace Simetro.Protocol

def SimMessage.isPressure : SimMessage → Bool
  | .warning (.sl1Pressure _ _ _ _) => true
  | _ => false

def SimEvent.isPressure : SimEvent → Bool
  | .sl1PressureLifecycle _ _ _ _ => true
  | _ => false

def SimEvent.isApplied : SimEvent → Bool
  | .sl1AgentActionApplied _ _ _ _ _ => true
  | _ => false

end Simetro.Protocol

namespace Simetro.Sl1

open Simetro.Library Simetro.Protocol

/-- What the pressure pass schedules. -/
structure Overlays where
  pressure : Sl1PressureRuntime
  events : List SimEvent
  warnings : List SimMessage

/-- What the agents impose on the demand pass. -/
structure Throttles where
  pauses : IdMap Nat
  applied : List SimEvent

namespace Frame

variable (frame : Frame)

def overlays : Overlays where
  pressure := frame.runtime.pressure
  events := frame.events.filter SimEvent.isPressure
  warnings := frame.messages.filter SimMessage.isPressure

def throttles : Throttles where
  pauses := frame.runtime.agentDemandPauses
  applied := frame.events.filter SimEvent.isApplied

def ambient : Overlays × PairMap FreshnessState × Throttles :=
  (frame.overlays, frame.runtime.freshness, frame.throttles)

theorem emit_overlays {event : SimEvent} (other : event.isPressure = false) :
    (frame.emit event).overlays = frame.overlays := by
  simp [overlays, other]

theorem emit_throttles {event : SimEvent} (other : event.isApplied = false) :
    (frame.emit event).throttles = frame.throttles := by
  simp [throttles, other]

theorem emit_ambient {event : SimEvent} (notPressure : event.isPressure = false)
    (notApplied : event.isApplied = false) : (frame.emit event).ambient = frame.ambient := by
  simp [ambient, emit_overlays frame notPressure, emit_throttles frame notApplied]

theorem warn_overlays {payload : WarningPayload}
    (other : (SimMessage.warning payload).isPressure = false) :
    (frame.warn payload).overlays = frame.overlays := by
  simp [overlays, other]

@[simp] theorem warn_throttles (payload : WarningPayload) :
    (frame.warn payload).throttles = frame.throttles := rfl

theorem warn_ambient {payload : WarningPayload}
    (other : (SimMessage.warning payload).isPressure = false) :
    (frame.warn payload).ambient = frame.ambient := by
  simp [ambient, warn_overlays frame other]

theorem overlays_of_ambient {frame other : Frame} (same : frame.ambient = other.ambient) :
    frame.overlays = other.overlays := congrArg (·.1) same

theorem freshness_of_ambient {frame other : Frame} (same : frame.ambient = other.ambient) :
    frame.runtime.freshness = other.runtime.freshness := congrArg (·.2.1) same

theorem throttles_of_ambient {frame other : Frame} (same : frame.ambient = other.ambient) :
    frame.throttles = other.throttles := congrArg (·.2.2) same

end Frame

namespace Pressure

/-- What the pressure pass leaves alone. -/
private def aside (frame : Frame) : PairMap FreshnessState × Throttles :=
  (frame.runtime.freshness, frame.throttles)

private theorem aside_emit (frame : Frame) {event : SimEvent} (other : event.isApplied = false) :
    aside (frame.emit event) = aside frame := by
  simp [aside, Frame.emit_throttles frame other]

private theorem overlaid_aside (scene : Sl1Scene) (now : Nat) (frame : Frame) :
    aside (overlaid scene now frame) = aside frame :=
  overlaid_rule (aside · = aside frame) rfl (fun _ _ same => same)
    (fun current _ _ _ same => (aside_emit current rfl).trans same) fun _ _ _ same => same

private theorem run_aside (scene : Sl1Scene) (now : Nat) (frame : Frame) :
    aside (run scene now frame) = aside frame :=
  run_keeps aside (overlaid_aside scene now frame) fun frame _ =>
    injectSource_rule (motive := fun after => aside after = aside frame) rfl rfl

theorem overlaid_freshness (scene : Sl1Scene) (now : Nat) (frame : Frame) :
    (overlaid scene now frame).runtime.freshness = frame.runtime.freshness :=
  congrArg Prod.fst (overlaid_aside scene now frame)

theorem run_throttles (scene : Sl1Scene) (now : Nat) (frame : Frame) :
    (run scene now frame).throttles = frame.throttles :=
  congrArg Prod.snd (run_aside scene now frame)

end Pressure

namespace Transforms

/-- What the transforms pass leaves alone. -/
private def aside (frame : Frame) : Overlays × Throttles := (frame.overlays, frame.throttles)

variable {transform : Sl1Transform} {caps : PassCaps} {now : Nat} {frame last : Frame}
  {state next : Sl1TransformState}

private theorem emitWarning_aside (frame : Frame) (event : Sl1TransformWarningKind)
    (attempt : Option Nat) : aside (emitWarning transform now frame event attempt) = aside frame := by
  rw [emitWarning, aside, Frame.warn_overlays _ rfl, Frame.warn_throttles]
  rfl

private theorem Advanced.aside (advanced : Advanced transform caps now frame state next last) :
    Transforms.aside last = Transforms.aside frame := by
  cases advanced with
  | kept | started | completed => rfl
  | breached | overdue | exhausted => exact emitWarning_aside _ _ _
  | breachedFailed | overdueFailed =>
    exact (emitWarning_aside _ _ _).trans (emitWarning_aside _ _ _)

private theorem Served.aside (served : Served transform caps now frame state next last) :
    Transforms.aside last = Transforms.aside frame := by
  cases served with
  | quiet | started => rfl
  | missed | starved | blocked => exact emitWarning_aside _ _ _

private theorem runTransforms_aside (scene : Sl1Scene) (now : Nat) (frame : Frame) :
    aside (runTransforms scene now frame) = aside frame :=
  runTransforms_keeps aside (fun transform =>
    processOne_keeps transform _ now aside Advanced.aside Served.aside fun _ _ => rfl) frame

theorem runTransforms_overlays (scene : Sl1Scene) (now : Nat) (frame : Frame) :
    (runTransforms scene now frame).overlays = frame.overlays :=
  congrArg Prod.fst (runTransforms_aside scene now frame)

theorem runTransforms_throttles (scene : Sl1Scene) (now : Nat) (frame : Frame) :
    (runTransforms scene now frame).throttles = frame.throttles :=
  congrArg Prod.snd (runTransforms_aside scene now frame)

end Transforms

/-- After the pressure pass the stock moves under fixed overlays and throttles. -/
theorem moveStock_overlays (scene : Sl1Scene) (now : Nat) (frame : Frame) :
    (moveStock scene now frame).overlays = (Pressure.run scene now frame).overlays := by
  rw [moveStock_eq]
  exact Transforms.runTransforms_overlays scene now _

theorem moveStock_throttles (scene : Sl1Scene) (now : Nat) (frame : Frame) :
    (moveStock scene now frame).throttles = frame.throttles := by
  rw [moveStock_eq]
  exact (Transforms.runTransforms_throttles scene now _).trans (Pressure.run_throttles scene now frame)

namespace Demand

variable (demand : Sl1Demand) (now : Nat) (frame : Frame)

/-- What the demand pass leaves alone. -/
private def aside (frame : Frame) : Overlays × PairMap FreshnessState × List SimEvent :=
  (frame.overlays, frame.runtime.freshness, frame.throttles.applied)

private theorem aside_warn {payload : WarningPayload}
    (other : (SimMessage.warning payload).isPressure = false) :
    aside (frame.warn payload) = aside frame := by
  simp [aside, Frame.warn_overlays frame other]

private theorem aside_kept : Keeps demand now aside where
  stored _ _ := rfl
  entered _ _ := rfl
  overflowed frame := aside_warn frame rfl
  dropped frame _ := aside_warn frame rfl
  served _ _ := rfl

theorem serve_overlays : (serve demand now frame).overlays = frame.overlays :=
  congrArg (·.1) (serve_keeps frame (aside_kept demand now) fun _ => rfl)

private theorem runDemand_aside (scene : Sl1Scene) :
    aside (runDemand scene now frame) = aside frame :=
  runDemand_keeps now frame scene (aside_kept · now) fun _ _ => rfl

theorem runDemand_overlays (scene : Sl1Scene) :
    (runDemand scene now frame).overlays = frame.overlays :=
  congrArg (·.1) (runDemand_aside now frame scene)

theorem runDemand_freshness (scene : Sl1Scene) :
    (runDemand scene now frame).runtime.freshness = frame.runtime.freshness :=
  congrArg (·.2.1) (runDemand_aside now frame scene)

theorem runDemand_applied (scene : Sl1Scene) :
    (runDemand scene now frame).throttles.applied = frame.throttles.applied :=
  congrArg (·.2.2) (runDemand_aside now frame scene)

end Demand

namespace Objectives

variable (scene : Sl1Scene) (now : Nat) (frame : Frame)

theorem run_ambient : (run scene now frame).ambient = frame.ambient := by
  let kept (current : Frame) : Prop := current.ambient = frame.ambient
  refine run_rule kept rfl (fun current same => ?_) (fun current same => ?_) (fun current same => ?_)
    (fun current same => ?_) fun _ same => same
  · exact evaluateObjectives_rule kept same (fun _ _ same => same)
      (fun current _ _ same => (current.warn_ambient rfl).trans same) (fun _ _ _ same => same)
      fun current _ _ _ same => (current.emit_ambient rfl rfl).trans same
  · exact evaluateFailureConditions_rule kept same (fun _ _ _ same => same)
      fun current _ same => (current.emit_ambient rfl rfl).trans same
  · exact evaluateVictoryConditions_rule kept same (fun _ _ _ same => same)
      fun current _ same => (current.emit_ambient rfl rfl).trans same
  · exact recomputeOutcome_rule kept same
      (fun current _ _ _ same => (current.emit_ambient rfl rfl).trans same) fun _ _ same => same

end Objectives

namespace Observability

variable (scene : Sl1Scene) (now : Nat) (frame : Frame)

theorem run_ambient : (run scene now frame).ambient = frame.ambient := by
  let kept (current : Frame) : Prop := current.ambient = frame.ambient
  refine run_rule kept rfl (fun current dashboards same => ?_) (fun current metrics same => ?_)
    fun current alerts same => ?_
  · exact updateDashboards_rule kept same dashboards
      (fun current _ _ _ _ same => (current.emit_ambient rfl rfl).trans same) fun _ _ _ same => same
  · exact updateMetrics_rule kept same metrics fun _ _ _ same => same
  · exact updateAlerts_rule kept same alerts
      (fun current _ _ _ _ _ same => (current.emit_ambient rfl rfl).trans same)
      (fun current _ _ same => (current.emit_ambient rfl rfl).trans same) fun _ _ _ same => same

end Observability

namespace Agents

variable (scene : Sl1Scene) (now : Nat) (backend : AgentBackend) (frame : Frame)

/-- What the agents pass leaves alone. -/
private def aside (frame : Frame) : Overlays × PairMap FreshnessState :=
  (frame.overlays, frame.runtime.freshness)

private theorem aside_emit {event : SimEvent} (other : event.isPressure = false) :
    aside (frame.emit event) = aside frame := by
  simp [aside, Frame.emit_overlays frame other]

private theorem run_aside : aside (run scene now backend frame) = aside frame := by
  refine run_rule (aside · = aside frame) rfl (fun _ _ _ same => same) (fun current action same => ?_)
    (fun current _ same => (aside_emit current rfl).trans same)
    (fun current _ _ _ _ same => (aside_emit current rfl).trans same)
    fun current _ _ _ _ same => (aside_emit current rfl).trans same
  cases action
  exact same

theorem run_overlays : (run scene now backend frame).overlays = frame.overlays :=
  congrArg Prod.fst (run_aside scene now backend frame)

theorem run_freshness :
    (run scene now backend frame).runtime.freshness = frame.runtime.freshness :=
  congrArg Prod.snd (run_aside scene now backend frame)

end Agents

namespace Milestones

theorem run_ambient (scene : Sl1Scene) (now : Nat) (frame : Frame) :
    (run scene now frame).ambient = frame.ambient :=
  run_rule (fun current => current.ambient = frame.ambient) rfl (fun _ _ _ same => same)
    fun current _ _ _ _ _ same => (current.emit_ambient rfl rfl).trans same

end Milestones

/-- Of the observers only the agents touch the surroundings, and only the throttles. -/
theorem runObservers_overlays (scene : Sl1Scene) (backend : AgentBackend) (now : Nat)
    (frame : Frame) : (runObservers scene backend now frame).overlays = frame.overlays := by
  rw [runObservers_eq, Frame.overlays_of_ambient (Milestones.run_ambient scene now _),
    Agents.run_overlays, Frame.overlays_of_ambient (Observability.run_ambient scene now frame)]

theorem runObservers_freshness (scene : Sl1Scene) (backend : AgentBackend) (now : Nat)
    (frame : Frame) :
    (runObservers scene backend now frame).runtime.freshness = frame.runtime.freshness := by
  rw [runObservers_eq, Frame.freshness_of_ambient (Milestones.run_ambient scene now _),
    Agents.run_freshness, Frame.freshness_of_ambient (Observability.run_ambient scene now frame)]

/-- In a tick only the pressure pass touches the overlays. -/
theorem run_overlays (scene : Sl1Scene) (backend : AgentBackend) (now : Nat) (frame : Frame) :
    (run scene backend now frame).overlays = (Pressure.run scene now frame).overlays := by
  rw [run, runObservers_overlays, Frame.overlays_of_ambient (Objectives.run_ambient scene now _),
    runFlow_eq]
  exact (Demand.runDemand_overlays now _ scene).trans (moveStock_overlays scene now frame)

/-- After the transforms nothing is freshened. -/
theorem run_freshness (scene : Sl1Scene) (backend : AgentBackend) (now : Nat) (frame : Frame) :
    (run scene backend now frame).runtime.freshness =
      (moveStock scene now frame).runtime.freshness := by
  rw [run, runObservers_freshness, Frame.freshness_of_ambient (Objectives.run_ambient scene now _),
    runFlow_eq]
  exact Demand.runDemand_freshness now _ scene

end Simetro.Sl1
