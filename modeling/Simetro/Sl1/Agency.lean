import Simetro.Sl1.DemandThrottles

/-! The record of one agent: its state and, by tick, the actions it applied and the reports
of its disabled backend. Only the agent's own turn writes it. -/

namespace Simetro.Protocol

def SimEvent.appliedAt (agent : String) : SimEvent → Option Nat
  | .sl1AgentActionApplied id _ _ _ moment => if id = agent then some moment else none
  | _ => none

def SimEvent.disabledAt (agent : String) : SimEvent → Option Nat
  | .sl1AgentLlmDisabled id moment => if id = agent then some moment else none
  | _ => none

theorem SimEvent.appliedAt_of_ne {agent id kind target : String} {cost moment : Nat}
    (apart : id ≠ agent) :
    SimEvent.appliedAt agent (.sl1AgentActionApplied id kind target cost moment) = none :=
  if_neg apart

theorem SimEvent.disabledAt_of_ne {agent id : String} {moment : Nat} (apart : id ≠ agent) :
    SimEvent.disabledAt agent (.sl1AgentLlmDisabled id moment) = none :=
  if_neg apart

/-- Events the record of some agent keeps. -/
def SimEvent.isRecorded : SimEvent → Bool
  | .sl1AgentActionApplied _ _ _ _ _ | .sl1AgentLlmDisabled _ _ => true
  | _ => false

end Simetro.Protocol

namespace Simetro.Sl1

open Simetro.Library Simetro.Protocol

/-- The ticks at which an agent applied an action. -/
def appliedTicks (agent : String) (events : List SimEvent) : List Nat :=
  events.filterMap (SimEvent.appliedAt agent)

/-- The ticks at which an agent reported that its backend is disabled. -/
def disabledTicks (agent : String) (events : List SimEvent) : List Nat :=
  events.filterMap (SimEvent.disabledAt agent)

structure AgentRecord where
  state : Option Sl1AgentRuntimeState
  applied : List Nat
  disabled : List Nat

def Frame.record (agent : String) (frame : Frame) : AgentRecord where
  state := frame.runtime.agents[agent]?
  applied := appliedTicks agent frame.events
  disabled := disabledTicks agent frame.events

section Record

variable {agent : String} (frame : Frame)

theorem Frame.emit_record_of {event : SimEvent} (notApplied : event.appliedAt agent = none)
    (notDisabled : event.disabledAt agent = none) :
    (frame.emit event).record agent = frame.record agent := by
  simp [record, appliedTicks, disabledTicks, notApplied, notDisabled]

theorem Frame.emit_record {event : SimEvent} (other : event.isRecorded = false) :
    (frame.emit event).record agent = frame.record agent := by
  apply frame.emit_record_of
  · cases event <;> first | rfl | cases other
  · cases event <;> first | rfl | cases other

theorem Frame.emit_applied_record (kind target : String) (cost now : Nat) :
    (frame.emit (.sl1AgentActionApplied agent kind target cost now)).record agent =
      { frame.record agent with applied := (frame.record agent).applied ++ [now] } := by
  simp [record, appliedTicks, disabledTicks, SimEvent.appliedAt, SimEvent.disabledAt]

theorem Frame.emit_disabled_record (now : Nat) :
    (frame.emit (.sl1AgentLlmDisabled agent now)).record agent =
      { frame.record agent with disabled := (frame.record agent).disabled ++ [now] } := by
  simp [record, appliedTicks, disabledTicks, SimEvent.appliedAt, SimEvent.disabledAt]

end Record

section Passes

variable (agent : String) (scene : Sl1Scene) (now : Nat) (frame : Frame)

namespace Pressure

theorem run_record : (run scene now frame).record agent = frame.record agent := by
  refine run_keeps (Frame.record agent) ?_ fun frame _ =>
    injectSource_rule (motive := fun after => after.record agent = frame.record agent) rfl rfl
  exact overlaid_rule (fun current => current.record agent = frame.record agent) rfl
    (fun _ _ same => same) (fun current _ _ _ same => (current.emit_record rfl).trans same)
    fun _ _ _ same => same

end Pressure

namespace Transforms

variable {transform : Sl1Transform} {caps : PassCaps} {now frame} {last : Frame}
  {state next : Sl1TransformState}

private theorem Advanced.record (advanced : Advanced transform caps now frame state next last) :
    last.record agent = frame.record agent := by
  cases advanced <;> rfl

private theorem Served.record (served : Served transform caps now frame state next last) :
    last.record agent = frame.record agent := by
  cases served <;> rfl

theorem runTransforms_record (now : Nat) (frame : Frame) :
    (runTransforms scene now frame).record agent = frame.record agent :=
  runTransforms_keeps (Frame.record agent) (fun transform =>
    processOne_keeps transform _ now (Frame.record agent) (Advanced.record agent)
      (Served.record agent) fun _ _ => rfl) frame

end Transforms

theorem moveStock_record : (moveStock scene now frame).record agent = frame.record agent := by
  rw [moveStock_eq]
  exact (Transforms.runTransforms_record agent scene now _).trans
    (Pressure.run_record agent scene now frame)

namespace Demand

private theorem record_kept (demand : Sl1Demand) : Keeps demand now (Frame.record agent) where
  stored _ _ := rfl
  entered _ _ := rfl
  overflowed _ := rfl
  dropped _ _ := rfl
  served _ _ := rfl

theorem runDemand_record : (runDemand scene now frame).record agent = frame.record agent :=
  runDemand_keeps now frame scene (record_kept agent now) fun _ _ => rfl

end Demand

namespace Objectives

theorem run_record : (run scene now frame).record agent = frame.record agent := by
  let kept (current : Frame) : Prop := current.record agent = frame.record agent
  refine run_rule kept rfl (fun current same => ?_) (fun current same => ?_) (fun current same => ?_)
    (fun current same => ?_) fun _ same => same
  · exact evaluateObjectives_rule kept same (fun _ _ same => same) (fun _ _ _ same => same)
      (fun _ _ _ same => same) fun current _ _ _ same => (current.emit_record rfl).trans same
  · exact evaluateFailureConditions_rule kept same (fun _ _ _ same => same)
      fun current _ same => (current.emit_record rfl).trans same
  · exact evaluateVictoryConditions_rule kept same (fun _ _ _ same => same)
      fun current _ same => (current.emit_record rfl).trans same
  · exact recomputeOutcome_rule kept same
      (fun current _ _ _ same => (current.emit_record rfl).trans same) fun _ _ same => same

end Objectives

namespace Observability

theorem run_record : (run scene now frame).record agent = frame.record agent := by
  let kept (current : Frame) : Prop := current.record agent = frame.record agent
  refine run_rule kept rfl (fun current dashboards same => ?_) (fun current metrics same => ?_)
    fun current alerts same => ?_
  · exact updateDashboards_rule kept same dashboards
      (fun current _ _ _ _ same => (current.emit_record rfl).trans same) fun _ _ _ same => same
  · exact updateMetrics_rule kept same metrics fun _ _ _ same => same
  · exact updateAlerts_rule kept same alerts
      (fun current _ _ _ _ _ same => (current.emit_record rfl).trans same)
      (fun current _ _ same => (current.emit_record rfl).trans same) fun _ _ _ same => same

end Observability

namespace Milestones

theorem run_record : (run scene now frame).record agent = frame.record agent :=
  run_rule (fun current => current.record agent = frame.record agent) rfl (fun _ _ _ same => same)
    fun current _ _ _ _ _ same => (current.emit_record rfl).trans same

end Milestones

end Passes

end Simetro.Sl1
