import Simetro.Sl1.Frame

/-! One-shot milestones, evaluated last in every tick. -/

namespace Simetro.Sl1

open Simetro.Library Simetro.Protocol

def Sl1MilestonePredicate.evaluate (observed target : Int) : Sl1MilestonePredicate → Bool
  | .gte => target ≤ observed
  | .lte => observed ≤ target
  | .gt => target < observed
  | .lt => observed < target

def Sl1MilestoneDashboardState.isMatch : Sl1MilestoneDashboardState → Sl1DashboardState → Bool
  | .ok, .ok => true
  | .stale, .stale _ => true
  | .noData, .noData => true
  | _, _ => false

def Sl1MilestoneRuntime.fired (entry : Sl1MilestoneRuntime) : Bool := entry.firedAtTick.isSome

namespace Milestones

def triggerKindStr : Sl1MilestoneTrigger → String
  | .pressureActivated _ => "pressure_activated"
  | .pressureDeactivated _ => "pressure_deactivated"
  | .metricThreshold _ _ _ => "metric_threshold"
  | .dashboardState _ _ => "dashboard_state"

def triggerSatisfied (runtime : Sl1RuntimeState) : Sl1MilestoneTrigger → Bool
  | .pressureActivated pressure => runtime.pressure.active.contains pressure
  | .pressureDeactivated pressure => !runtime.pressure.active.contains pressure
  | .metricThreshold metric predicate value =>
      match runtime.metricStates[metric]? with
      | some (.ok observed) =>
          -- beyond the signed range only the upward comparisons hold
          if i64Max < observed then predicate == .gte || predicate == .gt
          else predicate.evaluate observed value
      | _ => false
  | .dashboardState dashboard targetState =>
      match runtime.dashboardStates[dashboard]? with
      | some state => targetState.isMatch state
      | none => false

/-- An unarmed `pressure_deactivated` milestone arms when its pressure is active. -/
def armsNow (runtime : Sl1RuntimeState) : Sl1MilestoneTrigger → Bool
  | .pressureDeactivated pressure => runtime.pressure.active.contains pressure
  | _ => false

def needsArming : Sl1MilestoneTrigger → Bool
  | .pressureDeactivated _ => true
  | _ => false

def store (milestone : Sl1Milestone) (entry : Sl1MilestoneRuntime) (frame : Frame) : Frame :=
  frame.modify fun runtime => { runtime with
    milestones := runtime.milestones.insert milestone.id entry }

def evaluate (now : Nat) (frame : Frame) (milestone : Sl1Milestone) : Frame :=
  match frame.runtime.milestones[milestone.id]? with
  | none => frame
  | some entry =>
      if entry.fired then frame
      else if needsArming milestone.trigger ∧ ¬ entry.armed then
        if armsNow frame.runtime milestone.trigger then store milestone { entry with armed := true } frame
        else frame
      else if ¬ triggerSatisfied frame.runtime milestone.trigger then frame
      else
        (store milestone { entry with firedAtTick := some now } frame).emit
          (.sl1MilestoneFired milestone.id milestone.label (triggerKindStr milestone.trigger)
            milestone.cameraFocus milestone.highlight now)

/-- `sl1_milestones::run`. -/
def run (scene : Sl1Scene) (now : Nat) (frame : Frame) : Frame :=
  scene.milestones.foldl (evaluate now) frame

end Milestones

end Simetro.Sl1
