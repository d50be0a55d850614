import Simetro.Library.Fold
import Simetro.Sl1.Agents
import Simetro.Sl1.Demand
import Simetro.Sl1.Milestones
import Simetro.Sl1.Observability
import Simetro.Sl1.Transforms

/-! One SL1 tick, and runs of consecutive ticks from a fresh load. -/

namespace Simetro.Sl1

open Simetro.Library Simetro.Protocol

/-- The passes before the objectives. -/
def runFlow (scene : Sl1Scene) (now : Nat) (frame : Frame) : Frame :=
  let frame := Pressure.run scene now frame
  let frame := Transforms.ageFreshness scene now frame
  let frame := if scene.transforms.isEmpty then frame else Transforms.runTransforms scene now frame
  if scene.demand.isEmpty then frame else Demand.runDemand scene now frame

/-- The passes after the objectives. -/
def runObservers (scene : Sl1Scene) (backend : AgentBackend) (now : Nat) (frame : Frame) : Frame :=
  let frame := Observability.run scene now frame
  let frame := if scene.agents.isEmpty then frame else Agents.run scene now backend frame
  if scene.milestones.isEmpty then frame else Milestones.run scene now frame

/-- The guards only skip passes over nothing. -/
theorem runObservers_eq (scene : Sl1Scene) (backend : AgentBackend) (now : Nat) (frame : Frame) :
    runObservers scene backend now frame =
      Milestones.run scene now (Agents.run scene now backend (Observability.run scene now frame)) := by
  have acted (frame : Frame) : (if scene.agents.isEmpty then frame
      else Agents.run scene now backend frame) = Agents.run scene now backend frame :=
    foldl_guard _ scene.agents frame
  unfold runObservers
  simp only [acted]
  exact foldl_guard _ scene.milestones _

/-- `sl1_runtime::run`. -/
def run (scene : Sl1Scene) (backend : AgentBackend) (now : Nat) (frame : Frame) : Frame :=
  runObservers scene backend now (Objectives.run scene now (runFlow scene now frame))

/-- `world.tick` after `count` ticks. -/
def worldTick : Nat → Nat
  | 0 => 0
  | count + 1 => saturatingAdd u64Max (worldTick count) 1

/-- The frame after `count` consecutive ticks from a fresh load, with the whole
transcript kept. -/
def ticks (scene : Sl1Scene) (backend : AgentBackend) : Nat → Frame
  | 0 => .load scene
  | count + 1 => run scene backend (worldTick (count + 1)) (ticks scene backend count)

theorem worldTick_eq (count : Nat) : worldTick count = min count u64Max := by
  induction count with
  | zero => simp [worldTick]
  | succ count ih =>
    simp only [worldTick, ih, saturatingAdd]
    omega

theorem worldTick_of_le (reachable : count ≤ u64Max) : worldTick count = count := by
  rw [worldTick_eq]
  omega

end Simetro.Sl1
