import Simetro.Sl1.Reservations

/-! Every tick's ledger entries are steps of the scene's store, so every run is a
run of the reservation plan. -/

namespace Simetro.Sl1

open Simetro.Library Simetro.Protocol

namespace Sl1RuntimeState

theorem transformState_keepState (transform : Sl1Transform) (state : Sl1TransformState)
    (runtime : Sl1RuntimeState) (id : String) :
    (Transforms.keepState transform state runtime).transformState id =
      if transform.id = id then state else runtime.transformState id :=
  insert_getD runtime.transforms transform.id id state .idle

theorem running_keepState (transform : Sl1Transform) (state : Sl1TransformState)
    (runtime : Sl1RuntimeState) : (Transforms.keepState transform state runtime).running =
      Function.update runtime.running transform.id state.isRunning := by
  funext id
  simp only [running, transformState_keepState]
  by_cases here : id = transform.id
  · subst here
    simp
  · rw [Function.update_of_ne here, if_neg fun equal => here equal.symm]
    rfl

end Sl1RuntimeState

namespace Tracked

variable {scene : Sl1Scene} {running next : String → Bool} {frame : Frame}

/-- A fresh load tracks its own store. -/
theorem load : Tracked scene (Frame.load scene).runtime.running (Frame.load scene) := by
  have idle : (Frame.load scene).runtime.running = fun _ => false := by
    funext id
    exact congrArg Sl1TransformState.isRunning (Sl1RuntimeState.fromScene_transformState id)
  rw [idle]
  exact .nil _

theorem initialStore_balanced (scene : Sl1Scene) : scene.plan.Balanced scene.initialStore := by
  constructor
  · intro bucket
    simp [Sl1Scene.initialStore, Sl1RuntimeState.store, Plan.load, Sl1RuntimeState.fromScene_used]
  · intro slot
    simp [Sl1Scene.initialStore, Sl1RuntimeState.store, Plan.load,
      Sl1RuntimeState.fromScene_reserved]

theorem balanced (tracked : Tracked scene running frame) (valid : scene.Valid) :
    scene.plan.Balanced (frame.runtime.store running) :=
  Trace.invariant tracked
    (fun _ _ _ _ balanced books => balanced.step valid.tasks_distinct books.taken)
    (initialStore_balanced scene)

/-- Performing a step of the plan keeps the frame tracked. -/
theorem perform (tracked : Tracked scene running frame) (tick : Nat) {op : LedgerOp}
    {change : Sl1RuntimeState → Sl1RuntimeState}
    (taken : scene.plan.Step (frame.runtime.store running) op.storeOp
      ((change frame.runtime).store next)) :
    Tracked scene next (frame.perform tick op change) :=
  Trace.snoc tracked ⟨taken, rfl, rfl⟩

theorem of_flow {other : Frame} (tracked : Tracked scene running frame)
    (same : other.flow = frame.flow) : Tracked scene running other := by
  have store : other.runtime.store running = frame.runtime.store running := by
    have inventories : other.runtime.inventories = _ := congrArg Flow.inventories same
    have used : other.runtime.placeCapacityUsed = _ := congrArg Flow.placeCapacityUsed same
    have pending : other.runtime.pendingOutputs = _ := congrArg Flow.pendingOutputs same
    simp only [Sl1RuntimeState.store, Sl1RuntimeState.stock, Sl1RuntimeState.used,
      Sl1RuntimeState.reserved, inventories, used, pending]
    rfl
  have ledger : other.ledger = frame.ledger := congrArg Flow.ledger same
  rw [Tracked, store, ledger]
  exact tracked

theorem emitWarning {transform : Sl1Transform} {now : Nat} {event : Sl1TransformWarningKind}
    {attempt : Option Nat} (tracked : Tracked scene running frame) :
    Tracked scene running (Transforms.emitWarning transform now frame event attempt) := tracked

end Tracked

namespace Transforms

variable {scene : Sl1Scene} {transform : Sl1Transform} {caps : PassCaps} {now : Nat}
  {frame last : Frame} {state next : Sl1TransformState} {running : String → Bool}

theorem Advanced.transforms (advanced : Advanced transform caps now frame state next last) :
    last.runtime.transforms = frame.runtime.transforms := by
  cases advanced <;> rfl

theorem Served.transforms (served : Served transform caps now frame state next last) :
    last.runtime.transforms = frame.runtime.transforms := by
  cases served <;> rfl

theorem Advanced.tracked (valid : scene.Valid) (member : transform ∈ scene.transforms)
    (current : running transform.id = state.isRunning) (tracked : Tracked scene running frame)
    (advanced : Advanced transform scene.passCaps now frame state next last) :
    Tracked scene (Function.update running transform.id next.isRunning) last := by
  have unchanged : next.isRunning = state.isRunning →
      Function.update running transform.id next.isRunning = running := fun same => by
    rw [same, ← current, Function.update_eq_self]
  have aborted (busy : state.isRunning = true) :
      Tracked scene (Function.update running transform.id false) (aborted transform now frame) :=
    tracked.perform now (release_step valid member (current.trans busy))
  cases advanced with
  | kept _ same => exact (unchanged same).symm ▸ tracked
  | started _ waiting startable =>
    exact tracked.perform now (commitStart_step valid member (current.trans waiting)
      (tracked.balanced valid) startable)
  | completed busy =>
    exact tracked.perform now (completeRun_step valid member now (current.trans busy))
  | breached busy => exact (aborted busy).emitWarning
  | breachedFailed busy => exact (aborted busy).emitWarning.emitWarning
  | overdue _ waiting => exact (unchanged waiting.symm).symm ▸ tracked.emitWarning
  | overdueFailed _ waiting =>
    exact (unchanged waiting.symm).symm ▸ tracked.emitWarning.emitWarning
  | exhausted _ waiting => exact (unchanged waiting.symm).symm ▸ tracked.emitWarning

theorem Served.tracked (valid : scene.Valid) (member : transform ∈ scene.transforms)
    (current : running transform.id = state.isRunning) (tracked : Tracked scene running frame)
    (served : Served transform scene.passCaps now frame state next last) :
    Tracked scene (Function.update running transform.id next.isRunning) last := by
  have unchanged : next.isRunning = state.isRunning →
      Function.update running transform.id next.isRunning = running := fun same => by
    rw [same, ← current, Function.update_eq_self]
  cases served with
  | quiet => exact (unchanged rfl).symm ▸ tracked
  | missed => exact (unchanged rfl).symm ▸ tracked.emitWarning
  | started _ startable =>
    exact tracked.perform now (commitStart_step valid member current
      (tracked.balanced valid) startable)
  | starved | blocked => exact (unchanged rfl).symm ▸ tracked.emitWarning

/-- One transform's tick keeps the frame tracked by its own states. -/
theorem processOne_tracked (valid : scene.Valid) (member : transform ∈ scene.transforms)
    (tracked : Tracked scene frame.runtime.running frame) :
    Tracked scene (processOne transform scene.passCaps now frame).runtime.running
      (processOne transform scene.passCaps now frame) := by
  obtain ⟨_, servedState, middle, last, advanced, served, same⟩ :=
    processOne_cases transform scene.passCaps now frame
  have first := advanced.tracked valid member rfl tracked
  have second := served.tracked valid member (by rw [Function.update_self]) first
  rw [Function.update_idem] at second
  have states : last.runtime.running = frame.runtime.running := by
    funext id
    simp only [Sl1RuntimeState.running, Sl1RuntimeState.transformState, served.transforms,
      advanced.transforms]
  rw [same, Frame.modify_runtime, Sl1RuntimeState.running_keepState, states]
  exact second

theorem runTransforms_tracked (valid : scene.Valid)
    (tracked : Tracked scene frame.runtime.running frame) :
    Tracked scene (runTransforms scene now frame).runtime.running (runTransforms scene now frame) :=
  runTransforms_rule (motive := fun frame => Tracked scene frame.runtime.running frame) tracked
    fun _ _ member tracked => processOne_tracked valid member tracked

end Transforms

theorem Frame.running_of_flow {frame other : Frame} (same : other.flow = frame.flow) :
    other.runtime.running = frame.runtime.running := by
  have transforms : other.runtime.transforms = _ := congrArg Flow.transforms same
  funext id
  simp only [Sl1RuntimeState.running, Sl1RuntimeState.transformState, transforms]
  rfl

theorem Tracked.own_of_flow {scene : Sl1Scene} {frame other : Frame}
    (tracked : Tracked scene frame.runtime.running frame) (same : other.flow = frame.flow) :
    Tracked scene other.runtime.running other :=
  Frame.running_of_flow same ▸ tracked.of_flow same

namespace Pressure

theorem injectSource_tracked {scene : Sl1Scene} {now : Nat} {frame : Frame}
    (injection : SourceInjection) (tracked : Tracked scene frame.runtime.running frame) :
    Tracked scene (injectSource scene.storageCaps now frame injection).runtime.running
      (injectSource scene.storageCaps now frame injection) := by
  have kept : Tracked scene frame.runtime.running (frame.modify injection.keepCarry) := tracked
  exact injectSource_rule (motive := fun after => Tracked scene after.runtime.running after) kept
    (kept.perform now (land_step scene _ _ injection rfl))

theorem run_tracked {scene : Sl1Scene} {now : Nat} {frame : Frame}
    (tracked : Tracked scene frame.runtime.running frame) :
    Tracked scene (run scene now frame).runtime.running (run scene now frame) := by
  exact run_rule (motive := fun frame => Tracked scene frame.runtime.running frame) tracked
    (tracked.own_of_flow (Frame.flow_of_core (overlaid_core scene now frame)))
    fun _ injection tracked => injectSource_tracked injection tracked

end Pressure

/-- The passes that move stock. -/
def moveStock (scene : Sl1Scene) (now : Nat) (frame : Frame) : Frame :=
  let frame := Transforms.ageFreshness scene now (Pressure.run scene now frame)
  if scene.transforms.isEmpty then frame else Transforms.runTransforms scene now frame

theorem moveStock_eq (scene : Sl1Scene) (now : Nat) (frame : Frame) : moveStock scene now frame =
    Transforms.runTransforms scene now
      (Transforms.ageFreshness scene now (Pressure.run scene now frame)) := by
  unfold moveStock
  simp only
  split
  · rename_i none
    exact (Transforms.runTransforms_of_isEmpty none now _).symm
  · rfl

theorem runFlow_eq (scene : Sl1Scene) (now : Nat) (frame : Frame) :
    runFlow scene now frame = Demand.runDemand scene now (moveStock scene now frame) :=
  foldl_guard _ scene.demand (moveStock scene now frame)

/-- The passes after the transforms move no stock. -/
theorem run_flow (scene : Sl1Scene) (backend : AgentBackend) (now : Nat) (frame : Frame) :
    (run scene backend now frame).flow = (moveStock scene now frame).flow := by
  rw [run, Frame.flow_of_core (runObservers_core scene backend now _), Objectives.run_flow, runFlow_eq]
  exact Demand.runDemand_flow now _ scene

theorem moveStock_tracked {scene : Sl1Scene} (valid : scene.Valid) (now : Nat) {frame : Frame}
    (tracked : Tracked scene frame.runtime.running frame) :
    Tracked scene (moveStock scene now frame).runtime.running (moveStock scene now frame) := by
  have pressed : Tracked scene (Pressure.run scene now frame).runtime.running
      (Pressure.run scene now frame) := Pressure.run_tracked tracked
  have aged := pressed.own_of_flow
    (Frame.flow_of_core (Transforms.ageFreshness_core scene now (Pressure.run scene now frame)))
  rw [moveStock_eq]
  exact Transforms.runTransforms_tracked valid aged

/-- Every run is a run of the scene's reservation plan. -/
theorem ticks_tracked {scene : Sl1Scene} (valid : scene.Valid) (backend : AgentBackend)
    (count : Nat) : Tracked scene (ticks scene backend count).runtime.running
      (ticks scene backend count) := by
  induction count with
  | zero => exact Tracked.load
  | succ count ih => exact (moveStock_tracked valid _ ih).own_of_flow (run_flow scene backend _ _)

end Simetro.Sl1
