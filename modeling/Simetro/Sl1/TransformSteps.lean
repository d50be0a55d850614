import Simetro.Sl1.Lookups
import Simetro.Sl1.Views

/-! What one tick of a transform can do, said once: the outcomes of a start
attempt, of advancing the instance in flight, and of serving the cadence slot. -/

namespace Simetro.Sl1

open Simetro.Library Simetro.Protocol

namespace Sl1TransformState

def isIdle : Sl1TransformState → Bool
  | .idle => true
  | _ => false

@[simp] theorem isIdle_idle : isIdle .idle = true := rfl

@[simp] theorem isIdle_running (scheduledAt startedAt attempt : Nat) :
    isIdle (.running scheduledAt startedAt attempt) = false := rfl

@[simp] theorem isIdle_starved (scheduledAt since attempts : Nat) :
    isIdle (.starved scheduledAt since attempts) = false := rfl

@[simp] theorem isIdle_blocked (scheduledAt since attempts : Nat) :
    isIdle (.blocked scheduledAt since attempts) = false := rfl

@[simp] theorem isIdle_late (scheduledAt attempt since : Nat) :
    isIdle (.late scheduledAt attempt since) = false := rfl

end Sl1TransformState

namespace Transforms

variable (transform : Sl1Transform) (caps : PassCaps) (now : Nat)

/-- The three checks of a start. -/
structure Startable (runtime : Sl1RuntimeState) : Prop where
  inputs : ∀ input ∈ transform.inputs,
    input.amount ≤ runtime.stock transform.runsOn input.thingId
  capacity : ∀ row ∈ transform.costRows,
    saturatingAdd u64Max (runtime.used transform.runsOn row.1) row.2 ≤
      (caps.place.getD transform.runsOn ∅).getD row.1 0
  room : ∀ output ∈ transform.outputs,
    saturatingAdd u64Max
      (saturatingAdd u64Max (runtime.stock transform.runsOn output.thingId)
        (runtime.reserved transform.runsOn output.thingId)) output.amount ≤
      caps.storage.getD (transform.runsOn, output.thingId) 0

/-- The frame after a start, a release or a completion. -/
def begun (frame : Frame) : Frame :=
  frame.perform now (.start transform.id) (commitStart transform)

def aborted (frame : Frame) : Frame :=
  frame.perform now (.abort transform.id) (release transform)

def completed (frame : Frame) : Frame :=
  frame.perform now (.complete transform.id) (completeRun transform now)

/-- A start either passes every check and commits, or leaves the frame alone. -/
theorem tryStart_cases (frame : Frame) :
    (Startable transform caps frame.runtime ∧
      tryStart transform caps now frame = (.started, begun transform now frame)) ∨
    (∃ refusal, refusal ≠ .started ∧ tryStart transform caps now frame = (refusal, frame)) := by
  unfold tryStart
  split
  · exact .inr ⟨.starved, by simp, rfl⟩
  · rename_i inputs
    split
    · exact .inr ⟨.blocked, by simp, rfl⟩
    · rename_i headroom
      split
      · exact .inr ⟨.blocked, by simp, rfl⟩
      · rename_i room
        rw [not_not, inputsAvailable, List.all_eq_true] at inputs
        rw [not_not, capacityHeadroom, List.all_eq_true] at headroom
        rw [not_not, storageRoom, List.all_eq_true] at room
        refine .inl ⟨⟨fun input member => by simpa using inputs input member, ?_,
          fun output member => by simpa using room output member⟩, rfl⟩
        intro row member
        have within : saturatingAdd u64Max (frame.runtime.used transform.runsOn row.1) row.2 ≤
            Pressure.effectiveCapacity frame.runtime.pressure transform.runsOn row.1
              ((caps.place.getD transform.runsOn ∅).getD row.1 0) := by
          simpa using headroom row member
        exact Nat.le_trans within (Pressure.effectiveCapacity_le _ _ _ _)

/-- What advancing an instance can do. A breach takes a running instance's claims
back before its policy is applied. -/
inductive Advanced (frame : Frame) : Sl1TransformState → Sl1TransformState → Frame → Prop where
  | kept (idle : next.isIdle = state.isIdle) (running : next.isRunning = state.isRunning) :
      Advanced frame state next frame
  | started (busy : state.isIdle = false) (waiting : state.isRunning = false)
      (startable : Startable transform caps frame.runtime) :
      Advanced frame state (.running scheduledAt startedAt attempt) (begun transform now frame)
  | completed (running : state.isRunning = true) :
      Advanced frame state .idle (completed transform now frame)
  | breached (running : state.isRunning = true) :
      Advanced frame state (.late scheduledAt attempt since)
        (emitWarning transform now (aborted transform now frame) .late tried)
  | breachedFailed (running : state.isRunning = true) :
      Advanced frame state .idle (emitWarning transform now
        (emitWarning transform now (aborted transform now frame) .late tried) .failed last)
  | overdue (busy : state.isIdle = false) (waiting : state.isRunning = false) :
      Advanced frame state (.late scheduledAt attempt since)
        (emitWarning transform now frame .late tried)
  | overdueFailed (busy : state.isIdle = false) (waiting : state.isRunning = false) :
      Advanced frame state .idle
        (emitWarning transform now (emitWarning transform now frame .late tried) .failed last)
  | exhausted (busy : state.isIdle = false) (waiting : state.isRunning = false) :
      Advanced frame state .idle (emitWarning transform now frame .failed last)

theorem handleFailurePolicy_cases (scheduledAt attempt : Nat) (frame : Frame) :
    (∃ next since, handleFailurePolicy transform now scheduledAt attempt frame =
      (.late scheduledAt next since, frame)) ∨
    handleFailurePolicy transform now scheduledAt attempt frame =
      (.idle, emitWarning transform now frame .failed (some attempt)) := by
  unfold handleFailurePolicy
  split
  · exact .inr rfl
  · split
    · exact .inr rfl
    · exact .inl ⟨_, _, rfl⟩

private theorem advanceRunning_advanced (scheduledAt startedAt attempt : Nat) (frame : Frame) :
    Advanced transform caps now frame (.running scheduledAt startedAt attempt)
      (advanceRunning transform now scheduledAt startedAt attempt frame).1
      (advanceRunning transform now scheduledAt startedAt attempt frame).2 := by
  unfold advanceRunning
  split
  · rcases handleFailurePolicy_cases transform now scheduledAt attempt
      (emitWarning transform now (aborted transform now frame) .late (some attempt)) with
      ⟨next, since, retried⟩ | failed
    · exact retried ▸ .breached rfl
    · exact failed ▸ .breachedFailed rfl
  · split
    · exact .completed rfl
    · exact .kept rfl rfl

private theorem advanceWaiting_advanced (scheduledAt since attempts : Nat) (frame : Frame)
    {state : Sl1TransformState} (busy : state.isIdle = false) (waiting : state.isRunning = false) :
    Advanced transform caps now frame state
      (advanceWaiting transform caps now scheduledAt since attempts frame).1
      (advanceWaiting transform caps now scheduledAt since attempts frame).2 := by
  unfold advanceWaiting
  split
  · rcases handleFailurePolicy_cases transform now scheduledAt attempts
      (emitWarning transform now frame .late (some attempts)) with ⟨next, since, retried⟩ | failed
    · exact retried ▸ .overdue busy waiting
    · exact failed ▸ .overdueFailed busy waiting
  · unfold startAttemptQuiet
    rcases tryStart_cases transform caps now frame with ⟨startable, same⟩ | ⟨refusal, refused, same⟩
    · rw [same]
      exact .started busy waiting startable
    · rw [same]
      cases refusal with
      | started => exact absurd rfl refused
      | starved => exact .kept busy.symm waiting.symm
      | blocked => exact .kept busy.symm waiting.symm

private theorem advanceLate_advanced (scheduledAt attempt since : Nat) (frame : Frame) :
    Advanced transform caps now frame (.late scheduledAt attempt since)
      (advanceLate transform caps now scheduledAt attempt since frame).1
      (advanceLate transform caps now scheduledAt attempt since frame).2 := by
  unfold advanceLate
  split
  · exact .exhausted rfl rfl
  · rcases tryStart_cases transform caps now frame with ⟨startable, same⟩ | ⟨refusal, refused, same⟩
    · rw [same]
      exact .started rfl rfl startable
    · rw [same]
      cases refusal with
      | started => exact absurd rfl refused
      | starved | blocked =>
        simp only
        split
        · exact .exhausted rfl rfl
        · exact .kept rfl rfl

theorem advance_advanced (frame : Frame) (state : Sl1TransformState) :
    Advanced transform caps now frame state (advance transform caps now frame state).1
      (advance transform caps now frame state).2 := by
  cases state with
  | idle => exact .kept rfl rfl
  | running scheduledAt startedAt attempt =>
    exact advanceRunning_advanced transform caps now scheduledAt startedAt attempt frame
  | starved scheduledAt since attempts =>
    exact advanceWaiting_advanced transform caps now scheduledAt since attempts frame rfl rfl
  | blocked scheduledAt since attempts =>
    exact advanceWaiting_advanced transform caps now scheduledAt since attempts frame rfl rfl
  | late scheduledAt attempt since =>
    exact advanceLate_advanced transform caps now scheduledAt attempt since frame

/-- What serving the cadence slot can do. -/
inductive Served (frame : Frame) : Sl1TransformState → Sl1TransformState → Frame → Prop where
  | quiet (noSlot : cadenceFires transform now = false) : Served frame state state frame
  | missed (slot : cadenceFires transform now = true) (busy : state.isIdle = false) :
      Served frame state state (emitWarning transform now frame .slotMissed none)
  | started (slot : cadenceFires transform now = true)
      (startable : Startable transform caps frame.runtime) :
      Served frame .idle (.running now now 1) (begun transform now frame)
  | starved (slot : cadenceFires transform now = true) :
      Served frame .idle (.starved now now 1) (emitWarning transform now frame .starved none)
  | blocked (slot : cadenceFires transform now = true) :
      Served frame .idle (.blocked now now 1) (emitWarning transform now frame .blocked none)

theorem cadence_served (state : Sl1TransformState) (frame : Frame) :
    Served transform caps now frame state (cadence transform caps now state frame).1
      (cadence transform caps now state frame).2 := by
  unfold cadence
  split
  · rename_i noSlot
    exact .quiet (by simpa using noSlot)
  · rename_i slot
    rw [not_not] at slot
    cases state with
    | idle =>
      simp only [startAttempt]
      rcases tryStart_cases transform caps now frame with
        ⟨startable, same⟩ | ⟨refusal, refused, same⟩
      · rw [same]
        exact .started slot startable
      · rw [same]
        cases refusal with
        | started => exact absurd rfl refused
        | starved => exact .starved slot
        | blocked => exact .blocked slot
    | running | starved | blocked | late => exact .missed slot rfl

/-- One transform's tick: the instance advances, then the slot is served. -/
theorem processOne_cases (frame : Frame) : ∃ advancedState servedState middle last,
    Advanced transform caps now frame (frame.runtime.transformState transform.id) advancedState
      middle ∧
    Served transform caps now middle advancedState servedState last ∧
    processOne transform caps now frame = last.modify (keepState transform servedState) :=
  ⟨_, _, _, _, advance_advanced transform caps now frame _, cadence_served transform caps now _ _,
    rfl⟩

/-- What neither half of a transform's tick changes, and storing its state leaves alone. -/
theorem processOne_keeps {View : Type} (view : Frame → View)
    (advances : ∀ {frame last state next}, Advanced transform caps now frame state next last →
      view last = view frame)
    (serves : ∀ {frame last state next}, Served transform caps now frame state next last →
      view last = view frame)
    (stored : ∀ (frame : Frame) state, view (frame.modify (keepState transform state)) = view frame)
    (frame : Frame) : view (processOne transform caps now frame) = view frame := by
  obtain ⟨_, _, middle, last, advanced, served, same⟩ := processOne_cases transform caps now frame
  rw [same, stored]
  exact (serves served).trans (advances advanced)

section Outside

variable {transform caps now} {frame last : Frame} {state next : Sl1TransformState}

theorem emitWarning_queues (event : Sl1TransformWarningKind) (attempt : Option Nat) :
    (emitWarning transform now frame event attempt).queues = frame.queues :=
  Frame.warn_queues _ rfl

theorem Advanced.queues (advanced : Advanced transform caps now frame state next last) :
    last.queues = frame.queues := by
  cases advanced with
  | kept | started | completed => rfl
  | breached | overdue | exhausted => exact emitWarning_queues _ _
  | breachedFailed | overdueFailed =>
    exact (emitWarning_queues _ _).trans (emitWarning_queues _ _)

theorem Advanced.standing (advanced : Advanced transform caps now frame state next last) :
    last.standing = frame.standing := by
  cases advanced <;> rfl

theorem Served.queues (served : Served transform caps now frame state next last) :
    last.queues = frame.queues := by
  cases served with
  | quiet | started => rfl
  | missed | starved | blocked => exact emitWarning_queues _ _

theorem Served.standing (served : Served transform caps now frame state next last) :
    last.standing = frame.standing := by
  cases served <;> rfl

end Outside

theorem processOne_queues (frame : Frame) :
    (processOne transform caps now frame).queues = frame.queues :=
  processOne_keeps transform caps now Frame.queues Advanced.queues Served.queues (fun _ _ => rfl) frame

theorem processOne_standing (frame : Frame) :
    (processOne transform caps now frame).standing = frame.standing :=
  processOne_keeps transform caps now Frame.standing Advanced.standing Served.standing (fun _ _ => rfl) frame

/-- The transforms pass visits the declared transforms in id order. -/
def visit (scene : Sl1Scene) (now : Nat) (frame : Frame) (id : String) : Frame :=
  match scene.transformDefs[id]? with
  | some transform => processOne transform scene.passCaps now frame
  | none => frame

theorem runTransforms_eq (scene : Sl1Scene) (now : Nat) (frame : Frame) :
    runTransforms scene now frame =
      frame.runtime.transforms.keys.foldl (visit scene now) frame := rfl

/-- A scene without transforms has none to visit. -/
theorem runTransforms_of_isEmpty {scene : Sl1Scene} (none : scene.transforms.isEmpty = true)
    (now : Nat) (frame : Frame) : runTransforms scene now frame = frame := by
  rw [runTransforms_eq]
  refine foldl_keeps id (fun frame name _ => ?_) frame
  have undeclared : scene.transformDefs[name]? = .none := by
    simp [Sl1Scene.transformDefs, table, List.isEmpty_iff.mp none]
  rw [visit, undeclared]

/-- The pass processes declared transforms and does nothing else. -/
theorem runTransforms_rule {motive : Frame → Prop} {scene : Sl1Scene} {now : Nat} {frame : Frame}
    (start : motive frame) (processed : ∀ frame, ∀ transform ∈ scene.transforms, motive frame →
      motive (processOne transform scene.passCaps now frame)) :
    motive (runTransforms scene now frame) := by
  rw [runTransforms_eq]
  refine List.foldlRecOn (motive := motive) _ _ start fun frame holds id _ => ?_
  unfold visit
  split
  · rename_i transform found
    exact processed frame transform (Sl1Scene.transformDefs_found found).1 holds
  · exact holds

theorem runTransforms_keeps {View : Type} (view : Frame → View) {scene : Sl1Scene} {now : Nat}
    (processed : ∀ transform frame,
      view (processOne transform scene.passCaps now frame) = view frame) (frame : Frame) :
    view (runTransforms scene now frame) = view frame :=
  runTransforms_rule (motive := fun after => view after = view frame) rfl
    fun current transform _ same => (processed transform current).trans same

theorem runTransforms_queues (scene : Sl1Scene) (now : Nat) (frame : Frame) :
    (runTransforms scene now frame).queues = frame.queues :=
  runTransforms_keeps Frame.queues (fun transform => processOne_queues transform _ now) frame

theorem runTransforms_standing (scene : Sl1Scene) (now : Nat) (frame : Frame) :
    (runTransforms scene now frame).standing = frame.standing :=
  runTransforms_keeps Frame.standing (fun transform => processOne_standing transform _ now) frame

end Transforms

end Simetro.Sl1
