import Simetro.Library.RetryJob
import Simetro.Sl1.StoreInvariants

/-! A transform as a slot worker with a deadline: what its state and the transcript
say of its job, and that every tick is a tick of that worker. -/

namespace Simetro.Sl1

open Simetro.Library Simetro.Protocol

def SimMessage.isSlotWarning (id : String) (event : Sl1TransformWarningKind) : SimMessage → Bool
  | .warning (.sl1Transform transform kind _ _) => transform = id && kind = event
  | _ => false

/-- The state of the job; why it waits and since when is left out. -/
def Sl1TransformState.job : Sl1TransformState → JobState
  | .idle => .idle
  | .running scheduledAt startedAt attempt => .running scheduledAt startedAt attempt
  | .starved scheduledAt _ attempts | .blocked scheduledAt _ attempts => .waiting scheduledAt attempts
  | .late scheduledAt attempt _ => .late scheduledAt attempt

namespace Frame

variable (frame : Frame) (id : String)

/-- Runs of the transform that started. -/
def starts : Nat := frame.ledger.countP fun entry => entry.op = .start id

/-- Runs of the transform that landed their outputs. -/
def completions : Nat := frame.ledger.countP fun entry => entry.op = .complete id

def warnings (event : Sl1TransformWarningKind) : Nat :=
  frame.messages.countP (SimMessage.isSlotWarning id event)

/-- The transform's job as the transcript shows it, given its state. -/
def jobAs (state : Sl1TransformState) : Job where
  state := state.job
  starts := frame.starts id
  produced := frame.completions id
  failed := frame.warnings id .failed
  missed := frame.warnings id .slotMissed
  breaches := frame.warnings id .late

/-- The job of a frame between ticks. -/
def job : Job := frame.jobAs id (frame.runtime.transformState id)

theorem warnings_of_flow (event : Sl1TransformWarningKind) :
    frame.warnings id event = frame.flow.warnings.countP (SimMessage.isSlotWarning id event) := by
  unfold warnings flow
  rw [List.countP_filter]
  apply List.countP_congr
  intro message _
  cases message with
  | fault | agentReport => simp [SimMessage.isSlotWarning]
  | warning payload => cases payload <;> simp [SimMessage.isSlotWarning, SimMessage.isTransform]

theorem job_of_flow {frame other : Frame} (same : other.flow = frame.flow) :
    other.job id = frame.job id := by
  have ledger : other.ledger = frame.ledger := congrArg Flow.ledger same
  have states : other.runtime.transforms = frame.runtime.transforms := congrArg Flow.transforms same
  simp only [job, jobAs, starts, completions, warnings_of_flow, Sl1RuntimeState.transformState,
    ledger, states, same]

end Frame

/-- The retry plan of an accepted transform. -/
def Sl1Transform.Valid.retryPlan {places : List Sl1Place} {transform : Sl1Transform}
    (valid : transform.Valid places) : RetryPlan where
  duration := transform.durationTicks
  deadline := transform.deadlineTicks
  maxAttempts := transform.maxAttempts
  retries := transform.failurePolicy == .retryThenWarn
  limit := u64Max
  attemptLimit := u32Max
  duration_pos := valid.duration_pos
  duration_le := valid.deadline_ge
  attempts_pos := valid.attempts_pos
  attempts_lt := Nat.lt_of_le_of_lt valid.attempts_le (by decide)

namespace Transforms

variable {transform : Sl1Transform}

section Own

variable (now : Nat) (frame : Frame) (state : Sl1TransformState)

private theorem begun_jobAs (scheduledAt startedAt attempt : Nat) :
    (begun transform now frame).jobAs transform.id (.running scheduledAt startedAt attempt) =
      (frame.jobAs transform.id state).start scheduledAt startedAt attempt := by
  have starts : (begun transform now frame).starts transform.id = frame.starts transform.id + 1 := by
    simp [begun, Frame.starts]
  have completions : (begun transform now frame).completions transform.id =
      frame.completions transform.id := by
    simp [begun, Frame.completions]
  rw [Frame.jobAs, starts, completions]
  rfl

private theorem completed_jobAs : (completed transform now frame).jobAs transform.id .idle =
    (frame.jobAs transform.id state).produce := by
  have starts : (completed transform now frame).starts transform.id =
      frame.starts transform.id := by
    simp [completed, Frame.starts]
  have completions : (completed transform now frame).completions transform.id =
      frame.completions transform.id + 1 := by
    simp [completed, Frame.completions]
  rw [Frame.jobAs, starts, completions]
  rfl

private theorem aborted_jobAs : (aborted transform now frame).jobAs transform.id state =
    frame.jobAs transform.id state := by
  have starts : (aborted transform now frame).starts transform.id = frame.starts transform.id := by
    simp [aborted, Frame.starts]
  have completions : (aborted transform now frame).completions transform.id =
      frame.completions transform.id := by
    simp [aborted, Frame.completions]
  rw [Frame.jobAs, starts, completions]
  rfl

private theorem emitWarning_jobAs (kind : Sl1TransformWarningKind) (attempt : Option Nat) :
    (emitWarning transform now frame kind attempt).jobAs transform.id state =
      { frame.jobAs transform.id state with
        failed := frame.warnings transform.id .failed + if kind = .failed then 1 else 0
        missed := frame.warnings transform.id .slotMissed + if kind = .slotMissed then 1 else 0
        breaches := frame.warnings transform.id .late + if kind = .late then 1 else 0 } := by
  have counted (event : Sl1TransformWarningKind) :
      (emitWarning transform now frame kind attempt).warnings transform.id event =
        frame.warnings transform.id event + if kind = event then 1 else 0 := by
    simp only [emitWarning, Frame.warnings, Frame.warn_messages, List.countP_append]
    by_cases same : kind = event <;> simp [SimMessage.isSlotWarning, same]
  simp only [Frame.jobAs, counted]
  rfl

private theorem failed_jobAs (attempt : Option Nat) :
    (emitWarning transform now frame .failed attempt).jobAs transform.id .idle =
      (frame.jobAs transform.id state).fail :=
  (emitWarning_jobAs now frame .idle .failed attempt).trans rfl

private theorem late_jobAs (attempt : Option Nat) :
    (emitWarning transform now frame .late attempt).jobAs transform.id state =
      (frame.jobAs transform.id state).breach :=
  (emitWarning_jobAs now frame state .late attempt).trans rfl

end Own

section Worker

variable {places : List Sl1Place} (valid : transform.Valid places) (caps : PassCaps) (now : Nat)
  (frame : Frame)
include valid

/-- The failure policy answers a breach. -/
private theorem handleFailurePolicy_job {scheduledAt attempt : Nat} {job : Job}
    {state : Sl1TransformState} (breached : frame.jobAs transform.id state = job.breach) :
    valid.retryPlan.Breaches scheduledAt attempt job
      ((handleFailurePolicy transform now scheduledAt attempt frame).2.jobAs transform.id
        (handleFailurePolicy transform now scheduledAt attempt frame).1) := by
  have failed : (emitWarning transform now frame .failed (some attempt)).jobAs transform.id .idle =
      job.breach.fail := (failed_jobAs now frame state _).trans (congrArg Job.fail breached)
  unfold handleFailurePolicy
  split
  · exact failed ▸ .failed
  · rename_i retries
    split
    · exact failed ▸ .failed
    · rename_i more
      have late : frame.jobAs transform.id (.late scheduledAt (saturatingAdd u32Max attempt 1) now) =
          job.breach.beLate scheduledAt (saturatingAdd u32Max attempt 1) :=
        congrArg (Job.beLate · scheduledAt (saturatingAdd u32Max attempt 1)) breached
      exact late ▸ .retried (beq_iff_eq.mpr retries) (Nat.lt_of_not_le more)

private theorem advanceRunning_job (scheduledAt startedAt attempt : Nat) :
    valid.retryPlan.Advances now
      (frame.jobAs transform.id (.running scheduledAt startedAt attempt))
      ((advanceRunning transform now scheduledAt startedAt attempt frame).2.jobAs transform.id
        (advanceRunning transform now scheduledAt startedAt attempt frame).1) := by
  unfold advanceRunning
  split
  · rename_i past
    have breached : (emitWarning transform now (aborted transform now frame) .late
        (some attempt)).jobAs transform.id (.running scheduledAt startedAt attempt) =
        (frame.jobAs transform.id (.running scheduledAt startedAt attempt)).breach :=
      (late_jobAs now _ _ _).trans (congrArg Job.breach (aborted_jobAs now frame _))
    exact .breached rfl past (handleFailurePolicy_job valid now _ breached)
  · rename_i inTime
    split
    · rename_i finished
      have completed : (completed transform now frame).jobAs transform.id .idle = _ :=
        completed_jobAs now frame (.running scheduledAt startedAt attempt)
      exact completed ▸ .produced rfl (Nat.le_of_not_lt inTime) finished
    · rename_i unfinished
      exact .going rfl (Nat.le_of_not_lt inTime) (Nat.lt_of_not_le unfinished)

private theorem advanceWaiting_job {state : Sl1TransformState} (scheduledAt since attempts : Nat)
    (waiting : state.job = .waiting scheduledAt attempts) :
    valid.retryPlan.Advances now (frame.jobAs transform.id state)
      ((advanceWaiting transform caps now scheduledAt since attempts frame).2.jobAs transform.id
        (advanceWaiting transform caps now scheduledAt since attempts frame).1) := by
  unfold advanceWaiting
  split
  · rename_i past
    exact .overdue waiting past (handleFailurePolicy_job valid now _ (late_jobAs now frame state _))
  · rename_i inTime
    unfold startAttemptQuiet
    rcases tryStart_cases transform caps now frame with ⟨-, same⟩ | ⟨refusal, refused, same⟩
    · rw [same]
      have started : (begun transform now frame).jobAs transform.id _ = _ :=
        begun_jobAs now frame state scheduledAt now attempts
      exact started ▸ .started waiting (Nat.le_of_not_lt inTime)
    · rw [same]
      have still : frame.jobAs transform.id (.starved scheduledAt since attempts) =
          frame.jobAs transform.id state := by
        rw [Frame.jobAs, Frame.jobAs, waiting]
        rfl
      have queued : valid.retryPlan.Advances now (frame.jobAs transform.id state)
          (frame.jobAs transform.id state) := .queued waiting (Nat.le_of_not_lt inTime)
      cases refusal with
      | started => exact absurd rfl refused
      | starved | blocked => exact still.symm ▸ queued

private theorem advanceLate_job (scheduledAt attempt since : Nat) :
    valid.retryPlan.Advances now (frame.jobAs transform.id (.late scheduledAt attempt since))
      ((advanceLate transform caps now scheduledAt attempt since frame).2.jobAs transform.id
        (advanceLate transform caps now scheduledAt attempt since frame).1) := by
  have failed : (emitWarning transform now frame .failed (some attempt)).jobAs transform.id .idle = _ :=
    failed_jobAs now frame (.late scheduledAt attempt since) (some attempt)
  unfold advanceLate
  split
  · exact failed ▸ .exhausted rfl
  · rename_i policy
    have retries : valid.retryPlan.retries = true := beq_iff_eq.mpr policy
    rcases tryStart_cases transform caps now frame with ⟨-, same⟩ | ⟨refusal, refused, same⟩
    · rw [same]
      have started : (begun transform now frame).jobAs transform.id _ = _ :=
        begun_jobAs now frame (.late scheduledAt attempt since) now now attempt
      exact started ▸ .restarted rfl retries
    · rw [same]
      cases refusal with
      | started => exact absurd rfl refused
      | starved | blocked =>
        simp only
        split
        · exact failed ▸ .exhausted rfl
        · rename_i more
          exact .deferred rfl retries (Nat.le_of_not_lt more)

theorem advance_job (state : Sl1TransformState) :
    valid.retryPlan.Advances now (frame.jobAs transform.id state)
      ((advance transform caps now frame state).2.jobAs transform.id
        (advance transform caps now frame state).1) := by
  cases state with
  | idle => exact .idle rfl
  | running scheduledAt startedAt attempt =>
    exact advanceRunning_job valid now frame scheduledAt startedAt attempt
  | starved scheduledAt since attempts | blocked scheduledAt since attempts =>
    exact advanceWaiting_job valid caps now frame scheduledAt since attempts rfl
  | late scheduledAt attempt since =>
    exact advanceLate_job valid caps now frame scheduledAt attempt since

omit valid in
theorem cadence_job (state : Sl1TransformState) :
    RetryPlan.Opens now (cadenceFires transform now) (frame.jobAs transform.id state)
      ((cadence transform caps now state frame).2.jobAs transform.id
        (cadence transform caps now state frame).1) := by
  have missed (busy : state.job ≠ .idle) (slot : cadenceFires transform now = true) :
      RetryPlan.Opens now (cadenceFires transform now) (frame.jobAs transform.id state)
        ((emitWarning transform now frame .slotMissed none).jobAs transform.id state) :=
    (emitWarning_jobAs now frame state .slotMissed none).symm ▸ .missed slot busy
  unfold cadence
  split
  · rename_i noSlot
    exact .quiet (by simpa using noSlot)
  · rename_i slot
    rw [not_not] at slot
    cases state with
    | idle =>
      simp only [startAttempt]
      rcases tryStart_cases transform caps now frame with ⟨-, same⟩ | ⟨refusal, refused, same⟩
      · rw [same]
        have started : (begun transform now frame).jobAs transform.id _ = _ :=
          begun_jobAs now frame .idle now now 1
        exact started ▸ .started slot rfl
      · rw [same]
        cases refusal with
        | started => exact absurd rfl refused
        | starved =>
          exact (emitWarning_jobAs now frame (.starved now now 1) .starved none).symm ▸
            .queued slot rfl
        | blocked =>
          exact (emitWarning_jobAs now frame (.blocked now now 1) .blocked none).symm ▸
            .queued slot rfl
    | running | starved | blocked | late => exact missed (by simp [Sl1TransformState.job]) slot

/-- A transform's own tick is one tick of its worker. -/
theorem processOne_job :
    valid.retryPlan.Ticks now (cadenceFires transform now) (frame.job transform.id)
      ((processOne transform caps now frame).job transform.id) := by
  have stored (state : Sl1TransformState) (last : Frame) :
      (last.modify (keepState transform state)).job transform.id = last.jobAs transform.id state := by
    simp only [Frame.job, Frame.modify_runtime, Sl1RuntimeState.transformState_keepState, if_true]
    rfl
  refine ⟨_, advance_job valid caps now frame _, ?_⟩
  rw [processOne, stored]
  exact cadence_job caps now _ _

end Worker

section Pass

variable (caps : PassCaps) (now : Nat) (frame : Frame)

/-- Another transform's tick leaves the job alone. -/
theorem processOne_job_other {id : String} (other : transform.id ≠ id) :
    (processOne transform caps now frame).job id = frame.job id := by
  obtain ⟨_, servedState, middle, last, advanced, served, same⟩ :=
    processOne_cases transform caps now frame
  have states : (last.modify (keepState transform servedState)).runtime.transformState id =
      frame.runtime.transformState id := by
    rw [Frame.modify_runtime, Sl1RuntimeState.transformState_keepState, if_neg other]
    simp only [Sl1RuntimeState.transformState, served.transforms, advanced.transforms]
  have first (state : Sl1TransformState) : middle.jobAs id state = frame.jobAs id state := by
    cases advanced <;> simp [Frame.jobAs, Frame.starts, Frame.completions, Frame.warnings, begun,
      aborted, completed, emitWarning, SimMessage.isSlotWarning, other]
  have second (state : Sl1TransformState) : last.jobAs id state = middle.jobAs id state := by
    cases served <;> simp [Frame.jobAs, Frame.starts, Frame.completions, Frame.warnings, begun,
      emitWarning, SimMessage.isSlotWarning, other]
  rw [same, Frame.job, states]
  exact (second _).trans (first _)

theorem processOne_mem {id : String} (present : id ∈ frame.runtime.transforms) :
    id ∈ (processOne transform caps now frame).runtime.transforms := by
  obtain ⟨_, servedState, middle, last, advanced, served, same⟩ :=
    processOne_cases transform caps now frame
  have states : last.runtime.transforms = frame.runtime.transforms :=
    served.transforms.trans advanced.transforms
  rw [same]
  change id ∈ last.runtime.transforms.insert transform.id servedState
  rw [states, Std.ExtTreeMap.mem_insert]
  exact .inr present

theorem runTransforms_mem {scene : Sl1Scene} {now : Nat} {frame : Frame} {id : String}
    (present : id ∈ frame.runtime.transforms) :
    id ∈ (runTransforms scene now frame).runtime.transforms :=
  runTransforms_rule (motive := fun frame => id ∈ frame.runtime.transforms) present
    fun frame _ _ present => processOne_mem scene.passCaps now frame present

/-- In one pass a declared transform is processed once. -/
theorem runTransforms_once {View : Type} (view : Frame → View) {scene : Sl1Scene} {now : Nat}
    {frame : Frame} (declared : scene.Valid) (member : transform ∈ scene.transforms)
    (present : transform.id ∈ frame.runtime.transforms)
    (others : ∀ other ∈ scene.transforms, other.id ≠ transform.id → ∀ frame,
      view (processOne other scene.passCaps now frame) = view frame) :
    ∃ before, view before = view frame ∧ view (runTransforms scene now frame) =
      view (processOne transform scene.passCaps now before) := by
  have apart (current : Frame) (id : String) (_ : id ∈ frame.runtime.transforms.keys)
      (different : id ≠ transform.id) : view (visit scene now current id) = view current := by
    unfold visit
    split
    · rename_i other found
      obtain ⟨listed, named⟩ := Sl1Scene.transformDefs_found found
      exact others other listed (fun same => different (named.symm.trans same)) current
    · rfl
  obtain ⟨before, reached, final⟩ := foldl_once view
    Std.ExtTreeMap.nodup_keys (Std.ExtTreeMap.mem_keys.mpr present) apart frame
  refine ⟨before, reached, ?_⟩
  rw [runTransforms_eq, final]
  unfold visit
  rw [declared.transformDefs_of_mem member]

end Pass

end Transforms

namespace Pressure

theorem injectSource_job (caps : PairMap Nat) (now : Nat) (frame : Frame)
    (injection : SourceInjection) (id : String) :
    (injectSource caps now frame injection).job id = frame.job id := by
  refine injectSource_rule (motive := fun after => after.job id = frame.job id) rfl ?_
  simp only [Frame.job, Frame.jobAs, Frame.starts, Frame.completions, Frame.perform_ledger,
    Frame.modify_ledger, List.countP_append]
  rfl

theorem run_job (scene : Sl1Scene) (now : Nat) (frame : Frame) (id : String) :
    (run scene now frame).job id = frame.job id :=
  run_keeps (·.job id) (Frame.job_of_flow id (Frame.flow_of_core (overlaid_core scene now frame)))
    fun frame injection => injectSource_job _ now frame injection id

end Pressure

section Run

variable {scene : Sl1Scene} (valid : scene.Valid) (backend : AgentBackend)
  {transform : Sl1Transform} (member : transform ∈ scene.transforms)
include member

/-- A declared transform keeps its state entry in every run. -/
theorem ticks_mem (count : Nat) : transform.id ∈ (ticks scene backend count).runtime.transforms := by
  induction count with
  | zero => exact mem_table.mpr ⟨transform, member, rfl⟩
  | succ count ih =>
    have states : (ticks scene backend (count + 1)).runtime.transforms = _ :=
      congrArg Flow.transforms (run_flow scene backend _ (ticks scene backend count))
    have pressed : (Pressure.run scene (worldTick (count + 1))
        (ticks scene backend count)).runtime.transforms = _ :=
      congrArg Claims.transforms (Pressure.run_claims scene _ (ticks scene backend count))
    rw [states]
    change transform.id ∈ (moveStock scene _ _).runtime.transforms
    rw [moveStock_eq]
    refine Transforms.runTransforms_mem ?_
    change transform.id ∈ (Pressure.run scene _ _).runtime.transforms
    rw [pressed]
    exact ih

/-- One tick of a run is one tick of every transform's worker. -/
theorem ticks_job (count : Nat) :
    (valid.transforms transform member).retryPlan.Ticks (worldTick (count + 1))
      (Transforms.cadenceFires transform (worldTick (count + 1)))
      ((ticks scene backend count).job transform.id)
      ((ticks scene backend (count + 1)).job transform.id) := by
  let frame := Transforms.ageFreshness scene (worldTick (count + 1))
    (Pressure.run scene (worldTick (count + 1)) (ticks scene backend count))
  have pressed : frame.job transform.id = (ticks scene backend count).job transform.id :=
    Pressure.run_job scene (worldTick (count + 1)) (ticks scene backend count) transform.id
  have present : transform.id ∈ frame.runtime.transforms := by
    have unchanged : frame.runtime.transforms = _ := congrArg Claims.transforms
      (Pressure.run_claims scene (worldTick (count + 1)) (ticks scene backend count))
    rw [unchanged]
    exact ticks_mem backend member count
  obtain ⟨before, reached, final⟩ := Transforms.runTransforms_once (Frame.job · transform.id) valid
    member present fun other _ different frame =>
      Transforms.processOne_job_other scene.passCaps (worldTick (count + 1)) frame different
  have moved := Frame.job_of_flow transform.id
    (run_flow scene backend (worldTick (count + 1)) (ticks scene backend count))
  rw [← pressed, ← reached, ticks, moved, moveStock_eq, final]
  exact Transforms.processOne_job _ scene.passCaps (worldTick (count + 1)) before

end Run

end Simetro.Sl1
