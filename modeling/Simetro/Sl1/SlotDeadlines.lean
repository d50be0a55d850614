import Simetro.Sl1.SlotAccounting

/-! How long a cadence slot can last, how often it is started, and what becomes of a
retry. -/

namespace Simetro.Sl1

open Simetro.Library Simetro.Protocol

namespace Sl1TransformState

/-- The attempt in flight. -/
def inFlight : Sl1TransformState → Option Nat
  | .idle => none
  | .running _ _ attempt | .starved _ _ attempt | .blocked _ _ attempt | .late _ attempt _ =>
      some attempt

def isLate : Sl1TransformState → Bool
  | .late _ _ _ => true
  | _ => false

theorem job_running {state : Sl1TransformState}
    (running : state.job = .running scheduledAt startedAt attempt) :
    state = .running scheduledAt startedAt attempt := by
  cases state with
  | running =>
    obtain ⟨rfl, rfl, rfl⟩ := JobState.running.inj running
    rfl
  | idle | starved | blocked | late => cases running

end Sl1TransformState

section Run

variable {scene : Sl1Scene} (valid : scene.Valid) (backend : AgentBackend) {count : Nat}
  (reachable : count ≤ u64Max) {transform : Sl1Transform} (member : transform ∈ scene.transforms)
include valid reachable member

private theorem jobs_tick : ∀ tick < count,
    (valid.transforms transform member).retryPlan.Ticks (tick + 1)
      (transform.isCadenceTick (tick + 1)) ((ticks scene backend tick).job transform.id)
      ((ticks scene backend (tick + 1)).job transform.id) := by
  intro tick within
  have positive := (valid.transforms transform member).cadence_pos
  have fires : Transforms.cadenceFires transform (tick + 1) = transform.isCadenceTick (tick + 1) := by
    simp [Transforms.cadenceFires, Sl1Transform.isCadenceTick, positive]
  have step := ticks_job valid backend member tick
  rw [worldTick_of_le (by omega), fires] at step
  exact step

/-- The attempt in flight is one of those allowed, and late only where the policy
retries. -/
private theorem attempt_within {tick : Nat} (within : tick ≤ count) :
    (∀ attempt ∈ ((ticks scene backend tick).runtime.transformState transform.id).inFlight,
      1 ≤ attempt ∧ attempt ≤ transform.maxAttempts) ∧
    (((ticks scene backend tick).runtime.transformState transform.id).isLate = true →
      transform.failurePolicy = .retryThenWarn) := by
  have fresh : ((ticks scene backend 0).job transform.id).state = .idle :=
    congrArg Sl1TransformState.job (Sl1RuntimeState.fromScene_transformState transform.id)
  have attempts := (valid.transforms transform member).attempts_pos
  have held := RetryPlan.idle_or_inHand reachable (jobs_tick valid backend reachable member) fresh
    within
  have shown : ((ticks scene backend tick).job transform.id).state =
      ((ticks scene backend tick).runtime.transformState transform.id).job := rfl
  generalize (ticks scene backend tick).runtime.transformState transform.id = state at shown
  have first {state : Sl1TransformState} (one : state.inFlight = some 1) :
      ∀ attempt ∈ state.inFlight, 1 ≤ attempt ∧ attempt ≤ transform.maxAttempts := by
    intro attempt same
    rw [one, Option.mem_some_iff] at same
    exact same ▸ ⟨Nat.le_refl 1, attempts⟩
  rcases held with free | ⟨slot, base, inHand⟩
  · cases state with
    | idle => exact ⟨by simp [Sl1TransformState.inFlight], by simp [Sl1TransformState.isLate]⟩
    | running | starved | blocked | late => cases shown.symm.trans free
  · cases inHand with
    | first same =>
      obtain rfl := Sl1TransformState.job_running (shown.symm.trans same)
      exact ⟨first rfl, fun late => by cases late⟩
    | queued same =>
      cases state with
      | starved | blocked =>
        obtain ⟨-, rfl⟩ := JobState.waiting.inj (shown.symm.trans same)
        exact ⟨first rfl, fun late => by cases late⟩
      | idle | running | late => cases shown.symm.trans same
    | @late attempt same allowed again more =>
      cases state with
      | late =>
        obtain ⟨-, rfl⟩ := JobState.late.inj (shown.symm.trans same)
        refine ⟨fun attempt same => ?_, fun _ => beq_iff_eq.mp allowed⟩
        obtain rfl := Option.some.inj same
        exact ⟨by omega, more⟩
      | idle | running | starved | blocked => cases shown.symm.trans same
    | again same _ again more =>
      obtain rfl := Sl1TransformState.job_running (shown.symm.trans same)
      refine ⟨fun attempt same => ?_, fun late => by cases late⟩
      obtain rfl := Option.some.inj same
      exact ⟨by omega, more⟩

end Run

/-- In every run of consecutive ticks, of every transform: a cadence slot is over
within its deadline, its attempts and one more run, and under the `Drop` policy right
after its deadline; it is started at most twice; what was late and runs completes
exactly its duration after its start, without another breach; the attempt in flight
is one of those allowed; and a transform that drops is never late. -/
theorem slot_bounded {raw : RawSl1Scene} {scene : Sl1Scene} (accepted : validate raw = .ok scene)
    (backend : AgentBackend) {count : Nat} (reachable : count ≤ u64Max) {transform : Sl1Transform}
    (member : transform ∈ scene.transforms) :
    let opens := transform.isCadenceTick
    let run := ticks scene backend
    let account := fun tick => (run tick).slots transform.id
    let state := fun tick => (run tick).runtime.transformState transform.id
    (∀ slot, Taken opens account slot → ∀ later ≤ count,
      (slot + transform.deadlineTicks + transform.maxAttempts + transform.durationTicks ≤ later →
        (account slot).ended < (account later).ended) ∧
      (transform.failurePolicy = .drop → slot + transform.deadlineTicks + 1 ≤ later →
        (account slot).ended < (account later).ended) ∧
      (slot ≤ later → (∀ other, slot < other → other ≤ later → ¬ Taken opens account other) →
        (run later).starts transform.id ≤ (run (slot - 1)).starts transform.id + 2)) ∧
    (∀ tick < count, ∀ scheduledAt startedAt attempt, (state tick).isLate = true →
      state (tick + 1) = .running scheduledAt startedAt attempt →
      scheduledAt = tick + 1 ∧ startedAt = tick + 1 ∧
      (startedAt + transform.durationTicks ≤ count →
        (∀ later, startedAt ≤ later → later < startedAt + transform.durationTicks →
          state later = .running scheduledAt startedAt attempt ∧
          (run later).completions transform.id = (run startedAt).completions transform.id) ∧
        (run (startedAt + transform.durationTicks)).completions transform.id =
          (run startedAt).completions transform.id + 1 ∧
        (run (startedAt + transform.durationTicks)).warnings transform.id .late =
          (run startedAt).warnings transform.id .late)) ∧
    (∀ tick ≤ count, ∀ attempt ∈ (state tick).inFlight,
      1 ≤ attempt ∧ attempt ≤ transform.maxAttempts) ∧
    (transform.failurePolicy = .drop → ∀ tick ≤ count, (state tick).isLate = false) := by
  intro opens run account state
  have valid := validate_valid accepted
  have jobs := jobs_tick valid backend reachable member
  have accounts : account = fun tick => ((run tick).job transform.id).account :=
    funext fun tick => Frame.slots_eq _ _
  refine ⟨?_, ?_, fun tick within => (attempt_within valid backend reachable member within).1, ?_⟩
  · intro slot taken later within
    rw [accounts] at taken ⊢
    refine ⟨fun bound => RetryPlan.slot_over reachable jobs taken bound within, ?_, ?_⟩
    · intro drops bound
      have never : (valid.transforms transform member).retryPlan.retries = false := by
        simp [Sl1Transform.Valid.retryPlan, drops]
      exact RetryPlan.slot_over_of_never reachable jobs never taken bound within
    · intro after alone
      exact RetryPlan.slot_starts reachable jobs taken after within alone
  · intro tick within scheduledAt startedAt attempt late runs
    obtain ⟨dueAt, tried, since, waits⟩ : ∃ dueAt tried since, state tick = .late dueAt tried since := by
      cases held : state tick with
      | late dueAt tried since => exact ⟨dueAt, tried, since, rfl⟩
      | idle | running | starved | blocked => rw [held] at late; cases late
    have shown (tick : Nat) : ((run tick).job transform.id).state = (state tick).job := rfl
    obtain ⟨rfl, rfl⟩ := (jobs tick within).run_of_late ((shown tick).trans (congrArg _ waits))
      ((shown (tick + 1)).trans (congrArg _ runs))
    refine ⟨rfl, rfl, fun fits => ⟨fun later after before => ?_, ?_⟩⟩
    · have goesOn := RetryPlan.run_goes_on reachable jobs _
        ((shown (tick + 1)).trans (congrArg _ runs)) fits after before
      exact ⟨Sl1TransformState.job_running goesOn.1, goesOn.2.1⟩
    · exact RetryPlan.run_completes reachable jobs ((shown (tick + 1)).trans (congrArg _ runs)) fits
  · intro drops tick within
    by_contra late
    have retries := (attempt_within valid backend reachable member within).2
      (Bool.eq_true_of_not_eq_false late)
    rw [drops] at retries
    cases retries

theorem slot_bounded_surge : ∃ scene, validate (surgeScene 20) = .ok scene ∧
    ∃ transform ∈ scene.transforms, transform.failurePolicy = .drop ∧
      ((ticks scene defaultBackend 1).slots transform.id).ended <
        ((ticks scene defaultBackend 7).slots transform.id).ended := by
  have evaluated : yields (validate (surgeScene 20)) (fun scene => scene.transforms.any
      fun transform => decide (transform.failurePolicy = .drop ∧ transform.deadlineTicks = 5 ∧
        transform.isCadenceTick 1 = true ∧
        ((ticks scene defaultBackend 1).slots transform.id).missed =
          ((ticks scene defaultBackend 0).slots transform.id).missed)) = true := by
    decide +kernel
  obtain ⟨scene, accepted, found⟩ := yields_iff.mp evaluated
  obtain ⟨transform, member, facts⟩ := List.any_eq_true.mp found
  obtain ⟨drops, deadline, fires, unmissed⟩ := of_decide_eq_true facts
  have bounded := (slot_bounded accepted defaultBackend (by decide : 7 ≤ u64Max) member).1 1
    ⟨0, rfl, fires, unmissed⟩ 7 (Nat.le_refl 7)
  exact ⟨scene, accepted, transform, member, drops, bounded.2.1 drops (by omega)⟩

end Simetro.Sl1
