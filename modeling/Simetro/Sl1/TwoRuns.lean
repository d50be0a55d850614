import Simetro.Sl1.TransformSteps

/-! Two runs side by side. A relation between frames that a transform's reads respect
and its writes keep is kept by its whole tick. -/

namespace Simetro.Sl1

open Simetro.Library Simetro.Protocol

namespace Transforms

/-- In related frames the transform reads the same, and its writes keep them related. -/
structure Respects (related : Frame → Frame → Prop) (transform : Sl1Transform)
    (left right : PassCaps) (now : Nat) : Prop where
  state : ∀ {first second}, related first second →
    first.runtime.transformState transform.id = second.runtime.transformState transform.id
  inputs : ∀ {first second}, related first second →
    inputsAvailable transform first.runtime = inputsAvailable transform second.runtime
  headroom : ∀ {first second}, related first second →
    capacityHeadroom transform left first.runtime = capacityHeadroom transform right second.runtime
  room : ∀ {first second}, related first second →
    storageRoom transform left first.runtime = storageRoom transform right second.runtime
  warned : ∀ {first second} event attempt, related first second →
    related (emitWarning transform now first event attempt)
      (emitWarning transform now second event attempt)
  begun : ∀ {first second}, related first second →
    related (begun transform now first) (begun transform now second)
  aborted : ∀ {first second}, related first second →
    related (aborted transform now first) (aborted transform now second)
  completed : ∀ {first second}, related first second →
    related (completed transform now first) (completed transform now second)
  kept : ∀ {first second} state, related first second →
    related (first.modify (keepState transform state)) (second.modify (keepState transform state))

/-- The same result with related frames. -/
def Paired {Result : Type} (related : Frame → Frame → Prop) (first second : Result × Frame) : Prop :=
  first.1 = second.1 ∧ related first.2 second.2

theorem Paired.split {Result : Type} {related : Frame → Frame → Prop}
    {first second : Result × Frame} (paired : Paired related first second) :
    ∃ result one two, first = (result, one) ∧ second = (result, two) ∧ related one two := by
  obtain ⟨result, one⟩ := first
  obtain ⟨other, two⟩ := second
  obtain ⟨same, after⟩ := paired
  cases same
  exact ⟨result, one, two, rfl, rfl, after⟩

namespace Respects

variable {related : Frame → Frame → Prop} {transform : Sl1Transform} {left right : PassCaps}
  {now : Nat} (respects : Respects related transform left right now) {first second : Frame}
include respects

theorem tryStart (same : related first second) :
    Paired related (tryStart transform left now first) (tryStart transform right now second) := by
  unfold Transforms.tryStart
  rw [respects.inputs same, respects.headroom same, respects.room same]
  split
  · exact ⟨rfl, same⟩
  · split
    · exact ⟨rfl, same⟩
    · split
      · exact ⟨rfl, same⟩
      · exact ⟨rfl, respects.begun same⟩

theorem handleFailurePolicy (scheduledAt attempt : Nat) (same : related first second) :
    Paired related (handleFailurePolicy transform now scheduledAt attempt first)
      (handleFailurePolicy transform now scheduledAt attempt second) := by
  unfold Transforms.handleFailurePolicy
  split
  · exact ⟨rfl, respects.warned _ _ same⟩
  · split
    · exact ⟨rfl, respects.warned _ _ same⟩
    · exact ⟨rfl, same⟩

theorem advanceRunning (scheduledAt startedAt attempt : Nat) (same : related first second) :
    Paired related (advanceRunning transform now scheduledAt startedAt attempt first)
      (advanceRunning transform now scheduledAt startedAt attempt second) := by
  unfold Transforms.advanceRunning
  split
  · exact respects.handleFailurePolicy _ _ (respects.warned _ _ (respects.aborted same))
  · split
    · exact ⟨rfl, respects.completed same⟩
    · exact ⟨rfl, same⟩

theorem startAttemptQuiet (scheduledAt since attempts : Nat) (same : related first second) :
    Paired related (startAttemptQuiet transform left now scheduledAt since attempts first)
      (startAttemptQuiet transform right now scheduledAt since attempts second) := by
  unfold Transforms.startAttemptQuiet
  obtain ⟨tried, one, two, here, there, after⟩ := (respects.tryStart same).split
  rw [here, there]
  cases tried <;> exact ⟨rfl, after⟩

theorem advanceWaiting (scheduledAt since attempts : Nat) (same : related first second) :
    Paired related (advanceWaiting transform left now scheduledAt since attempts first)
      (advanceWaiting transform right now scheduledAt since attempts second) := by
  unfold Transforms.advanceWaiting
  split
  · exact respects.handleFailurePolicy _ _ (respects.warned _ _ same)
  · exact respects.startAttemptQuiet _ _ _ same

theorem advanceLate (scheduledAt attempt since : Nat) (same : related first second) :
    Paired related (advanceLate transform left now scheduledAt attempt since first)
      (advanceLate transform right now scheduledAt attempt since second) := by
  unfold Transforms.advanceLate
  split
  · exact ⟨rfl, respects.warned _ _ same⟩
  · obtain ⟨tried, one, two, here, there, after⟩ := (respects.tryStart same).split
    rw [here, there]
    cases tried with
    | started => exact ⟨rfl, after⟩
    | starved | blocked =>
      simp only
      split
      · exact ⟨rfl, respects.warned _ _ after⟩
      · exact ⟨rfl, after⟩

theorem startAttempt (scheduledAt attempts : Nat) (same : related first second) :
    Paired related (startAttempt transform left now scheduledAt attempts first)
      (startAttempt transform right now scheduledAt attempts second) := by
  unfold Transforms.startAttempt
  obtain ⟨tried, one, two, here, there, after⟩ := (respects.tryStart same).split
  rw [here, there]
  cases tried with
  | started => exact ⟨rfl, after⟩
  | starved | blocked => exact ⟨rfl, respects.warned _ _ after⟩

theorem advance (state : Sl1TransformState) (same : related first second) :
    Paired related (advance transform left now first state)
      (advance transform right now second state) := by
  cases state with
  | idle => exact ⟨rfl, same⟩
  | running scheduledAt startedAt attempt => exact respects.advanceRunning _ _ _ same
  | starved scheduledAt since attempts => exact respects.advanceWaiting _ _ _ same
  | blocked scheduledAt since attempts => exact respects.advanceWaiting _ _ _ same
  | late scheduledAt attempt since => exact respects.advanceLate _ _ _ same

theorem cadence (state : Sl1TransformState) (same : related first second) :
    Paired related (cadence transform left now state first)
      (cadence transform right now state second) := by
  unfold Transforms.cadence
  split
  · exact ⟨rfl, same⟩
  · cases state with
    | idle => exact respects.startAttempt _ _ same
    | running | starved | blocked | late => exact ⟨rfl, respects.warned _ _ same⟩

/-- One transform's tick keeps the frames related. -/
theorem processOne (same : related first second) :
    related (processOne transform left now first) (processOne transform right now second) := by
  unfold Transforms.processOne
  rw [respects.state same]
  obtain ⟨state, one, two, here, there, advanced⟩ :=
    (respects.advance (second.runtime.transformState transform.id) same).split
  rw [here, there]
  obtain ⟨next, served, servedToo, opened, openedToo, after⟩ :=
    (respects.cadence state advanced).split
  simp only
  rw [opened, openedToo]
  exact respects.kept next after

end Respects

end Transforms

end Simetro.Sl1
