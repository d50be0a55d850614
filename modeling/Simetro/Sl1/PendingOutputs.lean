import Simetro.Sl1.StoreInvariants

/-! The reservation map holds one entry for each slot that running transforms
fill, with the total of what they will land there. -/

namespace Simetro.Sl1

open Simetro.Library Simetro.Protocol

namespace Transforms

variable {scene : Sl1Scene} {transform : Sl1Transform} {caps : PassCaps} {now : Nat}
  {frame last : Frame} {state next : Sl1TransformState}

theorem commitStart_positive (valid : ValidIo transform.outputs) {runtime : Sl1RuntimeState}
    (positive : AllPositive runtime.pendingOutputs) :
    AllPositive (commitStart transform runtime).pendingOutputs := by
  refine positive.deposit (by decide) fun row member => ?_
  obtain ⟨output, listed, rfl⟩ := List.mem_map.mp member
  exact valid.positive output listed

theorem Advanced.positive (valid : ValidIo transform.outputs)
    (positive : AllPositive frame.runtime.pendingOutputs)
    (advanced : Advanced transform caps now frame state next last) :
    AllPositive last.runtime.pendingOutputs := by
  cases advanced with
  | kept | overdue | overdueFailed | exhausted => exact positive
  | started => exact commitStart_positive valid positive
  | completed | breached | breachedFailed => exact positive.cancel

theorem Served.positive (valid : ValidIo transform.outputs)
    (positive : AllPositive frame.runtime.pendingOutputs)
    (served : Served transform caps now frame state next last) :
    AllPositive last.runtime.pendingOutputs := by
  cases served with
  | quiet | missed | starved | blocked => exact positive
  | started => exact commitStart_positive valid positive

theorem runTransforms_positive (valid : scene.Valid)
    (positive : AllPositive frame.runtime.pendingOutputs) :
    AllPositive (runTransforms scene now frame).runtime.pendingOutputs := by
  refine runTransforms_rule (motive := fun frame => AllPositive frame.runtime.pendingOutputs)
    positive fun frame transform member positive => ?_
  have outputs := (valid.transforms transform member).outputs
  obtain ⟨_, _, middle, last, advanced, served, same⟩ :=
    processOne_cases transform scene.passCaps now frame
  have final := served.positive outputs (advanced.positive outputs positive)
  rw [same]
  exact final

end Transforms

section Run

variable {scene : Sl1Scene} (valid : scene.Valid)
include valid

theorem moveStock_positive (now : Nat) {frame : Frame}
    (positive : AllPositive frame.runtime.pendingOutputs) :
    AllPositive (moveStock scene now frame).runtime.pendingOutputs := by
  have unchanged : (Pressure.run scene now frame).runtime.pendingOutputs =
      frame.runtime.pendingOutputs :=
    congrArg Claims.pendingOutputs (Pressure.run_claims scene now frame)
  have pressed : AllPositive (Pressure.run scene now frame).runtime.pendingOutputs := by
    rw [unchanged]
    exact positive
  rw [moveStock_eq]
  exact Transforms.runTransforms_positive valid pressed

theorem ticks_positive (backend : AgentBackend) (count : Nat) :
    AllPositive (ticks scene backend count).runtime.pendingOutputs := by
  induction count with
  | zero => exact AllPositive.empty
  | succ count ih =>
    have pending : (ticks scene backend (count + 1)).runtime.pendingOutputs = _ :=
      congrArg Flow.pendingOutputs (run_flow scene backend _ (ticks scene backend count))
    rw [pending]
    exact moveStock_positive valid _ ih

end Run

/-- Running transforms on `place` that will land `thing` there. -/
def Sl1RuntimeState.filling (scene : Sl1Scene) (runtime : Sl1RuntimeState) (place thing : String) :
    List Sl1Transform :=
  (runtime.runningOn scene place).filter fun transform =>
    transform.outputs.any fun output => output.thingId = thing

section Total

variable {scene : Sl1Scene} (valid : scene.Valid) (runtime : Sl1RuntimeState) (place thing : String)

/-- Transforms that do not fill the slot book nothing on it. -/
private theorem filling_total :
    ((runtime.runningOn scene place).map fun transform => tally transform.outputRows thing).sum =
      ((runtime.filling scene place thing).map fun transform =>
        tally transform.outputRows thing).sum := by
  unfold Sl1RuntimeState.filling
  induction runtime.runningOn scene place with
  | nil => rfl
  | cons transform rest ih =>
    simp only [List.filter_cons, List.map_cons, List.sum_cons, ih]
    by_cases fills : (transform.outputs.any fun output => output.thingId = thing) = true
    · rw [if_pos fills, List.map_cons, List.sum_cons]
    · have nothing : tally transform.outputRows thing = 0 := by
        refine tally_eq_zero fun row member same => fills ?_
        obtain ⟨output, listed, rfl⟩ := List.mem_map.mp member
        exact List.any_eq_true.mpr ⟨output, listed, by simpa using same⟩
      rw [if_neg fills, nothing, Nat.zero_add]

include valid in
private theorem filling_positive {transform : Sl1Transform}
    (fills : transform ∈ runtime.filling scene place thing) :
    0 < tally transform.outputRows thing := by
  obtain ⟨running, outputs⟩ := List.mem_filter.mp fills
  obtain ⟨output, listed, same⟩ := List.any_eq_true.mp outputs
  have io := (valid.transforms transform (List.mem_of_mem_filter running)).outputs
  have row : (output.thingId, output.amount) ∈ transform.outputRows :=
    List.mem_map.mpr ⟨output, listed, rfl⟩
  have distinct : (transform.outputRows.map Prod.fst).Nodup := by
    simpa [Sl1Transform.outputRows, ioRows, Function.comp_def] using io.distinct
  have amount := tally_of_mem distinct row
  rw [of_decide_eq_true same] at amount
  exact amount ▸ io.positive output listed

end Total

/-- In every run a slot has a reservation exactly when running transforms fill it, and
it is the total of what they land there; a completion or a breach takes back
exactly what its transform reserved. -/
theorem pending_outputs_exact {raw : RawSl1Scene} {scene : Sl1Scene}
    (accepted : validate raw = .ok scene) (backend : AgentBackend) (count : Nat) :
    let run := ticks scene backend count
    (∀ place thing : String, run.runtime.pendingOutputs[(place, thing)]? =
      if run.runtime.filling scene place thing = [] then none
      else some ((run.runtime.filling scene place thing).map fun transform =>
        tally transform.outputRows thing).sum) ∧
    (∀ entry ∈ run.ledger, ∀ id, entry.op = .complete id ∨ entry.op = .abort id →
      ∀ place thing : String, entry.before.reserved place thing =
        entry.after.reserved place thing + scene.amountAt (·.outputRows) id (place, thing)) := by
  have valid := validate_valid accepted
  have tracked := ticks_tracked valid backend count
  constructor
  · intro place thing
    have total : (ticks scene backend count).runtime.reserved place thing = _ :=
      ((tracked.balanced valid).reserved (place, thing)).trans
        ((load_rows valid (·.outputRows) _ place thing).trans (filling_total _ place thing))
    rw [(ticks_positive valid backend count).getElem?_eq]
    change (if (ticks scene backend count).runtime.reserved place thing = 0 then none
      else some ((ticks scene backend count).runtime.reserved place thing)) = _
    rw [total]
    cases filling : (ticks scene backend count).runtime.filling scene place thing with
    | nil => rfl
    | cons transform rest =>
      have first := filling_positive valid _ place thing
        (filling ▸ List.mem_cons_self : transform ∈ _)
      have positive : ((transform :: rest).map fun transform =>
          tally transform.outputRows thing).sum ≠ 0 := by
        rw [List.map_cons, List.sum_cons]
        omega
      rw [if_neg positive, if_neg (List.cons_ne_nil _ _)]
  · intro entry member id ends place thing
    obtain ⟨_, before, after, _, reached, books⟩ := Trace.step_of_mem tracked member
    have balanced := reached.invariant
      (fun _ _ _ _ balanced books => balanced.step valid.tasks_distinct books.taken)
      (Tracked.initialStore_balanced scene)
    have taken := books.taken
    have released : before.reserved (place, thing) =
        after.reserved (place, thing) + scene.plan.yields id (place, thing) := by
      rcases ends with op | op
      · rw [op] at taken
        cases taken with
        | finish declared busy =>
          have within := balanced.yields_le_reserved valid.tasks_distinct declared busy (place, thing)
          simp only [Plan.released]
          omega
      · rw [op] at taken
        cases taken with
        | abort declared busy =>
          have within := balanced.yields_le_reserved valid.tasks_distinct declared busy (place, thing)
          simp only [Plan.released]
          omega
    rw [books.before, books.after] at released
    exact released

theorem pending_outputs_exact_surge : ∃ scene, validate (surgeScene 20) = .ok scene ∧
    (ticks scene defaultBackend 2).runtime.pendingOutputs[("mine", "ore")]? =
      if (ticks scene defaultBackend 2).runtime.filling scene "mine" "ore" = [] then none
      else some (((ticks scene defaultBackend 2).runtime.filling scene "mine" "ore").map
        fun transform => tally transform.outputRows "ore").sum := by
  have evaluated : yields (validate (surgeScene 20)) (fun _ => true) = true := by decide +kernel
  obtain ⟨scene, accepted, -⟩ := yields_iff.mp evaluated
  exact ⟨scene, accepted, (pending_outputs_exact accepted defaultBackend 2).1 "mine" "ore"⟩

end Simetro.Sl1
