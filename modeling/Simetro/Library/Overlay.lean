import Mathlib.Data.List.Basic
import Simetro.Library.Checks
import Simetro.Library.Fold

/-! Edits laid over a state one after another: when all of them succeed, and what a mask over
the edited parts shows. -/

namespace Simetro.Library

variable {Error State Label : Type}

section Fallible

variable {attempt : State → Label → Except Error State} {good : State → Label → Prop}
  {step : State → Label → State}

/-- Edits that do not decide about each other succeed when each would from the start. -/
theorem foldlM_eq_ok (attempt_eq : ∀ state label next, attempt state label = .ok next ↔
      good state label ∧ next = step state label) {labels : List Label}
    (apart : labels.Pairwise fun one other => ∀ state, good state one →
      (good (step state one) other ↔ good state other)) {state final : State} :
    labels.foldlM attempt state = .ok final ↔
      (∀ label ∈ labels, good state label) ∧ final = labels.foldl step state := by
  induction labels generalizing state with
  | nil => simp [pure, Except.pure, eq_comm]
  | cons label rest ih =>
    obtain ⟨first, apart⟩ := List.pairwise_cons.mp apart
    simp only [List.foldlM_cons, bind_eq_ok, attempt_eq, ih apart, List.foldl_cons]
    constructor
    · rintro ⟨_, ⟨passed, rfl⟩, others, rfl⟩
      refine ⟨fun other member => ?_, rfl⟩
      rcases List.mem_cons.mp member with rfl | member
      · exact passed
      · exact (first other member state passed).mp (others other member)
    · rintro ⟨every, rfl⟩
      have passed := every label (by simp)
      refine ⟨_, ⟨passed, rfl⟩, fun other member => ?_, rfl⟩
      exact (first other member state passed).mpr (every other (by simp [member]))

end Fallible

section Masks

variable {mask step : State → Label → State}

omit mask in
/-- Edits that change nothing, one by one, change nothing together. -/
theorem foldl_same {labels : List Label} {state : State}
    (same : ∀ label ∈ labels, step state label = state) : labels.foldl step state = state := by
  induction labels with
  | nil => rfl
  | cons label rest ih =>
    rw [List.foldl_cons, same label (by simp), ih fun other member => same other (by simp [member])]

/-- What commutes with each edit commutes with the run of them. -/
theorem foldl_through {view : State → State} {labels : List Label}
    (through : ∀ label ∈ labels, ∀ state, view (step state label) = step (view state) label)
    (state : State) : view (labels.foldl step state) = labels.foldl step (view state) := by
  induction labels generalizing state with
  | nil => rfl
  | cons label rest ih =>
    rw [List.foldl_cons, ih fun other member => through other (by simp [member]),
      through label (by simp), List.foldl_cons]

/-- What masks each edit that is fit for the state, and does not mind the others, masks all
of them. -/
theorem foldl_mask {fit : State → Label → Prop} {labels : List Label}
    (covers : ∀ state label, fit state label → mask (step state label) label = mask state label)
    (apart : labels.Pairwise fun one other => ∀ state,
      mask (step state other) one = step (mask state one) other ∧
        (fit state other → fit (mask state one) other)) {state : State}
    (allFit : ∀ label ∈ labels, fit state label) :
    labels.foldl mask (labels.foldl step state) = labels.foldl mask state := by
  induction labels generalizing state with
  | nil => rfl
  | cons label rest ih =>
    obtain ⟨first, apart⟩ := List.pairwise_cons.mp apart
    have through := @foldl_through _ _ step (fun state => mask state label) rest
      (fun other member state => (first other member state).1) (step state label)
    simp only [List.foldl_cons]
    rw [through, covers state label (allFit label (by simp))]
    exact ih apart fun other member => (first other member state).2 (allFit other (by simp [member]))

end Masks

section Values

variable {Key Value : Type} {step : State → Key × Value → State} {value : Key → State → Option Value}

/-- Writes to distinct keys are all there in the end. -/
theorem foldl_written {entries : List (Key × Value)}
    (distinct : entries.Pairwise fun one other => one.1 ≠ other.1)
    (sets : ∀ state, ∀ entry ∈ entries, value entry.1 (step state entry) = some entry.2)
    (keeps : ∀ state, ∀ entry ∈ entries, ∀ other ∈ entries, other.1 ≠ entry.1 →
      value other.1 (step state entry) = value other.1 state) (state : State) :
    ∀ entry ∈ entries, value entry.1 (entries.foldl step state) = some entry.2 := by
  induction entries generalizing state with
  | nil => simp
  | cons head rest ih =>
    obtain ⟨apart, distinct⟩ := List.pairwise_cons.mp distinct
    intro entry member
    rw [List.foldl_cons]
    rcases List.mem_cons.mp member with rfl | member
    · rw [foldl_keeps (value entry.1) fun state other member =>
        keeps state other (by simp [member]) _ (by simp) (apart other member)]
      exact sets state entry (by simp)
    · exact ih distinct (fun state entry member => sets state entry (by simp [member]))
        (fun state entry member other listed =>
          keeps state entry (by simp [member]) other (by simp [listed])) _ entry member

end Values

end Simetro.Library
