import Mathlib.Algebra.BigOperators.Group.List.Basic
import Mathlib.Algebra.GroupWithZero.Nat

/-! Finite runs of a labelled transition relation, in the order the labels were
recorded. -/

namespace Simetro.Library

variable {State Label : Type}

inductive Trace (step : State → Label → State → Prop) : State → List Label → State → Prop where
  | nil (state : State) : Trace step state [] state
  | snoc (before : Trace step first labels middle) (next : step middle label last) :
      Trace step first (labels ++ [label]) last

namespace Trace

variable {step : State → Label → State → Prop} {first last : State} {labels : List Label}

/-- What every step preserves holds at the end of a run. -/
theorem invariant {Inv : State → Prop} (trace : Trace step first labels last)
    (preserved : ∀ before label after, label ∈ labels → Inv before → step before label after →
      Inv after)
    (initial : Inv first) : Inv last := by
  induction trace with
  | nil => exact initial
  | snoc _ next ih =>
    refine preserved _ _ _ (by simp) (ih ?_) next
    exact fun before label after member => preserved before label after (by simp [member])

/-- Every recorded label is a step from a state the run reached by earlier labels. -/
theorem step_of_mem (trace : Trace step first labels last) (member : label ∈ labels) :
    ∃ earlier before after, (∀ other ∈ earlier, other ∈ labels) ∧
      Trace step first earlier before ∧ step before label after := by
  induction trace with
  | nil => simp at member
  | @snoc earlier middle _ _ before next ih =>
    rcases List.mem_append.mp member with inside | final
    · obtain ⟨front, state, after, included, reached, taken⟩ := ih inside
      exact ⟨front, state, after, fun other present => by simp [included other present], reached,
        taken⟩
    · rw [List.mem_singleton] at final
      subst final
      exact ⟨earlier, middle, _, fun other present => by simp [present], before, next⟩

/-- A quantity that every step moves by what its label takes in and gives out is
accounted for over the whole run. -/
theorem accounted (trace : Trace step first labels last) {amount : State → Nat}
    {taken given : Label → Nat}
    (moved : ∀ before label after, label ∈ labels → step before label after →
      amount after + given label = amount before + taken label) :
    amount last + (labels.map given).sum = amount first + (labels.map taken).sum := by
  induction trace with
  | nil => rfl
  | snoc _ next ih =>
    have earlier := ih fun before label after member => moved before label after (by simp [member])
    have final := moved _ _ _ (by simp) next
    simp only [List.map_append, List.sum_append, List.map_singleton, List.sum_singleton]
    omega

end Trace

end Simetro.Library
