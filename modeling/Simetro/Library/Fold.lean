import Mathlib.Data.List.Basic

/-! What a left fold keeps, from what each of its steps keeps. -/

namespace Simetro.Library

universe u v w

variable {State : Type u} {Label : Type v} {View : Type w}

/-- A view no step changes is unchanged by the fold. -/
theorem foldl_keeps (view : State → View) {step : State → Label → State} {labels : List Label}
    (keeps : ∀ state, ∀ label ∈ labels, view (step state label) = view state) (state : State) :
    view (labels.foldl step state) = view state := by
  induction labels generalizing state with
  | nil => rfl
  | cons label rest ih =>
    rw [List.foldl_cons, ih fun other next member => keeps other next (by simp [member])]
    exact keeps state label (by simp)

/-- No labels, no steps: a guard against that changes nothing. -/
theorem foldl_guard (step : State → Label → State) (labels : List Label) (state : State) :
    (if labels.isEmpty then state else labels.foldl step state) = labels.foldl step state := by
  cases labels <;> rfl

/-- Over distinct labels, a view that only one label's step touches is changed by
that step alone. -/
theorem foldl_once (view : State → View) {step : State → Label → State} {labels : List Label}
    {label : Label} (distinct : labels.Nodup) (member : label ∈ labels)
    (others : ∀ state, ∀ other ∈ labels, other ≠ label → view (step state other) = view state)
    (state : State) : ∃ before, view before = view state ∧
      view (labels.foldl step state) = view (step before label) := by
  induction labels generalizing state with
  | nil => simp at member
  | cons head rest ih =>
    obtain ⟨absent, distinct⟩ := List.nodup_cons.mp distinct
    rw [List.foldl_cons]
    rcases List.mem_cons.mp member with same | later
    · subst same
      refine ⟨state, rfl, foldl_keeps view (fun next other present => ?_) _⟩
      exact others next other (by simp [present]) fun equal => absent (equal ▸ present)
    · obtain ⟨before, reached, final⟩ := ih distinct later
        (fun next other present => others next other (by simp [present])) (step state head)
      have first := others state head (by simp) fun equal => absent (equal ▸ later)
      exact ⟨before, reached.trans first, final⟩

section Restrict

variable {view : State → View} {left right : State → Label → State} {concerns : Label → Bool}

/-- Labels that do not concern the view may be left out. -/
theorem foldl_filter_alike {labels : List Label}
    (quiet : ∀ state, ∀ label ∈ labels, concerns label = false → view (left state label) = view state)
    (alike : ∀ one two, ∀ label ∈ labels, concerns label = true → view one = view two →
      view (left one label) = view (right two label))
    {one two : State} (start : view one = view two) :
    view (labels.foldl left one) = view ((labels.filter concerns).foldl right two) := by
  induction labels generalizing one two with
  | nil => exact start
  | cons label rest ih =>
    have quietRest := fun state other listed => quiet state other (List.mem_cons_of_mem label listed)
    have alikeRest := fun one two other listed =>
      alike one two other (List.mem_cons_of_mem label listed)
    rw [List.foldl_cons]
    cases concerned : concerns label with
    | true =>
      rw [List.filter_cons_of_pos concerned, List.foldl_cons]
      exact ih quietRest alikeRest (alike one two label (by simp) concerned start)
    | false =>
      rw [List.filter_cons_of_neg (by simp [concerned])]
      exact ih quietRest alikeRest ((quiet one label (by simp) concerned).trans start)

/-- Two folds over lists with the same labels of concern do the same to a view. -/
theorem foldl_restrict (view : State → View) {first second : List Label}
    (same : first.filter concerns = second.filter concerns)
    (quietLeft : ∀ state, ∀ label ∈ first, concerns label = false →
      view (left state label) = view state)
    (quietRight : ∀ state, ∀ label ∈ second, concerns label = false →
      view (right state label) = view state)
    (alike : ∀ one two, ∀ label ∈ first, concerns label = true → view one = view two →
      view (left one label) = view (right two label))
    {one two : State} (start : view one = view two) :
    view (first.foldl left one) = view (second.foldl right two) := by
  have alikeRight (one two : State) (label : Label) (listed : label ∈ second)
      (concerned : concerns label = true) (start : view one = view two) :
      view (right one label) = view (right two label) := by
    have shared : label ∈ first.filter concerns := same ▸ List.mem_filter.mpr ⟨listed, concerned⟩
    have member := (List.mem_filter.mp shared).1
    exact (alike one one label member concerned rfl).symm.trans
      (alike one two label member concerned start)
  rw [foldl_filter_alike quietLeft alike start, same,
    ← foldl_filter_alike quietRight alikeRight (rfl : view two = view two)]

end Restrict

/-- A fold of attempts that succeed wherever an invariant holds. -/
theorem foldlM_succeeds (Inv : State → Prop) {attempt : State → Label → Option State}
    {step : State → Label → State} {labels : List Label}
    (succeeds : ∀ state, ∀ label ∈ labels, Inv state → attempt state label = some (step state label))
    (preserved : ∀ state, ∀ label ∈ labels, Inv state → Inv (step state label))
    {state : State} (initial : Inv state) :
    labels.foldlM attempt state = some (labels.foldl step state) ∧ Inv (labels.foldl step state) := by
  induction labels generalizing state with
  | nil => exact ⟨rfl, initial⟩
  | cons label rest ih =>
    rw [List.foldlM_cons, succeeds state label (by simp) initial]
    exact ih (fun state other listed => succeeds state other (by simp [listed]))
      (fun state other listed => preserved state other (by simp [listed]))
      (preserved state label (by simp) initial)

/-- Every step of the fold meets a condition in the state before it. -/
def meetsThroughout (step : State → Label → State) (meets : State → Label → Bool) :
    State → List Label → Bool
  | _, [] => true
  | state, label :: rest =>
    meets state label && meetsThroughout step meets (step state label) rest

theorem meetsThroughout_cons (step : State → Label → State) (meets : State → Label → Bool)
    (state : State) (label : Label) (rest : List Label) :
    meetsThroughout step meets state (label :: rest) =
      (meets state label && meetsThroughout step meets (step state label) rest) :=
  rfl

theorem meetsThroughout_and {step : State → Label → State} {meets also : State → Label → Bool}
    {state : State} {labels : List Label} (met : meetsThroughout step meets state labels = true)
    (alsoMet : meetsThroughout step also state labels = true) :
    meetsThroughout step (fun state label => meets state label && also state label) state labels =
      true := by
  induction labels generalizing state with
  | nil => rfl
  | cons label rest ih =>
    obtain ⟨first, later⟩ := Bool.and_eq_true_iff.mp met
    obtain ⟨alsoFirst, alsoLater⟩ := Bool.and_eq_true_iff.mp alsoMet
    simp only [meetsThroughout_cons, first, alsoFirst, ih later alsoLater, Bool.and_self]

theorem meetsThroughout_append {step : State → Label → State} {meets : State → Label → Bool}
    {state : State} {first second : List Label} :
    meetsThroughout step meets state (first ++ second) =
      (meetsThroughout step meets state first &&
        meetsThroughout step meets (first.foldl step state) second) := by
  induction first generalizing state with
  | nil => rfl
  | cons label rest ih => simp only [List.cons_append, meetsThroughout_cons, ih,
      Bool.and_assoc, List.foldl_cons]

/-- The condition holds at each step in the state that the steps before it lead to. -/
theorem meetsThroughout_iff {step : State → Label → State} {meets : State → Label → Bool}
    {state : State} {labels : List Label} :
    meetsThroughout step meets state labels = true ↔
      ∀ earlier label, earlier ++ [label] <+: labels →
        meets (earlier.foldl step state) label = true := by
  induction labels generalizing state with
  | nil =>
    constructor
    · intro _ earlier label reached
      simp at reached
    · intro _
      rfl
  | cons head rest ih =>
    rw [meetsThroughout_cons, Bool.and_eq_true, ih]
    constructor
    · rintro ⟨first, later⟩ earlier label reached
      cases earlier with
      | nil =>
        obtain rfl : label = head := by simpa using reached
        exact first
      | cons other others =>
        obtain ⟨rfl, inside⟩ := List.cons_prefix_cons.mp reached
        exact later others label inside
    · intro all
      refine ⟨all [] head (by simp), ?_⟩
      intro earlier label reached
      exact all (head :: earlier) label (List.cons_prefix_cons.mpr ⟨rfl, reached⟩)

/-- What every step that meets the condition preserves holds in every state reached. -/
theorem meetsThroughout_invariant (Inv : State → Prop) {step : State → Label → State}
    {meets : State → Label → Bool} {state : State} {labels : List Label}
    (preserved : ∀ state label, meets state label = true → Inv state → Inv (step state label))
    (initial : Inv state) (met : meetsThroughout step meets state labels = true) :
    ∀ before, before <+: labels → Inv (before.foldl step state) := by
  induction labels generalizing state with
  | nil =>
    intro before reached
    rwa [List.prefix_nil.mp reached]
  | cons label rest ih =>
    obtain ⟨first, later⟩ := Bool.and_eq_true_iff.mp met
    intro before reached
    rcases List.prefix_cons_iff.mp reached with rfl | ⟨others, rfl, included⟩
    · exact initial
    · exact ih (preserved state label first initial) later others included

end Simetro.Library
