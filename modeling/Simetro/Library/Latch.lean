import Mathlib.Order.Basic

/-! A latch: an event sets it and reports itself, and it is released at the end of a turn
that leaves the level low. -/

namespace Simetro.Library

/-- A latch turn by turn, with the turns whose event raises it and the level after each. -/
structure Latch where
  isSet : Nat → Bool
  raises : Nat → Bool
  high : Nat → Bool
  start : isSet 0 = false
  step : ∀ turn, isSet (turn + 1) = ((isSet turn || raises turn) && high (turn + 1))

namespace Latch

variable (latch : Latch) {turn later : Nat}

/-- Only the event that sets the latch is reported. -/
def reports (turn : Nat) : Bool := latch.raises turn && !latch.isSet turn

variable {latch}

theorem high_of_isSet (marked : latch.isSet turn = true) : 0 < turn ∧ latch.high turn = true := by
  cases turn with
  | zero =>
    rw [latch.start] at marked
    cases marked
  | succ turn =>
    rw [latch.step] at marked
    exact ⟨Nat.succ_pos turn, (Bool.and_eq_true_iff.mp marked).2⟩

/-- A latch is set since a report, and the level stayed high since. -/
theorem reported_of_isSet (marked : latch.isSet turn = true) :
    ∃ report < turn, latch.reports report = true ∧
      ∀ between, report < between → between ≤ turn → latch.high between = true := by
  induction turn with
  | zero =>
    rw [latch.start] at marked
    cases marked
  | succ turn ih =>
    have level := (high_of_isSet marked).2
    rw [latch.step] at marked
    obtain ⟨cause, -⟩ := Bool.and_eq_true_iff.mp marked
    by_cases before : latch.isSet turn = true
    · obtain ⟨report, earlier, reported, held⟩ := ih before
      refine ⟨report, Nat.lt_succ_of_lt earlier, reported, ?_⟩
      intro between after within
      rcases Nat.lt_or_eq_of_le within with inside | rfl
      · exact held between after (Nat.le_of_lt_succ inside)
      · exact level
    · have raised : latch.raises turn = true := by simpa [before] using cause
      refine ⟨turn, Nat.lt_succ_self turn, by simp [reports, raised, before], ?_⟩
      intro between after within
      obtain rfl : between = turn + 1 := Nat.le_antisymm within after
      exact level

/-- No event goes by without a report since the level was last low. -/
theorem reported_of_raises (raised : latch.raises turn = true) :
    ∃ report ≤ turn, latch.reports report = true ∧
      ∀ between, report < between → between ≤ turn → latch.high between = true := by
  by_cases before : latch.isSet turn = true
  · obtain ⟨report, earlier, rest⟩ := reported_of_isSet before
    exact ⟨report, Nat.le_of_lt earlier, rest⟩
  · refine ⟨turn, Nat.le_refl turn, by simp [reports, raised, before], ?_⟩
    intro between after within
    omega

/-- The latch stays set while the level stays high. -/
theorem isSet_of_high (reported : latch.reports turn = true) (after : turn < later)
    (held : ∀ between, turn < between → between ≤ later → latch.high between = true) :
    latch.isSet later = true := by
  induction later with
  | zero => cases after
  | succ later ih =>
    have level := held (later + 1) after (Nat.le_refl _)
    rw [latch.step, level, Bool.and_true, Bool.or_eq_true]
    rcases Nat.lt_or_eq_of_le (Nat.le_of_lt_succ after) with inside | rfl
    · exact .inl (ih inside fun between beyond within => held between beyond (Nat.le_succ_of_le within))
    · exact .inr (Bool.and_eq_true_iff.mp reported).1

/-- Between two reports the level was low. -/
theorem low_between_reports (first : latch.reports turn = true) (second : latch.reports later = true)
    (after : turn < later) :
    ∃ between, turn < between ∧ between ≤ later ∧ latch.high between = false := by
  by_contra never
  have held (between : Nat) (beyond : turn < between) (within : between ≤ later) :
      latch.high between = true := by
    by_contra low
    exact never ⟨between, beyond, within, by simpa using low⟩
  have still := isSet_of_high first after held
  simp [reports, still] at second

end Latch

end Simetro.Library
