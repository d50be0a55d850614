import Mathlib.Data.Nat.Basic

/-! Half-open windows of time, and a tracker that looks at a window at consecutive
moments and notes when it entered and left. -/

namespace Simetro.Library

structure Window where
  start : Nat
  stop : Nat

structure WindowTracker where
  inside : Bool
  entries : List Nat
  exits : List Nat
  deriving DecidableEq

namespace Window

variable (window : Window)

def covers (now : Nat) : Bool := window.start ≤ now && now < window.stop

@[simp] theorem covers_iff {now : Nat} :
    window.covers now = true ↔ window.start ≤ now ∧ now < window.stop := by
  simp [covers]

/-- Leave a window that is past. -/
def leave (now : Nat) (tracker : WindowTracker) : WindowTracker :=
  if tracker.inside && window.stop ≤ now then
    { tracker with inside := false, exits := tracker.exits ++ [now] }
  else tracker

/-- Enter a window that is open. -/
def enter (now : Nat) (tracker : WindowTracker) : WindowTracker :=
  if window.covers now && !tracker.inside then
    { tracker with inside := true, entries := tracker.entries ++ [now] }
  else tracker

def visit (now : Nat) (tracker : WindowTracker) : WindowTracker :=
  window.enter now (window.leave now tracker)

/-- Everybody is inside an open window. -/
theorem visit_open {now : Nat} (opened : window.covers now = true) (tracker : WindowTracker) :
    (window.visit now tracker).inside = true := by
  unfold visit enter
  rw [opened, Bool.true_and]
  split
  · rfl
  · simpa using ‹¬ (!(window.leave now tracker).inside) = true›

/-- Nobody is inside a past window. -/
theorem visit_past {now : Nat} (past : window.stop ≤ now) (tracker : WindowTracker) :
    (window.visit now tracker).inside = false := by
  have shut : window.covers now = false := by
    simp only [covers, Bool.and_eq_false_iff, decide_eq_false_iff_not]
    omega
  simp only [visit, enter, shut, Bool.false_and, Bool.false_eq_true, if_false, leave, past,
    decide_true, Bool.and_true]
  split
  · rfl
  · simpa using ‹¬ tracker.inside = true›

/-- The first moment from 1 on that can lie in the window. -/
def opening : Nat := max window.start 1

/-- Some moment from 1 on lies in the window. -/
def Seen : Prop := window.opening < window.stop

instance : Decidable window.Seen := inferInstanceAs (Decidable (_ < _))

/-- What a tracker visited at the moments 1 to `count` has noted. -/
def seenBy (count : Nat) : WindowTracker where
  inside := 0 < count && window.covers count
  entries := if window.Seen ∧ window.opening ≤ count then [window.opening] else []
  exits := if window.Seen ∧ window.stop ≤ count then [window.stop] else []

theorem seenBy_zero : window.seenBy 0 = ⟨false, [], []⟩ := by
  have never : ¬ (window.Seen ∧ window.opening ≤ 0) := by
    unfold opening
    omega
  have nowhere : ¬ (window.Seen ∧ window.stop ≤ 0) := by
    unfold Seen
    omega
  rw [seenBy, if_neg never, if_neg nowhere]
  rfl

/-- A tracker in its window leaves it when the window ends. -/
private theorem leave_seenBy (count : Nat) : window.leave (count + 1) (window.seenBy count) =
    ⟨(window.seenBy count).inside && window.covers (count + 1),
      (window.seenBy count).entries, (window.seenBy (count + 1)).exits⟩ := by
  by_cases within : 0 < count ∧ window.start ≤ count ∧ count < window.stop
  · have inside : (window.seenBy count).inside = true := by
      simpa [seenBy] using within
    have seen : window.Seen := by
      unfold Seen opening
      omega
    have before : ¬ (window.Seen ∧ window.stop ≤ count) := by omega
    by_cases past : window.stop ≤ count + 1
    · have same : window.stop = count + 1 := by omega
      have closed : window.covers (count + 1) = false := by simp [covers, same]
      rw [leave, inside, closed]
      simp [seenBy, seen, same]
    · have still : window.covers (count + 1) = true := by
        rw [covers_iff]
        omega
      have exits : (window.seenBy (count + 1)).exits = (window.seenBy count).exits := by
        simp [seenBy, before, past]
      rw [exits, still, Bool.and_true]
      simp [leave, past]
  · have outside : (window.seenBy count).inside = false := by
      simpa [seenBy, covers] using within
    have same : (window.Seen ∧ window.stop ≤ count + 1) ↔ (window.Seen ∧ window.stop ≤ count) := by
      unfold Seen opening
      omega
    have exits : (window.seenBy (count + 1)).exits = (window.seenBy count).exits := by
      simp [seenBy, same]
    have kept : window.leave (count + 1) (window.seenBy count) = window.seenBy count := by
      simp [leave, outside]
    rw [kept, exits, outside, Bool.false_and, ← outside]

theorem seenBy_succ (count : Nat) :
    window.seenBy (count + 1) = window.visit (count + 1) (window.seenBy count) := by
  rw [visit, leave_seenBy]
  cases covered : window.covers (count + 1) with
  | false =>
    have same : (window.Seen ∧ window.opening ≤ count + 1) ↔
        (window.Seen ∧ window.opening ≤ count) := by
      simp only [covers, Bool.and_eq_false_iff, decide_eq_false_iff_not] at covered
      unfold Seen opening
      omega
    simp [enter, seenBy, covered, same]
  | true =>
    have open' := window.covers_iff.mp covered
    have seen : window.Seen := by
      unfold Seen opening
      omega
    cases inside : (window.seenBy count).inside with
    | false =>
      have first : window.opening = count + 1 := by
        simp only [seenBy, covers, Bool.and_eq_false_iff, decide_eq_false_iff_not] at inside
        unfold opening
        omega
      simp [enter, seenBy, covered, seen, first]
    | true =>
      have before : window.opening ≤ count := by
        simp only [seenBy, covers_iff, Bool.and_eq_true, decide_eq_true_eq] at inside
        unfold opening
        omega
      simp [enter, seenBy, covered, seen, before, Nat.le_succ_of_le before]

/-- A second look at the same moment notes nothing new. -/
theorem visit_visit (now : Nat) (tracker : WindowTracker) :
    window.visit now (window.visit now tracker) = window.visit now tracker := by
  by_cases past : window.stop ≤ now
  · have outside := window.visit_past past tracker
    have shut : window.covers now = false := by
      simp only [covers, Bool.and_eq_false_iff, decide_eq_false_iff_not]
      omega
    rw [visit, leave, outside, Bool.false_and, if_neg Bool.false_ne_true, enter, shut,
      Bool.false_and, if_neg Bool.false_ne_true]
  · have stays (tracker : WindowTracker) : window.leave now tracker = tracker := by
      simp [leave, past]
    rw [visit, visit, stays, stays]
    cases covered : window.covers now with
    | false => simp [enter, covered]
    | true => cases inside : tracker.inside <;> simp [enter, covered, inside]

section Progress

variable {window} {now later : Nat} (step : later = now ∨ later = now + 1)
include step

/-- The first moment inside is the entry. -/
theorem seenBy_entered (before : (window.seenBy now).entries = []) :
    (window.seenBy later).entries = if (window.seenBy later).inside then [later] else [] := by
  have unseen : ¬ (window.Seen ∧ window.opening ≤ now) := by
    simpa [seenBy] using before
  have inside : (window.seenBy later).inside = true ↔ window.Seen ∧ window.opening = later := by
    simp only [seenBy, Bool.and_eq_true, decide_eq_true_eq, covers_iff]
    unfold Seen opening at *
    omega
  have entered : (window.Seen ∧ window.opening ≤ later) ↔ window.Seen ∧ window.opening = later := by
    unfold Seen opening at *
    omega
  by_cases first : window.Seen ∧ window.opening = later
  · rw [if_pos (inside.mpr first), seenBy, if_pos (entered.mpr first), first.2]
  · rw [if_neg (mt inside.mp first), seenBy, if_neg (mt entered.mp first)]

/-- There is one entry. -/
theorem seenBy_entries_kept (before : (window.seenBy now).entries ≠ []) :
    (window.seenBy later).entries = (window.seenBy now).entries := by
  have seen : window.Seen ∧ window.opening ≤ now := by
    by_contra unseen
    exact before (by rw [seenBy, if_neg unseen])
  have still : window.Seen ∧ window.opening ≤ later := ⟨seen.1, by omega⟩
  rw [seenBy, seenBy, if_pos seen, if_pos still]

/-- The first moment outside after the entry is the exit. -/
theorem seenBy_left (entered : (window.seenBy now).entries ≠ [])
    (before : (window.seenBy now).exits = []) :
    (window.seenBy later).exits = if (window.seenBy later).inside then [] else [later] := by
  have seen : window.Seen ∧ window.opening ≤ now := by
    by_contra unseen
    exact entered (by rw [seenBy, if_neg unseen])
  have running : ¬ (window.Seen ∧ window.stop ≤ now) := by
    simpa [seenBy] using before
  have inside : (window.seenBy later).inside = true ↔ ¬ (window.Seen ∧ window.stop ≤ later) := by
    simp only [seenBy, Bool.and_eq_true, decide_eq_true_eq, covers_iff]
    unfold Seen opening at *
    omega
  by_cases still : (window.seenBy later).inside = true
  · rw [if_pos still, seenBy, if_neg (inside.mp still)]
  · have past := not_not.mp (mt inside.mpr still)
    have early : ¬ window.stop ≤ now := fun early => running ⟨seen.1, early⟩
    have same : window.stop = later := by omega
    rw [if_neg still, seenBy, if_pos past, same]

theorem seenBy_exits_kept (before : (window.seenBy now).exits ≠ []) :
    (window.seenBy later).exits = (window.seenBy now).exits := by
  have past : window.Seen ∧ window.stop ≤ now := by
    by_contra running
    exact before (by rw [seenBy, if_neg running])
  have still : window.Seen ∧ window.stop ≤ later := ⟨past.1, by omega⟩
  rw [seenBy, seenBy, if_pos past, if_pos still]

/-- Nobody leaves on the moment of the entry. -/
theorem seenBy_not_left (before : (window.seenBy now).entries = []) :
    (window.seenBy later).exits = [] := by
  have unseen : ¬ (window.Seen ∧ window.opening ≤ now) := by
    simpa [seenBy] using before
  have running : ¬ (window.Seen ∧ window.stop ≤ later) := by
    unfold Seen at *
    omega
  rw [seenBy, if_neg running]

end Progress

end Window

end Simetro.Library
