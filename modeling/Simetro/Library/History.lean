import Mathlib.Data.List.Chain
import Mathlib.Data.List.Find

/-! Histories: lists of results with the latest one at the end, how a run of results ends,
when something held first, and where a value changed. -/

namespace Simetro.Library.History

universe u

variable {Value : Type u}

section Streak

/-- How many positive results the history ends with. -/
def streak (history : List Bool) : Nat := (history.reverse.takeWhile id).length

theorem streak_snoc (history : List Bool) (result : Bool) :
    streak (history ++ [result]) = if result then streak history + 1 else 0 := by
  unfold streak
  rw [List.reverse_append, List.reverse_singleton, List.singleton_append]
  cases result with
  | true => rw [List.takeWhile_cons_of_pos rfl, List.length_cons, if_pos rfl]
  | false => rw [List.takeWhile_cons_of_neg Bool.false_ne_true, if_neg Bool.false_ne_true, List.length_nil]

end Streak

section First

/-- The length of the first part of the history, not empty, that passes the test. -/
def firstAt (test : List Value → Bool) (history : List Value) : Option Nat :=
  ((List.range history.length).map Nat.succ).find? fun length => test (history.take length)

variable (test : List Value → Bool)

theorem firstAt_snoc (history : List Value) (value : Value) :
    firstAt test (history ++ [value]) = (firstAt test history).or
      (if test (history ++ [value]) then some (history.length + 1) else none) := by
  unfold firstAt
  rw [List.length_append, List.length_singleton, List.range_succ, List.map_append, List.find?_append]
  congr 1
  · apply List.find?_congr
    intro length listed
    obtain ⟨index, within, rfl⟩ := List.mem_map.mp listed
    rw [List.take_append_of_le_length (Nat.succ_le_of_lt (List.mem_range.mp within))]
  · rw [List.map_singleton, List.find?_singleton, List.take_of_length_le (by simp)]

/-- What has not passed yet does not pass now. -/
theorem not_of_firstAt_none {history : List Value} (never : firstAt test history = none)
    (some' : history ≠ []) : test history = false := by
  have last := List.find?_eq_none.mp never history.length ?_
  · rw [List.take_length] at last
    exact eq_false_of_ne_true last
  · obtain ⟨length, same⟩ := Nat.exists_eq_succ_of_ne_zero
      (fun empty => some' (List.eq_nil_of_length_eq_zero empty))
    rw [same]
    exact List.mem_map.mpr ⟨length, List.mem_range.mpr (Nat.lt_succ_self _), rfl⟩

end First

section Ticks

/-- The first tick from 1 to `count` that passes the test. -/
def firstTick (test : Nat → Bool) (count : Nat) : Option Nat :=
  ((List.range count).map Nat.succ).find? test

theorem firstTick_succ (test : Nat → Bool) (count : Nat) : firstTick test (count + 1) =
    (firstTick test count).or (if test (count + 1) then some (count + 1) else none) := by
  rw [firstTick, List.range_succ, List.map_append, List.find?_append, List.map_singleton,
    List.find?_singleton]
  rfl

end Ticks

section Changes

variable [DecidableEq Value]

/-- The changes from a value on: their positions, counted from `position`, and both values. -/
def changesFrom (position : Nat) (start : Value) : List Value → List (Nat × Value × Value)
  | [] => []
  | value :: rest =>
    if start = value then changesFrom (position + 1) value rest
    else (position, start, value) :: changesFrom (position + 1) value rest

/-- The changes of a history that began with `start`; its first entry has position 1. -/
def changes (start : Value) (history : List Value) : List (Nat × Value × Value) :=
  changesFrom 1 start history

theorem changesFrom_snoc (position : Nat) (start : Value) (history : List Value) (value : Value) :
    changesFrom position start (history ++ [value]) = changesFrom position start history ++
      if history.getLastD start = value then []
      else [(position + history.length, history.getLastD start, value)] := by
  induction history generalizing position start with
  | nil =>
    by_cases same : start = value
    · simp [changesFrom, same]
    · simp [changesFrom, same]
  | cons head rest ih =>
    have last : (head :: rest).getLastD start = rest.getLastD head := by
      cases rest <;> rfl
    have place : position + (rest.length + 1) = position + 1 + rest.length := by
      rw [Nat.add_assoc, Nat.add_comm 1]
    rw [List.cons_append, last, List.length_cons, place]
    unfold changesFrom
    split
    · exact ih (position + 1) head
    · rw [ih (position + 1) head, List.cons_append]

theorem changes_snoc (start : Value) (history : List Value) (value : Value) :
    changes start (history ++ [value]) = changes start history ++
      if history.getLastD start = value then []
      else [(history.length + 1, history.getLastD start, value)] := by
  unfold changes
  rw [changesFrom_snoc, Nat.add_comm 1]

/-- Every change starts where the one before it ended. -/
theorem changes_isChain (start : Value) (history : List Value) :
    (changes start history).IsChain fun first second => first.2.2 = second.2.1 := by
  suffices linked : ∀ head : Nat × Value × Value, ∀ position start, head.2.2 = start →
      (head :: changesFrom position start history).IsChain
        fun first second => first.2.2 = second.2.1 from
    (linked (0, start, start) 1 start rfl).tail
  induction history with
  | nil => exact fun _ _ _ _ => .singleton _
  | cons value rest ih =>
    intro head position start meets
    unfold changesFrom
    split
    · rename_i same
      exact ih head _ _ (meets.trans same)
    · exact .cons_cons meets (ih _ _ _ rfl)

end Changes

section Alternation

/-- Up and down by turns; `next` comes first. -/
def alternates : Bool → List Bool → Bool
  | _, [] => true
  | next, value :: rest => value == next && alternates (!next) rest

theorem alternates_snoc (next : Bool) (values : List Bool) (value : Bool) :
    alternates next (values ++ [value]) =
      (alternates next values && value != values.getLastD (!next)) := by
  induction values generalizing next with
  | nil => cases next <;> cases value <;> rfl
  | cons head rest ih =>
    have last : (head :: rest).getLastD (!next) = rest.getLastD head := by
      cases rest <;> rfl
    rw [List.cons_append, alternates, ih, alternates, Bool.and_assoc, last]
    cases head <;> cases next <;> simp

end Alternation

end Simetro.Library.History
