import Mathlib.Data.List.Basic

/-! A waiting line served at most once a turn: items join at the back, overdue ones leave from
the front, and then the front is served where service is open. -/

namespace Simetro.Library

variable {Item : Type}

/-- One turn of the line: when it is, who joins, and whether service is open. -/
structure LineTurn (Item : Type) where
  now : Nat
  joining : List Item
  isOpen : Bool

namespace LineTurn

variable (due : Item → Nat) (turn : LineTurn Item) (line : List Item)

/-- Who waits once the overdue items have left. -/
def waiting : List Item := (line ++ turn.joining).dropWhile fun item => due item < turn.now

/-- Who is served: the front, if anyone. -/
def served : List Item := if turn.isOpen then (turn.waiting due line).take 1 else []

/-- Who waits after the turn. -/
def left : List Item := if turn.isOpen then (turn.waiting due line).tail else turn.waiting due line

variable {due} {turn} {line}

theorem served_append_left : turn.served due line ++ turn.left due line = turn.waiting due line := by
  unfold served left
  split
  · cases turn.waiting due line <;> rfl
  · rfl

/-- Whoever is served was the front and is not overdue. -/
theorem served_spec {item : Item} (member : item ∈ turn.served due line) :
    turn.isOpen = true ∧ turn.served due line = [item] ∧
      turn.waiting due line = item :: turn.left due line ∧ turn.now ≤ due item := by
  unfold served left at *
  split at member
  · rename_i service
    cases shape : turn.waiting due line with
    | nil =>
      rw [shape] at member
      cases member
    | cons front rest =>
      rw [shape] at member
      obtain rfl : item = front := by simpa using member
      refine ⟨service, by simp [service], by simp [service], ?_⟩
      have kept := List.head?_dropWhile_not (fun item => decide (due item < turn.now))
        (line ++ turn.joining)
      rw [show (line ++ turn.joining).dropWhile _ = turn.waiting due line from rfl, shape] at kept
      simpa using kept
  · cases member

/-- A front that is not overdue keeps everyone in the line. -/
theorem waiting_of_front {front : Item} {rest : List Item} (shape : line = front :: rest)
    (patient : turn.now ≤ due front) : turn.waiting due line = line ++ turn.joining := by
  subst shape
  rw [waiting, List.cons_append, List.dropWhile_cons_of_neg]
  simpa using patient

end LineTurn

section Bound

variable {due : Item → Nat} {turns : Nat → LineTurn Item} {lines : Nat → List Item}

/-- First in, first out with a bound: while service is open and nobody up to a position is
overdue, each turn serves the next one up to that position. -/
theorem served_in_turn (steps : ∀ turn, lines (turn + 1) = (turns turn).left due (lines turn))
    {start : Nat} {front behind : List Item}
    (placed : (turns start).waiting due (lines start) = front ++ behind)
    (service : ∀ offset < front.length, (turns (start + offset)).isOpen = true)
    (patient : ∀ offset < front.length, ∀ item ∈ front, (turns (start + offset)).now ≤ due item) :
    ∀ offset, (small : offset < front.length) →
      (turns (start + offset)).served due (lines (start + offset)) = [front[offset]] := by
  -- where the line stands at each of these turns
  have stands (offset : Nat) (small : offset < front.length) :
      ∃ later, (turns (start + offset)).waiting due (lines (start + offset)) =
        front.drop offset ++ later := by
    induction offset with
    | zero => exact ⟨behind, placed⟩
    | succ offset ih =>
      obtain ⟨later, before⟩ := ih (Nat.lt_of_succ_lt small)
      have first := List.drop_eq_getElem_cons (Nat.lt_of_succ_lt small)
      have next := List.drop_eq_getElem_cons small
      have moved : lines (start + (offset + 1)) = front.drop (offset + 1) ++ later := by
        rw [← Nat.add_assoc, steps, LineTurn.left, if_pos (service offset (Nat.lt_of_succ_lt small)),
          before, first]
        rfl
      refine ⟨later ++ (turns (start + (offset + 1))).joining, ?_⟩
      rw [LineTurn.waiting_of_front (moved.trans (congrArg (· ++ later) next))
        (patient (offset + 1) small _ (List.getElem_mem small)), moved, List.append_assoc]
  intro offset small
  obtain ⟨later, stand⟩ := stands offset small
  rw [LineTurn.served, if_pos (service offset small), stand, List.drop_eq_getElem_cons small]
  rfl

end Bound

end Simetro.Library
