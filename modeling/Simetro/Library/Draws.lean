import Simetro.Library.Tally

/-! What each of a sequence of draws takes from a keyed stock, and when all of them are
served in full. -/

namespace Simetro.Library

universe u

variable {Key : Type u} [DecidableEq Key] {cmp : Key → Key → Ordering} [Std.TransCmp cmp]
  [Std.LawfulEqCmp cmp]

/-- What each draw takes: its amount, or what is left where that is less. -/
def drawn (map : Std.ExtTreeMap Key Nat cmp) : List (Key × Nat) → List Nat
  | [] => []
  | row :: rest =>
    (map.getD row.1 0 - (drain map [row]).getD row.1 0) :: drawn (drain map [row]) rest

theorem drain_one_getD (map : Std.ExtTreeMap Key Nat cmp) (row : Key × Nat) (key : Key) :
    (drain map [row]).getD key 0 = map.getD key 0 - if row.1 = key then row.2 else 0 := by
  rw [drain_getD, tally_cons, tally_nil, Nat.add_zero]

/-- Every draw gets its full amount exactly where no key is overdrawn. -/
theorem drawn_full_iff (map : Std.ExtTreeMap Key Nat cmp) (rows : List (Key × Nat)) :
    drawn map rows = rows.map (·.2) ↔ ∀ key, tally rows key ≤ map.getD key 0 := by
  induction rows generalizing map with
  | nil => simp [drawn]
  | cons row rest ih =>
    rw [drawn, List.map_cons, List.cons.injEq, ih]
    constructor
    · rintro ⟨first, others⟩ key
      have later := others key
      rw [drain_one_getD] at first later
      rw [tally_cons]
      by_cases same : row.1 = key
      · subst same
        simp only [if_true] at *
        omega
      · simp only [if_neg same] at *
        omega
    · intro covered
      constructor
      · have here := covered row.1
        rw [tally_cons, if_pos rfl] at here
        rw [drain_one_getD, if_pos rfl]
        omega
      · intro key
        have here := covered key
        rw [tally_cons] at here
        rw [drain_one_getD]
        omega

/-- Deposits on an entry within the limit add up, stopped at the limit. -/
theorem deposit_getD_min (map : Std.ExtTreeMap Key Nat cmp) (rows : List (Key × Nat)) (key : Key)
    (within : map.getD key 0 ≤ limit) :
    (deposit limit map rows).getD key 0 = min (map.getD key 0 + tally rows key) limit := by
  induction rows generalizing map with
  | nil =>
    rw [tally_nil]
    exact (Nat.min_eq_left within).symm
  | cons row rest ih =>
    rw [deposit, List.foldl_cons, ← deposit, tally_cons]
    by_cases same : row.1 = key
    · subst same
      have clamped : saturatingAdd limit (map.getD row.1 0) row.2 ≤ limit := Nat.min_le_right _ _
      rw [ih _ (by simpa [insert_getD] using clamped), insert_getD, if_pos rfl, if_pos rfl]
      unfold saturatingAdd
      omega
    · rw [ih _ (by simpa [insert_getD, same] using within), insert_getD, if_neg same, if_neg same,
        Nat.zero_add]

end Simetro.Library
