import Std.Data.ExtTreeMap.Lemmas
import Mathlib.Algebra.BigOperators.Group.List.Basic
import Mathlib.Algebra.GroupWithZero.Nat
import Simetro.Library.Fold
import Simetro.Library.Saturating

/-! Keyed amounts: the total a list of `(key, amount)` rows books on a key, and
the ordered maps such rows are booked into. -/

namespace Simetro.Library

universe u v

variable {Key : Type u} [DecidableEq Key]

/-- Total amount the rows book on `key`. -/
def tally (rows : List (Key × Nat)) (key : Key) : Nat :=
  (rows.map fun row => if row.1 = key then row.2 else 0).sum

@[simp] theorem tally_nil (key : Key) : tally [] key = 0 := rfl

@[simp] theorem tally_cons (row : Key × Nat) (rows : List (Key × Nat)) (key : Key) :
    tally (row :: rows) key = (if row.1 = key then row.2 else 0) + tally rows key := by
  simp [tally]

theorem tally_eq_zero {rows : List (Key × Nat)} {key : Key}
    (absent : ∀ row ∈ rows, row.1 ≠ key) : tally rows key = 0 := by
  induction rows with
  | nil => rfl
  | cons row rest ih =>
    simp [absent row (by simp), ih fun other member => absent other (by simp [member])]

/-- With distinct keys a tally is one row's amount. -/
theorem tally_of_mem {rows : List (Key × Nat)} {row : Key × Nat}
    (distinct : (rows.map Prod.fst).Nodup) (member : row ∈ rows) :
    tally rows row.1 = row.2 := by
  induction rows with
  | nil => simp at member
  | cons head rest ih =>
    simp only [List.map_cons, List.nodup_cons] at distinct
    rw [tally_cons]
    rcases List.mem_cons.mp member with same | later
    · subst row
      have missing : tally rest head.1 = 0 := tally_eq_zero fun other present equal =>
        distinct.1 (equal ▸ List.mem_map_of_mem present)
      simp [missing]
    · have different : head.1 ≠ row.1 := fun equal =>
        distinct.1 (equal ▸ List.mem_map_of_mem later)
      simp [different, ih distinct.2 later]

theorem tally_mem {rows : List (Key × Nat)} {key : Key}
    (distinct : (rows.map Prod.fst).Nodup) :
    tally rows key = 0 ∨ (key, tally rows key) ∈ rows := by
  by_cases found : ∃ row ∈ rows, row.1 = key
  · obtain ⟨row, member, rfl⟩ := found
    rw [tally_of_mem distinct member]
    exact .inr member
  · exact .inl (tally_eq_zero fun row member same => found ⟨row, member, same⟩)

omit [DecidableEq Key] in
/-- An amount that every step raises by its gain, up to a cap, ends at the capped total. -/
theorem foldl_capped {State : Type v} {cap : Nat} (amount : State → Nat) (gain : Key → Nat)
    {step : State → Key → State} (raises : ∀ state entry, amount state ≤ cap →
      amount (step state entry) = min cap (amount state + gain entry))
    (entries : List Key) {state : State} (capped : amount state ≤ cap) :
    amount (entries.foldl step state) = min cap (amount state + (entries.map gain).sum) := by
  induction entries generalizing state with
  | nil =>
    simp only [List.foldl_nil, List.map_nil, List.sum_nil]
    omega
  | cons entry rest ih =>
    have next := raises state entry capped
    rw [List.foldl_cons, ih (next ▸ Nat.min_le_left _ _), next, List.map_cons, List.sum_cons]
    omega

section Maps

variable {cmp : Key → Key → Ordering} [Std.TransCmp cmp] [Std.LawfulEqCmp cmp]

/-- Insertion into an ordered map, with propositional equality of keys. -/
theorem insert_getD {Value : Type v} (map : Std.ExtTreeMap Key Value cmp) (inserted key : Key)
    (value fallback : Value) : (map.insert inserted value).getD key fallback =
      if inserted = key then value else map.getD key fallback := by
  simp [Std.ExtTreeMap.getD_insert]

omit [DecidableEq Key] in
/-- The rows of an ordered map have distinct keys. -/
theorem nodup_keys_toList (map : Std.ExtTreeMap Key Nat cmp) :
    (map.toList.map Prod.fst).Nodup := by
  rw [List.Nodup, List.pairwise_map]
  exact Std.ExtTreeMap.distinct_keys_toList.imp fun apart same =>
    apart (by simp [same])

theorem tally_toList (map : Std.ExtTreeMap Key Nat cmp) (key : Key) :
    tally map.toList key = map.getD key 0 := by
  rw [Std.ExtTreeMap.getD_eq_getD_getElem?]
  cases found : map[key]? with
  | some amount =>
    have member := Std.ExtTreeMap.mem_toList_iff_getElem?_eq_some.mpr found
    exact tally_of_mem (nodup_keys_toList map) member
  | none =>
    apply tally_eq_zero
    intro row member same
    have present := Std.ExtTreeMap.mem_toList_iff_getElem?_eq_some.mp
      (show (row.1, row.2) ∈ map.toList from member)
    rw [same, found] at present
    cases present

/-- Booking rows by saturating addition, one map entry at a time. -/
def deposit (limit : Nat) (map : Std.ExtTreeMap Key Nat cmp) (rows : List (Key × Nat)) :
    Std.ExtTreeMap Key Nat cmp :=
  rows.foldl (fun map row => map.insert row.1 (saturatingAdd limit (map.getD row.1 0) row.2)) map

/-- Drawing rows by saturating subtraction, one map entry at a time. -/
def withdraw (map : Std.ExtTreeMap Key Nat cmp) (rows : List (Key × Nat)) :
    Std.ExtTreeMap Key Nat cmp :=
  rows.foldl (fun map row => map.insert row.1 (map.getD row.1 0 - row.2)) map

theorem withdraw_getD (map : Std.ExtTreeMap Key Nat cmp) (rows : List (Key × Nat)) (key : Key) :
    (withdraw map rows).getD key 0 = map.getD key 0 - tally rows key := by
  induction rows generalizing map with
  | nil => simp [withdraw]
  | cons row rest ih =>
    rw [withdraw, List.foldl_cons, ← withdraw, ih, insert_getD, tally_cons]
    by_cases same : row.1 = key
    · subst same
      simp only [if_true]
      omega
    · simp [same]

theorem deposit_getD_le (limit : Nat) (map : Std.ExtTreeMap Key Nat cmp)
    (rows : List (Key × Nat)) (key : Key) :
    (deposit limit map rows).getD key 0 ≤ map.getD key 0 + tally rows key := by
  induction rows generalizing map with
  | nil => simp [deposit]
  | cons row rest ih =>
    rw [deposit, List.foldl_cons, ← deposit, tally_cons]
    refine Nat.le_trans (ih _) ?_
    rw [insert_getD]
    by_cases same : row.1 = key
    · subst same
      have clamp := saturatingAdd_le_add limit (map.getD row.1 0) row.2
      simp only [if_true]
      omega
    · simp [same]

/-- A deposit is exact as long as the booked totals stay within the limit. -/
theorem deposit_getD (map : Std.ExtTreeMap Key Nat cmp) (rows : List (Key × Nat)) (key : Key)
    (fits : map.getD key 0 + tally rows key ≤ limit) :
    (deposit limit map rows).getD key 0 = map.getD key 0 + tally rows key := by
  induction rows generalizing map with
  | nil => simp [deposit]
  | cons row rest ih =>
    rw [deposit, List.foldl_cons, ← deposit]
    rw [tally_cons] at fits ⊢
    by_cases same : row.1 = key
    · subst same
      simp only [if_true] at fits ⊢
      have unclamped : saturatingAdd limit (map.getD row.1 0) row.2 = map.getD row.1 0 + row.2 :=
        saturatingAdd_of_le (by omega)
      rw [ih _ (by simp only [insert_getD, if_true, unclamped]; omega), insert_getD, unclamped]
      simp only [if_true]
      omega
    · simp only [same, if_false, Nat.zero_add] at fits ⊢
      rw [ih _ (by simpa only [insert_getD, same, if_false] using fits), insert_getD]
      simp [same]

/-- Below its limit, a deposited entry was never clamped. -/
theorem deposit_getD_of_lt (map : Std.ExtTreeMap Key Nat cmp) (rows : List (Key × Nat)) (key : Key)
    (below : (deposit limit map rows).getD key 0 < limit) :
    (deposit limit map rows).getD key 0 = map.getD key 0 + tally rows key := by
  induction rows generalizing map with
  | nil => simp [deposit]
  | cons row rest ih =>
    rw [deposit, List.foldl_cons, ← deposit] at below ⊢
    have later := ih _ below
    rw [later] at below ⊢
    rw [insert_getD] at below ⊢
    rw [tally_cons]
    by_cases same : row.1 = key
    · subst same
      simp only [if_true] at below ⊢
      have unclamped : saturatingAdd limit (map.getD row.1 0) row.2 = map.getD row.1 0 + row.2 :=
        saturatingAdd_of_lt (by omega)
      omega
    · simp [same]

/-- Drawing rows from the entries that exist; absent ones are left alone. -/
def drain (map : Std.ExtTreeMap Key Nat cmp) (rows : List (Key × Nat)) :
    Std.ExtTreeMap Key Nat cmp :=
  rows.foldl (fun map row => map.modify row.1 (· - row.2)) map

/-- Drawing rows from the entries that exist; an entry that reaches zero is removed. -/
def cancel (map : Std.ExtTreeMap Key Nat cmp) (rows : List (Key × Nat)) :
    Std.ExtTreeMap Key Nat cmp :=
  rows.foldl (fun map row => map.alter row.1 fun entry =>
    entry.bind fun held => if held - row.2 = 0 then none else some (held - row.2)) map

theorem drain_getD (map : Std.ExtTreeMap Key Nat cmp) (rows : List (Key × Nat)) (key : Key) :
    (drain map rows).getD key 0 = map.getD key 0 - tally rows key := by
  induction rows generalizing map with
  | nil => simp [drain]
  | cons row rest ih =>
    rw [drain, List.foldl_cons, ← drain, ih, tally_cons, Std.ExtTreeMap.getD_modify,
      Std.ExtTreeMap.getD_eq_getD_getElem?]
    by_cases same : row.1 = key
    · subst same
      cases map[row.1]? <;> simp; omega
    · simp [same]

theorem cancel_getD (map : Std.ExtTreeMap Key Nat cmp) (rows : List (Key × Nat)) (key : Key) :
    (cancel map rows).getD key 0 = map.getD key 0 - tally rows key := by
  induction rows generalizing map with
  | nil => simp [cancel]
  | cons row rest ih =>
    rw [cancel, List.foldl_cons, ← cancel, ih, tally_cons, Std.ExtTreeMap.getD_alter,
      Std.ExtTreeMap.getD_eq_getD_getElem?]
    by_cases same : row.1 = key
    · subst same
      cases map[row.1]? with
      | none => simp
      | some held =>
        by_cases emptied : held - row.2 = 0 <;> simp [emptied] <;> omega
    · simp [same]

section Entry

variable {first second : Std.ExtTreeMap Key Nat cmp} {rows : List (Key × Nat)} {key : Key}

omit [DecidableEq Key] in
/-- What a deposit makes of an entry depends on that entry alone. -/
theorem deposit_getElem?_congr (limit : Nat) (rows : List (Key × Nat)) (same : first[key]? = second[key]?) :
    (deposit limit first rows)[key]? = (deposit limit second rows)[key]? := by
  induction rows generalizing first second with
  | nil => exact same
  | cons row rest ih =>
    refine ih ?_
    rw [Std.ExtTreeMap.getElem?_insert, Std.ExtTreeMap.getElem?_insert,
      Std.ExtTreeMap.getD_eq_getD_getElem?, Std.ExtTreeMap.getD_eq_getD_getElem?]
    split
    · rename_i here
      rw [Std.LawfulEqCmp.compare_eq_iff_eq.mp here, same]
    · exact same

omit [DecidableEq Key] in
theorem deposit_getElem?_of_absent (absent : ∀ row ∈ rows, row.1 ≠ key) :
    (deposit limit first rows)[key]? = first[key]? := by
  refine foldl_keeps (fun map : Std.ExtTreeMap Key Nat cmp => map[key]?) (fun map row booked => ?_) first
  rw [Std.ExtTreeMap.getElem?_insert, if_neg]
  exact fun here => absent row booked (Std.LawfulEqCmp.compare_eq_iff_eq.mp here)

omit [DecidableEq Key] in
/-- What a cancellation makes of an entry depends on that entry alone. -/
theorem cancel_getElem?_congr (rows : List (Key × Nat)) (same : first[key]? = second[key]?) :
    (cancel first rows)[key]? = (cancel second rows)[key]? := by
  induction rows generalizing first second with
  | nil => exact same
  | cons row rest ih =>
    refine ih ?_
    rw [Std.ExtTreeMap.getElem?_alter, Std.ExtTreeMap.getElem?_alter]
    split
    · rename_i here
      rw [Std.LawfulEqCmp.compare_eq_iff_eq.mp here, same]
    · exact same

omit [DecidableEq Key] in
theorem cancel_getElem?_of_absent (absent : ∀ row ∈ rows, row.1 ≠ key) :
    (cancel first rows)[key]? = first[key]? := by
  refine foldl_keeps (fun map : Std.ExtTreeMap Key Nat cmp => map[key]?) (fun map row booked => ?_) first
  rw [Std.ExtTreeMap.getElem?_alter, if_neg]
  exact fun here => absent row booked (Std.LawfulEqCmp.compare_eq_iff_eq.mp here)

end Entry

/-- No entry of the map is zero. -/
def AllPositive (map : Std.ExtTreeMap Key Nat cmp) : Prop :=
  ∀ (key : Key) (held : Nat), map[key]? = some held → 0 < held

namespace AllPositive

variable {map : Std.ExtTreeMap Key Nat cmp} {rows : List (Key × Nat)}

omit [DecidableEq Key] [Std.LawfulEqCmp cmp] in
theorem empty : AllPositive (∅ : Std.ExtTreeMap Key Nat cmp) := by
  intro key held found
  simp at found

omit [DecidableEq Key] [Std.LawfulEqCmp cmp] in
/-- Such a map has an entry exactly where it holds something. -/
theorem getElem?_eq (positive : AllPositive map) (key : Key) :
    map[key]? = if map.getD key 0 = 0 then none else some (map.getD key 0) := by
  rw [Std.ExtTreeMap.getD_eq_getD_getElem?]
  cases found : map[key]? with
  | none => rfl
  | some held => simp [Nat.ne_of_gt (positive key held found)]

omit [DecidableEq Key] [Std.LawfulEqCmp cmp] in
theorem deposit (positive : AllPositive map) (room : 0 < limit)
    (amounts : ∀ row ∈ rows, 0 < row.2) : AllPositive (deposit limit map rows) := by
  induction rows generalizing map with
  | nil => exact positive
  | cons row rest ih =>
    refine ih (fun key held found => ?_) fun other member => amounts other (by simp [member])
    rw [Std.ExtTreeMap.getElem?_insert] at found
    split at found
    · have booked := amounts row (by simp)
      obtain rfl := Option.some.inj found
      unfold saturatingAdd
      omega
    · exact positive key held found

omit [DecidableEq Key] [Std.LawfulEqCmp cmp] in
theorem cancel (positive : AllPositive map) : AllPositive (cancel map rows) := by
  induction rows generalizing map with
  | nil => exact positive
  | cons row rest ih =>
    refine ih fun key held found => ?_
    rw [Std.ExtTreeMap.getElem?_alter] at found
    split at found
    · obtain ⟨before, -, kept⟩ := Option.bind_eq_some_iff.mp found
      split at kept
      · cases kept
      · rename_i remains
        obtain rfl := Option.some.inj kept
        exact Nat.pos_of_ne_zero remains
    · exact positive key held found

end AllPositive

end Maps

end Simetro.Library
