import Std.Data.ExtTreeMap.Lemmas
import Mathlib.Data.List.Sort

/-! Elements registered under keys: what holds of every entry of a map, and the
smallest number that is free as a key. -/

namespace Simetro.Library

variable {Key Element : Type} {cmp : Key → Key → Ordering} [Std.TransCmp cmp] [Std.LawfulEqCmp cmp]

/-- Every entry of the map has the property. -/
def Everywhere (holds : Key → Element → Prop) (entries : Std.ExtTreeMap Key Element cmp) : Prop :=
  ∀ (key : Key) (element : Element), entries[key]? = some element → holds key element

namespace Everywhere

variable {holds weaker : Key → Element → Prop} {entries : Std.ExtTreeMap Key Element cmp}

omit [Std.LawfulEqCmp cmp] in
theorem empty : Everywhere holds (∅ : Std.ExtTreeMap Key Element cmp) := by
  intro key element found
  simp at found

omit [Std.LawfulEqCmp cmp] in
theorem mono (every : Everywhere holds entries)
    (implies : ∀ key element, entries[key]? = some element → holds key element → weaker key element) :
    Everywhere weaker entries :=
  fun key element found => implies key element found (every key element found)

theorem insert (every : Everywhere holds entries) {key : Key} {element : Element}
    (new : holds key element) : Everywhere holds (entries.insert key element) := by
  intro other found located
  rw [Std.ExtTreeMap.getElem?_insert] at located
  split at located
  · rename_i same
    obtain rfl := Std.LawfulEqCmp.compare_eq_iff_eq.mp same
    obtain rfl := Option.some.inj located
    exact new
  · exact every other found located

omit [Std.LawfulEqCmp cmp] in
theorem erase (every : Everywhere holds entries) (key : Key) : Everywhere holds (entries.erase key) := by
  intro other found located
  rw [Std.ExtTreeMap.getElem?_erase] at located
  split at located
  · cases located
  · exact every other found located

theorem map {Other : Type} {change : Key → Element → Other} {other : Key → Other → Prop}
    (every : Everywhere holds entries)
    (changed : ∀ key element, holds key element → other key (change key element)) :
    Everywhere other (entries.map change) := by
  intro key element located
  rw [Std.ExtTreeMap.getElem?_map] at located
  obtain ⟨before, found, rfl⟩ := Option.map_eq_some_iff.mp located
  exact changed key before (every key before found)

end Everywhere

/-- Maps that look alike are equal where entries that look alike under one key are. -/
theorem eq_of_views {View : Type} {view : Element → View} {first second : Std.ExtTreeMap Key Element cmp}
    (determined : ∀ (key : Key) (one two : Element), first[key]? = some one →
      second[key]? = some two → view one = view two → one = two)
    (same : (first.map fun _ element => view element) = second.map fun _ element => view element) :
    first = second := by
  apply Std.ExtTreeMap.ext_getElem?
  intro key
  have views := congrArg (·[key]?) same
  simp only [Std.ExtTreeMap.getElem?_map] at views
  cases here : first[key]? with
  | none =>
    rw [here] at views
    exact (Option.map_eq_none_iff.mp views.symm).symm
  | some one =>
    rw [here] at views
    obtain ⟨two, there, alike⟩ := Option.map_eq_some_iff.mp views.symm
    rw [there, determined key one two here there alike.symm]

omit [Std.LawfulEqCmp cmp] in
theorem mem_of_getElem? {entries : Std.ExtTreeMap Key Element cmp} {key : Key} {element : Element}
    (found : entries[key]? = some element) : key ∈ entries :=
  Std.ExtTreeMap.mem_iff_isSome_getElem?.mpr (Option.isSome_of_eq_some found)

/-- Erasing some keys leaves the entries under the others. -/
theorem foldl_erase_getElem? [DecidableEq Key] (keys : List Key)
    (entries : Std.ExtTreeMap Key Element cmp) (key : Key) :
    (keys.foldl (·.erase ·) entries)[key]? = if key ∈ keys then none else entries[key]? := by
  induction keys generalizing entries with
  | nil => simp
  | cons head rest ih =>
    rw [List.foldl_cons, ih, Std.ExtTreeMap.getElem?_erase]
    by_cases same : head = key
    · subst same
      simp
    · by_cases later : key ∈ rest
      · simp [later]
      · have absent : key ∉ head :: rest := by
          intro member
          rcases List.mem_cons.mp member with equal | listed
          · exact same equal.symm
          · exact later listed
        rw [if_neg later, if_neg absent, if_neg]
        exact fun equal => same (Std.LawfulEqCmp.compare_eq_iff_eq.mp equal)

/-- The smallest number from `candidate` on that is not among increasing ids; none where the
ids leave no number up to `limit`. -/
def nextDense (limit : Nat) : List Nat → Nat → Option Nat
  | [], candidate => some candidate
  | id :: rest, candidate =>
    if id = candidate then
      if candidate < limit then nextDense limit rest (candidate + 1) else none
    else if candidate < id then some candidate
    else nextDense limit rest candidate

section Dense

variable {limit candidate id : Nat} {ids : List Nat}

/-- What one id of the list decides. -/
theorem nextDense_cons : nextDense limit (id :: ids) candidate =
    if id = candidate then
      if candidate < limit then nextDense limit ids (candidate + 1) else none
    else if candidate < id then some candidate
    else nextDense limit ids candidate :=
  rfl

theorem nextDense_le (found : nextDense limit ids candidate = some id) : candidate ≤ id := by
  induction ids generalizing candidate with
  | nil => exact Nat.le_of_eq (Option.some.inj found)
  | cons head rest ih =>
    rw [nextDense_cons] at found
    split at found
    · split at found
      · exact Nat.le_of_succ_le (ih found)
      · cases found
    · split at found
      · exact Nat.le_of_eq (Option.some.inj found)
      · exact ih found

theorem nextDense_within (start : candidate ≤ limit)
    (found : nextDense limit ids candidate = some id) : id ≤ limit := by
  induction ids generalizing candidate with
  | nil => exact Option.some.inj found ▸ start
  | cons head rest ih =>
    rw [nextDense_cons] at found
    split at found
    · split at found
      · rename_i below
        exact ih below found
      · cases found
    · split at found
      · exact Option.some.inj found ▸ start
      · exact ih start found

/-- What it finds is not among the ids. -/
theorem nextDense_free (increasing : ids.Pairwise (· < ·))
    (found : nextDense limit ids candidate = some id) : id ∉ ids := by
  induction ids generalizing candidate with
  | nil => exact List.not_mem_nil
  | cons head rest ih =>
    obtain ⟨first, later⟩ := List.pairwise_cons.mp increasing
    rw [nextDense_cons] at found
    intro member
    split at found
    · split at found
      · have past := nextDense_le found
        rcases List.mem_cons.mp member with same | listed
        · omega
        · exact ih later found listed
      · cases found
    · split at found
      · rename_i below
        obtain rfl := Option.some.inj found
        rcases List.mem_cons.mp member with same | listed
        · omega
        · have above := first _ listed
          omega
      · have past := nextDense_le found
        rcases List.mem_cons.mp member with same | listed
        · omega
        · exact ih later found listed

/-- Every number before what it finds is taken. -/
theorem nextDense_taken (found : nextDense limit ids candidate = some id) :
    ∀ other, candidate ≤ other → other < id → other ∈ ids := by
  induction ids generalizing candidate with
  | nil =>
    obtain rfl := Option.some.inj found
    intro other low high
    omega
  | cons head rest ih =>
    rw [nextDense_cons] at found
    intro other low high
    split at found
    · rename_i same
      split at found
      · rcases Nat.eq_or_lt_of_le low with equal | past
        · exact equal ▸ same ▸ List.mem_cons_self
        · exact List.mem_cons_of_mem head (ih found other past high)
      · cases found
    · split at found
      · obtain rfl := Option.some.inj found
        omega
      · exact List.mem_cons_of_mem head (ih found other low high)

/-- It finds nothing only where every number up to the limit is taken. -/
theorem nextDense_exhausted (nothing : nextDense limit ids candidate = none) :
    ∀ other, candidate ≤ other → other ≤ limit → other ∈ ids := by
  induction ids generalizing candidate with
  | nil => cases nothing
  | cons head rest ih =>
    rw [nextDense_cons] at nothing
    intro other low high
    split at nothing
    · rename_i same
      rcases Nat.eq_or_lt_of_le low with equal | past
      · exact equal ▸ same ▸ List.mem_cons_self
      · split at nothing
        · exact List.mem_cons_of_mem head (ih nothing other past high)
        · omega
    · split at nothing
      · cases nothing
      · exact List.mem_cons_of_mem head (ih nothing other low high)

end Dense

end Simetro.Library
