import Std.Data.ExtTreeMap.Lemmas
import Mathlib.Data.List.Sort
import Mathlib.Data.String.Basic
import Simetro.Library.Keyed

/-! The ordered map that holds one entry per declared element, keyed by name. -/

namespace Simetro.Library

variable {Element Value Key : Type} {cmp : Key → Key → Ordering}

/-- One entry per element; a repeated key keeps the last element. -/
def table [Std.TransCmp cmp] (elements : List Element) (key : Element → Key) (value : Element → Value) :
    Std.ExtTreeMap Key Value cmp :=
  elements.foldl (fun entries element => entries.insert (key element) (value element)) ∅

/-- Maps with the same keys of concern walk them in the same order. -/
theorem keys_filter_eq [Std.TransCmp cmp] [Std.LawfulEqCmp cmp]
    {first second : Std.ExtTreeMap Key Value cmp} {concerns also : Key → Bool}
    (same : ∀ name, name ∈ first ∧ concerns name = true ↔ name ∈ second ∧ also name = true) :
    first.keys.filter concerns = second.keys.filter also := by
  have asymm (left right : Key) (less : cmp left right = .lt) : ¬ cmp right left = .lt := by
    have swapped : cmp right left = (cmp left right).swap := Std.OrientedCmp.eq_swap
    rw [swapped, less]
    decide
  refine eq_of_ordered asymm (Std.ExtTreeMap.ordered_keys.filter _)
    (Std.ExtTreeMap.ordered_keys.filter _) fun name => ?_
  simpa only [List.mem_filter, Std.ExtTreeMap.mem_keys] using same name

section Keys

variable [Std.TransCmp cmp] [Std.LawfulEqCmp cmp] {map : Std.ExtTreeMap Key Value cmp}

theorem keys_eq_of_mem {other : Std.ExtTreeMap Key Value cmp} (same : ∀ key, key ∈ map ↔ key ∈ other) :
    map.keys = other.keys := by
  have kept : map.keys.filter (fun _ => true) = other.keys.filter fun _ => true :=
    keys_filter_eq fun name => and_congr_left' (same name)
  rwa [List.filter_true, List.filter_true] at kept

theorem keys_insert_of_mem {key : Key} (present : key ∈ map) (value : Value) :
    (map.insert key value).keys = map.keys := by
  refine keys_eq_of_mem fun other => ?_
  rw [Std.ExtTreeMap.mem_insert]
  constructor
  · rintro (same | member)
    · exact Std.LawfulEqCmp.compare_eq_iff_eq.mp same ▸ present
    · exact member
  · exact .inr

theorem keys_modify (key : Key) (change : Value → Value) : (map.modify key change).keys = map.keys :=
  keys_eq_of_mem fun _ => Std.ExtTreeMap.mem_modify

end Keys

section Other

variable [Std.TransCmp cmp] [Std.LawfulEqCmp cmp] {map : Std.ExtTreeMap Key Value cmp}
  {changed name : Key} (different : changed ≠ name)
include different

omit [Std.TransCmp cmp] in
private theorem compare_of_ne : (cmp changed name == .eq) = false := by
  simpa using different

theorem contains_insert_of_ne (value : Value) :
    (map.insert changed value).contains name = map.contains name := by
  rw [Std.ExtTreeMap.contains_insert, compare_of_ne different, Bool.false_or]

theorem getElem?_insert_of_ne (value : Value) : (map.insert changed value)[name]? = map[name]? := by
  rw [Std.ExtTreeMap.getElem?_insert, if_neg]
  simpa using different

theorem contains_erase_of_ne : (map.erase changed).contains name = map.contains name := by
  rw [Std.ExtTreeMap.contains_erase, bne, compare_of_ne different, Bool.not_false, Bool.true_and]

end Other

section Lookup

variable [DecidableEq Key] [Std.TransCmp cmp] [Std.LawfulEqCmp cmp]
  {elements : List Element} {key : Element → Key} {value : Element → Value}

private theorem foldl_insert_getElem? (entries : Std.ExtTreeMap Key Value cmp) (name : Key) :
    (elements.foldl (fun entries element => entries.insert (key element) (value element))
      entries)[name]? =
      ((elements.findRev? fun element => key element = name).map value).or entries[name]? := by
  induction elements generalizing entries with
  | nil => simp
  | cons head rest ih =>
    rw [List.foldl_cons, ih, Std.ExtTreeMap.getElem?_insert]
    simp only [List.findRev?]
    cases rest.findRev? fun element => key element = name <;>
      by_cases same : key head = name <;> simp [same]

theorem table_getElem? (name : Key) :
    (table elements key value : Std.ExtTreeMap Key Value cmp)[name]? =
      (elements.findRev? fun element => key element = name).map value := by
  simp [table, foldl_insert_getElem?]

theorem table_found {name : Key} {found : Value}
    (present : (table elements key value : Std.ExtTreeMap Key Value cmp)[name]? = some found) :
    ∃ element ∈ elements, key element = name ∧ value element = found := by
  rw [table_getElem?, List.findRev?_eq_find?_reverse] at present
  obtain ⟨element, located, rfl⟩ := Option.map_eq_some_iff.mp present
  refine ⟨element, List.mem_reverse.mp (List.mem_of_find?_eq_some located), ?_, rfl⟩
  simpa using List.find?_some located

theorem mem_table {name : Key} : name ∈ (table elements key value : Std.ExtTreeMap Key Value cmp) ↔
    ∃ element ∈ elements, key element = name := by
  rw [Std.ExtTreeMap.mem_iff_isSome_getElem?, table_getElem?, List.findRev?_eq_find?_reverse]
  simp

/-- With distinct keys every element is found under its own key. -/
theorem table_of_mem {element : Element} (distinct : (elements.map key).Nodup)
    (member : element ∈ elements) :
    (table elements key value : Std.ExtTreeMap Key Value cmp)[key element]? =
      some (value element) := by
  have present : (table elements key value : Std.ExtTreeMap Key Value cmp)[key element]?.isSome :=
    Std.ExtTreeMap.mem_iff_isSome_getElem?.mp (mem_table.mpr ⟨element, member, rfl⟩)
  obtain ⟨found, located⟩ := Option.isSome_iff_exists.mp present
  obtain ⟨other, otherMember, sameKey, rfl⟩ := table_found located
  rw [located, List.inj_on_of_nodup_map distinct otherMember member sameKey]

/-- A table of the elements that are kept. -/
theorem table_filter_of_mem {element : Element} (distinct : (elements.map key).Nodup)
    (member : element ∈ elements) (keep : Element → Bool) :
    (table (elements.filter keep) key value : Std.ExtTreeMap Key Value cmp)[key element]? =
      if keep element then some (value element) else none := by
  split
  · rename_i kept
    exact table_of_mem (distinct.sublist (List.filter_sublist.map key))
      (List.mem_filter.mpr ⟨member, kept⟩)
  · rename_i left
    cases listed : (table (elements.filter keep) key value :
        Std.ExtTreeMap Key Value cmp)[key element]? with
    | none => rfl
    | some found =>
      obtain ⟨other, otherKept, same, -⟩ := table_found listed
      obtain ⟨otherMember, kept⟩ := List.mem_filter.mp otherKept
      rw [List.inj_on_of_nodup_map distinct otherMember member same] at kept
      exact absurd kept left

end Lookup

end Simetro.Library
