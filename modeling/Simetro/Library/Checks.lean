import Std.Data.ExtTreeSet.Lemmas
import Mathlib.Data.List.Sort
import Mathlib.Data.String.Basic

/-! Fallible checks, and the collection of declared entries into a catalog:
unique keys, sorted by key. -/

namespace Simetro.Library

variable {Error : Type}

/-- Fail with `error` when `bad` holds. -/
def reject (bad : Bool) (error : Error) : Except Error Unit :=
  if bad then .error error else .ok ()

/-- The value, or `error` where it is absent. -/
def present (value : Option α) (error : Error) : Except Error α :=
  match value with
  | some found => .ok found
  | none => .error error

@[simp] theorem reject_eq_ok {bad : Bool} {error : Error} {done : Unit} :
    reject bad error = .ok done ↔ bad = false := by
  cases bad <;> simp [reject]

@[simp] theorem present_eq_ok {value : Option α} {error : Error} {found : α} :
    present value error = .ok found ↔ value = some found := by
  cases value <;> simp [present]

@[simp] theorem reject_eq_error {bad : Bool} {error reason : Error} :
    reject bad error = .error reason ↔ bad = true ∧ error = reason := by
  cases bad <;> simp [reject]

@[simp] theorem present_eq_error {value : Option α} {error reason : Error} :
    present value error = .error reason ↔ value = none ∧ error = reason := by
  cases value <;> simp [present]

theorem bind_eq_error {first : Except Error α} {next : α → Except Error β} {reason : Error} :
    (first >>= next) = .error reason ↔
      first = .error reason ∨ ∃ value, first = .ok value ∧ next value = .error reason := by
  cases first <;> simp [bind, Except.bind]

theorem bind_eq_ok {first : Except Error α} {next : α → Except Error β} {result : β} :
    (first >>= next) = .ok result ↔ ∃ value, first = .ok value ∧ next value = .ok result := by
  cases first <;> simp [bind, Except.bind]

/-- Whatever the check returns has the property. -/
def Returns {α : Type} (outcome : Except Error α) (property : α → Prop) : Prop :=
  ∀ value, outcome = .ok value → property value

namespace Returns

variable {α β : Type}

theorem pure {property : α → Prop} (holds : property value) :
    Returns (pure value : Except Error α) property := by
  rintro _ ⟨⟩
  exact holds

theorem bind {first : Except Error α} {next : α → Except Error β} {property : β → Prop}
    (holds : ∀ value, Returns (next value) property) : Returns (first >>= next) property := by
  intro result success
  obtain ⟨value, -, success⟩ := bind_eq_ok.mp success
  exact holds value result success

theorem checked {bad : Bool} {error : Error} {next : Unit → Except Error β} {property : β → Prop}
    (holds : bad = false → Returns (next ()) property) :
    Returns (reject bad error >>= next) property := by
  intro result success
  obtain ⟨⟨⟩, passed, success⟩ := bind_eq_ok.mp success
  exact holds (reject_eq_ok.mp passed) result success

end Returns

/-- The outcome is a value that passes `test`. -/
def yields (outcome : Except Error α) (test : α → Bool) : Bool :=
  match outcome with
  | .ok value => test value
  | .error _ => false

theorem yields_iff {outcome : Except Error α} {test : α → Bool} :
    yields outcome test = true ↔ ∃ value, outcome = .ok value ∧ test value = true := by
  cases outcome <;> simp [yields]

/-- Check a value where there is one. -/
def checkSome (check : α → Except Error Unit) (value : Option α) : Except Error Unit :=
  match value with
  | some found => check found
  | none => .ok ()

/-- Fail with the error of the first entry that has one. -/
def checkAll (check : α → Except Error Unit) : List α → Except Error Unit
  | [] => .ok ()
  | entry :: rest => do
      check entry
      checkAll check rest

theorem checkAll_eq_ok {check : α → Except Error Unit} {entries : List α} {done : Unit} :
    checkAll check entries = .ok done ↔ ∀ entry ∈ entries, check entry = .ok () := by
  induction entries with
  | nil => simp [checkAll]
  | cons entry rest ih =>
    rw [checkAll, bind_eq_ok]
    constructor
    · rintro ⟨⟨⟩, first, others⟩
      simpa [first] using ih.mp others
    · intro every
      exact ⟨(), every entry (by simp), ih.mpr fun other member => every other (by simp [member])⟩

section Catalog

variable {Raw Entry : Type}

/-- Validate the entries in turn: each is read, its key must be new, and it must
pass the cross check. -/
def collect (read : Raw → Except Error Entry) (key : Entry → String)
    (duplicate : Entry → Error) (crossCheck : Entry → Except Error Unit) :
    List Raw → Std.ExtTreeSet String → Except Error (List Entry)
  | [], _ => .ok []
  | raw :: rest, seen => do
      let entry ← read raw
      reject (seen.contains (key entry)) (duplicate entry)
      crossCheck entry
      let others ← collect read key duplicate crossCheck rest (seen.insert (key entry))
      return entry :: others

/-- Stable sort by key. -/
def sortByKey (key : Entry → String) (entries : List Entry) : List Entry :=
  entries.insertionSort fun left right => key left ≤ key right

/-- A section of the input: its entries collected and sorted by key. -/
def catalog (read : Raw → Except Error Entry) (key : Entry → String)
    (duplicate : Entry → Error) (crossCheck : Entry → Except Error Unit) (raws : List Raw) :
    Except Error (List Entry) := do
  let entries ← collect read key duplicate crossCheck raws ∅
  return sortByKey key entries

variable {read : Raw → Except Error Entry} {key : Entry → String}
  {duplicate : Entry → Error} {crossCheck : Entry → Except Error Unit}

/-- What a section reads of one entry. -/
def ReadsAs (read : Raw → Except Error Entry) (crossCheck : Entry → Except Error Unit) (raw : Raw)
    (entry : Entry) : Prop :=
  read raw = .ok entry ∧ crossCheck entry = .ok ()

theorem collect_eq_ok {raws : List Raw} {seen : Std.ExtTreeSet String} {entries : List Entry} :
    collect read key duplicate crossCheck raws seen = .ok entries ↔
      List.Forall₂ (ReadsAs read crossCheck) raws entries ∧ (entries.map key).Nodup ∧
        ∀ entry ∈ entries, key entry ∉ seen := by
  induction raws generalizing seen entries with
  | nil =>
    simp only [collect, Except.ok.injEq, List.forall₂_nil_left_iff]
    constructor
    · rintro rfl
      simp
    · exact fun all => all.1.symm
  | cons raw rest ih =>
    simp only [collect, bind_eq_ok, reject_eq_ok, ih, List.forall₂_cons_left_iff]
    constructor
    · rintro ⟨entry, isRead, ⟨⟩, unseen, ⟨⟩, crossed, others, ⟨matched, distinct, fresh⟩, ⟨⟩⟩
      refine ⟨⟨entry, others, ⟨isRead, crossed⟩, matched, rfl⟩, ?_, ?_⟩
      · refine List.nodup_cons.mpr ⟨fun present => ?_, distinct⟩
        obtain ⟨other, member, same⟩ := List.mem_map.mp present
        exact fresh other member (by simp [same])
      · intro other member
        rcases List.mem_cons.mp member with rfl | member
        · simpa [← Std.ExtTreeSet.contains_iff_mem] using unseen
        · exact fun present => fresh other member (by simp [present])
    · rintro ⟨⟨entry, others, ⟨isRead, crossed⟩, matched, rfl⟩, distinct, fresh⟩
      obtain ⟨absent, distinct⟩ := List.nodup_cons.mp distinct
      have unseen : seen.contains (key entry) = false := by
        simpa [← Std.ExtTreeSet.contains_iff_mem] using fresh entry (by simp)
      refine ⟨entry, isRead, (), unseen, (), crossed, others, ⟨matched, distinct, ?_⟩, rfl⟩
      intro other member present
      rcases Std.ExtTreeSet.mem_insert.mp present with same | present
      · exact absent (List.mem_map.mpr ⟨other, member, (Std.LawfulEqCmp.eq_of_compare same).symm⟩)
      · exact fresh other (by simp [member]) present

/-- What a collection guarantees: keys new and distinct, every entry read from
the input and cross checked, one entry for each input. -/
structure Collected (read : Raw → Except Error Entry) (key : Entry → String)
    (crossCheck : Entry → Except Error Unit) (raws : List Raw)
    (seen : Std.ExtTreeSet String) (entries : List Entry) : Prop where
  length : entries.length = raws.length
  fresh : ∀ entry ∈ entries, key entry ∉ seen
  distinct : (entries.map key).Nodup
  accepted : ∀ entry ∈ entries, (∃ raw ∈ raws, read raw = .ok entry) ∧ crossCheck entry = .ok ()

theorem collect_sound {raws : List Raw} {seen : Std.ExtTreeSet String} {entries : List Entry}
    (success : collect read key duplicate crossCheck raws seen = .ok entries) :
    Collected read key crossCheck raws seen entries := by
  obtain ⟨matched, distinct, fresh⟩ := collect_eq_ok.mp success
  refine ⟨matched.length_eq.symm, fresh, distinct, ?_⟩
  intro entry member
  obtain ⟨index, bound, rfl⟩ := List.getElem_of_mem member
  have within : index < raws.length := matched.length_eq ▸ bound
  obtain ⟨isRead, crossed⟩ := matched.get within bound
  exact ⟨⟨raws[index], List.getElem_mem within, isRead⟩, crossed⟩

theorem sortByKey_perm (key : Entry → String) (entries : List Entry) :
    (sortByKey key entries).Perm entries := List.perm_insertionSort _ _

theorem sortByKey_sorted (key : Entry → String) (entries : List Entry) :
    (sortByKey key entries).Pairwise fun left right => key left ≤ key right := by
  let order : Entry → Entry → Prop := fun left right => key left ≤ key right
  have total : Std.Total order := ⟨fun left right => le_total (key left) (key right)⟩
  have trans : IsTrans Entry order := ⟨fun _ _ _ first second => le_trans first second⟩
  exact List.pairwise_insertionSort order entries

/-- A catalog: strictly increasing keys, every entry accepted, none lost. -/
structure Catalog (read : Raw → Except Error Entry) (key : Entry → String)
    (crossCheck : Entry → Except Error Unit) (raws : List Raw) (entries : List Entry) : Prop where
  length : entries.length = raws.length
  increasing : entries.Pairwise fun left right => key left < key right
  accepted : ∀ entry ∈ entries, (∃ raw ∈ raws, read raw = .ok entry) ∧ crossCheck entry = .ok ()

theorem catalog_sound {raws : List Raw} {entries : List Entry}
    (success : catalog read key duplicate crossCheck raws = .ok entries) :
    Catalog read key crossCheck raws entries := by
  simp only [catalog, bind_eq_ok] at success
  obtain ⟨collected, gathered, same⟩ := success
  cases same
  have sound := collect_sound gathered
  have order := sortByKey_perm key collected
  refine ⟨by rw [order.length_eq, sound.length], ?_, fun entry member =>
    sound.accepted entry (order.mem_iff.mp member)⟩
  have apart : (sortByKey key collected).Pairwise fun left right => key left ≠ key right :=
    List.pairwise_map.mp ((order.map key).nodup_iff.mpr sound.distinct)
  exact (sortByKey_sorted key collected).imp₂ (fun _ _ below different => lt_of_le_of_ne below different) apart

namespace Catalog

variable {raws : List Raw} {entries : List Entry} (catalog : Catalog read key crossCheck raws entries)
include catalog

theorem readFrom (member : entry ∈ entries) : ∃ raw ∈ raws, read raw = .ok entry :=
  (catalog.accepted entry member).1

end Catalog

end Catalog

end Simetro.Library
