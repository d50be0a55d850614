import Simetro.Library.Json
import Simetro.Library.Keyed
import Mathlib.Data.List.Sort
import Mathlib.Data.String.Basic

/-! The members of a JSON object read and written by key. A new key goes where the order of
the keys puts it; a present one keeps its place. -/

namespace Simetro.Library

namespace Json

abbrev Members := List (String × Json)

def object? : Json → Option Members
  | .object members => some members
  | _ => none

def array? : Json → Option (List Json)
  | .array items => some items
  | _ => none

/-- The value under a key, `none` for anything but an object. -/
def get? (key : String) (json : Json) : Option Json := json.object?.bind fun members => members.lookup key

/-- Write to a key that is present. -/
def setMember (key : String) (value : Json) : Members → Members :=
  updateFirst (fun entry => entry.1 = key) fun entry => (entry.1, value)

def insertMember (key : String) (value : Json) (members : Members) : Members :=
  if (members.lookup key).isSome then setMember key value members
  else members.orderedInsert (fun one other => one.1 ≤ other.1) (key, value)

@[simp] theorem object?_object (members : Members) : (Json.object members).object? = some members := rfl

@[simp] theorem array?_array (items : List Json) : (Json.array items).array? = some items := rfl

@[simp] theorem get?_object (key : String) (members : Members) :
    (Json.object members).get? key = members.lookup key := rfl

theorem object?_eq_some {json : Json} {members : Members} :
    json.object? = some members ↔ json = .object members := by
  cases json <;> simp [object?]

theorem array?_eq_some {json : Json} {items : List Json} :
    json.array? = some items ↔ json = .array items := by
  cases json <;> simp [array?]

section Writing

variable {key other : String} {value old : Json} {members : Members}

theorem lookup_of_eq {entry : String × Json} (same : entry.1 = key) (rest : Members) :
    (entry :: rest : Members).lookup key = some entry.2 := by
  subst same
  exact List.lookup_cons_self

theorem lookup_of_ne {entry : String × Json} (different : entry.1 ≠ key) (rest : Members) :
    (entry :: rest : Members).lookup key = rest.lookup key := by
  have missed : (key == entry.1) = false := by simpa using Ne.symm different
  exact List.lookup_cons.trans (by rw [missed])

theorem lookup_eq_find? :
    members.lookup key = (members.find? fun entry => entry.1 = key).map fun entry => entry.2 := by
  induction members with
  | nil => rfl
  | cons entry rest ih =>
    by_cases same : entry.1 = key
    · simp [lookup_of_eq same, same]
    · simp [lookup_of_ne same, same, ih]

theorem lookup_setMember (held : members.lookup key = some old) :
    (setMember key value members).lookup key = some value := by
  rw [lookup_eq_find?] at held ⊢
  obtain ⟨entry, found, -⟩ := Option.map_eq_some_iff.mp held
  rw [setMember, find?_updateFirst_self (fun _ => by rfl), found]
  rfl

theorem lookup_setMember_of_ne (different : other ≠ key) :
    (setMember key value members).lookup other = members.lookup other := by
  rw [lookup_eq_find?, lookup_eq_find?, setMember,
    find?_updateFirst_other (fun entry hit => ?_) (fun _ => by rfl)]
  have same : entry.1 = key := by simpa using hit
  simpa [same] using different.symm

/-- Writing what is there already changes nothing. -/
theorem setMember_eq_self (held : members.lookup key = some value) :
    setMember key value members = members := by
  refine (updateFirst_congr fun entry found => ?_).trans (updateFirst_same members)
  rw [lookup_eq_find?, found] at held
  rw [← Option.some.inj held]

theorem setMember_setMember (first second : Json) :
    setMember key second (setMember key first members) = setMember key second members :=
  updateFirst_updateFirst (fun _ => by rfl) members

/-- A new member stands between two parts of the object. -/
theorem insertMember_split (absent : members.lookup key = none) :
    ∃ before after, members = before ++ after ∧
      insertMember key value members = before ++ (key, value) :: after := by
  refine ⟨_, _, (List.takeWhile_append_dropWhile
    (p := fun entry => ¬ (key, value).1 ≤ entry.1) (l := members)).symm, ?_⟩
  simp [insertMember, absent, List.orderedInsert_eq_take_drop]

@[simp] theorem lookup_insertMember : (insertMember key value members).lookup key = some value := by
  cases held : members.lookup key with
  | some old => simpa [insertMember, held] using lookup_setMember held
  | none =>
    obtain ⟨before, after, rfl, split⟩ := @insertMember_split _ value _ held
    have missing : before.lookup key = none := by
      rw [List.lookup_append] at held
      exact (Option.or_eq_none_iff.mp held).1
    simp [split, List.lookup_append, missing]

theorem lookup_insertMember_of_ne (different : other ≠ key) :
    (insertMember key value members).lookup other = members.lookup other := by
  cases held : members.lookup key with
  | some old => simpa [insertMember, held] using lookup_setMember_of_ne different
  | none =>
    obtain ⟨before, after, rfl, split⟩ := @insertMember_split _ value _ held
    have missed : (other == key) = false := by simpa using different
    simp [split, List.lookup_append, List.lookup_cons, missed]

theorem insertMember_eq_self (held : members.lookup key = some value) :
    insertMember key value members = members := by
  simpa [insertMember, held] using setMember_eq_self held

/-- A view of the members that cannot tell the new value from the old one, and that passes
over the new member, is not changed. -/
theorem filterMap_insertMember {Seen : Type} {view : String × Json → Option Seen}
    (written : ∀ old, members.lookup key = some old → view (key, value) = view (key, old))
    (added : members.lookup key = none → view (key, value) = none) :
    (insertMember key value members).filterMap view = members.filterMap view := by
  cases held : members.lookup key with
  | none =>
    obtain ⟨before, after, rfl, split⟩ := @insertMember_split _ value _ held
    simp [split, added held]
  | some old =>
    have same := written old held
    have set : (setMember key value members).filterMap view = members.filterMap view := by
      clear written added
      induction members with
      | nil => rfl
      | cons entry rest ih =>
        by_cases hit : entry.1 = key
        · have found : entry.2 = old := by simpa [lookup_of_eq hit] using held
          obtain ⟨name, content⟩ := entry
          obtain rfl : name = key := hit
          obtain rfl : content = old := found
          simp [setMember, updateFirst, List.filterMap_cons, same]
        · have later := ih (by simpa [lookup_of_ne hit] using held)
          simp only [setMember] at later
          simp [setMember, updateFirst, hit, List.filterMap_cons, later]
    simpa [insertMember, held] using set

theorem filter_insertMember {keep : String × Json → Bool} (passed : ∀ value, keep (key, value) = false) :
    (insertMember key value members).filter keep = members.filter keep := by
  rw [← List.filterMap_eq_filter]
  exact filterMap_insertMember (fun old _ => by simp [Option.guard, passed])
    fun _ => by simp [Option.guard, passed]

end Writing

end Json

end Simetro.Library
