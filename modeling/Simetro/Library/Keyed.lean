import Mathlib.Data.List.DropRight
import Mathlib.Data.List.Nodup
import Mathlib.Data.List.Perm.Basic

/-! Lists of records that are found, removed and changed by a key, and bounded
queues that forget their oldest entry. -/

namespace Simetro.Library

variable {Entry Key : Type}

/-- Append to a queue of at most `cap` entries, dropping the oldest when it is full. -/
def pushRing (cap : Nat) (ring : List Entry) (entry : Entry) : List Entry :=
  (if ring.length ≥ cap then ring.tail else ring) ++ [entry]

theorem pushRing_sublist (cap : Nat) (ring : List Entry) (entry : Entry) :
    (pushRing cap ring entry).Sublist (ring ++ [entry]) := by
  unfold pushRing
  split
  · exact (List.tail_sublist ring).append_right _
  · exact .refl _

/-- A ring holds the latest entries of its history; even one of capacity zero holds
the last. -/
theorem pushRing_rtake (cap : Nat) (history : List Entry) (entry : Entry) :
    pushRing cap (history.rtake (max cap 1)) entry = (history ++ [entry]).rtake (max cap 1) := by
  cases cap with
  | zero =>
    have emptied : (history.rtake 1).tail = [] := by
      rw [List.rtake, List.tail_drop]
      exact List.drop_eq_nil_of_le (by omega)
    simp [pushRing, emptied]
  | succ rest =>
    have size : max (rest + 1) 1 = rest + 1 := by omega
    have length : (history.rtake (rest + 1)).length = min (rest + 1) history.length := by
      rw [List.rtake, List.length_drop]
      omega
    rw [size, List.rtake_concat_succ, pushRing, length, List.rtake, List.rtake]
    split
    · rw [List.tail_drop, show history.length - (rest + 1) + 1 = history.length - rest by omega]
    · rw [show history.length - (rest + 1) = history.length - rest by omega]

/-- Two lists in the same strict order with the same members are one list. -/
theorem eq_of_ordered {before : Entry → Entry → Prop}
    (asymm : ∀ left right, before left right → ¬ before right left) {first second : List Entry}
    (ordered : first.Pairwise before) (orderedToo : second.Pairwise before)
    (members : ∀ entry, entry ∈ first ↔ entry ∈ second) : first = second := by
  have apart {entries : List Entry} (sorted : entries.Pairwise before) : entries.Nodup := by
    refine sorted.imp ?_
    rintro left _ less rfl
    exact asymm left left less less
  have perm := (List.perm_ext_iff_of_nodup (apart ordered) (apart orderedToo)).mpr members
  exact perm.eq_of_pairwise (fun left right _ _ less more => absurd more (asymm left right less))
    ordered orderedToo

/-- Change the first entry that hits. -/
def updateFirst (hit : Entry → Bool) (change : Entry → Entry) : List Entry → List Entry
  | [] => []
  | entry :: rest =>
    if hit entry then change entry :: rest else entry :: updateFirst hit change rest

section UpdateFirst

variable {hit wanted : Entry → Bool} {change also : Entry → Entry}

theorem updateFirst_cons (entry : Entry) (rest : List Entry) :
    updateFirst hit change (entry :: rest) =
      if hit entry then change entry :: rest else entry :: updateFirst hit change rest := rfl

/-- The found entry is the changed one. -/
theorem find?_updateFirst_self (keeps : ∀ entry, hit (change entry) = hit entry)
    (entries : List Entry) :
    (updateFirst hit change entries).find? hit = (entries.find? hit).map change := by
  induction entries with
  | nil => rfl
  | cons entry rest ih =>
    by_cases found : hit entry = true
    · simp [updateFirst_cons, found, keeps]
    · simp [updateFirst_cons, found, ih]

/-- A search for other entries does not notice the change. -/
theorem find?_updateFirst_other (apart : ∀ entry, hit entry = true → wanted entry = false)
    (keeps : ∀ entry, wanted (change entry) = wanted entry) (entries : List Entry) :
    (updateFirst hit change entries).find? wanted = entries.find? wanted := by
  induction entries with
  | nil => rfl
  | cons entry rest ih =>
    by_cases found : hit entry = true
    · simp [updateFirst_cons, found, keeps, apart entry found]
    · simp [updateFirst_cons, found, List.find?_cons, ih]

theorem updateFirst_comm (apart : ∀ entry, hit entry = true → wanted entry = false)
    (keeps : ∀ entry, wanted (change entry) = wanted entry)
    (keepsToo : ∀ entry, hit (also entry) = hit entry) (entries : List Entry) :
    updateFirst wanted also (updateFirst hit change entries) =
      updateFirst hit change (updateFirst wanted also entries) := by
  induction entries with
  | nil => rfl
  | cons entry rest ih =>
    by_cases found : hit entry = true
    · simp [updateFirst_cons, found, keeps, apart entry found]
    · by_cases sought : wanted entry = true
      · simp [updateFirst_cons, found, sought, keepsToo]
      · simp [updateFirst_cons, found, sought, ih]

theorem updateFirst_updateFirst (keeps : ∀ entry, hit (change entry) = hit entry)
    (entries : List Entry) : updateFirst hit also (updateFirst hit change entries) =
      updateFirst hit (fun entry => also (change entry)) entries := by
  induction entries with
  | nil => rfl
  | cons entry rest ih =>
    by_cases found : hit entry = true
    · simp [updateFirst_cons, found, keeps]
    · simp [updateFirst_cons, found, ih]

/-- Only what the change makes of the found entry matters. -/
theorem updateFirst_congr {entries : List Entry}
    (same : ∀ entry, entries.find? hit = some entry → change entry = also entry) :
    updateFirst hit change entries = updateFirst hit also entries := by
  induction entries with
  | nil => rfl
  | cons entry rest ih =>
    by_cases found : hit entry = true
    · simp [updateFirst_cons, found, same entry (by simp [found])]
    · simp [updateFirst_cons, found, ih fun other sought => same other (by simpa [found] using sought)]

theorem updateFirst_same (entries : List Entry) : updateFirst hit (fun entry => entry) entries = entries := by
  induction entries with
  | nil => rfl
  | cons entry rest ih => simp [updateFirst_cons, ih]

theorem map_updateFirst {View : Type} {view : Entry → View} (keeps : ∀ entry, view (change entry) = view entry)
    (entries : List Entry) : (updateFirst hit change entries).map view = entries.map view := by
  induction entries with
  | nil => rfl
  | cons entry rest ih =>
    by_cases found : hit entry = true
    · simp [updateFirst_cons, found, keeps]
    · simp [updateFirst_cons, found, ih]

end UpdateFirst

section ByKey

variable [DecidableEq Key] {key : Entry → Key} {entries : List Entry}

theorem updateFirst_eq_map (change : Entry → Entry) (wanted : Key)
    (distinct : (entries.map key).Nodup) :
    updateFirst (fun entry => key entry = wanted) change entries =
      entries.map fun entry => if key entry = wanted then change entry else entry := by
  induction entries with
  | nil => rfl
  | cons entry rest ih =>
    obtain ⟨absent, distinct⟩ := List.nodup_cons.mp distinct
    by_cases hit : key entry = wanted
    · have others : ∀ other ∈ rest, (if key other = wanted then change other else other) = other :=
        fun other member => if_neg fun same =>
          absent (List.mem_map.mpr ⟨other, member, same.trans hit.symm⟩)
      simp [updateFirst_cons, hit, List.map_congr_left others]
    · simp [updateFirst_cons, hit, ih distinct]

/-- A record found by its key, and the rest. -/
theorem perm_cons_filter {entry : Entry} (distinct : (entries.map key).Nodup)
    (member : entry ∈ entries) :
    entries.Perm (entry :: entries.filter fun other => key other ≠ key entry) := by
  induction entries with
  | nil => simp at member
  | cons head rest ih =>
    obtain ⟨absent, distinct⟩ := List.nodup_cons.mp distinct
    rcases List.mem_cons.mp member with same | later
    · subst same
      have kept : rest.filter (fun other => key other ≠ key entry) = rest :=
        List.filter_eq_self.mpr fun other present => by
          simpa using fun equal => absent (List.mem_map.mpr ⟨other, present, equal⟩)
      rw [List.filter_cons_of_neg (by simp), kept]
    · have different : key head ≠ key entry := fun equal =>
        absent (List.mem_map.mpr ⟨entry, later, equal.symm⟩)
      rw [List.filter_cons_of_pos (by simpa using different)]
      exact ((ih distinct later).cons head).trans (.swap entry head _)

theorem find?_of_mem {entry : Entry} (distinct : (entries.map key).Nodup)
    (member : entry ∈ entries) :
    entries.find? (fun other => key other = key entry) = some entry := by
  have present : (entries.find? fun other => key other = key entry).isSome :=
    List.find?_isSome.mpr ⟨entry, member, by simp⟩
  obtain ⟨found, located⟩ := Option.isSome_iff_exists.mp present
  have same := List.find?_some located
  rw [located, List.inj_on_of_nodup_map distinct (List.mem_of_find?_eq_some located) member
    (by simpa using same)]

end ByKey

section Firsts

variable [DecidableEq Key] (key : Entry → Key)

/-- Take up an entry whose key is new. -/
def keepNew (kept : List Entry) (entry : Entry) : List Entry :=
  if key entry ∈ kept.map key then kept else kept ++ [entry]

def firsts (entries : List Entry) : List Entry := entries.foldl (keepNew key) []

variable {key} {kept entries : List Entry}

theorem foldl_keepNew_of_distinct (distinct : ((kept ++ entries).map key).Nodup) :
    entries.foldl (keepNew key) kept = kept ++ entries := by
  induction entries generalizing kept with
  | nil => simp
  | cons entry rest ih =>
    have new : key entry ∉ kept.map key := by
      rw [List.map_append, List.map_cons] at distinct
      exact fun known => (List.nodup_append.mp distinct).2.2 _ known _ (by simp) rfl
    rw [List.foldl_cons, keepNew, if_neg new, ih (by simpa using distinct)]
    simp

theorem firsts_of_distinct (distinct : (entries.map key).Nodup) : firsts key entries = entries :=
  foldl_keepNew_of_distinct distinct

end Firsts

end Simetro.Library
