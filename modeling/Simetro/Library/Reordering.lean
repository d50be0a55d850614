import Mathlib.Data.List.Perm.Basic
import Simetro.Library.Checks

/-! Checks of lists that do not care for the order of the list. -/

namespace Simetro.Library

variable {Error Raw Entry : Type}

/-- Checks that agree on what they accept and on what they return, errors aside. -/
def Agree {α : Type} (first second : Except Error α) : Prop :=
  ∀ value, first = .ok value ↔ second = .ok value

namespace Agree

variable {α β : Type} {first second : Except Error α}

theorem refl : Agree first first := fun _ => .rfl

theorem symm (agree : Agree first second) : Agree second first := fun value => (agree value).symm

theorem bind {next also : α → Except Error β} (agree : Agree first second)
    (after : ∀ value, Agree (next value) (also value)) : Agree (first >>= next) (second >>= also) := by
  intro result
  rw [bind_eq_ok, bind_eq_ok]
  constructor
  · rintro ⟨value, passed, rest⟩
    exact ⟨value, (agree value).mp passed, (after value result).mp rest⟩
  · rintro ⟨value, passed, rest⟩
    exact ⟨value, (agree value).mpr passed, (after value result).mpr rest⟩

end Agree

/-- Checks that accept alike, with results that go together. -/
structure Matches {α : Type} (together : α → α → Prop) (first second : Except Error α) : Prop where
  forth : ∀ value, first = .ok value → ∃ other, second = .ok other ∧ together value other
  back : ∀ other, second = .ok other → ∃ value, first = .ok value ∧ together value other

theorem Matches.bind {α β : Type} {together : α → α → Prop} {first second : Except Error α}
    {next also : α → Except Error β} (matches_ : Matches together first second)
    (after : ∀ value other, together value other → Agree (next value) (also other)) :
    Agree (first >>= next) (second >>= also) := by
  intro result
  rw [bind_eq_ok, bind_eq_ok]
  constructor
  · rintro ⟨value, passed, rest⟩
    obtain ⟨other, passed, near⟩ := matches_.forth value passed
    exact ⟨other, passed, (after value other near result).mp rest⟩
  · rintro ⟨other, passed, rest⟩
    obtain ⟨value, passed, near⟩ := matches_.back other passed
    exact ⟨value, passed, (after value other near result).mpr rest⟩

/-- One list is the other in another order, with entries that may differ by `alike`. -/
def Reordered (alike : Raw → Raw → Prop) (first second : List Raw) : Prop :=
  ∃ middle, List.Forall₂ alike first middle ∧ middle.Perm second

namespace Reordered

variable {alike : Raw → Raw → Prop} {first second : List Raw}

theorem of_perm (same : ∀ raw, alike raw raw) (perm : first.Perm second) : Reordered alike first second :=
  ⟨first, List.forall₂_same.mpr fun raw _ => same raw, perm⟩

theorem length_eq (reordered : Reordered alike first second) : first.length = second.length := by
  obtain ⟨middle, matched, perm⟩ := reordered
  exact matched.length_eq.trans perm.length_eq

theorem symm (reordered : Reordered alike first second) :
    Reordered (fun left right => alike right left) second first := by
  obtain ⟨middle, matched, perm⟩ := reordered
  obtain ⟨other, matched, perm⟩ := List.perm_comp_forall₂ perm.symm matched.flip
  exact ⟨other, matched, perm⟩

/-- What holds of each pair of entries and results holds of the reordered entries and the
results in the same new order. -/
theorem transfer {step also : Raw → Entry → Prop} {results : List Entry}
    (reordered : Reordered alike first second)
    (steps : ∀ raw other entry, alike raw other → step raw entry → also other entry)
    (stepped : List.Forall₂ step first results) :
    ∃ moved, List.Forall₂ also second moved ∧ moved.Perm results := by
  obtain ⟨middle, matched, perm⟩ := reordered
  have carried : List.Forall₂ also middle results := by
    clear perm
    induction matched generalizing results with
    | nil =>
      cases stepped
      exact .nil
    | cons head _ ih =>
      cases stepped with
      | cons one rest => exact .cons (steps _ _ _ head one) (ih rest)
  exact List.perm_comp_forall₂ perm.symm carried

end Reordered

section Walks

variable {key : Raw → String} {step : Raw → Entry → Prop}
  {walk : List Raw → Std.ExtTreeSet String → List Entry → Prop}

/-- A walk that takes each entry by itself and refuses a key it has seen: every entry passes,
and the keys are new and distinct. -/
theorem walk_iff (nil : ∀ seen results, walk [] seen results ↔ results = [])
    (cons : ∀ raw rest seen results, walk (raw :: rest) seen results ↔
      key raw ∉ seen ∧ ∃ entry others, step raw entry ∧
        walk rest (seen.insert (key raw)) others ∧ results = entry :: others)
    {raws : List Raw} {seen : Std.ExtTreeSet String} {results : List Entry} :
    walk raws seen results ↔
      List.Forall₂ step raws results ∧ (raws.map key).Nodup ∧ ∀ raw ∈ raws, key raw ∉ seen := by
  induction raws generalizing seen results with
  | nil => simp [nil]
  | cons raw rest ih =>
    simp only [cons, ih, List.forall₂_cons_left_iff, List.map_cons, List.nodup_cons,
      Std.ExtTreeSet.mem_insert, List.mem_cons, List.mem_map]
    constructor
    · rintro ⟨fresh, entry, others, passed, ⟨matched, distinct, unseen⟩, rfl⟩
      refine ⟨⟨entry, others, passed, matched, rfl⟩, ⟨?_, distinct⟩, ?_⟩
      · rintro ⟨other, member, same⟩
        exact unseen other member (.inl (by simpa using same.symm))
      · rintro other (rfl | member)
        · exact fresh
        · exact fun present => unseen other member (.inr present)
    · rintro ⟨⟨entry, others, passed, matched, rfl⟩, ⟨absent, distinct⟩, unseen⟩
      refine ⟨unseen raw (.inl rfl), entry, others, passed, ⟨matched, distinct, ?_⟩, rfl⟩
      rintro other member (same | present)
      · exact absent ⟨other, member, (Std.LawfulEqCmp.eq_of_compare same).symm⟩
      · exact unseen other (.inr member) present

/-- Over the same entries in another order such a walk has its results in another order. -/
theorem walk_perm (nil : ∀ seen results, walk [] seen results ↔ results = [])
    (cons : ∀ raw rest seen results, walk (raw :: rest) seen results ↔
      key raw ∉ seen ∧ ∃ entry others, step raw entry ∧
        walk rest (seen.insert (key raw)) others ∧ results = entry :: others)
    {raws others : List Raw} {seen : Std.ExtTreeSet String} {results : List Entry}
    (perm : raws.Perm others) (walked : walk raws seen results) :
    ∃ moved, walk others seen moved ∧ moved.Perm results := by
  obtain ⟨matched, distinct, unseen⟩ := (walk_iff nil cons).mp walked
  obtain ⟨moved, rematched, reordered⟩ := List.perm_comp_forall₂ perm.symm matched
  refine ⟨moved, (walk_iff nil cons).mpr ⟨rematched, ?_, ?_⟩, reordered⟩
  · exact (perm.map key).nodup_iff.mp distinct
  · exact fun raw member => unseen raw (perm.mem_iff.mpr member)

end Walks

section Catalogs

variable {read : Raw → Except Error Entry} {key : Entry → String}
  {duplicate : Entry → Error} {crossCheck : Entry → Except Error Unit}

theorem catalog_eq_ok {raws : List Raw} {sorted : List Entry} :
    catalog read key duplicate crossCheck raws = .ok sorted ↔
      ∃ entries, (List.Forall₂ (ReadsAs read crossCheck) raws entries ∧ (entries.map key).Nodup) ∧
        sorted = sortByKey key entries := by
  simp only [catalog, bind_eq_ok, collect_eq_ok]
  constructor
  · rintro ⟨entries, ⟨matched, distinct, -⟩, ⟨⟩⟩
    exact ⟨entries, ⟨matched, distinct⟩, rfl⟩
  · rintro ⟨entries, ⟨matched, distinct⟩, rfl⟩
    exact ⟨entries, ⟨matched, distinct, by simp⟩, rfl⟩

/-- Sorting forgets the order where the keys tell the entries apart. -/
theorem sortByKey_eq_of_perm {first second : List Entry} (distinct : (first.map key).Nodup)
    (perm : first.Perm second) : sortByKey key first = sortByKey key second := by
  have reordered := (sortByKey_perm key first).trans (perm.trans (sortByKey_perm key second).symm)
  refine reordered.eq_of_pairwise ?_ (sortByKey_sorted key first) (sortByKey_sorted key second)
  intro left right member otherMember below above
  exact List.inj_on_of_nodup_map distinct ((sortByKey_perm key first).mem_iff.mp member)
    (perm.mem_iff.mpr ((sortByKey_perm key second).mem_iff.mp otherMember)) (le_antisymm below above)

theorem sortByKey_map {Other : Type} (change : Entry → Other) {other : Other → String}
    (same : ∀ entry, other (change entry) = key entry) (entries : List Entry) :
    (sortByKey key entries).map change = sortByKey other (entries.map change) := by
  refine List.map_insertionSort _ _ change entries fun left _ right _ => ?_
  rw [same, same]

/-- A section in another order is the same catalog. -/
theorem catalog_reordered {alike : Raw → Raw → Prop} {raws others : List Raw}
    (reads : ∀ raw other, alike raw other → Agree (read raw) (read other))
    (reordered : Reordered alike raws others) :
    Agree (catalog read key duplicate crossCheck raws)
      (catalog read key duplicate crossCheck others) := by
  have carry {near : Raw → Raw → Prop} {first second : List Raw}
      (reads : ∀ raw other, near raw other → Agree (read raw) (read other))
      (reordered : Reordered near first second) (sorted : List Entry)
      (accepted : catalog read key duplicate crossCheck first = .ok sorted) :
      catalog read key duplicate crossCheck second = .ok sorted := by
    obtain ⟨entries, ⟨matched, distinct⟩, rfl⟩ := catalog_eq_ok.mp accepted
    have carried : ∃ moved, List.Forall₂ (ReadsAs read crossCheck) second moved ∧ moved.Perm entries :=
      reordered.transfer (fun raw other entry near step =>
        ⟨(reads raw other near entry).mp step.1, step.2⟩) matched
    obtain ⟨moved, rematched, perm⟩ := carried
    refine catalog_eq_ok.mpr ⟨moved, ⟨rematched, (perm.map key).nodup_iff.mpr distinct⟩, ?_⟩
    exact sortByKey_eq_of_perm distinct perm.symm
  intro sorted
  exact ⟨carry reads reordered sorted, carry (fun raw other near => (reads other raw near).symm)
    reordered.symm sorted⟩

end Catalogs

end Simetro.Library
