import Mathlib.Data.List.Basic
import Mathlib.Data.List.Infix

/-! Patterns of text, and what they match. A match is preferred as a backtracking search would come
to it first; whether there is one depends on the words of the pattern alone. -/

namespace Simetro.Library

/-- A regular expression without captures and anchors, whose repetitions are of one class. -/
inductive Pattern where
  | letters (word : List Char)
  | many (test : Char → Bool) (least : Nat) (most : Option Nat) (lazy : Bool)
  | seq (first second : Pattern)
  | alt (first second : Pattern)

namespace Pattern

/-- How many characters a repetition can take, the fewest first. -/
def counts (least : Nat) (most : Option Nat) (run : Nat) : List Nat :=
  (List.range ((most.map (min run)).getD run + 1)).drop least

/-- What is left of a text behind each match at its start, the preferred one first. -/
def rests : Pattern → List Char → List (List Char)
  | .letters expected, text => if expected.isPrefixOf text then [text.drop expected.length] else []
  | .many test least most lazy, text =>
      let counts := counts least most (text.takeWhile test).length
      (if lazy then counts else counts.reverse).map text.drop
  | .seq first second, text => (first.rests text).flatMap second.rests
  | .alt first second, text => first.rests text ++ second.rests text

/-- The preferred match at the start of a text. -/
def first (pattern : Pattern) (text : List Char) : Option (List Char) := (pattern.rests text).head?

/-- The words of a pattern. -/
def Spells : Pattern → List Char → Prop
  | .letters expected, word => word = expected
  | .many test least most _, word => (∀ letter ∈ word, test letter = true) ∧ least ≤ word.length ∧
      ∀ bound, most = some bound → word.length ≤ bound
  | .seq first second, word => ∃ front back, first.Spells front ∧ second.Spells back ∧
      word = front ++ back
  | .alt first second, word => first.Spells word ∨ second.Spells word

theorem mem_counts {least run count : Nat} {most : Option Nat} : count ∈ counts least most run ↔
    least ≤ count ∧ count ≤ run ∧ ∀ bound, most = some bound → count ≤ bound := by
  unfold counts
  rw [List.mem_iff_getElem?]
  simp only [List.getElem?_drop]
  constructor
  · rintro ⟨index, found⟩
    obtain ⟨inside, rfl⟩ := List.getElem?_eq_some_iff.mp found
    rw [List.getElem_range]
    rw [List.length_range] at inside
    cases most with
    | none =>
      rw [Option.map_none, Option.getD_none] at inside
      exact ⟨by omega, by omega, nofun⟩
    | some most =>
      rw [Option.map_some, Option.getD_some] at inside
      refine ⟨by omega, by omega, fun bound same => ?_⟩
      cases same
      omega
  · rintro ⟨enough, fits, within⟩
    refine ⟨count - least, ?_⟩
    rw [Nat.add_sub_cancel' enough, List.getElem?_range]
    cases most with
    | none => exact Nat.lt_succ_of_le fits
    | some most => exact Nat.lt_succ_of_le (Nat.le_min.mpr ⟨fits, within most rfl⟩)

theorem takeWhile_le_iff {test : Char → Bool} {text : List Char} {count : Nat} :
    count ≤ (text.takeWhile test).length ↔
      count ≤ text.length ∧ ∀ letter ∈ text.take count, test letter = true := by
  induction text generalizing count with
  | nil => simp
  | cons letter rest ih =>
    cases count with
    | zero => simp
    | succ count =>
      by_cases passes : test letter = true
      · simp [passes, ih]
      · simp [passes]

theorem rests_iff {pattern : Pattern} {text rest : List Char} :
    rest ∈ pattern.rests text ↔ ∃ word, pattern.Spells word ∧ text = word ++ rest := by
  induction pattern generalizing text rest with
  | letters expected =>
    unfold rests Spells
    split
    · rename_i starts
      obtain ⟨back, rfl⟩ := List.isPrefixOf_iff_prefix.mp starts
      simp [eq_comm]
    · rename_i apart
      refine ⟨nofun, ?_⟩
      rintro ⟨word, rfl, rfl⟩
      have starts : word <+: word ++ rest := List.prefix_append _ _
      exact absurd ( List.isPrefixOf_iff_prefix.mpr starts) apart
  | many test least most lazy =>
    have either : rest ∈ (many test least most lazy).rests text ↔
        ∃ count ∈ counts least most (text.takeWhile test).length, text.drop count = rest := by
      unfold rests
      cases lazy <;> simp
    rw [either]
    unfold Spells
    constructor
    · rintro ⟨count, listed, rfl⟩
      obtain ⟨enough, runs, within⟩ := mem_counts.mp listed
      obtain ⟨fits, passes⟩ := takeWhile_le_iff.mp runs
      refine ⟨text.take count, ⟨passes, ?_, ?_⟩, (List.take_append_drop count text).symm⟩
      · rwa [List.length_take_of_le fits]
      · rwa [List.length_take_of_le fits]
    · rintro ⟨word, ⟨passes, enough, within⟩, rfl⟩
      refine ⟨word.length, mem_counts.mpr ⟨enough, ?_, within⟩, List.drop_left⟩
      refine takeWhile_le_iff.mpr ⟨by simp, ?_⟩
      rwa [List.take_left]
  | seq first second ihFirst ihSecond =>
    unfold rests Spells
    rw [List.mem_flatMap]
    constructor
    · rintro ⟨middle, taken, left⟩
      obtain ⟨front, spelt, rfl⟩ := ihFirst.mp taken
      obtain ⟨back, speltToo, rfl⟩ := ihSecond.mp left
      exact ⟨front ++ back, ⟨front, back, spelt, speltToo, rfl⟩, (List.append_assoc _ _ _).symm⟩
    · rintro ⟨word, ⟨front, back, spelt, speltToo, rfl⟩, rfl⟩
      exact ⟨back ++ rest, ihFirst.mpr ⟨front, spelt, List.append_assoc _ _ _⟩,
        ihSecond.mpr ⟨back, speltToo, rfl⟩⟩
  | alt first second ihFirst ihSecond =>
    unfold rests Spells
    rw [List.mem_append, ihFirst, ihSecond]
    constructor
    · rintro (⟨word, spelt, same⟩ | ⟨word, spelt, same⟩)
      · exact ⟨word, .inl spelt, same⟩
      · exact ⟨word, .inr spelt, same⟩
    · rintro ⟨word, spelt | spelt, same⟩
      · exact .inl ⟨word, spelt, same⟩
      · exact .inr ⟨word, spelt, same⟩

variable {pattern : Pattern} {text : List Char}

theorem first_spells {rest : List Char} (found : pattern.first text = some rest) :
    ∃ word, pattern.Spells word ∧ text = word ++ rest :=
  rests_iff.mp (List.mem_of_head? found)

theorem first_eq_none : pattern.first text = none ↔
    ∀ word rest, text = word ++ rest → ¬ pattern.Spells word := by
  unfold first
  rw [List.head?_eq_none_iff, List.eq_nil_iff_forall_not_mem]
  constructor
  · intro empty word rest same spelt
    exact empty rest (rests_iff.mpr ⟨word, spelt, same⟩)
  · intro never rest listed
    obtain ⟨word, spelt, same⟩ := rests_iff.mp listed
    exact never word rest same spelt

/-- The text has a match. -/
def Occurs (pattern : Pattern) (text : List Char) : Prop :=
  ∃ before word after, text = before ++ word ++ after ∧ pattern.Spells word

section Checks

/-- Whether a character can stand in a word of the pattern. -/
def admits (letter : Char) : Pattern → Bool
  | .letters expected => expected.contains letter
  | .many test _ _ _ => test letter
  | .seq first second => first.admits letter || second.admits letter
  | .alt first second => first.admits letter || second.admits letter

theorem admits_of_mem {letter : Char} {word : List Char} (spelt : pattern.Spells word)
    (listed : letter ∈ word) : pattern.admits letter = true := by
  induction pattern generalizing word with
  | letters expected =>
    obtain rfl : word = expected := spelt
    exact List.contains_iff_mem.mpr listed
  | many test least most lazy => exact spelt.1 letter listed
  | seq first second ihFirst ihSecond =>
    obtain ⟨front, back, speltFirst, speltSecond, rfl⟩ := spelt
    rw [admits, Bool.or_eq_true]
    exact (List.mem_append.mp listed).imp (ihFirst speltFirst) (ihSecond speltSecond)
  | alt first second ihFirst ihSecond =>
    rw [admits, Bool.or_eq_true]
    exact spelt.imp (ihFirst · listed) (ihSecond · listed)

/-- Whether every word has a character. -/
def solid : Pattern → Bool
  | .letters expected => !expected.isEmpty
  | .many _ least _ _ => 0 < least
  | .seq first second => first.solid || second.solid
  | .alt first second => first.solid && second.solid

theorem ne_nil_of_solid {word : List Char} (spelt : pattern.Spells word)
    (solid : pattern.solid = true) : word ≠ [] := by
  induction pattern generalizing word with
  | letters expected =>
    obtain rfl : word = expected := spelt
    rintro rfl
    cases solid
  | many test least most lazy =>
    rintro rfl
    have some : 0 < least := of_decide_eq_true solid
    exact absurd spelt.2.1 (Nat.not_le.mpr some)
  | seq first second ihFirst ihSecond =>
    obtain ⟨front, back, speltFirst, speltSecond, rfl⟩ := spelt
    rintro nil
    obtain ⟨noFront, noBack⟩ := List.append_eq_nil_iff.mp nil
    rcases Bool.or_eq_true _ _ ▸ solid with solid | solid
    · exact ihFirst speltFirst solid noFront
    · exact ihSecond speltSecond solid noBack
  | alt first second ihFirst ihSecond =>
    obtain ⟨solidFirst, solidSecond⟩ := Bool.and_eq_true _ _ ▸ solid
    rcases spelt with spelt | spelt
    · exact ihFirst spelt solidFirst
    · exact ihSecond spelt solidSecond

/-- Whether a text is free of matches. -/
def misses (pattern : Pattern) (text : List Char) : Bool :=
  text.tails.all fun rest => (pattern.first rest).isNone

theorem misses_iff : pattern.misses text = true ↔ ¬ pattern.Occurs text := by
  unfold misses Occurs
  rw [List.all_eq_true]
  constructor
  · rintro none ⟨before, word, after, rfl, spelt⟩
    have tail : word ++ after ∈ (before ++ word ++ after).tails :=
      (List.mem_tails _ _).mpr ⟨before, (List.append_assoc _ _ _).symm⟩
    exact first_eq_none.mp (Option.isNone_iff_eq_none.mp (none _ tail)) word after rfl spelt
  · intro never rest tail
    obtain ⟨before, rfl⟩ := (List.mem_tails _ _).mp tail
    refine Option.isNone_iff_eq_none.mpr (first_eq_none.mpr ?_)
    rintro word after rfl spelt
    exact never ⟨before, word, after, (List.append_assoc _ _ _).symm, spelt⟩

end Checks

end Pattern

end Simetro.Library
