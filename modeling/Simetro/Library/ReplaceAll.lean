import Simetro.Library.Pattern

/-! The matches of a pattern in a text, from the left and without overlaps, and the text with
each of them replaced. -/

namespace Simetro.Library

/-- A pattern to search for: no match of it is empty. -/
structure Needle where
  pattern : Pattern
  solid : pattern.solid = true

/-- What a search makes of a text: characters outside the matches, and matches. -/
inductive Piece where
  | kept (letter : Char)
  | hit
  deriving DecidableEq

def Piece.render (replacement : List Char) : Piece → List Char
  | .kept letter => [letter]
  | .hit => replacement

namespace Needle

variable (needle : Needle)

/-- The pieces of a text behind the `skip` characters that a match still takes. -/
def pieces : Nat → List Char → List Piece
  | _, [] => []
  | skip + 1, _ :: rest => pieces skip rest
  | 0, letter :: rest =>
      match needle.pattern.first (letter :: rest) with
      | none => .kept letter :: pieces 0 rest
      | some left => .hit :: pieces (rest.length - left.length) rest

/-- How many matches an iteration finds. -/
def countMatches (text : List Char) : Nat := (needle.pieces 0 text).count .hit

def replaceAll (replacement text : List Char) : List Char :=
  (needle.pieces 0 text).flatMap (Piece.render replacement)

/-- A text falls into its pieces, each match the preferred one where none began before. -/
inductive Splits : List Char → List Piece → Prop where
  | nil : Splits [] []
  | kept {letter : Char} {rest : List Char} {pieces : List Piece}
      (apart : needle.pattern.first (letter :: rest) = none) (later : Splits rest pieces) :
      Splits (letter :: rest) (.kept letter :: pieces)
  | hit {word rest : List Char} {pieces : List Piece} (filled : word ≠ [])
      (found : needle.pattern.first (word ++ rest) = some rest) (later : Splits rest pieces) :
      Splits (word ++ rest) (.hit :: pieces)

variable {needle} {text : List Char}

theorem pieces_splits (skip : Nat) : needle.Splits (text.drop skip) (needle.pieces skip text) := by
  induction text generalizing skip with
  | nil => rw [List.drop_nil, pieces]; exact .nil
  | cons letter rest ih =>
    cases skip with
    | succ skip => exact ih skip
    | zero =>
      rw [pieces, List.drop_zero]
      cases found : needle.pattern.first (letter :: rest) with
      | none => exact .kept found (ih 0)
      | some left =>
        obtain ⟨word, spelt, same⟩ := Pattern.first_spells found
        cases word with
        | nil => exact absurd rfl (Pattern.ne_nil_of_solid spelt needle.solid)
        | cons head word =>
          have whole : rest = word ++ left := (List.cons_eq_cons.mp same).2
          obtain rfl : letter = head := (List.cons_eq_cons.mp same).1
          subst whole
          have later := ih word.length
          rw [List.drop_left] at later
          simp only [List.length_append, Nat.add_sub_cancel]
          exact @Splits.hit needle (letter :: word) left _ (List.cons_ne_nil _ _) found later

/-- No match begins in what comes first. -/
theorem Splits.kept_all {front : List Char} {pieces : List Piece}
    (none : ∀ before rest, front = before ++ rest → rest ≠ [] →
      needle.pattern.first (rest ++ text) = none) (later : needle.Splits text pieces) :
    needle.Splits (front ++ text) (front.map .kept ++ pieces) := by
  induction front with
  | nil => exact later
  | cons letter front ih =>
    refine .kept (none [] (letter :: front) rfl (List.cons_ne_nil _ _)) (ih fun before rest split => ?_)
    exact none (letter :: before) rest (congrArg (letter :: ·) split)

theorem Splits.unique {pieces others : List Piece} (first : needle.Splits text pieces)
    (second : needle.Splits text others) : pieces = others := by
  induction first generalizing others with
  | nil =>
    generalize whole : ([] : List Char) = text at second
    cases second with
    | nil => rfl
    | kept apart later => cases whole
    | hit filled found later => exact absurd (List.append_eq_nil_iff.mp whole.symm).1 filled
  | @kept letter rest pieces apart later ih =>
    generalize whole : letter :: rest = text at second
    cases second with
    | nil => cases whole
    | kept _ laterToo =>
      obtain ⟨rfl, rfl⟩ := List.cons_eq_cons.mp whole
      rw [ih laterToo]
    | hit filled found laterToo =>
      rw [← whole, apart] at found
      cases found
  | @hit word rest pieces filled found later ih =>
    generalize whole : word ++ rest = text at second
    cases second with
    | nil => exact absurd (List.append_eq_nil_iff.mp whole).1 filled
    | kept apart laterToo =>
      rw [whole, apart] at found
      cases found
    | @hit wordToo restToo others filledToo foundToo laterToo =>
      rw [whole, foundToo] at found
      obtain rfl := Option.some.inj found
      rw [ih laterToo]

theorem replaceAll_eq {pieces : List Piece} (splits : needle.Splits text pieces)
    (replacement : List Char) :
    needle.replaceAll replacement text = pieces.flatMap (Piece.render replacement) := by
  rw [replaceAll, (pieces_splits 0).unique splits]

theorem countMatches_eq {pieces : List Piece} (splits : needle.Splits text pieces) :
    needle.countMatches text = pieces.count .hit := by
  rw [countMatches, (pieces_splits 0).unique splits]

theorem splits_of_missed (missed : ¬ needle.pattern.Occurs text) :
    needle.Splits text (text.map .kept) := by
  induction text with
  | nil => exact .nil
  | cons letter rest ih =>
    refine .kept (Pattern.first_eq_none.mpr ?_) (ih ?_)
    · intro word after same spelt
      exact missed ⟨[], word, after, same, spelt⟩
    · rintro ⟨before, word, after, rfl, spelt⟩
      exact missed ⟨letter :: before, word, after, rfl, spelt⟩

/-- A text without a match stays as it is. -/
theorem replaceAll_of_missed (missed : ¬ needle.pattern.Occurs text) (replacement : List Char) :
    needle.replaceAll replacement text = text := by
  rw [replaceAll_eq (splits_of_missed missed), List.flatMap_map]
  change text.flatMap (fun letter => [letter]) = text
  exact List.flatMap_singleton' text

theorem countMatches_eq_zero : needle.countMatches text = 0 ↔ ¬ needle.pattern.Occurs text := by
  constructor
  · intro none
    have splits : needle.Splits text (needle.pieces 0 text) := pieces_splits 0
    have never : Piece.hit ∉ needle.pieces 0 text := List.count_eq_zero.mp none
    generalize needle.pieces 0 text = pieces at splits never
    clear none
    rintro ⟨before, word, after, same, spelt⟩
    induction splits generalizing before with
    | nil =>
      obtain ⟨front, -⟩ := List.append_eq_nil_iff.mp same.symm
      exact Pattern.ne_nil_of_solid spelt needle.solid (List.append_eq_nil_iff.mp front).2
    | kept apart later ih =>
      cases before with
      | nil => exact Pattern.first_eq_none.mp apart word after same spelt
      | cons head before =>
        exact ih (fun listed => never (List.mem_cons_of_mem _ listed)) before
          (List.cons_eq_cons.mp same).2
    | hit => exact absurd List.mem_cons_self never
  · intro missed
    rw [countMatches_eq (splits_of_missed missed), List.count_eq_zero]
    simp

end Needle

end Simetro.Library
