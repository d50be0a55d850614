import Simetro.Library.ReplaceAll

/-! Texts in which matches stand covered by marks. A mark opens and closes with characters of its
own, so that a word without them stands beside the marks or inside one. -/

namespace Simetro.Library

/-- How what is covered is marked. -/
structure Marking (Name : Type) where
  opening : Char
  closing : Char
  body : Name → List Char
  opens : ∀ name, opening ∉ body name
  closes : ∀ name, closing ∉ body name

inductive Token (Name : Type) where
  | shown (letter : Char)
  | covered (name : Name) (hidden : List Char)

namespace Marking

variable {Name : Type} (marking : Marking Name)

def mark (name : Name) : List Char := marking.opening :: marking.body name ++ [marking.closing]

/-- What a reader sees. -/
def written (tokens : List (Token Name)) : List Char := tokens.flatMap fun
  | .shown letter => [letter]
  | .covered name _ => marking.mark name

/-- A word that cannot reach into a mark, and stands in none. -/
structure Apart (word : List Char) : Prop where
  filled : word ≠ []
  opening : marking.opening ∉ word
  closing : marking.closing ∉ word
  outside : ∀ name, ¬ word <:+: marking.body name

end Marking

/-- What was there before anything was covered. -/
def original {Name : Type} (tokens : List (Token Name)) : List Char := tokens.flatMap fun
  | .shown letter => [letter]
  | .covered _ hidden => hidden

namespace Marking

variable {Name : Type} {marking : Marking Name} {tokens : List (Token Name)}
  {name : Name} {hidden : List Char} {letter : Char}

@[simp] theorem written_nil : marking.written [] = [] := rfl

@[simp] theorem written_append (front back : List (Token Name)) :
    marking.written (front ++ back) = marking.written front ++ marking.written back :=
  List.flatMap_append

@[simp] theorem written_shown :
    marking.written (.shown letter :: tokens) = letter :: marking.written tokens := rfl

@[simp] theorem written_covered : marking.written (.covered name hidden :: tokens) =
    marking.mark name ++ marking.written tokens := rfl

@[simp] theorem written_map_shown (word : List Char) :
    marking.written (word.map .shown) = word := by
  induction word with
  | nil => rfl
  | cons letter rest ih => rw [List.map_cons, written_shown, ih]

theorem written_eq_nil : marking.written tokens = [] ↔ tokens = [] := by
  cases tokens with
  | nil => exact iff_of_true rfl rfl
  | cons token rest =>
    refine iff_of_false ?_ (List.cons_ne_nil _ _)
    cases token <;> simp [mark]

section Aligned

variable {before word after : List Char}

/-- A word at the start that does not open a mark is shown. -/
theorem written_starts (opens : marking.opening ∉ word)
    (same : marking.written tokens = word ++ after) :
    ∃ back, tokens = word.map .shown ++ back ∧ marking.written back = after := by
  induction word generalizing tokens with
  | nil => exact ⟨tokens, rfl, same⟩
  | cons letter rest ih =>
    obtain ⟨other, later⟩ := not_or.mp (mt List.mem_cons.mpr opens)
    cases tokens with
    | nil => cases same
    | cons token tokens =>
      cases token with
      | covered name hidden =>
        have opening : marking.opening = letter := (List.cons_eq_cons.mp same).1
        exact absurd opening other
      | shown first =>
        rw [written_shown, List.cons_append, List.cons_eq_cons] at same
        obtain ⟨rfl, tail⟩ := same
        obtain ⟨back, rfl, left⟩ := ih later tail
        exact ⟨back, rfl, left⟩

/-- A word that stands apart does not begin inside a mark. -/
theorem Apart.not_within {rest : List Char} (apart : marking.Apart word)
    (split : marking.mark name = before ++ rest) (filled : rest ≠ [])
    (same : word ++ after = rest ++ marking.written tokens) : False := by
  obtain ⟨front, rfl⟩ : ∃ front, rest = front ++ [marking.closing] := by
    refine ⟨rest.dropLast, ?_⟩
    have last : rest.getLast filled = marking.closing := by
      have whole : (marking.mark name).getLast? = (before ++ rest).getLast? := by rw [split]
      rw [List.getLast?_append_of_ne_nil before filled, List.getLast?_eq_some_getLast filled, mark,
        List.getLast?_concat] at whole
      exact (Option.some.inj whole).symm
    rw [← last, List.dropLast_append_getLast filled]
  rcases List.append_eq_append_iff.mp same with ⟨more, within, -⟩ | ⟨more, beyond, -⟩
  · -- the word ends inside the mark
    rcases List.eq_nil_or_concat more with rfl | ⟨inner, last, rfl⟩
    · rw [List.append_nil] at within
      exact apart.closing (within ▸ List.mem_append_right _ List.mem_cons_self)
    · rw [List.concat_eq_append, ← List.append_assoc] at within
      obtain ⟨within, -⟩ := List.append_inj' within rfl
      have body : marking.opening :: marking.body name = before ++ front := by
        rw [mark, ← List.append_assoc] at split
        exact (List.append_inj' split rfl).1
      rw [within] at body
      cases before with
      | nil =>
        cases word with
        | nil => exact apart.filled rfl
        | cons first word =>
          exact apart.opening ((List.cons_eq_cons.mp body).1 ▸ List.mem_cons_self)
      | cons first before =>
        refine apart.outside name ⟨before, inner, ?_⟩
        rw [List.append_assoc]
        exact (List.cons_eq_cons.mp body).2.symm
  · exact apart.closing (beyond ▸ List.mem_append_left _
      (List.mem_append_right _ List.mem_cons_self))

/-- A word that stands apart is shown wherever it occurs. -/
theorem Apart.shown (apart : marking.Apart word)
    (same : marking.written tokens = before ++ word ++ after) :
    ∃ front back, tokens = front ++ word.map .shown ++ back ∧ marking.written front = before ∧
      marking.written back = after := by
  induction tokens generalizing before with
  | nil =>
    have empty := (List.append_eq_nil_iff.mp (List.append_eq_nil_iff.mp same.symm).1).2
    exact absurd empty apart.filled
  | cons token tokens ih =>
    cases token with
    | shown letter =>
      cases before with
      | nil =>
        obtain ⟨back, split, left⟩ := written_starts apart.opening same
        exact ⟨[], back, split, rfl, left⟩
      | cons head before =>
        rw [written_shown, List.cons_append, List.cons_append, List.cons_eq_cons] at same
        obtain ⟨rfl, tail⟩ := same
        obtain ⟨front, back, rfl, rfl, left⟩ := ih tail
        exact ⟨.shown letter :: front, back, rfl, rfl, left⟩
    | covered name hidden =>
      rw [written_covered, List.append_assoc] at same
      rcases List.append_eq_append_iff.mp same with ⟨more, rfl, tail⟩ | ⟨more, split, tail⟩
      · rw [← List.append_assoc] at tail
        obtain ⟨front, back, rfl, rfl, left⟩ := ih tail
        exact ⟨.covered name hidden :: front, back, rfl, rfl, left⟩
      · cases more with
        | nil =>
          rw [List.append_nil] at split
          obtain ⟨front, back, rfl, ended, left⟩ := @ih [] tail.symm
          refine ⟨.covered name hidden :: front, back, rfl, ?_, left⟩
          rw [written_covered, ended, List.append_nil, split]
        | cons first more =>
          exact (apart.not_within split (List.cons_ne_nil first more) tail).elim

end Aligned

/-- Every word of the pattern stands apart. -/
def Clear (marking : Marking Name) (pattern : Pattern) : Prop :=
  ∀ word, pattern.Spells word → marking.Apart word

/-- The words of the pattern begin and end with words that stand apart. -/
structure Bounded (marking : Marking Name) (pattern : Pattern) : Prop where
  starts : ∀ word, pattern.Spells word → ∃ front rest, word = front ++ rest ∧ marking.Apart front
  ends : ∀ word, pattern.Spells word → ∃ rest back, word = rest ++ back ∧ marking.Apart back

section Patterns

variable {pattern first gap last : Pattern}

theorem Clear.of_checks (solid : pattern.solid = true)
    (opening : pattern.admits marking.opening = false) (closing : pattern.admits marking.closing = false)
    (outside : ∀ name, pattern.misses (marking.body name) = true) : marking.Clear pattern := by
  intro word spelt
  refine ⟨Pattern.ne_nil_of_solid spelt solid, fun listed => ?_, fun listed => ?_, fun name within => ?_⟩
  · rw [Pattern.admits_of_mem spelt listed] at opening
    cases opening
  · rw [Pattern.admits_of_mem spelt listed] at closing
    cases closing
  · obtain ⟨before, after, same⟩ := within
    exact Pattern.misses_iff.mp (outside name) ⟨before, word, after, same.symm, spelt⟩

theorem Clear.bounded (clear : marking.Clear pattern) : marking.Bounded pattern where
  starts word spelt := ⟨word, [], (List.append_nil word).symm, clear word spelt⟩
  ends word spelt := ⟨[], word, rfl, clear word spelt⟩

/-- Between two such patterns anything may stand. -/
theorem bounded_framed (opens : marking.Clear first) (closes : marking.Clear last) :
    marking.Bounded (.seq first (.seq gap last)) where
  starts := by
    rintro _ ⟨front, _, speltFirst, _, rfl⟩
    exact ⟨front, _, rfl, opens front speltFirst⟩
  ends := by
    rintro _ ⟨front, _, -, ⟨between, back, -, speltLast, rfl⟩, rfl⟩
    exact ⟨front ++ between, back, (List.append_assoc _ _ _).symm, closes back speltLast⟩

theorem Bounded.not_begun {text rest before : List Char} (bounded : marking.Bounded pattern)
    (split : marking.mark name = before ++ rest) (filled : rest ≠ [])
    (same : text = rest ++ marking.written tokens) : pattern.first text = none := by
  rw [Pattern.first_eq_none]
  rintro word after rfl spelt
  obtain ⟨front, middle, rfl, apart⟩ := bounded.starts word spelt
  rw [List.append_assoc] at same
  exact apart.not_within split filled same

/-- A match at the start takes up whole tokens. -/
theorem Bounded.taken {word rest : List Char} (bounded : marking.Bounded pattern)
    (spelt : pattern.Spells word) (same : marking.written tokens = word ++ rest) :
    ∃ front back, tokens = front ++ back ∧ marking.written front = word ∧
      marking.written back = rest := by
  obtain ⟨before, last, rfl, apart⟩ := bounded.ends word spelt
  obtain ⟨front, back, rfl, started, left⟩ := apart.shown same
  refine ⟨front ++ last.map .shown, back, rfl, ?_, left⟩
  rw [written_append, started, written_map_shown]

end Patterns

end Marking

/-- One search through a text: what it finds is covered, from the left and without overlaps. -/
inductive Covers {Name : Type} (marking : Marking Name) (needle : Needle) (name : Name) :
    List (Token Name) → List (Token Name) → Prop where
  | nil : Covers marking needle name [] []
  | keep {token : Token Name} {rest after : List (Token Name)}
      (none : needle.pattern.first (marking.written (token :: rest)) = none)
      (later : Covers marking needle name rest after) :
      Covers marking needle name (token :: rest) (token :: after)
  | cover {front back after : List (Token Name)} (filled : front ≠ [])
      (found : needle.pattern.first (marking.written (front ++ back)) = some (marking.written back))
      (later : Covers marking needle name back after) :
      Covers marking needle name (front ++ back) (.covered name (original front) :: after)

namespace Covers

variable {Name : Type} {marking : Marking Name} {needle : Needle} {name : Name}
  {tokens after : List (Token Name)}

/-- What is covered is what was there. -/
theorem original (covers : Covers marking needle name tokens after) :
    Library.original after = Library.original tokens := by
  induction covers with
  | nil => rfl
  | @keep token rest after none later ih =>
    rw [Library.original, List.flatMap_cons, ← Library.original, ih]
    rfl
  | @cover front back after filled found later ih =>
    rw [Library.original, List.flatMap_cons, ← Library.original, ih]
    exact (List.flatMap_append).symm

theorem exist (bounded : marking.Bounded needle.pattern) (tokens : List (Token Name)) :
    ∃ after, Covers marking needle name tokens after := by
  induction size : tokens.length using Nat.strongRecOn generalizing tokens with
  | ind size ih =>
    subst size
    cases tokens with
    | nil => exact ⟨[], .nil⟩
    | cons token rest =>
      cases found : needle.pattern.first (marking.written (token :: rest)) with
      | none =>
        obtain ⟨after, later⟩ := ih rest.length (Nat.lt_succ_self _) rest rfl
        exact ⟨token :: after, .keep found later⟩
      | some left =>
        obtain ⟨word, spelt, same⟩ := Pattern.first_spells found
        obtain ⟨front, back, split, rfl, rfl⟩ := bounded.taken spelt same
        have filled : front ≠ [] := by
          rintro rfl
          exact Pattern.ne_nil_of_solid spelt needle.solid rfl
        have shorter : back.length < (token :: rest).length := by
          rw [split, List.length_append]
          exact Nat.lt_add_of_pos_left (List.length_pos_iff.mpr filled)
        obtain ⟨after, later⟩ := ih back.length shorter back rfl
        rw [split] at found ⊢
        exact ⟨_, .cover filled found later⟩

/-- The search through the text with its marks finds the same. -/
theorem splits (bounded : marking.Bounded needle.pattern)
    (covers : Covers marking needle name tokens after) :
    ∃ pieces, needle.Splits (marking.written tokens) pieces ∧
      pieces.flatMap (Piece.render (marking.mark name)) = marking.written after := by
  induction covers with
  | nil => exact ⟨[], .nil, rfl⟩
  | @keep token rest after none later ih =>
    obtain ⟨pieces, splits, same⟩ := ih
    cases token with
    | shown letter =>
      refine ⟨.kept letter :: pieces, .kept none splits, ?_⟩
      rw [List.flatMap_cons, same]
      rfl
    | covered other hidden =>
      have whole : needle.Splits (marking.mark other ++ marking.written rest)
          ((marking.mark other).map .kept ++ pieces) :=
        .kept_all (fun before rest split filled => bounded.not_begun split filled rfl) splits
      refine ⟨(marking.mark other).map Piece.kept ++ pieces, whole, ?_⟩
      rw [List.flatMap_append, same, List.flatMap_map]
      exact congrArg (· ++ _) (List.flatMap_singleton' _)
  | @cover front back after filled found later ih =>
    obtain ⟨pieces, splits, same⟩ := ih
    refine ⟨.hit :: pieces, ?_, ?_⟩
    · rw [Marking.written_append] at found ⊢
      exact .hit (mt Marking.written_eq_nil.mp filled) found splits
    · rw [List.flatMap_cons, same]
      rfl

theorem written_eq (bounded : marking.Bounded needle.pattern)
    (covers : Covers marking needle name tokens after) :
    marking.written after = needle.replaceAll (marking.mark name) (marking.written tokens) := by
  obtain ⟨pieces, splits, same⟩ := covers.splits bounded
  rw [Needle.replaceAll_eq splits, same]

section Shown

variable {word : List Char} {front back : List (Token Name)}

theorem cut (covers : Covers marking needle name tokens (front ++ back)) :
    ∃ before after, tokens = before ++ after ∧ Covers marking needle name after back := by
  induction front generalizing tokens with
  | nil => exact ⟨[], tokens, rfl, covers⟩
  | cons token front ih =>
    generalize whole : token :: front ++ back = after at covers
    cases covers with
    | nil => cases whole
    | keep none later =>
      obtain ⟨rfl, rfl⟩ := List.cons_eq_cons.mp whole
      obtain ⟨before, after, rfl, covers⟩ := ih later
      exact ⟨_ :: before, after, rfl, covers⟩
    | cover filled found later =>
      obtain ⟨-, rfl⟩ := List.cons_eq_cons.mp whole
      obtain ⟨before, after, rfl, covers⟩ := ih later
      exact ⟨_ ++ before, after, (List.append_assoc _ _ _).symm, covers⟩

/-- What is shown afterwards was shown before, and no match began at it. -/
theorem shown (covers : Covers marking needle name tokens (word.map .shown ++ back)) :
    ∃ after, tokens = word.map .shown ++ after ∧ Covers marking needle name after back ∧
      (word ≠ [] → needle.pattern.first (word ++ marking.written after) = none) := by
  induction word generalizing tokens with
  | nil => exact ⟨tokens, rfl, covers, fun filled => absurd rfl filled⟩
  | cons letter rest ih =>
    generalize whole : (letter :: rest).map Token.shown ++ back = after at covers
    cases covers with
    | nil => cases whole
    | keep none later =>
      obtain ⟨rfl, rfl⟩ := List.cons_eq_cons.mp whole
      obtain ⟨after, rfl, covers, -⟩ := ih later
      refine ⟨after, rfl, covers, fun _ => ?_⟩
      rwa [Marking.written_shown, Marking.written_append, Marking.written_map_shown] at none
    | cover filled found later => cases (List.cons_eq_cons.mp whole).1

end Shown

end Covers

end Simetro.Library
