import Mathlib.Data.List.TakeWhile
import Simetro.Library.Text

/-! What trimming, splitting and reading a decimal take apart, and that each reads back the pieces
written side by side. -/

namespace Simetro.Library

/-- White space, as much as there may be. -/
def Blanks (text : List Char) : Prop := ∀ character ∈ text, isWhitespace character = true

/-- No white space at either end. -/
structure Trimmed (text : List Char) : Prop where
  opened : ∀ first ∈ text.head?, isWhitespace first = false
  closed : ∀ last ∈ text.getLast?, isWhitespace last = false

theorem Blanks.nil : Blanks [] := by simp [Blanks]

theorem Blanks.append {first second : List Char} (blank : Blanks first) (more : Blanks second) :
    Blanks (first ++ second) :=
  fun letter member => (List.mem_append.mp member).elim (blank letter) (more letter)

theorem Trimmed.of_plain {text : List Char} (plain : ∀ letter ∈ text, isWhitespace letter = false) :
    Trimmed text :=
  ⟨fun first found => plain first (List.mem_of_mem_head? found),
    fun last found => plain last (List.mem_of_getLast? found)⟩

theorem Trimmed.of_all {text : List Char} (plain : text.all (!isWhitespace ·) = true) :
    Trimmed text :=
  .of_plain fun letter member => by simpa using List.all_eq_true.mp plain letter member

/-- Two texts join to a trimmed one when the first starts it and the second ends it. -/
theorem Trimmed.join {first middle last : List Char} (starts : Trimmed first) (ends : Trimmed last)
    (someFirst : first ≠ []) (someLast : last ≠ []) : Trimmed (first ++ middle ++ last) := by
  constructor
  · intro letter found
    cases first with
    | nil => exact absurd rfl someFirst
    | cons head _ => exact starts.opened letter found
  · intro letter found
    rw [List.getLast?_append, Option.mem_def] at found
    rw [List.getLast?_eq_some_getLast someLast, Option.some_or] at found
    exact ends.closed letter ((List.getLast?_eq_some_getLast someLast).trans found)

theorem dropWhile_opened {text : List Char}
    (opened : ∀ first ∈ text.head?, isWhitespace first = false) :
    text.dropWhile isWhitespace = text := by
  cases text with
  | nil => rfl
  | cons first rest => rw [List.dropWhile_cons, opened first rfl, if_neg Bool.false_ne_true]

theorem opened_dropWhile (text : List Char) :
    ∀ first ∈ (text.dropWhile isWhitespace).head?, isWhitespace first = false := by
  intro first found
  have stopped := List.head?_dropWhile_not isWhitespace text
  rw [Option.mem_def.mp found] at stopped
  exact stopped

/-- What is trimmed off a text is white space at its ends, and all of it. -/
theorem trim_eq_iff {text core : List Char} : trim text = core ↔
    Trimmed core ∧ ∃ lead trail, Blanks lead ∧ Blanks trail ∧ text = lead ++ core ++ trail := by
  constructor
  · rintro rfl
    let rest := text.dropWhile isWhitespace
    let trail := (rest.reverse.takeWhile isWhitespace).reverse
    have split : rest = trim text ++ trail := by
      have pieces := List.takeWhile_append_dropWhile (p := isWhitespace) (l := rest.reverse)
      have whole := congrArg List.reverse pieces
      rw [List.reverse_append, List.reverse_reverse] at whole
      exact whole.symm
    refine ⟨⟨?_, ?_⟩, text.takeWhile isWhitespace, trail, ?_, ?_, ?_⟩
    · intro first found
      have whole : first ∈ rest.head? := by
        rw [split, List.head?_append, Option.mem_def, Option.mem_def.mp found, Option.some_or]
      exact opened_dropWhile text first whole
    · intro last found
      rw [trim, List.getLast?_reverse] at found
      exact opened_dropWhile rest.reverse last found
    · exact fun letter member => List.mem_takeWhile_imp member
    · exact fun letter member => List.mem_takeWhile_imp (List.mem_reverse.mp member)
    · rw [List.append_assoc, ← split, List.takeWhile_append_dropWhile]
  · rintro ⟨trimmed, lead, trail, leads, trails, rfl⟩
    have opens : (lead ++ core ++ trail).dropWhile isWhitespace =
        (core ++ trail).dropWhile isWhitespace := by
      rw [List.append_assoc, List.dropWhile_append_of_pos leads]
    have closes : (core ++ trail).reverse.dropWhile isWhitespace = core.reverse := by
      rw [List.reverse_append, List.dropWhile_append_of_pos (by simpa [Blanks] using trails)]
      refine dropWhile_opened ?_
      rw [List.head?_reverse]
      exact trimmed.closed
    by_cases empty : core = []
    · subst empty
      have nothing : trail.dropWhile isWhitespace = [] := List.dropWhile_eq_nil_iff.mpr trails
      simp [trim, List.dropWhile_append_of_pos leads, nothing]
    · have starts : (core ++ trail).dropWhile isWhitespace = core ++ trail := by
        refine dropWhile_opened ?_
        cases core with
        | nil => exact absurd rfl empty
        | cons head _ => exact trimmed.opened
      rw [trim, opens, starts, closes, List.reverse_reverse]

theorem trim_around (text : List Char) :
    ∃ lead trail, Blanks lead ∧ Blanks trail ∧ text = lead ++ trim text ++ trail :=
  (trim_eq_iff.mp rfl).2

theorem trim_behind {kept gap : List Char} (trimmed : Trimmed kept) (blank : Blanks gap) :
    trim (kept ++ gap) = kept :=
  trim_eq_iff.mpr ⟨trimmed, [], gap, .nil, blank, rfl⟩

theorem trim_ahead {kept gap : List Char} (trimmed : Trimmed kept) (blank : Blanks gap) :
    trim (gap ++ kept) = kept :=
  trim_eq_iff.mpr ⟨trimmed, gap, [], blank, .nil, (List.append_nil _).symm⟩

theorem stripPrefix_cons (first head : Char) (rest tail : List Char) :
    stripPrefix (first :: rest) (head :: tail) =
      if first = head then stripPrefix rest tail else none := rfl

theorem stripPrefix_eq_some_iff {expected text rest : List Char} :
    stripPrefix expected text = some rest ↔ text = expected ++ rest := by
  induction expected generalizing text with
  | nil => simp [stripPrefix]
  | cons first expected ih =>
    cases text with
    | nil => simp [stripPrefix]
    | cons head tail =>
      by_cases same : first = head
      · simp [stripPrefix_cons, same, ih]
      · simp [stripPrefix_cons, same, Ne.symm same]

theorem stripSuffix_eq_some_iff {expected text rest : List Char} :
    stripSuffix expected text = some rest ↔ text = rest ++ expected := by
  rw [stripSuffix, Option.map_eq_some_iff]
  constructor
  · rintro ⟨front, found, rfl⟩
    have reversed := congrArg List.reverse (stripPrefix_eq_some_iff.mp found)
    simpa using reversed
  · rintro rfl
    exact ⟨rest.reverse, stripPrefix_eq_some_iff.mpr List.reverse_append, List.reverse_reverse rest⟩

section Split

variable {separator text before after : List Char}

theorem splitOnce_cons (separator tail : List Char) (head : Char) :
    splitOnce separator (head :: tail) = match stripPrefix separator (head :: tail) with
      | some rest => some ([], rest)
      | none => (splitOnce separator tail).map fun (before, after) => (head :: before, after) :=
  rfl

theorem splitOnce_eq (found : splitOnce separator text = some (before, after)) :
    text = before ++ separator ++ after := by
  induction text generalizing before with
  | nil => cases found
  | cons head tail ih =>
    rw [splitOnce_cons] at found
    split at found
    · rename_i rest here
      cases found
      simpa using stripPrefix_eq_some_iff.mp here
    · obtain ⟨⟨front, back⟩, later, same⟩ := Option.map_eq_some_iff.mp found
      cases same
      rw [ih later]
      rfl

/-- The halves of a split text with the white space around them. -/
theorem splitOnce_trimmed (found : splitOnce separator text = some (before, after)) :
    ∃ lead gap gap' trail, (Blanks lead ∧ Blanks trail) ∧ (Blanks gap ∧ Blanks gap') ∧
      text = lead ++ (trim before ++ gap ++ separator ++ (gap' ++ trim after)) ++ trail := by
  obtain ⟨lead, gap, leads, behind, left⟩ := trim_around before
  obtain ⟨gap', trail, ahead, trails, right⟩ := trim_around after
  refine ⟨lead, gap, gap', trail, ⟨leads, trails⟩, ⟨behind, ahead⟩, ?_⟩
  calc text = before ++ separator ++ after := splitOnce_eq found
    _ = (lead ++ trim before ++ gap) ++ separator ++ (gap' ++ trim after ++ trail) := by
      rw [← left, ← right]
    _ = lead ++ (trim before ++ gap ++ separator ++ (gap' ++ trim after)) ++ trail := by
      simp only [List.append_assoc]

/-- The first split lies behind whatever lacks the separator's first letter. -/
theorem splitOnce_skip {first : Char} (opens : separator.head? = some first)
    (plain : first ∉ before) (rest : List Char) : splitOnce separator (before ++ rest) =
      (splitOnce separator rest).map fun (front, back) => (before ++ front, back) := by
  obtain ⟨others, rfl⟩ := List.head?_eq_some_iff.mp opens
  induction before with
  | nil => simp
  | cons head before ih =>
    obtain ⟨apart, plain⟩ := not_or.mp (mt List.mem_cons.mpr plain)
    have past : stripPrefix (first :: others) (head :: (before ++ rest)) = none := by
      rw [stripPrefix_cons, if_neg apart]
    rw [List.cons_append, splitOnce_cons, past, ih plain]
    simp [Function.comp_def]

theorem splitOnce_at {first : Char} (opens : separator.head? = some first) (plain : first ∉ before)
    (after : List Char) :
    splitOnce separator (before ++ separator ++ after) = some (before, after) := by
  obtain ⟨others, rfl⟩ := List.head?_eq_some_iff.mp opens
  have here : stripPrefix (first :: others) (first :: others ++ after) = some after :=
    stripPrefix_eq_some_iff.mpr rfl
  rw [List.append_assoc, splitOnce_skip opens plain, List.cons_append, splitOnce_cons,
    ← List.cons_append, here]
  simp

theorem splitOnce_absent {first : Char} (opens : separator.head? = some first)
    (plain : first ∉ text) : splitOnce separator text = none := by
  have behind := splitOnce_skip opens plain []
  rw [List.append_nil] at behind
  rw [behind]
  rfl

end Split

section Decimals

/-- An unsigned decimal number; leading zeros do no harm. -/
structure Decimal (digits : List Char) (value : Nat) : Prop where
  nonempty : digits ≠ []
  plain : ∀ digit ∈ digits, isDigit digit = true
  value : decimalValue digits = value

/-- An unsigned decimal number behind an admitted sign. -/
def Numeral (sign : List Char → Prop) (text : List Char) (value : Nat) : Prop :=
  ∃ plus digits, sign plus ∧ Decimal digits value ∧ text = plus ++ digits

/-- A plus sign, or none. -/
def MayPlus (text : List Char) : Prop := text = [] ∨ text = ['+']

theorem Decimal.unsigned {digits : List Char} {value : Nat} (decimal : Decimal digits value) :
    stripPrefix ['+'] digits = none := by
  rw [Option.eq_none_iff_forall_ne_some]
  intro rest found
  have signed := decimal.plain '+' (by simp [stripPrefix_eq_some_iff.mp found])
  revert signed
  decide

theorem parseU64_eq_some_iff {text : List Char} {value : Nat} :
    parseU64 text = some value ↔ Numeral MayPlus text value ∧ value ≤ u64Max := by
  have reads (digits : List Char) (stripped : (stripPrefix ['+'] text).getD text = digits) :
      parseU64 text = some value ↔ Decimal digits value ∧ value ≤ u64Max := by
    simp only [parseU64, stripped]
    constructor
    · intro found
      split at found
      · cases found
      · rename_i accepted
        simp only [Bool.or_eq_true, not_or, Bool.not_eq_true, List.isEmpty_eq_false_iff,
          Bool.not_eq_false', List.all_eq_true, decide_eq_false_iff_not, Nat.not_lt] at accepted
        cases found
        exact ⟨⟨accepted.1.1, accepted.1.2, rfl⟩, accepted.2⟩
    · rintro ⟨⟨nonempty, plain, rfl⟩, within⟩
      have digital : digits.all isDigit = true := List.all_eq_true.mpr plain
      rw [if_neg (by simp [nonempty, digital, within])]
  constructor
  · intro found
    cases stripped : stripPrefix ['+'] text with
    | none =>
      obtain ⟨decimal, within⟩ := (reads text (by rw [stripped]; rfl)).mp found
      exact ⟨⟨[], text, .inl rfl, decimal, rfl⟩, within⟩
    | some digits =>
      obtain ⟨decimal, within⟩ := (reads digits (by rw [stripped]; rfl)).mp found
      exact ⟨⟨['+'], digits, .inr rfl, decimal, stripPrefix_eq_some_iff.mp stripped⟩, within⟩
  · rintro ⟨⟨plus, digits, sign, decimal, rfl⟩, within⟩
    refine (reads digits ?_).mpr ⟨decimal, within⟩
    rcases sign with rfl | rfl
    · rw [List.nil_append, decimal.unsigned, Option.getD_none]
    · rfl

theorem isDigit_of_mem_toDigits {value : Nat} {character : Char}
    (member : character ∈ Nat.toDigits 10 value) : isDigit character = true := by
  have digit := Nat.isDigit_of_mem_toDigits (by decide) (by decide) member
  obtain ⟨least, most⟩ := Char.isDigit_iff_toNat.mp digit
  exact Bool.and_eq_true_iff.mpr ⟨decide_eq_true least, decide_eq_true most⟩

theorem decimal_toDigits (value : Nat) : Decimal (Nat.toDigits 10 value) value where
  nonempty := Nat.toDigits_ne_nil
  plain _ member := isDigit_of_mem_toDigits member
  value := Nat.ofDigitChars_ten_toDigits

theorem toString_injective : Function.Injective (toString : Nat → String) := by
  intro first second same
  have digits : Nat.toDigits 10 first = Nat.toDigits 10 second := by
    rw [← Nat.toList_repr, ← Nat.toList_repr]
    exact congrArg String.toList same
  rw [← (decimal_toDigits first).value, digits, (decimal_toDigits second).value]

theorem isWhitespace_of_digit {character : Char} (digit : isDigit character = true) :
    isWhitespace character = false := by
  obtain ⟨least, most⟩ := Bool.and_eq_true_iff.mp digit
  have low : 48 ≤ character.toNat := of_decide_eq_true least
  have high : character.toNat ≤ 57 := of_decide_eq_true most
  unfold isWhitespace
  simp
  omega

/-- A number holds no white space and no letter but a plus sign. -/
theorem Numeral.letters {sign : List Char → Prop} {text : List Char} {value : Nat}
    (signs : ∀ plus, sign plus → MayPlus plus) (numeral : Numeral sign text value) :
    text ≠ [] ∧ ∀ letter ∈ text, letter = '+' ∨ isDigit letter = true := by
  obtain ⟨plus, digits, signed, decimal, rfl⟩ := numeral
  refine ⟨by simp [decimal.nonempty], fun letter member => ?_⟩
  rcases List.mem_append.mp member with opening | digit
  · rcases signs plus signed with rfl | rfl
    · cases opening
    · exact .inl (List.mem_singleton.mp opening)
  · exact .inr (decimal.plain letter digit)

end Decimals

end Simetro.Library
