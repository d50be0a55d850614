import Mathlib.Data.List.TakeWhile
import Simetro.Library.Json
import Simetro.Library.Splitting

/-! The reader takes back what the writer wrote, whatever the strings hold, and what is
written stands on one line. -/

namespace Simetro.Library.Json

mutual

/-- Every number of the value is written as one. -/
def Sound : Json → Prop
  | .number literal => isNumber literal.toList = true
  | .array items => ItemsSound items
  | .object members => MembersSound members
  | _ => True

def ItemsSound : List Json → Prop
  | [] => True
  | item :: items => Sound item ∧ ItemsSound items

def MembersSound : List (String × Json) → Prop
  | [] => True
  | (_, value) :: members => Sound value ∧ MembersSound members

end

section Strings

variable {character : Char} {text rest : List Char}

theorem hexValue_hexDigit : ∀ value < 16, hexValue (hexDigit value) = some value := by decide

theorem escaped_starts (character : Char) :
    ∃ head tail, escaped character = head :: tail ∧ head ≠ '"' := by
  unfold escaped
  by_cases quote : character = '"'
  · rw [if_pos quote]
    exact ⟨_, _, rfl, by decide⟩
  · rw [if_neg quote]
    repeat first
      | exact ⟨_, _, rfl, by decide⟩
      | exact ⟨_, _, rfl, quote⟩
      | split

theorem readChar_plain (slash : character ≠ '\\') (visible : ¬ character.toNat < 32) :
    readChar (character :: rest) = some (character, rest) := by
  unfold readChar
  split
  · rename_i same
    exact absurd (List.cons.inj same).1 slash
  · rename_i same
    exact absurd (List.cons.inj same).1 slash
  · rename_i same
    obtain ⟨rfl, rfl⟩ := List.cons.inj same
    rw [if_neg visible]
  · rename_i same
    cases same

theorem readChar_control (control : character.toNat < 32) :
    readChar ('\\' :: 'u' :: '0' :: '0' :: hexDigit (character.toNat / 16) ::
      hexDigit (character.toNat % 16) :: rest) = some (character, rest) := by
  have zero : hexValue '0' = some 0 := by decide
  have high := hexValue_hexDigit (character.toNat / 16) (by omega)
  have low := hexValue_hexDigit (character.toNat % 16) (by omega)
  have code : (0 * 16 + 0) * 16 + character.toNat / 16 = character.toNat / 16 := by omega
  have whole : character.toNat / 16 * 16 + character.toNat % 16 = character.toNat := by omega
  have unit : readHex ('0' :: '0' :: hexDigit (character.toNat / 16) ::
      hexDigit (character.toNat % 16) :: rest) = some (character.toNat, rest) := by
    simp only [readHex, zero, high, low, Option.bind_eq_bind, Option.bind_some, code, whole]
    rfl
  change readUnicode _ = _
  unfold readUnicode
  simp only [unit, Option.bind_eq_bind, Option.bind_some]
  rw [if_neg (by omega), if_neg (by omega), Char.ofNat_toNat]
  rfl

theorem readChar_escaped (character : Char) (rest : List Char) :
    readChar (escaped character ++ rest) = some (character, rest) := by
  unfold escaped
  by_cases quote : character = '"'
  · rw [if_pos quote, quote]
    rfl
  rw [if_neg quote]
  by_cases slash : character = '\\'
  · rw [if_pos slash, slash]
    rfl
  rw [if_neg slash]
  by_cases newline : character = '\n'
  · rw [if_pos newline, newline]
    rfl
  rw [if_neg newline]
  by_cases return' : character = '\r'
  · rw [if_pos return', return']
    rfl
  rw [if_neg return']
  by_cases tab : character = '\t'
  · rw [if_pos tab, tab]
    rfl
  rw [if_neg tab]
  by_cases backspace : character.toNat = 8
  · rw [if_pos backspace, ← Char.ofNat_toNat character, backspace]
    rfl
  rw [if_neg backspace]
  by_cases feed : character.toNat = 12
  · rw [if_pos feed, ← Char.ofNat_toNat character, feed]
    rfl
  rw [if_neg feed]
  by_cases control : character.toNat < 32
  · rw [if_pos control]
    exact readChar_control control
  · rw [if_neg control]
    exact readChar_plain slash control

theorem readText_escaped (text rest : List Char) {fuel : Nat} (enough : text.length < fuel) :
    readText fuel (text.flatMap escaped ++ '"' :: rest) = some (text, rest) := by
  induction text generalizing fuel with
  | nil =>
    obtain ⟨fuel, rfl⟩ := Nat.exists_eq_succ_of_ne_zero (Nat.ne_of_gt enough)
    rfl
  | cons character text ih =>
    obtain ⟨fuel, rfl⟩ := Nat.exists_eq_succ_of_ne_zero (Nat.ne_of_gt (Nat.lt_of_le_of_lt (Nat.zero_le _) enough))
    obtain ⟨head, tail, shape, plain⟩ := escaped_starts character
    have later := @ih fuel (by simpa using enough)
    have first := readChar_escaped character (text.flatMap escaped ++ '"' :: rest)
    rw [List.flatMap_cons, List.append_assoc]
    rw [shape, List.cons_append] at first ⊢
    rw [readText]
    · simp only [first, later, Option.bind_eq_bind, Option.bind_some]
      rfl
    · intro other same
      exact plain (List.cons.inj same).1

theorem length_le_escaped (text : List Char) : text.length ≤ (text.flatMap escaped).length := by
  induction text with
  | nil => exact Nat.le_refl _
  | cons character text ih =>
    obtain ⟨head, tail, shape, -⟩ := escaped_starts character
    rw [List.flatMap_cons, List.length_append, shape]
    simp only [List.length_cons]
    omega

theorem readString_escaped (text : String) (rest : List Char) :
    readString (text.toList.flatMap escaped ++ '"' :: rest) = some (text, rest) := by
  have within := length_le_escaped text.toList
  unfold readString
  rw [readText_escaped]
  · simp
  · rw [List.length_append]
    omega

theorem readKey_quoted (key : String) (rest : List Char) :
    readKey (quoted key ++ ':' :: rest) = some (key, rest) := by
  have quote : skip (quoted key ++ ':' :: rest) =
      '"' :: (key.toList.flatMap escaped ++ '"' :: ':' :: rest) := by
    simp [quoted, skip, isBlankSpace]
  have colon : skip (':' :: rest) = ':' :: rest := by simp [skip, isBlankSpace]
  unfold readKey
  rw [quote]
  simp only [readString_escaped, colon, Option.bind_eq_bind, Option.bind_some]

end Strings

/-- What may follow a number without becoming part of it. -/
def Closes (rest : List Char) : Prop := ∀ head tail, rest = head :: tail → isNumeric head = false

/-- The first character of a value tells it from a blank and from a closing bracket. -/
def Opens (head : Char) : Prop := isBlankSpace head = false ∧ head ≠ ']'

instance (head : Char) : Decidable (Opens head) := inferInstanceAs (Decidable (_ ∧ _))

theorem skip_visible {head : Char} (visible : isBlankSpace head = false) (tail : List Char) :
    skip (head :: tail) = head :: tail :=
  List.dropWhile_cons_of_neg (by simp [visible])

/-- A number begins with its sign or a digit. -/
theorem isNumber_starts {literal : List Char} (number : isNumber literal = true) :
    ∃ head tail, literal = head :: tail ∧ (head = '-' ∨ isDigit head = true) := by
  have unsigned {text : List Char} (accepted : isUnsigned text = true) :
      ∃ head tail, text = head :: tail ∧ (head = '-' ∨ isDigit head = true) := by
    unfold isUnsigned at accepted
    split at accepted
    · exact ⟨_, _, rfl, .inr (by decide)⟩
    · exact ⟨_, _, rfl, .inr (Bool.and_eq_true_iff.mp accepted).1⟩
    · cases accepted
  have rest := (Bool.and_eq_true_iff.mp number).2
  split at rest
  · exact ⟨_, _, rfl, .inl rfl⟩
  · exact unsigned rest

theorem digit_opens {head : Char} (starts : head = '-' ∨ isDigit head = true) : Opens head := by
  rcases starts with rfl | digit
  · decide
  · simp only [isDigit, Bool.and_eq_true, decide_eq_true_eq] at digit
    constructor
    · have apart (other : Char) (below : other < '0') : head ≠ other := by
        rintro rfl
        exact absurd digit.1 (by simpa using below)
      simp [isBlankSpace, apart ' ' (by decide), apart '\n' (by decide), apart '\t' (by decide),
        apart '\r' (by decide)]
    · rintro rfl
      exact absurd digit (by decide)

theorem chars_opens {value : Json} (sound : value.Sound) :
    ∃ head tail, value.chars = head :: tail ∧ Opens head := by
  cases value with
  | number literal =>
    rw [Sound] at sound
    obtain ⟨head, tail, same, starts⟩ := isNumber_starts sound
    exact ⟨head, tail, by rw [chars, same], digit_opens starts⟩
  | bool value => cases value <;> exact ⟨_, _, rfl, by decide⟩
  | array items => cases items <;> exact ⟨_, _, rfl, by decide⟩
  | object members => cases members <;> exact ⟨_, _, rfl, by decide⟩
  | _ => exact ⟨_, _, rfl, by decide⟩

theorem readNumber_literal {literal : String} {rest : List Char}
    (number : isNumber literal.toList = true) (closes : Closes rest) :
    readNumber (literal.toList ++ rest) = some (.number literal, rest) := by
  have numeric : ∀ character ∈ literal.toList, isNumeric character = true :=
    List.all_eq_true.mp (Bool.and_eq_true_iff.mp number).1
  have stop : rest.takeWhile isNumeric = [] ∧ rest.dropWhile isNumeric = rest := by
    cases rest with
    | nil => exact ⟨rfl, rfl⟩
    | cons head tail =>
      have plain : ¬ isNumeric head = true := by simp [closes head tail rfl]
      exact ⟨List.takeWhile_cons_of_neg plain, List.dropWhile_cons_of_neg plain⟩
  unfold readNumber
  simp only
  rw [List.takeWhile_append_of_pos numeric, List.dropWhile_append_of_pos numeric, stop.1, stop.2,
    List.append_nil, if_pos number, String.ofList_toList]

/-- A number is no other kind of value. -/
theorem readValue_number {literal : String} {rest : List Char} {fuel : Nat}
    (number : isNumber literal.toList = true) (closes : Closes rest) :
    readValue (fuel + 1) (literal.toList ++ rest) = some (.number literal, rest) := by
  have read := readNumber_literal number closes
  obtain ⟨head, tail, same, starts⟩ := isNumber_starts number
  rw [same, List.cons_append] at read ⊢
  have kinds {other : Char} {more rest : List Char} (equal : head :: more = other :: rest)
      (bad : other ≠ '-' ∧ isDigit other = false) : False := by
    obtain rfl := (List.cons.inj equal).1
    rcases starts with sign | digit
    · exact bad.1 sign
    · rw [bad.2] at digit
      cases digit
  rw [readValue, skip_visible (digit_opens starts).1]
  split
  · rename_i same
    exact (kinds same (by decide)).elim
  · rename_i same
    exact (kinds same (by decide)).elim
  · rename_i same
    exact (kinds same (by decide)).elim
  · rename_i same
    exact (kinds same (by decide)).elim
  · rename_i same
    exact (kinds same (by decide)).elim
  · rename_i same
    exact (kinds same (by decide)).elim
  · exact read

/-- With enough fuel the reader takes back values, item lists and member lists. -/
structure ReadsBack (fuel : Nat) : Prop where
  value : ∀ (value : Json) (rest : List Char), value.Sound → Closes rest →
    value.chars.length ≤ fuel → readValue fuel (value.chars ++ rest) = some (value, rest)
  items : ∀ (item : Json) (items : List Json) (rest : List Char), item.Sound → ItemsSound items →
    item.chars.length + (itemsChars items).length ≤ fuel →
      readItems fuel (item.chars ++ (itemsChars items ++ rest)) = some (item :: items, rest)
  members : ∀ (key : String) (value : Json) (members : List (String × Json)) (rest : List Char),
    value.Sound → MembersSound members →
      value.chars.length + (membersChars members).length + 1 ≤ fuel →
        readMembers fuel (quoted key ++ ':' :: (value.chars ++ (membersChars members ++ rest))) =
          some ((key, value) :: members, rest)

theorem itemsChars_closes (items : List Json) (rest : List Char) :
    Closes (itemsChars items ++ rest) := by
  intro head tail same
  cases items with
  | nil => exact (List.cons.inj same).1 ▸ rfl
  | cons item items => exact (List.cons.inj same).1 ▸ rfl

theorem membersChars_closes (members : List (String × Json)) (rest : List Char) :
    Closes (membersChars members ++ rest) := by
  intro head tail same
  cases members with
  | nil => exact (List.cons.inj same).1 ▸ rfl
  | cons entry members => exact (List.cons.inj same).1 ▸ rfl

namespace ReadsBack

variable {fuel : Nat} (shorter : ReadsBack fuel)
include shorter

theorem items_succ (item : Json) (items : List Json) (rest : List Char) (sound : item.Sound)
    (others : ItemsSound items)
    (enough : item.chars.length + (itemsChars items).length ≤ fuel + 1) :
    readItems (fuel + 1) (item.chars ++ (itemsChars items ++ rest)) = some (item :: items, rest) := by
  have ends : 0 < (itemsChars items).length := by cases items <;> simp [itemsChars]
  have first := shorter.value item (itemsChars items ++ rest) sound (itemsChars_closes items rest)
    (by omega)
  rw [readItems]
  simp only [first, Option.bind_eq_bind, Option.bind_some]
  cases items with
  | nil => rfl
  | cons next items =>
    obtain ⟨head, tail, opened, -⟩ := chars_opens sound
    simp only [itemsChars, opened, List.length_cons, List.length_append] at enough
    have later := shorter.items next items rest others.1 others.2 (by omega)
    simp only [itemsChars, List.cons_append, List.append_assoc]
    rw [skip_visible (by decide)]
    simp only [later]
    rfl

theorem members_succ (key : String) (value : Json) (members : List (String × Json))
    (rest : List Char) (sound : value.Sound) (others : MembersSound members)
    (enough : value.chars.length + (membersChars members).length + 1 ≤ fuel + 1) :
    readMembers (fuel + 1) (quoted key ++ ':' :: (value.chars ++ (membersChars members ++ rest))) =
      some ((key, value) :: members, rest) := by
  have first := shorter.value value (membersChars members ++ rest) sound
    (membersChars_closes members rest) (by omega)
  rw [readMembers]
  simp only [readKey_quoted, first, Option.bind_eq_bind, Option.bind_some]
  cases members with
  | nil => rfl
  | cons next members =>
    obtain ⟨nextKey, next⟩ := next
    simp only [membersChars, quoted, List.length_cons, List.length_append] at enough
    have later := shorter.members nextKey next members rest others.1 others.2 (by omega)
    simp only [membersChars, List.cons_append, List.append_assoc] at later ⊢
    rw [skip_visible (by decide)]
    simp only [later]
    rfl

theorem value_succ (value : Json) (rest : List Char) (sound : value.Sound) (closes : Closes rest)
    (enough : value.chars.length ≤ fuel + 1) :
    readValue (fuel + 1) (value.chars ++ rest) = some (value, rest) := by
  cases value with
  | null => rfl
  | bool value => cases value <;> rfl
  | number literal =>
    rw [Sound] at sound
    rw [chars]
    exact readValue_number sound closes
  | string text =>
    have read := readString_escaped text rest
    have whole : (Json.string text).chars ++ rest =
        '"' :: (text.toList.flatMap escaped ++ '"' :: rest) := by simp [chars, quoted]
    rw [whole, readValue, skip_visible (by decide)]
    simp only [read]
    rfl
  | array items =>
    cases items with
    | nil => rfl
    | cons item items =>
      obtain ⟨head, tail, opened, opens⟩ := chars_opens sound.1
      simp only [chars, List.length_cons, List.length_append] at enough
      have read := shorter.items item items rest sound.1 sound.2 (by omega)
      rw [chars, List.cons_append, List.append_assoc, readValue]
      rw [opened, List.cons_append] at read ⊢
      rw [skip_visible (by decide)]
      simp only [skip_visible opens.1]
      split
      · rename_i same
        exact absurd (List.cons.inj same).1 opens.2
      · rw [read]
        rfl
  | object members =>
    cases members with
    | nil => rfl
    | cons entry members =>
      obtain ⟨key, value⟩ := entry
      simp only [chars, quoted, List.length_cons, List.length_append] at enough
      have read := shorter.members key value members rest sound.1 sound.2 (by omega)
      rw [chars, List.cons_append, List.append_assoc, readValue]
      simp only [List.cons_append, List.append_assoc] at read ⊢
      have opened : quoted key ++ ':' :: (value.chars ++ (membersChars members ++ rest)) =
          '"' :: (key.toList.flatMap escaped ++ '"' :: ':' ::
            (value.chars ++ (membersChars members ++ rest))) := by simp [quoted]
      rw [opened] at read ⊢
      rw [skip_visible (by decide)]
      simp only [skip_visible (show isBlankSpace '"' = false by decide)]
      split
      · rename_i same
        exact absurd (List.cons.inj same).1 (by decide)
      · rw [read]
        rfl

end ReadsBack

theorem readsBack (fuel : Nat) : ReadsBack fuel := by
  induction fuel with
  | zero =>
    refine ⟨fun value rest sound _ enough => ?_, fun item items rest sound _ enough => ?_,
      fun key value members rest _ _ enough => ?_⟩
    · obtain ⟨head, tail, opened, -⟩ := chars_opens sound
      simp [opened] at enough
    · obtain ⟨head, tail, opened, -⟩ := chars_opens sound
      simp [opened] at enough
    · omega
  | succ fuel shorter => exact ⟨shorter.value_succ, shorter.items_succ, shorter.members_succ⟩

/-- The reader inverts the writer. -/
theorem parse_chars {value : Json} (sound : value.Sound) : parse value.chars = some value := by
  have read := (readsBack (value.chars.length + 1)).value value [] sound (by intro _ _ same; cases same)
    (Nat.le_succ _)
  rw [List.append_nil] at read
  unfold parse
  simp only [read, Option.bind_eq_bind, Option.bind_some]
  rfl

section Lines

theorem escaped_visible {character other : Char} (member : other ∈ escaped character) :
    32 ≤ other.toNat := by
  have hex (value : Nat) (small : value < 16) : 32 ≤ (hexDigit value).toNat := by
    have all : ∀ value < 16, 32 ≤ (hexDigit value).toNat := by decide
    exact all value small
  unfold escaped at member
  by_cases control : character.toNat < 32
  · have high := hex (character.toNat / 16) (by omega)
    have low := hex (character.toNat % 16) (by omega)
    repeat' split at member
    all_goals
      simp only [List.mem_cons, List.not_mem_nil, or_false] at member
      rcases member with rfl | rfl | rfl | rfl | rfl | rfl <;> first | decide | assumption
  · repeat' split at member
    all_goals
      simp only [List.mem_cons, List.not_mem_nil, or_false] at member
      rcases member with rfl | rfl | rfl | rfl | rfl | rfl <;> first | decide | omega

theorem quoted_visible {text : String} {other : Char} (member : other ∈ quoted text) :
    32 ≤ other.toNat := by
  rw [quoted] at member
  rcases List.mem_cons.mp member with rfl | inside
  · decide
  rcases List.mem_append.mp inside with inner | closing
  · obtain ⟨character, -, listed⟩ := List.mem_flatMap.mp inner
    exact escaped_visible listed
  · rw [List.mem_singleton.mp closing]
    decide

theorem isNumeric_visible {character : Char} (numeric : isNumeric character = true) :
    32 ≤ character.toNat := by
  rcases Bool.or_eq_true_iff.mp numeric with digit | sign
  · simp only [isDigit, Bool.and_eq_true, decide_eq_true_eq] at digit
    have above : '0'.toNat ≤ character.toNat := digit.1
    exact Nat.le_trans (by decide) above
  · simp only [List.contains_eq_mem, List.mem_cons, List.not_mem_nil, or_false,
      decide_eq_true_eq] at sign
    rcases sign with rfl | rfl | rfl | rfl | rfl <;> decide

mutual

/-- Nothing written is a control character. -/
theorem chars_visible : (value : Json) → value.Sound → ∀ other ∈ value.chars, 32 ≤ other.toNat
  | .null, _, other, member => by
    simp only [chars, List.mem_cons, List.not_mem_nil, or_false] at member
    rcases member with rfl | rfl | rfl | rfl <;> decide
  | .bool true, _, other, member => by
    simp only [chars, List.mem_cons, List.not_mem_nil, or_false] at member
    rcases member with rfl | rfl | rfl | rfl <;> decide
  | .bool false, _, other, member => by
    simp only [chars, List.mem_cons, List.not_mem_nil, or_false] at member
    rcases member with rfl | rfl | rfl | rfl | rfl <;> decide
  | .number literal, sound, other, member => by
    rw [Sound] at sound
    have numeric := List.all_eq_true.mp (Bool.and_eq_true_iff.mp sound).1
    exact isNumeric_visible (numeric other (by simpa [chars] using member))
  | .string text, _, other, member => quoted_visible (by simpa [chars] using member)
  | .array [], _, other, member => by
    simp only [chars, List.mem_cons, List.not_mem_nil, or_false] at member
    rcases member with rfl | rfl <;> decide
  | .array (item :: items), sound, other, member => by
    rw [chars] at member
    rcases List.mem_cons.mp member with rfl | inside
    · decide
    rcases List.mem_append.mp inside with first | later
    · exact chars_visible item sound.1 other first
    · exact itemsChars_visible items sound.2 other later
  | .object [], _, other, member => by
    simp only [chars, List.mem_cons, List.not_mem_nil, or_false] at member
    rcases member with rfl | rfl <;> decide
  | .object ((key, value) :: members), sound, other, member => by
    rw [chars] at member
    rcases List.mem_cons.mp member with rfl | inside
    · decide
    rcases List.mem_append.mp inside with name | rest
    · exact quoted_visible name
    rcases List.mem_cons.mp rest with rfl | rest
    · decide
    rcases List.mem_append.mp rest with first | later
    · exact chars_visible value sound.1 other first
    · exact membersChars_visible members sound.2 other later

theorem itemsChars_visible : (items : List Json) → ItemsSound items →
    ∀ other ∈ itemsChars items, 32 ≤ other.toNat
  | [], _, other, member => by
    rw [itemsChars] at member
    rw [List.mem_singleton.mp member]
    decide
  | item :: items, sound, other, member => by
    rw [itemsChars] at member
    rcases List.mem_cons.mp member with rfl | inside
    · decide
    rcases List.mem_append.mp inside with first | later
    · exact chars_visible item sound.1 other first
    · exact itemsChars_visible items sound.2 other later

theorem membersChars_visible : (members : List (String × Json)) → MembersSound members →
    ∀ other ∈ membersChars members, 32 ≤ other.toNat
  | [], _, other, member => by
    rw [membersChars] at member
    rw [List.mem_singleton.mp member]
    decide
  | (key, value) :: members, sound, other, member => by
    rw [membersChars] at member
    rcases List.mem_cons.mp member with rfl | inside
    · decide
    rcases List.mem_append.mp inside with name | rest
    · exact quoted_visible name
    rcases List.mem_cons.mp rest with rfl | rest
    · decide
    rcases List.mem_append.mp rest with first | later
    · exact chars_visible value sound.1 other first
    · exact membersChars_visible members sound.2 other later

end

end Lines

section Integers

/-- A positive integer is written without leading zeros. -/
theorem toDigits_starts {value : Nat} (positive : 0 < value) :
    ∃ head tail, Nat.toDigits 10 value = head :: tail ∧ head ≠ '0' := by
  induction value using Nat.strongRecOn with
  | ind value ih =>
    rw [Nat.toDigits_eq_if (by decide)]
    by_cases small : value < 10
    · rw [if_pos small]
      refine ⟨_, _, rfl, ?_⟩
      have apart : ∀ digit < 10, 0 < digit → Nat.digitChar digit ≠ '0' := by decide
      exact apart value small positive
    · rw [if_neg small]
      obtain ⟨head, tail, same, nonzero⟩ := ih (value / 10) (by omega) (by omega)
      exact ⟨head, tail ++ _, by rw [same, List.cons_append], nonzero⟩

theorem isNumber_toDigits (value : Nat) : isNumber (Nat.toDigits 10 value) = true := by
  have digits : ∀ character ∈ Nat.toDigits 10 value, isDigit character = true :=
    fun _ member => isDigit_of_mem_toDigits member
  have numeric : (Nat.toDigits 10 value).all isNumeric = true :=
    List.all_eq_true.mpr fun character member => by simp [isNumeric, digits character member]
  unfold isNumber
  rw [numeric, Bool.true_and]
  rcases Nat.eq_zero_or_pos value with rfl | positive
  · rfl
  · obtain ⟨head, tail, same, nonzero⟩ := toDigits_starts positive
    rw [same] at digits ⊢
    have first := digits head (by simp)
    have rest : tail.dropWhile isDigit = [] :=
      List.dropWhile_eq_nil_iff.mpr fun character member => digits character (by simp [member])
    split
    · rename_i equal
      rw [(List.cons.inj equal).1] at first
      exact absurd first (by decide)
    · unfold isUnsigned
      split
      · rename_i equal
        exact absurd (List.cons.inj equal).1 nonzero
      · rename_i equal
        obtain ⟨rfl, rfl⟩ := List.cons.inj equal
        rw [first, rest]
        rfl
      · rename_i equal
        cases equal

theorem ofNat_sound (value : Nat) : (ofNat value).Sound := by
  rw [ofNat, Sound, String.toList_ofList]
  exact isNumber_toDigits value

theorem below?_ofNat {value bound : Nat} (within : value < bound) :
    below? bound (ofNat value) = some value := by
  have digits : allDigits (Nat.toDigits 10 value) = true := by
    simp only [allDigits, Bool.and_eq_true, Bool.not_eq_true', List.isEmpty_eq_false_iff,
      List.all_eq_true]
    exact ⟨Nat.toDigits_ne_nil, fun _ member => isDigit_of_mem_toDigits member⟩
  simp [below?, ofNat, digits, Nat.ofDigitChars_ten_toDigits, within]

end Integers

section Records

variable {members : List (String × Json)}

private theorem filter_absent {name : String} (absent : name ∉ members.map (·.1)) :
    members.filter (fun entry => entry.1 = name) = [] := by
  refine List.filter_eq_nil_iff.mpr fun entry listed same => ?_
  exact absent (List.mem_map.mpr ⟨entry, listed, of_decide_eq_true same⟩)

theorem member_present {name : String} {value : Json} (distinct : (members.map (·.1)).Nodup)
    (listed : (name, value) ∈ members) : member name members = some (some value) := by
  have only : members.filter (fun entry => entry.1 = name) = [(name, value)] := by
    induction members with
    | nil => cases listed
    | cons entry members ih =>
      obtain ⟨fresh, distinct⟩ := List.nodup_cons.mp distinct
      rcases List.mem_cons.mp listed with rfl | later
      · rw [List.filter_cons_of_pos (by simp), filter_absent fresh]
      · have apart : entry.1 ≠ name := by
          rintro rfl
          exact fresh (List.mem_map.mpr ⟨_, later, rfl⟩)
        rw [List.filter_cons_of_neg (by simpa using apart)]
        exact ih distinct later
  rw [member, only]

/-- A record is read by the names it was written with. -/
theorem fields_object (members : List (String × Json))
    (distinct : (members.map (·.1)).Nodup) :
    fields (members.map (·.1)) (.object members) = some (members.map fun entry => some entry.2) := by
  have each (some' : List (String × Json)) (within : ∀ entry ∈ some', entry ∈ members) :
      (some'.map (·.1)).mapM (fun name => member name members) =
        some (some'.map fun entry => some entry.2) := by
    induction some' with
    | nil => rfl
    | cons entry later ih =>
      have first := member_present distinct (within entry (by simp))
      rw [List.map_cons, List.mapM_cons, first]
      simp only [ih fun other listed => within other (by simp [listed]), Option.bind_eq_bind,
        Option.bind_some]
      rfl
  exact each members fun _ listed => listed

theorem tagged_object {tag name : String} (plain : tag ∉ members.map (·.1)) :
    tagged tag (.object ((tag, .string name) :: members)) = some (name, .object members) := by
  have only : member tag ((tag, Json.string name) :: members) = some (some (.string name)) := by
    rw [member, List.filter_cons_of_pos (by simp), filter_absent plain]
  have rest : members.filter (fun entry => entry.1 ≠ tag) = members := by
    refine List.filter_eq_self.mpr fun entry listed => ?_
    refine decide_eq_true fun same => plain ?_
    exact List.mem_map.mpr ⟨entry, listed, same⟩
  unfold tagged
  simp only [only]
  rw [List.filter_cons_of_neg (by simp), rest]

end Records

end Simetro.Library.Json
