import Mathlib.Data.Option.Basic
import Simetro.Library.Splitting
import Simetro.Sl1.ValidateStructure

/-! What an operating state's text may be: one of two templates, with white space around its parts.
The parser accepts the templates and reads off them what they say. -/

namespace Simetro.Sl1

open Simetro.Library

/-- The two templates without the white space around them. What may stand between a metric and
its suffix is `gap`, and what may stand before a number `sign`. -/
inductive Template (gap sign : List Char → Prop) : List Char → Sl1OperatingPredicate → Prop
  | usedPercent {metric : String} {space before after number : List Char} {threshold : Nat}
      (named : isValidSl1Id metric = true) (spaced : gap space)
      (behindLeft : Blanks before) (beforeRight : Blanks after)
      (read : Numeral sign number threshold) (percent : threshold ≤ sl1PercentMax) :
      Template gap sign
        (metric.toList ++ space ++ ".used_percent".toList ++ before ++ ">=".toList ++
          (after ++ number))
        (.usedPercentGte metric threshold)
  | overloadedTicks {before after number : List Char} {ticks : Nat}
      (behindLeft : Blanks before) (beforeRight : Blanks after)
      (read : Numeral sign number ticks) (within : ticks ≤ u64Max) :
      Template gap sign ("overloaded_ticks".toList ++ before ++ ">".toList ++ (after ++ number))
        (.overloadedTicksGt ticks)

/-- A template with white space at both ends. -/
def Spells (gap sign : List Char → Prop) (text : List Char)
    (predicate : Sl1OperatingPredicate) : Prop :=
  ∃ lead core trail, Blanks lead ∧ Blanks trail ∧ text = lead ++ core ++ trail ∧
    Template gap sign core predicate

/-- Nothing in this place. -/
def Absent (text : List Char) : Prop := text = []

/-- The canonical text of a predicate. -/
def Sl1OperatingPredicate.text : Sl1OperatingPredicate → String
  | .usedPercentGte metric threshold => metric ++ ".used_percent >= " ++ toString threshold
  | .overloadedTicksGt ticks => "overloaded_ticks > " ++ toString ticks

section Letters

/-- The letters of an id are no white space and no part of an operator. -/
theorem isIdCharacter_plain {letter : Char} (allowed : isIdCharacter letter = true) :
    isWhitespace letter = false ∧ letter ≠ '>' := by
  change (((decide (letter.val ≥ 'A'.val ∧ letter.val ≤ 'Z'.val) ||
    (decide (letter.val ≥ 'a'.val) && decide (letter.val ≤ 'z'.val))) ||
    (decide (letter.val ≥ '0'.val) && decide (letter.val ≤ '9'.val))) || letter == '_' ||
    letter == '-') = true at allowed
  simp only [Bool.or_eq_true, Bool.and_eq_true, decide_eq_true_eq, beq_iff_eq, ge_iff_le,
    UInt32.le_iff_toNat_le] at allowed
  change ((((65 ≤ letter.toNat ∧ letter.toNat ≤ 90) ∨ (97 ≤ letter.toNat ∧ letter.toNat ≤ 122)) ∨
    (48 ≤ letter.toNat ∧ letter.toNat ≤ 57)) ∨ letter = '_') ∨ letter = '-' at allowed
  rcases allowed with (alphanumeric | rfl) | rfl
  · refine ⟨?_, ?_⟩
    · simp [isWhitespace]
      omega
    · rintro rfl
      revert alphanumeric
      decide
  · decide
  · decide

theorem isIdCharacter_of_mem {id : String} (valid : isValidSl1Id id = true) {letter : Char}
    (member : letter ∈ id.toList) : isIdCharacter letter = true := by
  simp only [isValidSl1Id, Bool.and_eq_true] at valid
  exact List.all_eq_true.mp valid.2 letter member

theorem isValidSl1Id_nonempty {id : String} (valid : isValidSl1Id id = true) : id.toList ≠ [] := by
  intro empty
  simp [isValidSl1Id, String.toList_eq_nil_iff.mp empty] at valid

theorem trimmed_id {id : String} (valid : isValidSl1Id id = true) : Trimmed id.toList :=
  .of_plain fun _ member => (isIdCharacter_plain (isIdCharacter_of_mem valid member)).1

/-- White space is no part of an operator. -/
theorem blank_plain {blanks : List Char} (blank : Blanks blanks) :
    ∀ letter ∈ blanks, letter ≠ '>' ∧ letter ≠ '=' := by
  intro letter member
  have white := blank letter member
  constructor
  · rintro rfl
    revert white
    decide
  · rintro rfl
    revert white
    decide

theorem not_mem_blanks {blanks : List Char} (blank : Blanks blanks) : '>' ∉ blanks :=
  fun member => (blank_plain blank '>' member).1 rfl

end Letters

section Numbers

variable {sign : List Char → Prop} {number : List Char} {value : Nat}

theorem numeral_plain (numeral : Numeral MayPlus number value) : ∀ letter ∈ number,
    isWhitespace letter = false ∧ letter ≠ '>' ∧ letter ≠ '=' := by
  intro letter member
  rcases (numeral.letters fun _ => id).2 letter member with rfl | digit
  · decide
  · refine ⟨isWhitespace_of_digit digit, ?_, ?_⟩
    · rintro rfl
      revert digit
      decide
    · rintro rfl
      revert digit
      decide

end Numbers

section Sound

variable {unsupported : Sl1LoadError} {tooLarge : Nat → Sl1LoadError} {text : List Char}
  {predicate : Sl1OperatingPredicate}

/-- More white space around a spelled predicate spells it as well. -/
theorem Spells.pad {gap sign : List Char → Prop} {lead trail : List Char} (leads : Blanks lead)
    (trails : Blanks trail) (spells : Spells gap sign text predicate) :
    Spells gap sign (lead ++ text ++ trail) predicate := by
  obtain ⟨lead', core, trail', leads', trails', rfl, template⟩ := spells
  refine ⟨lead ++ lead', core, trail' ++ trail, leads.append leads', trails'.append trails, ?_,
    template⟩
  simp only [List.append_assoc]

theorem parseUsedPercent_sound
    (parsed : parseUsedPercent unsupported tooLarge text = some (.ok predicate)) :
    Spells Blanks MayPlus text predicate := by
  simp only [parseUsedPercent, Option.bind_eq_bind, Option.bind_eq_some_iff] at parsed
  obtain ⟨⟨left, right⟩, halves, metric, suffixed, ⟨⟩, named, result⟩ := parsed
  obtain ⟨threshold, read, checked⟩ := bind_eq_ok.mp (Option.some.inj result)
  rw [present_eq_ok, parseU64_eq_some_iff] at read
  obtain ⟨⟨⟩, percent, same⟩ := bind_eq_ok.mp checked
  rw [reject_eq_ok, decide_eq_false_iff_not, Nat.not_lt] at percent
  cases same
  obtain ⟨lead, space, leads, spaced, whole⟩ := trim_around metric
  obtain ⟨lead', before, after, trail, ends, gaps, rfl⟩ := splitOnce_trimmed halves
  refine .pad ends.1 ends.2 ⟨lead, _, [], leads, .nil, ?_,
    .usedPercent ((Option.guard_eq_some' _).mp named) spaced gaps.1 gaps.2 read.1 percent⟩
  have name : (String.ofList (trim metric)).toList = trim metric := String.toList_ofList
  rw [stripSuffix_eq_some_iff.mp suffixed, name, List.append_nil]
  nth_rewrite 1 [whole]
  simp only [List.append_assoc]

theorem parseOverloadedTicks_sound
    (parsed : parseOverloadedTicks unsupported text = some (.ok predicate)) :
    Spells Blanks MayPlus text predicate := by
  simp only [parseOverloadedTicks, Option.bind_eq_bind, Option.bind_eq_some_iff] at parsed
  obtain ⟨⟨left, right⟩, halves, ⟨⟩, named, result⟩ := parsed
  obtain ⟨ticks, read, same⟩ := bind_eq_ok.mp (Option.some.inj result)
  rw [present_eq_ok, parseU64_eq_some_iff] at read
  cases same
  have key : trim left = "overloaded_ticks".toList := by
    simpa using (Bool.and_eq_true_iff.mp ((Option.guard_eq_some' _).mp named)).1
  obtain ⟨lead, before, after, trail, ends, gaps, rfl⟩ := splitOnce_trimmed halves
  refine ⟨lead, _, trail, ends.1, ends.2, ?_, .overloadedTicks gaps.1 gaps.2 read.1 read.2⟩
  rw [key]

end Sound

section Complete

variable {unsupported : Sl1LoadError} {tooLarge : Nat → Sl1LoadError} {core : List Char}
  {predicate : Sl1OperatingPredicate}

theorem numeral_trimmed {number : List Char} {value : Nat} (read : Numeral MayPlus number value) :
    Trimmed number :=
  .of_plain fun letter member => (numeral_plain read letter member).1

theorem trimmed_suffixed {metric : String} (named : isValidSl1Id metric = true)
    (space : List Char) : Trimmed (metric.toList ++ space ++ ".used_percent".toList) :=
  .join (trimmed_id named) (.of_all (by decide)) (isValidSl1Id_nonempty named) (by decide)

theorem Template.trimmed (template : Template Blanks MayPlus core predicate) : Trimmed core := by
  cases template with
  | @usedPercent metric space before after number _ named _ _ _ read _ =>
    have joined : Trimmed (metric.toList ++
        (space ++ ".used_percent".toList ++ before ++ ">=".toList ++ after) ++ number) :=
      .join (trimmed_id named) (numeral_trimmed read) (isValidSl1Id_nonempty named)
        (read.letters fun _ => id).1
    simpa only [List.append_assoc] using joined
  | @overloadedTicks before after number _ _ _ read _ =>
    have joined : Trimmed
        ("overloaded_ticks".toList ++ (before ++ ">".toList ++ after) ++ number) :=
      .join (.of_all (by decide)) (numeral_trimmed read) (by decide) (read.letters fun _ => id).1
    simpa only [List.append_assoc] using joined

theorem parseUsedPercent_complete {metric : String} {space before after number : List Char}
    {threshold : Nat} (named : isValidSl1Id metric = true) (spaced : Blanks space)
    (behindLeft : Blanks before) (beforeRight : Blanks after)
    (read : Numeral MayPlus number threshold) (percent : threshold ≤ sl1PercentMax) :
    parseUsedPercent unsupported tooLarge
      (metric.toList ++ space ++ ".used_percent".toList ++ before ++ ">=".toList ++
        (after ++ number)) =
      some (.ok (.usedPercentGte metric threshold)) := by
  have plainMetric : '>' ∉ metric.toList :=
    fun member => (isIdCharacter_plain (isIdCharacter_of_mem named member)).2 rfl
  have plain : '>' ∉ metric.toList ++ space ++ ".used_percent".toList ++ before := by
    simp only [List.mem_append, not_or]
    exact ⟨⟨⟨plainMetric, not_mem_blanks spaced⟩, by decide⟩, not_mem_blanks behindLeft⟩
  have opens : ">=".toList.head? = some '>' := rfl
  have halves := splitOnce_at opens plain (after ++ number)
  have left := trim_behind (trimmed_suffixed named space) behindLeft
  have right := trim_ahead (numeral_trimmed read) beforeRight
  have suffixed : stripSuffix ".used_percent".toList
      (metric.toList ++ space ++ ".used_percent".toList) = some (metric.toList ++ space) :=
    stripSuffix_eq_some_iff.mpr rfl
  have name := trim_behind (trimmed_id named) spaced
  have value := parseU64_eq_some_iff.mpr ⟨read, percent.trans (by decide)⟩
  rw [parseUsedPercent, halves, Option.bind_eq_bind, Option.bind_some]
  dsimp only
  rw [left, suffixed, Option.bind_eq_bind, Option.bind_some, name, String.ofList_toList, right]
  rw [value, (Option.guard_eq_some' ()).mpr named]
  refine congrArg some (bind_eq_ok.mpr ⟨threshold, present_eq_ok.mpr rfl, ?_⟩)
  exact bind_eq_ok.mpr ⟨(), reject_eq_ok.mpr (decide_eq_false (Nat.not_lt.mpr percent)), rfl⟩

/-- Behind a strict operator there is no `>=`. -/
theorem parseUsedPercent_none {before rest : List Char} (behindLeft : Blanks before)
    (plain : ∀ letter ∈ rest, letter ≠ '>' ∧ letter ≠ '=') :
    parseUsedPercent unsupported tooLarge
      ("overloaded_ticks".toList ++ before ++ ">".toList ++ rest) = none := by
  have plainLeft : '>' ∉ "overloaded_ticks".toList ++ before := by
    simp only [List.mem_append, not_or]
    exact ⟨by decide, not_mem_blanks behindLeft⟩
  have past : stripPrefix ['>', '='] ('>' :: rest) = none := by
    rw [stripPrefix, if_pos rfl]
    cases rest with
    | nil => rfl
    | cons head _ =>
      have strict := (plain head List.mem_cons_self).2
      rw [stripPrefix, if_neg (Ne.symm strict)]
  have opens : ">=".toList.head? = some '>' := rfl
  have behind : splitOnce ">=".toList (">".toList ++ rest) = none := by
    change splitOnce ['>', '='] ('>' :: rest) = none
    rw [splitOnce, past]
    exact Option.map_eq_none_iff.mpr (splitOnce_absent opens fun member => (plain _ member).1 rfl)
  rw [parseUsedPercent, List.append_assoc _ _ rest, splitOnce_skip opens plainLeft, behind]
  rfl

theorem right_plain {after number : List Char} {value : Nat} (beforeRight : Blanks after)
    (read : Numeral MayPlus number value) :
    ∀ letter ∈ after ++ number, letter ≠ '>' ∧ letter ≠ '=' := by
  intro letter member
  rcases List.mem_append.mp member with blank | inNumber
  · exact blank_plain beforeRight letter blank
  · exact (numeral_plain read letter inNumber).2

theorem parseOverloadedTicks_complete {before after number : List Char} {ticks : Nat}
    (behindLeft : Blanks before) (beforeRight : Blanks after)
    (read : Numeral MayPlus number ticks) (within : ticks ≤ u64Max) :
    parseOverloadedTicks unsupported
      ("overloaded_ticks".toList ++ before ++ ">".toList ++ (after ++ number)) =
      some (.ok (.overloadedTicksGt ticks)) := by
  have plain : '>' ∉ "overloaded_ticks".toList ++ before := by
    simp only [List.mem_append, not_or]
    exact ⟨by decide, not_mem_blanks behindLeft⟩
  have opens : ">".toList.head? = some '>' := rfl
  have halves := splitOnce_at opens plain (after ++ number)
  have left : trim ("overloaded_ticks".toList ++ before) = "overloaded_ticks".toList :=
    trim_behind (.of_all (by decide)) behindLeft
  have right := trim_ahead (numeral_trimmed read) beforeRight
  have strict : number.head? ≠ some '=' :=
    fun opens => (numeral_plain read '=' (List.mem_of_mem_head? opens)).2.2 rfl
  have value := parseU64_eq_some_iff.mpr ⟨read, within⟩
  rw [parseOverloadedTicks, halves, Option.bind_eq_bind, Option.bind_some]
  dsimp only
  rw [left, right, value]
  simp [strict, present]

end Complete

variable {predicate : Sl1OperatingPredicate}

theorem parsePredicate_iff (place state when : String) :
    parsePredicate place state when = .ok predicate ↔
      Spells Blanks MayPlus when.toList predicate := by
  unfold parsePredicate
  dsimp only
  constructor
  · intro parsed
    obtain ⟨lead, trail, leads, trails, whole⟩ := trim_around when.toList
    rw [whole]
    refine .pad leads trails ?_
    cases tried : parseUsedPercent (.placeUnsupportedPredicate place state when)
        (.placePercentThresholdOutOfRange place state · sl1PercentMax) (trim when.toList) with
    | some checked =>
      rw [tried, Option.some_or, Option.getD_some] at parsed
      exact parseUsedPercent_sound (tried.trans (congrArg some parsed))
    | none =>
      rw [tried, Option.none_or] at parsed
      cases next : parseOverloadedTicks (.placeUnsupportedPredicate place state when)
          (trim when.toList) with
      | some checked =>
        rw [next, Option.getD_some] at parsed
        exact parseOverloadedTicks_sound (next.trans (congrArg some parsed))
      | none =>
        rw [next] at parsed
        cases parsed
  · rintro ⟨lead, core, trail, leads, trails, whole, template⟩
    have trimmed : trim when.toList = core :=
      trim_eq_iff.mpr ⟨template.trimmed, lead, trail, leads, trails, whole⟩
    rw [trimmed]
    cases template with
    | usedPercent named spaced behindLeft beforeRight read percent =>
      rw [parseUsedPercent_complete named spaced behindLeft beforeRight read percent]
      rfl
    | overloadedTicks behindLeft beforeRight read within =>
      rw [parseUsedPercent_none behindLeft (right_plain beforeRight read), Option.none_or]
      rw [parseOverloadedTicks_complete behindLeft beforeRight read within]
      rfl

theorem numeral_toString (sign : List Char → Prop) (unsigned : sign []) (value : Nat) :
    Numeral sign (toString value).toList value :=
  ⟨[], Nat.toDigits 10 value, unsigned, decimal_toDigits value, Nat.toList_repr⟩

theorem text_usedPercent (metric : String) (threshold : Nat) :
    (Sl1OperatingPredicate.usedPercentGte metric threshold).text.toList = metric.toList ++ [] ++
      ".used_percent".toList ++ [' '] ++ ">=".toList ++ ([' '] ++ (toString threshold).toList) := by
  have written : ".used_percent >= ".toList =
      ".used_percent".toList ++ [' '] ++ ">=".toList ++ [' '] := by simp
  change (metric ++ ".used_percent >= " ++ toString threshold).toList = _
  rw [String.toList_append, String.toList_append, written]
  simp only [List.append_assoc, List.append_nil]

theorem text_overloadedTicks (ticks : Nat) :
    (Sl1OperatingPredicate.overloadedTicksGt ticks).text.toList =
      "overloaded_ticks".toList ++ [' '] ++ ">".toList ++ ([' '] ++ (toString ticks).toList) := by
  have written : "overloaded_ticks > ".toList =
      "overloaded_ticks".toList ++ [' '] ++ ">".toList ++ [' '] := by simp
  change ("overloaded_ticks > " ++ toString ticks).toList = _
  rw [String.toList_append, written]
  simp only [List.append_assoc]

/-- The canonical text spells a predicate that any text spells. -/
theorem Spells.canonical {text : List Char} (spells : Spells Blanks MayPlus text predicate)
    {gap sign : List Char → Prop} (noGap : gap []) (noSign : sign []) :
    Spells gap sign predicate.text.toList predicate := by
  have space : Blanks [' '] := by simp [Blanks, isWhitespace]
  obtain ⟨-, core, -, -, -, -, template⟩ := spells
  cases template with
  | @usedPercent metric _ _ _ _ threshold named _ _ _ _ percent =>
    have number := numeral_toString sign noSign threshold
    refine ⟨[], _, [], .nil, .nil, ?_, .usedPercent named noGap space space number percent⟩
    simp only [text_usedPercent, List.nil_append, List.append_nil]
  | @overloadedTicks _ _ _ ticks _ _ _ within =>
    have number := numeral_toString sign noSign ticks
    refine ⟨[], _, [], .nil, .nil, ?_, .overloadedTicks space space number within⟩
    simp only [text_overloadedTicks, List.nil_append, List.append_nil]

/-- The parser accepts the two templates and nothing else, with white space around every part and a
plus sign before the number, and gives back each predicate it can return from its canonical text. -/
theorem parsePredicate_templates :
    (∀ place state when predicate, parsePredicate place state when = .ok predicate ↔
      Spells Blanks MayPlus when.toList predicate) ∧
    ∀ predicate, (∃ place state when, parsePredicate place state when = .ok predicate) ↔
      ∀ place state, parsePredicate place state predicate.text = .ok predicate := by
  refine ⟨fun place state when _ => parsePredicate_iff place state when, fun predicate => ?_⟩
  constructor
  · rintro ⟨place, state, when, parsed⟩ other otherState
    have spells := (parsePredicate_iff place state when).mp parsed
    exact (parsePredicate_iff other otherState _).mpr (spells.canonical .nil (.inl rfl))
  · intro returned
    exact ⟨"", "", predicate.text, returned "" ""⟩

section Strict

variable {text : List Char}

/-- Without a sign before the number there is none in the text. -/
theorem Spells.unsigned (spells : Spells Absent Absent text predicate) : '+' ∉ text := by
  obtain ⟨lead, core, trail, leads, trails, rfl, template⟩ := spells
  have notBlank {blanks : List Char} (blank : Blanks blanks) : '+' ∉ blanks := by
    intro member
    have white := blank '+' member
    revert white
    decide
  have notNumber {number : List Char} {value : Nat} (read : Numeral Absent number value) :
      '+' ∉ number := by
    obtain ⟨-, digits, rfl, decimal, rfl⟩ := read
    intro member
    have digit := decimal.plain '+' member
    revert digit
    decide
  simp only [List.mem_append, not_or]
  refine ⟨⟨notBlank leads, ?_⟩, notBlank trails⟩
  cases template with
  | @usedPercent metric _ _ _ _ _ named spaced behindLeft beforeRight read _ =>
    subst spaced
    have notMetric : '+' ∉ metric.toList := by
      intro member
      have allowed := isIdCharacter_of_mem named member
      revert allowed
      decide
    simp only [List.mem_append, not_or]
    exact ⟨⟨⟨⟨⟨notMetric, by simp⟩, by decide⟩, notBlank behindLeft⟩, by decide⟩,
      notBlank beforeRight, notNumber read⟩
  | overloadedTicks behindLeft beforeRight read _ =>
    simp only [List.mem_append, not_or]
    exact ⟨⟨⟨by decide, notBlank behindLeft⟩, by decide⟩, notBlank beforeRight, notNumber read⟩

/-- Without a gap before the suffix the metric stands right before the first dot. -/
theorem Spells.dotted {metric : String} {threshold : Nat}
    (spells : Spells Absent Absent text (.usedPercentGte metric threshold)) :
    ∃ lead, text.takeWhile (· != '.') = lead ++ metric.toList := by
  obtain ⟨lead, core, trail, leads, trails, rfl, template⟩ := spells
  cases template with
  | @usedPercent _ _ before after number _ named spaced _ _ read _ =>
    subst spaced
    refine ⟨lead, ?_⟩
    have dotless : ∀ letter ∈ lead ++ metric.toList, (letter != '.') = true := by
      intro letter member
      refine bne_iff_ne.mpr ?_
      rintro rfl
      rcases List.mem_append.mp member with blank | inMetric
      · have white := leads '.' blank
        revert white
        decide
      · have allowed := isIdCharacter_of_mem named inMetric
        revert allowed
        decide
    have dotted : ".used_percent".toList = '.' :: "used_percent".toList := by simp
    have whole : lead ++ (metric.toList ++ [] ++ ".used_percent".toList ++ before ++ ">=".toList ++
        (after ++ number)) ++ trail = (lead ++ metric.toList) ++ '.' ::
          ("used_percent".toList ++ before ++ ">=".toList ++ (after ++ number) ++ trail) := by
      rw [dotted]
      simp only [List.append_assoc, List.cons_append, List.nil_append]
    rw [whole, List.takeWhile_append_of_pos dotless, List.takeWhile_cons_of_neg (by decide),
      List.append_nil]

/-- A blank before the suffix and a sign before the number are accepted. -/
theorem parsePredicate_lenient :
    (parsePredicate "mill" "busy" "belt .used_percent >= 80" = .ok (.usedPercentGte "belt" 80) ∧
      ¬ Spells Absent Absent "belt .used_percent >= 80".toList (.usedPercentGte "belt" 80)) ∧
    parsePredicate "mill" "late" "overloaded_ticks > +5" = .ok (.overloadedTicksGt 5) ∧
      ¬ Spells Absent Absent "overloaded_ticks > +5".toList (.overloadedTicksGt 5) := by
  refine ⟨⟨?_, ?_⟩, ?_, ?_⟩
  · rfl
  · intro spells
    obtain ⟨lead, front⟩ := spells.dotted
    have spaced : "belt .used_percent >= 80".toList.takeWhile (· != '.') = "belt ".toList := by
      decide
    have last := congrArg List.getLast? (spaced.symm.trans front)
    have letter : "belt".toList.getLast? = some 't' := by decide
    rw [List.getLast?_append, letter, Option.some_or] at last
    revert last
    decide
  · rfl
  · intro spells
    exact spells.unsigned (by decide)

end Strict

end Simetro.Sl1
