import Simetro.Engine.Redactor

/-! What the redactor leaves. The words of most patterns stand apart from the markers, so that what
was replaced once does not come back; only an Azure key and its domain may be moved together. -/

namespace Simetro.Engine

open Simetro.Library

namespace Redactor

theorem mem_patternNames (name : PatternName) : name ∈ patternNames := by
  cases name <;> decide +kernel

/-- What stands in a marker between its angle brackets. -/
def markerBody (name : PatternName) : List Char := "redacted: ".toList ++ name.asStr.toList

/-- Whether the words of the pattern reach into no marker and stand in none. -/
def standsClear (pattern : Pattern) : Bool :=
  pattern.solid && !pattern.admits '<' && !pattern.admits '>' &&
    patternNames.all fun name => pattern.misses (markerBody name)

/-- The markers are told from what is around them by their brackets, and eight of the patterns and
the ends of the other two stand clear of them. -/
theorem patterns_checked :
    (patternNames.all fun name =>
      !(markerBody name).contains '<' && !(markerBody name).contains '>') = true ∧
    [azureKey, azureDomain, pemBoundary "BEGIN", pemBoundary "END"].all standsClear = true ∧
    (patternDefinitions.all fun definition => definition.1 = .azureOpenaiKey ||
      definition.1 = .pemPrivateKey || standsClear definition.2.pattern) = true := by
  decide +kernel

theorem markerBody_brackets (name : PatternName) :
    '<' ∉ markerBody name ∧ '>' ∉ markerBody name := by
  have checked := List.all_eq_true.mp patterns_checked.1 name (mem_patternNames name)
  simpa using checked

def marking : Marking PatternName where
  opening := '<'
  closing := '>'
  body := markerBody
  opens name := (markerBody_brackets name).1
  closes name := (markerBody_brackets name).2

theorem markerFor_eq (name : PatternName) : (markerFor name).toList = marking.mark name := by
  have opened : "<redacted: ".toList = '<' :: "redacted: ".toList := by decide +kernel
  have closed : ">".toList = ['>'] := by decide +kernel
  unfold markerFor
  simp only [toString, String.toList_append, opened, closed]
  rfl

theorem clear_of_stands {pattern : Pattern} (stands : standsClear pattern = true) :
    marking.Clear pattern := by
  unfold standsClear at stands
  simp only [Bool.and_eq_true, Bool.not_eq_true', List.all_eq_true] at stands
  obtain ⟨⟨⟨solid, opening⟩, closing⟩, outside⟩ := stands
  exact .of_checks solid opening closing fun name => outside name (mem_patternNames name)

theorem framing_clear {pattern : Pattern}
    (listed : pattern ∈ [azureKey, azureDomain, pemBoundary "BEGIN", pemBoundary "END"]) :
    marking.Clear pattern :=
  clear_of_stands (List.all_eq_true.mp patterns_checked.2.1 pattern listed)

theorem azureKey_clear : marking.Clear azureKey := framing_clear (by simp)

theorem azureDomain_clear : marking.Clear azureDomain := framing_clear (by simp)

theorem pemBegin_clear : marking.Clear (pemBoundary "BEGIN") := framing_clear (by simp)

theorem pemEnd_clear : marking.Clear (pemBoundary "END") := framing_clear (by simp)

/-- Of ten patterns, the words of eight stand apart and those of two are framed by such words. -/
theorem definition_cases {definition : PatternName × Needle} (listed : definition ∈ patternDefinitions) :
    marking.Clear definition.2.pattern ∨ definition.2.pattern = azureOpenaiKey ∨
      definition.2.pattern = pemPrivateKey := by
  have framed : ∀ definition ∈ patternDefinitions,
      (definition.1 = .azureOpenaiKey → definition.2.pattern = azureOpenaiKey) ∧
        (definition.1 = .pemPrivateKey → definition.2.pattern = pemPrivateKey) := by
    simp [patternDefinitions]
  obtain ⟨azure, pem⟩ := framed definition listed
  have checked := List.all_eq_true.mp patterns_checked.2.2 definition listed
  simp only [Bool.or_eq_true, decide_eq_true_eq] at checked
  rcases checked with (named | named) | stands
  · exact .inr (.inl (azure named))
  · exact .inr (.inr (pem named))
  · exact .inl (clear_of_stands stands)

theorem definition_bounded {definition : PatternName × Needle} (listed : definition ∈ patternDefinitions) :
    marking.Bounded definition.2.pattern := by
  rcases definition_cases listed with clear | azure | pem
  · exact clear.bounded
  · exact azure ▸ Marking.bounded_framed azureKey_clear azureDomain_clear
  · exact pem ▸ Marking.bounded_framed pemBegin_clear pemEnd_clear

/-- A text as its secrets are covered, those of one pattern after those of the other. -/
def Reads : List (PatternName × Needle) → List (Token PatternName) → List (Token PatternName) → Prop
  | [], tokens, reading => reading = tokens
  | (name, needle) :: rest, tokens, reading =>
      ∃ middle, Covers marking needle name tokens middle ∧ Reads rest middle reading

section Reads

variable {definitions : List (PatternName × Needle)} {tokens reading : List (Token PatternName)}

theorem reads_exist (known : ∀ definition ∈ definitions, definition ∈ patternDefinitions)
    (tokens : List (Token PatternName)) : ∃ reading, Reads definitions tokens reading := by
  induction definitions generalizing tokens with
  | nil => exact ⟨tokens, rfl⟩
  | cons definition rest ih =>
    obtain ⟨middle, covers⟩ := Covers.exist (definition_bounded (known _ List.mem_cons_self)) tokens
    obtain ⟨reading, reads⟩ := ih (fun other listed => known other (List.mem_cons_of_mem _ listed)) middle
    exact ⟨reading, middle, covers, reads⟩

theorem reads_original (reads : Reads definitions tokens reading) :
    original reading = original tokens := by
  induction definitions generalizing tokens with
  | nil => rw [reads]
  | cons definition rest ih =>
    obtain ⟨middle, covers, later⟩ := reads
    exact (ih later).trans covers.original

theorem redactPattern_redacted (current : List Char × Nat) (definition : PatternName × Needle) :
    (redactPattern current definition).1 =
      definition.2.replaceAll (marking.mark definition.1) current.1 := by
  unfold redactPattern
  simp only
  split
  · rename_i none
    exact (Needle.replaceAll_of_missed (Needle.countMatches_eq_zero.mp none) _).symm
  · rw [markerFor_eq]

/-- The redacted text is the text with its secrets covered, as a reader sees it. -/
theorem reads_written (known : ∀ definition ∈ definitions, definition ∈ patternDefinitions)
    (reads : Reads definitions tokens reading) (current : List Char × Nat)
    (same : current.1 = marking.written tokens) :
    (definitions.foldl redactPattern current).1 = marking.written reading := by
  induction definitions generalizing tokens current with
  | nil =>
    rw [reads]
    exact same
  | cons definition rest ih =>
    obtain ⟨middle, covers, later⟩ := reads
    refine ih (fun other listed => known other (List.mem_cons_of_mem _ listed)) later _ ?_
    rw [redactPattern_redacted, same,
      covers.written_eq (definition_bounded (known _ List.mem_cons_self))]

end Reads

theorem redactSecrets_written {input : String} {reading : List (Token PatternName)}
    (reads : Reads patternDefinitions (input.toList.map .shown) reading) :
    (redactSecrets input).redacted.toList = marking.written reading := by
  rw [redactSecrets, String.toList_ofList]
  exact reads_written (fun _ listed => listed) reads _ (Marking.written_map_shown _).symm

/-- The redactor covers parts of the input with markers, and changes nothing else. -/
theorem redactSecrets_covers (input : String) : ∃ reading,
    Reads patternDefinitions (input.toList.map .shown) reading ∧ original reading = input.toList ∧
      marking.written reading = (redactSecrets input).redacted.toList := by
  obtain ⟨reading, reads⟩ := reads_exist (fun _ listed => listed) (input.toList.map .shown)
  refine ⟨reading, reads, (reads_original reads).trans ?_, ?_⟩
  · rw [original, List.flatMap_map]
    exact List.flatMap_singleton' input.toList
  · exact (redactSecrets_written reads).symm

end Redactor

end Simetro.Engine
