import Simetro.Engine.LogLine
import Simetro.Library.Lines

/-! A row of the decision log is read back from its line exactly when the floats of its action
are finite. -/

namespace Simetro.Engine

open Simetro.Bridge Simetro.Library Simetro.Protocol

/-- The numbers of a row are those of its field types. -/
structure FitsEntry (entry : AgentLogEntry) : Prop where
  schemaVersion : entry.schemaVersion < u32Bound
  tick : entry.tick < u64Bound
  truncatedBytes : ∀ count, entry.truncatedBytes = some count → count < u64Bound
  parsedAction : ∀ action, entry.parsedAction = some action → FitsAction action
  consideredCount : entry.consideredCount < u64Bound
  latencyMs : ∀ count, entry.latencyMs = some count → count < u32Bound
  promptTokens : ∀ count, entry.promptTokens = some count → count < u32Bound
  completionTokens : ∀ count, entry.completionTokens = some count → count < u32Bound

/-- No infinity and no NaN in a chosen action, if there is one. -/
def finiteChoice (chosen : Option Action) : Bool := chosen.all finiteAction

/-- The fields of a row, those that are skipped among them. -/
def AgentLogEntry.columns (text : F32Text) (entry : AgentLogEntry) : List (String × Option Json) :=
  [("schema_version", some (.ofNat entry.schemaVersion)), ("tick", some (.ofNat entry.tick)),
    ("agent_id", some (.string entry.agentId)),
    ("observation_hash", some (.ofNat entry.observationHash.toNat)),
    ("raw_response", entry.rawResponse.map .string),
    ("truncated_bytes", entry.truncatedBytes.map .ofNat),
    ("parsed_action", some ((entry.parsedAction.map (actionToJson text)).getD .null)),
    ("considered_count", some (.ofNat entry.consideredCount)),
    ("rationale", some (.string entry.rationale)), ("backend", entry.backend.map .string),
    ("model", entry.model.map .string), ("latency_ms", entry.latencyMs.map .ofNat),
    ("prompt_tokens", entry.promptTokens.map .ofNat),
    ("completion_tokens", entry.completionTokens.map .ofNat)]

section Fields

variable {text : F32Text}

theorem filter_optionalMember (name other : String) (value : Option Json) :
    (optionalMember other value).filter (fun entry => entry.1 = name) =
      if other = name then optionalMember other value else [] := by
  cases value with
  | none => simp [optionalMember]
  | some json => by_cases same : other = name <;> simp [optionalMember, same]

/-- The members under one of several names. -/
theorem filter_columns {columns : List (String × Option Json)} {name : String} {value : Option Json}
    (distinct : (columns.map (·.1)).Nodup) (listed : (name, value) ∈ columns) :
    (columns.flatMap fun column => optionalMember column.1 column.2).filter
      (fun entry => entry.1 = name) = optionalMember name value := by
  induction columns with
  | nil => cases listed
  | cons column rest ih =>
    obtain ⟨fresh, distinct⟩ := List.nodup_cons.mp distinct
    rw [List.flatMap_cons, List.filter_append, filter_optionalMember]
    rcases List.mem_cons.mp listed with rfl | later
    · have none : (rest.flatMap fun column => optionalMember column.1 column.2).filter
          (fun entry => entry.1 = name) = [] := by
        rw [List.filter_flatMap, List.flatMap_eq_nil_iff]
        intro other member
        have apart : other.1 ≠ name := fun same => fresh (List.mem_map.mpr ⟨other, member, same⟩)
        rw [filter_optionalMember, if_neg apart]
      rw [if_pos rfl, none, List.append_nil]
    · have apart : column.1 ≠ name := by
        rintro rfl
        exact fresh (List.mem_map.mpr ⟨_, later, rfl⟩)
      rw [if_neg apart, ih distinct later, List.nil_append]

/-- A record is read by the names of all its fields, whichever of them are written. -/
theorem fields_columns (columns : List (String × Option Json)) (distinct : (columns.map (·.1)).Nodup) :
    (Json.object (columns.flatMap fun column => optionalMember column.1 column.2)).fields
      (columns.map (·.1)) = some (columns.map (·.2)) := by
  have each (some' : List (String × Option Json)) (within : ∀ column ∈ some', column ∈ columns) :
      (some'.map (·.1)).mapM (fun name => Json.member name
        (columns.flatMap fun column => optionalMember column.1 column.2)) =
        some (some'.map (·.2)) := by
    induction some' with
    | nil => rfl
    | cons column later ih =>
      have first : Json.member column.1
          (columns.flatMap fun column => optionalMember column.1 column.2) = some column.2 := by
        rw [Json.member, filter_columns distinct (within column (by simp))]
        cases column.2 <;> rfl
      rw [List.map_cons, List.mapM_cons, first]
      simp only [ih fun other listed => within other (by simp [listed]), Option.bind_eq_bind,
        Option.bind_some]
      rfl
  exact each columns fun _ listed => listed

theorem optionalText_reads (value : Option String) :
    optionalFrom Json.text? (value.map .string) = some value := by
  cases value <;> rfl

theorem optionalNat_reads {bound : Nat} {value : Option Nat}
    (fits : ∀ count, value = some count → count < bound) :
    optionalFrom (Json.below? bound) (value.map .ofNat) = some value := by
  cases value with
  | none => rfl
  | some count =>
    have read := Json.below?_ofNat (fits count rfl)
    change (Json.below? bound (.ofNat count)).map some = _
    rw [read]
    rfl

theorem choice_reads {chosen : Option Action} (fits : ∀ action, chosen = some action → FitsAction action) :
    chosenFromJson text (some ((chosen.map (actionToJson text)).getD .null)) =
      if finiteChoice chosen then some chosen else none := by
  cases chosen with
  | none => rfl
  | some action => exact chosen_reads (fits action rfl)

end Fields

section Reading

variable {text : F32Text} {entry : AgentLogEntry}

theorem members_columns (entry : AgentLogEntry) : entry.members text =
    (entry.columns text).flatMap fun column => optionalMember column.1 column.2 := by
  simp only [AgentLogEntry.members, AgentLogEntry.columns, List.flatMap_cons, List.flatMap_nil,
    List.append_assoc, List.append_nil]
  rfl

/-- A row is read back exactly when the floats of its action are finite. -/
theorem entry_reads (fits : FitsEntry entry) : entryFromJson text (entry.toJson text) =
    if finiteChoice entry.parsedAction then some entry else none := by
  have read := fields_columns (entry.columns text) (by simp [AgentLogEntry.columns])
  rw [← members_columns] at read
  simp only [AgentLogEntry.columns, List.map_cons, List.map_nil] at read
  have hash : entry.observationHash.toNat < u64Bound := entry.observationHash.toNat_lt
  have version : versionFrom (some (.ofNat entry.schemaVersion)) = some entry.schemaVersion :=
    Json.below?_ofNat fits.schemaVersion
  have text' (value : String) : (Json.string value).text? = some value := rfl
  unfold entryFromJson AgentLogEntry.toJson
  rw [read]
  change ((versionFrom (some (.ofNat entry.schemaVersion))).bind fun schemaVersion =>
    ((Json.ofNat entry.tick).below? u64Bound).bind fun tick =>
    (Json.string entry.agentId).text?.bind fun agentId =>
    ((Json.ofNat entry.observationHash.toNat).below? u64Bound).bind fun observationHash =>
    (optionalFrom Json.text? (entry.rawResponse.map .string)).bind fun rawResponse =>
    (optionalFrom (Json.below? u64Bound) (entry.truncatedBytes.map .ofNat)).bind fun truncatedBytes =>
    (chosenFromJson text (some ((entry.parsedAction.map (actionToJson text)).getD .null))).bind
      fun parsedAction =>
    ((Json.ofNat entry.consideredCount).below? u64Bound).bind fun consideredCount =>
    (Json.string entry.rationale).text?.bind fun rationale =>
    (optionalFrom Json.text? (entry.backend.map .string)).bind fun backend =>
    (optionalFrom Json.text? (entry.model.map .string)).bind fun model =>
    (optionalFrom (Json.below? u32Bound) (entry.latencyMs.map .ofNat)).bind fun latencyMs =>
    (optionalFrom (Json.below? u32Bound) (entry.promptTokens.map .ofNat)).bind fun promptTokens =>
    (optionalFrom (Json.below? u32Bound) (entry.completionTokens.map .ofNat)).bind
      fun completionTokens => some _) = _
  rw [version, Option.bind_some, Json.below?_ofNat fits.tick, Option.bind_some, text',
    Option.bind_some, Json.below?_ofNat hash, Option.bind_some, optionalText_reads, Option.bind_some,
    optionalNat_reads fits.truncatedBytes, Option.bind_some, choice_reads fits.parsedAction]
  cases finiteChoice entry.parsedAction with
  | false => rfl
  | true =>
    rw [if_pos rfl, Option.bind_some, Json.below?_ofNat fits.consideredCount, Option.bind_some,
      text', Option.bind_some, optionalText_reads, Option.bind_some, optionalText_reads,
      Option.bind_some, optionalNat_reads fits.latencyMs, Option.bind_some,
      optionalNat_reads fits.promptTokens, Option.bind_some,
      optionalNat_reads fits.completionTokens, Option.bind_some, UInt64.ofNat_toNat]
    rfl

/-- Between a line's braces. -/
theorem object_chars (members : List (String × Json)) :
    ∃ body, (Json.object members).chars = '\x7b' :: body ++ ['\x7d'] := by
  have closed (members : List (String × Json)) :
      ∃ body, Json.membersChars members = body ++ ['\x7d'] := by
    induction members with
    | nil => exact ⟨[], rfl⟩
    | cons entry rest ih =>
      obtain ⟨body, same⟩ := ih
      refine ⟨',' :: (Json.quoted entry.1 ++ ':' :: (entry.2.chars ++ body)), ?_⟩
      rw [Json.membersChars, same]
      simp
  cases members with
  | nil => exact ⟨[], rfl⟩
  | cons entry rest =>
    obtain ⟨body, same⟩ := closed rest
    refine ⟨Json.quoted entry.1 ++ ':' :: (entry.2.chars ++ body), ?_⟩
    rw [Json.chars, same]
    simp

/-- Nothing is trimmed off the line of a row. -/
theorem trim_chars (entry : AgentLogEntry) : trim (entry.chars text) = entry.chars text := by
  obtain ⟨body, same⟩ := object_chars (entry.members text)
  rw [AgentLogEntry.chars, AgentLogEntry.toJson, same]
  exact trim_enclosed (by decide) (by decide) body

theorem chars_nonempty (entry : AgentLogEntry) : (entry.chars text).isEmpty = false := by
  obtain ⟨body, same⟩ := object_chars (entry.members text)
  rw [AgentLogEntry.chars, AgentLogEntry.toJson, same]
  rfl

theorem chars_plain (entry : AgentLogEntry) : '\n' ∉ entry.chars text ∧ '\r' ∉ entry.chars text := by
  have visible := Json.chars_visible _ (@toJson_sound text entry)
  exact ⟨fun listed => absurd (visible _ listed) (by decide),
    fun listed => absurd (visible _ listed) (by decide)⟩

/-- The row of a line. -/
def readEntry (text : F32Text) (line : List Char) : Option AgentLogEntry :=
  (Json.parse line).bind (entryFromJson text)

theorem readEntry_chars (fits : FitsEntry entry) : readEntry text (entry.chars text) =
    if finiteChoice entry.parsedAction then some entry else none := by
  rw [readEntry, AgentLogEntry.chars, Json.parse_chars (toJson_sound entry), Option.bind_some,
    entry_reads fits]

end Reading

end Simetro.Engine
