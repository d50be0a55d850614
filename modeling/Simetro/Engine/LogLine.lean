import Simetro.Bridge.WireRoundTrip
import Simetro.Engine.AgentLog
import Simetro.Library.Encoding

/-! The line of the decision log a row is written as, and the row of a line. -/

namespace Simetro.Engine

open Simetro.Bridge Simetro.Library Simetro.Protocol

/-- A field that is skipped when there is nothing to write. -/
def optionalMember (name : String) (value : Option Json) : List (String × Json) :=
  (value.map fun json => (name, json)).toList

/-- The fields of a row in the order of their declaration. -/
def AgentLogEntry.members (text : F32Text) (entry : AgentLogEntry) : List (String × Json) :=
  [("schema_version", .ofNat entry.schemaVersion), ("tick", .ofNat entry.tick),
    ("agent_id", .string entry.agentId), ("observation_hash", .ofNat entry.observationHash.toNat)] ++
  optionalMember "raw_response" (entry.rawResponse.map .string) ++
  optionalMember "truncated_bytes" (entry.truncatedBytes.map .ofNat) ++
  [("parsed_action", (entry.parsedAction.map (actionToJson text)).getD .null),
    ("considered_count", .ofNat entry.consideredCount), ("rationale", .string entry.rationale)] ++
  optionalMember "backend" (entry.backend.map .string) ++
  optionalMember "model" (entry.model.map .string) ++
  optionalMember "latency_ms" (entry.latencyMs.map .ofNat) ++
  optionalMember "prompt_tokens" (entry.promptTokens.map .ofNat) ++
  optionalMember "completion_tokens" (entry.completionTokens.map .ofNat)

def AgentLogEntry.toJson (text : F32Text) (entry : AgentLogEntry) : Json :=
  .object (entry.members text)

/-- The characters of a row's line, without its end. -/
def AgentLogEntry.chars (text : F32Text) (entry : AgentLogEntry) : List Char :=
  (entry.toJson text).chars

/-- The bytes of a row's line, without its end. -/
def AgentLogEntry.line (text : F32Text) (entry : AgentLogEntry) : List UInt8 :=
  utf8Chars (entry.chars text)

/-- A field that may be absent or null. -/
def optionalFrom {Value : Type} (read : Json → Option Value) : Option Json → Option (Option Value)
  | none | some .null => some none
  | some json => (read json).map some

/-- A row of version one has no version. -/
def defaultSchemaVersion : Nat := 1

def versionFrom : Option Json → Option Nat
  | none => some defaultSchemaVersion
  | some json => json.below? u32Bound

def entryFromJson (text : F32Text) (json : Json) : Option AgentLogEntry := do
  let [schemaVersion, some tick, some agentId, some observationHash, rawResponse, truncatedBytes,
    parsedAction, some consideredCount, some rationale, backend, model, latencyMs, promptTokens,
    completionTokens] ←
    json.fields ["schema_version", "tick", "agent_id", "observation_hash", "raw_response",
      "truncated_bytes", "parsed_action", "considered_count", "rationale", "backend", "model",
      "latency_ms", "prompt_tokens", "completion_tokens"] | none
  let schemaVersion ← versionFrom schemaVersion
  let tick ← tick.below? u64Bound
  let agentId ← agentId.text?
  let observationHash ← observationHash.below? u64Bound
  let rawResponse ← optionalFrom Json.text? rawResponse
  let truncatedBytes ← optionalFrom (Json.below? u64Bound) truncatedBytes
  let parsedAction ← chosenFromJson text parsedAction
  let consideredCount ← consideredCount.below? u64Bound
  let rationale ← rationale.text?
  let backend ← optionalFrom Json.text? backend
  let model ← optionalFrom Json.text? model
  let latencyMs ← optionalFrom (Json.below? u32Bound) latencyMs
  let promptTokens ← optionalFrom (Json.below? u32Bound) promptTokens
  let completionTokens ← optionalFrom (Json.below? u32Bound) completionTokens
  return ⟨schemaVersion, tick, agentId, .ofNat observationHash, rawResponse, truncatedBytes,
    parsedAction, consideredCount, rationale, backend, model, latencyMs, promptTokens,
    completionTokens⟩

section Lines

variable {text : F32Text}

theorem membersSound_append {first second : List (String × Json)} (sound : Json.MembersSound first)
    (soundToo : Json.MembersSound second) : Json.MembersSound (first ++ second) := by
  induction first with
  | nil => exact soundToo
  | cons entry rest ih => exact ⟨sound.1, ih sound.2⟩

theorem optionalMember_sound {name : String} {value : Option Json}
    (sound : ∀ json, value = some json → json.Sound) : Json.MembersSound (optionalMember name value) := by
  cases value with
  | none => trivial
  | some json => exact ⟨sound json rfl, trivial⟩

theorem optionalText_sound (name : String) (value : Option String) :
    Json.MembersSound (optionalMember name (value.map .string)) := by
  refine optionalMember_sound fun json held => ?_
  obtain ⟨-, -, rfl⟩ := Option.map_eq_some_iff.mp held
  trivial

theorem optionalNat_sound (name : String) (value : Option Nat) :
    Json.MembersSound (optionalMember name (value.map .ofNat)) := by
  refine optionalMember_sound fun json held => ?_
  obtain ⟨number, -, rfl⟩ := Option.map_eq_some_iff.mp held
  exact Json.ofNat_sound number

theorem toJson_sound (entry : AgentLogEntry) : (entry.toJson text).Sound := by
  have chosen : ((entry.parsedAction.map (actionToJson text)).getD .null).Sound := by
    cases entry.parsedAction with
    | none => trivial
    | some action => exact actionToJson_sound action
  rw [AgentLogEntry.toJson, Json.Sound, AgentLogEntry.members]
  repeat' apply membersSound_append
  · exact ⟨Json.ofNat_sound _, Json.ofNat_sound _, trivial, Json.ofNat_sound _, trivial⟩
  · exact optionalText_sound _ _
  · exact optionalNat_sound _ _
  · exact ⟨chosen, Json.ofNat_sound _, trivial, trivial⟩
  · exact optionalText_sound _ _
  · exact optionalText_sound _ _
  · exact optionalNat_sound _ _
  · exact optionalNat_sound _ _
  · exact optionalNat_sound _ _

/-- A character that is no control character has no control byte. -/
theorem utf8_visible {character : Char} (visible : 32 ≤ character.toNat) :
    ∀ byte ∈ String.utf8EncodeChar character, 32 ≤ byte.toNat := by
  have value : character.val.toNat = character.toNat := rfl
  have bound : character.toNat < 0x110000 := by
    rcases character.valid with low | ⟨-, high⟩
    · exact lt_trans low (by decide)
    · exact high
  intro byte listed
  unfold String.utf8EncodeChar at listed
  rw [value] at listed
  dsimp only at listed
  split at listed
  · obtain rfl := List.mem_singleton.mp listed
    rw [UInt8.toNat_ofNat']
    omega
  · split at listed
    · rcases List.mem_pair.mp listed with rfl | rfl <;> rw [UInt8.toNat_ofNat'] <;> omega
    · split at listed
      · simp only [List.mem_cons, List.not_mem_nil, or_false] at listed
        rcases listed with rfl | rfl | rfl <;> rw [UInt8.toNat_ofNat'] <;> omega
      · simp only [List.mem_cons, List.not_mem_nil, or_false] at listed
        rcases listed with rfl | rfl | rfl | rfl <;> rw [UInt8.toNat_ofNat'] <;> omega

/-- A line holds no line end. -/
theorem line_plain (entry : AgentLogEntry) : 10 ∉ entry.line text := by
  intro listed
  rw [AgentLogEntry.line, utf8Chars] at listed
  obtain ⟨character, written, byte⟩ := List.mem_flatMap.mp listed
  have visible := Json.chars_visible _ (toJson_sound entry) character written
  exact absurd (utf8_visible visible 10 byte) (by decide)

end Lines

end Simetro.Engine
