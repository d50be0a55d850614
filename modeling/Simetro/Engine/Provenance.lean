import Simetro.Library.CharBoundary
import Simetro.Engine.LogSessions

/-! Rows of live backends: the cap on what they replied, and what the validation of a row knows
of that cap. The redaction of secrets is a parameter. -/

namespace Simetro.Engine

open Simetro.Library Simetro.Protocol

/-- What a live backend says of a decision. -/
structure LlmProvenance where
  backend : Option String := none
  model : Option String := none
  latencyMs : Option Nat := none
  promptTokens : Option Nat := none
  completionTokens : Option Nat := none
  deriving DecidableEq

/-- A reply over the cap is cut at a character, and its own size marked. -/
def capRawResponse : Option String → Option String × Option Nat
  | none => (none, none)
  | some text =>
    if text.utf8ByteSize ≤ AgentLog.rawResponseMaxBytes then (some text, none)
    else
      (some (String.ofList (cutAt text.toList AgentLog.rawResponseMaxBytes)), some text.utf8ByteSize)

/-- Secrets go before the cut, so that none is cut in half. -/
def AgentLogEntry.withProvenance (redactString : String → String) (observation : Observation)
    (agentId : String) (chosen : Option Action) (consideredCount : Nat) (rationale : String)
    (rawResponse : Option String) (provenance : LlmProvenance) : AgentLogEntry :=
  let (rawResponse, truncatedBytes) := capRawResponse (rawResponse.map redactString)
  { schemaVersion := AgentLog.schemaVersion
    tick := observation.tick
    agentId
    observationHash := Engine.observationHash observation
    rawResponse
    truncatedBytes
    parsedAction := chosen
    consideredCount
    rationale
    backend := provenance.backend
    model := provenance.model
    latencyMs := provenance.latencyMs
    promptTokens := provenance.promptTokens
    completionTokens := provenance.completionTokens }

/-- A decision without a reply gets the row of `new`. -/
theorem AgentLogEntry.withProvenance_none (redactString : String → String)
    (observation : Observation) (agentId : String) (chosen : Option Action)
    (consideredCount : Nat) (rationale : String) :
    withProvenance redactString observation agentId chosen consideredCount rationale none {} =
      .new observation agentId chosen consideredCount rationale := rfl

namespace AgentLogEntry

variable (entry : AgentLogEntry)

/-- The checks of a row other than those of its reply. -/
structure Framed : Prop where
  version : entry.schemaVersion = 1 ∨ entry.schemaVersion = AgentLog.schemaVersion
  named : ProperName entry.agentId
  rationale : entry.rationale.utf8ByteSize ≤ AgentLog.rationaleMaxLen
  backend : (entry.backend.getD "").utf8ByteSize ≤ AgentLog.provenanceStrMaxLen
  model : (entry.model.getD "").utf8ByteSize ≤ AgentLog.provenanceStrMaxLen

/-- The cap makes this reply and this mark of some reply. -/
def Capped : Prop :=
  ∃ original, capRawResponse original = (entry.rawResponse, entry.truncatedBytes)

/-- The validation compares the mark with the cap and with the reply, but not the reply with
the cap. -/
def Overlooked : Prop :=
  ∃ raw original, entry.rawResponse = some raw ∧ entry.truncatedBytes = some original ∧
    AgentLog.rawResponseMaxBytes < original ∧ raw.utf8ByteSize < original ∧
    (AgentLog.rawResponseMaxBytes < raw.utf8ByteSize ∨
      raw.utf8ByteSize + 3 < AgentLog.rawResponseMaxBytes)

/-- The reply kept of a text: the longest prefix within the cap, marked if it is not all. -/
structure Keeps (text : Option String) : Prop where
  present : entry.rawResponse.isSome = text.isSome
  starts : ∀ whole ∈ text, ∀ raw ∈ entry.rawResponse, raw.toList <+: whole.toList
  within : ∀ raw ∈ entry.rawResponse, raw.utf8ByteSize ≤ AgentLog.rawResponseMaxBytes
  longest : ∀ whole ∈ text, ∀ raw ∈ entry.rawResponse, ∀ other : String,
    other.toList <+: whole.toList → other.utf8ByteSize ≤ AgentLog.rawResponseMaxBytes →
      other.toList <+: raw.toList
  marked : entry.truncatedBytes = if entry.rawResponse = text then none else text.map (·.utf8ByteSize)

variable {entry}

theorem validate_eq_ok :
    entry.validate = .ok () ↔ entry.Framed ∧ entry.validateResponse = .ok () := by
  have named : (entry.agentId.isEmpty = false ∧
      entry.agentId.utf8ByteSize ≤ AgentLog.agentIdMaxLen) ↔ ProperName entry.agentId := by
    refine and_congr_left' ?_
    rw [String.isEmpty_eq_false_iff, Nat.one_le_iff_ne_zero, ne_eq, ne_eq,
      String.utf8ByteSize_eq_zero_iff]
  have version : (entry.schemaVersion ≠ 0 ∧ entry.schemaVersion ≤ AgentLog.schemaVersion) ↔
      (entry.schemaVersion = 1 ∨ entry.schemaVersion = AgentLog.schemaVersion) := by
    unfold AgentLog.schemaVersion
    omega
  constructor
  · intro valid
    simp only [validate, bind_eq_ok, reject_eq_ok, Bool.or_eq_false_iff,
      beq_eq_false_iff_ne, decide_eq_false_iff_not, Nat.not_lt] at valid
    obtain ⟨⟨⟩, versioned, ⟨⟩, present, ⟨⟩, short, ⟨⟩, said, ⟨⟩, replied, ⟨⟩, backend, model⟩ := valid
    exact ⟨⟨version.mp versioned, named.mp ⟨present, short⟩, said, backend, model⟩, replied⟩
  · rintro ⟨framed, replied⟩
    simp only [validate, bind_eq_ok, reject_eq_ok, Bool.or_eq_false_iff,
      beq_eq_false_iff_ne, decide_eq_false_iff_not, Nat.not_lt]
    exact ⟨(), version.mpr framed.version, (), (named.mpr framed.named).1, (), framed.named.2, (),
      framed.rationale, (), replied, (), framed.backend, framed.model⟩

/-- A character of `missing + 1` bytes. -/
def straddler : Nat → Char
  | 0 => 'a'
  | 1 => 'é'
  | 2 => '€'
  | _ => '😀'

theorem utf8Size_straddler {missing : Nat} (few : missing ≤ 3) :
    (straddler missing).utf8Size = missing + 1 := by
  match missing, few with
  | 0, _ => rfl
  | 1, _ => rfl
  | 2, _ => rfl
  | 3, _ => rfl

/-- A reply up to three bytes short of the cap is what is kept of a longer one: there a
character that reaches beyond the cap goes on. -/
theorem capped_of_near {raw : String} {original : Nat}
    (beyond : AgentLog.rawResponseMaxBytes < original)
    (within : raw.utf8ByteSize ≤ AgentLog.rawResponseMaxBytes)
    (near : AgentLog.rawResponseMaxBytes ≤ raw.utf8ByteSize + 3) :
    ∃ text, capRawResponse (some text) = (some raw, some original) := by
  obtain ⟨missing, short⟩ := Nat.le.dest within
  have few : missing ≤ 3 := by omega
  have wide := utf8Size_straddler few
  let rest := straddler missing ::
    List.replicate (original - AgentLog.rawResponseMaxBytes - 1) 'a'
  have size : byteSize (raw.toList ++ rest) = original := by
    have one : 'a'.utf8Size = 1 := rfl
    rw [byteSize_append, byteSize_toList, byteSize, byteSize_replicate, wide, one]
    omega
  have bytes : (String.ofList (raw.toList ++ rest)).utf8ByteSize = original := by
    rw [← byteSize_toList, String.toList_ofList, size]
  have cut : cutAt (raw.toList ++ rest) AgentLog.rawResponseMaxBytes = raw.toList := by
    refine cutAt_eq (List.prefix_append _ _) (by rw [byteSize_toList]; exact within)
      fun other starts fits => ?_
    rcases List.prefix_or_prefix_of_prefix starts (List.prefix_append _ _) with before | ⟨more, rfl⟩
    · exact byteSize_mono before
    · cases more with
      | nil => rw [List.append_nil]
      | cons next more =>
        obtain ⟨rfl, -⟩ := List.cons_prefix_cons.mp ((List.prefix_append_right_inj _).mp starts)
        rw [byteSize_append, byteSize_toList, byteSize, wide] at fits
        omega
  refine ⟨String.ofList (raw.toList ++ rest), ?_⟩
  rw [capRawResponse, bytes, if_neg (Nat.not_le.mpr beyond), String.toList_ofList, cut,
    String.ofList_toList]

theorem capRawResponse_fits {text : String}
    (fits : text.utf8ByteSize ≤ AgentLog.rawResponseMaxBytes) :
    capRawResponse (some text) = (some text, none) := if_pos fits

theorem capRawResponse_cut {text : String}
    (long : AgentLog.rawResponseMaxBytes < text.utf8ByteSize) :
    capRawResponse (some text) =
      (some (String.ofList (cutAt text.toList AgentLog.rawResponseMaxBytes)),
        some text.utf8ByteSize) := if_neg (Nat.not_le.mpr long)

/-- What the cap makes is absent, within the cap and unmarked, or just short of it and marked. -/
theorem capped_cases (capped : entry.Capped) :
    (entry.rawResponse = none ∧ entry.truncatedBytes = none) ∨
      (∃ raw, entry.rawResponse = some raw ∧ entry.truncatedBytes = none ∧
        raw.utf8ByteSize ≤ AgentLog.rawResponseMaxBytes) ∨
      ∃ raw original, entry.rawResponse = some raw ∧ entry.truncatedBytes = some original ∧
        AgentLog.rawResponseMaxBytes < original ∧
        raw.utf8ByteSize ≤ AgentLog.rawResponseMaxBytes ∧
        AgentLog.rawResponseMaxBytes ≤ raw.utf8ByteSize + 3 := by
  obtain ⟨text, capped⟩ := capped
  cases text with
  | none =>
    obtain ⟨reply, mark⟩ := Prod.mk.injEq .. ▸ capped
    exact .inl ⟨reply.symm, mark.symm⟩
  | some text =>
    rcases Nat.lt_or_ge AgentLog.rawResponseMaxBytes text.utf8ByteSize with long | fits
    · rw [capRawResponse_cut long] at capped
      obtain ⟨reply, mark⟩ := Prod.mk.injEq .. ▸ capped
      refine .inr (.inr ⟨_, _, reply.symm, mark.symm, long, ?_⟩)
      rw [← byteSize_toList, String.toList_ofList]
      refine ⟨cutAt_longest.2.1, le_byteSize_cutAt ?_⟩
      rw [byteSize_toList]
      exact long
    · rw [capRawResponse_fits fits] at capped
      obtain ⟨reply, mark⟩ := Prod.mk.injEq .. ▸ capped
      exact .inr (.inl ⟨_, reply.symm, mark.symm, fits⟩)

theorem validateResponse_of_capped (capped : entry.Capped) : entry.validateResponse = .ok () := by
  unfold validateResponse
  rcases capped_cases capped with ⟨reply, mark⟩ | ⟨raw, reply, mark, within⟩ |
      ⟨raw, original, reply, mark, beyond, within, -⟩
  · rw [reply, mark]
  · rw [reply, mark]
    exact reject_eq_ok.mpr (decide_eq_false (Nat.not_lt.mpr within))
  · rw [reply, mark]
    refine bind_eq_ok.mpr ⟨(), reject_eq_ok.mpr (decide_eq_false (Nat.not_le.mpr beyond)), ?_⟩
    exact reject_eq_ok.mpr (decide_eq_false (by omega))

theorem validateResponse_of_overlooked (overlooked : entry.Overlooked) :
    entry.validateResponse = .ok () := by
  obtain ⟨raw, original, reply, mark, beyond, longer, -⟩ := overlooked
  unfold validateResponse
  rw [reply, mark]
  refine bind_eq_ok.mpr ⟨(), reject_eq_ok.mpr (decide_eq_false (Nat.not_le.mpr beyond)), ?_⟩
  exact reject_eq_ok.mpr (decide_eq_false (Nat.not_le.mpr longer))

/-- What passes the validation is what the cap makes, but for the replies overlooked. -/
theorem capped_or_overlooked (passed : entry.validateResponse = .ok ()) :
    entry.Capped ∨ entry.Overlooked := by
  unfold validateResponse at passed
  split at passed
  · rename_i reply mark
    exact .inl ⟨none, by rw [reply, mark]; rfl⟩
  · cases passed
  · rename_i raw reply mark
    have within := of_decide_eq_false (reject_eq_ok.mp passed)
    exact .inl ⟨some raw, by rw [reply, mark, capRawResponse_fits (Nat.not_lt.mp within)]⟩
  · rename_i raw original reply mark
    obtain ⟨⟨⟩, beyond, longer⟩ := bind_eq_ok.mp passed
    have beyond := Nat.not_le.mp (of_decide_eq_false (reject_eq_ok.mp beyond))
    have longer := Nat.not_le.mp (of_decide_eq_false (reject_eq_ok.mp longer))
    by_cases near : raw.utf8ByteSize ≤ AgentLog.rawResponseMaxBytes ∧
        AgentLog.rawResponseMaxBytes ≤ raw.utf8ByteSize + 3
    · obtain ⟨text, capped⟩ := capped_of_near beyond near.1 near.2
      exact .inl ⟨some text, by rw [reply, mark, capped]⟩
    · exact .inr ⟨raw, original, reply, mark, beyond, longer, by omega⟩

theorem not_capped_of_overlooked (overlooked : entry.Overlooked) : ¬ entry.Capped := by
  obtain ⟨raw, original, reply, mark, -, -, far⟩ := overlooked
  intro capped
  rcases capped_cases capped with ⟨absent, -⟩ | ⟨_, -, unmarked, -⟩ |
      ⟨other, _, kept, -, -, within, near⟩
  · cases reply.symm.trans absent
  · cases mark.symm.trans unmarked
  · cases reply.symm.trans kept
    omega

/-- The cap keeps what it should of a text. -/
theorem keeps_of_cap {text : Option String}
    (made : capRawResponse text = (entry.rawResponse, entry.truncatedBytes)) : entry.Keeps text := by
  cases text with
  | none =>
    obtain ⟨reply, mark⟩ := Prod.mk.injEq .. ▸ made
    refine ⟨by rw [← reply], by rintro _ ⟨⟩, fun raw kept => ?_, by rintro _ ⟨⟩, ?_⟩
    · rw [← reply] at kept
      cases kept
    · rw [← mark, ← reply, if_pos rfl]
  | some text =>
    rcases Nat.lt_or_ge AgentLog.rawResponseMaxBytes text.utf8ByteSize with long | fits
    · rw [capRawResponse_cut long] at made
      obtain ⟨reply, mark⟩ := Prod.mk.injEq .. ▸ made
      obtain ⟨starts, within, longest⟩ :=
        @cutAt_longest text.toList AgentLog.rawResponseMaxBytes
      rw [← String.toList_ofList (l := cutAt _ _)] at starts within longest
      rw [byteSize_toList] at within
      refine ⟨by rw [← reply]; rfl, ?_, ?_, ?_, ?_⟩ <;> rw [← reply]
      · rintro _ ⟨⟩ _ ⟨⟩
        exact starts
      · rintro _ ⟨⟩
        exact within
      · rintro _ ⟨⟩ _ ⟨⟩ other begins short
        refine longest _ begins ?_
        rw [byteSize_toList]
        exact short
      · rw [← mark, if_neg, Option.map_some]
        intro same
        rw [Option.some.inj same] at within
        exact absurd long (Nat.not_lt.mpr within)
    · rw [capRawResponse_fits fits] at made
      obtain ⟨reply, mark⟩ := Prod.mk.injEq .. ▸ made
      refine ⟨by rw [← reply], ?_, ?_, ?_, ?_⟩ <;> rw [← reply]
      · rintro _ ⟨⟩ _ ⟨⟩
        exact List.prefix_rfl
      · rintro _ ⟨⟩
        exact fits
      · rintro _ ⟨⟩ _ ⟨⟩ other begins -
        exact begins
      · rw [← mark, if_pos rfl]

/-- The rows built for live backends are valid and keep what they should of the reply, while
the validation refuses the rows the cap cannot have made, unless it overlooks their reply. -/
theorem provenance_validated_iff (redactString : String → String) :
    (∀ (observation : Observation) (agentId : String) (chosen : Option Action)
      (consideredCount : Nat) (rationale : String) (rawResponse : Option String)
      (provenance : LlmProvenance), ProperName agentId →
      rationale.utf8ByteSize ≤ AgentLog.rationaleMaxLen →
      (∀ backend ∈ provenance.backend, backend.utf8ByteSize ≤ AgentLog.provenanceStrMaxLen) →
      (∀ model ∈ provenance.model, model.utf8ByteSize ≤ AgentLog.provenanceStrMaxLen) →
      let entry := withProvenance redactString observation agentId chosen consideredCount rationale
        rawResponse provenance
      entry.validate = .ok () ∧ entry.Keeps (rawResponse.map redactString)) ∧
    ∀ entry : AgentLogEntry,
      (¬ entry.Capped → entry.validate ≠ .ok ()) ↔ ¬ (entry.Framed ∧ entry.Overlooked) := by
  constructor
  · intro observation agentId chosen consideredCount rationale rawResponse provenance named said
      backend model
    have short {value : Option String}
        (each : ∀ text ∈ value, text.utf8ByteSize ≤ AgentLog.provenanceStrMaxLen) :
        (value.getD "").utf8ByteSize ≤ AgentLog.provenanceStrMaxLen := by
      cases value with
      | none => exact Nat.zero_le _
      | some text => exact each text rfl
    have framed : (withProvenance redactString observation agentId chosen consideredCount rationale
        rawResponse provenance).Framed := ⟨.inr rfl, named, said, short backend, short model⟩
    exact ⟨validate_eq_ok.mpr ⟨framed, validateResponse_of_capped ⟨_, rfl⟩⟩, keeps_of_cap rfl⟩
  · intro entry
    constructor
    · rintro refused ⟨framed, overlooked⟩
      exact refused (not_capped_of_overlooked overlooked)
        (validate_eq_ok.mpr ⟨framed, validateResponse_of_overlooked overlooked⟩)
    · intro seen uncapped valid
      obtain ⟨framed, replied⟩ := validate_eq_ok.mp valid
      exact (capped_or_overlooked replied).elim uncapped fun missed => seen ⟨framed, missed⟩

theorem provenance_validated_short :
    let entry := withProvenance id { tick := 1, movers := [] } "a" none 0 "" (some "fine") {}
    entry.validate = .ok () ∧ entry.Keeps (some "fine") :=
  (provenance_validated_iff id).1 { tick := 1, movers := [] } "a" none 0 "" (some "fine") {}
    (by decide) (by decide) (by rintro _ ⟨⟩) (by rintro _ ⟨⟩)

/-- A reply of one byte over the cap. -/
def longReply : String := String.ofList (List.replicate (AgentLog.rawResponseMaxBytes + 1) 'x')

theorem longReply_size : longReply.utf8ByteSize = AgentLog.rawResponseMaxBytes + 1 := by
  have one : 'x'.utf8Size = 1 := rfl
  rw [longReply, ← byteSize_toList, String.toList_ofList, byteSize_replicate, one, Nat.mul_one]

/-- It is kept whole, but marked as cut from one byte more. -/
def uncut : AgentLogEntry where
  schemaVersion := AgentLog.schemaVersion
  tick := 1
  agentId := "a"
  observationHash := 0
  rawResponse := some longReply
  truncatedBytes := some (AgentLog.rawResponseMaxBytes + 2)
  parsedAction := none
  consideredCount := 0
  rationale := ""

theorem uncut_accepted : uncut.rawResponse = some longReply ∧
    AgentLog.rawResponseMaxBytes < longReply.utf8ByteSize ∧ ¬ uncut.Capped ∧
    uncut.validate = .ok () := by
  have size := longReply_size
  have overlooked : uncut.Overlooked :=
    ⟨longReply, _, rfl, rfl, by omega, by omega, .inl (by omega)⟩
  have framed : uncut.Framed := ⟨.inr rfl, by decide, by decide, by decide, by decide⟩
  exact ⟨rfl, by omega, not_capped_of_overlooked overlooked,
    validate_eq_ok.mpr ⟨framed, validateResponse_of_overlooked overlooked⟩⟩

end AgentLogEntry

end Simetro.Engine
