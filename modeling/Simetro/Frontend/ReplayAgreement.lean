import Simetro.Frontend.AgentLog

/-! The frontend's replay beside the headless one: they select and correlate alike, and send the
same messages exactly for the actions that the frontend mirrors. -/

namespace Simetro.Frontend

open Simetro.Bridge Simetro.Engine Simetro.Headless Simetro.Library Simetro.Protocol

section Numbers

/-- Whole numbers up to here are doubles. -/
def safeBound : Nat := 2 ^ 53

theorem toNumber_of_lt {value : Nat} (safe : value < safeBound) : toNumber value = value := by
  have exact' : value.log2 + 1 - 53 = 0 := by
    rcases Nat.eq_zero_or_pos value with rfl | positive
    · rfl
    · have small : value.log2 < 53 := (Nat.log2_lt (Nat.pos_iff_ne_zero.mp positive)).mpr safe
      omega
  unfold toNumber
  rw [exact']
  simp [Nat.mod_one]

theorem safeBound_le_toNumber {value : Nat} (large : safeBound ≤ value) : safeBound ≤ toNumber value := by
  have positive : value ≠ 0 := by
    unfold safeBound at large
    omega
  have high : 53 ≤ value.log2 := (Nat.le_log2 positive).mpr large
  have reaches : 2 ^ value.log2 ≤ value / 2 ^ (value.log2 + 1 - 53) * 2 ^ (value.log2 + 1 - 53) := by
    have split : 2 ^ value.log2 = 2 ^ 52 * 2 ^ (value.log2 + 1 - 53) := by
      rw [← Nat.pow_add]
      congr 1
      omega
    rw [split]
    apply Nat.mul_le_mul_right
    rw [Nat.le_div_iff_mul_le (Nat.two_pow_pos _), ← split]
    exact Nat.log2_self_le positive
  have bound : safeBound ≤ 2 ^ value.log2 := Nat.pow_le_pow_right (by decide) high
  unfold toNumber
  dsimp only
  split
  · exact bound.trans reaches
  · refine (bound.trans reaches).trans ?_
    exact Nat.mul_le_mul_right _ (Nat.le_succ _)

/-- A tick that is a double compares to a bound as it does to the double next to the bound. -/
theorem toNumber_lt_iff {tick bound : Nat} (safe : tick < safeBound) :
    tick < toNumber bound ↔ tick < bound := by
  rcases Nat.lt_or_ge bound safeBound with small | large
  · rw [toNumber_of_lt small]
  · exact iff_of_true (safe.trans_le (safeBound_le_toNumber large)) (safe.trans_le large)

theorem lt_toNumber_iff {tick bound : Nat} (safe : tick < safeBound) :
    toNumber bound < tick ↔ bound < tick := by
  rcases Nat.lt_or_ge bound safeBound with small | large
  · rw [toNumber_of_lt small]
  · exact iff_of_false (by have := safeBound_le_toNumber large; omega) (by omega)

end Numbers

section Keys

/-- The tick and the id can be told from the key. -/
theorem decisionKey_injective {tick other : Nat} {agentId otherId : String}
    (same : decisionKey tick agentId = decisionKey other otherId) : tick = other ∧ agentId = otherId := by
  have plain (value : Nat) : ∀ character ∈ Nat.toDigits 10 value, decide (character ≠ '\x00') = true := by
    intro character listed
    refine decide_eq_true fun zero => ?_
    have digit := isDigit_of_mem_toDigits listed
    rw [zero] at digit
    exact absurd digit (by decide)
  have parts (value : Nat) (id : String) : (decisionKey value id).toList =
      Nat.toDigits 10 value ++ '\x00' :: id.toList := by
    simp [decisionKey, Nat.toList_repr]
  have lists := congrArg String.toList same
  rw [parts, parts] at lists
  have digits := congrArg (List.takeWhile fun character => decide (character ≠ '\x00')) lists
  rw [List.takeWhile_append_of_pos (plain tick), List.takeWhile_append_of_pos (plain other)] at digits
  have rests := congrArg (List.dropWhile fun character => decide (character ≠ '\x00')) lists
  rw [List.dropWhile_append_of_pos (plain tick), List.dropWhile_append_of_pos (plain other)] at rests
  constructor
  · have numbers : Nat.toDigits 10 tick = Nat.toDigits 10 other := by simpa using digits
    have read := congrArg (fun digits => Nat.ofDigitChars 10 digits 0) numbers
    simpa [Nat.ofDigitChars_ten_toDigits] using read
  · have ids : agentId.toList = otherId.toList := by simpa using rests
    exact String.toList_injective ids

end Keys

/-- The scrub of a filter. -/
def ReplayScrub.ofOptions (options : ReplayOptions) : ReplayScrub where
  fromTick := options.fromTick.map toNumber
  toTick := options.toTick.map toNumber
  agentId := options.agentId

/-- An issue of the frontend, as the headless replay reports it: by the line of its entry. -/
def ReplayCorrelationIssue.numbered (lineOf : Nat → Nat) (issue : ReplayCorrelationIssue) : ReplayIssue :=
  ⟨issue.kind, lineOf issue.index, some issue.tick, some issue.agentId, issue.message⟩

/-- A message of the headless replay, as the frontend holds it. -/
def SimMessage.ofReplay : ReplayMessage → SimMessage
  | .events sent => .events (sent.filterMap fun
    | .agentDecided agentId action => some ⟨agentId, some action⟩
    | _ => none)
  | .agentReport report => .agentReport report

def rowsOf (numbered : List NumberedEntry) : List LogEntry := numbered.map fun line => .ofRow line.entry

/-- The line of the entry at an index. -/
def lineAt (numbered : List NumberedEntry) (index : Nat) : Nat :=
  (numbered[index]?.map NumberedEntry.line).getD 0

/-- An action that the frontend has a case for. -/
def Mirrored (action : Option Action) : Prop := actionTagFor action ≠ none

instance (action : Option Action) : Decidable (Mirrored action) := inferInstanceAs (Decidable (_ ≠ _))

/-- Both replays select the same entries, report the same issues at the same positions, and send the
same messages. -/
structure ReplaysAgree (numbered : List NumberedEntry) (options : ReplayOptions) : Prop where
  selected : rowsOf (selectEntries numbered options) =
    scrubAgentLog (rowsOf numbered) (.ofOptions options)
  correlated : correlateEntries numbered =
    (correlateAgentLog (rowsOf numbered)).map (ReplayCorrelationIssue.numbered (lineAt numbered))
  sent : (protocolEnvelopes (selectEntries numbered options)).map (fun envelope =>
      SimMessage.ofReplay envelope.payload) =
    (scrubAgentLog (rowsOf numbered) (.ofOptions options)).flatMap agentLogEntryToMessages

/-- Ticks that the frontend can hold. -/
def SafeTicks (numbered : List NumberedEntry) : Prop := ∀ line ∈ numbered, line.entry.tick < safeBound

section Agreement

variable {numbered : List NumberedEntry}

theorem selected_agree (safe : SafeTicks numbered) (options : ReplayOptions) :
    rowsOf (selectEntries numbered options) = scrubAgentLog (rowsOf numbered) (.ofOptions options) := by
  unfold rowsOf selectEntries scrubAgentLog
  rw [List.filter_map]
  congr 1
  refine List.filter_congr fun line listed => ?_
  have within := safe line listed
  have exact' := toNumber_of_lt within
  have first : options.fromTick.all (fun first => first ≤ line.entry.tick) =
      !(options.fromTick.map toNumber).any fun first => line.entry.tick < first := by
    cases options.fromTick with
    | none => rfl
    | some first =>
      change decide (first ≤ line.entry.tick) = !decide (line.entry.tick < toNumber first)
      rw [← decide_not, decide_eq_decide, toNumber_lt_iff within]
      exact Nat.not_lt.symm
  have last : options.toTick.all (fun last => line.entry.tick ≤ last) =
      !(options.toTick.map toNumber).any fun last => last < line.entry.tick := by
    cases options.toTick with
    | none => rfl
    | some last =>
      change decide (line.entry.tick ≤ last) = !decide (toNumber last < line.entry.tick)
      rw [← decide_not, decide_eq_decide, lt_toNumber_iff within]
      exact Nat.not_lt.symm
  have agent : options.agentId.all (fun agent => line.entry.agentId == agent) =
      !options.agentId.any fun agent => line.entry.agentId != agent := by
    cases options.agentId with
    | none => rfl
    | some agent => exact (Bool.not_not _).symm
  simp only [ReplayOptions.selects, ReplayScrub.ofOptions, LogEntry.ofRow, Function.comp, exact', first,
    last, agent]
  split <;> rename_i before
  · simp [before]
  · split <;> rename_i behind
    · simp [behind]
    · split <;> rename_i other
      · simp [other]
      · simp [before, behind, other]

theorem correlateFrom_cons (index : Nat) (seen : List String) (previous : Option Nat) (entry : LogEntry)
    (rest : List LogEntry) : correlateFrom index seen previous (entry :: rest) =
      (match previous with
        | some previous =>
          if entry.tick < previous then
            [⟨"out_of_order", index, entry.tick, entry.agentId,
              s!"tick {entry.tick} appears after tick {previous}"⟩]
          else []
        | none => []) ++
      (if decisionKey entry.tick entry.agentId ∈ seen then
          [⟨"duplicate_decision", index, entry.tick, entry.agentId,
            "duplicate decision for tick+agent_id"⟩]
        else []) ++
      correlateFrom (index + 1) (if decisionKey entry.tick entry.agentId ∈ seen then seen
        else decisionKey entry.tick entry.agentId :: seen) (some entry.tick) rest := by
  conv => lhs; unfold correlateFrom
  by_cases known : decisionKey entry.tick entry.agentId ∈ seen
  · cases previous <;> simp [known]
  · cases previous <;> simp [known]

/-- Both walks report alike as long as they have seen the same decisions. -/
theorem correlated_agree {lineOf : Nat → Nat} (safe : SafeTicks numbered) {start : Nat}
    (lines : ∀ index line, numbered[index]? = some line → lineOf (start + index) = line.line)
    {seen : List (Nat × String)} {keys : List String}
    (same : ∀ tick agentId, (tick, agentId) ∈ seen ↔ decisionKey tick agentId ∈ keys)
    (prev : Option Nat) : correlateAfter seen prev numbered =
      (correlateFrom start keys prev (rowsOf numbered)).map (ReplayCorrelationIssue.numbered lineOf) := by
  induction numbered generalizing start seen keys prev with
  | nil => rfl
  | cons line rest ih =>
    have exact' : toNumber line.entry.tick = line.entry.tick := toNumber_of_lt (safe line (by simp))
    have row : LogEntry.ofRow line.entry = ⟨line.entry.tick, line.entry.agentId,
        line.entry.parsedAction, line.entry.rationale⟩ := by
      rw [LogEntry.ofRow, exact']
    have here : lineOf start = line.line := lines 0 line rfl
    have known := same line.entry.tick line.entry.agentId
    have both : ∀ tick agentId, (tick, agentId) ∈ (line.entry.tick, line.entry.agentId) :: seen ↔
        decisionKey tick agentId ∈ (if decisionKey line.entry.tick line.entry.agentId ∈ keys then keys
          else decisionKey line.entry.tick line.entry.agentId :: keys) := by
      intro tick agentId
      have key : decisionKey tick agentId = decisionKey line.entry.tick line.entry.agentId ↔
          (tick, agentId) = (line.entry.tick, line.entry.agentId) := by
        refine ⟨fun equal => ?_, fun equal => ?_⟩
        · exact Prod.ext_iff.mpr (decisionKey_injective equal)
        · cases equal
          rfl
      rw [List.mem_cons, same]
      split
      case isTrue held =>
        refine or_iff_right_of_imp fun equal => ?_
        rw [key.mpr equal]
        exact held
      case isFalse => rw [List.mem_cons, key]
    have later := @ih (fun other listed => safe other (by simp [listed])) (start + 1)
      (fun index other found => by
        rw [Nat.add_assoc, Nat.add_comm 1]
        exact lines (index + 1) other found) _ _ both (some line.entry.tick)
    rw [correlateAfter, rowsOf, List.map_cons, correlateFrom_cons, row, List.map_append,
      List.map_append]
    dsimp only
    refine congrArg₂ (· ++ ·) (congrArg₂ (· ++ ·) ?_ ?_) later
    · cases prev with
      | none => rfl
      | some prev =>
        by_cases behind : line.entry.tick < prev
        · simp [Option.filter, behind, ReplayCorrelationIssue.numbered, here]
        · simp [Option.filter, behind]
    · by_cases repeated : (line.entry.tick, line.entry.agentId) ∈ seen
      · rw [if_pos repeated, if_pos (known.mp repeated), List.map_singleton,
          ReplayCorrelationIssue.numbered, here]
      · rw [if_neg repeated, if_neg (mt known.mpr repeated)]
        rfl

/-- The messages of an entry are the same exactly when its action is mirrored. -/
theorem sent_agree {selected : List NumberedEntry} (safe : SafeTicks selected) (seq : Nat) :
    (envelopesFrom seq selected).map (fun envelope => SimMessage.ofReplay envelope.payload) =
        (rowsOf selected).flatMap agentLogEntryToMessages ↔
      ∀ line ∈ selected, Mirrored line.entry.parsedAction := by
  induction selected generalizing seq with
  | nil => exact iff_of_true rfl (fun _ listed => absurd listed List.not_mem_nil)
  | cons line rest ih =>
    have exact' : toNumber line.entry.tick = line.entry.tick := toNumber_of_lt (safe line (by simp))
    have tail := ih (fun other listed => safe other (by simp [listed]))
      (saturatingAdd u64Max (saturatingAdd u64Max seq 1) 1)
    have report : agentLogEntryToReport (.ofRow line.entry) = reportFromEntry line.entry := by
      unfold agentLogEntryToReport reportFromEntry LogEntry.ofRow
      rw [exact']
      cases line.entry.parsedAction <;> rfl
    have tag : some (entryActionTag line.entry) = actionTagFor line.entry.parsedAction ↔
        Mirrored line.entry.parsedAction := by
      unfold entryActionTag Mirrored
      cases line.entry.parsedAction with
      | none => decide
      | some action => cases action <;> simp [actionTagFor, Action.tag]
    have heads : (envelopesFrom seq (line :: rest)).map
        (fun envelope => SimMessage.ofReplay envelope.payload) =
        .events [⟨line.entry.agentId, some (entryActionTag line.entry)⟩] ::
          .agentReport (reportFromEntry line.entry) ::
          (envelopesFrom (saturatingAdd u64Max (saturatingAdd u64Max seq 1) 1) rest).map
            fun envelope => SimMessage.ofReplay envelope.payload := rfl
    have rows : (rowsOf (line :: rest)).flatMap agentLogEntryToMessages =
        .events [⟨line.entry.agentId, actionTagFor line.entry.parsedAction⟩] ::
          .agentReport (reportFromEntry line.entry) ::
          (rowsOf rest).flatMap agentLogEntryToMessages := by
      rw [← report]
      rfl
    rw [heads, rows, List.forall_mem_cons, ← tag, ← tail]
    simp

end Agreement

/-- On every list of entries and for every filter the two replays agree exactly when the frontend
has a case for the action of every selected entry. -/
theorem replays_agree_iff {numbered : List NumberedEntry} (safe : SafeTicks numbered)
    (options : ReplayOptions) : ReplaysAgree numbered options ↔
      ∀ line ∈ selectEntries numbered options, Mirrored line.entry.parsedAction := by
  have selected := selected_agree safe options
  have narrowed : SafeTicks (selectEntries numbered options) := fun line listed =>
    safe line (List.mem_of_mem_filter listed)
  have sent := sent_agree narrowed 0
  rw [selected] at sent
  constructor
  · exact fun agree => sent.mp agree.sent
  · intro mirrored
    refine ⟨selected, correlated_agree safe (fun index line found => ?_) (by simp) none, sent.mpr mirrored⟩
    rw [Nat.zero_add, lineAt, found]
    rfl

/-- A row of an agent that chose this at this tick. -/
def chose (tick : Nat) (agentId : String) (action : Action) : AgentLogEntry where
  schemaVersion := 2
  tick
  agentId
  observationHash := 0
  parsedAction := some action
  consideredCount := 1
  rationale := "recorded"

theorem replays_agree_removal :
    let numbered : List NumberedEntry := [⟨1, chose 12 "builder" (.removePiece 3)⟩,
      ⟨3, chose 12 "builder" (.connectPieces 0 1)⟩, ⟨4, chose 11 "planner" .noOp⟩]
    ReplaysAgree numbered { fromTick := some 12 } ↔
      ∀ line ∈ selectEntries numbered { fromTick := some 12 }, Mirrored line.entry.parsedAction :=
  replays_agree_iff (by simp [SafeTicks, chose, safeBound]) _

/-- The frontend has no case for a goal: the event it makes of one has no action. -/
theorem goal_unmirrored : ¬ ReplaysAgree [⟨1, chose 12 "planner" (.setGoal "loop_forever")⟩] {} := by
  intro agree
  exact absurd agree.sent (by decide +kernel)

end Simetro.Frontend
