import Simetro.Engine.EventAmbiguity
import Simetro.Engine.WorldHash
import Simetro.Engine.WorldRuns

/-! `state_hash::hash_run`: what a run leaves for the hasher, and that two runs of one scene whose
digests agree said and did the same. -/

namespace Simetro.Engine.StateHash

open Simetro.Library Simetro.Protocol Chunk

/-! ## Messages -/

def sl1ObjectiveWarningTag : Sl1ObjectiveWarningKind → UInt8
  | .unsupportedInThisPr => 0x01

def sl1TransformWarningTag : Sl1TransformWarningKind → UInt8
  | .starved => 0x01
  | .blocked => 0x02
  | .late => 0x03
  | .failed => 0x04
  | .slotMissed => 0x05

def sl1DemandWarningTag : Sl1DemandWarningKind → UInt8
  | .dropped => 0x01
  | .backlogOverflow => 0x02

def sl1PressureWarningTag : Sl1PressureWarningKind → UInt8
  | .unsupportedInThisPr => 0x01

def feedWarning : WarningPayload → Chunk
  | .invalidAction agentId reason => byte 0x30 ++ str agentId ++ str reason
  | .behind lagFrames agentId => byte 0x31 ++ u32 lagFrames ++ maybe str agentId
  | .agentLogSlow => byte 0x33
  | .sl1Transform transformId event tick attempt =>
      byte 0x34 ++ str transformId ++ byte (sl1TransformWarningTag event) ++ u64 tick ++
        maybe u32 attempt
  | .sl1Demand demandId event tick sequence value penaltyScore penaltyWarning =>
      byte 0x35 ++ str demandId ++ byte (sl1DemandWarningTag event) ++ u64 tick ++
        maybe u64 sequence ++ maybe u64 value ++ maybe i64 penaltyScore ++ maybe str penaltyWarning
  | .sl1Pressure pressureId event pressureKind tick =>
      byte 0x36 ++ str pressureId ++ byte (sl1PressureWarningTag event) ++ str pressureKind ++ u64 tick
  | .sl1Objective objectiveId event objectiveKind tick =>
      byte 0x37 ++ str objectiveId ++ byte (sl1ObjectiveWarningTag event) ++ str objectiveKind ++
        u64 tick

def feedFault : FaultPayload → Chunk
  | .loadError message line col => byte 0x40 ++ str message ++ maybe u32 line ++ maybe u32 col
  | .agentCrashed agentId message => byte 0x41 ++ str agentId ++ str message
  | .numericDrift tick => byte 0x42 ++ u64 tick
  | .engineFault message => byte 0x43 ++ str message
  | .baselineHashMismatch expected found => byte 0x44 ++ str expected ++ str found
  | .schemaMismatch expected found => byte 0x45 ++ u32 expected ++ u32 found
  | .transportLost => byte 0x46

def feedAction : Action → Chunk
  | .noOp => byte 0x50
  | .setSpeed mover speed => byte 0x51 ++ u32 mover ++ word32 speed
  | .placePiece pieceKind pos => byte 0x52 ++ str pieceKind ++ word32 pos.1 ++ word32 pos.2
  | .connectPieces source target => byte 0x53 ++ u32 source ++ u32 target
  | .removePiece id => byte 0x54 ++ u32 id
  | .defineResource name color => byte 0x55 ++ str name ++ u8 color
  | .addProducer resource amount intervalTicks =>
      byte 0x56 ++ str resource ++ u64 amount ++ u32 intervalTicks
  | .addConsumer resource amount intervalTicks =>
      byte 0x57 ++ str resource ++ u64 amount ++ u32 intervalTicks
  | .setGoal goal => byte 0x58 ++ str goal

def feedConsidered (considered : ConsideredAction) : Chunk :=
  feedAction considered.action ++ word32 considered.confidence

def feedAgentReport (report : AgentReport) : Chunk :=
  u64 report.tick ++ str report.agentId ++ counted feedConsidered report.considered ++
    maybe feedAction report.chosen ++ str report.rationale ++ word32 report.confidence

def feedMessage : SimMessage → Chunk
  | .warning payload => byte 0x20 ++ feedWarning payload
  | .fault payload => byte 0x21 ++ feedFault payload
  | .agentReport report => byte 0x22 ++ feedAgentReport report

/-- The message part of one tick in `hash_run`. -/
def feedMessages (messages : List SimMessage) : Chunk := bare "msg" ++ counted feedMessage messages

/-! ## Reading messages back -/

theorem sl1ObjectiveWarningTag_injective : Function.Injective sl1ObjectiveWarningTag := by
  intro first second _
  cases first
  cases second
  rfl

theorem sl1TransformWarningTag_injective : Function.Injective sl1TransformWarningTag := by
  intro first second same
  cases first <;> cases second <;> first | rfl | exact absurd same (by decide)

theorem sl1DemandWarningTag_injective : Function.Injective sl1DemandWarningTag := by
  intro first second same
  cases first <;> cases second <;> first | rfl | exact absurd same (by decide)

theorem sl1PressureWarningTag_injective : Function.Injective sl1PressureWarningTag := by
  intro first second _
  cases first
  cases second
  rfl

def warningTag : WarningPayload → UInt8
  | .invalidAction .. => 0x30
  | .behind .. => 0x31
  | .agentLogSlow => 0x33
  | .sl1Transform .. => 0x34
  | .sl1Demand .. => 0x35
  | .sl1Pressure .. => 0x36
  | .sl1Objective .. => 0x37

def faultTag : FaultPayload → UInt8
  | .loadError .. => 0x40
  | .agentCrashed .. => 0x41
  | .numericDrift .. => 0x42
  | .engineFault .. => 0x43
  | .baselineHashMismatch .. => 0x44
  | .schemaMismatch .. => 0x45
  | .transportLost => 0x46

def actionTag : Action → UInt8
  | .noOp => 0x50
  | .setSpeed .. => 0x51
  | .placePiece .. => 0x52
  | .connectPieces .. => 0x53
  | .removePiece .. => 0x54
  | .defineResource .. => 0x55
  | .addProducer .. => 0x56
  | .addConsumer .. => 0x57
  | .setGoal .. => 0x58

def messageTag : SimMessage → UInt8
  | .warning _ => 0x20
  | .fault _ => 0x21
  | .agentReport _ => 0x22

theorem feedWarning_reads : Reads feedWarning fun payload => payload := by
  constructor
  intro first second after rest agree
  have tags := Agree.tags warningTag (by intro payload; cases payload <;> exact ⟨_, rfl⟩) agree
  cases first with
  | invalidAction =>
    cases second with
    | invalidAction =>
      simp only [feedWarning, Chunk.append_assoc] at agree
      obtain ⟨agentIds, agree⟩ := Reads.str.next agree.skip
      obtain ⟨reasons, ends⟩ := Reads.str.read agree
      simp_all
    | _ => simp [warningTag] at tags
  | behind =>
    cases second with
    | behind =>
      simp only [feedWarning, Chunk.append_assoc] at agree
      obtain ⟨frames, agree⟩ := (Reads.unsigned 4).next agree.skip
      obtain ⟨agentIds, ends⟩ := Reads.str.maybe.read agree
      simp_all
    | _ => simp [warningTag] at tags
  | agentLogSlow =>
    cases second with
    | agentLogSlow => exact ⟨rfl, List.append_cancel_left agree.2.2⟩
    | _ => simp [warningTag] at tags
  | sl1Transform =>
    cases second with
    | sl1Transform =>
      simp only [feedWarning, Chunk.append_assoc] at agree
      obtain ⟨transformIds, agree⟩ := Reads.str.next agree.skip
      obtain ⟨events, agree⟩ := (Reads.tag sl1TransformWarningTag_injective).next agree
      obtain ⟨ticks, agree⟩ := (Reads.unsigned 8).next agree
      obtain ⟨attempts, ends⟩ := (Reads.unsigned 4).maybe.read agree
      simp_all
    | _ => simp [warningTag] at tags
  | sl1Demand =>
    cases second with
    | sl1Demand =>
      simp only [feedWarning, Chunk.append_assoc] at agree
      obtain ⟨demandIds, agree⟩ := Reads.str.next agree.skip
      obtain ⟨events, agree⟩ := (Reads.tag sl1DemandWarningTag_injective).next agree
      obtain ⟨ticks, agree⟩ := (Reads.unsigned 8).next agree
      obtain ⟨sequences, agree⟩ := (Reads.unsigned 8).maybe.next agree
      obtain ⟨values, agree⟩ := (Reads.unsigned 8).maybe.next agree
      obtain ⟨scores, agree⟩ := Reads.i64.maybe.next agree
      obtain ⟨warnings, ends⟩ := Reads.str.maybe.read agree
      simp_all
    | _ => simp [warningTag] at tags
  | sl1Pressure =>
    cases second with
    | sl1Pressure =>
      simp only [feedWarning, Chunk.append_assoc] at agree
      obtain ⟨pressureIds, agree⟩ := Reads.str.next agree.skip
      obtain ⟨events, agree⟩ := (Reads.tag sl1PressureWarningTag_injective).next agree
      obtain ⟨kinds, agree⟩ := Reads.str.next agree
      obtain ⟨ticks, ends⟩ := (Reads.unsigned 8).read agree
      simp_all
    | _ => simp [warningTag] at tags
  | sl1Objective =>
    cases second with
    | sl1Objective =>
      simp only [feedWarning, Chunk.append_assoc] at agree
      obtain ⟨objectiveIds, agree⟩ := Reads.str.next agree.skip
      obtain ⟨events, agree⟩ := (Reads.tag sl1ObjectiveWarningTag_injective).next agree
      obtain ⟨kinds, agree⟩ := Reads.str.next agree
      obtain ⟨ticks, ends⟩ := (Reads.unsigned 8).read agree
      simp_all
    | _ => simp [warningTag] at tags

theorem feedFault_reads : Reads feedFault fun payload => payload := by
  constructor
  intro first second after rest agree
  have tags := Agree.tags faultTag (by intro payload; cases payload <;> exact ⟨_, rfl⟩) agree
  cases first with
  | loadError =>
    cases second with
    | loadError =>
      simp only [feedFault, Chunk.append_assoc] at agree
      obtain ⟨messages, agree⟩ := Reads.str.next agree.skip
      obtain ⟨lines, agree⟩ := (Reads.unsigned 4).maybe.next agree
      obtain ⟨cols, ends⟩ := (Reads.unsigned 4).maybe.read agree
      simp_all
    | _ => simp [faultTag] at tags
  | agentCrashed =>
    cases second with
    | agentCrashed =>
      simp only [feedFault, Chunk.append_assoc] at agree
      obtain ⟨agentIds, agree⟩ := Reads.str.next agree.skip
      obtain ⟨messages, ends⟩ := Reads.str.read agree
      simp_all
    | _ => simp [faultTag] at tags
  | numericDrift =>
    cases second with
    | numericDrift =>
      simp only [feedFault] at agree
      obtain ⟨ticks, ends⟩ := (Reads.unsigned 8).read agree.skip
      simp_all
    | _ => simp [faultTag] at tags
  | engineFault =>
    cases second with
    | engineFault =>
      simp only [feedFault] at agree
      obtain ⟨messages, ends⟩ := Reads.str.read agree.skip
      simp_all
    | _ => simp [faultTag] at tags
  | baselineHashMismatch =>
    cases second with
    | baselineHashMismatch =>
      simp only [feedFault, Chunk.append_assoc] at agree
      obtain ⟨expecteds, agree⟩ := Reads.str.next agree.skip
      obtain ⟨founds, ends⟩ := Reads.str.read agree
      simp_all
    | _ => simp [faultTag] at tags
  | schemaMismatch =>
    cases second with
    | schemaMismatch =>
      simp only [feedFault, Chunk.append_assoc] at agree
      obtain ⟨expecteds, agree⟩ := (Reads.unsigned 4).next agree.skip
      obtain ⟨founds, ends⟩ := (Reads.unsigned 4).read agree
      simp_all
    | _ => simp [faultTag] at tags
  | transportLost =>
    cases second with
    | transportLost => exact ⟨rfl, List.append_cancel_left agree.2.2⟩
    | _ => simp [faultTag] at tags

theorem feedAction_reads : Reads feedAction fun action => action := by
  constructor
  intro first second after rest agree
  have tags := Agree.tags actionTag (by intro action; cases action <;> exact ⟨_, rfl⟩) agree
  cases first with
  | noOp =>
    cases second with
    | noOp => exact ⟨rfl, List.append_cancel_left agree.2.2⟩
    | _ => simp [actionTag] at tags
  | setSpeed =>
    cases second with
    | setSpeed =>
      simp only [feedAction, Chunk.append_assoc] at agree
      obtain ⟨movers, agree⟩ := (Reads.unsigned 4).next agree.skip
      obtain ⟨speeds, ends⟩ := Reads.word32.read agree
      simp_all
    | _ => simp [actionTag] at tags
  | placePiece =>
    cases second with
    | placePiece =>
      simp only [feedAction, Chunk.append_assoc] at agree
      obtain ⟨kinds, agree⟩ := Reads.str.next agree.skip
      obtain ⟨xs, agree⟩ := Reads.word32.next agree
      obtain ⟨ys, ends⟩ := Reads.word32.read agree
      simp_all [Prod.ext_iff]
    | _ => simp [actionTag] at tags
  | connectPieces =>
    cases second with
    | connectPieces =>
      simp only [feedAction, Chunk.append_assoc] at agree
      obtain ⟨sources, agree⟩ := (Reads.unsigned 4).next agree.skip
      obtain ⟨targets, ends⟩ := (Reads.unsigned 4).read agree
      simp_all
    | _ => simp [actionTag] at tags
  | removePiece =>
    cases second with
    | removePiece =>
      simp only [feedAction] at agree
      obtain ⟨ids, ends⟩ := (Reads.unsigned 4).read agree.skip
      simp_all
    | _ => simp [actionTag] at tags
  | defineResource =>
    cases second with
    | defineResource =>
      simp only [feedAction, Chunk.append_assoc] at agree
      obtain ⟨names, agree⟩ := Reads.str.next agree.skip
      obtain ⟨colors, ends⟩ := (Reads.unsigned 1).read agree
      simp_all
    | _ => simp [actionTag] at tags
  | addProducer =>
    cases second with
    | addProducer =>
      simp only [feedAction, Chunk.append_assoc] at agree
      obtain ⟨resources, agree⟩ := Reads.str.next agree.skip
      obtain ⟨amounts, agree⟩ := (Reads.unsigned 8).next agree
      obtain ⟨intervals, ends⟩ := (Reads.unsigned 4).read agree
      simp_all
    | _ => simp [actionTag] at tags
  | addConsumer =>
    cases second with
    | addConsumer =>
      simp only [feedAction, Chunk.append_assoc] at agree
      obtain ⟨resources, agree⟩ := Reads.str.next agree.skip
      obtain ⟨amounts, agree⟩ := (Reads.unsigned 8).next agree
      obtain ⟨intervals, ends⟩ := (Reads.unsigned 4).read agree
      simp_all
    | _ => simp [actionTag] at tags
  | setGoal =>
    cases second with
    | setGoal =>
      simp only [feedAction] at agree
      obtain ⟨goals, ends⟩ := Reads.str.read agree.skip
      simp_all
    | _ => simp [actionTag] at tags

theorem feedConsidered_reads : Reads feedConsidered fun considered => considered := by
  constructor
  intro first second after rest agree
  obtain ⟨actions, agree⟩ := feedAction_reads.next agree
  obtain ⟨confidences, ends⟩ := Reads.word32.read agree
  cases first
  cases second
  simp_all

theorem feedAgentReport_reads : Reads feedAgentReport fun report => report := by
  constructor
  intro first second after rest agree
  simp only [feedAgentReport, Chunk.append_assoc] at agree
  obtain ⟨ticks, agree⟩ := (Reads.unsigned 8).next agree
  obtain ⟨agentIds, agree⟩ := Reads.str.next agree
  obtain ⟨considered, agree⟩ := feedConsidered_reads.counted.next agree
  obtain ⟨chosen, agree⟩ := feedAction_reads.maybe.next agree
  obtain ⟨rationales, agree⟩ := Reads.str.next agree
  obtain ⟨confidences, ends⟩ := Reads.word32.read agree
  cases first
  cases second
  simp_all

theorem feedMessage_reads : Reads feedMessage fun message => message := by
  constructor
  intro first second after rest agree
  have tags := Agree.tags messageTag (by intro message; cases message <;> exact ⟨_, rfl⟩) agree
  cases first with
  | warning =>
    cases second with
    | warning =>
      obtain ⟨payloads, ends⟩ := feedWarning_reads.read agree.skip
      exact ⟨congrArg SimMessage.warning payloads, ends⟩
    | _ => simp [messageTag] at tags
  | fault =>
    cases second with
    | fault =>
      obtain ⟨payloads, ends⟩ := feedFault_reads.read agree.skip
      exact ⟨congrArg SimMessage.fault payloads, ends⟩
    | _ => simp [messageTag] at tags
  | agentReport =>
    cases second with
    | agentReport =>
      obtain ⟨reports, ends⟩ := feedAgentReport_reads.read agree.skip
      exact ⟨congrArg SimMessage.agentReport reports, ends⟩
    | _ => simp [messageTag] at tags

/-! ## Runs -/

/-- What one tick leaves in the runner. -/
structure TickRecord where
  events : List SimEvent
  messages : List SimMessage

def feedTick (record : TickRecord) : Chunk := feedEvents record.events ++ feedMessages record.messages

/-- `0123456789abcdef`. -/
def hexTable : List Char :=
  ['0', '1', '2', '3', '4', '5', '6', '7', '8', '9', 'a', 'b', 'c', 'd', 'e', 'f']

def hexEncode (bytes : List UInt8) : String :=
  String.ofList (bytes.flatMap fun b =>
    [hexTable.getD (b.toNat / 16) '0', hexTable.getD (b.toNat % 16) '0'])

section Runs

variable {Host Log Observation : Type} (systems : Systems Transit Host Log Observation)
  (backend : Sl1.AgentBackend)

/-- The loop of `hash_run`. -/
def hashTicks : Nat → Machine Transit Host Log → Chunk →
    Run (Machine Transit Host Log) (Machine Transit Host Log × Chunk)
  | 0, machine, fed => return (machine, fed)
  | ticks + 1, machine, fed => do
    let machine ← tickOnce systems backend machine
    hashTicks ticks machine
      (fed ++ feedEvents machine.runner.events ++ feedMessages machine.runner.messages)

/-- `hash_run`, with the hasher as a parameter. -/
def hashRun (sha256 : List UInt8 → List UInt8) (machine : Machine Transit Host Log) (ticks : Nat) :
    Run (Machine Transit Host Log) (Machine Transit Host Log × String) := do
  let result ← hashTicks systems backend ticks machine (feedWorld machine.world)
  let fed := result.2 ++ bare "final" ++ feedWorld result.1.world
  return (result.1, hexEncode (sha256 fed.bytes))

/-- A run with what each of its ticks left. -/
def recording : Nat → Machine Transit Host Log →
    Run (Machine Transit Host Log) (Machine Transit Host Log × List TickRecord)
  | 0, machine => return (machine, [])
  | ticks + 1, machine => do
    let machine ← tickOnce systems backend machine
    let result ← recording ticks machine
    return (result.1, ⟨machine.runner.events, machine.runner.messages⟩ :: result.2)

variable {systems backend}

/-- A recorded tick and the rest of the run. -/
theorem recording_succ {ticks : Nat} {machine final : Machine Transit Host Log}
    {records : List TickRecord}
    (ran : recording systems backend (ticks + 1) machine = .done (final, records)) :
    ∃ next rest, tickOnce systems backend machine = .done next ∧
      recording systems backend ticks next = .done (final, rest) ∧
      records = ⟨next.runner.events, next.runner.messages⟩ :: rest := by
  rw [recording] at ran
  cases ticked : tickOnce systems backend machine with
  | panicked state message =>
    rw [ticked] at ran
    cases ran
  | done next =>
    rw [ticked] at ran
    change (recording systems backend ticks next >>= fun result => _) = _ at ran
    cases rested : recording systems backend ticks next with
    | panicked state message =>
      rw [rested] at ran
      cases ran
    | done result =>
      rw [rested] at ran
      cases ran
      exact ⟨next, result.2, rfl, rested, rfl⟩

theorem length_recording (ticks : Nat) : ∀ {machine final : Machine Transit Host Log}
    {records : List TickRecord}, recording systems backend ticks machine = .done (final, records) →
      records.length = ticks := by
  induction ticks with
  | zero =>
    intro machine final records ran
    cases ran
    rfl
  | succ ticks ih =>
    intro machine final records ran
    obtain ⟨next, rest, -, later, rfl⟩ := recording_succ ran
    rw [List.length_cons, ih later]

/-- The loop feeds what the recording holds. -/
theorem hashTicks_recording (ticks : Nat) : ∀ {machine final : Machine Transit Host Log}
    {records : List TickRecord} (fed : Chunk),
      recording systems backend ticks machine = .done (final, records) →
        hashTicks systems backend ticks machine fed = .done (final, fed ++ each feedTick records) := by
  induction ticks with
  | zero =>
    intro machine final records fed ran
    cases ran
    exact congrArg (fun fed => Run.done (machine, fed)) (Chunk.append_nil fed).symm
  | succ ticks ih =>
    intro machine final records fed ran
    obtain ⟨next, rest, ticked, later, rfl⟩ := recording_succ ran
    rw [hashTicks, ticked]
    refine (ih _ later).trans (congrArg (fun fed => Run.done (final, fed)) ?_)
    rw [each, feedTick, Chunk.append_assoc, Chunk.append_assoc, Chunk.append_assoc]

/-- What a recorded run gives the hasher. -/
def digestInput (start : World Transit) (records : List TickRecord) (final : World Transit) : Chunk :=
  feedWorld start ++ (each feedTick records ++ (bare "final" ++ feedWorld final))

theorem hashRun_recording {sha256 : List UInt8 → List UInt8} {machine final : Machine Transit Host Log}
    {ticks : Nat} {records : List TickRecord}
    (ran : recording systems backend ticks machine = .done (final, records)) :
    hashRun systems backend sha256 machine ticks =
      .done (final, hexEncode (sha256 (digestInput machine.world records final.world).bytes)) := by
  rw [hashRun, hashTicks_recording ticks _ ran]
  change Run.done (final, hexEncode (sha256 _)) = _
  rw [digestInput, Chunk.append_assoc, Chunk.append_assoc]

end Runs

/-! ## What a digest tells -/

/-- No decision in the event is by an agent whose name has the code of an action. -/
def PlainEvent (event : SimEvent) : Prop :=
  ∀ agentId action, event = .agentDecided agentId action → ∀ c ∈ agentId.toList, ¬ IsActionByte c

theorem plainEvent_reads :
    Reads (fun kept : { event // PlainEvent event } => feedEvent kept.1) fun kept => kept.1 := by
  constructor
  intro first second after rest agree
  obtain done | ⟨agentId, action, agentId', action', here, there⟩ := feedEvent_agree agree
  · exact done
  · have same := agree.2.2
    have plain := first.2 agentId action here
    have plain' := second.2 agentId' action' there
    rw [here, there] at same ⊢
    simp only [feedEvent, bare, bytes_append, bytes_byte, bytes_raw, List.append_assoc,
      List.cons_append, List.nil_append, List.cons.injEq, true_and] at same
    have low := actionByte_le action
    have low' := actionByte_le action'
    rw [← UInt8.ofNat_toNat (x := actionByte action),
      ← UInt8.ofNat_toNat (x := actionByte action')] at same
    -- a name that goes on where the other one closed would have the code of an action
    have closes {code : Nat} (small : code ≤ 8) : IsActionByte (Char.ofNat code) := by
      rw [IsActionByte, toNat_ofNat_ascii (by omega)]
      exact small
    obtain ⟨names, actions, ends⟩ | ⟨chars, longer, -⟩ | ⟨chars, longer, -⟩ :=
      utf8Chars_closed (by omega) (by omega) same
    · obtain rfl := String.toList_injective names
      obtain rfl := actionByte_injective (UInt8.toNat_inj.mp actions)
      exact ⟨rfl, ends⟩
    · exact absurd (closes low) (plain' _ (by simp [longer]))
    · exact absurd (closes low') (plain _ (by simp [longer]))

def PlainRecord (record : TickRecord) : Prop := ∀ event ∈ record.events, PlainEvent event

theorem feedTick_reads :
    Reads (fun kept : { record // PlainRecord record } => feedTick kept.1) fun kept => kept.1 := by
  constructor
  intro first second after rest agree
  obtain ⟨⟨events, messages⟩, plain⟩ := first
  obtain ⟨⟨events', messages'⟩, plain'⟩ := second
  simp only [feedTick, feedEvents, feedMessages, Chunk.append_assoc] at agree
  obtain ⟨lengths, listed⟩ := (Reads.unsigned 8).next agree.skip
  obtain ⟨happened, behind⟩ := plainEvent_reads.each_kept plain plain' lengths listed
  obtain ⟨said, ends⟩ := feedMessage_reads.counted.read behind.skip
  rw [List.map_id', List.map_id'] at said
  exact ⟨congrArg₂ TickRecord.mk happened said, ends⟩

theorem feedTick_front (record : TickRecord) : utf8 "evs" <+: (feedTick record).bytes := by
  refine ⟨(u64 record.events.length ++ each feedEvent record.events ++
    feedMessages record.messages).bytes, ?_⟩
  simp only [feedTick, feedEvents, bare, bytes_append, bytes_raw, List.append_assoc]

/-- Behind the ticks of a run stands `final`, which does not start like a tick. -/
theorem final_stops (final : World Transit) :
    ¬ utf8 "evs" <+: (bare "final" ++ feedWorld final).bytes ++ [] := by
  have apart : ¬ utf8 "evs" <+: utf8 "final" ∧ ¬ utf8 "final" <+: utf8 "evs" := by decide
  rw [List.append_nil]
  exact not_prefix_append apart

/-- The bytes that two runs of one scene give the hasher are the same exactly where the runs left
the same events and messages tick for tick and ended in worlds that are fed alike. -/
theorem digestInput_eq_iff {start start' final final' : World Transit}
    {records records' : List TickRecord} (sameStart : (feedWorld start).bytes = (feedWorld start').bytes)
    (fits : (digestInput start records final).fits) (fits' : (digestInput start' records' final').fits)
    (plain : ∀ record ∈ records, PlainRecord record) (plain' : ∀ record ∈ records', PlainRecord record) :
    (digestInput start records final).bytes = (digestInput start' records' final').bytes ↔
      records = records' ∧ (feedWorld final).bytes = (feedWorld final').bytes := by
  constructor
  · intro same
    have whole : Agree (digestInput start records final) (digestInput start' records' final') [] [] :=
      ⟨fits, fits', by rw [same]⟩
    have behind := whole.right (List.append_cancel_left (sameStart ▸ whole.left.2.2))
    obtain ⟨told, agree⟩ := feedTick_reads.each_until_kept (utf8 "evs") feedTick_front plain plain'
      behind (final_stops final) (final_stops final')
    have ended := agree.skip.2.2
    rw [List.append_nil, List.append_nil] at ended
    exact ⟨told, ended⟩
  · rintro ⟨rfl, ended⟩
    simp only [digestInput, bytes_append, sameStart, ended]

theorem hexTable_injective : ∀ m < 16, ∀ n < 16, hexTable.getD m '0' = hexTable.getD n '0' → m = n := by
  decide

theorem hexEncode_injective : Function.Injective hexEncode := by
  intro first second same
  replace same := String.ofList_injective same
  induction first generalizing second with
  | nil =>
    cases second with
    | nil => rfl
    | cons => cases same
  | cons byte rest ih =>
    cases second with
    | nil => cases same
    | cons other others =>
      simp only [List.flatMap_cons, List.cons_append, List.nil_append, List.cons.injEq] at same
      obtain ⟨high, low, same⟩ := same
      have bound := byte.toNat_lt
      have bound' := other.toNat_lt
      have highs := hexTable_injective _ (by omega) _ (by omega) high
      have lows := hexTable_injective _ (by omega) _ (by omega) low
      rw [UInt8.toNat_inj.mp (show byte.toNat = other.toNat by omega), ih same]

section Gate

variable {Host Host' Log Log' Observation Observation' : Type}

/-- As long as their bytes do not collide, two runs of one scene have one digest exactly where they
took as many ticks, left the same events and messages in each, and ended in worlds fed alike. -/
theorem hash_run_tells_apart (sha256 : List UInt8 → List UInt8)
    {systems : Systems Transit Host Log Observation} {systems' : Systems Transit Host' Log' Observation'}
    {backend backend' : Sl1.AgentBackend} {first final : Machine Transit Host Log}
    {second final' : Machine Transit Host' Log'} {ticks ticks' : Nat} {records records' : List TickRecord}
    (ran : recording systems backend ticks first = .done (final, records))
    (ran' : recording systems' backend' ticks' second = .done (final', records'))
    (sameStart : (feedWorld first.world).bytes = (feedWorld second.world).bytes)
    (fits : (digestInput first.world records final.world).fits)
    (fits' : (digestInput second.world records' final'.world).fits)
    (plain : ∀ record ∈ records, PlainRecord record)
    (plain' : ∀ record ∈ records', PlainRecord record)
    (apart : sha256 (digestInput first.world records final.world).bytes =
        sha256 (digestInput second.world records' final'.world).bytes →
      (digestInput first.world records final.world).bytes =
        (digestInput second.world records' final'.world).bytes) :
    ∃ digest digest', hashRun systems backend sha256 first ticks = .done (final, digest) ∧
      hashRun systems' backend' sha256 second ticks' = .done (final', digest') ∧
      (digest = digest' ↔ ticks = ticks' ∧ records = records' ∧
        (feedWorld final.world).bytes = (feedWorld final'.world).bytes) := by
  refine ⟨_, _, hashRun_recording ran, hashRun_recording ran', ?_⟩
  have told := digestInput_eq_iff sameStart fits fits' plain plain'
  constructor
  · intro same
    obtain ⟨told, ended⟩ := told.mp (apart (hexEncode_injective same))
    refine ⟨?_, told, ended⟩
    rw [← length_recording ticks ran, ← length_recording ticks' ran', told]
  · rintro ⟨-, same, ended⟩
    rw [told.mpr ⟨same, ended⟩]

end Gate

/-- A running world with nothing in it. -/
def bareMachine (hosts : List (String × Action)) : Machine Transit (String × Action) Unit where
  world := ⟨0, .running, {}, none, none⟩
  runner := { hosts }

theorem fits_bare (tick : Nat) : (feedWorld ⟨tick, .running, {}, none, none⟩).fits := by
  have number (value : Float32) : (f32 value).fits = true := fits_unsigned.mpr (UInt32.toNat_lt _)
  have nothing {Value : Type} (feed : Value → Chunk) :
      (entries u32 feed (∅ : Std.ExtTreeMap Nat Value)).fits = true :=
    (fits_entries (by decide)).mpr (by simp)
  simp [feedWorld, feedTransit, feedResources, bare, number, nothing]

/-- What the planner leaves who chooses to do nothing. -/
def plannerRecord : TickRecord where
  events := [.agentDecided "planner" .noOp, .tick 1]
  messages := [.agentReport {
    tick := 0, agentId := "planner", considered := [], chosen := some .noOp, rationale := ""
    confidence := 0 }]

theorem hash_run_tells_apart_oneAgent : ∃ digest digest' final final',
    hashRun scripted Sl1.defaultBackend id (bareMachine [("planner", .noOp)]) 1 = .done (final, digest) ∧
      hashRun scripted Sl1.defaultBackend id (bareMachine []) 1 = .done (final', digest') ∧
      digest ≠ digest' := by
  obtain ⟨final, ran, world⟩ : ∃ final, recording scripted Sl1.defaultBackend 1
      (bareMachine [("planner", .noOp)]) = .done (final, [plannerRecord]) ∧
      final.world = ⟨1, .running, {}, none, none⟩ := ⟨_, rfl, rfl⟩
  obtain ⟨final', ran', world'⟩ : ∃ final', recording scripted Sl1.defaultBackend 1
      (bareMachine []) = .done (final', [⟨[.tick 1], []⟩]) ∧
      final'.world = ⟨1, .running, {}, none, none⟩ := ⟨_, rfl, rfl⟩
  have fits {records : List TickRecord} (listed : (each feedTick records).fits = true) :
      (digestInput ⟨0, .running, {}, none, none⟩ records ⟨1, .running, {}, none, none⟩).fits := by
    simp [digestInput, fits_bare, listed, bare]
  obtain ⟨digest, digest', first, second, told⟩ := hash_run_tells_apart id ran ran' rfl
    (world ▸ fits (by decide)) (world' ▸ fits (by decide)) (by
      intro record listed event member agentId action same c named
      rw [List.mem_singleton.mp listed, same] at member
      obtain ⟨rfl, rfl⟩ : agentId = "planner" ∧ action = .noOp := by
        simpa [plannerRecord] using member
      have letters : ∀ c ∈ "planner".toList, 8 < c.toNat := by simp
      exact Nat.not_le.mpr (letters c named)) (by
      intro record listed event member agentId action same c named
      rw [List.mem_singleton.mp listed, same] at member
      simp at member) id
  refine ⟨digest, digest', final, final', first, second, fun same => ?_⟩
  have records := (told.mp same).2.1
  exact absurd (congrArg (List.map fun record => record.messages.length) records) (by decide)

end Simetro.Engine.StateHash
