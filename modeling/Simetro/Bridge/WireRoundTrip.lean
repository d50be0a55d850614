import Simetro.Bridge.Wire

/-! What is written on the pipe is one line, and it is read back exactly when its floats
are finite. -/

namespace Simetro.Bridge

open Simetro.Agent Simetro.Library Simetro.Protocol

/-- The numbers of an id are those of its field types. -/
structure FitsId (id : RequestId) : Prop where
  timelineId : id.timelineId < u64Bound
  sourceTick : id.sourceTick < u64Bound
  attempt : id.attempt < u32Bound

structure FitsRequest (request : AgentRequest) : Prop where
  id : FitsId request.id
  deadlineTicks : request.deadlineTicks < u32Bound

def FitsAction : Action → Prop
  | .noOp | .setGoal _ => True
  | .setSpeed mover _ => mover < u32Bound
  | .placePiece _ _ => True
  | .connectPieces source target => source < u32Bound ∧ target < u32Bound
  | .removePiece id => id < u32Bound
  | .defineResource _ color => color < u8Bound
  | .addProducer _ amount interval | .addConsumer _ amount interval =>
      amount < u64Bound ∧ interval < u32Bound

/-- No infinity and no NaN among an action's floats. -/
def finiteAction : Action → Bool
  | .setSpeed _ speed => speed.isFinite
  | .placePiece _ pos => pos.1.isFinite && pos.2.isFinite
  | _ => true

section Records

variable {text : F32Text}

/-- A guarded value, passed on. -/
private theorem some_if_bind {Value Result : Type} (guard : Bool) (value : Value)
    (next : Value → Option Result) :
    ((if guard then some value else none).bind next) = if guard then next value else none := by
  cases guard <;> rfl

theorem requestId_reads {id : RequestId} (fits : FitsId id) :
    requestIdFromJson (requestIdToJson id) = some id := by
  have read := Json.fields_object [("timeline_id", Json.ofNat id.timelineId),
    ("agent_id", .string id.agentId), ("source_tick", .ofNat id.sourceTick),
    ("attempt", .ofNat id.attempt)] (by simp)
  simp only [List.map_cons, List.map_nil] at read
  unfold requestIdFromJson requestIdToJson
  simp only [read, Option.bind_eq_bind, Option.bind_some, Json.below?_ofNat fits.timelineId,
    Json.below?_ofNat fits.sourceTick, Json.below?_ofNat fits.attempt, Json.text?]
  rfl

theorem requestIdToJson_sound (id : RequestId) : (requestIdToJson id).Sound :=
  ⟨Json.ofNat_sound _, trivial, Json.ofNat_sound _, Json.ofNat_sound _, trivial⟩

theorem request_reads {request : AgentRequest} (fits : FitsRequest request) :
    requestFromJson (.object (requestMembers request)) = some request := by
  have read := Json.fields_object (requestMembers request) (by simp [requestMembers])
  simp only [requestMembers, List.map_cons, List.map_nil] at read
  unfold requestFromJson requestMembers
  simp only [read, Option.bind_eq_bind, Option.bind_some, requestId_reads fits.id,
    Json.below?_ofNat fits.deadlineTicks, Json.text?]
  rfl

theorem pair_reads (pair : F32Bits × F32Bits) : text.pairFromJson (text.pairToJson pair) =
    if pair.1.isFinite && pair.2.isFinite then some pair else none := by
  unfold F32Text.pairFromJson F32Text.pairToJson
  simp only [F32Text.fromJson_toJson, Option.bind_eq_bind]
  cases pair.1.isFinite with
  | false => rfl
  | true => cases pair.2.isFinite <;> rfl

theorem flow_reads (action : String → Nat → Nat → Action) {resource : String}
    {amount interval : Nat} (amountFits : amount < u64Bound) (intervalFits : interval < u32Bound) :
    flowFromJson (.object [("resource", .string resource), ("amount", .ofNat amount),
      ("interval_ticks", .ofNat interval)]) action = some (action resource amount interval) := by
  have read := Json.fields_object [("resource", Json.string resource),
    ("amount", .ofNat amount), ("interval_ticks", .ofNat interval)] (by simp)
  simp only [List.map_cons, List.map_nil] at read
  unfold flowFromJson
  simp only [read, Option.bind_eq_bind, Option.bind_some, Json.below?_ofNat amountFits,
    Json.below?_ofNat intervalFits, Json.text?]
  rfl

/-- An action is read back exactly when its floats are finite. -/
theorem actionOfKind_reads {action : Action} (fits : FitsAction action) :
    actionOfKind text (.object (actionMembers text action).2) (actionMembers text action).1 =
      if finiteAction action then some action else none := by
  have read := Json.fields_object (actionMembers text action).2
    (by cases action <;> simp [actionMembers])
  cases action with
  | noOp => rfl
  | setSpeed mover speed =>
    simp only [actionMembers, List.map_cons, List.map_nil] at read
    have mover' : mover < u32Bound := fits
    simp only [actionMembers, actionOfKind, read, Option.bind_eq_bind, Option.bind_some,
      Json.below?_ofNat mover', F32Text.fromJson_toJson, finiteAction]
    exact some_if_bind _ speed _
  | placePiece kind pos =>
    simp only [actionMembers, List.map_cons, List.map_nil] at read
    simp only [actionMembers, actionOfKind, read, Option.bind_eq_bind, Option.bind_some, Json.text?,
      pair_reads, finiteAction]
    exact some_if_bind _ pos _
  | connectPieces source target =>
    simp only [actionMembers, List.map_cons, List.map_nil] at read
    simp only [actionMembers, actionOfKind, read, Option.bind_eq_bind, Option.bind_some,
      Json.below?_ofNat fits.1, Json.below?_ofNat fits.2]
    rfl
  | removePiece id =>
    simp only [actionMembers, List.map_cons, List.map_nil] at read
    have id' : id < u32Bound := fits
    simp only [actionMembers, actionOfKind, read, Option.bind_eq_bind, Option.bind_some,
      Json.below?_ofNat id']
    rfl
  | defineResource name color =>
    simp only [actionMembers, List.map_cons, List.map_nil] at read
    have color' : color < u8Bound := fits
    simp only [actionMembers, actionOfKind, read, Option.bind_eq_bind, Option.bind_some,
      Json.below?_ofNat color', Json.text?]
    rfl
  | addProducer resource amount interval => exact flow_reads .addProducer fits.1 fits.2
  | addConsumer resource amount interval => exact flow_reads .addConsumer fits.1 fits.2
  | setGoal goal =>
    simp only [actionMembers, List.map_cons, List.map_nil] at read
    simp only [actionMembers, actionOfKind, read, Option.bind_eq_bind, Option.bind_some, Json.text?]
    rfl

theorem action_reads {action : Action} (fits : FitsAction action) :
    actionFromJson text (actionToJson text action) =
      if finiteAction action then some action else none := by
  have untagged : "kind" ∉ ((actionMembers text action).2).map (·.1) := by
    cases action <;> simp [actionMembers]
  unfold actionFromJson actionToJson
  rw [Json.tagged_object untagged]
  exact actionOfKind_reads fits

theorem actionToJson_sound (action : Action) : (actionToJson text action).Sound := by
  have float := @F32Text.toJson_sound text
  cases action with
  | noOp => exact ⟨trivial, trivial⟩
  | setSpeed mover speed => exact ⟨trivial, Json.ofNat_sound _, float speed, trivial⟩
  | placePiece kind pos => exact ⟨trivial, trivial, ⟨float pos.1, float pos.2, trivial⟩, trivial⟩
  | connectPieces source target => exact ⟨trivial, Json.ofNat_sound _, Json.ofNat_sound _, trivial⟩
  | removePiece id => exact ⟨trivial, Json.ofNat_sound _, trivial⟩
  | defineResource name color => exact ⟨trivial, trivial, Json.ofNat_sound _, trivial⟩
  | addProducer | addConsumer =>
    exact ⟨trivial, trivial, Json.ofNat_sound _, Json.ofNat_sound _, trivial⟩
  | setGoal goal => exact ⟨trivial, trivial, trivial⟩

theorem chosen_reads {action : Action} (fits : FitsAction action) :
    chosenFromJson text (some (actionToJson text action)) =
      if finiteAction action then some (some action) else none := by
  change (actionFromJson text (actionToJson text action)).map some = _
  rw [action_reads fits]
  split <;> rfl

/-- A reply that chose an action. -/
theorem reply_reads {id : RequestId} {action : Action} {confidence : F32Bits} (rationale : String)
    (fitsId : FitsId id) (fits : FitsAction action) (confident : confidence.isFinite) :
    replyFromJson text (.object (replyMembers text ⟨id, some action, rationale, confidence⟩)) =
      if finiteAction action then some ⟨id, some action, rationale, confidence⟩ else none := by
  have read := Json.fields_object
    (replyMembers text ⟨id, some action, rationale, confidence⟩) (by simp [replyMembers])
  simp only [replyMembers, List.map_cons, List.map_nil, Option.map_some, Option.getD_some] at read
  unfold replyFromJson replyMembers
  simp only [Option.map_some, Option.getD_some, read, Option.bind_eq_bind, Option.bind_some,
    requestId_reads fitsId, chosen_reads fits, Json.text?, F32Text.fromJson_toJson, confident]
  split <;> rfl

end Records

section Envelopes

variable {text : F32Text} {envelope : Envelope}

theorem message_reads (message : BridgeMessage) :
    messageFromJson text (messageToJson text message) =
      messageOfKind text (.object (messageMembers text message).2) (messageMembers text message).1 := by
  have untagged : "kind" ∉ ((messageMembers text message).2).map (·.1) := by
    cases message <;> simp [messageMembers, requestMembers, replyMembers]
  unfold messageFromJson messageToJson
  rw [Json.tagged_object untagged]
  rfl

theorem envelope_reads {seq : Nat} (numbered : seq < u64Bound) (message : BridgeMessage) :
    envelopeFromJson text (envelopeToJson text (.new seq message)) =
      (messageFromJson text (messageToJson text message)).map (.new seq) := by
  have read := Json.fields_object [("schema_version", Json.ofNat schemaVersion),
    ("seq", .ofNat seq), ("payload", messageToJson text message)] (by simp)
  simp only [List.map_cons, List.map_nil] at read
  have version : schemaVersion < u32Bound := by decide
  unfold envelopeFromJson envelopeToJson Envelope.new
  simp only [read, Option.bind_eq_bind, Option.bind_some, Json.below?_ofNat numbered,
    Json.below?_ofNat version]
  cases messageFromJson text (messageToJson text message) <;> rfl

theorem messageToJson_sound (message : BridgeMessage) : (messageToJson text message).Sound := by
  cases message with
  | hello => exact ⟨trivial, trivial, Json.ofNat_sound _, trivial⟩
  | request request =>
    exact ⟨trivial, requestIdToJson_sound _, Json.ofNat_sound _, trivial, trivial⟩
  | reply reply =>
    refine ⟨trivial, requestIdToJson_sound _, ?_, trivial, F32Text.toJson_sound _, trivial⟩
    cases reply.chosen with
    | none => trivial
    | some action => exact actionToJson_sound action
  | shutdown => exact ⟨trivial, trivial⟩
  | log => exact ⟨trivial, trivial, trivial, trivial⟩

theorem envelopeToJson_sound (envelope : Envelope) : (envelopeToJson text envelope).Sound :=
  ⟨Json.ofNat_sound _, Json.ofNat_sound _, messageToJson_sound _, trivial⟩

/-- The written document holds no line end. -/
theorem envelope_oneLine (text : F32Text) (envelope : Envelope) :
    ∀ character ∈ (envelopeToJson text envelope).chars, character ≠ '\n' ∧ character ≠ '\r' := by
  intro character listed
  have visible := Json.chars_visible _ (envelopeToJson_sound envelope) character listed
  constructor
  · rintro rfl
    exact absurd visible (by decide)
  · rintro rfl
    exact absurd visible (by decide)

theorem readLine_line {line : List Char} (plain : ∀ character ∈ line, character ≠ '\n')
    (more : List Char) : readLine (line ++ '\n' :: more) = (line ++ ['\n'], more) := by
  have kept : ∀ character ∈ line, decide (character ≠ '\n') = true := fun character listed =>
    decide_eq_true (plain character listed)
  unfold readLine
  rw [List.dropWhile_append_of_pos kept, List.takeWhile_append_of_pos kept,
    List.dropWhile_cons_of_neg (by simp), List.takeWhile_cons_of_neg (by simp), List.append_nil]

theorem trimEnd_line {line : List Char}
    (plain : ∀ character ∈ line, character ≠ '\n' ∧ character ≠ '\r') :
    trimEnd (line ++ ['\n']) = line := by
  have kept : (line.reverse.dropWhile fun character => character = '\n' || character = '\r') =
      line.reverse := by
    cases reversed : line.reverse with
    | nil => rfl
    | cons head tail =>
      have listed : head ∈ line := List.mem_reverse.mp (by simp [reversed])
      obtain ⟨newline, return'⟩ := plain head listed
      exact List.dropWhile_cons_of_neg (by simp [newline, return'])
  unfold trimEnd
  rw [List.reverse_append, List.reverse_singleton, List.singleton_append,
    List.dropWhile_cons_of_pos (by simp), kept, List.reverse_reverse]

/-- Reading the first envelope of a stream is reading its document. -/
theorem readEnvelope_written (text : F32Text) (envelope : Envelope) (more : List Char) :
    readEnvelope text (writeEnvelope text envelope ++ more) =
      (match envelopeFromJson text (envelopeToJson text envelope) with
        | some read => .ok (some read)
        | none => .error .invalidData, more) := by
  have plain := envelope_oneLine text envelope
  have sound := @envelopeToJson_sound text envelope
  obtain ⟨head, tail, opened, -⟩ := Json.chars_opens sound
  unfold readEnvelope writeEnvelope
  rw [List.append_assoc, List.singleton_append,
    readLine_line fun character listed => (plain character listed).1]
  simp only [trimEnd_line plain, Json.parse_chars sound, Option.bind_some]
  rw [if_neg (by simp), if_neg (by simp [opened])]
  cases envelopeFromJson text (envelopeToJson text envelope) <;> rfl

/-- Written, the envelope is one line, and it is the next one read, whatever follows. -/
structure Survives (text : F32Text) (envelope : Envelope) : Prop where
  oneLine : ∃ line, '\n' ∉ line ∧ writeEnvelope text envelope = line ++ ['\n']
  readBack : ∀ more, readEnvelope text (writeEnvelope text envelope ++ more) =
    (.ok (some envelope), more)

theorem survives_iff : Survives text envelope ↔
    envelopeFromJson text (envelopeToJson text envelope) = some envelope := by
  constructor
  · intro survives
    have read := survives.readBack []
    rw [readEnvelope_written] at read
    cases back : envelopeFromJson text (envelopeToJson text envelope) with
    | none =>
      rw [back] at read
      cases (Prod.mk.inj read).1
    | some other =>
      rw [back] at read
      exact Except.ok.inj (Prod.mk.inj read).1
  · intro back
    refine ⟨⟨_, fun listed => (envelope_oneLine text envelope _ listed).1 rfl, rfl⟩, fun more => ?_⟩
    rw [readEnvelope_written, back]

end Envelopes

/-- The numbers of an argument that is read as one or two floats. -/
def floatLiterals : Json → List String
  | .number literal => [literal]
  | .array [.number first, .number second] => [first, second]
  | _ => []

/-- The numbers a tool call gives for floats. -/
def ToolCall.floats (call : ToolCall) : List String :=
  if call.name = Names.setSpeed then
    match call.arguments ["mover", "speed"] with
    | some [_, speed] => floatLiterals speed
    | _ => []
  else if call.name = Names.placePiece then
    match call.arguments ["piece_kind", "pos"] with
    | some [_, pos] => floatLiterals pos
    | _ => []
  else []

/-- No number given for a float is beyond the range of the type. -/
def ToolCall.InRange (text : F32Text) (call : ToolCall) : Prop :=
  ∀ literal ∈ call.floats, ∀ value, text.read literal = some value → value.isFinite

section Arguments

variable {text : F32Text} {call : ToolCall} {action : Action}

theorem below?_lt {bound value : Nat} {json : Json} (read : json.below? bound = some value) :
    value < bound := by
  unfold Json.below? at read
  split at read
  · split at read
    · rename_i within
      rw [← Option.some.inj read]
      exact of_decide_eq_true (Bool.and_eq_true_iff.mp within).2
    · cases read
  · cases read

theorem setSpeed_read (read : setSpeedArguments text call = some action) :
    ∃ mover literal number speed, call.arguments ["mover", "speed"] = some [number, .number literal] ∧
      number.below? u32Bound = some mover ∧ text.read literal = some speed ∧
        action = .setSpeed mover speed := by
  simp only [setSpeedArguments, Option.bind_eq_bind, Option.bind_eq_some_iff] at read
  obtain ⟨arguments, given, read⟩ := read
  split at read
  · simp only [Option.bind_eq_some_iff] at read
    obtain ⟨mover, number, speed, float, same⟩ := read
    cases same
    unfold F32Text.fromJson at float
    split at float
    · exact ⟨mover, _, _, speed, given, number, float, rfl⟩
    · cases float
  · cases read

theorem placePiece_read (read : placePieceArguments text call = some action) :
    ∃ kind name first second x y,
      call.arguments ["piece_kind", "pos"] = some [kind, .array [.number first, .number second]] ∧
        text.read first = some x ∧ text.read second = some y ∧ action = .placePiece name (x, y) := by
  simp only [placePieceArguments, Option.bind_eq_bind, Option.bind_eq_some_iff] at read
  obtain ⟨arguments, given, read⟩ := read
  split at read
  · simp only [Option.bind_eq_some_iff] at read
    obtain ⟨name, -, pos, float, same⟩ := read
    cases same
    unfold F32Text.pairFromJson at float
    split at float
    · simp only [Option.bind_eq_bind, Option.bind_eq_some_iff] at float
      obtain ⟨x, first, y, second, same⟩ := float
      cases same
      unfold F32Text.fromJson at first second
      split at first
      · split at second
        · exact ⟨_, name, _, _, x, y, given, first, second, rfl⟩
        · cases second
      · cases first
    · cases float
  · cases read

/-- An action without floats whose numbers fit its fields. -/
structure Floatless (action : Action) : Prop where
  fits : FitsAction action
  finite : finiteAction action = true

theorem connectPieces_floatless (read : connectPiecesArguments call = some action) :
    Floatless action := by
  simp only [connectPiecesArguments, Option.bind_eq_bind, Option.bind_eq_some_iff] at read
  obtain ⟨arguments, -, read⟩ := read
  split at read
  · simp only [Option.bind_eq_some_iff] at read
    obtain ⟨source, from', target, to', same⟩ := read
    cases same
    exact ⟨⟨below?_lt from', below?_lt to'⟩, rfl⟩
  · cases read

theorem removePiece_floatless (read : removePieceArguments call = some action) :
    Floatless action := by
  simp only [removePieceArguments, Option.bind_eq_bind, Option.bind_eq_some_iff] at read
  obtain ⟨arguments, -, read⟩ := read
  split at read
  · simp only [Option.bind_eq_some_iff] at read
    obtain ⟨id, below, same⟩ := read
    cases same
    exact ⟨below?_lt below, rfl⟩
  · cases read

theorem defineResource_floatless (read : defineResourceArguments call = some action) :
    Floatless action := by
  simp only [defineResourceArguments, Option.bind_eq_bind, Option.bind_eq_some_iff] at read
  obtain ⟨arguments, -, read⟩ := read
  split at read
  · simp only [Option.bind_eq_some_iff] at read
    obtain ⟨name, -, color, below, same⟩ := read
    cases same
    exact ⟨below?_lt below, rfl⟩
  · cases read

theorem flow_floatless (make : String → Nat → Nat → Action)
    (plain : ∀ resource amount interval, amount < u64Bound → interval < u32Bound →
      Floatless (make resource amount interval))
    (read : flowArguments call make = some action) : Floatless action := by
  simp only [flowArguments, Option.bind_eq_bind, Option.bind_eq_some_iff] at read
  obtain ⟨arguments, -, read⟩ := read
  split at read
  · simp only [Option.bind_eq_some_iff] at read
    obtain ⟨resource, -, amount, counted, interval, timed, same⟩ := read
    cases same
    exact plain _ _ _ (below?_lt counted) (below?_lt timed)
  · cases read

theorem setGoal_floatless (read : setGoalArguments call = some action) : Floatless action := by
  simp only [setGoalArguments, Option.bind_eq_bind, Option.bind_eq_some_iff] at read
  obtain ⟨arguments, -, read⟩ := read
  split at read
  · simp only [Option.bind_eq_some_iff] at read
    obtain ⟨name, -, same⟩ := read
    cases same
    exact ⟨trivial, rfl⟩
  · cases read

/-- Only two tools take floats. -/
theorem action?_cases (accepted : call.action? text = some action) :
    call.name = Names.setSpeed ∧ setSpeedArguments text call = some action ∨
      call.name = Names.placePiece ∧ placePieceArguments text call = some action ∨
      call.name ≠ Names.setSpeed ∧ call.name ≠ Names.placePiece ∧ Floatless action := by
  unfold ToolCall.action? at accepted
  by_cases idle : call.name = Names.noOp
  · rw [if_pos idle] at accepted
    cases accepted
    refine .inr (.inr ⟨?_, ?_, trivial, rfl⟩) <;> (rw [idle]; decide)
  rw [if_neg idle] at accepted
  by_cases speed : call.name = Names.setSpeed
  · rw [if_pos speed] at accepted
    exact .inl ⟨speed, accepted⟩
  rw [if_neg speed] at accepted
  by_cases place : call.name = Names.placePiece
  · rw [if_pos place] at accepted
    exact .inr (.inl ⟨place, accepted⟩)
  rw [if_neg place] at accepted
  refine .inr (.inr ⟨speed, place, ?_⟩)
  by_cases connect : call.name = Names.connectPieces
  · rw [if_pos connect] at accepted
    exact connectPieces_floatless accepted
  rw [if_neg connect] at accepted
  by_cases remove : call.name = Names.removePiece
  · rw [if_pos remove] at accepted
    exact removePiece_floatless accepted
  rw [if_neg remove] at accepted
  by_cases define : call.name = Names.defineResource
  · rw [if_pos define] at accepted
    exact defineResource_floatless accepted
  rw [if_neg define] at accepted
  by_cases produce : call.name = Names.addProducer
  · rw [if_pos produce] at accepted
    exact flow_floatless .addProducer (fun _ _ _ amount interval => ⟨⟨amount, interval⟩, rfl⟩) accepted
  rw [if_neg produce] at accepted
  by_cases consume : call.name = Names.addConsumer
  · rw [if_pos consume] at accepted
    exact flow_floatless .addConsumer (fun _ _ _ amount interval => ⟨⟨amount, interval⟩, rfl⟩) accepted
  rw [if_neg consume] at accepted
  by_cases goal : call.name = Names.setGoal
  · rw [if_pos goal] at accepted
    exact setGoal_floatless accepted
  · rw [if_neg goal] at accepted
    cases accepted

theorem action?_fits (accepted : call.action? text = some action) : FitsAction action := by
  rcases action?_cases accepted with ⟨-, read⟩ | ⟨-, read⟩ | ⟨-, -, plain⟩
  · obtain ⟨mover, literal, number, value, -, below, -, rfl⟩ := setSpeed_read read
    exact below?_lt below
  · obtain ⟨_, _, _, _, _, _, -, -, -, rfl⟩ := placePiece_read read
    trivial
  · exact plain.fits

/-- The floats of the action are finite exactly when the call's numbers are in range. -/
theorem action?_finite_iff (accepted : call.action? text = some action) :
    finiteAction action = true ↔ call.InRange text := by
  rcases action?_cases accepted with ⟨named, read⟩ | ⟨named, read⟩ | ⟨speed, place, plain⟩
  · obtain ⟨mover, literal, number, value, given, -, float, rfl⟩ := setSpeed_read read
    have floats : call.floats = [literal] := by
      rw [ToolCall.floats, if_pos named, given]
      rfl
    unfold ToolCall.InRange
    rw [floats]
    constructor
    · intro finite other listed read
      obtain rfl := List.mem_singleton.mp listed
      intro again
      obtain rfl := Option.some.inj (float.symm.trans again)
      exact finite
    · intro range
      exact range literal (by simp) value float
  · obtain ⟨kind, name, first, second, x, y, given, left, right, rfl⟩ := placePiece_read read
    have floats : call.floats = [first, second] := by
      rw [ToolCall.floats, if_neg (by rw [named]; decide), if_pos named, given]
      rfl
    unfold ToolCall.InRange
    rw [floats]
    constructor
    · intro finite other listed value read
      obtain ⟨finiteX, finiteY⟩ := Bool.and_eq_true_iff.mp finite
      rcases List.mem_cons.mp listed with rfl | listed
      · obtain rfl := Option.some.inj (left.symm.trans read)
        exact finiteX
      · obtain rfl := List.mem_singleton.mp listed
        obtain rfl := Option.some.inj (right.symm.trans read)
        exact finiteY
    · intro range
      exact Bool.and_eq_true_iff.mpr ⟨range first (by simp) x left, range second (by simp) y right⟩
  · have floats : call.floats = [] := by
      rw [ToolCall.floats, if_neg speed, if_neg place]
    unfold ToolCall.InRange
    rw [floats]
    exact iff_of_true plain.finite fun _ listed => absurd listed List.not_mem_nil

end Arguments

theorem fullConfidence_finite : F32Bits.isFinite fullConfidence = true := by decide

/-- Every request survives the pipe; a reply with the action of an accepted tool call does so
exactly when no number of the call is beyond the range of a float. -/
theorem envelopes_survive_iff (text : F32Text) {seq : Nat} (numbered : seq < u64Bound) :
    (∀ request, FitsRequest request → Survives text (.new seq (.request request))) ∧
    ∀ request call action raw, FitsId request.id →
      parseToolCall text call request.id.agentId = .ok action →
        (Survives text (.new seq (.reply (acted request raw action))) ↔ call.InRange text) := by
  constructor
  · intro request fits
    rw [survives_iff, envelope_reads numbered, message_reads]
    change ((requestFromJson (.object (requestMembers request))).map _).map _ = _
    rw [request_reads fits]
    rfl
  · intro request call action raw fits accepted
    have parsed : call.action? text = some action := by
      unfold parseToolCall at accepted
      split at accepted
      · cases accepted
        assumption
      · cases accepted
    rw [survives_iff, envelope_reads numbered, message_reads, ← action?_finite_iff parsed]
    change ((replyFromJson text (.object (replyMembers text (acted request raw action)))).map _).map _ =
      _ ↔ _
    rw [acted, reply_reads _ fits (action?_fits parsed) fullConfidence_finite]
    cases finiteAction action with
    | true => exact iff_of_true rfl rfl
    | false =>
      refine iff_of_false (fun same => ?_) Bool.false_ne_true
      cases same

def unitSpeed : ToolCall := ⟨"set_speed", "\x7b\"mover\":1,\"speed\":1.0\x7d"⟩

theorem unitSpeed_survives :
    Survives plainText (.new 3 (.request probe)) ∧
      (Survives plainText (.new 3 (.reply (acted probe "ok" (.setSpeed 1 PlainText.one)))) ↔
        unitSpeed.InRange plainText) := by
  have id : FitsId probe.id := ⟨by decide, by decide, by decide⟩
  have parsed : unitSpeed.action? plainText = some (.setSpeed 1 PlainText.one) := by
    decide +kernel
  obtain ⟨requests, replies⟩ := envelopes_survive_iff plainText (show 3 < u64Bound by decide)
  refine ⟨requests probe ⟨id, by decide⟩, replies probe unitSpeed _ "ok" id ?_⟩
  rw [parseToolCall, parsed]

def boundlessSpeed : ToolCall := ⟨"set_speed", "\x7b\"mover\":1,\"speed\":1e39\x7d"⟩

/-- A speed beyond the range is accepted, sent as null, and makes the line unreadable. -/
theorem boundlessSpeed_lost :
    parseToolCall plainText boundlessSpeed "pilot" = .ok (.setSpeed 1 PlainText.infinity) ∧
      ∀ more, (readEnvelope plainText (writeEnvelope plainText
        (.new 3 (.reply (acted probe "ok" (.setSpeed 1 PlainText.infinity)))) ++ more)).1 =
          .error .invalidData := by
  have parsed : boundlessSpeed.action? plainText = some (.setSpeed 1 PlainText.infinity) := by
    decide +kernel
  have fitsId : FitsId probe.id := ⟨by decide, by decide, by decide⟩
  have fits : FitsAction (.setSpeed 1 PlainText.infinity) := show 1 < u32Bound by decide
  have unread : envelopeFromJson plainText (envelopeToJson plainText
      (.new 3 (.reply (acted probe "ok" (.setSpeed 1 PlainText.infinity))))) = none := by
    rw [envelope_reads (by decide), message_reads]
    change ((replyFromJson plainText (.object (replyMembers plainText
      (acted probe "ok" (.setSpeed 1 PlainText.infinity))))).map .reply).map (.new 3) = _
    rw [acted, reply_reads _ fitsId fits fullConfidence_finite]
    rfl
  constructor
  · rw [parseToolCall, parsed]
  · intro more
    rw [readEnvelope_written, unread]

end Simetro.Bridge
