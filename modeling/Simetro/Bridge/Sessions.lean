import Simetro.Bridge.RunLoop

/-! Whole sessions of the bridge process: the loop against the batch it amounts to, and what
its peer reads back. -/

namespace Simetro.Bridge

open Simetro.Agent Simetro.Library Simetro.Protocol

/-- The loop goes on after the envelope. -/
def Envelope.isHeeded (envelope : Envelope) : Bool :=
  envelope.isCompatible && match envelope.payload with
    | .shutdown => false
    | _ => true

def Envelope.request? (envelope : Envelope) : Option AgentRequest :=
  match envelope.payload with
  | .request request => some request
  | _ => none

def Envelope.reply? (envelope : Envelope) : Option AgentReply :=
  match envelope.payload with
  | .reply reply => some reply
  | _ => none

/-- Replies with consecutive numbers. -/
def numbered (seq : Nat) : List AgentReply → List Envelope
  | [] => []
  | reply :: rest => .new seq (.reply reply) :: numbered (nextSeq seq) rest

/-- How a session ends at the first envelope that is not heeded. -/
def outcome (problem : Option WireError) : List Envelope → Except LoopError Unit
  | [] => loopEnd problem
  | envelope :: _ =>
      if envelope.isCompatible then .ok ()
      else .error (.invalidData (schemaMismatchMessage envelope.schemaVersion))

section Batch

variable {Store : Type} (text : F32Text) (debug : DebugText) (provider : Provider Store)

/-- A backend answers one request after another. -/
def Provider.answers : Store → List AgentRequest → Store × List AgentReply
  | store, [] => (store, [])
  | store, request :: rest =>
      let answered := provider.dispatch text debug store request
      let later := answers answered.1 rest
      (later.1, answered.2 :: later.2)

/-- The requests a stream gets through before the session ends. -/
def asked (input : List Char) : List AgentRequest :=
  (((envelopes text).all input).1.takeWhile Envelope.isHeeded).filterMap Envelope.request?

variable {text debug provider}

/-- What `dispatch` makes of a result. -/
theorem dispatch_result (backend : Backend) (request : AgentRequest) :
    dispatch text debug backend request =
      match backend (backendRequest request) with
      | .error error => announce debug request error
      | .ok response =>
          match response.toolCalls with
          | [] => acted request response.raw .noOp
          | call :: _ =>
              match parseToolCall text call request.id.agentId with
              | .ok action => acted request response.raw action
              | .error error => announce debug request error := rfl

/-- A reply announces an error, holds still, or takes the action of an accepted call. -/
theorem dispatch_cases (backend : Backend) (request : AgentRequest) :
    (∃ error, dispatch text debug backend request = announce debug request error) ∨
      (∃ raw, dispatch text debug backend request = acted request raw .noOp) ∨
      ∃ response call later action, backend (backendRequest request) = .ok response ∧
        response.toolCalls = call :: later ∧ call.action? text = some action ∧
          dispatch text debug backend request = acted request response.raw action := by
  rw [dispatch_result]
  cases result : backend (backendRequest request) with
  | error error => exact .inl ⟨error, rfl⟩
  | ok response =>
    cases calls : response.toolCalls with
    | nil => exact .inr (.inl ⟨response.raw, by simp only [calls]⟩)
    | cons call later =>
      simp only [calls, parseToolCall]
      cases parsed : call.action? text with
      | none => exact .inl ⟨_, rfl⟩
      | some action => exact .inr (.inr ⟨response, call, later, action, rfl, calls, parsed, rfl⟩)

/-- Every reply names its request and chooses an action. -/
theorem dispatch_answers (backend : Backend) (request : AgentRequest) :
    (dispatch text debug backend request).id = request.id ∧
      (dispatch text debug backend request).chosen.isSome = true := by
  rcases dispatch_cases backend request with
    ⟨error, same⟩ | ⟨raw, same⟩ | ⟨response, call, later, action, -, -, -, same⟩
  all_goals
    rw [same]
    exact ⟨rfl, rfl⟩

theorem provider_dispatches (store : Store) (request : AgentRequest) :
    (provider.dispatch text debug store request).2 =
      dispatch text debug (fun _ => (provider.invoke store (backendRequest request)).2) request := rfl

end Batch

section Sessions

variable {Store : Type} (text : F32Text) (debug : DebugText) (provider : Provider Store)

end Sessions

/-- The numbers of a message are those of its field types. -/
def FitsMessage : BridgeMessage → Prop
  | .hello _ version => version < u32Bound
  | .request request => FitsRequest request
  | .reply reply => FitsId reply.id ∧ ∀ action, reply.chosen = some action → FitsAction action
  | .shutdown | .log _ _ => True

def finiteMessage : BridgeMessage → Bool
  | .reply reply => reply.chosen.all finiteAction && reply.confidence.isFinite
  | _ => true

section Messages

variable {text : F32Text}

theorem reply_reads_back {reply : AgentReply} (fits : FitsMessage (.reply reply)) :
    replyFromJson text (.object (replyMembers text reply)) =
      if finiteMessage (.reply reply) then some reply else none := by
  obtain ⟨id, chosen, rationale, confidence⟩ := reply
  obtain ⟨fitsId, fitsAction⟩ := fits
  have read := Json.fields_object (replyMembers text ⟨id, chosen, rationale, confidence⟩)
    (by simp [replyMembers])
  have chose : chosenFromJson text (some ((chosen.map (actionToJson text)).getD .null)) =
      if chosen.all finiteAction then some chosen else none := by
    cases chosen with
    | none => rfl
    | some action =>
      rw [Option.map_some, Option.getD_some, chosen_reads (fitsAction action rfl)]
      rfl
  simp only [replyMembers, List.map_cons, List.map_nil] at read
  unfold replyFromJson replyMembers finiteMessage
  simp only [read, Option.bind_eq_bind, Option.bind_some, requestId_reads fitsId, chose, Json.text?,
    F32Text.fromJson_toJson]
  by_cases every : chosen.all finiteAction = true
  · by_cases sure : confidence.isFinite = true
    · simp [every, sure]
    · simp [every, sure]
  · simp [every]

/-- A message is read back exactly when its floats are finite. -/
theorem message_reads_back {message : BridgeMessage} (fits : FitsMessage message) :
    messageFromJson text (messageToJson text message) =
      if finiteMessage message then some message else none := by
  rw [message_reads]
  cases message with
  | hello bridgeVersion version =>
    have below : version < u32Bound := fits
    have read := Json.fields_object [("bridge_version", Json.string bridgeVersion),
      ("schema_version", .ofNat version)] (by simp)
    simp only [List.map_cons, List.map_nil] at read
    simp only [messageMembers, messageOfKind, read, Option.bind_eq_bind, Option.bind_some,
      Json.text?, Json.below?_ofNat below]
    rfl
  | request request =>
    change (requestFromJson (.object (requestMembers request))).map _ = _
    rw [request_reads fits]
    rfl
  | reply reply =>
    change (replyFromJson text (.object (replyMembers text reply))).map _ = _
    rw [reply_reads_back fits]
    cases finiteMessage (.reply reply) <;> rfl
  | shutdown => rfl
  | log level message =>
    have read := Json.fields_object [("level", Json.string level), ("message", .string message)]
      (by simp)
    simp only [List.map_cons, List.map_nil] at read
    simp only [messageMembers, messageOfKind, read, Option.bind_eq_bind, Option.bind_some, Json.text?]
    rfl

/-- An envelope of this version that the wire carries. -/
structure Carried (envelope : Envelope) : Prop where
  version : envelope.schemaVersion = Bridge.schemaVersion
  seq : envelope.seq < u64Bound
  fits : FitsMessage envelope.payload
  finite : finiteMessage envelope.payload = true

theorem Carried.survives {envelope : Envelope} (carried : Carried envelope) :
    Survives text envelope := by
  obtain ⟨version, seq, payload⟩ := envelope
  obtain ⟨rfl, numbered, fits, finite⟩ := carried
  have read := @envelope_reads text _ numbered payload
  rw [message_reads_back fits, if_pos finite] at read
  exact survives_iff.mpr read

/-- Carried envelopes are read one by one as they were written. -/
theorem all_carried {messages : List Envelope} (carried : ∀ envelope ∈ messages, Carried envelope)
    (more : List Char) :
    (envelopes text).all (messages.flatMap (writeEnvelope text) ++ more) =
      (messages ++ ((envelopes text).all more).1, ((envelopes text).all more).2) :=
  ItemReader.all_written _ (fun envelope listed => (carried envelope listed).survives.readBack) more

theorem all_sent {messages : List Envelope} (carried : ∀ envelope ∈ messages, Carried envelope) :
    (envelopes text).all (messages.flatMap (writeEnvelope text)) = (messages, none) := by
  have nothing : (envelopes text).all [] = ([], none) := (envelopes text).all_of_none rfl
  have read := @all_carried text _ carried []
  rwa [List.append_nil, nothing, List.append_nil] at read

end Messages

/-- A backend after a number of calls. -/
def Provider.storeAfter {Store : Type} (provider : Provider Store) (store : Store)
    (calls : List BackendRequest) : Store :=
  calls.foldl (fun store call => (provider.invoke store call).1) store

/-- However it is called, no result of the backend has a number beyond the range of a float in the
tool call that is taken. -/
def Provider.InRange {Store : Type} (text : F32Text) (provider : Provider Store) (store : Store) :
    Prop :=
  ∀ earlier request response call later,
    (provider.invoke (provider.storeAfter store earlier) request).2 = .ok response →
      response.toolCalls = call :: later → call.InRange text

theorem Provider.InRange.next {Store : Type} {text : F32Text} {provider : Provider Store}
    {store : Store} (range : provider.InRange text store) (request : BackendRequest) :
    provider.InRange text (provider.invoke store request).1 :=
  fun earlier => range (request :: earlier)

section RoundTrip

variable {Store : Type} {text : F32Text} {debug : DebugText} {provider : Provider Store}

/-- Every reply of such a backend can be sent. -/
theorem reply_carried {store : Store} (range : provider.InRange text store) {request : AgentRequest}
    (fits : FitsId request.id) {seq : Nat} (numbered : seq < u64Bound) :
    Carried (.new seq (.reply (provider.dispatch text debug store request).2)) := by
  have quiet (reply : AgentReply) (named : reply.id = request.id) (action : Action)
      (same : reply.chosen = some action ∧ reply.confidence = fullConfidence)
      (fitting : FitsAction action) (finite : finiteAction action = true) :
      Carried (.new seq (.reply reply)) := by
    refine ⟨rfl, numbered, ⟨named ▸ fits, fun other chosen => ?_⟩, ?_⟩
    · rw [same.1] at chosen
      exact Option.some.inj chosen ▸ fitting
    · change (reply.chosen.all finiteAction && reply.confidence.isFinite) = true
      rw [same.1, same.2, Option.all_some, finite, fullConfidence_finite]
      rfl
  rw [provider_dispatches]
  rcases dispatch_cases (fun _ => (provider.invoke store (backendRequest request)).2) request with
    ⟨error, same⟩ | ⟨raw, same⟩ | ⟨response, call, later, action, answered, called, parsed, same⟩
  · rw [same]
    exact quiet _ rfl .noOp ⟨rfl, rfl⟩ trivial rfl
  · rw [same]
    exact quiet _ rfl .noOp ⟨rfl, rfl⟩ trivial rfl
  · rw [same]
    have finite := (action?_finite_iff parsed).mpr (range [] _ response call later answered called)
    exact quiet _ rfl action ⟨rfl, rfl⟩ (action?_fits parsed) finite

end RoundTrip

end Simetro.Bridge
