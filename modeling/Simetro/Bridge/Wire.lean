import Simetro.Bridge.Dispatch

/-! The envelopes on the bridge's pipes: one JSON document a line. Tagged messages carry
their kind beside their fields. -/

namespace Simetro.Bridge

open Simetro.Agent Simetro.Library Simetro.Protocol

def schemaVersion : Nat := 1

inductive BridgeMessage where
  | hello (bridgeVersion : String) (schemaVersion : Nat)
  | request (request : AgentRequest)
  | reply (reply : AgentReply)
  | shutdown
  | log (level message : String)

structure Envelope where
  schemaVersion : Nat
  seq : Nat
  payload : BridgeMessage

def Envelope.new (seq : Nat) (payload : BridgeMessage) : Envelope :=
  ⟨Bridge.schemaVersion, seq, payload⟩

/-! The JSON of each record, and the record of a JSON value. -/

def requestIdToJson (id : RequestId) : Json :=
  .object [("timeline_id", .ofNat id.timelineId), ("agent_id", .string id.agentId),
    ("source_tick", .ofNat id.sourceTick), ("attempt", .ofNat id.attempt)]

def requestIdFromJson (json : Json) : Option RequestId := do
  let [some timelineId, some agentId, some sourceTick, some attempt] ←
    json.fields ["timeline_id", "agent_id", "source_tick", "attempt"] | none
  let timelineId ← timelineId.below? u64Bound
  let agentId ← agentId.text?
  let sourceTick ← sourceTick.below? u64Bound
  let attempt ← attempt.below? u32Bound
  return ⟨timelineId, agentId, sourceTick, attempt⟩

/-- The tag of an action and its fields. -/
def actionMembers (text : F32Text) : Action → String × List (String × Json)
  | .noOp => ("no_op", [])
  | .setSpeed mover speed => ("set_speed", [("mover", .ofNat mover), ("speed", text.toJson speed)])
  | .placePiece kind pos =>
      ("place_piece", [("piece_kind", .string kind), ("pos", text.pairToJson pos)])
  | .connectPieces source target =>
      ("connect_pieces", [("from", .ofNat source), ("to", .ofNat target)])
  | .removePiece id => ("remove_piece", [("id", .ofNat id)])
  | .defineResource name color =>
      ("define_resource", [("name", .string name), ("color", .ofNat color)])
  | .addProducer resource amount interval => ("add_producer",
      [("resource", .string resource), ("amount", .ofNat amount), ("interval_ticks", .ofNat interval)])
  | .addConsumer resource amount interval => ("add_consumer",
      [("resource", .string resource), ("amount", .ofNat amount), ("interval_ticks", .ofNat interval)])
  | .setGoal goal => ("set_goal", [("goal", .string goal)])

def actionToJson (text : F32Text) (action : Action) : Json :=
  .object (("kind", .string (actionMembers text action).1) :: (actionMembers text action).2)

/-- The fields producers and consumers share. -/
def flowFromJson (json : Json) (action : String → Nat → Nat → Action) : Option Action := do
  let [some resource, some amount, some interval] ←
    json.fields ["resource", "amount", "interval_ticks"] | none
  let resource ← resource.text?
  let amount ← amount.below? u64Bound
  let interval ← interval.below? u32Bound
  return action resource amount interval

def actionOfKind (text : F32Text) (json : Json) : String → Option Action
  | "no_op" => some .noOp
  | "set_speed" => do
      let [some mover, some speed] ← json.fields ["mover", "speed"] | none
      let mover ← mover.below? u32Bound
      let speed ← text.fromJson speed
      return .setSpeed mover speed
  | "place_piece" => do
      let [some kind, some pos] ← json.fields ["piece_kind", "pos"] | none
      let kind ← kind.text?
      let pos ← text.pairFromJson pos
      return .placePiece kind pos
  | "connect_pieces" => do
      let [some source, some target] ← json.fields ["from", "to"] | none
      let source ← source.below? u32Bound
      let target ← target.below? u32Bound
      return .connectPieces source target
  | "remove_piece" => do
      let [some id] ← json.fields ["id"] | none
      let id ← id.below? u32Bound
      return .removePiece id
  | "define_resource" => do
      let [some name, some color] ← json.fields ["name", "color"] | none
      let name ← name.text?
      let color ← color.below? u8Bound
      return .defineResource name color
  | "add_producer" => flowFromJson json .addProducer
  | "add_consumer" => flowFromJson json .addConsumer
  | "set_goal" => do
      let [some goal] ← json.fields ["goal"] | none
      let goal ← goal.text?
      return .setGoal goal
  | _ => none

def actionFromJson (text : F32Text) (json : Json) : Option Action := do
  let (kind, rest) ← json.tagged "kind"
  actionOfKind text rest kind

/-- An absent or null action is none. -/
def chosenFromJson (text : F32Text) : Option Json → Option (Option Action)
  | none | some .null => some none
  | some json => (actionFromJson text json).map some

def requestMembers (request : AgentRequest) : List (String × Json) :=
  [("id", requestIdToJson request.id), ("deadline_ticks", .ofNat request.deadlineTicks),
    ("observation_json", .string request.observationJson)]

def requestFromJson (json : Json) : Option AgentRequest := do
  let [some id, some deadlineTicks, some observationJson] ←
    json.fields ["id", "deadline_ticks", "observation_json"] | none
  let id ← requestIdFromJson id
  let deadlineTicks ← deadlineTicks.below? u32Bound
  let observationJson ← observationJson.text?
  return ⟨id, deadlineTicks, observationJson⟩

def replyMembers (text : F32Text) (reply : AgentReply) : List (String × Json) :=
  [("id", requestIdToJson reply.id),
    ("chosen", (reply.chosen.map (actionToJson text)).getD .null),
    ("rationale", .string reply.rationale), ("confidence", text.toJson reply.confidence)]

def replyFromJson (text : F32Text) (json : Json) : Option AgentReply := do
  let [some id, chosen, some rationale, some confidence] ←
    json.fields ["id", "chosen", "rationale", "confidence"] | none
  let id ← requestIdFromJson id
  let chosen ← chosenFromJson text chosen
  let rationale ← rationale.text?
  let confidence ← text.fromJson confidence
  return ⟨id, chosen, rationale, confidence⟩

def messageMembers (text : F32Text) : BridgeMessage → String × List (String × Json)
  | .hello bridgeVersion schemaVersion => ("hello",
      [("bridge_version", .string bridgeVersion), ("schema_version", .ofNat schemaVersion)])
  | .request request => ("request", requestMembers request)
  | .reply reply => ("reply", replyMembers text reply)
  | .shutdown => ("shutdown", [])
  | .log level message => ("log", [("level", .string level), ("message", .string message)])

def messageToJson (text : F32Text) (message : BridgeMessage) : Json :=
  .object (("kind", .string (messageMembers text message).1) :: (messageMembers text message).2)

def messageOfKind (text : F32Text) (json : Json) : String → Option BridgeMessage
  | "hello" => do
      let [some bridgeVersion, some schemaVersion] ←
        json.fields ["bridge_version", "schema_version"] | none
      let bridgeVersion ← bridgeVersion.text?
      let schemaVersion ← schemaVersion.below? u32Bound
      return .hello bridgeVersion schemaVersion
  | "request" => (requestFromJson json).map .request
  | "reply" => (replyFromJson text json).map .reply
  | "shutdown" => some .shutdown
  | "log" => do
      let [some level, some message] ← json.fields ["level", "message"] | none
      let level ← level.text?
      let message ← message.text?
      return .log level message
  | _ => none

def messageFromJson (text : F32Text) (json : Json) : Option BridgeMessage := do
  let (kind, rest) ← json.tagged "kind"
  messageOfKind text rest kind

def envelopeToJson (text : F32Text) (envelope : Envelope) : Json :=
  .object [("schema_version", .ofNat envelope.schemaVersion), ("seq", .ofNat envelope.seq),
    ("payload", messageToJson text envelope.payload)]

def envelopeFromJson (text : F32Text) (json : Json) : Option Envelope := do
  let [some schemaVersion, some seq, some payload] ←
    json.fields ["schema_version", "seq", "payload"] | none
  let schemaVersion ← schemaVersion.below? u32Bound
  let seq ← seq.below? u64Bound
  let payload ← messageFromJson text payload
  return ⟨schemaVersion, seq, payload⟩

/-! The pipe. -/

inductive WireError where
  | invalidData
  deriving DecidableEq

/-- One line with its end, and what is left. -/
def readLine (input : List Char) : List Char × List Char :=
  match input.dropWhile (· ≠ '\n') with
  | [] => (input, [])
  | _ :: rest => (input.takeWhile (· ≠ '\n') ++ ['\n'], rest)

/-- A line without its end. -/
def trimEnd (line : List Char) : List Char :=
  (line.reverse.dropWhile fun character => character = '\n' || character = '\r').reverse

def blankLine : Envelope := Envelope.new 0 (.log "trace" "blank line")

/-- The next envelope, and what is left of the stream. -/
def readEnvelope (text : F32Text) (input : List Char) :
    Except WireError (Option Envelope) × List Char :=
  let (line, rest) := readLine input
  if line.isEmpty then (.ok none, rest)
  else if (trimEnd line).isEmpty then (.ok (some blankLine), rest)
  else
    match (Json.parse (trimEnd line)).bind (envelopeFromJson text) with
    | some envelope => (.ok (some envelope), rest)
    | none => (.error .invalidData, rest)

def writeEnvelope (text : F32Text) (envelope : Envelope) : List Char :=
  (envelopeToJson text envelope).chars ++ ['\n']

end Simetro.Bridge
