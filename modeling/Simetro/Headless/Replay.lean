import Simetro.Engine.LogRoundTrip

/-! The replay of a decision log: its lines are parsed, correlated and sent again as protocol
envelopes. -/

namespace Simetro.Headless

open Simetro.Bridge Simetro.Engine Simetro.Library Simetro.Protocol

/-- What part of a log to replay. -/
structure ReplayOptions where
  fromTick : Option Nat := none
  toTick : Option Nat := none
  agentId : Option String := none

structure NumberedEntry where
  line : Nat
  entry : AgentLogEntry

structure ReplayIssue where
  kind : String
  line : Nat
  tick : Option Nat
  agentId : Option String
  message : String

structure ParsedLog where
  entries : List NumberedEntry := []
  issues : List ReplayIssue := []

section Parsing

variable (text : F32Text) (complaint : List Char → String)

/-- One line of a log. What the JSON library says about a line it cannot read is a parameter. -/
def parseLine (parsed : ParsedLog) (numbered : List Char × Nat) : ParsedLog :=
  let line := saturatingAdd u64Max numbered.2 1
  let trimmed := trim numbered.1
  if trimmed.isEmpty then parsed
  else
    match readEntry text trimmed with
    | some entry => { parsed with entries := parsed.entries ++ [⟨line, entry⟩] }
    | none =>
      { parsed with
        issues := parsed.issues ++ [⟨"malformed_json", line, none, none, complaint trimmed⟩] }

def parseAgentLog (src : List Char) : ParsedLog :=
  (lines src).zipIdx.foldl (parseLine text complaint) {}

end Parsing

namespace ReplayOptions

variable (options : ReplayOptions)

def selects (tick : Nat) (agentId : String) : Bool :=
  options.fromTick.all (fun first => first ≤ tick) && options.toTick.all (fun last => tick ≤ last) &&
    options.agentId.all fun agent => agentId == agent

/-- A range that ends before it begins. -/
def inverted : Bool :=
  match options.fromTick, options.toTick with
  | some first, some last => last < first
  | _, _ => false

end ReplayOptions

def selectEntries (entries : List NumberedEntry) (options : ReplayOptions) : List NumberedEntry :=
  entries.filter fun line => options.selects line.entry.tick line.entry.agentId

/-- The issues of the entries that follow those of `seen`, the last of them at the tick `prev`. -/
def correlateAfter (seen : List (Nat × String)) (prev : Option Nat) :
    List NumberedEntry → List ReplayIssue
  | [] => []
  | line :: rest =>
    let tick := line.entry.tick
    let key := (tick, line.entry.agentId)
    let outOfOrder := (prev.filter fun prev => tick < prev).map fun prev =>
      ⟨"out_of_order", line.line, some tick, some line.entry.agentId,
        s!"tick {tick} appears after tick {prev}"⟩
    let duplicate := if key ∈ seen then
        [⟨"duplicate_decision", line.line, some tick, some line.entry.agentId,
          "duplicate decision for tick+agent_id"⟩]
      else []
    outOfOrder.toList ++ duplicate ++ correlateAfter (key :: seen) (some tick) rest

def correlateEntries (entries : List NumberedEntry) : List ReplayIssue := correlateAfter [] none entries

/-- What the replay of a log found wrong with it. -/
structure ReplayReport where
  malformed : Nat
  duplicateDecisions : Nat
  outOfOrder : Nat
  issues : List ReplayIssue

def buildReplayReport (parsed : ParsedLog) : ReplayReport :=
  let issues := parsed.issues ++ correlateEntries parsed.entries
  { malformed := parsed.issues.length
    duplicateDecisions := issues.countP fun issue => issue.kind = "duplicate_decision"
    outOfOrder := issues.countP fun issue => issue.kind = "out_of_order"
    issues }

/-- The messages a replay sends. -/
inductive ReplayMessage where
  | events (events : List SimEvent)
  | agentReport (report : AgentReport)

structure ReplayEnvelope where
  schemaVersion : Nat := Bridge.schemaVersion
  seq : Nat
  payload : ReplayMessage

def entryActionTag (entry : AgentLogEntry) : ActionTag := (entry.parsedAction.map Action.tag).getD .noOp

def reportFromEntry (entry : AgentLogEntry) : AgentReport where
  tick := entry.tick
  agentId := entry.agentId
  considered := (entry.parsedAction.map fun action => [⟨action, fullConfidence⟩]).getD []
  chosen := entry.parsedAction
  rationale := entry.rationale
  confidence := if entry.parsedAction.isSome then fullConfidence else 0

/-- The envelopes from a sequence number on, two for each entry. -/
def envelopesFrom (seq : Nat) : List NumberedEntry → List ReplayEnvelope
  | [] => []
  | line :: rest =>
    let next := saturatingAdd u64Max seq 1
    { seq, payload := .events [.agentDecided line.entry.agentId (entryActionTag line.entry)] } ::
      { seq := next, payload := .agentReport (reportFromEntry line.entry) } ::
      envelopesFrom (saturatingAdd u64Max next 1) rest

def protocolEnvelopes (entries : List NumberedEntry) : List ReplayEnvelope := envelopesFrom 0 entries

/-- Why a replay ends without sending anything. -/
inductive ReplayRefusal where
  | invertedRange (fromTick toTick : Option Nat)
  | unreadable
  | malformed (count : Nat) (issues : List ReplayIssue)

/-- `cmd_replay` to the protocol format, on the bytes of the log. -/
def cmdReplay (text : F32Text) (complaint : List Char → String) (log : List UInt8)
    (options : ReplayOptions) : Except ReplayRefusal (List ReplayEnvelope) :=
  if options.inverted then .error (.invertedRange options.fromTick options.toTick)
  else
    match decodeUtf8 log with
    | none => .error .unreadable
    | some src =>
      let parsed := parseAgentLog text complaint src
      let selected := selectEntries parsed.entries options
      let report := buildReplayReport parsed
      if 0 < report.malformed then .error (.malformed report.malformed report.issues)
      else .ok (protocolEnvelopes selected)

/-- The events a replay sends. -/
def replayedEvents (envelopes : List ReplayEnvelope) : List SimEvent :=
  envelopes.flatMap fun envelope =>
    match envelope.payload with
    | .events events => events
    | .agentReport _ => []

/-- The reports a replay sends. -/
def replayedReports (envelopes : List ReplayEnvelope) : List AgentReport :=
  envelopes.filterMap fun envelope =>
    match envelope.payload with
    | .events _ => none
    | .agentReport report => some report

end Simetro.Headless
