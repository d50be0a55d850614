import Simetro.Headless.Replay

/-! The frontend's own replay of a decision log. -/

namespace Simetro.Frontend

open Simetro.Bridge Simetro.Engine Simetro.Headless Simetro.Library Simetro.Protocol

/-- The double next to a whole number, of two the even one. -/
def toNumber (value : Nat) : Nat :=
  let unit := 2 ^ (value.log2 + 1 - 53)
  let quotient := value / unit
  let rest := value % unit
  if rest * 2 < unit ∨ rest * 2 = unit ∧ quotient % 2 = 0 then quotient * unit
  else (quotient + 1) * unit

/-- A row as the frontend holds it. Its action is only passed on. -/
structure LogEntry where
  tick : Nat
  agentId : String
  parsedAction : Option Action
  rationale : String
  deriving DecidableEq

def LogEntry.ofRow (row : AgentLogEntry) : LogEntry where
  tick := toNumber row.tick
  agentId := row.agentId
  parsedAction := row.parsedAction
  rationale := row.rationale

structure ReplayScrub where
  fromTick : Option Nat := none
  toTick : Option Nat := none
  agentId : Option String := none

def scrubAgentLog (entries : List LogEntry) (scrub : ReplayScrub) : List LogEntry :=
  entries.filter fun entry =>
    if scrub.fromTick.any fun first => entry.tick < first then false
    else if scrub.toTick.any fun last => last < entry.tick then false
    else if scrub.agentId.any fun agent => entry.agentId != agent then false
    else true

structure ReplayCorrelationIssue where
  kind : String
  index : Nat
  tick : Nat
  agentId : String
  message : String

/-- The key of a decision in the set of those seen. -/
def decisionKey (tick : Nat) (agentId : String) : String := toString tick ++ "\x00" ++ agentId

/-- The issues of the entries from an index on, after those of `seen`. -/
def correlateFrom (index : Nat) (seen : List String) (previousTick : Option Nat) :
    List LogEntry → List ReplayCorrelationIssue
  | [] => []
  | entry :: rest =>
    let outOfOrder := match previousTick with
      | some previous =>
        if entry.tick < previous then
          [⟨"out_of_order", index, entry.tick, entry.agentId,
            s!"tick {entry.tick} appears after tick {previous}"⟩]
        else []
      | none => []
    let key := decisionKey entry.tick entry.agentId
    if key ∈ seen then
      outOfOrder ++
        [⟨"duplicate_decision", index, entry.tick, entry.agentId,
          "duplicate decision for tick+agent_id"⟩] ++
        correlateFrom (index + 1) seen (some entry.tick) rest
    else outOfOrder ++ correlateFrom (index + 1) (key :: seen) (some entry.tick) rest

def correlateAgentLog (entries : List LogEntry) : List ReplayCorrelationIssue :=
  correlateFrom 0 [] none entries

/-- Nothing, where no case of the switch is that of the action. -/
def actionTagFor : Option Action → Option ActionTag
  | none => some .noOp
  | some .noOp => some .noOp
  | some (.setSpeed _ _) => some .setSpeed
  | some (.placePiece _ _) => some .placePiece
  | some (.connectPieces _ _) => some .connectPieces
  | some (.removePiece _) => some .removePiece
  | some _ => none

/-- An `agent_decided` event. -/
structure DecidedEvent where
  agentId : String
  action : Option ActionTag
  deriving DecidableEq

inductive SimMessage where
  | events (payload : List DecidedEvent)
  | agentReport (payload : AgentReport)
  deriving DecidableEq

def agentLogEntryToEvent (entry : LogEntry) : DecidedEvent :=
  ⟨entry.agentId, actionTagFor entry.parsedAction⟩

def agentLogEntryToReport (entry : LogEntry) : AgentReport where
  tick := entry.tick
  agentId := entry.agentId
  considered := match entry.parsedAction with
    | none => []
    | some action => [⟨action, fullConfidence⟩]
  chosen := entry.parsedAction
  rationale := entry.rationale
  confidence := match entry.parsedAction with
    | none => 0
    | some _ => fullConfidence

def agentLogEntryToMessages (entry : LogEntry) : List SimMessage :=
  [.events [agentLogEntryToEvent entry], .agentReport (agentLogEntryToReport entry)]

end Simetro.Frontend
