import Simetro.Library.Keyed
import Simetro.Library.Saturating
import Simetro.Protocol.Messages

/-! The bounded ledger of every decision, addressed by a monotonic id. -/

namespace Simetro.Protocol

open Simetro.Library

def decisionTimelineSchemaVersion : Nat := 1
def defaultTimelineCapacity : Nat := 4096

abbrev TimelineId := Nat

inductive DecisionStatus where
  | pending
  | applied (appliedTick : Nat)
  | expired (expiredTick : Nat)
  | gaveUp (lastTick : Nat)
  | faulted (faultTick : Nat) (reason : String)
  deriving DecidableEq

namespace DecisionStatus

def isTerminal : DecisionStatus → Bool
  | .applied _ | .gaveUp _ | .faulted _ _ => true
  | .pending | .expired _ => false

def isPending : DecisionStatus → Bool
  | .pending => true
  | _ => false

def isExpired : DecisionStatus → Bool
  | .expired _ => true
  | _ => false

/-- `status_name`. -/
def statusName : DecisionStatus → String
  | .pending => "pending"
  | .applied _ => "applied"
  | .expired _ => "expired"
  | .gaveUp _ => "gave_up"
  | .faulted _ _ => "faulted"

end DecisionStatus

structure RawResponseRef where
  sceneId : String
  byteOffset : Nat
  byteLen : Nat

structure DecisionResponse where
  chosen : Option Action
  rationale : String
  confidence : F32Bits
  latencyMs : Option Nat
  rawResponseRef : Option RawResponseRef

structure DecisionEntry where
  schemaVersion : Nat := decisionTimelineSchemaVersion
  id : TimelineId
  sourceTick : Nat
  agentId : String
  status : DecisionStatus := .pending
  attempts : Nat := 1
  response : Option DecisionResponse := none
  lastWarning : Option WarningPayload := none
  lastExpiredTick : Option Nat := none

structure DecisionTimeline where
  schemaVersion : Nat := decisionTimelineSchemaVersion
  nextId : Nat := 1
  cap : Nat
  entries : List DecisionEntry := []

inductive DecisionTimelineError where
  | unknown (id : TimelineId) (evicted : Bool)
  | illegalTransition (id : TimelineId) (source target : String)
  deriving DecidableEq

namespace DecisionTimeline

def withCapacity (cap : Nat) : DecisionTimeline where
  cap := max cap 1

def new : DecisionTimeline := withCapacity defaultTimelineCapacity

def allocate (timeline : DecisionTimeline) (sourceTick : Nat) (agentId : String) :
    DecisionTimeline × TimelineId :=
  ({ timeline with
      nextId := saturatingAdd u64Max timeline.nextId 1
      entries := pushRing timeline.cap timeline.entries { id := timeline.nextId, sourceTick, agentId } },
    timeline.nextId)

def get (timeline : DecisionTimeline) (id : TimelineId) : Option DecisionEntry :=
  timeline.entries.find? fun entry => entry.id = id

def wasEvicted (timeline : DecisionTimeline) (id : TimelineId) : Bool :=
  (id > 0 && id < timeline.nextId) && (timeline.get id).isNone

/-- The shape every mutator of an existing entry has: an unknown id is rejected,
then a status the transition does not start from. -/
def transition (timeline : DecisionTimeline) (id : TimelineId)
    (allowed : DecisionStatus → Bool) (target : String)
    (change : DecisionEntry → DecisionEntry) :
    Except DecisionTimelineError DecisionTimeline :=
  match timeline.get id with
  | none => .error (.unknown id (timeline.wasEvicted id))
  | some entry =>
    if allowed entry.status then
      .ok { timeline with entries := updateFirst (fun entry => entry.id = id) change timeline.entries }
    else .error (.illegalTransition id entry.status.statusName target)

def recordReply (timeline : DecisionTimeline) (id : TimelineId) (appliedTick : Nat)
    (response : DecisionResponse) : Except DecisionTimelineError DecisionTimeline :=
  timeline.transition id (·.isPending) "applied" fun entry =>
    { entry with
      status := .applied appliedTick
      response := some response
      lastWarning := none }

def recordExpiry (timeline : DecisionTimeline) (id : TimelineId) (expiredTick : Nat)
    (warning : Option WarningPayload) : Except DecisionTimelineError DecisionTimeline :=
  timeline.transition id (·.isPending) "expired" fun entry =>
    { entry with
      status := .expired expiredTick
      lastExpiredTick := some expiredTick
      lastWarning := warning.or entry.lastWarning }

def reissue (timeline : DecisionTimeline) (id : TimelineId) :
    Except DecisionTimelineError DecisionTimeline :=
  timeline.transition id (·.isExpired) "pending(reissue)" fun entry =>
    { entry with
      attempts := saturatingAdd u32Max entry.attempts 1
      status := .pending }

def giveUp (timeline : DecisionTimeline) (id : TimelineId) (lastTick : Nat)
    (warning : Option WarningPayload) : Except DecisionTimelineError DecisionTimeline :=
  timeline.transition id (·.isExpired) "gave_up" fun entry =>
    { entry with
      status := .gaveUp lastTick
      lastWarning := warning.or entry.lastWarning }

def recordFault (timeline : DecisionTimeline) (id : TimelineId) (faultTick : Nat)
    (reason : String) : Except DecisionTimelineError DecisionTimeline :=
  timeline.transition id (fun status => status.isPending || status.isExpired) "faulted" fun entry =>
    { entry with
      status := .faulted faultTick reason }

/-- A mutator whose error the caller discards. -/
def settle (timeline : DecisionTimeline)
    (result : Except DecisionTimelineError DecisionTimeline) : DecisionTimeline :=
  match result with
  | .ok changed => changed
  | .error _ => timeline

end DecisionTimeline

end Simetro.Protocol
