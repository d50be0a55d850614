import Mathlib.Algebra.GroupWithZero.Nat
import Mathlib.Data.List.Sort
import Simetro.Library.Keyed
import Simetro.Library.Saturating
import Simetro.Protocol.Messages

/-! The engine's side of the request boundary: which requests are in flight, and
what a reply or an elapsed deadline does to them. -/

namespace Simetro.Agent

open Simetro.Library Simetro.Protocol

structure RequestId where
  timelineId : Nat
  agentId : String
  sourceTick : Nat
  attempt : Nat
  deriving DecidableEq

def RequestId.nextAttempt (id : RequestId) : RequestId :=
  { id with
    attempt := saturatingAdd u32Max id.attempt 1 }

/-- The order in which overdue requests expire: agent, timeline id, attempt. -/
def RequestId.upTo (left right : RequestId) : Prop :=
  left.agentId < right.agentId ∨ left.agentId = right.agentId ∧
    (left.timelineId < right.timelineId ∨
      left.timelineId = right.timelineId ∧ left.attempt ≤ right.attempt)

instance : DecidableRel RequestId.upTo := fun _ _ => inferInstanceAs (Decidable (_ ∨ _))

structure AgentRequest where
  id : RequestId
  deadlineTicks : Nat
  observationJson : String
  deriving DecidableEq

structure AgentReply where
  id : RequestId
  chosen : Option Action
  rationale : String
  confidence : F32Bits

def maxAttempts : Nat := 2
def completedRingCap : Nat := 1024

inductive DrainOutcome where
  | apply (agentId : String) (chosen : Option Action) (rationale : String) (confidence : F32Bits)
  | duplicate (message : SimMessage)
  | stale (message : SimMessage)
  | unknownId (message : SimMessage)

inductive ExpiryOutcome where
  | reissue (nextRequest : AgentRequest) (warning : SimMessage)
  | giveUp (message : SimMessage)

inductive EnqueueOutcome where
  | enqueued
  | backpressureDropped (message : SimMessage)

structure PendingEntry where
  deadlineAbs : Nat
  request : AgentRequest
  deriving DecidableEq

/-- The pending requests are keyed by their id. The source keeps them in a hash
map, whose order nothing depends on. -/
structure RequestLifecycle where
  pending : List PendingEntry := []
  completed : List RequestId := []
  expired : List RequestId := []
  completedCap : Nat := 0
  expiredCap : Nat := 0

/-- `as u32`. -/
def asU32 (value : Nat) : Nat := value % 2 ^ 32

/-- A lag as the reply and expiry paths report it: narrowed first. -/
def lagFrames (now sourceTick : Nat) : Nat := max (asU32 (now - sourceTick)) 1

def backpressureWarningFor (agentId : String) (now sourceTick : Nat) : SimMessage :=
  .warning (.behind (asU32 (max (now - sourceTick) 1)) (some agentId))

def staleWarning (id : RequestId) (now : Nat) : SimMessage :=
  .warning (.behind (lagFrames now id.sourceTick) (some id.agentId))

def duplicateWarning (id : RequestId) : SimMessage :=
  .warning (.invalidAction id.agentId "duplicate reply")

def unknownIdFault (id : RequestId) : SimMessage :=
  .fault (.engineFault s!"unknown request id: timeline_id={id.timelineId} agent_id={id.agentId} source_tick={id.sourceTick} attempt={id.attempt}")

def giveUpWarning (id : RequestId) : SimMessage :=
  .warning (.invalidAction id.agentId s!"max attempts ({maxAttempts}) exceeded; giving up on decision (timeline_id={id.timelineId}, last attempt={id.attempt})")

namespace RequestLifecycle

def withCaps (completedCap expiredCap : Nat) : RequestLifecycle where
  completedCap := completedCap
  expiredCap := expiredCap

def new : RequestLifecycle := withCaps completedRingCap completedRingCap

def hasPendingForAgent (lifecycle : RequestLifecycle) (agentId : String) : Bool :=
  lifecycle.pending.any fun entry => entry.request.id.agentId = agentId

def findPending (lifecycle : RequestLifecycle) (id : RequestId) : Option PendingEntry :=
  lifecycle.pending.find? fun entry => entry.request.id = id

def removePending (lifecycle : RequestLifecycle) (id : RequestId) : RequestLifecycle :=
  { lifecycle with
    pending := lifecycle.pending.filter fun entry => entry.request.id ≠ id }

def insertPending (lifecycle : RequestLifecycle) (entry : PendingEntry) : RequestLifecycle :=
  { lifecycle with
    pending := (lifecycle.pending.filter fun other => other.request.id ≠ entry.request.id) ++ [entry] }

def pushCompleted (lifecycle : RequestLifecycle) (id : RequestId) : RequestLifecycle :=
  { lifecycle with
    completed := pushRing lifecycle.completedCap lifecycle.completed id }

def pushExpired (lifecycle : RequestLifecycle) (id : RequestId) : RequestLifecycle :=
  { lifecycle with
    expired := pushRing lifecycle.expiredCap lifecycle.expired id }

/-- The deadline counts from the tick of the enqueueing, so a re-issue gets a
fresh window. -/
def tryEnqueue (lifecycle : RequestLifecycle) (request : AgentRequest) (now : Nat) :
    RequestLifecycle × EnqueueOutcome :=
  if lifecycle.hasPendingForAgent request.id.agentId then
    (lifecycle, .backpressureDropped (backpressureWarningFor request.id.agentId now request.id.sourceTick))
  else
    (lifecycle.insertPending ⟨saturatingAdd u64Max now request.deadlineTicks, request⟩, .enqueued)

/-- A duplicate is recognised before a stale reply, a stale one before an on-time
one; a pending request past its deadline expires here. -/
def drainReply (lifecycle : RequestLifecycle) (reply : AgentReply) (now : Nat) :
    RequestLifecycle × DrainOutcome :=
  if reply.id ∈ lifecycle.completed then (lifecycle, .duplicate (duplicateWarning reply.id))
  else if reply.id ∈ lifecycle.expired then (lifecycle, .stale (staleWarning reply.id now))
  else
    match lifecycle.findPending reply.id with
    | some entry =>
      if now ≤ entry.deadlineAbs then
        ((lifecycle.removePending reply.id).pushCompleted reply.id,
          .apply reply.id.agentId reply.chosen reply.rationale reply.confidence)
      else
        ((lifecycle.removePending reply.id).pushExpired reply.id,
          .stale (staleWarning reply.id now))
    | none => (lifecycle, .unknownId (unknownIdFault reply.id))

def overdue (lifecycle : RequestLifecycle) (now : Nat) : List RequestId :=
  ((lifecycle.pending.filter fun entry => entry.deadlineAbs < now).map (·.request.id)).insertionSort
    RequestId.upTo

def expiryOutcome (now : Nat) (id : RequestId) (entry : PendingEntry) : ExpiryOutcome :=
  if id.attempt < maxAttempts then
    .reissue { entry.request with id := id.nextAttempt } (staleWarning id now)
  else .giveUp (giveUpWarning id)

def expireOne (now : Nat) (progress : RequestLifecycle × List ExpiryOutcome) (id : RequestId) :
    RequestLifecycle × List ExpiryOutcome :=
  match progress.1.findPending id with
  | none => progress
  | some entry =>
    ((progress.1.removePending id).pushExpired id, progress.2 ++ [expiryOutcome now id entry])

def expireOverdue (lifecycle : RequestLifecycle) (now : Nat) :
    RequestLifecycle × List ExpiryOutcome :=
  (lifecycle.overdue now).foldl (expireOne now) (lifecycle, [])

end RequestLifecycle

end Simetro.Agent
