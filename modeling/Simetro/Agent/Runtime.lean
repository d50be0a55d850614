import Simetro.Agent.Lifecycle
import Simetro.Protocol.DecisionTimeline

/-! The orchestrator that drives the request lifecycle and the decision timeline. -/

namespace Simetro.Agent

open Simetro.Library Simetro.Protocol

inductive EnqueueDecisionOutcome where
  | enqueued (id : TimelineId)
  | backpressureDropped (message : SimMessage)

inductive ProcessReplyOutcome where
  | apply (id : TimelineId) (agentId : String) (chosen : Option Action) (rationale : String)
      (confidence : F32Bits)
  | drop (message : SimMessage)

inductive ExpireOutcome where
  | reissued (id : TimelineId) (warning : SimMessage)
  | gaveUp (id : TimelineId) (message : SimMessage)

structure AgentRuntime where
  timeline : DecisionTimeline
  lifecycle : RequestLifecycle
  outbox : List AgentRequest := []

/-- The agent a give-up message names. -/
def giveUpTarget : SimMessage → Option String
  | .warning (.invalidAction agentId _) => some agentId
  | _ => none

def warningPayload : SimMessage → Option WarningPayload
  | .warning payload => some payload
  | .fault _ | .agentReport _ => none

namespace AgentRuntime

/-- The derived default, whose lifecycle has rings of capacity zero. -/
def new : AgentRuntime where
  timeline := .new
  lifecycle := {}

def withTimelineCapacity (cap : Nat) : AgentRuntime where
  timeline := .withCapacity cap
  lifecycle := .new

def enqueueDecision (runtime : AgentRuntime) (agentId observationJson : String)
    (deadlineTicks now : Nat) : AgentRuntime × EnqueueDecisionOutcome :=
  if runtime.lifecycle.hasPendingForAgent agentId then
    (runtime, .backpressureDropped (backpressureWarningFor agentId now now))
  else
    let (timeline, id) := runtime.timeline.allocate now agentId
    let request : AgentRequest :=
      { id := { timelineId := id, agentId, sourceTick := now, attempt := 0 }
        deadlineTicks
        observationJson }
    match runtime.lifecycle.tryEnqueue request now with
    | (lifecycle, .enqueued) =>
      ({ timeline, lifecycle, outbox := runtime.outbox ++ [request] }, .enqueued id)
    | (lifecycle, .backpressureDropped message) =>
      ({ timeline := timeline.settle (timeline.recordFault id now
            "lifecycle backpressure after timeline allocation (unexpected)")
         lifecycle
         outbox := runtime.outbox }, .backpressureDropped message)

def drainOutbox (runtime : AgentRuntime) : AgentRuntime × List AgentRequest :=
  ({ runtime with outbox := [] }, runtime.outbox)

def processReply (runtime : AgentRuntime) (reply : AgentReply) (now : Nat) :
    AgentRuntime × ProcessReplyOutcome :=
  match runtime.lifecycle.drainReply reply now with
  | (lifecycle, .apply agentId chosen rationale confidence) =>
    ({ runtime with
        lifecycle
        timeline := runtime.timeline.settle (runtime.timeline.recordReply reply.id.timelineId now
          { chosen, rationale, confidence, latencyMs := none, rawResponseRef := none }) },
      .apply reply.id.timelineId agentId chosen rationale confidence)
  | (lifecycle, .duplicate message) | (lifecycle, .stale message)
  | (lifecycle, .unknownId message) => ({ runtime with lifecycle }, .drop message)

/-- The first open entry of the agent: a give-up message names no timeline id. -/
def findPendingIdForAgent (timeline : DecisionTimeline) (agentId : String) :
    Option TimelineId :=
  (timeline.entries.find? fun entry => entry.agentId = agentId &&
    (entry.status.isPending || entry.status.isExpired)).map (·.id)

def expireOne (now : Nat) (progress : AgentRuntime × List ExpireOutcome) :
    ExpiryOutcome → AgentRuntime × List ExpireOutcome
  | .reissue next warning =>
    let runtime := progress.1
    let id := next.id.timelineId
    let timeline := runtime.timeline.settle (runtime.timeline.recordExpiry id now (warningPayload warning))
    let timeline := timeline.settle (timeline.reissue id)
    match runtime.lifecycle.tryEnqueue next now with
    | (lifecycle, .enqueued) =>
      ({ timeline, lifecycle, outbox := runtime.outbox ++ [next] },
        progress.2 ++ [.reissued id warning])
    | (lifecycle, .backpressureDropped _) =>
      ({ timeline := timeline.settle (timeline.recordFault id now
            "lifecycle backpressure after re-issue (unexpected)")
         lifecycle
         outbox := runtime.outbox }, progress.2 ++ [.reissued id warning])
  | .giveUp message =>
    let runtime := progress.1
    match (giveUpTarget message).bind (findPendingIdForAgent runtime.timeline) with
    | some id =>
      let timeline := runtime.timeline.settle (runtime.timeline.recordExpiry id now (warningPayload message))
      let timeline := timeline.settle (timeline.giveUp id now (warningPayload message))
      ({ runtime with timeline }, progress.2 ++ [.gaveUp id message])
    | none => (runtime, progress.2 ++ [.gaveUp 0 message])

def expireOverdue (runtime : AgentRuntime) (now : Nat) :
    AgentRuntime × List ExpireOutcome :=
  let (lifecycle, outcomes) := runtime.lifecycle.expireOverdue now
  outcomes.foldl (expireOne now) ({ runtime with lifecycle }, [])

def recordFault (runtime : AgentRuntime) (id : TimelineId) (faultTick : Nat)
    (reason : String) : AgentRuntime × Except DecisionTimelineError Unit :=
  match runtime.timeline.recordFault id faultTick reason with
  | .ok timeline => ({ runtime with timeline }, .ok ())
  | .error problem => (runtime, .error problem)

end AgentRuntime

end Simetro.Agent
