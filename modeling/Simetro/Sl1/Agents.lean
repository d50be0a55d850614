import Simetro.Sl1.Frame

/-! SL1 agents: cadence, the gate every proposed action passes, and the one action
with an effect. A backend is stateless and sees the agent, the scene and the tick. -/

namespace Simetro.Sl1

open Simetro.Library Simetro.Protocol

inductive Sl1AgentAction where
  | throttleDemand (demandId : String) (pauseTicks : Nat)
  deriving DecidableEq

def Sl1AgentAction.kind : Sl1AgentAction → Sl1AgentActionKind
  | .throttleDemand _ _ => .throttleDemand

def Sl1AgentAction.cost (_ : Sl1AgentAction) : Nat := 1

inductive Sl1AgentRejectionReason where
  | actionNotAllowed
  | actionTargetOutOfScope
  | actionTargetUnknown
  | costExceedsBudget
  | cooldown
  | effectUnsupportedInThisPr
  | invalidActionParameter
  deriving DecidableEq

def Sl1AgentRejectionReason.asStr : Sl1AgentRejectionReason → String
  | .actionNotAllowed => "action_not_allowed"
  | .actionTargetOutOfScope => "action_target_out_of_scope"
  | .actionTargetUnknown => "action_target_unknown"
  | .costExceedsBudget => "cost_exceeds_budget"
  | .cooldown => "cooldown"
  | .effectUnsupportedInThisPr => "effect_unsupported_in_this_pr"
  | .invalidActionParameter => "invalid_action_parameter"

/-- What the agents of a scene decide, by agent and tick. -/
abbrev AgentBackend := Sl1Agent → Nat → Option Sl1AgentAction

/-- The mock, builtin and disabled LLM backends never act. -/
def defaultBackend : AgentBackend := fun _ _ => none

namespace Agents

variable (scene : Sl1Scene) (agent : Sl1Agent) (now : Nat)

def shouldFire (state : Sl1AgentRuntimeState) : Bool :=
  if now = 0 then false
  else
    match state.lastDecisionTick with
    | none => now % agent.intervalTicks == 0
    | some last => saturatingAdd u64Max last agent.intervalTicks ≤ now

def actionTargetId : Sl1AgentAction → Option String
  | .throttleDemand demandId _ => some demandId

def validateTargetExists (kind : Sl1AgentActionKind) (target : Option String) :
    Option Sl1AgentRejectionReason :=
  match kind with
  | .throttleDemand =>
      match target with
      | none => some .actionTargetUnknown
      | some id =>
          if scene.demand.any fun demand => demand.id = id then none else some .actionTargetUnknown
  | _ => some .effectUnsupportedInThisPr

def targetInScope (kind : Sl1AgentActionKind) (target : String) : Bool :=
  match kind with
  | .throttleDemand => agent.observationScope.any fun scope =>
      match scope with
      | .demand id => id = target
      | _ => false
  | _ => true

def validateParameters : Sl1AgentAction → Option Sl1AgentRejectionReason
  | .throttleDemand _ pauseTicks =>
      if pauseTicks = 0 ∨ sl1AgentMaxCooldownTicks < pauseTicks then some .invalidActionParameter
      else none

/-- The gate, in the engine's order; `none` lets the action pass. -/
def rejection (state : Sl1AgentRuntimeState) (action : Sl1AgentAction) :
    Option Sl1AgentRejectionReason :=
  let kind := action.kind
  let target := actionTargetId action
  if state.cooldownUntilTick.any (now < ·) then some .cooldown
  else if ¬ agent.allowedActions.contains kind then some .actionNotAllowed
  else if let some reason := validateTargetExists scene kind target then some reason
  else if target.any fun id => !targetInScope agent kind id then some .actionTargetOutOfScope
  else if agent.maxCostPerDecision < action.cost then some .costExceedsBudget
  else validateParameters action

/-- A pause never shortens an earlier one. -/
def applyAction (action : Sl1AgentAction) (runtime : Sl1RuntimeState) : Sl1RuntimeState :=
  match action with
  | .throttleDemand demandId pauseTicks =>
      let pauseUntil := saturatingAdd u64Max (saturatingAdd u64Max now 1) pauseTicks
      { runtime with
        agentDemandPauses := runtime.agentDemandPauses.insert demandId
          (max (runtime.agentDemandPauses.getD demandId 0) pauseUntil) }

def updateAgent (change : Sl1AgentRuntimeState → Sl1AgentRuntimeState)
    (runtime : Sl1RuntimeState) : Sl1RuntimeState :=
  { runtime with agents := runtime.agents.modify agent.id change }

def startCooldown (state : Sl1AgentRuntimeState) : Sl1AgentRuntimeState :=
  if 0 < agent.cooldownTicks then
    { state with cooldownUntilTick := some (saturatingAdd u64Max now agent.cooldownTicks) }
  else state

def settleAction (state : Sl1AgentRuntimeState) (action : Sl1AgentAction) (frame : Frame) : Frame :=
  match rejection scene agent now state action with
  | some reason => frame.emit (.sl1AgentActionRejected agent.id action.kind.asStr
      (actionTargetId action) reason.asStr now)
  | none =>
      ((frame.modify (applyAction now action)).modify
        (updateAgent agent (startCooldown agent now))).emit
          (.sl1AgentActionApplied agent.id action.kind.asStr ((actionTargetId action).getD "")
            action.cost now)

/-- An LLM agent only reports, once, that its backend is disabled. -/
def reportDisabled (state : Sl1AgentRuntimeState) (frame : Frame) : Frame :=
  let frame := if state.llmDisabledEmitted then frame else frame.emit (.sl1AgentLlmDisabled agent.id now)
  frame.modify (updateAgent agent fun state =>
    { state with lastDecisionTick := some now, llmDisabledEmitted := true })

def decideOne (backend : AgentBackend) (frame : Frame) (agent : Sl1Agent) : Frame :=
  match frame.runtime.agents[agent.id]? with
  | none => frame
  | some state =>
      if ¬ shouldFire agent now state then frame
      else if agent.kind = .llm then reportDisabled agent now state frame
      else
        let frame := frame.modify (updateAgent agent fun state =>
          { state with lastDecisionTick := some now })
        match backend agent now with
        | none => frame
        | some action => settleAction scene agent now state action frame

/-- `sl1_agents::run_with_factory`. -/
def run (backend : AgentBackend) (frame : Frame) : Frame :=
  scene.agents.foldl (decideOne scene now backend) frame

end Agents

end Simetro.Sl1
