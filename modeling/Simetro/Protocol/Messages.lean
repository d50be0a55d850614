/-! Wire events, warnings and faults. The static and snapshot payloads are left to
the modules that encode them. -/

namespace Simetro.Protocol

inductive Sl1TransformWarningKind where
  | starved
  | blocked
  | late
  | failed
  | slotMissed
  deriving DecidableEq

inductive Sl1DemandWarningKind where
  | dropped
  | backlogOverflow
  deriving DecidableEq

inductive Sl1PressureWarningKind where
  | unsupportedInThisPr
  deriving DecidableEq

inductive Sl1ObjectiveWarningKind where
  | unsupportedInThisPr
  deriving DecidableEq

inductive WarningPayload where
  | invalidAction (agentId reason : String)
  | behind (lagFrames : Nat) (agentId : Option String)
  | agentLogSlow
  | sl1Transform (transformId : String) (event : Sl1TransformWarningKind) (tick : Nat)
      (attempt : Option Nat)
  | sl1Demand (demandId : String) (event : Sl1DemandWarningKind) (tick : Nat)
      (sequence value : Option Nat) (penaltyScore : Option Int) (penaltyWarning : Option String)
  | sl1Pressure (pressureId : String) (event : Sl1PressureWarningKind) (pressureKind : String)
      (tick : Nat)
  | sl1Objective (objectiveId : String) (event : Sl1ObjectiveWarningKind)
      (objectiveKind : String) (tick : Nat)
  deriving DecidableEq

inductive FaultPayload where
  | loadError (message : String) (line col : Option Nat)
  | agentCrashed (agentId message : String)
  | numericDrift (tick : Nat)
  | engineFault (message : String)
  | baselineHashMismatch (expected found : String)
  | schemaMismatch (expected found : Nat)
  | transportLost
  deriving DecidableEq

/-- A 32-bit float that is only passed on, as its bit pattern. -/
abbrev F32Bits := BitVec 32

inductive ActionTag where
  | noOp
  | setSpeed
  | placePiece
  | connectPieces
  | removePiece
  | defineResource
  | addProducer
  | addConsumer
  | setGoal
  deriving DecidableEq

inductive Action where
  | noOp
  | setSpeed (mover : Nat) (speed : F32Bits)
  | placePiece (pieceKind : String) (pos : F32Bits × F32Bits)
  | connectPieces (source target : Nat)
  | removePiece (id : Nat)
  | defineResource (name : String) (color : Nat)
  | addProducer (resource : String) (amount intervalTicks : Nat)
  | addConsumer (resource : String) (amount intervalTicks : Nat)
  | setGoal (goal : String)
  deriving DecidableEq

def Action.tag : Action → ActionTag
  | .noOp => .noOp
  | .setSpeed _ _ => .setSpeed
  | .placePiece _ _ => .placePiece
  | .connectPieces _ _ => .connectPieces
  | .removePiece _ => .removePiece
  | .defineResource _ _ => .defineResource
  | .addProducer _ _ _ => .addProducer
  | .addConsumer _ _ _ => .addConsumer
  | .setGoal _ => .setGoal

structure ConsideredAction where
  action : Action
  confidence : F32Bits
  deriving DecidableEq

structure AgentReport where
  tick : Nat
  agentId : String
  considered : List ConsideredAction
  chosen : Option Action
  rationale : String
  confidence : F32Bits
  deriving DecidableEq

inductive SimMessage where
  | agentReport (report : AgentReport)
  | fault (payload : FaultPayload)
  | warning (payload : WarningPayload)
  deriving DecidableEq

inductive Sl1PressureEventKind where
  | activated
  | deactivated
  deriving DecidableEq

inductive Sl1ObjectiveStatusTag where
  | unknown
  | met
  | breached
  | unsupported
  deriving DecidableEq

inductive HighlightReason where
  | agentFocus
  | bottleneck
  | goalReached
  deriving DecidableEq

inductive SimEvent where
  | tick (tick : Nat)
  | moverDeparted (mover fromNode path : Nat)
  | moverArrived (mover atNode path : Nat)
  | moverSpeedChange (mover : Nat) (old new : F32Bits)
  | nodeHighlighted (node : Nat) (reason : HighlightReason)
  | pathPulsed (path : Nat)
  | agentDecided (agentId : String) (action : ActionTag)
  | sl1PressureLifecycle (pressureId pressureKind : String) (event : Sl1PressureEventKind)
      (tick : Nat)
  | sl1ObjectiveStateChanged (objectiveId : String) (source target : Sl1ObjectiveStatusTag)
      (tick : Nat)
  | sl1FailureConditionFired (failureConditionId : String) (tick : Nat)
  | sl1VictoryConditionMet (victoryConditionId : String) (tick : Nat)
  | sl1GameOutcomeChanged (source target : String) (tick : Nat) (reason : Option String)
  | sl1DashboardStateChanged (dashboardId source target : String) (tick : Nat)
      (freshnessTicks : Option Nat)
  | sl1AlertFired (alertId metricId : String) (value : Nat) (severity predicate : String)
      (tick : Nat)
  | sl1AlertCleared (alertId metricId : String) (tick : Nat)
  | sl1AgentActionApplied (agentId actionKind targetId : String) (cost tick : Nat)
  | sl1AgentActionRejected (agentId actionKind : String) (targetId : Option String)
      (reason : String) (tick : Nat)
  | sl1AgentLlmDisabled (agentId : String) (tick : Nat)
  | sl1MilestoneFired (milestoneId label triggerKind : String) (cameraFocus : List String)
      (highlight : Option String) (tick : Nat)
  deriving DecidableEq

end Simetro.Protocol
