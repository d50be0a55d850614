import Simetro.Sl1.Frame

/-! Objectives, failure conditions, victory conditions, outcome and phase. Where
the engine expects a runtime entry that the load created, a missing entry leaves
the frame as it is. -/

namespace Simetro.Sl1

open Simetro.Library Simetro.Protocol

def Sl1Scene.placeDef (scene : Sl1Scene) (id : String) : Option Sl1Place :=
  scene.places.find? fun place => place.id = id

namespace Objectives

def statusTag : Sl1ObjectiveStatus → Sl1ObjectiveStatusTag
  | .unknown => .unknown
  | .met => .met
  | .breached => .breached
  | .unsupported => .unsupported

variable (scene : Sl1Scene) (runtime : Sl1RuntimeState) (now : Nat)

/-- Last write tick of a slot; `NoData`, `Degraded` and `Invalid` carry none. -/
def lastSetTick (place thing : String) : Option Nat :=
  match runtime.freshness.getD (place, thing) .noData with
  | .ok lastSetTick | .stale lastSetTick => some lastSetTick
  | .noData | .degraded | .invalid => none

def evaluateKeepFresh (place thing : String) (maxStaleTicks : Nat) : Sl1ObjectiveStatus :=
  match lastSetTick runtime place thing with
  | some tick => if now - tick ≤ maxStaleTicks then .met else .breached
  | none => .breached

def evaluateCompleteJobs (demand : String) (maxMissed : Nat) : Sl1ObjectiveStatus :=
  let dropped := ((runtime.demand[demand]?).map (·.droppedCount)).getD 0
  if dropped ≤ maxMissed then .met else .breached

/-- Integer percent of a non-zero capacity, truncating. -/
def usedPercent (used cap : Nat) : Nat := min used cap * 100 / cap

def evaluateUtilization (place capacity : String) (minPercent maxPercent : Nat) :
    Sl1ObjectiveStatus :=
  let cap := ((scene.placeDef place).bind (·.capacity[capacity]?)).getD 0
  if cap = 0 then if minPercent = 0 then .met else .breached
  else
    let percent := usedPercent (runtime.used place capacity) cap
    if minPercent ≤ percent ∧ percent ≤ maxPercent then .met else .breached

def objectiveStatus (params : Sl1ObjectiveParams) : Sl1ObjectiveStatus :=
  match params with
  | .keepFresh place thing maxStaleTicks => evaluateKeepFresh runtime now place thing maxStaleTicks
  | .completeJobsBeforeDeadline demand maxMissed => evaluateCompleteJobs runtime demand maxMissed
  | .maintainUtilization place capacity minPercent maxPercent =>
      evaluateUtilization scene runtime place capacity minPercent maxPercent
  | .unsupportedInThisPr => .unsupported

def warnUnsupported (frame : Frame) (objective : Sl1Objective) : Frame :=
  if objective.params = .unsupportedInThisPr ∧
      ¬ frame.runtime.unsupportedObjectivesWarned.contains objective.id then
    (frame.modify fun runtime => { runtime with
      unsupportedObjectivesWarned := runtime.unsupportedObjectivesWarned.insert objective.id }).warn
        (.sl1Objective objective.id .unsupportedInThisPr objective.kind.asStr now)
  else frame

/-- Adopt a status; a change is dated, and every breached tick counts. -/
def observe (status : Sl1ObjectiveStatus) (entry : Sl1ObjectiveRuntime) : Sl1ObjectiveRuntime :=
  let entry := if entry.status = status then entry
    else { entry with status := status, lastChangeTick := now }
  if entry.status = .breached then
    { entry with breachTickCount := saturatingAdd u64Max entry.breachTickCount 1 }
  else entry

def evaluateObjective (frame : Frame) (objective : Sl1Objective) : Frame :=
  let status := objectiveStatus scene frame.runtime now objective.params
  match frame.runtime.objectives[objective.id]? with
  | none => frame
  | some entry =>
      let frame := (warnUnsupported now frame objective).modify fun runtime => { runtime with
        objectives := runtime.objectives.insert objective.id (observe now status entry) }
      if entry.status = status then frame
      else frame.emit (.sl1ObjectiveStateChanged objective.id (statusTag entry.status)
        (statusTag status) now)

def evaluateObjectives (frame : Frame) : Frame :=
  scene.objectives.foldl (evaluateObjective scene now) frame

def staleTargetBreached (place thing : String) (thresholdTicks : Nat) : Bool :=
  match lastSetTick runtime place thing with
  | some tick => thresholdTicks < now - tick
  | none => true

def placeStateBreached (place state : String) : Bool :=
  match (scene.placeDef place).bind fun element => (element.operatingStates[state]?).map (element, ·) with
  | none => false
  | some (element, operating) =>
      match operating.predicate with
      | .usedPercentGte metric threshold =>
          let cap := element.capacity.getD metric 0
          let percent := if cap = 0 then 0 else usedPercent (runtime.used place metric) cap
          threshold ≤ percent
      -- the validator rejects this predicate here
      | .overloadedTicksGt _ => false

def fcBreached (params : Sl1FailureConditionParams) : Bool :=
  match params with
  | .staleTarget place thing thresholdTicks _ =>
      staleTargetBreached runtime now place thing thresholdTicks
  | .placeState place state _ => placeStateBreached scene runtime place state
  | .objectiveBreachCount objectiveId maxCount =>
      ((runtime.objectives[objectiveId]?).map fun entry =>
        decide (maxCount < entry.breachTickCount)).getD false

def fcGrace : Sl1FailureConditionParams → Nat
  | .staleTarget _ _ _ graceTicks => graceTicks
  | .placeState _ _ graceTicks => graceTicks
  | .objectiveBreachCount _ _ => 0

/-- The streak of an entry after one more evaluation. -/
def nextStreak (breached : Bool) (entry : Sl1FailureConditionRuntime) : Nat :=
  if breached then saturatingAdd u64Max entry.breachStreakTicks 1 else 0

def evaluateFailureCondition (frame : Frame) (condition : Sl1FailureCondition) : Frame :=
  match frame.runtime.failureConditions[condition.id]? with
  | none => frame
  | some entry =>
      let streak := nextStreak (fcBreached scene frame.runtime now condition.params) entry
      let store (entry : Sl1FailureConditionRuntime) : Frame :=
        frame.modify fun runtime => { runtime with
          failureConditions := runtime.failureConditions.insert condition.id entry }
      if entry.firedAtTick.isNone ∧ fcGrace condition.params < streak then
        (store ⟨streak, some now⟩).emit (.sl1FailureConditionFired condition.id now)
      else store ⟨streak, entry.firedAtTick⟩

def evaluateFailureConditions (frame : Frame) : Frame :=
  scene.failureConditions.foldl (evaluateFailureCondition scene now) frame

def vcMet : Sl1VictoryConditionParams → Bool
  | .surviveUntil atTick => atTick ≤ now

def evaluateVictoryCondition (frame : Frame) (condition : Sl1VictoryCondition) : Frame :=
  match frame.runtime.victoryConditions[condition.id]? with
  | none => frame
  | some entry =>
      if vcMet now condition.params ∧ entry.metAtTick.isNone then
        (frame.modify fun runtime => { runtime with
          victoryConditions := runtime.victoryConditions.insert condition.id ⟨some now⟩ }).emit
            (.sl1VictoryConditionMet condition.id now)
      else frame

def evaluateVictoryConditions (frame : Frame) : Frame :=
  scene.victoryConditions.foldl (evaluateVictoryCondition now) frame

def fcFired (condition : Sl1FailureCondition) : Bool :=
  ((runtime.failureConditions[condition.id]?).bind (·.firedAtTick)).isSome

def vcAchieved (condition : Sl1VictoryCondition) : Bool :=
  ((runtime.victoryConditions[condition.id]?).bind (·.metAtTick)).isSome

/-- The first fired failure condition decides; victory needs every condition. -/
def outcomeOf : GameOutcome :=
  match scene.failureConditions.find? (fcFired runtime) with
  | some condition => .lost ("failure_condition:" ++ condition.id)
  | none =>
      if !scene.victoryConditions.isEmpty && scene.victoryConditions.all (vcAchieved runtime) then
        .won
      else .inProgress

def lostReason : GameOutcome → Option String
  | .lost reason => some reason
  | _ => none

def recomputeOutcome (frame : Frame) : Frame :=
  let outcome := outcomeOf scene frame.runtime
  if outcome = frame.runtime.gameOutcome then frame
  else
    (frame.emit (.sl1GameOutcomeChanged frame.runtime.gameOutcome.variantStr outcome.variantStr now
      (lostReason outcome))).modify fun runtime => { runtime with gameOutcome := outcome }

def isSupported : Sl1ObjectiveKind → Bool
  | .keepFresh | .completeJobsBeforeDeadline | .maintainUtilization => true
  | _ => false

def objectiveMet (objective : Sl1Objective) : Bool :=
  ((runtime.objectives[objective.id]?).map fun entry => decide (entry.status = .met)).getD false

def computePhase : Sl1GamePhase :=
  match runtime.gameOutcome with
  | .won => .won
  | .lost _ => .lost
  | .inProgress =>
      if runtime.failureConditions.values.any fun entry => decide (0 < entry.breachStreakTicks) then
        .spiraling
      else if runtime.objectives.values.any fun entry => decide (entry.status = .breached) then
        .losing
      else if scene.objectives.any (isSupported ·.kind) &&
          scene.objectives.all fun objective =>
            !isSupported objective.kind || objectiveMet runtime objective then .winning
      else .stabilizing

/-- `sl1_objectives::run`. -/
def run (frame : Frame) : Frame :=
  if frame.runtime.gameOutcome.isTerminal then frame
  else
    let frame := evaluateObjectives scene now frame
    let frame := evaluateFailureConditions scene now frame
    let frame := evaluateVictoryConditions scene now frame
    let frame := recomputeOutcome scene now frame
    frame.modify fun runtime => { runtime with gamePhase := computePhase scene runtime }

end Objectives

end Simetro.Sl1
