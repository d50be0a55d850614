import Simetro.Engine.Passes

/-! In-process agents: what they see, and the host that runs them, catches their panics and
trims their reports. -/

namespace Simetro.Engine

open Simetro.Library Simetro.Protocol

structure MoverObservation where
  id : MoverId
  state : MoverState
  speed : Float32
  homePath : PathId

structure Observation where
  tick : Nat := 0
  movers : List MoverObservation := []

def Observation.fromWorld (world : World Transit) : Observation where
  tick := world.tick
  movers := world.network.movers.toList.map fun (_, mover) =>
    ⟨mover.id, mover.state, mover.speed, mover.homePath⟩

/-- The two steps of an agent. Each may change its mind, and each may panic with a message. -/
structure Agent (Mind : Type) where
  observe : Mind → World Transit → Mind × Except String Observation
  act : Mind → Observation → Mind × Except String (Except AgentError AgentReport)

/-- An agent with its id, which stays, and what it has in mind. -/
structure AgentHost (Mind : Type) where
  id : String
  intervalTicks : Nat
  mind : Mind

namespace AgentHost

def maxConsidered : Nat := 1000
def maxRationaleChars : Nat := 512

/-- `f32::clamp` to the unit interval; what is no number stays so. -/
def clampUnit (value : Float32) : Float32 :=
  if value < 0.0 then 0.0 else if 1.0 < value then 1.0 else value

def trimReport (report : AgentReport) : AgentReport :=
  { report with
    considered := report.considered.take maxConsidered
    rationale := if maxRationaleChars < report.rationale.length then
        .ofList (report.rationale.toList.take maxRationaleChars)
      else report.rationale
    confidence := bitsOfF32 (clampUnit (f32OfBits report.confidence)) }

variable {Mind Log : Type}

def shouldFire (host : AgentHost Mind) (tick : Nat) : Bool :=
  0 < tick && tick % max host.intervalTicks 1 == 0

variable (agent : Agent Mind)

/-- What the agent sees; nothing when its observer panics. -/
def observeOnly (host : AgentHost Mind) (world : World Transit) : AgentHost Mind × Observation :=
  match agent.observe host.mind world with
  | (mind, .ok observation) => ({ host with mind }, observation)
  | (mind, .error _) => ({ host with mind }, {})

def step (host : AgentHost Mind) (world : World Transit) :
    AgentHost Mind × Except AgentError AgentReport :=
  match agent.observe host.mind world with
  | (mind, .error message) => ({ host with mind }, .error (.panicked host.id message))
  | (mind, .ok observation) =>
    match agent.act mind observation with
    | (mind, .error message) => ({ host with mind }, .error (.panicked host.id message))
    | (mind, .ok (.error problem)) => ({ host with mind }, .error problem)
    | (mind, .ok (.ok report)) => ({ host with mind }, .ok (trimReport report))

end AgentHost

/-- `register_agent`: the hosts stay sorted by id, a new one before those of its own id. -/
def TickRunner.registerAgent {Mind Log : Type} (runner : TickRunner (AgentHost Mind) Log)
    (host : AgentHost Mind) : TickRunner (AgentHost Mind) Log :=
  { runner with
    hosts := runner.hosts.takeWhile (fun other => other.id < host.id) ++
      host :: runner.hosts.dropWhile fun other => other.id < host.id }

/-- The engine around hosted agents. -/
def hostedSystems {Mind Log : Type} (display : Float32 → String) (agent : Agent Mind)
    (append : Log → Observation → String → AgentReport → Log × Option WarningPayload) :
    Systems Transit (AgentHost Mind) Log Observation :=
  transitSystems display {
    lifecycle := .done
    movement := fun machine => .done (machine, 0)
    interaction := .done
    production := .done
    hostId := AgentHost.id
    shouldFire := AgentHost.shouldFire
    observeOnly := AgentHost.observeOnly agent
    step := AgentHost.step agent
    applyAction := fun machine _ _ => .done (machine, .noChange)
    append }

/-- The built-in agent that speeds up the first mover that waits. -/
structure SpeedTuner where
  id : String := "speed_tuner_0"
  interval : Nat

namespace SpeedTuner

def speedUpFactor : Float32 := 1.5
def speedCap : Float32 := 100.0

def new (intervalTicks : Nat) : SpeedTuner where
  interval := max intervalTicks 1

def isWaiting : MoverState → Bool
  | .waiting _ => true
  | _ => false

/-- How a float is printed with two decimals is a parameter. -/
def act (display : Float32 → String) (tuner : SpeedTuner) (observation : Observation) : AgentReport :=
  match observation.movers.find? fun mover => isWaiting mover.state with
  | some target =>
    let scaled := target.speed * speedUpFactor
    let proposed := if scaled ≤ speedCap then scaled else speedCap
    let speedUp := Action.setSpeed target.id (bitsOfF32 proposed)
    let hold := Action.setSpeed target.id (bitsOfF32 target.speed)
    { tick := observation.tick
      agentId := tuner.id
      considered := [⟨speedUp, bitsOfF32 0.7⟩, ⟨hold, bitsOfF32 0.2⟩, ⟨.noOp, bitsOfF32 0.1⟩]
      chosen := some speedUp
      rationale := s!"mover {target.id} is waiting; nudging speed {display target.speed} → {display proposed} to clear the queue"
      confidence := bitsOfF32 0.7 }
  | none =>
    { tick := observation.tick
      agentId := tuner.id
      considered := [⟨.noOp, bitsOfF32 0.5⟩]
      chosen := some .noOp
      rationale := "no mover is waiting; nothing to tune"
      confidence := bitsOfF32 0.5 }

def host (tuner : SpeedTuner) : AgentHost SpeedTuner := ⟨tuner.id, tuner.interval, tuner⟩

end SpeedTuner

end Simetro.Engine
