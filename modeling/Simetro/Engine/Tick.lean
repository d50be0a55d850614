import Simetro.Engine.World
import Simetro.Protocol.Messages
import Simetro.Sl1.Runtime

/-! One engine tick: the transit passes around the agents, then the SL1 pass. -/

namespace Simetro.Engine

open Simetro.Library Simetro.Protocol Simetro.Sl1

/-- Code that either finishes or panics, leaving the state it had reached. -/
inductive Run (State : Type) (α : Type) where
  | done (value : α)
  | panicked (state : State) (message : String)

namespace Run

variable {State α β : Type}

def bind : Run State α → (α → Run State β) → Run State β
  | .done value, next => next value
  | .panicked state message, _ => .panicked state message

instance : Monad (Run State) where
  pure := .done
  bind := bind

end Run

inductive AgentError where
  | panicked (agentId message : String)
  | invalidAction (agentId reason : String)
  | timeout (agentId : String) (budgetMs : Nat)

def agentErrorToMessage : AgentError → SimMessage
  | .panicked agentId message => .fault (.agentCrashed agentId message)
  | .invalidAction agentId reason => .warning (.invalidAction agentId reason)
  | .timeout agentId budgetMs => .warning (.invalidAction agentId s!"timeout after {budgetMs}ms")

/-- What `apply_action` reports. -/
inductive ActionOutcome where
  | applied
  | noChange
  | rejected (warning : WarningPayload)

structure TickRunner (Host Log : Type) where
  events : List SimEvent := []
  messages : List SimMessage := []
  hosts : List Host := []
  agentLog : Option Log := none
  lastArrivals : Nat := 0
  topologyDirty : Bool := false

/-- The world and its runner, which every pass may write. -/
structure Machine (Network Host Log : Type) where
  world : World Network
  runner : TickRunner Host Log

/-- The parts of a tick that work on the transit network and its agents. -/
structure Systems (Network Host Log Observation : Type) where
  lifecycle : Machine Network Host Log → Run (Machine Network Host Log) (Machine Network Host Log)
  movement : Machine Network Host Log → Run (Machine Network Host Log) (Machine Network Host Log × Nat)
  interaction : Machine Network Host Log → Run (Machine Network Host Log) (Machine Network Host Log)
  production : Machine Network Host Log → Run (Machine Network Host Log) (Machine Network Host Log)
  hostId : Host → String
  shouldFire : Host → Nat → Bool
  observeOnly : Host → World Network → Host × Observation
  step : Host → World Network → Host × Except AgentError AgentReport
  applyAction : Machine Network Host Log → String → Action →
    Run (Machine Network Host Log) (Machine Network Host Log × ActionOutcome)
  append : Log → Observation → String → AgentReport → Log × Option WarningPayload

namespace Machine

variable {Network Host Log Observation : Type} (machine : Machine Network Host Log)

def emit (event : SimEvent) : Machine Network Host Log :=
  { machine with
    runner := { machine.runner with events := machine.runner.events ++ [event] } }

def say (message : SimMessage) : Machine Network Host Log :=
  { machine with
    runner := { machine.runner with messages := machine.runner.messages ++ [message] } }

def enter (state : RunState) : Machine Network Host Log :=
  { machine with
    world := { machine.world with state := state } }

def setHost (index : Nat) (host : Host) : Machine Network Host Log :=
  { machine with
    runner := { machine.runner with hosts := machine.runner.hosts.set index host } }

end Machine

section Tick

variable {Network Host Log Observation : Type} (systems : Systems Network Host Log Observation)

def actionChangesTopology : Action → Bool
  | .placePiece _ _ | .connectPieces _ _ | .removePiece _ => true
  | _ => false

/-- Apply an agent's chosen action. -/
def applyChosen (machine : Machine Network Host Log) (agentId : String) :
    Option Action → Run (Machine Network Host Log) (Machine Network Host Log)
  | none => return machine.emit (.agentDecided agentId .noOp)
  | some action => do
    let (machine, outcome) ← systems.applyAction machine agentId action
    let machine := match outcome with
      | .rejected warning => machine.say (.warning warning)
      | .applied =>
        if actionChangesTopology action then
          { machine with runner := { machine.runner with topologyDirty := true } }
        else machine
      | .noChange => machine
    return machine.emit (.agentDecided agentId action.tag)

/-- Append a decision to the attached log, with what the agent saw. -/
def logDecision (machine : Machine Network Host Log) (agentId : String) (report : AgentReport) :
    Option Observation → Machine Network Host Log
  | none => machine
  | some observation =>
    match machine.runner.agentLog with
    | none => machine
    | some log =>
      let (log, warning) := systems.append log observation agentId report
      let machine := { machine with runner := { machine.runner with agentLog := some log } }
      match warning with
      | some warning => machine.say (.warning warning)
      | none => machine

/-- Let one agent act. A hard fault stops the engine, not the tick. -/
def runAgent (tick : Nat) (machine : Machine Network Host Log) (index : Nat) :
    Run (Machine Network Host Log) (Machine Network Host Log) :=
  match machine.runner.hosts[index]? with
  | none => return machine
  | some host =>
    if !systems.shouldFire host tick then return machine
    else do
      let agentId := systems.hostId host
      let (host, observation) :=
        if machine.runner.agentLog.isSome then
          let (host, observation) := systems.observeOnly host machine.world
          (host, some observation)
        else (host, none)
      let (host, result) := systems.step host machine.world
      let machine := machine.setHost index host
      match result with
      | .ok report =>
        let machine ← applyChosen systems machine agentId report.chosen
        let machine := logDecision systems machine agentId report observation
        return machine.say (.agentReport report)
      | .error problem =>
        let message := agentErrorToMessage problem
        let machine := match message with
          | .fault _ => machine.enter .faulted
          | _ => machine
        return machine.say message

def runAgents (machine : Machine Network Host Log) :
    Run (Machine Network Host Log) (Machine Network Host Log) :=
  (List.range machine.runner.hosts.length).foldlM (runAgent systems machine.world.tick) machine

/-- `sl1_runtime::run` on the world. -/
def runSl1 (backend : AgentBackend) (machine : Machine Network Host Log) : Machine Network Host Log :=
  match machine.world.sl1, machine.world.sl1Runtime with
  | some scene, some runtime =>
    let frame := Sl1.run scene backend machine.world.tick
      ⟨runtime, machine.runner.events, machine.runner.messages, [], [], []⟩
    { world := { machine.world with sl1Runtime := some frame.runtime }
      runner := { machine.runner with
        events := frame.events
        messages := frame.messages } }
  | _, _ => machine

/-- The passes of a tick, in order. -/
def runPasses (backend : AgentBackend) (machine : Machine Network Host Log) :
    Run (Machine Network Host Log) (Machine Network Host Log) := do
  let machine ← systems.lifecycle machine
  let (machine, arrivals) ← systems.movement machine
  let machine ← runAgents systems machine
  let machine ← systems.interaction machine
  let machine ← systems.production machine
  let machine := (runSl1 backend machine).emit (.tick machine.world.tick)
  return { machine with runner := { machine.runner with lastArrivals := arrivals } }

/-- `TickRunner::tick_once`: a paused or faulted world does not advance. -/
def tickOnce (backend : AgentBackend) (machine : Machine Network Host Log) :
    Run (Machine Network Host Log) (Machine Network Host Log) :=
  if machine.world.state = .paused ∨ machine.world.state = .faulted then
    return { machine with
      runner := { machine.runner with
        events := []
        messages := []
        lastArrivals := 0
        topologyDirty := false } }
  else
    let state := if machine.world.state = .idle ∨ machine.world.state = .loaded then .running
      else machine.world.state
    runPasses systems backend
      { world := { machine.world with
          state
          tick := saturatingAdd u64Max machine.world.tick 1 }
        runner := { machine.runner with
          events := []
          messages := []
          topologyDirty := false } }

end Tick

end Simetro.Engine
