import Simetro.Engine.Actions

/-! The transit passes of a tick. Each first lists what is due, then carries it out. -/

namespace Simetro.Engine

open Simetro.Library Simetro.Protocol

namespace Lifecycle

structure Spawn where
  mover : MoverId
  path : PathId
  fromNode : NodeId

/-- Movers that have not started yet and whose home path exists. -/
def spawns (transit : Transit) : List Spawn :=
  transit.movers.toList.filterMap fun (id, mover) =>
    match mover.state with
    | .empty => transit.paths[mover.homePath]?.map fun path => ⟨id, path.id, path.source⟩
    | _ => none

def spawnOne (now : Transit × List SimEvent) (spawn : Spawn) : Transit × List SimEvent :=
  match now.1.movers[spawn.mover]? with
  | none => now
  | some mover =>
    match mover.spawnAt spawn.fromNode with
    | .error _ => now
    | .ok spawned =>
      match spawned.beginTravel spawn.path with
      | .error _ => (now.1.setMover spawn.mover spawned, now.2)
      | .ok departed => (now.1.setMover spawn.mover departed,
          now.2 ++ [.moverDeparted spawn.mover spawn.fromNode spawn.path])

/-- `lifecycle::run`, with the events it pushes. -/
def run (transit : Transit) : Transit × List SimEvent :=
  (spawns transit).foldl spawnOne (transit, [])

end Lifecycle

namespace Movement

/-- One mover's progress, and the path it is through with, if any. -/
def advanceOne (dt : Float32) (mover : Mover) : Mover × Option PathId :=
  match mover.state, mover.advance dt with
  | .traveling path _, .ok (advanced, progress) =>
    (advanced, if progress ≥ 1.0 then some path else none)
  | _, _ => (mover, none)

def arrivals (transit : Transit) : List (MoverId × PathId) :=
  transit.movers.toList.filterMap fun (id, mover) =>
    (advanceOne transit.dt mover).2.map fun path => (id, path)

def advanceAll (transit : Transit) : Transit :=
  { transit with movers := transit.movers.map fun _ mover => (advanceOne transit.dt mover).1 }

structure Arrived where
  transit : Transit
  events : List SimEvent := []
  count : Nat := 0

def arriveOne (now : Arrived) (arrival : MoverId × PathId) : Arrived :=
  match now.transit.movers[arrival.1]?, now.transit.paths[arrival.2]? with
  | some mover, some path =>
    match mover.arrive path.target with
    | .error _ => now
    | .ok arrived =>
      { transit := now.transit.setMover arrival.1 arrived
        events := now.events ++ [.moverArrived arrival.1 path.target arrival.2]
        count := now.count + 1 }
  | _, _ => now

/-- `movement::run`, with the events it pushes and the arrivals it counts. -/
def run (transit : Transit) : Arrived :=
  (arrivals transit).foldl arriveOne { transit := advanceAll transit }

end Movement

namespace Interaction

structure Route where
  mover : MoverId
  path : PathId
  fromNode : NodeId

/-- Every waiting mover takes the first path out of its node, if there is one. -/
def routes (transit : Transit) : List Route :=
  transit.movers.toList.filterMap fun (id, mover) =>
    match mover.state with
    | .waiting node =>
      (transit.paths.toList.find? fun row => row.2.source == node).map fun row => ⟨id, row.1, node⟩
    | _ => none

def departOne (now : Transit × List SimEvent) (route : Route) : Transit × List SimEvent :=
  match now.1.movers[route.mover]? with
  | none => now
  | some mover =>
    match mover.beginTravel route.path with
    | .error _ => now
    | .ok departed => (now.1.setMover route.mover departed,
        now.2 ++ [.moverDeparted route.mover route.fromNode route.path])

/-- `interaction::run`, with the events it pushes. -/
def run (transit : Transit) : Transit × List SimEvent :=
  (routes transit).foldl departOne (transit, [])

end Interaction

namespace Production

def fires (tick intervalTicks : Nat) : Bool := 0 < intervalTicks && tick % intervalTicks == 0

/-- Resource and amount of every producer that fires. -/
def produced (tick : Nat) (transit : Transit) : List (ResourceId × Nat) :=
  (transit.producers.toList.filter fun row => fires tick row.2.intervalTicks).map
    fun row => (row.2.resource, row.2.amount)

def produce (inventory : Std.ExtTreeMap ResourceId Nat) (entry : ResourceId × Nat) :
    Std.ExtTreeMap ResourceId Nat :=
  inventory.insert entry.1 (saturatingAdd u64Max (inventory.getD entry.1 0) entry.2)

/-- Resource and amount of every consumer that fires and finds enough in stock before any
of them has drawn. -/
def consumed (tick : Nat) (transit : Transit) : List (ResourceId × Nat) :=
  (transit.consumers.toList.filter fun row => fires tick row.2.intervalTicks &&
      row.2.amount ≤ transit.inventory.getD row.2.resource 0).map
    fun row => (row.2.resource, row.2.amount)

def consume (inventory : Std.ExtTreeMap ResourceId Nat) (entry : ResourceId × Nat) :
    Std.ExtTreeMap ResourceId Nat :=
  inventory.modify entry.1 (· - entry.2)

/-- `production::run`; its statistics are read by tests alone. -/
def run (tick : Nat) (transit : Transit) : Transit :=
  let transit := { transit with inventory := (produced tick transit).foldl produce transit.inventory }
  { transit with inventory := (consumed tick transit).foldl consume transit.inventory }

end Production

section Systems

variable {Host Log Observation : Type}

namespace Machine

/-- Hand the network on with the events a pass pushed. -/
def advance (machine : Machine Transit Host Log) (pass : Transit × List SimEvent) :
    Machine Transit Host Log :=
  { world := { machine.world with network := pass.1 }
    runner := { machine.runner with events := machine.runner.events ++ pass.2 } }

end Machine

/-- The passes on the transit network around any agents. -/
def transitSystems (display : Float32 → String) (agents : Systems Transit Host Log Observation) :
    Systems Transit Host Log Observation :=
  { agents with
    lifecycle := fun machine => .done (machine.advance (Lifecycle.run machine.world.network))
    movement := fun machine =>
      let arrived := Movement.run machine.world.network
      .done (machine.advance (arrived.transit, arrived.events), arrived.count)
    interaction := fun machine => .done (machine.advance (Interaction.run machine.world.network))
    production := fun machine => .done
      (machine.advance (Production.run machine.world.tick machine.world.network, []))
    applyAction := fun machine agentId action =>
      let (transit, events, outcome) := applyAction display machine.world.network agentId action
      .done (machine.advance (transit, events), outcome) }

end Systems

end Simetro.Engine
