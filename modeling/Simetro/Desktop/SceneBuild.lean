import Simetro.Desktop.Driver
import Simetro.Engine.AgentHost
import Simetro.Engine.SceneLoader

/-! How the desktop driver builds a scene: its world, the agents it runs and the static
payload with the scene's geometry. A tick of it may panic inside any of its passes. -/

namespace Simetro.Desktop

open Simetro.Engine Simetro.Library Simetro.Protocol Simetro.Sl1

inductive NodeShapeTag where
  | circle
  | square
  | triangle
  | diamond
  | hexagon
  deriving DecidableEq

def shapeToWire : NodeShape → NodeShapeTag
  | .circle => .circle
  | .square => .square
  | .triangle => .triangle
  | .diamond => .diamond
  | .hexagon => .hexagon

structure NodeView where
  id : Nat
  pos : Float32 × Float32
  shape : NodeShapeTag
  color : Nat
  deriving DecidableEq

structure PathView where
  id : Nat
  fromPos : Float32 × Float32
  toPos : Float32 × Float32
  color : Nat
  deriving DecidableEq

/-- The static payload; what it repeats of the SL1 block is a parameter. -/
structure StaticPayload (Mirror : Type) where
  name : String
  palette : List String
  backgroundIndex : Nat
  nodes : List NodeView
  paths : List PathView
  nodeNames : Std.ExtTreeMap Nat String
  pathNames : Std.ExtTreeMap Nat String
  moverNames : Std.ExtTreeMap Nat String
  sl1 : Mirror

namespace Snapshot

def nodeViews (transit : Transit) : List NodeView :=
  (transit.nodes.toList.map fun (_, node) =>
    (⟨node.id, node.pos, shapeToWire node.shape, node.color⟩ : NodeView)).insertionSort
      fun left right => left.id ≤ right.id

/-- Paths whose ends are both there, with the positions of the ends. -/
def pathViews (transit : Transit) : List PathView :=
  (transit.paths.toList.filterMap fun (_, path) => do
    let source ← transit.nodes[path.source]?
    let target ← transit.nodes[path.target]?
    return (⟨path.id, source.pos, target.pos, path.color⟩ : PathView)).insertionSort
      fun left right => left.id ≤ right.id

/-- The loaded names, and made-up ones for elements that came later. -/
def nameMap (kind : String) (names : Std.ExtTreeMap Nat String) (ids : List Nat) :
    Std.ExtTreeMap Nat String :=
  ids.foldl (fun names id => names.insertIfNew id s!"{kind}_{id}") names

def encodeStaticParts {Mirror : Type} (mirror : Option Sl1Scene → Mirror) (name : String)
    (theme : Theme) (idMap : SceneIdMap) (world : World Transit) : StaticPayload Mirror where
  name
  palette := theme.palette
  backgroundIndex := theme.backgroundIndex
  nodes := nodeViews world.network
  paths := pathViews world.network
  nodeNames := nameMap "node" idMap.nodes.names world.network.nodes.keys
  pathNames := nameMap "path" idMap.paths.names world.network.paths.keys
  moverNames := idMap.movers.names
  sl1 := mirror world.sl1

def encodeStatic {Mirror : Type} (mirror : Option Sl1Scene → Mirror) (loaded : LoadedScene) :
    StaticPayload Mirror :=
  encodeStaticParts mirror loaded.name loaded.theme loaded.idMap loaded.world

end Snapshot

structure SceneMeta where
  name : String
  theme : Theme
  idMap : SceneIdMap
  agents : List AgentSpec

/-- The driver of transit scenes. A snapshot is a function of the world it is taken of, and
stands here for that world. -/
def sceneShell (Host Log Mirror : Type) : Shell where
  Network := Transit
  Host := Host
  Log := Log
  Observation := Observation
  Meta := SceneMeta
  Static := StaticPayload Mirror
  Snapshot := World Transit

section Build

variable {Log Mirror : Type}

def sceneEncoders {Host : Type} (mirror : Option Sl1Scene → Mirror) :
    Encoders (sceneShell Host Log Mirror) where
  encodeStaticParts sceneMeta world :=
    Snapshot.encodeStaticParts mirror sceneMeta.name sceneMeta.theme sceneMeta.idMap world
  encodeSnapshot world := world

/-- A scene's parameters: whether LLM agents are built in, how the SL1 block is repeated in
the static payload, and how a load error reads and maps to a fault. -/
structure Building (Mirror : Type) where
  llmLive : Bool
  mirror : Option Sl1Scene → Mirror
  errorText : LoadError → String
  loadErrorToFault : LoadError → FaultPayload

variable (building : Building Mirror)

/-- The runner of a loaded scene: of the agents it names, the speed tuners. -/
def buildRunner (agents : List AgentSpec) : TickRunner (AgentHost SpeedTuner) Log :=
  agents.foldl (fun runner spec =>
    if spec.kind = "speed_tuner" then
      runner.registerAgent (SpeedTuner.new spec.intervalTicks).host
    else runner) {}

def buildSceneLoad (raw : RawScene) :
    Except SceneLoadFailure (SceneLoad (sceneShell (AgentHost SpeedTuner) Log Mirror)) :=
  match SceneLoader.validate building.llmLive raw with
  | .error problem => .error (.load (building.errorText problem) (building.loadErrorToFault problem))
  | .ok loaded => .ok {
      machine := ⟨loaded.world, buildRunner loaded.agents⟩
      sceneMeta := ⟨loaded.name, loaded.theme, loaded.idMap, loaded.agents⟩
      staticPayload := Snapshot.encodeStatic building.mirror loaded }

/-- What reading and deserializing the file at a path gives at some moment. -/
abbrev RawFiles := String → Except SceneLoadFailure RawScene

def sceneFiles (read : RawFiles) : SceneFiles (sceneShell (AgentHost SpeedTuner) Log Mirror) :=
  fun path =>
    match read path with
    | .error failure => .error failure
    | .ok raw => buildSceneLoad building raw

end Build

/-! ## Panics -/

/-- What a panic inside a pass leaves behind: any movers, stock, SL1 runtime and runner.
Nodes and paths are written by none of the passes. -/
structure Wreck (Host Log : Type) where
  movers : Std.ExtTreeMap MoverId Mover
  inventory : Std.ExtTreeMap ResourceId Nat
  sl1Runtime : Option Sl1RuntimeState
  runner : TickRunner Host Log

inductive Stage where
  | lifecycle
  | movement
  | applyAction
  | interaction
  | production
  | sl1
  deriving DecidableEq

/-- Where a tick panics, if it does, with what it leaves and the message; and where the
agent itself panics, which its host catches. -/
structure Mishaps (Mind Log : Type) where
  observes : Mind → World Transit → Option String
  acts : Mind → Observation → Option String
  panics : Stage → Machine Transit (AgentHost Mind) Log →
    Option (Wreck (AgentHost Mind) Log × String)

section Mishaps

variable {Mind Log : Type}

def wreckMachine (machine : Machine Transit (AgentHost Mind) Log) (wreck : Wreck (AgentHost Mind) Log) :
    Machine Transit (AgentHost Mind) Log where
  world := { machine.world with
    network := { machine.world.network with movers := wreck.movers, inventory := wreck.inventory }
    sl1Runtime := wreck.sl1Runtime }
  runner := wreck.runner

namespace Mishaps

variable (mishaps : Mishaps Mind Log)

/-- Panic at the stage, or go on. -/
def guard {α : Type} (stage : Stage) (machine : Machine Transit (AgentHost Mind) Log)
    (next : Run (Machine Transit (AgentHost Mind) Log) α) :
    Run (Machine Transit (AgentHost Mind) Log) α :=
  match mishaps.panics stage machine with
  | some (wreck, message) => .panicked (wreckMachine machine wreck) message
  | none => next

/-- The engine with these mishaps. The SL1 pass comes right behind production. -/
def befall (systems : Systems Transit (AgentHost Mind) Log Observation) :
    Systems Transit (AgentHost Mind) Log Observation :=
  { systems with
    lifecycle := fun machine => mishaps.guard .lifecycle machine (systems.lifecycle machine)
    movement := fun machine => mishaps.guard .movement machine (systems.movement machine)
    applyAction := fun machine agentId action =>
      mishaps.guard .applyAction machine (systems.applyAction machine agentId action)
    interaction := fun machine => mishaps.guard .interaction machine (systems.interaction machine)
    production := fun machine => mishaps.guard .production machine do
      let machine ← systems.production machine
      mishaps.guard .sl1 machine (.done machine) }

/-- The agent with these mishaps. -/
def befallAgent (agent : Agent Mind) : Agent Mind where
  observe mind world :=
    match mishaps.observes mind world with
    | some message => (mind, .error message)
    | none => agent.observe mind world
  act mind observation :=
    match mishaps.acts mind observation with
    | some message => (mind, .error message)
    | none => agent.act mind observation

end Mishaps

end Mishaps

/-- The speed tuner as an agent. It observes the world and never fails by itself. -/
def tunerAgent (display : Float32 → String) : Agent SpeedTuner where
  observe tuner world := (tuner, .ok (.fromWorld world))
  act tuner observation := (tuner, .ok (.ok (tuner.act display observation)))

section Desktop

variable {Mirror : Type}

/-- The driver attaches no log. -/
abbrev desktopShell (Mirror : Type) : Shell := sceneShell (AgentHost SpeedTuner) Unit Mirror

/-- How a float is printed in full and with two decimals. -/
structure Printing where
  display : Float32 → String
  twoDecimals : Float32 → String

/-- The engine the desktop driver ticks, with mishaps. -/
def desktopSystems (printing : Printing) (mishaps : Mishaps SpeedTuner Unit) :
    Systems Transit (AgentHost SpeedTuner) Unit Observation :=
  mishaps.befall (hostedSystems printing.display
    (mishaps.befallAgent (tunerAgent printing.twoDecimals)) fun log _ _ _ => (log, none))

/-- The timer fires, or a command is received while the scene files are as given. -/
inductive Input where
  | timer
  | command (command : DriverCommand) (read : RawFiles)

def Input.event (building : Building Mirror) : Input → DriverEvent (desktopShell Mirror)
  | .timer => .timer
  | .command given read => .command given (sceneFiles building read)

end Desktop

end Simetro.Desktop
