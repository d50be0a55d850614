import Simetro.Engine.Components
import Simetro.Engine.Tick
import Simetro.Library.Checks
import Simetro.Library.Registry
import Simetro.Library.Text

/-! An agent's action: checked, then applied to the network, or rejected with the reason. -/

namespace Simetro.Engine

open Simetro.Library Simetro.Protocol

/-- The float of a bit pattern. -/
def f32OfBits (bits : F32Bits) : Float32 := .ofBits (.ofBitVec bits)

def bitsOfF32 (value : Float32) : F32Bits := value.toBits.toBitVec

namespace Actions

def speedMin : Float32 := 0.0
def speedMax : Float32 := 100.0
def coordLimit : Float32 := 1.0e6
def maxPieceKindLen : Nat := 64
def maxResourceNameLen : Nat := 64
def amountMax : Nat := 1000000
def intervalMax : Nat := 10000

/-- The distance from 1 to the next 32-bit float, 2 to the power -23. -/
def f32Epsilon : Float32 := .ofBits 0x34000000

/-- An accepted action changes the network and pushes events, or changes nothing; a
rejected one gives the reason. -/
abbrev Attempt := Except String (Option (Transit × List SimEvent))

def nextNodeId (transit : Transit) : Option NodeId := nextDense u32Max transit.nodes.keys 0

def nextPathId (transit : Transit) : Option PathId := nextDense u32Max transit.paths.keys 0

def nextResourceId (transit : Transit) : Option ResourceId :=
  nextDense u32Max transit.resources.keys 0

def nextProducerId (transit : Transit) : Option ProducerId :=
  nextDense u32Max transit.producers.keys 0

def nextConsumerId (transit : Transit) : Option ConsumerId :=
  nextDense u32Max transit.consumers.keys 0

/-- Trimmed, in ASCII lower case, with the given separators turned into underscores. -/
def normalize (separators : List Char) (text : String) : String :=
  .ofList ((trim text.toList).map fun character =>
    if character.toLower ∈ separators then '_' else character.toLower)

def nodeShapeForPieceKind (pieceKind : String) : Option NodeShape :=
  match normalize ['-', ':'] pieceKind with
  | "node" | "circle" | "node_circle" => some .circle
  | "square" | "node_square" => some .square
  | "triangle" | "node_triangle" => some .triangle
  | "diamond" | "node_diamond" => some .diamond
  | "hexagon" | "node_hexagon" => some .hexagon
  | _ => none

section Display

-- how a float is printed in a message
variable (display : Float32 → String)

def setSpeed (transit : Transit) (id : MoverId) (bits : F32Bits) : Attempt := do
  let speed := f32OfBits bits
  reject (!speed.isFinite || speed < speedMin || speedMax < speed)
    s!"speed {display speed} out of range [{display speedMin},{display speedMax}]"
  let mover ← present transit.movers[id]? s!"unknown mover {id}"
  if (mover.speed - speed).abs < f32Epsilon then return none
  else return some (transit.setMover id { mover with speed },
    [.moverSpeedChange id (bitsOfF32 mover.speed) bits])

def placePiece (transit : Transit) (pieceKind : String) (pos : F32Bits × F32Bits) : Attempt := do
  let pos := (f32OfBits pos.1, f32OfBits pos.2)
  reject (isBlank pieceKind) "piece_kind is empty"
  reject (maxPieceKindLen < pieceKind.length)
    s!"piece_kind longer than {maxPieceKindLen} chars"
  let shape ← present (nodeShapeForPieceKind pieceKind)
    s!"unsupported piece_kind `{pieceKind}`; expected node or node shape"
  reject (!pos.1.isFinite || coordLimit < pos.1.abs || !pos.2.isFinite || coordLimit < pos.2.abs)
    s!"position [{display pos.1}, {display pos.2}] is non-finite or outside ±{display coordLimit}"
  let id ← present (nextNodeId transit) "node id space exhausted"
  return some ({ transit with nodes := transit.nodes.insert id { id, pos, shape, color := 0 } },
    [.nodeHighlighted id .agentFocus])

end Display

def connectPieces (transit : Transit) (source target : NodeId) : Attempt := do
  reject (source == target) s!"cannot connect node {source} to itself"
  reject (!transit.nodes.contains source) s!"unknown from node {source}"
  reject (!transit.nodes.contains target) s!"unknown to node {target}"
  reject (transit.paths.toList.any fun row => row.2.source == source && row.2.target == target)
    s!"path from node {source} to node {target} already exists"
  let id ← present (nextPathId transit) "path id space exhausted"
  return some ({ transit with paths := transit.paths.insert id { id, source, target, color := 0 } },
    [.pathPulsed id])

/-- The keys of the paths that start or end at the node. -/
def incidentPaths (transit : Transit) (id : NodeId) : List PathId :=
  (transit.paths.toList.filter fun row => row.2.source == id || row.2.target == id).map (·.1)

/-- Why the mover holds the node: where it is comes before its home path. -/
def heldBy (id : NodeId) (incident : List PathId) (mover : Mover) : Option String :=
  let home := if mover.homePath ∈ incident then
      some s!"node {id} is used by mover {mover.id} home path {mover.homePath}"
    else none
  match mover.state with
  | .waiting node =>
    if node = id then some s!"node {id} has mover {mover.id} waiting at it" else home
  | .traveling path _ =>
    if path ∈ incident then
      some s!"node {id} is used by mover {mover.id} traveling on path {path}"
    else home
  | .empty => home

def removePiece (transit : Transit) (id : NodeId) : Attempt := do
  reject (!transit.nodes.contains id) s!"unknown node {id}"
  let incident := incidentPaths transit id
  match transit.movers.toList.findSome? fun row => heldBy id incident row.2 with
  | some reason => .error reason
  | none => return some ({ transit with
      paths := incident.foldl (·.erase ·) transit.paths
      nodes := transit.nodes.erase id }, [])

def isNameChar (character : Char) : Bool :=
  character.isAlphanum || character == '_' || character == '-'

def validateResourceName (name : String) : Except String Unit := do
  reject name.isEmpty "resource name is empty"
  reject (maxResourceNameLen < name.length)
    s!"resource name longer than {maxResourceNameLen} chars"
  reject (!name.toList.all isNameChar) s!"resource name `{name}` must match [A-Za-z0-9_-]+"

def defineResource (transit : Transit) (name : String) (color : Nat) : Attempt := do
  validateResourceName name
  reject (transit.resources.toList.any fun row => row.2.name == name)
    s!"resource `{name}` already exists"
  let id ← present (nextResourceId transit) "resource id space exhausted"
  return some ({ transit with
    resources := transit.resources.insert id { id, name, color }
    inventory := transit.inventory.insert id 0 }, [])

def validateAmountAndInterval (amount intervalTicks : Nat) : Except String Unit := do
  reject (amount == 0 || amountMax < amount) s!"amount {amount} out of range (1..={amountMax})"
  reject (intervalTicks == 0 || intervalMax < intervalTicks)
    s!"interval_ticks {intervalTicks} out of range (1..={intervalMax})"

def addProducer (transit : Transit) (resource : String) (amount intervalTicks : Nat) : Attempt := do
  let resource ← present (transit.resourceIdByName resource) s!"unknown resource `{resource}`"
  validateAmountAndInterval amount intervalTicks
  let id ← present (nextProducerId transit) "producer id space exhausted"
  return some ({ transit with
    producers := transit.producers.insert id { id, resource, amount, intervalTicks } }, [])

def addConsumer (transit : Transit) (resource : String) (amount intervalTicks : Nat) : Attempt := do
  let resource ← present (transit.resourceIdByName resource) s!"unknown resource `{resource}`"
  validateAmountAndInterval amount intervalTicks
  let id ← present (nextConsumerId transit) "consumer id space exhausted"
  return some ({ transit with
    consumers := transit.consumers.insert id { id, resource, amount, intervalTicks } }, [])

/-- The only goal known is accepted and changes nothing. -/
def setGoal (goal : String) : Attempt :=
  match normalize ['-'] goal with
  | "loop_forever" => .ok none
  | other => .error s!"unknown goal `{other}`"

def attempt (display : Float32 → String) (transit : Transit) : Action → Attempt
  | .noOp => .ok none
  | .setSpeed mover speed => setSpeed display transit mover speed
  | .placePiece pieceKind pos => placePiece display transit pieceKind pos
  | .connectPieces source target => connectPieces transit source target
  | .removePiece id => removePiece transit id
  | .defineResource name color => defineResource transit name color
  | .addProducer resource amount intervalTicks => addProducer transit resource amount intervalTicks
  | .addConsumer resource amount intervalTicks => addConsumer transit resource amount intervalTicks
  | .setGoal goal => setGoal goal

end Actions

/-- `apply_action`: a rejected action leaves the network as it is. -/
def applyAction (display : Float32 → String) (transit : Transit) (agentId : String)
    (action : Action) : Transit × List SimEvent × ActionOutcome :=
  match Actions.attempt display transit action with
  | .ok (some (transit, events)) => (transit, events, .applied)
  | .ok none => (transit, [], .noChange)
  | .error reason => (transit, [], .rejected (.invalidAction agentId reason))

end Simetro.Engine
