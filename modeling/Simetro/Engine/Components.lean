import Std.Data.ExtTreeMap.Lemmas
import Simetro.Protocol.Messages

/-! The transit network: nodes joined by directed paths, movers on them, and the
producers and consumers of a global stock of resources. -/

namespace Simetro.Engine

open Simetro.Protocol

abbrev NodeId := Nat
abbrev PathId := Nat
abbrev MoverId := Nat
abbrev ResourceId := Nat
abbrev ProducerId := Nat
abbrev ConsumerId := Nat

inductive NodeShape where
  | circle
  | square
  | triangle
  | diamond
  | hexagon
  deriving DecidableEq

structure Node where
  id : NodeId
  pos : Float32 × Float32
  shape : NodeShape
  color : Nat

structure Path where
  id : PathId
  source : NodeId
  target : NodeId
  color : Nat

inductive MoverState where
  | empty
  | waiting (node : NodeId)
  | traveling (path : PathId) (progress : Float32)
  deriving DecidableEq

structure Mover where
  id : MoverId
  homePath : PathId
  speed : Float32
  state : MoverState

structure Resource where
  id : ResourceId
  name : String
  color : Nat

structure Producer where
  id : ProducerId
  resource : ResourceId
  amount : Nat
  intervalTicks : Nat

structure Consumer where
  id : ConsumerId
  resource : ResourceId
  amount : Nat
  intervalTicks : Nat

namespace Mover

variable (mover : Mover)

def new (id : MoverId) (homePath : PathId) (speed : Float32) : Mover :=
  ⟨id, homePath, speed, .empty⟩

/-- `Empty → Waiting`; any other state is handed back. -/
def spawnAt (node : NodeId) : Except MoverState Mover :=
  match mover.state with
  | .empty => .ok { mover with state := .waiting node }
  | other => .error other

/-- `Waiting → Traveling`; any other state is handed back. -/
def beginTravel (path : PathId) : Except MoverState Mover :=
  match mover.state with
  | .waiting _ => .ok { mover with state := .traveling path 0.0 }
  | other => .error other

/-- Progress while `Traveling`, saturating at 1; a sum that is no number counts as arrival. -/
def advance (dt : Float32) : Except MoverState (Mover × Float32) :=
  match mover.state with
  | .traveling path progress =>
    let sum := progress + mover.speed * dt
    let progress := if sum ≤ 1.0 then sum else 1.0
    .ok ({ mover with state := .traveling path progress }, progress)
  | other => .error other

/-- `Traveling → Waiting`; any other state is handed back. -/
def arrive (node : NodeId) : Except MoverState Mover :=
  match mover.state with
  | .traveling _ _ => .ok { mover with state := .waiting node }
  | other => .error other

end Mover

/-- The fields of `World` that the transit passes and the agents' actions work on. -/
structure Transit where
  dt : Float32 := 1.0 / 60.0
  nodes : Std.ExtTreeMap NodeId Node := ∅
  paths : Std.ExtTreeMap PathId Path := ∅
  movers : Std.ExtTreeMap MoverId Mover := ∅
  resources : Std.ExtTreeMap ResourceId Resource := ∅
  inventory : Std.ExtTreeMap ResourceId Nat := ∅
  producers : Std.ExtTreeMap ProducerId Producer := ∅
  consumers : Std.ExtTreeMap ConsumerId Consumer := ∅

namespace Transit

/-- The first resource of that name. -/
def resourceIdByName (transit : Transit) (name : String) : Option ResourceId :=
  (transit.resources.toList.find? fun row => row.2.name = name).map (·.2.id)

def setMover (transit : Transit) (id : MoverId) (mover : Mover) : Transit :=
  { transit with movers := transit.movers.insert id mover }

end Transit

end Simetro.Engine
