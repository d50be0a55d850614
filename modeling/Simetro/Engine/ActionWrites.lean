import Simetro.Engine.Actions

/-! `apply_action` as it writes: checks and writes in the order of the source, on a world and
an event list that keep whatever was written before a refusal. -/

namespace Simetro.Engine.Writes

open Simetro.Library Simetro.Protocol Actions

/-- What an action writes to: the world, and the events pushed so far. -/
structure Stage where
  world : World Transit
  events : List SimEvent

namespace Stage

variable (stage : Stage)

def setNetwork (network : Transit) : Stage := { stage with world := { stage.world with network } }

def push (event : SimEvent) : Stage := { stage with events := stage.events ++ [event] }

end Stage

/-- A handler stops at the first refusal and takes nothing back. -/
abbrev Handler (α : Type) := ExceptT WarningPayload (StateM Stage) α

namespace Handler

variable (agentId : String)

def check (bad : Bool) (reason : String) : Handler Unit :=
  if bad then throw (.invalidAction agentId reason) else pure ()

def found {α : Type} (value : Option α) (reason : String) : Handler α :=
  match value with
  | some value => pure value
  | none => throw (.invalidAction agentId reason)

def network : Handler Transit := do return (← get).world.network

def write (change : Transit → Transit) : Handler Unit :=
  modify fun stage => stage.setNetwork (change stage.world.network)

def push (event : SimEvent) : Handler Unit := modify (·.push event)

end Handler

open Handler

variable (display : Float32 → String) (agentId : String)

def setSpeed (id : MoverId) (bits : F32Bits) : Handler ActionOutcome := do
  let speed := f32OfBits bits
  check agentId (!speed.isFinite || speed < speedMin || speedMax < speed)
    s!"speed {display speed} out of range [{display speedMin},{display speedMax}]"
  let mover ← found agentId (← network).movers[id]? s!"unknown mover {id}"
  if (mover.speed - speed).abs < f32Epsilon then return .noChange
  write fun transit => transit.setMover id { mover with speed }
  push (.moverSpeedChange id (bitsOfF32 mover.speed) bits)
  return .applied

def placePiece (pieceKind : String) (pos : F32Bits × F32Bits) : Handler ActionOutcome := do
  let pos := (f32OfBits pos.1, f32OfBits pos.2)
  check agentId (isBlank pieceKind) "piece_kind is empty"
  check agentId (maxPieceKindLen < pieceKind.length)
    s!"piece_kind longer than {maxPieceKindLen} chars"
  let shape ← found agentId (nodeShapeForPieceKind pieceKind)
    s!"unsupported piece_kind `{pieceKind}`; expected node or node shape"
  check agentId
    (!pos.1.isFinite || coordLimit < pos.1.abs || !pos.2.isFinite || coordLimit < pos.2.abs)
    s!"position [{display pos.1}, {display pos.2}] is non-finite or outside ±{display coordLimit}"
  let id ← found agentId (nextNodeId (← network)) "node id space exhausted"
  write fun transit =>
    { transit with nodes := transit.nodes.insert id { id, pos, shape, color := 0 } }
  push (.nodeHighlighted id .agentFocus)
  return .applied

def connectPieces (source target : NodeId) : Handler ActionOutcome := do
  check agentId (source == target) s!"cannot connect node {source} to itself"
  check agentId (!(← network).nodes.contains source) s!"unknown from node {source}"
  check agentId (!(← network).nodes.contains target) s!"unknown to node {target}"
  check agentId ((← network).paths.toList.any fun row =>
      row.2.source == source && row.2.target == target)
    s!"path from node {source} to node {target} already exists"
  let id ← found agentId (nextPathId (← network)) "path id space exhausted"
  write fun transit =>
    { transit with paths := transit.paths.insert id { id, source, target, color := 0 } }
  push (.pathPulsed id)
  return .applied

/-- Refused at the first mover that holds the node. -/
def release (id : NodeId) (incident : List PathId) : List Mover → Handler Unit
  | [] => pure ()
  | mover :: rest =>
    match heldBy id incident mover with
    | some reason => throw (.invalidAction agentId reason)
    | none => release id incident rest

def removePiece (id : NodeId) : Handler ActionOutcome := do
  check agentId (!(← network).nodes.contains id) s!"unknown node {id}"
  let incident := incidentPaths (← network) id
  release agentId id incident ((← network).movers.toList.map (·.2))
  for path in incident do
    write fun transit => { transit with paths := transit.paths.erase path }
  write fun transit => { transit with nodes := transit.nodes.erase id }
  return .applied

def validateResourceName (name : String) : Handler Unit := do
  check agentId name.isEmpty "resource name is empty"
  check agentId (maxResourceNameLen < name.length)
    s!"resource name longer than {maxResourceNameLen} chars"
  check agentId (!name.toList.all isNameChar) s!"resource name `{name}` must match [A-Za-z0-9_-]+"

def defineResource (name : String) (color : Nat) : Handler ActionOutcome := do
  validateResourceName agentId name
  check agentId ((← network).resources.toList.any fun row => row.2.name == name)
    s!"resource `{name}` already exists"
  let id ← found agentId (nextResourceId (← network)) "resource id space exhausted"
  write fun transit => { transit with resources := transit.resources.insert id { id, name, color } }
  write fun transit => { transit with inventory := transit.inventory.insert id 0 }
  return .applied

def validateAmountAndInterval (amount intervalTicks : Nat) : Handler Unit := do
  check agentId (amount == 0 || amountMax < amount) s!"amount {amount} out of range (1..={amountMax})"
  check agentId (intervalTicks == 0 || intervalMax < intervalTicks)
    s!"interval_ticks {intervalTicks} out of range (1..={intervalMax})"

def addProducer (resource : String) (amount intervalTicks : Nat) : Handler ActionOutcome := do
  let resource ← found agentId ((← network).resourceIdByName resource)
    s!"unknown resource `{resource}`"
  validateAmountAndInterval agentId amount intervalTicks
  let id ← found agentId (nextProducerId (← network)) "producer id space exhausted"
  write fun transit => { transit with
    producers := transit.producers.insert id { id, resource, amount, intervalTicks } }
  return .applied

def addConsumer (resource : String) (amount intervalTicks : Nat) : Handler ActionOutcome := do
  let resource ← found agentId ((← network).resourceIdByName resource)
    s!"unknown resource `{resource}`"
  validateAmountAndInterval agentId amount intervalTicks
  let id ← found agentId (nextConsumerId (← network)) "consumer id space exhausted"
  write fun transit => { transit with
    consumers := transit.consumers.insert id { id, resource, amount, intervalTicks } }
  return .applied

def setGoal (goal : String) : Handler ActionOutcome :=
  match normalize ['-'] goal with
  | "loop_forever" => return .noChange
  | other => throw (.invalidAction agentId s!"unknown goal `{other}`")

def handle : Action → Handler ActionOutcome
  | .noOp => return .noChange
  | .setSpeed mover speed => setSpeed display agentId mover speed
  | .placePiece pieceKind pos => placePiece display agentId pieceKind pos
  | .connectPieces source target => connectPieces agentId source target
  | .removePiece id => removePiece agentId id
  | .defineResource name color => defineResource agentId name color
  | .addProducer resource amount intervalTicks => addProducer agentId resource amount intervalTicks
  | .addConsumer resource amount intervalTicks => addConsumer agentId resource amount intervalTicks
  | .setGoal goal => setGoal agentId goal

/-- `apply_action`: what it reports, and the world and the events as it leaves them. -/
def applyAction (action : Action) (stage : Stage) : ActionOutcome × Stage :=
  match (handle display agentId action).run.run stage with
  | (.ok outcome, after) => (outcome, after)
  | (.error warning, after) => (.rejected warning, after)

section Answers

variable (stage : Stage)

/-- A checked attempt, carried out at once. -/
def answer : Attempt → Except WarningPayload ActionOutcome × Stage
  | .ok (some (network, pushed)) =>
    (.ok .applied, { stage.setNetwork network with events := stage.events ++ pushed })
  | .ok none => (.ok .noChange, stage)
  | .error reason => (.error (.invalidAction agentId reason), stage)

/-- Run from the stage, the handler does what the attempt says, and a refusal finds nothing
written. -/
def Follows (handler : Handler ActionOutcome) (attempt : Attempt) : Prop :=
  handler.run.run stage = answer agentId stage attempt

namespace Follows

variable {agentId} {stage}

theorem network {next : Transit → Handler ActionOutcome} {attempt : Attempt}
    (follows : Follows agentId stage (next stage.world.network) attempt) :
    Follows agentId stage (Handler.network >>= next) attempt := follows

theorem check {bad : Bool} {reason : String} {next : Unit → Handler ActionOutcome}
    {rest : Unit → Attempt} (follows : Follows agentId stage (next ()) (rest ())) :
    Follows agentId stage (Handler.check agentId bad reason >>= next) (reject bad reason >>= rest) := by
  cases bad with
  | false => exact follows
  | true => rfl

theorem found {α : Type} {value : Option α} {reason : String} {next : α → Handler ActionOutcome}
    {rest : α → Attempt} (follows : ∀ value, Follows agentId stage (next value) (rest value)) :
    Follows agentId stage (Handler.found agentId value reason >>= next)
      (present value reason >>= rest) := by
  cases value with
  | some value => exact follows value
  | none => rfl

end Follows

theorem release_bind (id : NodeId) (incident : List PathId) (movers : List Mover)
    (next : Unit → Handler ActionOutcome) :
    (release agentId id incident movers >>= next).run.run stage =
      match movers.findSome? (heldBy id incident) with
      | some reason => (.error (.invalidAction agentId reason), stage)
      | none => (next ()).run.run stage := by
  induction movers with
  | nil => rfl
  | cons mover rest ih =>
    rw [release, List.findSome?_cons]
    cases heldBy id incident mover with
    | some reason => rfl
    | none => exact ih

/-- The loop over the incident paths erases each of them. -/
theorem erasePaths_bind (incident : List PathId) (next : PUnit → Handler ActionOutcome) :
    ((forIn incident PUnit.unit fun path _ => do
        write fun transit => { transit with paths := transit.paths.erase path }
        pure (.yield PUnit.unit)) >>= next).run.run stage =
      (next ⟨⟩).run.run (stage.setNetwork
        { stage.world.network with
          paths := incident.foldl (·.erase ·) stage.world.network.paths }) := by
  induction incident generalizing stage with
  | nil => rfl
  | cons path rest ih =>
    rw [List.forIn_cons]
    exact ih (stage.setNetwork
      { stage.world.network with paths := stage.world.network.paths.erase path })

variable {agentId} {stage} in
/-- A handler that pushes nothing. -/
theorem Follows.silent {handler : Handler ActionOutcome} {network : Transit}
    (written : handler.run.run stage = (.ok .applied, stage.setNetwork network)) :
    Follows agentId stage handler (.ok (some (network, []))) := by
  rw [Follows, written]
  simp [answer, Stage.setNetwork]

theorem removePiece_follows (id : NodeId) :
    Follows agentId stage (removePiece agentId id) (Actions.removePiece stage.world.network id) := by
  unfold removePiece Actions.removePiece
  refine Follows.network (Follows.check (Follows.network (Follows.network ?_)))
  unfold Follows
  rw [release_bind, List.findSome?_map]
  dsimp only [Function.comp_def]
  generalize stage.world.network.movers.toList.findSome? _ = found
  cases found with
  | some reason => rfl
  | none =>
    rw [erasePaths_bind]
    exact @Follows.silent agentId _ _ _ rfl

theorem defineResource_follows (name : String) (color : Nat) :
    Follows agentId stage (defineResource agentId name color)
      (Actions.defineResource stage.world.network name color) := by
  unfold defineResource Actions.defineResource validateResourceName Actions.validateResourceName
  simp only [bind_assoc]
  refine Follows.check (Follows.check (Follows.check ?_))
  refine Follows.network (Follows.check (Follows.network (Follows.found fun id => ?_)))
  exact Follows.silent rfl

theorem handle_follows (action : Action) :
    Follows agentId stage (handle display agentId action)
      (attempt display stage.world.network action) := by
  cases action with
  | noOp => rfl
  | setSpeed mover speed =>
    refine Follows.check (Follows.network (Follows.found fun mover => ?_))
    unfold Follows
    split
    · rfl
    · rfl
  | placePiece pieceKind pos =>
    refine Follows.check (Follows.check (Follows.found fun shape => Follows.check ?_))
    refine Follows.network (Follows.found fun id => ?_)
    rfl
  | connectPieces source target =>
    refine Follows.check (Follows.network (Follows.check (Follows.network (Follows.check ?_))))
    refine Follows.network (Follows.check (Follows.network (Follows.found fun id => ?_)))
    rfl
  | removePiece id => exact removePiece_follows agentId stage id
  | defineResource name color => exact defineResource_follows agentId stage name color
  | addProducer resource amount intervalTicks =>
    refine Follows.network (Follows.found fun resource => ?_)
    unfold validateAmountAndInterval Actions.validateAmountAndInterval
    simp only [bind_assoc]
    refine Follows.check (Follows.check (Follows.network (Follows.found fun id => ?_)))
    exact Follows.silent rfl
  | addConsumer resource amount intervalTicks =>
    refine Follows.network (Follows.found fun resource => ?_)
    unfold validateAmountAndInterval Actions.validateAmountAndInterval
    simp only [bind_assoc]
    refine Follows.check (Follows.check (Follows.network (Follows.found fun id => ?_)))
    exact Follows.silent rfl
  | setGoal goal =>
    show Follows agentId stage (setGoal agentId goal) (Actions.setGoal goal)
    unfold setGoal Actions.setGoal
    generalize Actions.normalize ['-'] goal = name
    by_cases looping : name = "loop_forever"
    · subst looping
      rfl
    · simp only
      rfl

end Answers

/-- What is written in place is what the checked attempt answers. -/
theorem applyAction_eq (action : Action) (stage : Stage) :
    applyAction display agentId action stage =
      (let (network, pushed, outcome) :=
          Engine.applyAction display stage.world.network agentId action
       (outcome, { stage.setNetwork network with events := stage.events ++ pushed })) := by
  unfold applyAction Engine.applyAction
  rw [handle_follows]
  cases attempt display stage.world.network action with
  | error reason => simp [answer, Stage.setNetwork]
  | ok result =>
    cases result with
    | none => simp [answer, Stage.setNetwork]
    | some result => rfl

end Simetro.Engine.Writes
