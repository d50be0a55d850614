import Simetro.Engine.Actions
import Simetro.Sl1.Validate

/-! The scene loader after deserialization: sections are checked in dependency order and
their string ids interned to dense numbers. -/

namespace Simetro.Engine

open Simetro.Library Simetro.Protocol Simetro.Sl1

/-- Typed load errors with their data; the rendered texts are left out. -/
inductive LoadError where
  | unsupportedVersion (found supported : Nat)
  | invalidName (reason : String)
  | paletteTooLarge (size max : Nat)
  | invalidColor (field value : String)
  | paletteIndexOob (field : String) (index max : Nat)
  | tooManyPieces (sectionName : String) (count max : Nat)
  | duplicateId (sectionName id : String)
  | invalidId (sectionName id : String)
  | nonFiniteCoord (id : String)
  | speedOutOfRange (id : String) (value : Float32)
  | intervalOob (sectionName : String) (index value : Nat)
  | amountOob (field : String) (value : Nat)
  | unknownReference (source target : String)
  | missingField (field : String)
  | unknownAgentKind (index : Nat) (kind : String)
  | agentKindRequiresFeature (index : Nat) (kind : String)
  | sl1ReservedKeyAtTopLevel (name : String)
  | sl1MisspelledTopLevelKey (name : String)
  | sl1 (error : Sl1LoadError)

abbrev Loading := Except LoadError

structure AgentSpec where
  kind : String
  intervalTicks : Nat
  deadlineTicks : Nat

inductive Goal where
  | loopForever

structure Theme where
  palette : List String
  backgroundIndex : Nat
  font : String

/-- The names of one section's elements and the numbers they were interned to. -/
structure Interning where
  byName : IdMap Nat := ∅
  names : Std.ExtTreeMap Nat String := ∅

/-- The loader's `IdMap`. -/
structure SceneIdMap where
  nodes : Interning
  paths : Interning
  movers : Interning
  resources : Interning
  producers : Interning
  consumers : Interning

structure LoadedScene where
  name : String
  theme : Theme
  goals : List Goal
  agents : List AgentSpec
  idMap : SceneIdMap
  world : World Transit
  sl1 : Option Sl1Scene

structure RawTheme where
  palette : List String
  backgroundIndex : UInt8 := 0
  font : String := "system-ui"

structure RawNode where
  id : String
  pos : Float32 × Float32
  shape : NodeShape
  color : UInt8

structure RawPath where
  id : String
  source : String
  target : String
  color : UInt8

structure RawMover where
  id : String
  onPath : String
  speed : Float32

structure RawPieces where
  nodes : List RawNode := []
  paths : List RawPath := []
  movers : List RawMover := []

structure RawAgent where
  kind : String
  intervalTicks : UInt32 := 0
  deadlineTicks : Option UInt32 := none

structure RawResource where
  id : String
  color : UInt8 := 0

structure RawInventory where
  resource : String
  amount : UInt64

/-- A producer or a consumer. -/
structure RawChain where
  id : String
  resource : String
  amount : UInt64
  intervalTicks : UInt32

/-- The scene as deserialized. Of unknown top-level keys only the names matter; the
`scenario_language_v1` block carries the error of its own deserialization, if any. -/
structure RawScene where
  schemaVersion : UInt32
  name : String
  theme : Option RawTheme := none
  pieces : RawPieces
  goals : List Goal := []
  agents : List RawAgent := []
  resources : List RawResource := []
  inventory : List RawInventory := []
  producers : List RawChain := []
  consumers : List RawChain := []
  sl1 : Option (Checked RawSl1Scene) := none
  extra : IdSet := ∅

namespace SceneLoader

def minSchemaVersion : Nat := 1
def supportedSchemaVersion : Nat := 2
def maxNameLen : Nat := 200
def maxPaletteEntries : Nat := 32
def maxPiecesPerSection : Nat := 100000
def maxIdLen : Nat := 64
def coordLimit : Float32 := 1.0e6
def speedMin : Float32 := 0.0
def speedMax : Float32 := 100.0
def intervalMin : Nat := 1
def intervalMax : Nat := 10000
def amountMin : Nat := 1
def amountMax : Nat := 1000000
def defaultLlmDeadlineTicks : Nat := 60
def knownAgentKinds : List String := ["speed_tuner", "llm"]
def featureGatedAgentKinds : List String := ["llm"]

def sl1ReservedTopLevelKeys : List String :=
  ["places", "links", "things", "transforms", "demand", "pressure", "objectives",
    "failure_conditions", "observability", "milestones"]

def checkReservedKeys (extra : IdSet) : Loading Unit :=
  match sl1ReservedTopLevelKeys.find? extra.contains with
  | some name => .error (.sl1ReservedKeyAtTopLevel name)
  | none => .ok ()

/-- An unknown key that starts like the block's key, in any case, is taken for a typo. -/
def checkMisspelledKeys (extra : IdSet) : Loading Unit :=
  match extra.toList.find? fun key =>
      (stripPrefix "scenario_".toList (key.toList.map Char.toLower)).isSome with
  | some name => .error (.sl1MisspelledTopLevelKey name)
  | none => .ok ()

/-- Unicode category `Cc`. -/
def isControl (character : Char) : Bool :=
  character.toNat < 0x20 || (0x7F ≤ character.toNat && character.toNat ≤ 0x9F)

def validateName (name : String) : Loading Unit := do
  reject name.isEmpty (.invalidName "empty")
  reject (maxNameLen < name.length) (.invalidName s!"longer than {maxNameLen} chars")
  reject (name.toList.any isControl) (.invalidName "contains control character")

def isHexDigit (character : Char) : Bool :=
  character.isDigit || ('a' ≤ character && character ≤ 'f') || ('A' ≤ character && character ≤ 'F')

/-- `#` and six hexadecimal digits. -/
def isValidHexColor (text : String) : Bool :=
  match text.toList with
  | '#' :: digits => digits.length == 6 && digits.all isHexDigit
  | _ => false

def validateTheme (raw : Option RawTheme) : Loading Theme := do
  let raw ← present raw (.missingField "theme")
  reject (maxPaletteEntries < raw.palette.length)
    (.paletteTooLarge raw.palette.length maxPaletteEntries)
  reject raw.palette.isEmpty (.paletteTooLarge 0 maxPaletteEntries)
  checkAll (fun (color, index) =>
    reject (!isValidHexColor color) (.invalidColor s!"theme.palette[{index}]" color))
    raw.palette.zipIdx
  reject (raw.palette.length ≤ raw.backgroundIndex.toNat)
    (.paletteIndexOob "theme.background_index" raw.backgroundIndex.toNat raw.palette.length)
  return ⟨raw.palette, raw.backgroundIndex.toNat, raw.font⟩

def checkSectionCap (sectionName : String) (count : Nat) : Loading Unit :=
  reject (maxPiecesPerSection < count) (.tooManyPieces sectionName count maxPiecesPerSection)

def validateId (sectionName id : String) : Loading Unit :=
  reject (id.isEmpty || maxIdLen < id.utf8ByteSize || !id.toList.all Actions.isNameChar)
    (.invalidId sectionName id)

def validateCoord (id : String) (pos : Float32 × Float32) : Loading Unit :=
  reject (!pos.1.isFinite || coordLimit < pos.1.abs || !pos.2.isFinite || coordLimit < pos.2.abs)
    (.nonFiniteCoord id)

def checkColor (field : String) (color : UInt8) (palette : Nat) : Loading Unit :=
  reject (palette ≤ color.toNat) (.paletteIndexOob field color.toNat palette)

def validateInterval (sectionName : String) (index intervalTicks : Nat) : Loading Unit :=
  reject (intervalTicks < intervalMin || intervalMax < intervalTicks)
    (.intervalOob sectionName index intervalTicks)

def validateAmount (field : String) (amount : Nat) : Loading Unit :=
  reject (amount < amountMin || amountMax < amount) (.amountOob field amount)

def validateInventoryAmount (field : String) (amount : Nat) : Loading Unit :=
  reject (amountMax < amount) (.amountOob field amount)

/-- The LLM agent needs the `llm-live` feature. -/
def validateAgentKind (llmLive : Bool) (index : Nat) (kind : String) : Loading Unit := do
  reject (!knownAgentKinds.contains kind) (.unknownAgentKind index kind)
  reject (featureGatedAgentKinds.contains kind && !llmLive) (.agentKindRequiresFeature index kind)

/-- The number an element is interned to: its position in the section. -/
def denseId (index : Nat) : Nat := min index u32Max

section Sections

variable {Raw Element : Type} (sectionName : String) (name : Raw → String)
  (build : Nat → Raw → Loading Element)

/-- Check the ids of a section, build its elements and intern them, from `index` on. -/
def loadSection : List Raw → Nat → Interning → Std.ExtTreeMap Nat Element →
    Loading (Interning × Std.ExtTreeMap Nat Element)
  | [], _, interning, elements => .ok (interning, elements)
  | raw :: rest, index, interning, elements => do
      validateId sectionName (name raw)
      reject (interning.byName.contains (name raw)) (.duplicateId sectionName (name raw))
      let element ← build index raw
      loadSection rest (index + 1)
        { byName := interning.byName.insert (name raw) (denseId index)
          names := interning.names.insert (denseId index) (name raw) }
        (elements.insert (denseId index) element)

end Sections

def buildNode (palette index : Nat) (raw : RawNode) : Loading Node := do
  validateCoord raw.id raw.pos
  checkColor s!"pieces.nodes[{index}].color" raw.color palette
  return { id := denseId index, pos := raw.pos, shape := raw.shape, color := raw.color.toNat }

def buildPath (nodes : Interning) (palette index : Nat) (raw : RawPath) : Loading Path := do
  let source ← present nodes.byName[raw.source]?
    (.unknownReference s!"pieces.paths[{index}].from" raw.source)
  let target ← present nodes.byName[raw.target]?
    (.unknownReference s!"pieces.paths[{index}].to" raw.target)
  checkColor s!"pieces.paths[{index}].color" raw.color palette
  return { id := denseId index, source, target, color := raw.color.toNat }

def buildMover (paths : Interning) (index : Nat) (raw : RawMover) : Loading Mover := do
  reject (!raw.speed.isFinite || raw.speed < speedMin || speedMax < raw.speed)
    (.speedOutOfRange raw.id raw.speed)
  let onPath ← present paths.byName[raw.onPath]?
    (.unknownReference s!"pieces.movers[{index}].on_path" raw.onPath)
  return Mover.new (denseId index) onPath raw.speed

def buildResource (palette index : Nat) (raw : RawResource) : Loading Resource := do
  checkColor s!"resources[{index}].color" raw.color palette
  return { id := denseId index, name := raw.id, color := raw.color.toNat }

/-- What a producer and a consumer declare: the resource they work on. -/
def readChain (sectionName : String) (resources : Interning) (index : Nat) (raw : RawChain) :
    Loading ResourceId := do
  validateAmount s!"{sectionName}[].amount" raw.amount.toNat
  validateInterval sectionName index raw.intervalTicks.toNat
  present resources.byName[raw.resource]?
    (.unknownReference s!"{sectionName}[{index}].resource" raw.resource)

def buildProducer (resources : Interning) (index : Nat) (raw : RawChain) : Loading Producer := do
  let resource ← readChain "producers" resources index raw
  return {
    id := denseId index
    resource
    amount := raw.amount.toNat
    intervalTicks := raw.intervalTicks.toNat }

def buildConsumer (resources : Interning) (index : Nat) (raw : RawChain) : Loading Consumer := do
  let resource ← readChain "consumers" resources index raw
  return {
    id := denseId index
    resource
    amount := raw.amount.toNat
    intervalTicks := raw.intervalTicks.toNat }

/-- Set the stock of the named resources, each at most once. -/
def loadInventory (resources : Interning) : List RawInventory → Std.ExtTreeSet Nat →
    Std.ExtTreeMap ResourceId Nat → Loading (Std.ExtTreeMap ResourceId Nat)
  | [], _, inventory => .ok inventory
  | raw :: rest, seen, inventory => do
      validateInventoryAmount "inventory.amount" raw.amount.toNat
      let resource ← present resources.byName[raw.resource]?
        (.unknownReference "inventory[].resource" raw.resource)
      reject (seen.contains resource) (.duplicateId "inventory" raw.resource)
      loadInventory resources rest (seen.insert resource)
        (inventory.insert resource raw.amount.toNat)

def loadAgent (llmLive : Bool) (entry : RawAgent × Nat) : Loading AgentSpec := do
  let (raw, index) := entry
  validateInterval "agents" index raw.intervalTicks.toNat
  validateAgentKind llmLive index raw.kind
  return {
    kind := raw.kind
    intervalTicks := raw.intervalTicks.toNat
    deadlineTicks := (raw.deadlineTicks.map (·.toNat)).getD defaultLlmDeadlineTicks }

def loadValue (block : Checked RawSl1Scene) : Loading Sl1Scene :=
  match block with
  | .error problem => .error (.sl1 problem)
  | .ok raw =>
    match Sl1.validate raw with
    | .error problem => .error (.sl1 problem)
    | .ok scene => .ok scene

/-- Version, top-level keys, name, theme and section sizes. -/
def checkShape (raw : RawScene) : Loading Theme := do
  reject (raw.schemaVersion.toNat < minSchemaVersion ||
      supportedSchemaVersion < raw.schemaVersion.toNat)
    (.unsupportedVersion raw.schemaVersion.toNat supportedSchemaVersion)
  checkReservedKeys raw.extra
  checkMisspelledKeys raw.extra
  validateName raw.name
  let theme ← validateTheme raw.theme
  checkSectionCap "nodes" raw.pieces.nodes.length
  checkSectionCap "paths" raw.pieces.paths.length
  checkSectionCap "movers" raw.pieces.movers.length
  checkSectionCap "resources" raw.resources.length
  checkSectionCap "inventory" raw.inventory.length
  checkSectionCap "producers" raw.producers.length
  checkSectionCap "consumers" raw.consumers.length
  return theme

/-- `loader::validate`. -/
def validate (llmLive : Bool) (raw : RawScene) : Loading LoadedScene := do
  let theme ← checkShape raw
  let palette := theme.palette.length
  let (nodeIds, nodes) ← loadSection "nodes" (·.id) (buildNode palette) raw.pieces.nodes 0 {} ∅
  let (pathIds, paths) ← loadSection "paths" (·.id) (buildPath nodeIds palette) raw.pieces.paths 0 {} ∅
  let (moverIds, movers) ← loadSection "movers" (·.id) (buildMover pathIds) raw.pieces.movers 0 {} ∅
  let (resourceIds, resources) ←
    loadSection "resources" (·.id) (buildResource palette) raw.resources 0 {} ∅
  let inventory ← loadInventory resourceIds raw.inventory ∅ (resources.map fun _ _ => 0)
  let (producerIds, producers) ←
    loadSection "producers" (·.id) (buildProducer resourceIds) raw.producers 0 {} ∅
  let (consumerIds, consumers) ←
    loadSection "consumers" (·.id) (buildConsumer resourceIds) raw.consumers 0 {} ∅
  let agents ← raw.agents.zipIdx.mapM (loadAgent llmLive)
  let sl1 ← raw.sl1.mapM loadValue
  return {
    name := raw.name
    theme
    goals := raw.goals
    agents
    idMap := ⟨nodeIds, pathIds, moverIds, resourceIds, producerIds, consumerIds⟩
    world := {
      tick := 0
      state := .loaded
      network := { nodes, paths, movers, resources, inventory, producers, consumers }
      sl1
      sl1Runtime := sl1.map Sl1RuntimeState.fromScene }
    sl1 }

end SceneLoader

end Simetro.Engine
