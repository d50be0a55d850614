import Simetro.Library.Binary64
import Simetro.Library.Checks
import Simetro.Library.JsonObject
import Simetro.Sl1.Scene

/-! Policy artifacts and how one is laid over the JSON of a scene. -/

namespace Simetro.Headless

open Simetro.Library Simetro.Sl1

def allowedAgentOverrideKeys : List String :=
  ["interval_ticks", "cooldown_ticks", "max_cost_per_decision", "objective_weights",
    "allowed_actions"]

/-- Agent ids and, for each, override keys and values. -/
structure PolicyOverrides where
  agents : IdMap (IdMap Json) := ∅

structure Policy where
  name : String
  description : String := ""
  overrides : PolicyOverrides

/-- The errors of applying an artifact; the rendered texts are left out. -/
inductive PolicyApplyError where
  | unknownAgent (agentId : String)
  | unsupportedOverrideKey (agentId key : String) (allowed : List String)
  | noAgentsBlock
  | sceneNotObject
  | invalidObjectiveWeight (agentId objective : String)
  | invalidOverrideValueType (agentId key : String)

abbrev Applying := Except PolicyApplyError

/-- How the JSON library reads the literal of a number as a double. -/
structure NumberText where
  asF64 : String → F64Bits

namespace NumberText

variable (numbers : NumberText)

def asF64? : Json → Option F64Bits
  | .number literal => some (numbers.asF64 literal)
  | _ => none

/-- `(0.0..=1.0).contains` -/
def isUnit (value : F64Bits) : Bool := F64Bits.zero.le value && value.le F64Bits.one

end NumberText

def isU64 (value : Json) : Bool := (value.below? (2 ^ 64)).isSome

def requireU64 (agentId key : String) (value : Json) : Applying Unit :=
  reject (!isU64 value) (.invalidOverrideValueType agentId key)

def checkWeight (numbers : NumberText) (agentId : String) (entry : String × Json) : Applying Unit := do
  let weight ← present (numbers.asF64? entry.2) (.invalidObjectiveWeight agentId entry.1)
  reject (!NumberText.isUnit weight) (.invalidObjectiveWeight agentId entry.1)

/-- The overrides that are written into the agent's budgets, created on demand. -/
def overrideBudget (agentId key : String) (value : Json) (agent : Json.Members) :
    Applying Json.Members := do
  requireU64 agentId key value
  let budgets ← present ((agent.lookup "budgets").getD (.object [])).object?
    (.invalidOverrideValueType agentId "budgets")
  return Json.insertMember "budgets" (.object (Json.insertMember key value budgets)) agent

def applyOneOverride (numbers : NumberText) (agentId : String) (agent : Json.Members) (key : String)
    (value : Json) : Applying Json.Members :=
  match key with
  | "interval_ticks" => do
      requireU64 agentId key value
      return Json.insertMember "interval_ticks" value agent
  | "cooldown_ticks" | "max_cost_per_decision" => overrideBudget agentId key value agent
  | "objective_weights" => do
      let weights ← present value.object? (.invalidOverrideValueType agentId key)
      checkAll (checkWeight numbers agentId) weights
      return Json.insertMember "objective_weights" value agent
  | "allowed_actions" => do
      reject (value.array?.isNone) (.invalidOverrideValueType agentId key)
      return Json.insertMember "allowed_actions" value agent
  -- no other key passes the check before the call
  | _ => .ok agent

/-- One field of the overrides of an agent. -/
def applyField (numbers : NumberText) (agentId : String) (agent : Json.Members)
    (field : String × Json) : Applying Json.Members := do
  reject (!allowedAgentOverrideKeys.contains field.1)
    (.unsupportedOverrideKey agentId field.1 allowedAgentOverrideKeys)
  applyOneOverride numbers agentId agent field.1 field.2

/-- The entry's `id` is this one. -/
def named (id : String) (entry : Json) : Bool :=
  match (entry.get? "id").bind Json.text? with
  | some text => text == id
  | none => false

/-- The overrides of one agent, on the first entry with its id. -/
def applyAgent (numbers : NumberText) (agents : List Json) (override : String × IdMap Json) :
    Applying (List Json) := do
  let entry ← present (agents.find? (named override.1)) (.unknownAgent override.1)
  let agent ← present entry.object? (.invalidOverrideValueType override.1 "<agent root>")
  let changed ← override.2.toList.foldlM (applyField numbers override.1) agent
  return updateFirst (named override.1) (fun _ => .object changed) agents

def applyPolicy (numbers : NumberText) (scene : Json) (policy : Policy) : Applying Json := do
  let root ← present scene.object? .sceneNotObject
  let sl1 ← present ((root.lookup "scenario_language_v1").bind Json.object?) .noAgentsBlock
  let agents ← present ((sl1.lookup "agents").bind Json.array?) .noAgentsBlock
  let changed ← policy.overrides.agents.toList.foldlM (applyAgent numbers) agents
  return .object (Json.setMember "scenario_language_v1"
    (.object (Json.setMember "agents" (.array changed) sl1)) root)

end Simetro.Headless
