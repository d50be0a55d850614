import Simetro.Headless.Policy
import Simetro.Library.Overlay

/-! What a policy can change of a scene. -/

namespace Simetro.Headless

open Simetro.Library Simetro.Sl1

/-- The overrides that live in the agent's budgets. -/
def budgetKeys : List String := ["cooldown_ticks", "max_cost_per_decision"]

/-- The value has the type and the range its key asks for. -/
def wellTyped (numbers : NumberText) (key : String) (value : Json) : Bool :=
  match key with
  | "interval_ticks" | "cooldown_ticks" | "max_cost_per_decision" => isU64 value
  | "objective_weights" => value.object?.any fun weights =>
      weights.all fun entry => (numbers.asF64? entry.2).any NumberText.isUnit
  | "allowed_actions" => value.array?.isSome
  | _ => false

/-- The agent's budgets, or an empty object to write them to. -/
def budgetsOf (agent : Json.Members) : Option Json.Members :=
  ((agent.lookup "budgets").getD (.object [])).object?

/-- The value of an overridable field of an agent. -/
def overrideValue (key : String) (agent : Json.Members) : Option Json :=
  if budgetKeys.contains key then (agent.lookup "budgets").bind (Json.get? key) else agent.lookup key

def accepts (numbers : NumberText) (agent : Json.Members) (field : String × Json) : Bool :=
  allowedAgentOverrideKeys.contains field.1 && wellTyped numbers field.1 field.2 &&
    (!budgetKeys.contains field.1 || (budgetsOf agent).isSome)

/-- The agent with a field overridden. -/
def overridden (agent : Json.Members) (field : String × Json) : Json.Members :=
  if budgetKeys.contains field.1 then
    Json.insertMember "budgets"
      (.object (Json.insertMember field.1 field.2 ((budgetsOf agent).getD []))) agent
  else if allowedAgentOverrideKeys.contains field.1 then Json.insertMember field.1 field.2 agent
  else agent

/-- What is left of a member when the overridable fields are taken away. Budgets that held
nothing else go with them. -/
def maskMember (entry : String × Json) : Option (String × Json) :=
  if ["interval_ticks", "objective_weights", "allowed_actions"].contains entry.1 then none
  else if entry.1 = "budgets" then
    match entry.2 with
    | .object budgets =>
      match budgets.filter fun budget => !budgetKeys.contains budget.1 with
      | [] => none
      | rest => some (entry.1, .object rest)
    | _ => some entry
  else some entry

def maskAgent : Json → Json
  | .object agent => .object (agent.filterMap maskMember)
  | entry => entry

def changedAgent (fields : List (String × Json)) : Json → Json
  | .object agent => .object (fields.foldl overridden agent)
  | entry => entry

/-- The agents with one agent's overrides. -/
def overlaid (agents : List Json) (override : String × IdMap Json) : List Json :=
  updateFirst (named override.1) (changedAgent override.2.toList) agents

/-- The first entry with the id takes every field. -/
def Accepted (numbers : NumberText) (agents : List Json) (override : String × IdMap Json) : Prop :=
  ∃ agent, agents.find? (named override.1) = some (.object agent) ∧
    ∀ field ∈ override.2.toList, accepts numbers agent field = true

section Fields

variable {numbers : NumberText} {agent : Json.Members} {key id : String} {field : String × Json}

theorem checkWeight_eq_ok {entry : String × Json} {done : Unit} :
    checkWeight numbers id entry = .ok done ↔
      (numbers.asF64? entry.2).any NumberText.isUnit = true := by
  simp only [checkWeight, bind_eq_ok, present_eq_ok, reject_eq_ok, Option.any_eq_true]
  simp

theorem overrideBudget_eq_ok {value : Json} {changed : Json.Members} :
    overrideBudget id key value agent = .ok changed ↔
      isU64 value = true ∧ ∃ budgets, budgetsOf agent = some budgets ∧
        changed = Json.insertMember "budgets" (.object (Json.insertMember key value budgets)) agent := by
  simp only [overrideBudget, requireU64, budgetsOf, bind_eq_ok, reject_eq_ok, present_eq_ok]
  constructor
  · rintro ⟨-, typed, budgets, held, ⟨⟩⟩
    exact ⟨by simpa using typed, budgets, held, rfl⟩
  · rintro ⟨typed, budgets, held, rfl⟩
    exact ⟨(), by simp [typed], budgets, held, rfl⟩

/-- A field is overridden exactly when it is accepted. -/
theorem applyField_eq_ok {changed : Json.Members} :
    applyField numbers id agent field = .ok changed ↔
      accepts numbers agent field = true ∧ changed = overridden agent field := by
  obtain ⟨key, value⟩ := field
  simp only [applyField, bind_eq_ok, reject_eq_ok]
  by_cases allowed : key ∈ allowedAgentOverrideKeys
  · have listed := allowed
    simp only [allowedAgentOverrideKeys, List.mem_cons, List.not_mem_nil, or_false] at allowed
    simp only [List.contains_iff_mem.mpr listed, accepts, overridden, Bool.not_true, true_and,
      exists_const, Bool.true_and, if_true]
    rcases allowed with rfl | rfl | rfl | rfl | rfl
    · simp only [applyOneOverride, requireU64, bind_eq_ok, reject_eq_ok, wellTyped, budgetKeys]
      constructor
      · rintro ⟨-, typed, ⟨⟩⟩
        simpa using typed
      · rintro ⟨typed, rfl⟩
        exact ⟨(), by simpa using typed, by simp [pure, Except.pure]⟩
    · simp only [applyOneOverride, overrideBudget_eq_ok, wellTyped, budgetKeys]
      cases budgetsOf agent <;> simp
    · simp only [applyOneOverride, overrideBudget_eq_ok, wellTyped, budgetKeys]
      cases budgetsOf agent <;> simp
    · simp only [applyOneOverride, bind_eq_ok, present_eq_ok, checkAll_eq_ok, checkWeight_eq_ok,
        wellTyped, budgetKeys]
      constructor
      · rintro ⟨weights, object, -, every, ⟨⟩⟩
        simpa [object] using fun name weight => every (name, weight)
      · rintro ⟨typed, rfl⟩
        obtain ⟨weights, object, every⟩ : ∃ weights, value.object? = some weights ∧
            ∀ name weight, (name, weight) ∈ weights →
              (numbers.asF64? weight).any NumberText.isUnit = true := by
          simpa [Option.any_eq_true] using typed
        exact ⟨weights, object, (), fun entry member => every entry.1 entry.2 member,
          by simp [pure, Except.pure]⟩
    · simp only [applyOneOverride, bind_eq_ok, reject_eq_ok, wellTyped, budgetKeys]
      constructor
      · rintro ⟨-, typed, ⟨⟩⟩
        simpa [Option.isSome_iff_ne_none] using typed
      · rintro ⟨typed, rfl⟩
        exact ⟨(), by simpa [Option.isSome_iff_ne_none] using typed, by simp [pure, Except.pure]⟩
  · simp [accepts, allowed]

theorem ne_of_allowed {name : String} (other : allowedAgentOverrideKeys.contains name = false)
    (allowed : allowedAgentOverrideKeys.contains key = true) : name ≠ key := by
  rintro rfl
  rw [allowed] at other
  exact Bool.noConfusion other

/-- An override touches the budgets or its own key. -/
theorem lookup_overridden {name : String} (own : name ≠ field.1) (budgets : name ≠ "budgets") :
    (overridden agent field).lookup name = agent.lookup name := by
  unfold overridden
  split
  · exact Json.lookup_insertMember_of_ne budgets
  · split
    · exact Json.lookup_insertMember_of_ne own
    · rfl

theorem lookup_budgets_overridden (other : budgetKeys.contains field.1 = false) :
    (overridden agent field).lookup "budgets" = agent.lookup "budgets" := by
  simp only [overridden, other, Bool.false_eq_true, if_false]
  split
  case isTrue allowed => exact Json.lookup_insertMember_of_ne (ne_of_allowed (by decide) allowed)
  case isFalse => rfl

theorem budgetsOf_overridden (accepted : accepts numbers agent field = true) :
    (budgetsOf (overridden agent field)).isSome = (budgetsOf agent).isSome := by
  cases budget : budgetKeys.contains field.1 with
  | true =>
    simp only [accepts, budget, Bool.not_true, Bool.false_or, Bool.and_eq_true] at accepted
    have written : (overridden agent field).lookup "budgets" =
        some (.object (Json.insertMember field.1 field.2 ((budgetsOf agent).getD []))) := by
      simp [overridden, List.contains_iff_mem.mp budget]
    rw [accepted.2, budgetsOf, written]
    rfl
  | false => rw [budgetsOf, lookup_budgets_overridden budget, budgetsOf]

/-- One override does not decide about another. -/
theorem accepts_overridden (accepted : accepts numbers agent field = true)
    (other : String × Json) :
    accepts numbers (overridden agent field) other = accepts numbers agent other := by
  rw [accepts, budgetsOf_overridden accepted, accepts]

theorem overrideValue_overridden (allowed : allowedAgentOverrideKeys.contains field.1 = true) :
    overrideValue field.1 (overridden agent field) = some field.2 := by
  unfold overrideValue overridden
  split <;> simp

theorem overrideValue_overridden_of_ne (allowed : allowedAgentOverrideKeys.contains key = true)
    (different : key ≠ field.1) :
    overrideValue key (overridden agent field) = overrideValue key agent := by
  unfold overrideValue
  split
  case isTrue budget =>
    cases own : budgetKeys.contains field.1 with
    | false => rw [lookup_budgets_overridden own]
    | true =>
      simp only [overridden, own, if_true, Json.lookup_insertMember, Option.bind_some,
        Json.get?_object, Json.lookup_insertMember_of_ne different]
      cases found : agent.lookup "budgets" with
      | none => simp [budgetsOf, found]
      | some json => cases held : json.object? <;> simp [budgetsOf, found, held, Json.get?]
  case isFalse budget =>
    exact lookup_overridden different (ne_of_allowed (by decide) allowed).symm

/-- Overriding a field with the value it has changes nothing. -/
theorem overridden_eq_self (held : overrideValue field.1 agent = some field.2) :
    overridden agent field = agent := by
  unfold overrideValue at held
  unfold overridden
  split
  case isTrue budget =>
    rw [if_pos budget] at held
    obtain ⟨json, found, inner⟩ := Option.bind_eq_some_iff.mp held
    obtain ⟨budgets, object, member⟩ := Option.bind_eq_some_iff.mp inner
    obtain rfl := Json.object?_eq_some.mp object
    rw [budgetsOf, found, Option.getD_some, object, Option.getD_some,
      Json.insertMember_eq_self member]
    exact Json.insertMember_eq_self found
  case isFalse budget =>
    rw [if_neg budget] at held
    split
    · exact Json.insertMember_eq_self held
    · rfl

theorem mask_overridden (accepted : accepts numbers agent field = true) :
    (overridden agent field).filterMap maskMember = agent.filterMap maskMember := by
  cases budget : budgetKeys.contains field.1 with
  | true =>
    simp only [accepts, budget, Bool.not_true, Bool.false_or, Bool.and_eq_true] at accepted
    obtain ⟨budgets, held⟩ := Option.isSome_iff_exists.mp accepted.2
    have rest : (Json.insertMember field.1 field.2 budgets).filter
        (fun budget => !budgetKeys.contains budget.1) =
          budgets.filter fun budget => !budgetKeys.contains budget.1 :=
      Json.filter_insertMember fun value => by rw [budget, Bool.not_true]
    simp only [overridden, budget, if_true, held, Option.getD_some]
    refine Json.filterMap_insertMember (fun old found => ?_) fun absent => ?_
    · have object : old.object? = some budgets := by simpa [budgetsOf, found] using held
      obtain rfl := Json.object?_eq_some.mp object
      simp only [maskMember, rest, if_true]
    · obtain rfl : [] = budgets := by simpa [budgetsOf, absent] using held
      simp only [maskMember, rest]
      rfl
  | false =>
    simp only [overridden, budget, Bool.false_eq_true, if_false]
    split
    case isTrue allowed =>
      have hidden : ∀ value, maskMember (field.1, value) = none := by
        intro value
        have own : field.1 ∈ ["interval_ticks", "objective_weights", "allowed_actions"] := by
          have listed := List.contains_iff_mem.mp allowed
          simp only [allowedAgentOverrideKeys, List.mem_cons, List.not_mem_nil, or_false] at listed
          rcases listed with same | same | same | same | same <;>
            simp_all [budgetKeys]
        rw [maskMember, if_pos (List.contains_iff_mem.mpr own)]
      exact Json.filterMap_insertMember (fun old _ => by rw [hidden, hidden]) fun _ => hidden _
    case isFalse => rfl

variable {fields : List (String × Json)}

theorem applyFields_eq_ok {changed : Json.Members} :
    fields.foldlM (applyField numbers id) agent = .ok changed ↔
      (∀ field ∈ fields, accepts numbers agent field = true) ∧
        changed = fields.foldl overridden agent := by
  refine foldlM_eq_ok (fun agent field next => applyField_eq_ok) ?_
  refine List.pairwise_of_forall fun one other agent accepted => ?_
  rw [accepts_overridden accepted]

theorem accepts_fields (accepted : ∀ field ∈ fields, accepts numbers agent field = true)
    (other : String × Json) :
    accepts numbers (fields.foldl overridden agent) other = accepts numbers agent other := by
  induction fields generalizing agent with
  | nil => rfl
  | cons field rest ih =>
    have first := accepted field (by simp)
    rw [List.foldl_cons, ih, accepts_overridden first]
    intro later member
    rw [accepts_overridden first]
    exact accepted later (by simp [member])

theorem mask_fields (accepted : ∀ field ∈ fields, accepts numbers agent field = true) :
    (fields.foldl overridden agent).filterMap maskMember = agent.filterMap maskMember := by
  induction fields generalizing agent with
  | nil => rfl
  | cons field rest ih =>
    have first := accepted field (by simp)
    rw [List.foldl_cons, ih, mask_overridden first]
    intro other member
    rw [accepts_overridden first]
    exact accepted other (by simp [member])

theorem lookup_id_fields (agent : Json.Members) :
    (fields.foldl overridden agent).lookup "id" = agent.lookup "id" := by
  refine foldl_keeps (fun agent => agent.lookup "id") (fun agent field _ => ?_) agent
  by_cases own : "id" = field.1
  · have foreign : allowedAgentOverrideKeys.contains "id" = false := by decide
    have noBudget : budgetKeys.contains "id" = false := by decide
    simp only [overridden, ← own, foreign, noBudget, Bool.false_eq_true, if_false]
  · exact lookup_overridden own (by decide)

theorem overrideValue_fields (distinct : fields.Pairwise fun one other => one.1 ≠ other.1)
    (accepted : ∀ field ∈ fields, accepts numbers agent field = true) :
    ∀ field ∈ fields, overrideValue field.1 (fields.foldl overridden agent) = some field.2 := by
  have allowed (field : String × Json) (member : field ∈ fields) :
      allowedAgentOverrideKeys.contains field.1 = true := by
    have passed := accepted field member
    simp only [accepts, Bool.and_eq_true] at passed
    exact passed.1.1
  exact foldl_written distinct (fun agent field member => overrideValue_overridden (allowed field member))
    (fun agent field _ other listed different =>
      overrideValue_overridden_of_ne (allowed other listed) different) agent

end Fields

section Agents

variable {numbers : NumberText} {agents : List Json} {id : String}

theorem named_apart {other : String} (different : id ≠ other) (entry : Json)
    (hit : named id entry = true) : named other entry = false := by
  unfold named at hit ⊢
  split at hit
  case h_1 text found =>
    have same : text = id := by simpa using hit
    simpa [same] using different
  case h_2 => exact Bool.noConfusion hit

theorem named_object {entry : Json} (hit : named id entry = true) : ∃ agent, entry = .object agent := by
  cases entry with
  | object agent => exact ⟨agent, rfl⟩
  | _ => simp [named, Json.get?, Json.object?] at hit

theorem named_changedAgent (fields : List (String × Json)) (id : String) (entry : Json) :
    named id (changedAgent fields entry) = named id entry := by
  cases entry with
  | object agent => simp only [named, changedAgent, Json.get?_object, lookup_id_fields]
  | _ => rfl

theorem lookup_id_mask (agent : Json.Members) :
    (agent.filterMap maskMember).lookup "id" = agent.lookup "id" := by
  induction agent with
  | nil => rfl
  | cons entry rest ih =>
    rw [List.filterMap_cons]
    by_cases own : entry.1 = "id"
    · have kept : maskMember entry = some entry := by simp [maskMember, own]
      simp [kept, Json.lookup_of_eq own]
    · cases masked : maskMember entry with
      | none => simp [Json.lookup_of_ne own, ih]
      | some left =>
        have name : left.1 = entry.1 := by
          unfold maskMember at masked
          split at masked
          · cases masked
          · split at masked
            · split at masked
              · split at masked
                · cases masked
                · cases masked
                  rfl
              · cases masked
                rfl
            · cases masked
              rfl
        have otherName : left.1 ≠ "id" := fun same => own (name.symm.trans same)
        simp [Json.lookup_of_ne own, Json.lookup_of_ne otherName, ih]

theorem named_maskAgent (id : String) (entry : Json) : named id (maskAgent entry) = named id entry := by
  cases entry with
  | object agent => simp only [named, maskAgent, Json.get?_object, lookup_id_mask]
  | _ => rfl

theorem applyAgent_eq_ok {override : String × IdMap Json} {changed : List Json} :
    applyAgent numbers agents override = .ok changed ↔
      Accepted numbers agents override ∧ changed = overlaid agents override := by
  simp only [applyAgent, Accepted, bind_eq_ok, present_eq_ok, applyFields_eq_ok,
    Json.object?_eq_some]
  have written {agent : Json.Members} (found : agents.find? (named override.1) = some (.object agent)) :
      updateFirst (named override.1) (fun _ => .object (override.2.toList.foldl overridden agent))
        agents = overlaid agents override := by
    refine updateFirst_congr fun entry sought => ?_
    obtain rfl := Option.some.inj (found.symm.trans sought)
    rfl
  constructor
  · rintro ⟨_, found, agent, rfl, _, ⟨accepted, rfl⟩, ⟨⟩⟩
    exact ⟨⟨agent, found, accepted⟩, written found⟩
  · rintro ⟨⟨agent, found, accepted⟩, rfl⟩
    exact ⟨_, found, agent, rfl, _, ⟨accepted, rfl⟩, congrArg Except.ok (written found)⟩

theorem find?_overlaid_of_ne {override : String × IdMap Json} (different : id ≠ override.1) :
    (overlaid agents override).find? (named id) = agents.find? (named id) :=
  find?_updateFirst_other (named_apart different.symm) (named_changedAgent _ _) agents

theorem overlaid_comm {one other : String × IdMap Json} (different : one.1 ≠ other.1) :
    overlaid (overlaid agents one) other = overlaid (overlaid agents other) one :=
  updateFirst_comm (named_apart different) (named_changedAgent _ _) (named_changedAgent _ _) agents

/-- Distinct agents are overridden without regard to each other. -/
theorem applyAgents_eq_ok {overrides : List (String × IdMap Json)}
    (distinct : overrides.Pairwise fun one other => one.1 ≠ other.1) {changed : List Json} :
    overrides.foldlM (applyAgent numbers) agents = .ok changed ↔
      (∀ override ∈ overrides, Accepted numbers agents override) ∧
        changed = overrides.foldl overlaid agents := by
  refine foldlM_eq_ok (fun agents override next => applyAgent_eq_ok) (distinct.imp ?_)
  intro one other different agents _
  rw [Accepted, find?_overlaid_of_ne different.symm, Accepted]

/-- The agents with the overridable fields of one of them taken away. -/
def maskNamed (agents : List Json) (override : String × IdMap Json) : List Json :=
  updateFirst (named override.1) maskAgent agents

theorem mask_overrides {overrides : List (String × IdMap Json)}
    (distinct : overrides.Pairwise fun one other => one.1 ≠ other.1)
    (accepted : ∀ override ∈ overrides, Accepted numbers agents override) :
    overrides.foldl maskNamed (overrides.foldl overlaid agents) = overrides.foldl maskNamed agents := by
  refine foldl_mask (fun agents override accepted => ?_) (distinct.imp ?_) accepted
  · obtain ⟨agent, found, fields⟩ := accepted
    rw [maskNamed, overlaid, updateFirst_updateFirst (named_changedAgent _ _), maskNamed]
    refine updateFirst_congr fun entry sought => ?_
    obtain rfl := Option.some.inj (found.symm.trans sought)
    simp only [changedAgent, maskAgent, mask_fields fields]
  · intro one other different agents
    refine ⟨updateFirst_comm (named_apart different.symm) (named_changedAgent _ _)
      (named_maskAgent _) agents, ?_⟩
    rintro ⟨agent, found, fields⟩
    refine ⟨agent, ?_, fields⟩
    rwa [maskNamed, find?_updateFirst_other (named_apart different) (named_maskAgent _)]

theorem ids_overrides (overrides : List (String × IdMap Json)) (agents : List Json) :
    (overrides.foldl overlaid agents).map (Json.get? "id") = agents.map (Json.get? "id") := by
  refine foldl_keeps (fun agents => agents.map (Json.get? "id")) (fun agents override _ => ?_) agents
  refine map_updateFirst (fun entry => ?_) agents
  cases entry with
  | object agent => simp only [changedAgent, Json.get?_object, lookup_id_fields]
  | _ => rfl

theorem distinct_keys {Value : Type} (map : IdMap Value) :
    map.toList.Pairwise fun one other => one.1 ≠ other.1 :=
  Std.ExtTreeMap.distinct_keys_toList.imp fun apart same => apart (by simp [same])

/-- An agent that is not overridden is found as it was. -/
theorem find?_overrides_of_absent {overrides : List (String × IdMap Json)}
    (absent : ∀ override ∈ overrides, id ≠ override.1) (agents : List Json) :
    (overrides.foldl overlaid agents).find? (named id) = agents.find? (named id) :=
  foldl_keeps (fun agents : List Json => agents.find? (named id))
    (fun _ override listed => find?_overlaid_of_ne (absent override listed)) agents

/-- An agent that is overridden is found with its overrides. -/
theorem find?_overrides {overrides : List (String × IdMap Json)}
    (distinct : overrides.Pairwise fun one other => one.1 ≠ other.1)
    {override : String × IdMap Json} (listed : override ∈ overrides) (agents : List Json) :
    (overrides.foldl overlaid agents).find? (named override.1) =
      (agents.find? (named override.1)).map (changedAgent override.2.toList) := by
  induction overrides generalizing agents with
  | nil => simp at listed
  | cons head rest ih =>
    obtain ⟨apart, distinct⟩ := List.pairwise_cons.mp distinct
    rw [List.foldl_cons]
    rcases List.mem_cons.mp listed with rfl | listed
    · rw [find?_overrides_of_absent apart, overlaid, find?_updateFirst_self (named_changedAgent _ _)]
    · rw [ih distinct listed, find?_overlaid_of_ne (apart override listed).symm]

theorem changedAgent_again {agent : Json.Members} {fields : IdMap Json}
    (accepted : ∀ field ∈ fields.toList, accepts numbers agent field = true) :
    changedAgent fields.toList (.object (fields.toList.foldl overridden agent)) =
      .object (fields.toList.foldl overridden agent) := by
  have held := overrideValue_fields (distinct_keys fields) accepted
  exact congrArg Json.object (foldl_same fun field listed => overridden_eq_self (held field listed))

end Agents

/-- The agents block of a scene. -/
def agentsOf (scene : Json) : Option (List Json) := do
  let root ← scene.object?
  let sl1 ← (root.lookup "scenario_language_v1").bind Json.object?
  (sl1.lookup "agents").bind Json.array?

/-- The scene with another agents block. -/
def withAgents (agents : List Json) (scene : Json) : Json :=
  let root := scene.object?.getD []
  let sl1 := ((root.lookup "scenario_language_v1").bind Json.object?).getD []
  .object (Json.setMember "scenario_language_v1"
    (.object (Json.setMember "agents" (.array agents) sl1)) root)

section Scenes

variable {numbers : NumberText} {scene : Json} {agents : List Json} {policy : Policy}

theorem agentsOf_withAgents (held : agentsOf scene = some agents) (others : List Json) :
    agentsOf (withAgents others scene) = some others := by
  simp only [agentsOf, Option.bind_eq_bind, Option.bind_eq_some_iff, Json.object?_eq_some,
    Json.array?_eq_some] at held
  obtain ⟨root, rfl, _, ⟨_, inRoot, rfl⟩, _, inSl1, rfl⟩ := held
  simp [agentsOf, withAgents, inRoot, Json.lookup_setMember inRoot, Json.lookup_setMember inSl1]

theorem withAgents_withAgents (held : agentsOf scene = some agents) (first second : List Json) :
    withAgents second (withAgents first scene) = withAgents second scene := by
  simp only [agentsOf, Option.bind_eq_bind, Option.bind_eq_some_iff, Json.object?_eq_some,
    Json.array?_eq_some] at held
  obtain ⟨root, rfl, _, ⟨_, inRoot, rfl⟩, _, inSl1, rfl⟩ := held
  simp [withAgents, inRoot, Json.lookup_setMember inRoot, Json.setMember_setMember]

theorem applyPolicy_eq_ok {result : Json} : applyPolicy numbers scene policy = .ok result ↔
    ∃ agents, agentsOf scene = some agents ∧
      (∀ override ∈ policy.overrides.agents.toList, Accepted numbers agents override) ∧
      result = withAgents (policy.overrides.agents.toList.foldl overlaid agents) scene := by
  simp only [applyPolicy, bind_eq_ok, present_eq_ok, applyAgents_eq_ok (distinct_keys _), agentsOf,
    Option.bind_eq_bind]
  constructor
  · rintro ⟨root, isObject, sl1, inRoot, agents, inSl1, _, ⟨accepted, rfl⟩, ⟨⟩⟩
    refine ⟨agents, by simp [isObject, inRoot, inSl1], accepted, ?_⟩
    simp only [withAgents, isObject, inRoot, Option.getD_some]
  · rintro ⟨agents, held, accepted, rfl⟩
    obtain ⟨root, isObject, held⟩ := Option.bind_eq_some_iff.mp held
    obtain ⟨sl1, inRoot, inSl1⟩ := Option.bind_eq_some_iff.mp held
    refine ⟨root, isObject, sl1, inRoot, agents, inSl1, _, ⟨accepted, rfl⟩, ?_⟩
    simp only [withAgents, isObject, inRoot, Option.getD_some]
    rfl

/-- The policy names the agent. -/
def Policy.names (policy : Policy) (id : String) : Prop := id ∈ policy.overrides.agents

/-- The scene with the overridable fields taken from the agents the policy names. -/
def maskScene (policy : Policy) (scene : Json) : Json :=
  match agentsOf scene with
  | none => scene
  | some agents => withAgents (policy.overrides.agents.toList.foldl maskNamed agents) scene

/-- One agent's overrides do not apply to the agents of the scene: there is no such agent, or
a key or a value is refused. -/
def Refused (numbers : NumberText) (agents : List Json) (id : String) (fields : IdMap Json) : Prop :=
  agents.find? (named id) = none ∨
    ∃ key value, fields[key]? = some value ∧
      (key ∉ allowedAgentOverrideKeys ∨ wellTyped numbers key value = false ∨
        key ∈ budgetKeys ∧ ∃ entry budgets, agents.find? (named id) = some entry ∧
          entry.get? "budgets" = some budgets ∧ budgets.object? = none)

theorem budgetsOf_eq_none {agent : Json.Members} : budgetsOf agent = none ↔
    ∃ budgets, agent.lookup "budgets" = some budgets ∧ budgets.object? = none := by
  unfold budgetsOf
  cases agent.lookup "budgets" <;> simp

theorem accepts_eq_false {agent : Json.Members} {field : String × Json} :
    accepts numbers agent field = false ↔
      field.1 ∉ allowedAgentOverrideKeys ∨ wellTyped numbers field.1 field.2 = false ∨
        field.1 ∈ budgetKeys ∧ budgetsOf agent = none := by
  rw [accepts, Bool.and_eq_false_iff, Bool.and_eq_false_iff, Bool.or_eq_false_iff, or_assoc]
  simp

theorem not_accepted_iff {override : String × IdMap Json} :
    ¬ Accepted numbers agents override ↔ Refused numbers agents override.1 override.2 := by
  cases found : agents.find? (named override.1) with
  | none => simp [Accepted, Refused, found]
  | some entry =>
    obtain ⟨agent, rfl⟩ := named_object (List.find?_some found)
    have fields : Accepted numbers agents override ↔
        ∀ field ∈ override.2.toList, accepts numbers agent field = true := by
      simp [Accepted, found]
    rw [fields, Refused, found]
    constructor
    · intro refused
      simp only [not_forall, Bool.not_eq_true] at refused
      obtain ⟨⟨key, value⟩, listed, refused⟩ := refused
      refine .inr ⟨key, value, Std.ExtTreeMap.mem_toList_iff_getElem?_eq_some.mp listed, ?_⟩
      rcases accepts_eq_false.mp refused with foreign | illTyped | ⟨budget, taken⟩
      · exact .inl foreign
      · exact .inr (.inl illTyped)
      · obtain ⟨budgets, held, other⟩ := budgetsOf_eq_none.mp taken
        exact .inr (.inr ⟨budget, _, budgets, rfl, held, other⟩)
    · rintro (missing | ⟨key, value, held, refused⟩) accepted
      · cases missing
      · have passed := accepted (key, value) (Std.ExtTreeMap.mem_toList_iff_getElem?_eq_some.mpr held)
        have failed : accepts numbers agent (key, value) = false := by
          refine accepts_eq_false.mpr ?_
          rcases refused with foreign | illTyped | ⟨budget, _, budgets, ⟨⟩, held, other⟩
          · exact .inl foreign
          · exact .inr (.inl illTyped)
          · exact .inr (.inr ⟨budget, budgetsOf_eq_none.mpr ⟨budgets, held, other⟩⟩)
        rw [passed] at failed
        exact Bool.noConfusion failed

/-- What laying a policy over a scene comes to. -/
structure Overlay (numbers : NumberText) (scene : Json) (policy : Policy) : Prop where
  /-- Nothing but the overridable fields of the named agents changes. -/
  frame : ∀ result, applyPolicy numbers scene policy = .ok result →
    maskScene policy result = maskScene policy scene
  ids : ∀ result, applyPolicy numbers scene policy = .ok result →
    (agentsOf result).map (List.map (Json.get? "id")) =
      (agentsOf scene).map (List.map (Json.get? "id"))
  written : ∀ result, applyPolicy numbers scene policy = .ok result →
    ∀ id fields, policy.overrides.agents[id]? = some fields →
      ∃ agent, ((agentsOf result).bind fun agents => agents.find? (named id)) = some (.object agent) ∧
        ∀ key value, fields[key]? = some value → overrideValue key agent = some value
  again : ∀ result, applyPolicy numbers scene policy = .ok result →
    applyPolicy numbers result policy = .ok result
  commutes : ∀ other : Policy, (∀ id, policy.names id → ¬ other.names id) → ∀ result,
    (applyPolicy numbers scene policy >>= fun scene => applyPolicy numbers scene other) = .ok result ↔
      (applyPolicy numbers scene other >>= fun scene => applyPolicy numbers scene policy) = .ok result
  fails : (∃ error, applyPolicy numbers scene policy = .error error) ↔
    agentsOf scene = none ∨ ∃ agents, agentsOf scene = some agents ∧
      ∃ id fields, policy.overrides.agents[id]? = some fields ∧ Refused numbers agents id fields

theorem applyPolicy_frame {result : Json} (applied : applyPolicy numbers scene policy = .ok result) :
    maskScene policy result = maskScene policy scene := by
  obtain ⟨agents, held, accepted, rfl⟩ := applyPolicy_eq_ok.mp applied
  rw [maskScene, agentsOf_withAgents held, maskScene, held]
  simp only [withAgents_withAgents held, mask_overrides (distinct_keys _) accepted]

theorem applyPolicy_ids {result : Json} (applied : applyPolicy numbers scene policy = .ok result) :
    (agentsOf result).map (List.map (Json.get? "id")) =
      (agentsOf scene).map (List.map (Json.get? "id")) := by
  obtain ⟨agents, held, accepted, rfl⟩ := applyPolicy_eq_ok.mp applied
  rw [agentsOf_withAgents held, held, Option.map_some, Option.map_some, ids_overrides]

theorem applyPolicy_written {result : Json} (applied : applyPolicy numbers scene policy = .ok result)
    {id : String} {fields : IdMap Json} (overrides : policy.overrides.agents[id]? = some fields) :
    ∃ agent, ((agentsOf result).bind fun agents => agents.find? (named id)) = some (.object agent) ∧
      ∀ key value, fields[key]? = some value → overrideValue key agent = some value := by
  obtain ⟨agents, held, accepted, rfl⟩ := applyPolicy_eq_ok.mp applied
  have listed := Std.ExtTreeMap.mem_toList_iff_getElem?_eq_some.mpr overrides
  obtain ⟨agent, found, passed⟩ := accepted _ listed
  have changed := find?_overrides (distinct_keys _) listed agents
  rw [found] at changed
  refine ⟨fields.toList.foldl overridden agent, ?_, fun key value written => ?_⟩
  · rw [agentsOf_withAgents held]
    exact changed
  · exact overrideValue_fields (distinct_keys fields) passed _
      (Std.ExtTreeMap.mem_toList_iff_getElem?_eq_some.mpr written)

theorem applyPolicy_again {result : Json} (applied : applyPolicy numbers scene policy = .ok result) :
    applyPolicy numbers result policy = .ok result := by
  obtain ⟨agents, held, accepted, rfl⟩ := applyPolicy_eq_ok.mp applied
  have found (override : String × IdMap Json) (listed : override ∈ policy.overrides.agents.toList) :
      ∃ agent, (policy.overrides.agents.toList.foldl overlaid agents).find? (named override.1) =
        some (.object (override.2.toList.foldl overridden agent)) ∧
          ∀ field ∈ override.2.toList, accepts numbers agent field = true := by
    obtain ⟨agent, found, passed⟩ := accepted override listed
    refine ⟨agent, ?_, passed⟩
    rw [find?_overrides (distinct_keys _) listed, found]
    rfl
  refine applyPolicy_eq_ok.mpr ⟨_, agentsOf_withAgents held _, fun override listed => ?_, ?_⟩
  · obtain ⟨agent, found, passed⟩ := found override listed
    exact ⟨_, found, fun field member => (accepts_fields passed field).trans (passed field member)⟩
  · have settled : ∀ override ∈ policy.overrides.agents.toList,
        overlaid (policy.overrides.agents.toList.foldl overlaid agents) override =
          policy.overrides.agents.toList.foldl overlaid agents := by
      intro override listed
      obtain ⟨agent, found, passed⟩ := found override listed
      refine (updateFirst_congr fun entry sought => ?_).trans (updateFirst_same _)
      obtain rfl := Option.some.inj (found.symm.trans sought)
      exact changedAgent_again passed
    rw [withAgents_withAgents held, foldl_same settled]

theorem applyPolicy_swap {other : Policy} (apart : ∀ id, policy.names id → ¬ other.names id)
    {result : Json} (applied : (applyPolicy numbers scene policy >>= fun scene =>
      applyPolicy numbers scene other) = .ok result) :
    (applyPolicy numbers scene other >>= fun scene => applyPolicy numbers scene policy) = .ok result := by
  obtain ⟨middle, first, second⟩ := bind_eq_ok.mp applied
  obtain ⟨agents, held, accepted, rfl⟩ := applyPolicy_eq_ok.mp first
  obtain ⟨_, heldToo, acceptedToo, rfl⟩ := applyPolicy_eq_ok.mp second
  obtain rfl := Option.some.inj ((agentsOf_withAgents held _).symm.trans heldToo)
  have different (one : String × IdMap Json) (listed : one ∈ policy.overrides.agents.toList)
      (two : String × IdMap Json) (listedToo : two ∈ other.overrides.agents.toList) :
      one.1 ≠ two.1 := by
    intro same
    have named := Std.ExtTreeMap.mem_toList_iff_getElem?_eq_some.mp listed
    have namedToo := Std.ExtTreeMap.mem_toList_iff_getElem?_eq_some.mp listedToo
    refine apart one.1 ?_ ?_
    · exact Std.ExtTreeMap.mem_iff_isSome_getElem?.mpr (by simp [named])
    · exact Std.ExtTreeMap.mem_iff_isSome_getElem?.mpr (by simp [same, namedToo])
  refine bind_eq_ok.mpr ⟨_, applyPolicy_eq_ok.mpr ⟨agents, held, fun two listedToo => ?_, rfl⟩,
    applyPolicy_eq_ok.mpr ⟨_, agentsOf_withAgents held _, fun one listed => ?_, ?_⟩⟩
  · obtain ⟨agent, found, passed⟩ := acceptedToo two listedToo
    rw [find?_overrides_of_absent fun one listed => (different one listed two listedToo).symm] at found
    exact ⟨agent, found, passed⟩
  · obtain ⟨agent, found, passed⟩ := accepted one listed
    refine ⟨agent, ?_, passed⟩
    rwa [find?_overrides_of_absent fun two listedToo => different one listed two listedToo]
  · rw [withAgents_withAgents held, withAgents_withAgents held]
    refine congrArg (withAgents · scene) ?_
    have past (two : String × IdMap Json) (listedToo : two ∈ other.overrides.agents.toList)
        (agents : List Json) : overlaid (policy.overrides.agents.toList.foldl overlaid agents) two =
          policy.overrides.agents.toList.foldl overlaid (overlaid agents two) :=
      @foldl_through _ _ overlaid (fun agents => overlaid agents two) _
        (fun one listed agents => overlaid_comm (different one listed two listedToo)) agents
    exact (@foldl_through _ _ overlaid
      (fun agents => policy.overrides.agents.toList.foldl overlaid agents) _
      (fun two listedToo agents => (past two listedToo agents).symm) agents).symm

theorem applyPolicy_fails : (∃ error, applyPolicy numbers scene policy = .error error) ↔
    agentsOf scene = none ∨ ∃ agents, agentsOf scene = some agents ∧
      ∃ id fields, policy.overrides.agents[id]? = some fields ∧ Refused numbers agents id fields := by
  have failed : (∃ error, applyPolicy numbers scene policy = .error error) ↔
      ¬ ∃ result, applyPolicy numbers scene policy = .ok result := by
    cases applyPolicy numbers scene policy <;> simp
  rw [failed]
  cases held : agentsOf scene with
  | none => simp [applyPolicy_eq_ok, held]
  | some agents =>
    have succeeds : (∃ result, applyPolicy numbers scene policy = .ok result) ↔
        ∀ override ∈ policy.overrides.agents.toList, Accepted numbers agents override := by
      simp [applyPolicy_eq_ok, held]
    rw [succeeds]
    constructor
    · intro refused
      obtain ⟨override, refused⟩ := not_forall.mp refused
      obtain ⟨listed, refused⟩ := Classical.not_imp.mp refused
      exact .inr ⟨agents, rfl, override.1, override.2,
        Std.ExtTreeMap.mem_toList_iff_getElem?_eq_some.mp listed, not_accepted_iff.mp refused⟩
    · rintro (⟨⟨⟩⟩ | ⟨_, ⟨⟩, id, fields, overrides, refused⟩) accepted
      exact not_accepted_iff.mpr refused
        (accepted (id, fields) (Std.ExtTreeMap.mem_toList_iff_getElem?_eq_some.mpr overrides))

/-- A policy that applies changes the overridable fields of the agents it names and nothing else. -/
theorem applyPolicy_overlay (numbers : NumberText) (scene : Json) (policy : Policy) :
    Overlay numbers scene policy where
  frame _ := applyPolicy_frame
  ids _ := applyPolicy_ids
  written _ applied _ _ := applyPolicy_written applied
  again _ := applyPolicy_again
  commutes _ apart _ := ⟨applyPolicy_swap apart,
    applyPolicy_swap fun id named namedToo => apart id namedToo named⟩
  fails := applyPolicy_fails

/-- A scene without an agents block takes no policy, not even one that overrides nothing. -/
theorem empty_policy_refused :
    applyPolicy ⟨fun _ => F64Bits.zero⟩ (.object []) ⟨"baseline", "", {}⟩ = .error .noAgentsBlock ∧
      ¬ ∃ id, Policy.names ⟨"baseline", "", {}⟩ id := by
  refine ⟨rfl, ?_⟩
  rintro ⟨id, named⟩
  exact Std.ExtTreeMap.not_mem_empty named

end Scenes

end Simetro.Headless
