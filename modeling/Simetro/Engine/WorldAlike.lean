import Simetro.Engine.WorldHash
import Simetro.Engine.WorldRuns

/-! Worlds of the same bytes in which no action can tell the names of the resources apart.
Every step answers alike on both and leaves them so. -/

namespace Simetro.Engine

open Simetro.Library Simetro.Protocol Simetro.Sl1

/-! ## What movement leaves alone -/

/-- The part of a network that no mover touches. -/
structure Economy where
  resources : Std.ExtTreeMap ResourceId Resource
  inventory : Std.ExtTreeMap ResourceId Nat
  producers : Std.ExtTreeMap ProducerId Producer
  consumers : Std.ExtTreeMap ConsumerId Consumer

def Transit.economy (transit : Transit) : Economy :=
  ⟨transit.resources, transit.inventory, transit.producers, transit.consumers⟩

/-- The network with another economy. -/
def Transit.endow (economy : Economy) (transit : Transit) : Transit :=
  { transit with
    resources := economy.resources
    inventory := economy.inventory
    producers := economy.producers
    consumers := economy.consumers }

@[simp] theorem Transit.economy_endow (economy : Economy) (transit : Transit) :
    (transit.endow economy).economy = economy := rfl

@[simp] theorem Transit.endow_economy (transit : Transit) : transit.endow transit.economy = transit := rfl

section Endowed

variable (economy : Economy) (transit : Transit)

/-- A network and the events so far, with another economy. -/
def endowPair (now : Transit × List SimEvent) : Transit × List SimEvent :=
  (now.1.endow economy, now.2)

theorem Lifecycle.run_endow :
    Lifecycle.run (transit.endow economy) = endowPair economy (Lifecycle.run transit) := by
  have one (now : Transit × List SimEvent) (spawn : Spawn) :
      spawnOne (endowPair economy now) spawn = endowPair economy (spawnOne now spawn) := by
    simp only [spawnOne, endowPair, Transit.endow]
    split
    · rfl
    · split
      · rfl
      · split <;> rfl
  show (spawns transit).foldl spawnOne (endowPair economy (transit, [])) = _
  exact List.foldl_hom (endowPair economy) one

theorem Movement.run_endow : Movement.run (transit.endow economy) =
    { Movement.run transit with transit := (Movement.run transit).transit.endow economy } := by
  let endowed (now : Arrived) : Arrived := { now with transit := now.transit.endow economy }
  have one (now : Arrived) (arrival : MoverId × PathId) :
      arriveOne (endowed now) arrival = endowed (arriveOne now arrival) := by
    simp only [arriveOne, endowed, Transit.endow]
    split
    · split <;> rfl
    · rfl
  show (arrivals transit).foldl arriveOne (endowed { transit := advanceAll transit }) = _
  exact List.foldl_hom endowed one

theorem Interaction.run_endow :
    Interaction.run (transit.endow economy) = endowPair economy (Interaction.run transit) := by
  have one (now : Transit × List SimEvent) (route : Route) :
      departOne (endowPair economy now) route = endowPair economy (departOne now route) := by
    simp only [departOne, endowPair, Transit.endow]
    split
    · rfl
    · split <;> rfl
  show (routes transit).foldl departOne (endowPair economy (transit, [])) = _
  exact List.foldl_hom (endowPair economy) one

end Endowed

namespace Actions

variable (economy : Economy) (display : Float32 → String) (transit : Transit)

/-- What an attempt answers, with another economy where it changes the network. -/
def endowAnswer (answer : Option (Transit × List SimEvent)) :
    Option (Transit × List SimEvent) := answer.map (endowPair economy)

/-- An action on pieces or movers neither reads nor changes the economy. -/
def OnPieces : Action → Prop
  | .defineResource .. | .addProducer .. | .addConsumer .. => False
  | _ => True

theorem attempt_endow {action : Action} (pieces : OnPieces action) :
    attempt display (transit.endow economy) action =
      endowAnswer economy <$> attempt display transit action := by
  cases action with
  | noOp => rfl
  | setSpeed mover speed =>
    simp only [attempt, setSpeed, map_bind]
    congr 1
    funext _
    congr 1
    funext found
    split <;> rfl
  | placePiece pieceKind pos =>
    simp only [attempt, placePiece, map_bind]
    rfl
  | connectPieces source target =>
    simp only [attempt, connectPieces, map_bind]
    rfl
  | removePiece id =>
    simp only [attempt, removePiece, map_bind]
    congr 1
    funext _
    simp only [incidentPaths, Transit.endow]
    split <;> rfl
  | setGoal goal =>
    simp only [attempt, setGoal]
    split <;> rfl
  | defineResource name color => exact pieces.elim
  | addProducer name amount intervalTicks => exact pieces.elim
  | addConsumer name amount intervalTicks => exact pieces.elim

end Actions

/-! ## Names -/

def Transit.nameOf (transit : Transit) (id : ResourceId) : Option String :=
  transit.resources[id]?.map Resource.name

/-- The names of the resources, as far as an action can still tell them: while there is
room for a producer or a consumer, which resource has which name; while there is room for a
resource, which of the names it may take are taken. -/
structure NamesAlike (first second : Transit) : Prop where
  named : (Actions.nextProducerId first).isSome ∨ (Actions.nextConsumerId first).isSome →
    ∀ id, first.nameOf id = second.nameOf id
  taken : (Actions.nextResourceId first).isSome → ∀ name,
    Actions.validateResourceName name = .ok () →
      ((∃ id, first.nameOf id = some name) ↔ ∃ id, second.nameOf id = some name)

theorem Transit.nameOf_eq_some {transit : Transit} {id : ResourceId} {name : String} :
    transit.nameOf id = some name ↔
      ∃ resource, transit.resources[id]? = some resource ∧ resource.name = name :=
  Option.map_eq_some_iff

theorem Transit.Intact.resourceIdByName_eq_some {transit : Transit} (intact : transit.Intact)
    {name : String} {id : ResourceId} :
    transit.resourceIdByName name = some id ↔ transit.nameOf id = some name := by
  rw [Transit.nameOf_eq_some]
  constructor
  · intro found
    obtain ⟨⟨key, resource⟩, located, rfl⟩ := Option.map_eq_some_iff.mp found
    have listed := Std.ExtTreeMap.mem_toList_iff_getElem?_eq_some.mp
      (List.mem_of_find?_eq_some located)
    have own : resource.id = key := intact.resources key resource listed
    subst own
    exact ⟨resource, listed, by simpa using List.find?_some located⟩
  · rintro ⟨resource, found, rfl⟩
    have listed := Std.ExtTreeMap.mem_toList_iff_getElem?_eq_some.mpr found
    obtain ⟨⟨key, other⟩, located⟩ := Option.isSome_iff_exists.mp
      ((List.find?_isSome (p := fun row : ResourceId × Resource => row.2.name = resource.name)).mpr
        ⟨(id, resource), listed, decide_eq_true rfl⟩)
    have there := Std.ExtTreeMap.mem_toList_iff_getElem?_eq_some.mp
      (List.mem_of_find?_eq_some located)
    have same : other.name = resource.name := by simpa using List.find?_some located
    have keys : key = id := intact.names key id other resource there found same
    subst keys
    rw [Transit.resourceIdByName, located, Option.map_some, intact.resources key other there]

theorem any_named {transit : Transit} {name : String} :
    (transit.resources.toList.any fun row => row.2.name == name) = true ↔
      ∃ id, transit.nameOf id = some name := by
  simp only [List.any_eq_true, Prod.exists, Std.ExtTreeMap.mem_toList_iff_getElem?_eq_some,
    beq_iff_eq, Transit.nameOf_eq_some]

/-- The network with one more resource, of which there is nothing. -/
def Transit.enrol (transit : Transit) (resource : Resource) : Transit := { transit with
  resources := transit.resources.insert resource.id resource
  inventory := transit.inventory.insert resource.id 0 }

theorem Transit.nameOf_enrol (transit : Transit) (resource : Resource) (id : ResourceId) :
    (transit.enrol resource).nameOf id =
      if resource.id = id then some resource.name else transit.nameOf id := by
  simp only [Transit.enrol, Transit.nameOf, Std.ExtTreeMap.getElem?_insert, compare_eq_iff_eq]
  split <;> rfl

theorem Transit.named_enrol {transit : Transit} {resource : Resource}
    (fresh : resource.id ∉ transit.resources) (name : String) :
    (∃ id, (transit.enrol resource).nameOf id = some name) ↔
      resource.name = name ∨ ∃ id, transit.nameOf id = some name := by
  constructor
  · rintro ⟨id, found⟩
    rw [Transit.nameOf_enrol] at found
    split at found
    · exact .inl (Option.some.inj found)
    · exact .inr ⟨id, found⟩
  · rintro (rfl | ⟨id, found⟩)
    · exact ⟨resource.id, by rw [Transit.nameOf_enrol, if_pos rfl]⟩
    · refine ⟨id, ?_⟩
      rw [Transit.nameOf_enrol, if_neg, found]
      rintro rfl
      obtain ⟨other, there, -⟩ := Transit.nameOf_eq_some.mp found
      exact fresh (mem_of_getElem? there)

theorem Transit.unnamed_enrol (transit : Transit) (resource : Resource) :
    (transit.enrol resource).unnamed = transit.unnamed.enrol { resource with name := "" } := by
  simp only [Transit.enrol, Transit.unnamed, Transit.mk.injEq, true_and, and_true]
  apply Std.ExtTreeMap.ext_getElem?
  intro id
  simp only [Std.ExtTreeMap.getElem?_map, Std.ExtTreeMap.getElem?_insert]
  split <;> rfl

/-- Intact networks of the same bytes and of names alike. -/
structure Alike (first second : Transit) : Prop where
  intact : first.Intact
  intact' : second.Intact
  unnamed : first.unnamed = second.unnamed
  names : NamesAlike first second

theorem NamesAlike.of_economy {first second one two : Transit} (names : NamesAlike first second)
    (same : one.economy = first.economy) (same' : two.economy = second.economy) :
    NamesAlike one two := by
  rw [← one.endow_economy, ← two.endow_economy, same, same']
  exact ⟨names.named, names.taken⟩

namespace Alike

variable {first second : Transit} (alike : Alike first second)
include alike

theorem resolved (room : (Actions.nextProducerId first).isSome ∨ (Actions.nextConsumerId first).isSome)
    (name : String) : second.resourceIdByName name = first.resourceIdByName name := by
  apply Option.ext
  intro id
  rw [alike.intact'.resourceIdByName_eq_some, alike.intact.resourceIdByName_eq_some,
    alike.names.named room id]

theorem nextResourceId : Actions.nextResourceId second = Actions.nextResourceId first := by
  have keys := congrArg (fun transit : Transit => transit.resources.keys) alike.unnamed
  simp only [Transit.unnamed, Std.ExtTreeMap.keys_map] at keys
  rw [Actions.nextResourceId, Actions.nextResourceId, keys]

theorem producers : second.producers = first.producers := by
  show second.unnamed.producers = first.unnamed.producers
  rw [alike.unnamed]

theorem consumers : second.consumers = first.consumers := by
  show second.unnamed.consumers = first.unnamed.consumers
  rw [alike.unnamed]

/-- Networks alike are one network with two economies. -/
theorem endowed : second = first.endow second.economy := by
  have unnamed := alike.unnamed
  obtain ⟨dt, nodes, paths, movers, resources, inventory, producers, consumers⟩ := first
  obtain ⟨dt', nodes', paths', movers', resources', inventory', producers', consumers'⟩ := second
  simp only [Transit.unnamed, Transit.mk.injEq] at unnamed
  obtain ⟨rfl, rfl, rfl, rfl, -⟩ := unnamed
  rfl

theorem of_economy {one : Transit} (intact : one.Intact)
    (intact' : (one.endow second.economy).Intact) (same : one.economy = first.economy) :
    Alike one (one.endow second.economy) := by
  refine ⟨intact, intact', ?_, alike.names.of_economy same rfl⟩
  calc one.unnamed = (one.endow one.economy).unnamed := by rw [Transit.endow_economy]
    _ = one.unnamed.endow first.unnamed.economy := by rw [same]; rfl
    _ = one.unnamed.endow second.unnamed.economy := by rw [alike.unnamed]

end Alike

/-! ## One step -/

/-- Two attempts that are applied, leave things unchanged or are rejected together. -/
inductive AnsweredAlike : Actions.Attempt → Actions.Attempt → Prop where
  | applied (alike : Alike first second) (events : List SimEvent) :
      AnsweredAlike (.ok (some (first, events))) (.ok (some (second, events)))
  | unchanged : AnsweredAlike (.ok none) (.ok none)
  | rejected (reason reason' : String) : AnsweredAlike (.error reason) (.error reason')

theorem AnsweredAlike.of_unanswered {one two : Actions.Attempt}
    (unanswered : ∀ answer, one ≠ .ok answer) (unanswered' : ∀ answer, two ≠ .ok answer) :
    AnsweredAlike one two := by
  cases one with
  | ok answer => exact absurd rfl (unanswered answer)
  | error reason =>
    cases two with
    | ok answer => exact absurd rfl (unanswered' answer)
    | error reason' => exact .rejected reason reason'

namespace Actions

variable {first second : Transit} (alike : Alike first second)
include alike

theorem attempt_pieces (display : Float32 → String) {action : Action} (pieces : OnPieces action) :
    AnsweredAlike (attempt display first action) (attempt display second action) := by
  have kept := attempt_endow first.economy display first pieces
  have moved := attempt_endow second.economy display first pieces
  have intact' (after : Transit) (events : List SimEvent) :
      attempt display second action = .ok (some (after, events)) → after.Intact :=
    attempt_intact alike.intact'
  rw [Transit.endow_economy] at kept
  rw [← alike.endowed] at moved
  rw [moved] at intact' ⊢
  cases answer : attempt display first action with
  | error reason => exact .rejected reason reason
  | ok change =>
    cases change with
    | none => exact .unchanged
    | some change =>
      obtain ⟨after, events⟩ := change
      rw [answer] at kept intact'
      refine .applied (alike.of_economy (attempt_intact alike.intact answer) (intact' _ _ rfl) ?_)
        events
      have same : after = after.endow first.economy := by
        simpa [endowAnswer, endowPair] using kept
      rw [same, Transit.economy_endow]

/-- A producer or a consumer of a resource is added under the next id. -/
theorem enlist_alike {next : Transit → Option Nat} (place : Nat → ResourceId → Transit → Transit)
    (name refusal exhausted : String) (amount intervalTicks : Nat)
    (sameNext : next second = next first)
    (resolved : (next first).isSome →
      second.resourceIdByName name = first.resourceIdByName name)
    (placed : ∀ id resource, (next first).isSome → resource ∈ first.resources →
      resource ∈ second.resources → Alike (place id resource first) (place id resource second)) :
    let attempt (transit : Transit) : Attempt := do
      let resource ← present (transit.resourceIdByName name) refusal
      validateAmountAndInterval amount intervalTicks
      let id ← present (next transit) exhausted
      return some (place id resource transit, [])
    AnsweredAlike (attempt first) (attempt second) := by
  intro attempt
  cases room : next first with
  | none =>
    apply AnsweredAlike.of_unanswered <;>
      simp [attempt, bind_eq_ok, sameNext, room, present]
  | some id =>
    have free := Option.isSome_of_eq_some room
    have same := resolved free
    simp only [attempt, same, sameNext, room]
    cases found : first.resourceIdByName name with
    | none => exact .rejected _ _
    | some resource =>
      cases validateAmountAndInterval amount intervalTicks with
      | error reason => exact .rejected _ _
      | ok done =>
        exact .applied (placed id resource free (resourceIdByName_mem alike.intact found)
          (resourceIdByName_mem alike.intact' (same.trans found))) []

theorem addProducer_alike (name : String) (amount intervalTicks : Nat) :
    AnsweredAlike (addProducer first name amount intervalTicks)
      (addProducer second name amount intervalTicks) := by
  have sameNext : nextProducerId second = nextProducerId first := by
    rw [nextProducerId, nextProducerId, alike.producers]
  let grow (id : ProducerId) (resource : ResourceId) (transit : Transit) : Transit := { transit with
    producers := transit.producers.insert id ⟨id, resource, amount, intervalTicks⟩ }
  refine enlist_alike alike grow name _ _ amount intervalTicks sameNext
    (fun room => alike.resolved (.inl room) name) fun id resource room known known' => ⟨?_, ?_, ?_, ?_⟩
  · exact { alike.intact with producers := alike.intact.producers.insert ⟨rfl, known⟩ }
  · exact { alike.intact' with producers := alike.intact'.producers.insert ⟨rfl, known'⟩ }
  · exact congrArg (grow id resource) alike.unnamed
  · exact ⟨fun _ => alike.names.named (.inl room), alike.names.taken⟩

theorem addConsumer_alike (name : String) (amount intervalTicks : Nat) :
    AnsweredAlike (addConsumer first name amount intervalTicks)
      (addConsumer second name amount intervalTicks) := by
  have sameNext : nextConsumerId second = nextConsumerId first := by
    rw [nextConsumerId, nextConsumerId, alike.consumers]
  let grow (id : ConsumerId) (resource : ResourceId) (transit : Transit) : Transit := { transit with
    consumers := transit.consumers.insert id ⟨id, resource, amount, intervalTicks⟩ }
  refine enlist_alike alike grow name _ _ amount intervalTicks sameNext
    (fun room => alike.resolved (.inr room) name) fun id resource room known known' => ⟨?_, ?_, ?_, ?_⟩
  · exact { alike.intact with consumers := alike.intact.consumers.insert ⟨rfl, known⟩ }
  · exact { alike.intact' with consumers := alike.intact'.consumers.insert ⟨rfl, known'⟩ }
  · exact congrArg (grow id resource) alike.unnamed
  · exact ⟨fun _ => alike.names.named (.inr room), alike.names.taken⟩

theorem defineResource_alike (name : String) (color : Nat) :
    AnsweredAlike (defineResource first name color) (defineResource second name color) := by
  cases next : nextResourceId first with
  | none =>
    apply AnsweredAlike.of_unanswered <;>
      simp [defineResource, bind_eq_ok, alike.nextResourceId, next, present]
  | some id =>
    have next' := alike.nextResourceId.trans next
    cases valid : validateResourceName name with
    | error reason =>
      simp only [defineResource, valid]
      exact .rejected reason reason
    | ok done =>
      have same : (second.resources.toList.any fun row => row.2.name == name) =
          first.resources.toList.any fun row => row.2.name == name := by
        rw [Bool.eq_iff_iff, any_named, any_named]
        exact (alike.names.taken (Option.isSome_of_eq_some next) name valid).symm
      cases clash : first.resources.toList.any fun row => row.2.name == name with
      | true =>
        simp only [defineResource, valid, same, clash]
        exact .rejected _ _
      | false =>
        have success : defineResource first name color =
            .ok (some (first.enrol ⟨id, name, color⟩, [])) := by
          simp only [defineResource, valid, clash, next]
          rfl
        have success' : defineResource second name color =
            .ok (some (second.enrol ⟨id, name, color⟩, [])) := by
          simp only [defineResource, valid, same, clash, next']
          rfl
        rw [success, success']
        refine .applied ⟨defineResource_intact alike.intact success,
          defineResource_intact alike.intact' success', ?_, ?_, ?_⟩ []
        · rw [Transit.unnamed_enrol, Transit.unnamed_enrol, alike.unnamed]
        · intro room other
          rw [Transit.nameOf_enrol, Transit.nameOf_enrol, alike.names.named room]
        · intro room other fine
          rw [Transit.named_enrol (nextDense_fresh next).1, Transit.named_enrol (nextDense_fresh next').1,
            alike.names.taken (Option.isSome_of_eq_some next) other fine]

theorem attempt_alike (display : Float32 → String) (action : Action) :
    AnsweredAlike (attempt display first action) (attempt display second action) := by
  cases action with
  | defineResource name color => exact defineResource_alike alike name color
  | addProducer name amount intervalTicks => exact addProducer_alike alike name amount intervalTicks
  | addConsumer name amount intervalTicks => exact addConsumer_alike alike name amount intervalTicks
  | _ => exact attempt_pieces alike display trivial

end Actions

section Steps

variable (display : Float32 → String)

theorem applyAction_alike {first second : Transit} (alike : Alike first second) (agentId : String)
    (action : Action) :
    Alike (applyAction display first agentId action).1 (applyAction display second agentId action).1 ∧
      (applyAction display first agentId action).2.1 =
        (applyAction display second agentId action).2.1 ∧
      (applyAction display first agentId action).2.2.verdict =
        (applyAction display second agentId action).2.2.verdict := by
  have answered := Actions.attempt_alike alike display action
  unfold applyAction
  generalize Actions.attempt display first action = one at answered
  generalize Actions.attempt display second action = two at answered
  cases answered with
  | applied after events => exact ⟨after, rfl, rfl⟩
  | unchanged => exact ⟨alike, rfl, rfl⟩
  | rejected reason reason' => exact ⟨alike, rfl, rfl⟩

theorem applyAll_alike (chosen : List (String × Action)) : ∀ {first second : Transit},
    Alike first second → Alike (applyAll display first chosen).1 (applyAll display second chosen).1 ∧
      (applyAll display first chosen).2 = (applyAll display second chosen).2 := by
  induction chosen with
  | nil => exact fun alike => ⟨alike, rfl⟩
  | cons head rest ih =>
    intro first second alike
    obtain ⟨agentId, action⟩ := head
    obtain ⟨after, events, verdicts⟩ := applyAction_alike display alike agentId action
    obtain ⟨later, responses⟩ := ih after
    refine ⟨later, ?_⟩
    simp only [applyAll, responses, events, verdicts]

theorem Production.run_alike {first second : Transit} (alike : Alike first second) (tick : Nat) :
    Alike (Production.run tick first) (Production.run tick second) where
  intact := Production.run_intact alike.intact tick
  intact' := Production.run_intact alike.intact' tick
  unnamed := congrArg (Production.run tick) alike.unnamed
  names := ⟨alike.names.named, alike.names.taken⟩

theorem Lifecycle.run_alike {first second : Transit} (alike : Alike first second) :
    Alike (Lifecycle.run first).1 (Lifecycle.run second).1 ∧
      (Lifecycle.run first).2 = (Lifecycle.run second).2 := by
  have kept := Lifecycle.run_endow first.economy first
  have moved := Lifecycle.run_endow second.economy first
  have intact' := Lifecycle.run_intact alike.intact'
  rw [Transit.endow_economy] at kept
  rw [← alike.endowed] at moved
  rw [moved] at intact' ⊢
  refine ⟨alike.of_economy (Lifecycle.run_intact alike.intact) intact' ?_, rfl⟩
  rw [kept]
  rfl

theorem Interaction.run_alike {first second : Transit} (alike : Alike first second) :
    Alike (Interaction.run first).1 (Interaction.run second).1 ∧
      (Interaction.run first).2 = (Interaction.run second).2 := by
  have kept := Interaction.run_endow first.economy first
  have moved := Interaction.run_endow second.economy first
  have intact' := Interaction.run_intact alike.intact'
  rw [Transit.endow_economy] at kept
  rw [← alike.endowed] at moved
  rw [moved] at intact' ⊢
  refine ⟨alike.of_economy (Interaction.run_intact alike.intact) intact' ?_, rfl⟩
  rw [kept]
  rfl

theorem Movement.run_alike {first second : Transit} (alike : Alike first second) :
    Alike (Movement.run first).transit (Movement.run second).transit ∧
      (Movement.run first).events = (Movement.run second).events := by
  have kept := Movement.run_endow first.economy first
  have moved := Movement.run_endow second.economy first
  have intact' := Movement.run_intact alike.intact'
  rw [Transit.endow_economy] at kept
  rw [← alike.endowed] at moved
  rw [moved] at intact' ⊢
  refine ⟨alike.of_economy (Movement.run_intact alike.intact) intact' ?_, rfl⟩
  rw [kept]
  rfl

/-- Worlds without an SL1 block that differ in no more than names which no action tells. -/
structure WorldsAlike (first second : World Transit) : Prop where
  tick : first.tick = second.tick
  state : first.state = second.state
  legacy : first.sl1 = none
  legacy' : second.sl1 = none
  networks : Alike first.network second.network

theorem tickWith_alike {first second : World Transit} (alike : WorldsAlike first second)
    (chosen : List (String × Action)) :
    WorldsAlike (tickWith display first chosen).1 (tickWith display second chosen).1 ∧
      (tickWith display first chosen).2 = (tickWith display second chosen).2 := by
  unfold tickWith
  rw [alike.tick, alike.state]
  split
  · exact ⟨alike, rfl⟩
  · generalize saturatingAdd u64Max second.tick 1 = tick
    obtain ⟨spawned, spawns⟩ := Lifecycle.run_alike alike.networks
    obtain ⟨arrived, arrivals⟩ := Movement.run_alike spawned
    obtain ⟨acted, responses⟩ := applyAll_alike display chosen arrived
    obtain ⟨departed, departures⟩ := Interaction.run_alike acted
    have produced := Production.run_alike departed tick
    simp only [spawns, arrivals, responses, departures, and_true]
    exact ⟨rfl, rfl, alike.legacy, alike.legacy', produced⟩

theorem worldStep_alike {first second : World Transit} (alike : WorldsAlike first second)
    (step : WorldStep) :
    WorldsAlike (worldStep display first step).1 (worldStep display second step).1 ∧
      (worldStep display first step).2 = (worldStep display second step).2 := by
  cases step with
  | act agentId action =>
    obtain ⟨after, events, verdicts⟩ := applyAction_alike display alike.networks agentId action
    refine ⟨⟨alike.tick, alike.state, alike.legacy, alike.legacy', after⟩, ?_⟩
    simp only [worldStep, events, verdicts]
  | tick chosen => exact tickWith_alike display alike chosen

end Steps

end Simetro.Engine
