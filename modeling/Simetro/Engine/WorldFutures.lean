import Simetro.Engine.WorldAlike

/-! Worlds that hash alike, and their futures. What is not hashed, the names of the
resources, is all that can part them. -/

namespace Simetro.Engine

open Simetro.Library Simetro.Protocol Simetro.Sl1

namespace StateHash

theorem feedTransit_unnamed (transit : Transit) : feedTransit transit.unnamed = feedTransit transit := by
  have resources : entries u32 feedResource transit.unnamed.resources =
      entries u32 feedResource transit.resources :=
    entries_map u32 feedResource (fun resource : Resource => { resource with name := "" })
      transit.resources
  have empty : transit.unnamed.resources.isEmpty = transit.resources.isEmpty := by
    rw [← Std.ExtTreeMap.isEmpty_keys, ← Std.ExtTreeMap.isEmpty_keys, Transit.unnamed,
      Std.ExtTreeMap.keys_map]
  simp only [feedTransit, feedResources, resources, empty]
  rfl

/-- With or without resources, what is fed fits where every map of them does. -/
theorem fits_feedResources (transit : Transit) : (feedResources transit).fits ↔
    (entries u32 feedResource transit.resources).fits ∧ (entries u32 u64 transit.inventory).fits ∧
      (entries u32 feedProducer transit.producers).fits ∧
      (entries u32 feedConsumer transit.consumers).fits := by
  unfold feedResources
  split
  · simp [bare, and_assoc]
  · rename_i nothing
    simp only [Bool.or_eq_true, Bool.not_eq_true', not_or, Bool.not_eq_false,
      Std.ExtTreeMap.isEmpty_iff] at nothing
    obtain ⟨⟨⟨resources, inventory⟩, producers⟩, consumers⟩ := nothing
    have none {Value : Type} (feed : Value → Chunk) :
        (entries u32 feed (∅ : Std.ExtTreeMap Nat Value)).fits :=
      (fits_entries (by decide)).mpr (by simp)
    simp [resources, inventory, producers, consumers, none]

theorem fits_grown {Value : Type} {feed : Value → Chunk} {map : Std.ExtTreeMap Nat Value} {id : Nat}
    {value : Value} (small : id ≤ u32Max) (new : (feed value).fits)
    (fits : (entries u32 feed map).fits) : (entries u32 feed (map.insert id value)).fits := by
  rw [fits_entries (by decide)] at fits ⊢
  intro key other found
  rw [Std.ExtTreeMap.getElem?_insert] at found
  split at found
  · rename_i same
    obtain rfl := Std.LawfulEqCmp.compare_eq_iff_eq.mp same
    obtain rfl := Option.some.inj found
    exact ⟨Nat.lt_of_le_of_lt small (by decide), new⟩
  · exact fits key other found

end StateHash

section Futures

open StateHash

variable (display : Float32 → String)

/-- What each of the steps answers, and the bytes fed for the world after it. -/
def answers (world : World Transit) : List WorldStep → List (Response × List UInt8)
  | [] => []
  | step :: rest =>
    let (after, response) := worldStep display world step
    (response, (feedWorld after).bytes) :: answers after rest

theorem tickWith_legacy (world : World Transit) (chosen : List (String × Action)) :
    (tickWith display world chosen).1.sl1 = world.sl1 := by
  unfold tickWith
  split <;> rfl

theorem applyAll_intact (chosen : List (String × Action)) : ∀ {transit : Transit},
    transit.Intact → (applyAll display transit chosen).1.Intact := by
  induction chosen with
  | nil => exact fun intact => intact
  | cons head rest ih => exact fun intact => ih (applyAction_intact intact display head.1 head.2)

theorem worldStep_intact {world : World Transit} (intact : world.network.Intact) (step : WorldStep) :
    (worldStep display world step).1.network.Intact := by
  cases step with
  | act agentId action => exact applyAction_intact intact display agentId action
  | tick chosen =>
    simp only [worldStep, tickWith]
    split
    · exact intact
    · have arrived := Movement.run_intact (Lifecycle.run_intact intact)
      have departed := Interaction.run_intact (applyAll_intact display chosen arrived)
      exact Production.run_intact departed _

theorem Reached.kept {world : World Transit} (reached : Reached display world) :
    world.network.Intact ∧ world.sl1 = none := by
  obtain ⟨llmLive, raw, scene, steps, accepted, legacy, rfl⟩ := reached
  refine List.foldlRecOn (motive := fun world : World Transit =>
    world.network.Intact ∧ world.sl1 = none) _ _ ⟨SceneLoader.validate_intact accepted, legacy⟩ ?_
  intro world kept step _
  refine ⟨worldStep_intact display kept.1 step, ?_⟩
  cases step with
  | act agentId action => exact kept.2
  | tick chosen => exact (tickWith_legacy display world chosen).trans kept.2

theorem feedWorld_legacy {world : World Transit} (legacy : world.sl1 = none) :
    feedWorld world = feedTransit world.network ++ Chunk.raw [] := by
  rw [feedWorld, legacy]

theorem fits_legacy {world : World Transit} (legacy : world.sl1 = none) :
    (feedWorld world).fits ↔ (feedTransit world.network).fits := by
  rw [feedWorld_legacy legacy, Chunk.fits_append_iff]
  exact and_iff_left rfl

theorem WorldsAlike.bytes {first second : World Transit} (alike : WorldsAlike first second) :
    (feedWorld first).bytes = (feedWorld second).bytes := by
  rw [feedWorld_legacy alike.legacy, feedWorld_legacy alike.legacy',
    ← feedTransit_unnamed first.network, alike.networks.unnamed, feedTransit_unnamed]

theorem answers_alike (steps : List WorldStep) : ∀ {first second : World Transit},
    WorldsAlike first second → answers display first steps = answers display second steps := by
  induction steps with
  | nil => exact fun _ => rfl
  | cons step rest ih =>
    intro first second alike
    obtain ⟨after, responses⟩ := worldStep_alike display alike step
    simp only [answers, responses, after.bytes, ih after]

/-- Two worlds without an SL1 block, intact, of proper values and fed alike. -/
structure FedAlike (first second : World Transit) : Prop where
  intact : first.network.Intact
  intact' : second.network.Intact
  legacy : first.sl1 = none
  legacy' : second.sl1 = none
  fits : (feedWorld first).fits
  fits' : (feedWorld second).fits
  bytes : (feedWorld first).bytes = (feedWorld second).bytes

/-- The network with one more producer, which delivers one unit each tick. -/
def Transit.withProducer (transit : Transit) (id : ProducerId) (resource : ResourceId) : Transit :=
  { transit with producers := transit.producers.insert id ⟨id, resource, 1, 1⟩ }

/-- The network with one more consumer, which takes one unit each tick. -/
def Transit.withConsumer (transit : Transit) (id : ConsumerId) (resource : ResourceId) : Transit :=
  { transit with consumers := transit.consumers.insert id ⟨id, resource, 1, 1⟩ }

section Grown

variable {transit : Transit} {id resource : Nat} (small : id ≤ u32Max) (known : resource < 256 ^ 4)
  (fits : (feedTransit transit).fits)
include small known fits

theorem fits_withProducer : (feedTransit (transit.withProducer id resource)).fits := by
  have row : (feedProducer ⟨id, resource, 1, 1⟩).fits := by
    simp only [feedProducer, Chunk.fits_append_iff, fits_unsigned]
    exact ⟨⟨known, by decide⟩, by decide⟩
  simp only [feedTransit, Chunk.fits_append_iff, fits_feedResources] at fits ⊢
  obtain ⟨start, resources, inventory, producers, consumers⟩ := fits
  exact ⟨start, resources, inventory, fits_grown small row producers, consumers⟩

theorem fits_withConsumer : (feedTransit (transit.withConsumer id resource)).fits := by
  have row : (feedConsumer ⟨id, resource, 1, 1⟩).fits := by
    simp only [feedConsumer, Chunk.fits_append_iff, fits_unsigned]
    exact ⟨⟨known, by decide⟩, by decide⟩
  simp only [feedTransit, Chunk.fits_append_iff, fits_feedResources] at fits ⊢
  obtain ⟨start, resources, inventory, producers, consumers⟩ := fits
  exact ⟨start, resources, inventory, producers, fits_grown small row consumers⟩

end Grown

section Hiring

variable {world : World Transit} {new : Nat} {name : String} {resource : ResourceId}

theorem addProducer_applied (next : Actions.nextProducerId world.network = some new)
    (found : world.network.resourceIdByName name = some resource) :
    worldStep display world (.act "" (.addProducer name 1 1)) =
      ({ world with network := world.network.withProducer new resource }, ⟨[.applied], []⟩) := by
  simp only [worldStep, applyAction, Actions.attempt, Actions.addProducer, found, next]
  rfl

theorem addProducer_rejected (unknown : world.network.resourceIdByName name = none) :
    worldStep display world (.act "" (.addProducer name 1 1)) = (world, ⟨[.rejected], []⟩) := by
  simp only [worldStep, applyAction, Actions.attempt, Actions.addProducer, unknown]
  rfl

theorem addConsumer_applied (next : Actions.nextConsumerId world.network = some new)
    (found : world.network.resourceIdByName name = some resource) :
    worldStep display world (.act "" (.addConsumer name 1 1)) =
      ({ world with network := world.network.withConsumer new resource }, ⟨[.applied], []⟩) := by
  simp only [worldStep, applyAction, Actions.attempt, Actions.addConsumer, found, next]
  rfl

theorem addConsumer_rejected (unknown : world.network.resourceIdByName name = none) :
    worldStep display world (.act "" (.addConsumer name 1 1)) = (world, ⟨[.rejected], []⟩) := by
  simp only [worldStep, applyAction, Actions.attempt, Actions.addConsumer, unknown]
  rfl

end Hiring

namespace FedAlike

variable {first second : World Transit} (alike : FedAlike first second)
include alike

theorem symm : FedAlike second first :=
  ⟨alike.intact', alike.intact, alike.legacy', alike.legacy, alike.fits', alike.fits, alike.bytes.symm⟩

theorem unnamed : first.network.unnamed = second.network.unnamed := by
  obtain ⟨intact, intact', legacy, legacy', fits, fits', bytes⟩ := alike
  rw [feedWorld_legacy legacy, feedWorld_legacy legacy'] at bytes
  exact feedTransit_determines intact intact'
    ⟨(fits_legacy legacy).mp fits, (fits_legacy legacy').mp fits', by simpa using bytes⟩

/-- The id of a resource is a 32-bit number. -/
theorem small {id : ResourceId} {name : String} (named : first.network.nameOf id = some name) :
    id < 256 ^ 4 := by
  obtain ⟨resource, found, -⟩ := Transit.nameOf_eq_some.mp named
  have parts := (fits_legacy alike.legacy).mp alike.fits
  simp only [feedTransit, Chunk.fits_append_iff, fits_feedResources] at parts
  exact ((fits_entries (by decide)).mp parts.2.1 id resource found).1

/-- An action that is applied where a name is known, and leaves behind what has it, tells
which resource has it. -/
theorem told (grow : ResourceId → Transit → Transit) {action : Action} {name : String}
    (applied : ∀ world ∈ [first, second], ∀ resource,
      world.network.resourceIdByName name = some resource → worldStep display world (.act "" action) =
        ({ world with network := grow resource world.network }, ⟨[.applied], []⟩))
    (rejected : second.network.resourceIdByName name = none →
      worldStep display second (.act "" action) = (second, ⟨[.rejected], []⟩))
    (fits : ∀ (resource : ResourceId) (transit : Transit), resource < 256 ^ 4 →
      (feedTransit transit).fits → (feedTransit (grow resource transit)).fits)
    (tells : ∀ resource other, (grow resource first.network).unnamed =
      (grow other second.network).unnamed → resource = other)
    {id : ResourceId} (named : first.network.nameOf id = some name)
    (same : answers display first [.act "" action] = answers display second [.act "" action]) :
    second.network.nameOf id = some name := by
  have found := alike.intact.resourceIdByName_eq_some.mpr named
  have intact := worldStep_intact display alike.intact (.act "" action)
  have intact' := worldStep_intact display alike.intact' (.act "" action)
  simp only [answers, applied first (by simp) id found] at same intact
  cases found' : second.network.resourceIdByName name with
  | none =>
    rw [rejected found'] at same
    simp at same
  | some other =>
    simp only [applied second (by simp) other found'] at same intact'
    have named' := alike.intact'.resourceIdByName_eq_some.mp found'
    have after : FedAlike { first with network := grow id first.network }
        { second with network := grow other second.network } := {
      intact, intact'
      legacy := alike.legacy
      legacy' := alike.legacy'
      fits := (fits_legacy (by exact alike.legacy)).mpr
        (fits id _ (alike.small named) ((fits_legacy alike.legacy).mp alike.fits))
      fits' := (fits_legacy (by exact alike.legacy')).mpr
        (fits other _ (alike.symm.small named') ((fits_legacy alike.legacy').mp alike.fits'))
      bytes := by simpa using same }
    rw [tells id other after.unnamed, named']

theorem nextProducerId : Actions.nextProducerId second.network = Actions.nextProducerId first.network := by
  show Actions.nextProducerId second.network.unnamed = Actions.nextProducerId first.network.unnamed
  rw [alike.unnamed]

theorem nextConsumerId : Actions.nextConsumerId second.network = Actions.nextConsumerId first.network := by
  show Actions.nextConsumerId second.network.unnamed = Actions.nextConsumerId first.network.unnamed
  rw [alike.unnamed]

theorem told_by_producer {new : ProducerId} (next : Actions.nextProducerId first.network = some new)
    {id : ResourceId} {name : String} (named : first.network.nameOf id = some name)
    (same : answers display first [.act "" (.addProducer name 1 1)] =
      answers display second [.act "" (.addProducer name 1 1)]) :
    second.network.nameOf id = some name := by
  refine alike.told display (fun resource transit => transit.withProducer new resource) ?_
    (addProducer_rejected display) ?_ ?_ named same
  · intro world either resource found
    obtain rfl | rfl : world = first ∨ world = second := by simpa using either
    · exact addProducer_applied display next found
    · exact addProducer_applied display (alike.nextProducerId.trans next) found
  · exact fun resource transit => fits_withProducer (nextDense_fresh next).2
  · intro resource other equal
    have rows := congrArg (fun transit : Transit => transit.producers[new]?) equal
    simpa [Transit.unnamed, Transit.withProducer] using rows

theorem told_by_consumer {new : ConsumerId} (next : Actions.nextConsumerId first.network = some new)
    {id : ResourceId} {name : String} (named : first.network.nameOf id = some name)
    (same : answers display first [.act "" (.addConsumer name 1 1)] =
      answers display second [.act "" (.addConsumer name 1 1)]) :
    second.network.nameOf id = some name := by
  refine alike.told display (fun resource transit => transit.withConsumer new resource) ?_
    (addConsumer_rejected display) ?_ ?_ named same
  · intro world either resource found
    obtain rfl | rfl : world = first ∨ world = second := by simpa using either
    · exact addConsumer_applied display next found
    · exact addConsumer_applied display (alike.nextConsumerId.trans next) found
  · exact fun resource transit => fits_withConsumer (nextDense_fresh next).2
  · intro resource other equal
    have rows := congrArg (fun transit : Transit => transit.consumers[new]?) equal
    simpa [Transit.unnamed, Transit.withConsumer] using rows

omit alike in
theorem defineResource_verdict {world : World Transit} {name : String} {new : ResourceId}
    (valid : Actions.validateResourceName name = .ok ())
    (next : Actions.nextResourceId world.network = some new) :
    (worldStep display world (.act "" (.defineResource name 0))).2 =
      ⟨[if world.network.resources.toList.any fun row => row.2.name == name then .rejected
        else .applied], []⟩ := by
  simp only [worldStep, applyAction, Actions.attempt, Actions.defineResource, valid, next]
  cases world.network.resources.toList.any fun row => row.2.name == name with
  | true => rfl
  | false => rfl

/-- Defining a resource tells whether the name is taken. -/
theorem told_by_definition {new : ResourceId} (next : Actions.nextResourceId first.network = some new)
    {name : String} (valid : Actions.validateResourceName name = .ok ())
    (same : answers display first [.act "" (.defineResource name 0)] =
      answers display second [.act "" (.defineResource name 0)]) :
    (∃ id, first.network.nameOf id = some name) ↔ ∃ id, second.network.nameOf id = some name := by
  have next' : Actions.nextResourceId second.network = some new := by
    have keys := congrArg (fun transit : Transit => transit.resources.keys) alike.unnamed
    simp only [Transit.unnamed, Std.ExtTreeMap.keys_map] at keys
    rw [← next, Actions.nextResourceId, Actions.nextResourceId, keys]
  have verdicts := congrArg (List.map Prod.fst) same
  simp only [answers, List.map_cons, List.map_nil, defineResource_verdict display valid next,
    defineResource_verdict display valid next', List.cons.injEq, Response.mk.injEq, and_true] at verdicts
  rw [← any_named, ← any_named]
  generalize (first.network.resources.toList.any fun row => row.2.name == name) = taken at verdicts ⊢
  generalize (second.network.resources.toList.any fun row => row.2.name == name) = taken' at verdicts ⊢
  cases taken <;> cases taken' <;> simp_all

/-- Worlds that answer alike for ever have names alike. -/
theorem namesAlike (same : ∀ steps, answers display first steps = answers display second steps) :
    NamesAlike first.network second.network := by
  constructor
  · intro room id
    apply Option.ext
    intro name
    rcases room with producer | consumer
    · obtain ⟨new, next⟩ := Option.isSome_iff_exists.mp producer
      exact ⟨fun named => alike.told_by_producer display next named (same _), fun named =>
        alike.symm.told_by_producer display (alike.nextProducerId.trans next) named (same _).symm⟩
    · obtain ⟨new, next⟩ := Option.isSome_iff_exists.mp consumer
      exact ⟨fun named => alike.told_by_consumer display next named (same _), fun named =>
        alike.symm.told_by_consumer display (alike.nextConsumerId.trans next) named (same _).symm⟩
  · intro room name valid
    obtain ⟨new, next⟩ := Option.isSome_iff_exists.mp room
    exact alike.told_by_definition display next valid (same _)

end FedAlike

/-- Worlds fed alike answer alike for ever exactly where their resources have names alike. -/
theorem futures_alike_iff {first second : World Transit} (reached : Reached display first)
    (reached' : Reached display second) (tick : first.tick = second.tick)
    (state : first.state = second.state) (fits : (feedWorld first).fits)
    (fits' : (feedWorld second).fits) (bytes : (feedWorld first).bytes = (feedWorld second).bytes) :
    (∀ steps, answers display first steps = answers display second steps) ↔
      NamesAlike first.network second.network := by
  obtain ⟨intact, legacy⟩ := reached.kept
  obtain ⟨intact', legacy'⟩ := reached'.kept
  have fed : FedAlike first second := ⟨intact, intact', legacy, legacy', fits, fits', bytes⟩
  constructor
  · exact fed.namesAlike display
  · intro names steps
    exact answers_alike display steps
      ⟨tick, state, legacy, legacy', ⟨intact, intact', fed.unnamed, names⟩⟩

end Futures

/-- The shuttle, its resource under another name. -/
def cokeScene : RawScene := { shuttleScene with
  resources := [{ id := "coke" }]
  inventory := [⟨"coke", 5⟩]
  producers := [⟨"mine", "coke", 2, 3⟩]
  consumers := [⟨"boiler", "coke", 1, 1⟩] }

/-- An agent who asks for a second mine of coal. -/
def mineCoal : List WorldStep := [.act "planner" (.addProducer "coal" 1 1)]

section Shuttles

open StateHash

/-- Two scenes that differ in a resource's name load into worlds that nothing fed tells
apart, and then one action is applied to the one and rejected for the other. -/
theorem shuttles_fed_alike : ∃ first second : World Transit,
    (Reached (fun _ => "") first ∧ Reached (fun _ => "") second ∧ first.tick = second.tick ∧
      first.state = second.state ∧ (feedWorld first).fits ∧ (feedWorld second).fits ∧
      (feedWorld first).bytes = (feedWorld second).bytes) ∧
      answers (fun _ => "") first mineCoal ≠ answers (fun _ => "") second mineCoal := by
  have loads : yields (SceneLoader.validate false shuttleScene) (fun coal =>
      yields (SceneLoader.validate false cokeScene) fun coke =>
        coal.world.sl1.isNone && coke.world.sl1.isNone && coal.world.tick == coke.world.tick &&
          decide (coal.world.state = coke.world.state) && (feedWorld coal.world).fits &&
          (feedWorld coke.world).fits &&
          decide ((feedWorld coal.world).bytes = (feedWorld coke.world).bytes) &&
          decide (answers (fun _ => "") coal.world mineCoal ≠
            answers (fun _ => "") coke.world mineCoal)) = true := by
    decide +kernel
  obtain ⟨coal, accepted, loads⟩ := yields_iff.mp loads
  obtain ⟨coke, accepted', alike⟩ := yields_iff.mp loads
  simp only [Bool.and_eq_true, Option.isNone_iff_eq_none, beq_iff_eq, decide_eq_true_eq] at alike
  obtain ⟨⟨⟨⟨⟨⟨⟨legacy, legacy'⟩, tick⟩, state⟩, fits⟩, fits'⟩, bytes⟩, apart⟩ := alike
  exact ⟨coal.world, coke.world, ⟨⟨false, shuttleScene, coal, [], accepted, legacy, rfl⟩,
    ⟨false, cokeScene, coke, [], accepted', legacy', rfl⟩, tick, state, fits, fits', bytes⟩, apart⟩

theorem fed_alike_futures_part : ¬ ∀ (first second : World Transit), Reached (fun _ => "") first →
    Reached (fun _ => "") second → first.tick = second.tick → first.state = second.state →
    (feedWorld first).fits → (feedWorld second).fits →
    (feedWorld first).bytes = (feedWorld second).bytes →
    ∀ steps, answers (fun _ => "") first steps = answers (fun _ => "") second steps := by
  intro always
  obtain ⟨first, second, ⟨reached, reached', tick, state, fits, fits', bytes⟩, apart⟩ :=
    shuttles_fed_alike
  exact apart (always first second reached reached' tick state fits fits' bytes mineCoal)

theorem shuttles_named_apart : ∃ first second : World Transit, Reached (fun _ => "") first ∧
    Reached (fun _ => "") second ∧ (feedWorld first).bytes = (feedWorld second).bytes ∧
    ¬ NamesAlike first.network second.network := by
  obtain ⟨first, second, ⟨reached, reached', tick, state, fits, fits', bytes⟩, apart⟩ :=
    shuttles_fed_alike
  refine ⟨first, second, reached, reached', bytes, ?_⟩
  intro names
  exact apart ((futures_alike_iff (fun _ => "") reached reached' tick state fits fits' bytes).mpr
    names mineCoal)

end Shuttles

end Simetro.Engine
