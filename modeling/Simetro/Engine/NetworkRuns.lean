import Simetro.Engine.IntactPasses
import Simetro.Engine.SceneLoader

/-! An accepted scene starts with an intact network, and no run of actions and ticks breaks it. -/

namespace Simetro.Engine

open Simetro.Library Simetro.Protocol Simetro.Sl1

namespace SceneLoader

/-- What a section has loaded so far: every name leads to an element, and every element was
built from a declaration whose name leads to it. -/
structure Loaded {Raw Element : Type} (name : Raw → String) (build : Nat → Raw → Loading Element)
    (interning : Interning) (elements : Std.ExtTreeMap Nat Element) : Prop where
  known : ∀ (text : String) (id : Nat), interning.byName[text]? = some id → id ∈ elements
  built : Everywhere (fun id element => ∃ index raw, denseId index = id ∧
    build index raw = .ok element ∧ interning.byName[name raw]? = some id) elements

section Sections

variable {Raw Element : Type} {sectionName : String} {name : Raw → String}
  {build : Nat → Raw → Loading Element}

theorem Loaded.empty : Loaded name build {} ∅ := by
  constructor
  · intro text id found
    simp at found
  · exact Everywhere.empty

theorem Loaded.add {interning : Interning} {elements : Std.ExtTreeMap Nat Element}
    (loaded : Loaded name build interning elements) {raw : Raw} {index : Nat} {element : Element}
    (fresh : interning.byName.contains (name raw) = false) (built : build index raw = .ok element) :
    Loaded name build
      { byName := interning.byName.insert (name raw) (denseId index)
        names := interning.names.insert (denseId index) (name raw) }
      (elements.insert (denseId index) element) := by
  constructor
  · intro text id found
    rw [Std.ExtTreeMap.getElem?_insert] at found
    rw [Std.ExtTreeMap.mem_insert]
    split at found
    · obtain rfl := Option.some.inj found
      exact .inl Std.ReflCmp.compare_self
    · exact .inr (loaded.known text id found)
  · refine Everywhere.insert ?_ ?_
    · refine loaded.built.mono ?_
      rintro id other - ⟨position, source, rfl, made, located⟩
      refine ⟨position, source, rfl, made, ?_⟩
      have apart : name raw ≠ name source := by
        intro same
        have taken := Std.ExtTreeMap.contains_iff_mem.mpr (mem_of_getElem? located)
        rw [← same, fresh] at taken
        cases taken
      rw [Std.ExtTreeMap.getElem?_insert, if_neg, located]
      exact fun same => apart (Std.LawfulEqCmp.compare_eq_iff_eq.mp same)
    · exact ⟨index, raw, rfl, built, Std.ExtTreeMap.getElem?_insert_self⟩

theorem loadSection_loaded {raws : List Raw} {index : Nat} {before interning : Interning}
    {existing elements : Std.ExtTreeMap Nat Element} (loaded : Loaded name build before existing)
    (success : loadSection sectionName name build raws index before existing =
      .ok (interning, elements)) : Loaded name build interning elements := by
  induction raws generalizing index before existing with
  | nil =>
    cases success
    exact loaded
  | cons raw rest ih =>
    simp only [loadSection, bind_eq_ok, reject_eq_ok] at success
    obtain ⟨_, -, _, fresh, element, built, later⟩ := success
    exact ih (loaded.add fresh built) later

end Sections

variable {nodeIds pathIds resourceIds interning : Interning} {palette : Nat}

theorem nodes_own {nodes : Std.ExtTreeMap NodeId Node}
    (loaded : Loaded (·.id) (buildNode palette) nodeIds nodes) :
    Everywhere (fun key node => node.id = key) nodes := by
  refine loaded.built.mono ?_
  rintro key node - ⟨index, raw, rfl, built, -⟩
  simp only [buildNode, bind_eq_ok] at built
  obtain ⟨_, -, _, -, same⟩ := built
  cases same
  rfl

theorem paths_sound {nodes : Std.ExtTreeMap NodeId Node} {paths : Std.ExtTreeMap PathId Path}
    (known : ∀ (text : String) (id : Nat), nodeIds.byName[text]? = some id → id ∈ nodes)
    (loaded : Loaded (·.id) (buildPath nodeIds palette) pathIds paths) :
    Everywhere (Path.Sound nodes) paths := by
  refine loaded.built.mono ?_
  rintro key path - ⟨index, raw, rfl, built, -⟩
  simp only [buildPath, bind_eq_ok, present_eq_ok] at built
  obtain ⟨source, sourceFound, target, targetFound, _, -, same⟩ := built
  cases same
  exact ⟨rfl, known _ _ sourceFound, known _ _ targetFound⟩

theorem movers_sound {nodes : Std.ExtTreeMap NodeId Node} {paths : Std.ExtTreeMap PathId Path}
    {movers : Std.ExtTreeMap MoverId Mover}
    (known : ∀ (text : String) (id : Nat), pathIds.byName[text]? = some id → id ∈ paths)
    (loaded : Loaded (·.id) (buildMover pathIds) interning movers) :
    Everywhere (Mover.Sound nodes paths) movers := by
  refine loaded.built.mono ?_
  rintro key mover - ⟨index, raw, rfl, built, -⟩
  simp only [buildMover, bind_eq_ok, present_eq_ok] at built
  obtain ⟨_, -, onPath, found, same⟩ := built
  cases same
  exact ⟨rfl, known _ _ found, trivial⟩

section Resources

variable {resources : Std.ExtTreeMap ResourceId Resource}

theorem buildResource_name {index : Nat} {raw : RawResource} {resource : Resource}
    (built : buildResource palette index raw = .ok resource) :
    resource.id = denseId index ∧ resource.name = raw.id := by
  simp only [buildResource, bind_eq_ok] at built
  obtain ⟨_, -, same⟩ := built
  cases same
  exact ⟨rfl, rfl⟩

theorem resources_own (loaded : Loaded (·.id) (buildResource palette) resourceIds resources) :
    Everywhere (fun key resource => resource.id = key) resources := by
  refine loaded.built.mono ?_
  rintro key resource - ⟨index, raw, rfl, built, -⟩
  exact (buildResource_name built).1

/-- Interning keeps the names of the resources apart. -/
theorem resources_named (loaded : Loaded (·.id) (buildResource palette) resourceIds resources) :
    DistinctNames resources := by
  intro key other one two first second same
  obtain ⟨_, raw, -, built, located⟩ := loaded.built key one first
  obtain ⟨_, raw', -, built', located'⟩ := loaded.built other two second
  have names : raw.id = raw'.id := by
    rw [← (buildResource_name built).2, ← (buildResource_name built').2, same]
  rw [names] at located
  exact Option.some.inj (located.symm.trans located')

variable (known : ∀ (text : String) (id : Nat), resourceIds.byName[text]? = some id → id ∈ resources)
include known

theorem loadInventory_stocked {raws : List RawInventory} {seen : Std.ExtTreeSet Nat}
    {before inventory : Std.ExtTreeMap ResourceId Nat}
    (stocked : ∀ key : ResourceId, key ∈ before ↔ key ∈ resources)
    (success : loadInventory resourceIds raws seen before = .ok inventory) (key : ResourceId) :
    key ∈ inventory ↔ key ∈ resources := by
  induction raws generalizing seen before with
  | nil =>
    cases success
    exact stocked key
  | cons raw rest ih =>
    simp only [loadInventory, bind_eq_ok, present_eq_ok] at success
    obtain ⟨_, -, resource, found, _, -, later⟩ := success
    refine ih (fun other => ?_) later
    rw [Std.ExtTreeMap.mem_insert, stocked]
    constructor
    · rintro (same | member)
      · exact Std.LawfulEqCmp.compare_eq_iff_eq.mp same ▸ known _ _ found
      · exact member
    · exact .inr

theorem readChain_known {sectionName : String} {index : Nat} {raw : RawChain} {resource : ResourceId}
    (success : readChain sectionName resourceIds index raw = .ok resource) : resource ∈ resources := by
  simp only [readChain, bind_eq_ok, present_eq_ok] at success
  obtain ⟨_, -, _, -, found⟩ := success
  exact known _ _ found

theorem producers_sound {producers : Std.ExtTreeMap ProducerId Producer}
    (loaded : Loaded (·.id) (buildProducer resourceIds) interning producers) :
    Everywhere (Producer.Sound resources) producers := by
  refine loaded.built.mono ?_
  rintro key producer - ⟨index, raw, rfl, built, -⟩
  simp only [buildProducer, bind_eq_ok] at built
  obtain ⟨resource, chain, same⟩ := built
  cases same
  exact ⟨rfl, readChain_known known chain⟩

theorem consumers_sound {consumers : Std.ExtTreeMap ConsumerId Consumer}
    (loaded : Loaded (·.id) (buildConsumer resourceIds) interning consumers) :
    Everywhere (Consumer.Sound resources) consumers := by
  refine loaded.built.mono ?_
  rintro key consumer - ⟨index, raw, rfl, built, -⟩
  simp only [buildConsumer, bind_eq_ok] at built
  obtain ⟨resource, chain, same⟩ := built
  cases same
  exact ⟨rfl, readChain_known known chain⟩

end Resources

/-- An accepted scene starts with an intact network. -/
theorem validate_intact {llmLive : Bool} {raw : RawScene} {scene : LoadedScene}
    (accepted : SceneLoader.validate llmLive raw = .ok scene) : scene.world.network.Intact := by
  simp only [SceneLoader.validate, bind_eq_ok] at accepted
  obtain ⟨theme, -, ⟨nodeIds, nodes⟩, nodesRead, ⟨pathIds, paths⟩, pathsRead, ⟨moverIds, movers⟩,
    moversRead, ⟨resourceIds, resources⟩, resourcesRead, inventory, inventoryRead,
    ⟨producerIds, producers⟩, producersRead, ⟨consumerIds, consumers⟩, consumersRead, agents, -,
    sl1, -, same⟩ := accepted
  cases same
  have nodesLoaded := loadSection_loaded Loaded.empty nodesRead
  have pathsLoaded := loadSection_loaded Loaded.empty pathsRead
  have resourcesLoaded := loadSection_loaded Loaded.empty resourcesRead
  have empty (key : ResourceId) : key ∈ resources.map (fun _ _ => 0) ↔ key ∈ resources :=
    Std.ExtTreeMap.mem_map
  exact {
    nodes := nodes_own nodesLoaded
    paths := paths_sound nodesLoaded.known pathsLoaded
    movers := movers_sound pathsLoaded.known (loadSection_loaded Loaded.empty moversRead)
    resources := resources_own resourcesLoaded
    names := resources_named resourcesLoaded
    inventory := loadInventory_stocked resourcesLoaded.known empty inventoryRead
    producers := producers_sound resourcesLoaded.known (loadSection_loaded Loaded.empty producersRead)
    consumers := consumers_sound resourcesLoaded.known (loadSection_loaded Loaded.empty consumersRead) }

end SceneLoader

section Runs

variable {Host Log Observation : Type}

inductive NetworkStep where
  | act (agentId : String) (action : Action)
  | tick

def networkStep (systems : Systems Transit Host Log Observation) (backend : AgentBackend)
    (machine : Machine Transit Host Log) : NetworkStep →
    Run (Machine Transit Host Log) (Machine Transit Host Log)
  | .act agentId action => do
    let (machine, _) ← systems.applyAction machine agentId action
    return machine
  | .tick => tickOnce systems backend machine

theorem networkStep_keeps {systems : Systems Transit Host Log Observation}
    {holds : Transit → Prop} (keeps : systems.Keeps holds) (backend : AgentBackend)
    (machine : Machine Transit Host Log) (step : NetworkStep) (held : holds machine.world.network) :
    (networkStep systems backend machine step).Ensures fun after => holds after.world.network := by
  cases step with
  | act agentId action => exact (keeps.applyAction machine agentId action held).bind fun _ kept => kept
  | tick => exact tickOnce_keeps keeps backend held

/-- From an accepted scene every run of actions and ticks finishes, with an intact network. -/
theorem network_stays_intact (display : Float32 → String)
    (agents : Systems Transit Host Log Observation) (backend : AgentBackend) {llmLive : Bool}
    {raw : RawScene} {scene : LoadedScene} (accepted : SceneLoader.validate llmLive raw = .ok scene)
    (runner : TickRunner Host Log) (steps : List NetworkStep) :
    ∃ machine, steps.foldlM (networkStep (transitSystems display agents) backend)
        ⟨scene.world, runner⟩ = .done machine ∧ machine.world.network.Intact := by
  have keeps := transitSystems_keeps display agents
  have intact : (Machine.mk scene.world runner).world.network.Intact :=
    SceneLoader.validate_intact accepted
  exact (Run.Ensures.foldlM (networkStep_keeps keeps backend) steps intact).done

/-- Two stations, a line between them and a train on it that burns what a mine digs. -/
def shuttleScene : RawScene where
  schemaVersion := 2
  name := "Shuttle"
  theme := some { palette := ["#102030", "#405060"] }
  pieces := {
    nodes := [⟨"north", (0.0, 10.0), .circle, 0⟩, ⟨"south", (0.0, -10.0), .square, 1⟩]
    paths := [⟨"line", "north", "south", 1⟩]
    movers := [⟨"train", "line", 2.0⟩] }
  resources := [{ id := "coal" }]
  inventory := [⟨"coal", 5⟩]
  producers := [⟨"mine", "coal", 2, 3⟩]
  consumers := [⟨"boiler", "coal", 1, 1⟩]

/-- No agents around the passes. -/
def unattended : Systems Transit Unit Unit Unit where
  lifecycle := .done
  movement machine := .done (machine, 0)
  interaction := .done
  production := .done
  hostId _ := ""
  shouldFire _ _ := false
  observeOnly host _ := (host, ())
  step host _ := (host, .error (.timeout "" 0))
  applyAction machine _ _ := .done (machine, .noChange)
  append log _ _ _ := (log, none)

/-- Build a way back, then try to remove a station the train needs. -/
def shuttleSteps : List NetworkStep :=
  [.tick, .act "builder" (.connectPieces 1 0), .act "builder" (.removePiece 0), .tick]

theorem network_stays_intact_shuttle :
    ∃ scene, SceneLoader.validate false shuttleScene = .ok scene ∧
      ∃ machine, shuttleSteps.foldlM (networkStep (transitSystems (fun _ => "") unattended)
        defaultBackend) ⟨scene.world, {}⟩ = .done machine ∧ machine.world.network.Intact := by
  have accepts : yields (SceneLoader.validate false shuttleScene) (fun _ => true) = true := by
    decide +kernel
  obtain ⟨scene, accepted, -⟩ := yields_iff.mp accepts
  exact ⟨scene, accepted,
    network_stays_intact (fun _ => "") unattended defaultBackend accepted {} shuttleSteps⟩

end Runs

end Simetro.Engine
