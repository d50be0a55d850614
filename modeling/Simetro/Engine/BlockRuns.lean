import Simetro.Engine.MoverWalks

/-! What a run does to the SL1 part of a world: the passes on the transit network and the agents
leave it alone, so that it goes from tick to tick by itself. -/

namespace Simetro.Engine

open Simetro.Library Simetro.Protocol Simetro.Sl1

/-- The clock of a world, its SL1 block and the runtime of it. -/
structure Block where
  tick : Nat
  sl1 : Option Sl1Scene
  sl1Runtime : Option Sl1RuntimeState

def World.block {Network : Type} (world : World Network) : Block :=
  ⟨world.tick, world.sl1, world.sl1Runtime⟩

namespace Block

/-- One tick, in which the other passes have pushed these events and messages before. -/
def ticked (backend : AgentBackend) (events : List SimEvent) (messages : List SimMessage)
    (block : Block) : Block :=
  let tick := saturatingAdd u64Max block.tick 1
  { block with
    tick
    sl1Runtime :=
      match block.sl1, block.sl1Runtime with
      | some scene, some runtime =>
        some (Sl1.run scene backend tick ⟨runtime, events, messages, [], [], []⟩).runtime
      | _, runtime => runtime }

theorem ticked_runtime {block : Block} {scene : Sl1Scene} {runtime : Sl1RuntimeState}
    (present : block.sl1 = some scene) (active : block.sl1Runtime = some runtime)
    (backend : AgentBackend) (events : List SimEvent) (messages : List SimMessage) :
    (block.ticked backend events messages).sl1Runtime =
      some (Sl1.run scene backend (saturatingAdd u64Max block.tick 1)
        ⟨runtime, events, messages, [], [], []⟩).runtime := by
  unfold ticked
  rw [present, active]

/-- A step leaves the block alone, or is a tick of it. -/
inductive Onward (backend : AgentBackend) (before : Block) : Block → Prop where
  | still : Onward backend before before
  | ticked (events : List SimEvent) (messages : List SimMessage) :
      Onward backend before (before.ticked backend events messages)

end Block

section Tick

variable {Network Host Log Observation : Type}

/-- The passes on the network and the actions finish and leave the block alone. -/
structure Systems.Aloof (systems : Systems Network Host Log Observation) : Prop where
  lifecycle : ∀ machine, (systems.lifecycle machine).Ensures fun after =>
    after.world.block = machine.world.block
  movement : ∀ machine, (systems.movement machine).Ensures fun after =>
    after.1.world.block = machine.world.block
  interaction : ∀ machine, (systems.interaction machine).Ensures fun after =>
    after.world.block = machine.world.block
  production : ∀ machine, (systems.production machine).Ensures fun after =>
    after.world.block = machine.world.block
  applyAction : ∀ machine agentId action, (systems.applyAction machine agentId action).Ensures
    fun after => after.1.world.block = machine.world.block

variable {systems : Systems Network Host Log Observation} {block : Block}

theorem logDecision_block (machine : Machine Network Host Log) (agentId : String)
    (report : AgentReport) (seen : Option Observation) :
    (logDecision systems machine agentId report seen).world.block = machine.world.block := by
  unfold logDecision
  split
  · rfl
  · split
    · rfl
    · dsimp only
      split <;> rfl

/-- The pass works on the block as it is, and on nothing else of the world. -/
theorem runSl1_block (backend : AgentBackend) {machine : Machine Network Host Log} {before : Block}
    (same : machine.world.block =
      { before with tick := saturatingAdd u64Max before.tick 1 }) :
    (runSl1 backend machine).world.block =
      before.ticked backend machine.runner.events machine.runner.messages := by
  obtain ⟨tick, sl1, sl1Runtime⟩ := before
  obtain ⟨clock, scenes, runtimes⟩ : machine.world.tick = saturatingAdd u64Max tick 1 ∧
      machine.world.sl1 = sl1 ∧ machine.world.sl1Runtime = sl1Runtime := by
    injection same with clock scenes runtimes
    exact ⟨clock, scenes, runtimes⟩
  subst scenes runtimes
  unfold runSl1 Block.ticked
  rw [← clock]
  cases present : machine.world.sl1 with
  | none =>
    simp only [World.block, present]
  | some scene =>
    cases active : machine.world.sl1Runtime with
    | none => simp only [World.block, present, active]
    | some runtime => simp only [World.block, present]

variable (aloof : systems.Aloof)
include aloof

theorem runAgent_block (tick : Nat) (machine : Machine Network Host Log) (index : Nat)
    (same : machine.world.block = block) :
    (runAgent systems tick machine index).Ensures fun after => after.world.block = block := by
  unfold runAgent
  split
  · exact same
  · split
    · exact same
    · dsimp only
      split
      · rename_i report reported
        refine Run.Ensures.bind
          (?_ : Run.Ensures (fun after : Machine Network Host Log => after.world.block = block) _)
          fun after kept => (logDecision_block after _ report _).trans kept
        cases report.chosen with
        | none => exact same
        | some action =>
          refine (aloof.applyAction _ _ action).bind fun ⟨after, outcome⟩ kept => ?_
          have still : after.world.block = block := kept.trans same
          cases outcome with
          | rejected warning => exact still
          | noChange => exact still
          | applied =>
            dsimp only
            split <;> exact still
      · split <;> exact same

/-- A tick is one of the block, or leaves it alone where the world does not advance. -/
theorem tickOnce_block (backend : AgentBackend) (machine : Machine Network Host Log) :
    (tickOnce systems backend machine).Ensures fun after =>
      Block.Onward backend machine.world.block after.world.block := by
  unfold tickOnce
  split
  · exact .still
  · refine (aloof.lifecycle _).bind fun spawned one => ?_
    refine (aloof.movement spawned).bind fun ⟨moved, arrivals⟩ two => ?_
    refine (Run.Ensures.foldlM (runAgent_block aloof _) _ (two.trans one)).bind
      fun decided three => ?_
    refine (aloof.interaction decided).bind fun departed four => ?_
    refine (aloof.production departed).bind fun produced five => ?_
    change Block.Onward backend _ (runSl1 backend produced).world.block
    have same : produced.world.block = { machine.world.block with
        tick := saturatingAdd u64Max machine.world.block.tick 1 } := (five.trans four).trans three
    rw [runSl1_block backend same]
    exact .ticked _ _

end Tick

section Voyages

variable {Host Log Observation : Type}

theorem transitSystems_aloof (display : Float32 → String)
    (agents : Systems Transit Host Log Observation) : (transitSystems display agents).Aloof where
  lifecycle _ := rfl
  movement _ := rfl
  interaction _ := rfl
  production _ := rfl
  applyAction _ _ _ := rfl

theorem Voyage.step_block (display : Float32 → String) (agents : Systems Transit Host Log Observation)
    (backend : AgentBackend) (voyage : Voyage Host Log) (step : DriverStep) :
    (voyage.step (transitSystems display agents) backend step).Ensures fun after =>
      Block.Onward backend voyage.machine.world.block after.machine.world.block := by
  cases step with
  | tick =>
    refine (tickOnce_block (transitSystems_aloof display agents) backend voyage.machine).bind ?_
    intro after onward
    exact onward
  | act agentId action => exact .still
  | enter state => exact .still

/-- The world of some run from the scene, whoever drives it. -/
def LoadedScene.Reaches (scene : LoadedScene) (world : World Transit) : Prop :=
  ∃ (Host Log Observation : Type) (display : Float32 → String)
    (agents : Systems Transit Host Log Observation) (backend : AgentBackend)
    (runner : TickRunner Host Log) (steps : List DriverStep) (voyage : Voyage Host Log),
    steps.foldlM (Voyage.step (transitSystems display agents) backend)
      { machine := ⟨scene.world, runner⟩ } = .done voyage ∧ voyage.machine.world = world

namespace LoadedScene.Reaches

variable {scene : LoadedScene} {world : World Transit} (reaches : scene.Reaches world)
include reaches

/-- What holds of the block of a scene, and is kept by its ticks, holds on the whole run. -/
theorem block {holds : Block → Prop} (loaded : holds scene.world.block)
    (ticked : ∀ backend events messages before, holds before →
      holds (before.ticked backend events messages)) : holds world.block := by
  obtain ⟨Host, Log, Observation, display, agents, backend, runner, steps, voyage, ran, rfl⟩ := reaches
  have each (before : Voyage Host Log) (step : DriverStep) (held : holds before.machine.world.block) :
      (before.step (transitSystems display agents) backend step).Ensures fun after =>
        holds after.machine.world.block := by
    refine (Voyage.step_block display agents backend before step).mono ?_
    rintro after onward
    generalize after.machine.world.block = block at onward
    cases onward with
    | still => exact held
    | ticked events messages => exact ticked backend events messages _ held
  have start : (fun voyage : Voyage Host Log => holds voyage.machine.world.block)
      { machine := ⟨scene.world, runner⟩ } := loaded
  have kept := Run.Ensures.foldlM each steps start
  rw [ran] at kept
  exact kept

/-- The network of a reached world is intact. -/
theorem intact {llmLive : Bool} {raw : RawScene}
    (accepted : SceneLoader.validate llmLive raw = .ok scene) : world.network.Intact := by
  obtain ⟨Host, Log, Observation, display, agents, backend, runner, steps, voyage, ran, rfl⟩ := reaches
  obtain ⟨other, same, sound⟩ := movers_walk display agents backend accepted runner steps
  rw [ran] at same
  cases same
  exact sound.intact

end LoadedScene.Reaches

namespace SceneLoader

/-- An accepted scene's world holds its block, which the validator accepted, freshly loaded. -/
theorem validate_block {llmLive : Bool} {raw : RawScene} {scene : LoadedScene}
    (accepted : SceneLoader.validate llmLive raw = .ok scene) :
    scene.world.block = ⟨0, scene.sl1, scene.sl1.map .fromScene⟩ ∧
      ∀ block, scene.sl1 = some block → ∃ source, Sl1.validate source = .ok block := by
  simp only [SceneLoader.validate, bind_eq_ok] at accepted
  obtain ⟨theme, -, ⟨nodeIds, nodes⟩, -, ⟨pathIds, paths⟩, -, ⟨moverIds, movers⟩, -,
    ⟨resourceIds, resources⟩, -, inventory, -, ⟨producerIds, producers⟩, -,
    ⟨consumerIds, consumers⟩, -, agents, -, sl1, blockRead, same⟩ := accepted
  cases same
  refine ⟨rfl, ?_⟩
  rintro block rfl
  cases given : raw.sl1 with
  | none =>
    rw [given] at blockRead
    cases blockRead
  | some source =>
    rw [given] at blockRead
    unfold loadValue at blockRead
    cases source with
    | error problem => cases blockRead
    | ok source =>
      cases checked : Sl1.validate source with
      | error problem =>
        simp only [Option.mapM_some, checked] at blockRead
        cases blockRead
      | ok read =>
        simp only [Option.mapM_some, checked] at blockRead
        cases blockRead
        exact ⟨source, checked⟩

end SceneLoader

end Voyages

end Simetro.Engine
