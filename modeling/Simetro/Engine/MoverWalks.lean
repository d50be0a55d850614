import Simetro.Engine.MoverMoves
import Simetro.Engine.NetworkRuns
import Simetro.Sl1.Transcript

/-! Over every run from an accepted scene, the departures and arrivals of each mover are a walk
along the paths of the network, which ends where the mover is. -/

namespace Simetro.Engine

open Simetro.Library Simetro.Protocol Simetro.Sl1

namespace Run

variable {State α : Type}

theorem Ensures.mono {holds more : α → Prop} {run : Run State α} (ensures : run.Ensures holds)
    (weaker : ∀ value, holds value → more value) : run.Ensures more := by
  cases run with
  | done value => exact weaker value ensures
  | panicked state message => exact ensures

theorem Ensures.forall_ {Label : Type} {holds : Label → α → Prop} {run : Run State α} [Nonempty Label]
    (each : ∀ label, run.Ensures (holds label)) : run.Ensures fun value => ∀ label, holds label value := by
  cases run with
  | done value => exact each
  | panicked state message => exact (each (Classical.arbitrary Label)).elim

end Run

section Agents

variable {Network Host Log Observation : Type} {systems : Systems Network Host Log Observation}
  {keep : SimEvent → Bool} {holds : Network → List SimEvent → Prop}

/-- What holds of the network and of the events kept in view. -/
def Machine.Shows (keep : SimEvent → Bool) (holds : Network → List SimEvent → Prop)
    (machine : Machine Network Host Log) : Prop :=
  holds machine.world.network (machine.runner.events.filter keep)

theorem Machine.Shows.logDecision {machine : Machine Network Host Log}
    (shows_ : machine.Shows keep holds) (agentId : String) (report : AgentReport)
    (seen : Option Observation) : (logDecision systems machine agentId report seen).Shows keep holds := by
  unfold Engine.logDecision
  split
  · exact shows_
  · split
    · exact shows_
    · dsimp only
      split <;> exact shows_

variable (silent : ∀ agentId tag, keep (.agentDecided agentId tag) = false)
  (acts : ∀ machine agentId action, machine.Shows keep holds →
    (systems.applyAction machine agentId action).Ensures fun after => after.1.Shows keep holds)
include silent

theorem Machine.Shows.decide {machine : Machine Network Host Log} (shows_ : machine.Shows keep holds)
    (agentId : String) (tag : ActionTag) : (machine.emit (.agentDecided agentId tag)).Shows keep holds := by
  unfold Machine.Shows Machine.emit at *
  rw [List.filter_append, List.filter_cons, silent]
  simpa using shows_

include acts

theorem runAgent_shows (tick : Nat) (machine : Machine Network Host Log) (index : Nat)
    (shows_ : machine.Shows keep holds) :
    (runAgent systems tick machine index).Ensures (Machine.Shows keep holds) := by
  unfold runAgent
  split
  · exact shows_
  · split
    · exact shows_
    · dsimp only
      split
      · rename_i report reported
        refine Run.Ensures.bind (?_ : Run.Ensures (Machine.Shows keep holds) _) fun after kept =>
          kept.logDecision _ report _
        cases report.chosen with
        | none => exact Machine.Shows.decide silent (by exact shows_) _ _
        | some action =>
          refine (acts _ _ action (by exact shows_)).bind fun ⟨after, outcome⟩ kept => ?_
          cases outcome with
          | rejected warning => exact Machine.Shows.decide silent (by exact kept) _ _
          | noChange => exact Machine.Shows.decide silent kept _ _
          | applied =>
            dsimp only
            split <;> exact Machine.Shows.decide silent (by exact kept) _ _
      · split <;> exact shows_

theorem runAgents_shows {machine : Machine Network Host Log} (shows_ : machine.Shows keep holds) :
    (runAgents systems machine).Ensures (Machine.Shows keep holds) :=
  Run.Ensures.foldlM (runAgent_shows silent acts _) _ shows_

end Agents

section Tick

variable {Host Log Observation : Type} {id : MoverId} {place : Place}

theorem home_placed {transit : Transit} (intact : transit.Intact) {path : Path}
    (home : transit.home id = some path) : transit.paths[path.id]? = some path := by
  obtain ⟨mover, -, found⟩ := Option.bind_eq_some_iff.mp home
  rw [(intact.paths _ path found).own]
  exact found

/-- The SL1 pass tells nothing of movers. -/
theorem runSl1_moves (backend : AgentBackend) (machine : Machine Transit Host Log) :
    (runSl1 backend machine).runner.events.filter (SimEvent.moves id) =
      machine.runner.events.filter (SimEvent.moves id) := by
  unfold runSl1
  split
  · rename_i scene runtime present active
    have extended := run_extends scene backend machine.world.tick
      ⟨runtime, machine.runner.events, machine.runner.messages, [], [], []⟩
    refine extended.filter fun event topic known about => ?_
    cases event <;> first | rfl | cases about
  · rfl

/-- The events in the buffer walk the mover from a place it had on the network to the one it
has: along paths that are there now, to the ends of paths that were there. -/
structure Walked (id : MoverId) (start : Transit) (place : Place) (machine : Machine Transit Host Log) :
    Prop where
  intact : machine.world.network.Intact
  walk : ∃ next, EventWalk id (fun path => machine.world.network.paths[path.id]? = some path)
    (fun path => start.paths[path.id]? = some path) place
    (machine.runner.events.filter (SimEvent.moves id)) next ∧ machine.world.network.Holds id next

/-- Between the passes before the agents and those after them: what an action leaves alone. -/
structure Awaiting (id : MoverId) (place : Place) (home : Option Path) (told : List SimEvent)
    (transit : Transit) (events : List SimEvent) : Prop where
  intact : transit.Intact
  placed : transit.Holds id place
  home : transit.home id = home
  events : events = told

variable (display : Float32 → String) (agents : Systems Transit Host Log Observation)

theorem applyAction_awaiting {home : Option Path} {told : List SimEvent}
    (machine : Machine Transit Host Log) (agentId : String) (action : Action)
    (awaiting : machine.Shows (SimEvent.moves id) (Awaiting id place home told)) :
    ((transitSystems display agents).applyAction machine agentId action).Ensures
      fun after => after.1.Shows (SimEvent.moves id) (Awaiting id place home told) := by
  have intact := applyAction_intact awaiting.intact display agentId action
  refine ⟨intact, applyAction_holds awaiting.intact awaiting.placed display agentId action,
    (applyAction_home awaiting.intact display agentId action).trans awaiting.home, ?_⟩
  change (machine.runner.events ++
    (applyAction display machine.world.network agentId action).2.1).filter _ = told
  rw [List.filter_append, applyAction_unmoved, List.append_nil]
  exact awaiting.events

theorem runPasses_walks (backend : AgentBackend) {machine : Machine Transit Host Log}
    (fresh : machine.runner.events = []) (intact : machine.world.network.Intact)
    (holds : machine.world.network.Holds id place) :
    (runPasses (transitSystems display agents) backend machine).Ensures
      (Walked id machine.world.network place) := by
  let start := machine.world.network
  let spawned := Lifecycle.run start
  have spawnedIntact : spawned.1.Intact := Lifecycle.run_intact intact
  obtain ⟨spawnedPaths, spawnedHome, out, walkOut, holdsOut⟩ := Lifecycle.run_passing intact holds
  let moved := Movement.run spawned.1
  have movedIntact : moved.transit.Intact := Movement.run_intact spawnedIntact
  obtain ⟨-, movedHome, landed, walkIn, holdsIn⟩ := Movement.run_passing holdsOut
  have ready : Machine.Shows (SimEvent.moves id)
      (Awaiting id landed (start.home id) ((spawned.2 ++ moved.events).filter (SimEvent.moves id)))
      ((machine.advance spawned).advance (moved.transit, moved.events)) := by
    refine ⟨movedIntact, holdsIn, movedHome.trans spawnedHome, ?_⟩
    change ((machine.runner.events ++ spawned.2) ++ moved.events).filter _ = _
    rw [fresh, List.nil_append]
  refine (runAgents_shows (fun _ _ => rfl) (applyAction_awaiting display agents) ready).bind ?_
  intro acted awaiting
  obtain ⟨departedPaths, departedHome, next, walkAgain, holdsAgain⟩ :=
    Interaction.run_passing awaiting.intact awaiting.placed
  let departed := acted.advance (Interaction.run acted.world.network)
  let produced := departed.advance (Production.run departed.world.tick departed.world.network, [])
  have producedIntact : produced.world.network.Intact :=
    Production.run_intact (Interaction.run_intact awaiting.intact) _
  let closed := (runSl1 backend produced).emit (.tick produced.world.tick)
  have network : closed.world.network = produced.world.network := (runSl1_network backend produced).1
  have told : closed.runner.events.filter (SimEvent.moves id) =
      (spawned.2.filter (SimEvent.moves id) ++ moved.events.filter (SimEvent.moves id)) ++
        (Interaction.run acted.world.network).2.filter (SimEvent.moves id) := by
    change ((runSl1 backend produced).runner.events ++
      [SimEvent.tick produced.world.tick]).filter (SimEvent.moves id) = _
    rw [List.filter_append, runSl1_moves]
    change ((acted.runner.events ++ (Interaction.run acted.world.network).2) ++ []).filter
      (SimEvent.moves id) ++ [] = _
    rw [List.append_nil, List.append_nil, List.filter_append, awaiting.events, List.filter_append]
  change Walked id start place _
  refine ⟨network ▸ producedIntact, next, ?_, ?_⟩
  · change EventWalk id (fun path => closed.world.network.paths[path.id]? = some path) _ _
      (closed.runner.events.filter (SimEvent.moves id)) _
    rw [told, network]
    -- the home path is there from first to last
    have home : produced.world.network.home id = start.home id :=
      departedHome.trans awaiting.home
    have first : EventWalk id (fun path => produced.world.network.paths[path.id]? = some path)
        (fun path => start.paths[path.id]? = some path) place (spawned.2.filter (SimEvent.moves id)) out :=
      walkOut.mono (fun _ _ told => ⟨told.1, home_placed producedIntact (home.trans told.2)⟩)
        (fun _ _ told => told.2.elim)
    have second : EventWalk id (fun path => produced.world.network.paths[path.id]? = some path)
        (fun path => start.paths[path.id]? = some path) out (moved.events.filter (SimEvent.moves id)) landed :=
      walkIn.mono (fun _ _ told => told.2.elim) (fun _ _ told => ⟨told.1, spawnedPaths ▸ told.2⟩)
    have third : EventWalk id (fun path => produced.world.network.paths[path.id]? = some path)
        (fun path => start.paths[path.id]? = some path) landed
        ((Interaction.run acted.world.network).2.filter (SimEvent.moves id)) next :=
      walkAgain.mono (fun _ path told => ⟨told.1, (congrArg (·[path.id]?) departedPaths).trans told.2⟩)
        (fun _ _ told => told.2.elim)
    exact (first.trans second).trans third
  · exact network ▸ holdsAgain

/-- A tick keeps the network intact and walks every mover on from where it was. -/
theorem tickOnce_walks (backend : AgentBackend) {machine : Machine Transit Host Log}
    (intact : machine.world.network.Intact) (holds : machine.world.network.Holds id place) :
    (tickOnce (transitSystems display agents) backend machine).Ensures
      (Walked id machine.world.network place) := by
  unfold tickOnce
  split
  · exact ⟨intact, place, .stay place, holds⟩
  · exact runPasses_walks display agents backend rfl intact holds

end Tick

section Voyages

variable {Host Log Observation : Type}

/-- An event of a run, with the paths from before the step that pushed it and from after. -/
structure Sighting where
  before : Std.ExtTreeMap PathId Path
  after : Std.ExtTreeMap PathId Path
  event : SimEvent

namespace Sighting

variable (id : MoverId) (sighting : Sighting) (path : Path)

/-- The mover departs from the start of a path that is there after the step. -/
structure Departs : Prop where
  event : sighting.event = .moverDeparted id path.source path.id
  there : sighting.after[path.id]? = some path

/-- The mover arrives at the end of a path that was there before the step. -/
structure Arrives : Prop where
  event : sighting.event = .moverArrived id path.target path.id
  there : sighting.before[path.id]? = some path

end Sighting

/-- A world and its runner, with every event pushed so far. -/
structure Voyage (Host Log : Type) where
  machine : Machine Transit Host Log
  sightings : List Sighting := []

/-- What drives an engine: ticks, actions from outside and changes of the state it is in. -/
inductive DriverStep where
  | tick
  | act (agentId : String) (action : Action)
  | enter (state : RunState)

namespace Voyage

variable (voyage : Voyage Host Log)

/-- Go on to a machine whose step pushed the events. -/
def proceed (machine : Machine Transit Host Log) (events : List SimEvent) : Voyage Host Log where
  machine
  sightings := voyage.sightings ++
    events.map (.mk voyage.machine.world.network.paths machine.world.network.paths)

def step (systems : Systems Transit Host Log Observation) (backend : AgentBackend)
    (voyage : Voyage Host Log) : DriverStep → Run (Machine Transit Host Log) (Voyage Host Log)
  | .tick => do
    let machine ← tickOnce systems backend voyage.machine
    -- a tick empties the buffer before its passes
    return voyage.proceed machine machine.runner.events
  | .act agentId action => do
    let (machine, _) ← systems.applyAction voyage.machine agentId action
    return voyage.proceed machine
      (machine.runner.events.drop voyage.machine.runner.events.length)
  | .enter state => return voyage.proceed (voyage.machine.enter state) []

/-- The mover's departures and arrivals are a walk from nowhere to where the network has it. -/
def Walks (id : MoverId) : Prop :=
  ∃ place, Walk Path.source Path.target (Sighting.Departs id) (Sighting.Arrives id) .unstarted
      (voyage.sightings.filter fun sighting => sighting.event.moves id) place ∧
    voyage.machine.world.network.Holds id place

/-- Every mover has walked, and nothing it needs has been removed. -/
structure Sound : Prop where
  intact : voyage.machine.world.network.Intact
  walks : ∀ id, voyage.Walks id

end Voyage

variable {voyage : Voyage Host Log}

theorem Voyage.Walks.proceed {id : MoverId} {place next : Place}
    (walk : Walk Path.source Path.target (Sighting.Departs id) (Sighting.Arrives id) .unstarted
      (voyage.sightings.filter fun sighting => sighting.event.moves id) place)
    {machine : Machine Transit Host Log} {events : List SimEvent}
    (onward : EventWalk id (fun path => machine.world.network.paths[path.id]? = some path)
      (fun path => voyage.machine.world.network.paths[path.id]? = some path) place
      (events.filter (SimEvent.moves id)) next)
    (holds : machine.world.network.Holds id next) : (voyage.proceed machine events).Walks id := by
  refine ⟨next, ?_, holds⟩
  change Walk _ _ _ _ _ ((voyage.sightings ++ events.map _).filter _) _
  rw [List.filter_append, List.filter_map]
  exact walk.trans (onward.map (fun _ _ told => ⟨told.1, told.2⟩) (fun _ _ told => ⟨told.1, told.2⟩))

theorem Voyage.step_sound (display : Float32 → String) (agents : Systems Transit Host Log Observation)
    (backend : AgentBackend) (voyage : Voyage Host Log) (step : DriverStep) (sound : voyage.Sound) :
    (voyage.step (transitSystems display agents) backend step).Ensures Voyage.Sound := by
  cases step with
  | tick =>
    have each (id : MoverId) : (tickOnce (transitSystems display agents) backend voyage.machine).Ensures
        fun machine => machine.world.network.Intact ∧
          (voyage.proceed machine machine.runner.events).Walks id := by
      obtain ⟨place, walk, holds⟩ := sound.walks id
      refine (tickOnce_walks display agents backend sound.intact holds).mono ?_
      intro machine walked
      obtain ⟨next, onward, there⟩ := walked.walk
      exact ⟨walked.intact, .proceed walk onward there⟩
    refine (Run.Ensures.forall_ each).bind ?_
    intro machine kept
    exact ⟨(kept 0).1, fun id => (kept id).2⟩
  | act agentId action =>
    refine ⟨applyAction_intact sound.intact display agentId action, fun id => ?_⟩
    obtain ⟨place, walk, holds⟩ := sound.walks id
    refine .proceed walk ?_ (applyAction_holds sound.intact holds display agentId action)
    change EventWalk _ _ _ _ (((voyage.machine.runner.events ++
      (applyAction display voyage.machine.world.network agentId action).2.1).drop _).filter _) _
    rw [List.drop_left, applyAction_unmoved]
    exact .stay place
  | enter state =>
    refine ⟨sound.intact, fun id => ?_⟩
    obtain ⟨place, walk, holds⟩ := sound.walks id
    exact .proceed walk (.stay place) holds

namespace SceneLoader

/-- Movers start out empty. -/
theorem validate_unstarted {llmLive : Bool} {raw : RawScene} {scene : LoadedScene}
    (accepted : SceneLoader.validate llmLive raw = .ok scene) (id : MoverId) :
    scene.world.network.Holds id .unstarted := by
  simp only [SceneLoader.validate, bind_eq_ok] at accepted
  obtain ⟨theme, -, ⟨nodeIds, nodes⟩, -, ⟨pathIds, paths⟩, -, ⟨moverIds, movers⟩, moversRead,
    ⟨resourceIds, resources⟩, -, inventory, -, ⟨producerIds, producers⟩, -,
    ⟨consumerIds, consumers⟩, -, agents, -, sl1, -, same⟩ := accepted
  cases same
  intro mover found
  obtain ⟨index, raw, -, built, -⟩ := (loadSection_loaded Loaded.empty moversRead).built id mover found
  simp only [buildMover, bind_eq_ok, present_eq_ok] at built
  obtain ⟨_, -, onPath, -, same⟩ := built
  cases same
  rfl

end SceneLoader

/-- In every run from an accepted scene, each mover's events are a walk along paths of the
network that ends where the mover is, and the network stays intact. -/
theorem movers_walk (display : Float32 → String) (agents : Systems Transit Host Log Observation)
    (backend : AgentBackend) {llmLive : Bool} {raw : RawScene} {scene : LoadedScene}
    (accepted : SceneLoader.validate llmLive raw = .ok scene) (runner : TickRunner Host Log)
    (steps : List DriverStep) :
    ∃ voyage, steps.foldlM (Voyage.step (transitSystems display agents) backend)
        { machine := ⟨scene.world, runner⟩ } = .done voyage ∧ voyage.Sound := by
  have loaded : (Voyage.mk (Machine.mk scene.world runner) []).Sound :=
    ⟨SceneLoader.validate_intact accepted, fun id =>
      ⟨.unstarted, .stay _, SceneLoader.validate_unstarted accepted id⟩⟩
  exact (Run.Ensures.foldlM (Voyage.step_sound display agents backend) steps loaded).done

/-- A tick, a way back for the train and an attempt to remove a station it needs, then more ticks
around a pause. -/
def shuttleDrive : List DriverStep :=
  [.tick, .act "builder" (.connectPieces 1 0), .act "builder" (.removePiece 0), .tick, .enter .paused,
    .tick, .enter .running, .tick]

theorem movers_walk_shuttle :
    ∃ scene, SceneLoader.validate false shuttleScene = .ok scene ∧
      ∃ voyage, shuttleDrive.foldlM (Voyage.step (transitSystems (fun _ => "") unattended)
        defaultBackend) { machine := ⟨scene.world, {}⟩ } = .done voyage ∧ voyage.Sound := by
  have accepts : yields (SceneLoader.validate false shuttleScene) (fun _ => true) = true := by
    decide +kernel
  obtain ⟨scene, accepted, -⟩ := yields_iff.mp accepts
  exact ⟨scene, accepted,
    movers_walk (fun _ => "") unattended defaultBackend accepted {} shuttleDrive⟩

end Voyages

end Simetro.Engine
