import Simetro.Engine.NetworkRuns

/-! Worlds under ticks and agents' actions, with what each step answers. A tick of a world
without an SL1 block is that of the tick runner with agents who choose so. -/

namespace Simetro.Engine

open Simetro.Library Simetro.Protocol Simetro.Sl1

inductive Verdict where
  | applied
  | unchanged
  | rejected
  deriving DecidableEq

def ActionOutcome.verdict : ActionOutcome → Verdict
  | .applied => .applied
  | .noChange => .unchanged
  | .rejected _ => .rejected

structure Response where
  verdicts : List Verdict := []
  events : List SimEvent := []
  deriving DecidableEq

section Steps

variable (display : Float32 → String)

/-- The chosen actions, applied one after the other. -/
def applyAll (transit : Transit) : List (String × Action) → Transit × Response
  | [] => (transit, {})
  | (agentId, action) :: rest =>
    let (transit, events, outcome) := applyAction display transit agentId action
    let (transit, later) := applyAll transit rest
    (transit, {
      verdicts := outcome.verdict :: later.verdicts
      events := events ++ .agentDecided agentId action.tag :: later.events })

/-- One tick in which agents choose these actions. -/
def tickWith (world : World Transit) (chosen : List (String × Action)) : World Transit × Response :=
  if world.state = .paused ∨ world.state = .faulted then (world, {})
  else
    let tick := saturatingAdd u64Max world.tick 1
    let (transit, spawned) := Lifecycle.run world.network
    let arrived := Movement.run transit
    let (transit, response) := applyAll display arrived.transit chosen
    let (transit, departed) := Interaction.run transit
    ({ world with
        tick
        state := if world.state = .idle ∨ world.state = .loaded then .running else world.state
        network := Production.run tick transit },
      { response with
        events := spawned ++ arrived.events ++ response.events ++ departed ++ [.tick tick] })

inductive WorldStep where
  | act (agentId : String) (action : Action)
  | tick (chosen : List (String × Action))

def worldStep (world : World Transit) : WorldStep → World Transit × Response
  | .act agentId action =>
    let (transit, events, outcome) := applyAction display world.network agentId action
    ({ world with network := transit }, ⟨[outcome.verdict], events⟩)
  | .tick chosen => tickWith display world chosen

/-- The world after the steps. -/
def worldAfter (world : World Transit) (steps : List WorldStep) : World Transit :=
  steps.foldl (fun world step => (worldStep display world step).1) world

/-- A world reached from a scene that loads, without an SL1 block. -/
def Reached (world : World Transit) : Prop :=
  ∃ llmLive raw scene steps, SceneLoader.validate llmLive raw = .ok scene ∧
    scene.world.sl1 = none ∧ worldAfter display scene.world steps = world

end Steps

/-- Agents who each choose one action, whatever they see. -/
def scripted : Systems Transit (String × Action) Unit Unit where
  lifecycle := .done
  movement machine := .done (machine, 0)
  interaction := .done
  production := .done
  hostId host := host.1
  shouldFire _ _ := true
  observeOnly host _ := (host, ())
  step host _ := (host, .ok {
    tick := 0, agentId := host.1, considered := [], chosen := some host.2, rationale := ""
    confidence := 0 })
  applyAction machine _ _ := .done (machine, .noChange)
  append log _ _ _ := (log, none)

section Scripted

variable (display : Float32 → String)

theorem runAgent_scripted (tick : Nat) {machine : Machine Transit (String × Action) Unit}
    (logless : machine.runner.agentLog = none) {index : Nat} {agentId : String} {action : Action}
    (listed : machine.runner.hosts[index]? = some (agentId, action)) :
    ∃ after, runAgent (transitSystems display scripted) tick machine index = .done after ∧
      after.world = { machine.world with
        network := (applyAction display machine.world.network agentId action).1 } ∧
      after.runner.events = machine.runner.events ++
        (applyAction display machine.world.network agentId action).2.1 ++
          [.agentDecided agentId action.tag] ∧
      after.runner.hosts = machine.runner.hosts ∧ after.runner.agentLog = none := by
  have kept : machine.runner.hosts.set index (agentId, action) = machine.runner.hosts := by
    apply List.ext_getElem?
    intro position
    rw [List.getElem?_set]
    split
    · rename_i here
      subst here
      rw [listed, if_pos (List.getElem?_eq_some_iff.mp listed).1]
    · rfl
  unfold runAgent
  rw [listed]
  simp only [transitSystems, scripted, logless, Bool.not_true, Bool.false_eq_true, if_false,
    Option.isSome_none, applyChosen]
  have network : (machine.setHost index (agentId, action)).world.network = machine.world.network := rfl
  simp only [network]
  generalize applyAction display machine.world.network agentId action = answer
  obtain ⟨transit, events, outcome⟩ := answer
  cases outcome with
  | noChange | rejected => exact ⟨_, rfl, rfl, rfl, kept, logless⟩
  | applied =>
    cases actionChangesTopology action with
    | false => exact ⟨_, rfl, rfl, rfl, kept, logless⟩
    | true => exact ⟨_, rfl, rfl, rfl, kept, logless⟩

/-- The agents' pass with such agents applies their actions in order. -/
theorem runAgents_scripted (tick : Nat) (rest : List (String × Action)) :
    ∀ (front : List (String × Action)) (machine : Machine Transit (String × Action) Unit),
      machine.runner.agentLog = none → machine.runner.hosts = front ++ rest →
      ∃ after, (List.range' front.length rest.length).foldlM
          (runAgent (transitSystems display scripted) tick) machine = .done after ∧
        after.world = { machine.world with
          network := (applyAll display machine.world.network rest).1 } ∧
        after.runner.events =
          machine.runner.events ++ (applyAll display machine.world.network rest).2.events := by
  induction rest with
  | nil =>
    intro front machine _ _
    exact ⟨machine, rfl, rfl, by simp [applyAll]⟩
  | cons chosen rest ih =>
    intro front machine logless hosts
    obtain ⟨agentId, action⟩ := chosen
    obtain ⟨middle, ran, world, events, sameHosts, stillLogless⟩ :=
      runAgent_scripted display tick logless
        (show machine.runner.hosts[front.length]? = some (agentId, action) by simp [hosts])
    obtain ⟨after, later, lastWorld, lastEvents⟩ := ih (front ++ [(agentId, action)]) middle
      stillLogless (by simp [sameHosts, hosts])
    have network : middle.world.network =
        (applyAction display machine.world.network agentId action).1 := by rw [world]
    refine ⟨after, ?_, ?_, ?_⟩
    · rw [List.length_cons, List.range'_succ, List.foldlM_cons, ran]
      change List.foldlM _ middle _ = _
      simpa using later
    · rw [lastWorld, network, world]
      rfl
    · rw [lastEvents, network, events]
      simp [applyAll]

theorem runSl1_legacy {Host Log : Type} (backend : AgentBackend) {machine : Machine Transit Host Log}
    (legacy : machine.world.sl1 = none) : runSl1 backend machine = machine := by
  unfold runSl1
  rw [legacy]

/-- The tick runner with agents who choose so ticks a world without an SL1 block alike. -/
theorem tickOnce_scripted (backend : AgentBackend) {world : World Transit}
    (legacy : world.sl1 = none) (chosen : List (String × Action)) :
    ∃ runner, tickOnce (transitSystems display scripted) backend ⟨world, { hosts := chosen }⟩ =
        .done ⟨(tickWith display world chosen).1, runner⟩ ∧
      runner.events = (tickWith display world chosen).2.events := by
  unfold tickOnce tickWith
  by_cases idle : world.state = .paused ∨ world.state = .faulted
  · simp only [if_pos idle]
    exact ⟨_, rfl, rfl⟩
  · simp only [if_neg idle]
    let start : Machine Transit (String × Action) Unit :=
      { world := { world with
          state := if world.state = .idle ∨ world.state = .loaded then .running else world.state
          tick := saturatingAdd u64Max world.tick 1 }
        runner := { hosts := chosen } }
    let moved : Machine Transit (String × Action) Unit :=
      let spawned := start.advance (Lifecycle.run world.network)
      let arrived := Movement.run spawned.world.network
      spawned.advance (arrived.transit, arrived.events)
    obtain ⟨⟨last, runner⟩, ran, sameWorld, events⟩ :=
      runAgents_scripted display moved.world.tick chosen [] moved rfl rfl
    have acted : runAgents (transitSystems display scripted) moved = .done ⟨last, runner⟩ := by
      rw [runAgents, List.range_eq_range']
      exact ran
    have passes : runPasses (transitSystems display scripted) backend start =
        (runAgents (transitSystems display scripted) moved).bind fun machine =>
          let departed := machine.advance (Interaction.run machine.world.network)
          let produced := departed.advance
            (Production.run departed.world.tick departed.world.network, [])
          let told := (runSl1 backend produced).emit (.tick produced.world.tick)
          .done { told with runner := { told.runner with
            lastArrivals := (Movement.run (Lifecycle.run world.network).1).count } } := rfl
    simp only at sameWorld events
    subst sameWorld
    change ∃ runner, runPasses (transitSystems display scripted) backend start = _ ∧ _
    rw [passes, acted]
    simp only [Run.bind]
    rw [runSl1_legacy backend legacy]
    refine ⟨_, rfl, ?_⟩
    simp [Machine.advance, Machine.emit, events, moved, start]

end Scripted

end Simetro.Engine
