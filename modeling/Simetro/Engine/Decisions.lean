import Simetro.Engine.ActionEffects
import Simetro.Engine.AgentHost
import Simetro.Sl1.Transcript

/-! What the agents decide in a tick, and where it shows: one event, one report and one row
of the log for each decision, from no other source. -/

namespace Simetro.Protocol

def SimEvent.isDecided : SimEvent → Bool
  | .agentDecided _ _ => true
  | _ => false

def SimMessage.report? : SimMessage → Option AgentReport
  | .agentReport report => some report
  | _ => none

end Simetro.Protocol

namespace Simetro.Engine

open Simetro.Library Simetro.Protocol Simetro.Sl1

/-- The report of an agent, with what it saw where a log asked for it. -/
structure Decision where
  agentId : String
  seen : Option Observation
  report : AgentReport

namespace Decision

def event (decision : Decision) : SimEvent :=
  .agentDecided decision.agentId ((decision.report.chosen.map Action.tag).getD .noOp)

end Decision

section Passes

/-- No event of an agent's decision. -/
def Undecided (events : List SimEvent) : Prop := ∀ event ∈ events, event.isDecided = false

theorem Undecided.append {events more : List SimEvent} (early : Undecided events)
    (late : Undecided more) : Undecided (events ++ more) := by
  intro event listed
  rcases List.mem_append.mp listed with first | second
  · exact early event first
  · exact late event second

theorem Undecided.snoc {events : List SimEvent} (early : Undecided events) {event : SimEvent}
    (other : event.isDecided = false) : Undecided (events ++ [event]) :=
  early.append fun _ listed => List.mem_singleton.mp listed ▸ other

theorem Undecided.nil : Undecided [] := fun _ listed => absurd listed List.not_mem_nil

variable {transit : Transit}

theorem Lifecycle.run_undecided : Undecided (Lifecycle.run transit).2 := by
  refine List.foldlRecOn (motive := fun now : Transit × List SimEvent => Undecided now.2) _ _
    Undecided.nil fun now quiet spawn _ => ?_
  unfold Lifecycle.spawnOne
  split
  · exact quiet
  · split
    · exact quiet
    · split
      · exact quiet
      · exact quiet.snoc rfl

theorem Movement.run_undecided : Undecided (Movement.run transit).events := by
  refine List.foldlRecOn (motive := fun now : Movement.Arrived => Undecided now.events) _ _
    Undecided.nil fun now quiet arrival _ => ?_
  unfold Movement.arriveOne
  split
  · split
    · exact quiet
    · exact quiet.snoc rfl
  · exact quiet

theorem Interaction.run_undecided : Undecided (Interaction.run transit).2 := by
  refine List.foldlRecOn (motive := fun now : Transit × List SimEvent => Undecided now.2) _ _
    Undecided.nil fun now quiet route _ => ?_
  unfold Interaction.departOne
  split
  · exact quiet
  · split
    · exact quiet
    · exact quiet.snoc rfl

theorem Actions.attempt_undecided {display : Float32 → String} {action : Action} {after : Transit}
    {events : List SimEvent} (accepted : Actions.attempt display transit action = .ok (some (after, events))) :
    Undecided events :=
  Actions.attempt_pushes (fun _ _ _ => rfl) (fun _ _ => rfl) (fun _ => rfl) accepted

theorem applyAction_undecided (display : Float32 → String) (agentId : String) (action : Action) :
    Undecided (applyAction display transit agentId action).2.1 := by
  unfold applyAction
  split
  · rename_i accepted
    exact Actions.attempt_undecided accepted
  · exact .nil
  · exact .nil

end Passes

section Decides

variable {Mind Log : Type}

/-- What an agent's host may decide, while it is as it should be. -/
structure Agent.Makes (agent : Agent Mind) (sound : AgentHost Mind → Prop)
    (may : Nat → Decision → Prop) : Prop where
  observes : ∀ host world, sound host → sound (host.observeOnly agent world).1
  steps : ∀ host world, sound host → sound (host.step agent world).1
  unseen : ∀ host world report, sound host → (host.step agent world).2 = .ok report →
    may world.tick ⟨host.id, none, report⟩
  logged : ∀ host world report, sound host →
    ((host.observeOnly agent world).1.step agent world).2 = .ok report →
      may world.tick ⟨host.id, some (host.observeOnly agent world).2, report⟩

variable (display : Float32 → String) (agent : Agent Mind)
  (append : Log → Observation → String → AgentReport → Log × Option WarningPayload)

/-- The log after a decision. -/
def Decision.record (log : Option Log) (decision : Decision) : Option Log :=
  match log, decision.seen with
  | some log, some seen => some (append log seen decision.agentId decision.report).1
  | log, _ => log

/-- The decisions are what `after` shows beyond `before`. -/
structure Machine.Decides (before after : Machine Transit (AgentHost Mind) Log)
    (decisions : List Decision) : Prop where
  tick : after.world.tick = before.world.tick
  names : after.runner.hosts.map AgentHost.id = before.runner.hosts.map AgentHost.id
  decided : after.runner.events.filter SimEvent.isDecided =
    before.runner.events.filter SimEvent.isDecided ++ decisions.map Decision.event
  reports : after.runner.messages.filterMap SimMessage.report? =
    before.runner.messages.filterMap SimMessage.report? ++ decisions.map (·.report)
  log : after.runner.agentLog = decisions.foldl (Decision.record append) before.runner.agentLog

variable {append} {before middle after : Machine Transit (AgentHost Mind) Log}

namespace Machine.Decides

theorem refl : before.Decides append before [] := ⟨rfl, rfl, by simp, by simp, rfl⟩

theorem trans {early late : List Decision} (first : before.Decides append middle early)
    (second : middle.Decides append after late) : before.Decides append after (early ++ late) where
  tick := second.tick.trans first.tick
  names := second.names.trans first.names
  decided := by rw [second.decided, first.decided, List.map_append, List.append_assoc]
  reports := by rw [second.reports, first.reports, List.map_append, List.append_assoc]
  log := by rw [second.log, first.log, List.foldl_append]

/-- A pass of the network decides nothing. -/
theorem advance {pass : Transit × List SimEvent} (quiet : Undecided pass.2) :
    before.Decides append (before.advance pass) [] where
  tick := rfl
  names := rfl
  decided := by
    have none : pass.2.filter SimEvent.isDecided = [] :=
      List.filter_eq_nil_iff.mpr fun event listed => by simp [quiet event listed]
    simp [Machine.advance, none]
  reports := by simp [Machine.advance]
  log := rfl

theorem say {message : SimMessage} (other : message.report? = none) :
    before.Decides append (before.say message) [] :=
  ⟨rfl, rfl, by simp [Machine.say], by simp [Machine.say, other], rfl⟩

theorem emit {event : SimEvent} (other : event.isDecided = false) :
    before.Decides append (before.emit event) [] :=
  ⟨rfl, rfl, by simp [Machine.emit, other], by simp [Machine.emit], rfl⟩

theorem enter (state : RunState) : before.Decides append (before.enter state) [] :=
  ⟨rfl, rfl, by simp [Machine.enter], by simp [Machine.enter], rfl⟩

end Machine.Decides

variable (append) in
/-- The event of a decision comes behind those of its action. -/
theorem applyChosen_decides (machine : Machine Transit (AgentHost Mind) Log) (agentId : String)
    (chosen : Option Action) : ∃ after,
      applyChosen (hostedSystems display agent append) machine agentId chosen = .done after ∧
      after.world.tick = machine.world.tick ∧ after.runner.hosts = machine.runner.hosts ∧
      after.runner.agentLog = machine.runner.agentLog ∧
      after.runner.events.filter SimEvent.isDecided =
        machine.runner.events.filter SimEvent.isDecided ++
          [.agentDecided agentId ((chosen.map Action.tag).getD .noOp)] ∧
      after.runner.messages.filterMap SimMessage.report? =
        machine.runner.messages.filterMap SimMessage.report? := by
  cases chosen with
  | none =>
    refine ⟨_, rfl, rfl, rfl, rfl, ?_, rfl⟩
    simp [Machine.emit, SimEvent.isDecided]
  | some action =>
    have quiet : Undecided (applyAction display machine.world.network agentId action).2.1 :=
      applyAction_undecided display agentId action
    simp only [applyChosen, hostedSystems, transitSystems]
    generalize applyAction display machine.world.network agentId action = answer at quiet ⊢
    obtain ⟨transit, events, outcome⟩ := answer
    have none : events.filter SimEvent.isDecided = [] :=
      List.filter_eq_nil_iff.mpr fun event listed => by simp [quiet event listed]
    cases outcome with
    | noChange =>
      refine ⟨_, rfl, rfl, rfl, rfl, ?_, rfl⟩
      simp [Machine.emit, Machine.advance, SimEvent.isDecided, none]
    | rejected warning =>
      refine ⟨_, rfl, rfl, rfl, rfl, ?_, ?_⟩
      · simp [Machine.emit, Machine.say, Machine.advance, SimEvent.isDecided, none]
      · simp [Machine.emit, Machine.say, Machine.advance, SimMessage.report?]
    | applied =>
      cases actionChangesTopology action with
      | true =>
        refine ⟨_, rfl, rfl, rfl, rfl, ?_, rfl⟩
        simp [Machine.emit, Machine.advance, SimEvent.isDecided, none]
      | false =>
        refine ⟨_, rfl, rfl, rfl, rfl, ?_, rfl⟩
        simp [Machine.emit, Machine.advance, SimEvent.isDecided, none]

variable (append) in
theorem logDecision_decides (machine : Machine Transit (AgentHost Mind) Log) (decision : Decision) :
    let after := logDecision (hostedSystems display agent append) machine decision.agentId
      decision.report decision.seen
    after.world = machine.world ∧ after.runner.hosts = machine.runner.hosts ∧
      after.runner.agentLog = decision.record append machine.runner.agentLog ∧
      after.runner.events = machine.runner.events ∧
      after.runner.messages.filterMap SimMessage.report? =
        machine.runner.messages.filterMap SimMessage.report? := by
  unfold logDecision Decision.record
  cases decision.seen with
  | none =>
    refine ⟨rfl, rfl, ?_, rfl, rfl⟩
    cases machine.runner.agentLog <;> rfl
  | some seen =>
    cases logged : machine.runner.agentLog with
    | none => exact ⟨rfl, rfl, logged, rfl, rfl⟩
    | some log =>
      simp only [hostedSystems, transitSystems]
      cases (append log seen decision.agentId decision.report).2 with
      | none => exact ⟨rfl, rfl, rfl, rfl, rfl⟩
      | some warning => exact ⟨rfl, rfl, rfl, rfl, by simp [Machine.say, SimMessage.report?]⟩

/-- Putting a host back does not change who is registered. -/
theorem setHost_decides {machine : Machine Transit (AgentHost Mind) Log} {index : Nat}
    {host next : AgentHost Mind} (listed : machine.runner.hosts[index]? = some host)
    (named : next.id = host.id) : machine.Decides append (machine.setHost index next) [] := by
  refine ⟨rfl, ?_, by simp [Machine.setHost], by simp [Machine.setHost], rfl⟩
  change (machine.runner.hosts.set index next).map AgentHost.id = _
  rw [List.map_set, named]
  apply List.ext_getElem?
  intro position
  rw [List.getElem?_set, List.length_map, List.getElem?_map]
  split
  · rename_i here
    subst here
    rw [listed, if_pos (List.getElem?_eq_some_iff.mp listed).1]
    rfl
  · rfl

theorem step_id (host : AgentHost Mind) (world : World Transit) :
    (host.step agent world).1.id = host.id := by
  unfold AgentHost.step
  repeat' split
  all_goals rfl

theorem observeOnly_id (host : AgentHost Mind) (world : World Transit) :
    (host.observeOnly agent world).1.id = host.id := by
  unfold AgentHost.observeOnly
  split <;> rfl

/-- The decisions of the agents in the index range, each by the host it is of. -/
structure Machine.Round (append : Log → Observation → String → AgentReport → Log × Option WarningPayload)
    (sound : AgentHost Mind → Prop) (may : Nat → Decision → Prop) (indices : List Nat)
    (before after : Machine Transit (AgentHost Mind) Log) (decisions : List Decision) : Prop where
  decides : before.Decides append after decisions
  hosts : ∀ host ∈ after.runner.hosts, sound host
  allowed : ∀ decision ∈ decisions, may before.world.tick decision
  once : (decisions.map Decision.agentId).Sublist
    (indices.filterMap fun index => (before.runner.hosts.map AgentHost.id)[index]?)
  seen : before.runner.agentLog.isSome = true → ∀ decision ∈ decisions, decision.seen.isSome = true

theorem records_isSome (decisions : List Decision) (log : Option Log) :
    (decisions.foldl (Decision.record append) log).isSome = log.isSome := by
  induction decisions generalizing log with
  | nil => rfl
  | cons decision rest ih =>
    rw [List.foldl_cons, ih]
    unfold Decision.record
    split <;> rfl

private theorem filterMap_range {Entry : Type} (entries : List Entry) :
    ((List.range entries.length).filterMap fun index => entries[index]?) = entries := by
  induction entries with
  | nil => rfl
  | cons entry rest ih =>
    rw [List.length_cons, List.range_succ_eq_map, List.filterMap_cons, List.filterMap_map]
    exact congrArg (entry :: ·) ih

variable {sound : AgentHost Mind → Prop} {may : Nat → Decision → Prop}
  (makes : agent.Makes sound may)

theorem setHost_sound {machine : Machine Transit (AgentHost Mind) Log} {index : Nat}
    {next : AgentHost Mind} (sounds : ∀ host ∈ machine.runner.hosts, sound host)
    (kept : sound next) : ∀ host ∈ (machine.setHost index next).runner.hosts, sound host := by
  intro host listed
  rcases List.mem_or_eq_of_mem_set listed with early | same
  · exact sounds host early
  · exact same ▸ kept

/-- What comes of an agent's step, and of the observation a log asked for before. -/
theorem settle_round {machine : Machine Transit (AgentHost Mind) Log} {index : Nat}
    {host next : AgentHost Mind} {seen : Option Observation}
    {result : Except AgentError AgentReport}
    (listed : machine.runner.hosts[index]? = some host) (named : next.id = host.id)
    (sounds : ∀ other ∈ machine.runner.hosts, sound other) (kept : sound next)
    (allowed : ∀ report, result = .ok report → may machine.world.tick ⟨host.id, seen, report⟩)
    (asked : seen.isSome = machine.runner.agentLog.isSome) :
    ∃ after decisions, (match result with
      | .ok report => do
        let machine ← applyChosen (hostedSystems display agent append) (machine.setHost index next)
          host.id report.chosen
        let machine := logDecision (hostedSystems display agent append) machine host.id report seen
        return machine.say (.agentReport report)
      | .error problem =>
        let message := agentErrorToMessage problem
        let machine := match message with
          | .fault _ => (machine.setHost index next).enter .faulted
          | _ => machine.setHost index next
        return machine.say message : Run (Machine Transit (AgentHost Mind) Log) _) = .done after ∧
      machine.Round append sound may [index] after decisions := by
  have placed : machine.Decides append (machine.setHost index next) [] := setHost_decides listed named
  have still : ∀ host ∈ (machine.setHost index next).runner.hosts, sound host :=
    setHost_sound sounds kept
  cases result with
  | error problem =>
    cases problem with
    | panicked agentId message =>
      refine ⟨_, [], rfl, ?_, still, by simp, by simp, by simp⟩
      exact (placed.trans (.enter .faulted)).trans (.say rfl)
    | invalidAction agentId reason => exact ⟨_, [], rfl, placed.trans (.say rfl), still, by simp, by simp, by simp⟩
    | timeout agentId budget => exact ⟨_, [], rfl, placed.trans (.say rfl), still, by simp, by simp, by simp⟩
  | ok report =>
    obtain ⟨acted, ran, tick, hosts, log, decided, reports⟩ := applyChosen_decides display agent append
      (machine.setHost index next) host.id report.chosen
    obtain ⟨world, hosts', log', events, reports'⟩ := logDecision_decides display agent append
      acted ⟨host.id, seen, report⟩
    simp only at world hosts' log' events reports'
    simp only [ran]
    refine ⟨_, [⟨host.id, seen, report⟩], rfl, ?_, ?_, ?_, ?_, ?_⟩
    · constructor
      · exact (congrArg World.tick world).trans tick
      · change List.map AgentHost.id (logDecision _ acted host.id report seen).runner.hosts = _
        rw [hosts', hosts, placed.names]
      · change (logDecision _ acted host.id report seen).runner.events.filter _ = _
        rw [events, decided, placed.decided, List.map_nil, List.append_nil]
        rfl
      · change ((logDecision _ acted host.id report seen).runner.messages ++ [_]).filterMap _ = _
        rw [List.filterMap_append, reports', reports, placed.reports, List.map_nil, List.append_nil]
        rfl
      · change (logDecision _ acted host.id report seen).runner.agentLog = _
        rw [log', log, placed.log]
        rfl
    · change ∀ other ∈ (logDecision _ acted host.id report seen).runner.hosts, sound other
      rw [hosts', hosts]
      exact still
    · intro decision one
      rw [List.mem_singleton.mp one]
      exact allowed report rfl
    · have here : (machine.runner.hosts.map AgentHost.id)[index]? = some host.id := by
        rw [List.getElem?_map, listed]
        rfl
      simp only [List.filterMap_cons, List.filterMap_nil, here]
      exact .refl _
    · intro attached decision one
      rw [List.mem_singleton.mp one]
      exact asked.trans attached

include makes

theorem runAgent_round {machine : Machine Transit (AgentHost Mind) Log}
    (sounds : ∀ host ∈ machine.runner.hosts, sound host) (index : Nat) :
    ∃ after decisions,
      runAgent (hostedSystems display agent append) machine.world.tick machine index = .done after ∧
        machine.Round append sound may [index] after decisions := by
  unfold runAgent
  cases listed : machine.runner.hosts[index]? with
  | none => exact ⟨machine, [], rfl, .refl, sounds, by simp, by simp, by simp⟩
  | some host =>
    have held : sound host := sounds host (List.mem_of_getElem? listed)
    simp only
    split
    · exact ⟨machine, [], rfl, .refl, sounds, by simp, by simp, by simp⟩
    · cases logged : machine.runner.agentLog.isSome with
      | false =>
        simp only [Bool.false_eq_true, if_false]
        exact settle_round display agent listed (step_id agent host machine.world) sounds
          (makes.steps host machine.world held)
          (fun report reported => makes.unseen host machine.world report held reported) logged.symm
      | true =>
        simp only [if_true]
        have observed := makes.observes host machine.world held
        refine settle_round display agent listed ?_ sounds
          (makes.steps _ machine.world observed)
          (fun report reported => makes.logged host machine.world report held reported) logged.symm
        exact (step_id agent _ machine.world).trans (observeOnly_id agent host machine.world)

theorem runAgents_round (indices : List Nat) {machine : Machine Transit (AgentHost Mind) Log}
    (sounds : ∀ host ∈ machine.runner.hosts, sound host) :
    ∃ after decisions,
      indices.foldlM (runAgent (hostedSystems display agent append) machine.world.tick) machine =
          .done after ∧
        machine.Round append sound may indices after decisions := by
  induction indices generalizing machine with
  | nil => exact ⟨machine, [], rfl, .refl, sounds, by simp, by simp, by simp⟩
  | cons index rest ih =>
    obtain ⟨middle, early, ran, first⟩ := runAgent_round display agent makes sounds index
    obtain ⟨after, late, went, second⟩ := ih first.hosts
    refine ⟨after, early ++ late, ?_, first.decides.trans second.decides, second.hosts, ?_, ?_, ?_⟩
    · rw [List.foldlM_cons, ran]
      exact first.decides.tick ▸ went
    · intro decision listed
      rcases List.mem_append.mp listed with now | later
      · exact first.allowed decision now
      · exact first.decides.tick ▸ second.allowed decision later
    · have names := first.decides.names
      rw [List.map_append, ← List.singleton_append, List.filterMap_append]
      exact first.once.append (names ▸ second.once)
    · intro attached decision listed
      have still : middle.runner.agentLog.isSome = true := by
        rw [first.decides.log, records_isSome]
        exact attached
      rcases List.mem_append.mp listed with now | later
      · exact first.seen attached decision now
      · exact second.seen still decision later

omit makes in
theorem runSl1_decides (backend : AgentBackend) (machine : Machine Transit (AgentHost Mind) Log) :
    machine.Decides append (runSl1 backend machine) [] := by
  unfold runSl1
  split
  · rename_i scene runtime present active
    have extended := run_extends scene backend machine.world.tick
      ⟨runtime, machine.runner.events, machine.runner.messages, [], [], []⟩
    constructor
    · rfl
    · rfl
    · rw [List.map_nil, List.append_nil]
      refine extended.filter fun event topic known about => ?_
      cases event <;> first | rfl | cases about
    · obtain ⟨warnings, messages⟩ := extended.messages
      have none : (warnings.map SimMessage.warning).filterMap SimMessage.report? = [] := by
        simp [SimMessage.report?]
      simp only [messages, List.filterMap_append, none, List.map_nil]
    · rfl
  · exact .refl

omit makes in
theorem runSl1_hosts (backend : AgentBackend) (machine : Machine Transit (AgentHost Mind) Log) :
    (runSl1 backend machine).runner.hosts = machine.runner.hosts := by
  unfold runSl1
  split <;> rfl

/-- What a tick shows: its decisions, in the buffers emptied before it, and in the log. -/
structure Machine.Ticked (append : Log → Observation → String → AgentReport → Log × Option WarningPayload)
    (sound : AgentHost Mind → Prop) (may : Nat → Decision → Prop)
    (before after : Machine Transit (AgentHost Mind) Log) (decisions : List Decision) : Prop where
  hosts : ∀ host ∈ after.runner.hosts, sound host
  names : after.runner.hosts.map AgentHost.id = before.runner.hosts.map AgentHost.id
  decided : after.runner.events.filter SimEvent.isDecided = decisions.map Decision.event
  reports : after.runner.messages.filterMap SimMessage.report? = decisions.map (·.report)
  log : after.runner.agentLog = decisions.foldl (Decision.record append) before.runner.agentLog
  once : (decisions.map Decision.agentId).Sublist (before.runner.hosts.map AgentHost.id)
  allowed : ∀ decision ∈ decisions, may after.world.tick decision
  clock : decisions = [] ∧ after.world.tick = before.world.tick ∨
    after.world.tick = saturatingAdd u64Max before.world.tick 1
  seen : before.runner.agentLog.isSome = true → ∀ decision ∈ decisions, decision.seen.isSome = true

theorem runPasses_round (backend : AgentBackend) {machine : Machine Transit (AgentHost Mind) Log}
    (sounds : ∀ host ∈ machine.runner.hosts, sound host) : ∃ after decisions,
    runPasses (hostedSystems display agent append) backend machine = .done after ∧
      machine.Round append sound may (List.range machine.runner.hosts.length) after decisions := by
  let spawned := machine.advance (Lifecycle.run machine.world.network)
  let arrived := Movement.run spawned.world.network
  let moved := spawned.advance (arrived.transit, arrived.events)
  have upto : machine.Decides append moved [] :=
    (Machine.Decides.advance Lifecycle.run_undecided).trans (.advance Movement.run_undecided)
  have held : ∀ host ∈ moved.runner.hosts, sound host := sounds
  obtain ⟨acted, decisions, ran, round⟩ := runAgents_round display agent makes
    (List.range moved.runner.hosts.length) held
  let departed := acted.advance (Interaction.run acted.world.network)
  let produced := departed.advance (Production.run departed.world.tick departed.world.network, [])
  let closed := (runSl1 backend produced).emit (.tick produced.world.tick)
  have beyond : acted.Decides append closed [] := by
    have passed : acted.Decides append produced [] :=
      (Machine.Decides.advance Interaction.run_undecided).trans (.advance .nil)
    exact (passed.trans (runSl1_decides backend produced)).trans (.emit rfl)
  have last : closed.Decides append
      { closed with runner := { closed.runner with lastArrivals := arrived.count } } [] :=
    ⟨rfl, rfl, by simp, by simp, rfl⟩
  refine ⟨{ closed with runner := { closed.runner with lastArrivals := arrived.count } }, decisions,
    ?_, ?_, ?_, ?_, ?_, ?_⟩
  · change (runAgents (hostedSystems display agent append) moved).bind _ = _
    rw [show runAgents (hostedSystems display agent append) moved = .done acted from ran]
    rfl
  · have whole := (upto.trans round.decides).trans (beyond.trans last)
    simpa using whole
  · change ∀ host ∈ (runSl1 backend produced).runner.hosts, sound host
    rw [runSl1_hosts]
    exact round.hosts
  · exact fun decision listed => upto.tick ▸ round.allowed decision listed
  · exact round.once
  · exact round.seen

theorem tickOnce_decides (backend : AgentBackend) {machine : Machine Transit (AgentHost Mind) Log}
    (sounds : ∀ host ∈ machine.runner.hosts, sound host) : ∃ after decisions,
    tickOnce (hostedSystems display agent append) backend machine = .done after ∧
      machine.Ticked append sound may after decisions := by
  unfold tickOnce
  split
  · exact ⟨_, [], rfl, sounds, rfl, rfl, rfl, rfl, by simp, by simp, .inl ⟨rfl, rfl⟩, by simp⟩
  · let awake : Machine Transit (AgentHost Mind) Log :=
      { world := { machine.world with
          state := if machine.world.state = .idle ∨ machine.world.state = .loaded then .running
            else machine.world.state
          tick := saturatingAdd u64Max machine.world.tick 1 }
        runner := { machine.runner with
          events := []
          messages := []
          topologyDirty := false } }
    have held : ∀ host ∈ awake.runner.hosts, sound host := sounds
    obtain ⟨after, decisions, ran, round⟩ := runPasses_round display agent makes backend held
    refine ⟨after, decisions, ran, round.hosts, round.decides.names, round.decides.decided,
      round.decides.reports, round.decides.log, ?_, ?_, .inr round.decides.tick, round.seen⟩
    · have once := round.once
      have everyone : ((List.range awake.runner.hosts.length).filterMap fun index =>
          (awake.runner.hosts.map AgentHost.id)[index]?) = awake.runner.hosts.map AgentHost.id := by
        rw [← List.length_map (f := AgentHost.id)]
        exact filterMap_range _
      exact everyone ▸ once
    · exact fun decision listed => round.decides.tick ▸ round.allowed decision listed

end Decides

end Simetro.Engine
