import Simetro.Desktop.SceneBuild
import Simetro.Engine.Registration

/-! The ids of the agents a scene registers. Every speed tuner takes the same one, and the
loader admits any number of them. -/

namespace Simetro.Engine

open Simetro.Library Simetro.Protocol

theorem SceneLoader.loadAgents_kinds {llmLive : Bool} (start : Nat) {raws : List RawAgent}
    {specs : List AgentSpec} (read : (raws.zipIdx start).mapM (loadAgent llmLive) = .ok specs) :
    specs.map (·.kind) = raws.map (·.kind) := by
  induction raws generalizing start specs with
  | nil =>
    cases read
    rfl
  | cons raw rest ih =>
    rw [List.zipIdx_cons, List.mapM_cons] at read
    simp only [bind_eq_ok] at read
    obtain ⟨spec, first, later, others, same⟩ := read
    cases same
    simp only [loadAgent, bind_eq_ok] at first
    obtain ⟨_, -, _, -, same⟩ := first
    cases same
    rw [List.map_cons, List.map_cons, ih (start + 1) others]

theorem SceneLoader.validate_agents {llmLive : Bool} {raw : RawScene} {loaded : LoadedScene}
    (accepted : validate llmLive raw = .ok loaded) :
    loaded.agents.map (·.kind) = raw.agents.map (·.kind) ∧ loaded.world.tick = 0 := by
  simp only [validate, bind_eq_ok] at accepted
  obtain ⟨_, -, _, -, _, -, _, -, _, -, _, -, _, -, _, -, agents, read, _, -, same⟩ := accepted
  cases same
  exact ⟨loadAgents_kinds 0 read, rfl⟩

/-- Attach a fresh log, if any, with the failures of its sink. -/
def TickRunner.attachAgentLog {Host Row : Type} (runner : TickRunner Host (AgentLog Row))
    (log : Option (AgentLog Row)) : TickRunner Host (AgentLog Row) :=
  { runner with agentLog := log }

end Simetro.Engine

namespace Simetro.Desktop

open Simetro.Engine Simetro.Library Simetro.Protocol Simetro.Sl1

/-- A speed tuner under its own id. -/
def Tuner (host : AgentHost SpeedTuner) : Prop := host.mind.id = host.id

theorem tuner_step (display : Float32 → String) (host : AgentHost SpeedTuner) (world : World Transit) :
    host.step (tunerAgent display) world = (host, .ok (AgentHost.trimReport
      (host.mind.act display (.fromWorld world)))) := rfl

theorem tuner_observes (display : Float32 → String) (host : AgentHost SpeedTuner)
    (world : World Transit) :
    host.observeOnly (tunerAgent display) world = (host, .fromWorld world) := rfl

theorem act_key (display : Float32 → String) (tuner : SpeedTuner) (observation : Observation) :
    (tuner.act display observation).key = (observation.tick, tuner.id) := by
  unfold SpeedTuner.act
  split <;> rfl

/-- A tuner reports as itself. -/
theorem tuner_makes (display : Float32 → String) : (tunerAgent display).Makes Tuner Candid := by
  have candid (host : AgentHost SpeedTuner) (world : World Transit) (report : AgentReport)
      (tuner : Tuner host) (reported : (host.step (tunerAgent display) world).2 = .ok report) :
      report.key = (world.tick, host.id) := by
    rw [tuner_step] at reported
    cases reported
    change (host.mind.act display (.fromWorld world)).key = _
    rw [act_key, tuner]
    rfl
  constructor
  · exact fun _ _ tuner => tuner
  · exact fun _ _ tuner => tuner
  · intro host world report tuner reported
    exact ⟨candid host world report tuner reported, fun _ none => by cases none⟩
  · intro host world report tuner reported
    refine ⟨candid host world report tuner reported, fun seen same => ?_⟩
    rw [tuner_observes] at same
    cases same
    rfl

section Registered

variable {Log : Type}

def tunerId : String := "speed_tuner_0"

/-- Only speed tuners, all under one id, and no log. -/
structure Tuners (count : Nat) (runner : TickRunner (AgentHost SpeedTuner) Log) : Prop where
  tuners : ∀ host ∈ runner.hosts, Tuner host ∧ host.id = tunerId
  length : runner.hosts.length = count
  logless : runner.agentLog = none

theorem Tuners.register {count : Nat} {runner : TickRunner (AgentHost SpeedTuner) Log}
    (registered : Tuners count runner) (interval : Nat) :
    Tuners (count + 1) (runner.registerAgent (SpeedTuner.new interval).host) := by
  have hosts := registerAgent_perm runner (SpeedTuner.new interval).host
  refine ⟨fun host listed => ?_, ?_, registered.logless⟩
  · rcases List.mem_cons.mp (hosts.mem_iff.mp listed) with rfl | early
    · exact ⟨rfl, rfl⟩
    · exact registered.tuners host early
  · rw [hosts.length_eq, List.length_cons, registered.length]

/-- One host for each speed tuner of the scene. -/
theorem buildRunner_tuners (agents : List AgentSpec) :
    Tuners (agents.countP fun spec => spec.kind = "speed_tuner")
      (buildRunner agents : TickRunner (AgentHost SpeedTuner) Log) := by
  have grown (specs : List AgentSpec) (count : Nat) (runner : TickRunner (AgentHost SpeedTuner) Log)
      (registered : Tuners count runner) :
      Tuners (count + specs.countP fun spec => spec.kind = "speed_tuner")
        (specs.foldl (fun runner spec =>
          if spec.kind = "speed_tuner" then
            runner.registerAgent (SpeedTuner.new spec.intervalTicks).host
          else runner) runner) := by
    induction specs generalizing count runner with
    | nil => exact registered
    | cons spec rest ih =>
      rw [List.foldl_cons]
      by_cases tuner : spec.kind = "speed_tuner"
      · rw [List.countP_cons_of_pos (by simpa using tuner), if_pos tuner]
        have later := ih (count + 1) _ (registered.register spec.intervalTicks)
        rw [Nat.add_right_comm] at later
        exact later
      · rw [List.countP_cons_of_neg (by simpa using tuner), if_neg tuner]
        exact ih count runner registered
  have empty : Tuners 0 ({} : TickRunner (AgentHost SpeedTuner) Log) :=
    ⟨fun _ listed => absurd listed List.not_mem_nil, rfl, rfl⟩
  have all := grown agents 0 {} empty
  rw [Nat.zero_add] at all
  exact all

theorem Tuners.names {count : Nat} {runner : TickRunner (AgentHost SpeedTuner) Log}
    (registered : Tuners count runner) :
    runner.hosts.map AgentHost.id = List.replicate count tunerId := by
  apply List.eq_replicate_iff.mpr
  refine ⟨by rw [List.length_map, registered.length], fun name listed => ?_⟩
  obtain ⟨host, member, rfl⟩ := List.mem_map.mp listed
  exact (registered.tuners host member).2

end Registered

section Scene

variable {Mirror : Type}

/-- The scene's machine under a fresh log, if one is attached, and nothing sent yet. -/
def openSession (machine : Machine Transit (AgentHost SpeedTuner) (AgentLog AgentLogEntry))
    (ringCap : Nat) (fails : Option (Nat → Bool)) : Session SpeedTuner (AgentLog AgentLogEntry) where
  machine := { machine with
    runner := machine.runner.attachAgentLog (fails.map fun fails => { fails, ringCap }) }

theorem openSession_tidy {count : Nat}
    {machine : Machine Transit (AgentHost SpeedTuner) (AgentLog AgentLogEntry)}
    (registered : Tuners count machine.runner) (early : machine.world.tick = 0) (ringCap : Nat)
    (fails : Option (Nat → Bool)) :
    (openSession machine ringCap fails).Tidy Tuner (List.replicate count tunerId) 0 := by
  have rowless : (openSession machine ringCap fails).logged = [] := by
    cases fails <;> rfl
  refine ⟨fun host listed => (registered.tuners host listed).1, registered.names, early.le, ?_,
    [], by simp, by simp, rfl, rfl, ?_⟩
  · intro log attached
    cases fails with
    | none => cases attached
    | some fails =>
      cases attached
      exact fun _ => rfl
  · rw [rowless]
    exact .refl _

/-- The agents of an accepted scene have different ids, and none of them decides twice at a
tick as long as the clock runs, exactly when at most one of them is a speed tuner. -/
theorem tuner_decides_once_iff (display twoDecimals : Float32 → String) (backend : AgentBackend)
    (building : Building Mirror) {raw : RawScene}
    {loaded : SceneLoad (sceneShell (AgentHost SpeedTuner) (AgentLog AgentLogEntry) Mirror)}
    (accepted : buildSceneLoad building raw = .ok loaded) :
    ((loaded.machine.runner.hosts.map AgentHost.id).Nodup ∧
      ∀ ringCap fails steps, steps.length ≤ u64Max →
        ((openSession loaded.machine ringCap fails).run
          (loggingSystems display (tunerAgent twoDecimals)) backend steps).DecidesOnce) ↔
      (raw.agents.countP fun agent => agent.kind = "speed_tuner") ≤ 1 := by
  obtain ⟨scene, read, same⟩ : ∃ scene, SceneLoader.validate building.llmLive raw = .ok scene ∧
      loaded.machine = ⟨scene.world, buildRunner scene.agents⟩ := by
    unfold buildSceneLoad at accepted
    split at accepted
    · cases accepted
    · cases accepted
      exact ⟨_, by assumption, rfl⟩
  obtain ⟨kinds, early⟩ := SceneLoader.validate_agents read
  have count : (scene.agents.countP fun spec => spec.kind = "speed_tuner") =
      raw.agents.countP fun agent => agent.kind = "speed_tuner" := by
    have counted := congrArg (List.countP fun kind : String => decide (kind = "speed_tuner")) kinds
    rwa [List.countP_map, List.countP_map] at counted
  have registered := @buildRunner_tuners (AgentLog AgentLogEntry) scene.agents
  rw [count] at registered
  rw [same, ← List.nodup_replicate (a := tunerId), ← registered.names]
  refine ⟨fun decides => decides.1, fun distinct => ⟨distinct, ?_⟩⟩
  intro ringCap fails steps within
  have start := @openSession_tidy _ ⟨scene.world, buildRunner scene.agents⟩ registered early ringCap fails
  exact Session.run_once display (tuner_makes twoDecimals) backend (registered.names ▸ distinct) start within

/-- Nothing on the map, and this many speed tuners. -/
def tuners (count : Nat) : RawScene where
  schemaVersion := 2
  name := "Tuners"
  theme := some { palette := ["#102030", "#405060"] }
  pieces := {}
  agents := List.replicate count { kind := "speed_tuner", intervalTicks := 1 }

def barely : Building Unit := ⟨false, fun _ => (), fun _ => "", fun _ => .transportLost⟩

theorem oneTuner_decides_once : ∃ loaded, buildSceneLoad barely (tuners 1) = .ok loaded ∧
    (((loaded.machine.runner.hosts.map AgentHost.id).Nodup ∧
      ∀ ringCap fails steps, steps.length ≤ u64Max →
        ((openSession loaded.machine ringCap fails).run
          (loggingSystems (fun _ => "") (tunerAgent fun _ => "")) defaultBackend steps).DecidesOnce) ↔
      ((tuners 1).agents.countP fun agent => agent.kind = "speed_tuner") ≤ 1) := by
  have loads : yields (buildSceneLoad barely (tuners 1) : Except SceneLoadFailure
      (SceneLoad (sceneShell (AgentHost SpeedTuner) (AgentLog AgentLogEntry) Unit)))
      (fun _ => true) = true := by
    decide +kernel
  obtain ⟨loaded, built, -⟩ := yields_iff.mp loads
  exact ⟨loaded, built, tuner_decides_once_iff _ _ defaultBackend barely built⟩

/-- Two speed tuners load, share their id and decide both on the first tick. -/
theorem twoTuners_decide_twice : ∃ loaded, buildSceneLoad barely (tuners 2) = .ok loaded ∧
    loaded.machine.runner.hosts.map AgentHost.id = [tunerId, tunerId] ∧
    let session := (openSession loaded.machine 1 (some fun _ => false)).run
      (loggingSystems (fun _ => "") (tunerAgent fun _ => "")) defaultBackend [.tick]
    session.decided = [(1, tunerId), (1, tunerId)] ∧ session.reported = [(1, tunerId), (1, tunerId)] ∧
      session.logged.map AgentLogEntry.key = [(1, tunerId), (1, tunerId)] := by
  have loads : yields (buildSceneLoad barely (tuners 2) : Except SceneLoadFailure
      (SceneLoad (sceneShell (AgentHost SpeedTuner) (AgentLog AgentLogEntry) Unit)))
      (fun loaded =>
        let session := (openSession loaded.machine 1 (some fun _ => false)).run
          (loggingSystems (fun _ => "") (tunerAgent fun _ => "")) defaultBackend [.tick]
        decide (loaded.machine.runner.hosts.map AgentHost.id = [tunerId, tunerId] ∧
          session.decided = [(1, tunerId), (1, tunerId)] ∧
          session.reported = [(1, tunerId), (1, tunerId)] ∧
          session.logged.map AgentLogEntry.key = [(1, tunerId), (1, tunerId)])) = true := by
    decide +kernel
  obtain ⟨loaded, built, twice⟩ := yields_iff.mp loads
  obtain ⟨named, decided, reported, logged⟩ := of_decide_eq_true twice
  exact ⟨loaded, built, named, decided, reported, logged⟩

end Scene

end Simetro.Desktop
