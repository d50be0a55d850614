import Simetro.Desktop.Envelopes
import Simetro.Desktop.SceneBuild
import Simetro.Engine.NetworkRuns
import Simetro.Engine.Shapes

/-! The frontend has the geometry that a snapshot refers to. -/

namespace Simetro.Desktop

open Simetro.Engine Simetro.Library Simetro.Protocol Simetro.Sl1

section Ticks

variable {Mind Log : Type} (display : Float32 → String) (agent : Agent Mind)
  (append : Log → Observation → String → AgentReport → Log × Option WarningPayload)
  (mishaps : Mishaps Mind Log)

/-- Some pass panics somewhere. -/
def Mishaps.Panic : Prop :=
  ∃ stage machine wreck message, mishaps.panics stage machine = some (wreck, message)

theorem guard_ends {α : Type} {holds : α → Prop} {leaves : Transit → Prop} {stage : Stage}
    {machine : Machine Transit (AgentHost Mind) Log} {next : Run (Machine Transit (AgentHost Mind) Log) α}
    (falls : mishaps.Panic → ∀ now, machine.world.network.SameShape now → leaves now)
    (ends : next.Ends holds (Machine.Left leaves)) :
    (mishaps.guard stage machine next).Ends holds (Machine.Left leaves) := by
  unfold Mishaps.guard
  split
  · rename_i wreck message panics
    exact falls ⟨stage, machine, wreck, message, panics⟩ _ ⟨rfl, rfl⟩
  · exact ends

omit mishaps in
theorem advance_acted {holds : Transit → Bool → Prop} {machine : Machine Transit (AgentHost Mind) Log}
    {action : Action} {answer : Transit × List SimEvent × ActionOutcome}
    (still : actionChangesTopology action = false → machine.world.network.SameShape answer.1)
    (unapplied : answer.2.2 ≠ .applied → answer.1 = machine.world.network)
    (steady : ∀ {now}, machine.world.network.SameShape now → holds now machine.runner.topologyDirty)
    (raises : ∀ {now}, actionChangesTopology action = true → holds now true)
    (held : machine.Held holds) :
    Machine.Acted holds action (machine.advance (answer.1, answer.2.1), answer.2.2) := by
  obtain ⟨after, events, outcome⟩ := answer
  cases outcome with
  | applied =>
    cases topology : actionChangesTopology action with
    | true =>
      simp only [Machine.Acted, topology, Bool.true_or]
      exact raises topology
    | false =>
      simp only [Machine.Acted, topology, Bool.false_or]
      exact steady (still topology)
  | noChange =>
    obtain rfl : after = machine.world.network := unapplied (by simp)
    exact held
  | rejected warning =>
    obtain rfl : after = machine.world.network := unapplied (by simp)
    exact held

/-- A tick of hosted agents is bounded by whatever only looks at nodes and paths, and puts up
with a raised flag where an agent may change them. -/
theorem hosted_bounded {may : Action → Prop} {holds : Transit → Bool → Prop} {leaves : Transit → Prop}
    (chooses : ∀ host world report action,
      (AgentHost.step (mishaps.befallAgent agent) host world).2 = .ok report →
        report.chosen = some action → may action)
    (steady : ∀ {start now dirty}, holds start dirty → start.SameShape now → holds now dirty)
    (falls : mishaps.Panic → ∀ {start now dirty}, holds start dirty → start.SameShape now → leaves now)
    (raises : ∀ {start now dirty action}, may action → actionChangesTopology action = true →
      holds start dirty → holds now true) :
    (mishaps.befall (hostedSystems display (mishaps.befallAgent agent) append)).Bounded may holds
      leaves where
  chooses := chooses
  lifecycle machine held := by
    refine guard_ends mishaps (fun panic now same => falls panic held same) ?_
    exact steady held (Lifecycle.run_shape machine.world.network)
  movement machine held := by
    refine guard_ends mishaps (fun panic now same => falls panic held same) ?_
    exact steady held (Movement.run_shape machine.world.network)
  interaction machine held := by
    refine guard_ends mishaps (fun panic now same => falls panic held same) ?_
    exact steady held (Interaction.run_shape machine.world.network)
  production machine held := by
    refine guard_ends mishaps (fun panic now same => falls panic held same) ?_
    exact guard_ends mishaps (fun panic now same => falls panic held ⟨same.nodes, same.paths⟩)
      (steady held ⟨rfl, rfl⟩)
  applyAction machine agentId action allowed held :=
    guard_ends mishaps (fun panic now same => falls panic held same) <|
      advance_acted (fun topology => applyAction_shape machine.world.network display agentId topology)
        (applyAction_unapplied machine.world.network display agentId) (fun same => steady held same)
        (fun topology => raises allowed topology held) held

end Ticks

/-! ## What the frontend has -/

section Shown

variable {Host Log Mirror : Type}

/-- The payload has the nodes and paths of the network. -/
structure StaticPayload.Shows (payload : StaticPayload Mirror) (transit : Transit) : Prop where
  nodes : payload.nodes = Snapshot.nodeViews transit
  paths : payload.paths = Snapshot.pathViews transit

theorem StaticPayload.Shows.of_sameShape {payload : StaticPayload Mirror} {start now : Transit}
    (shown : payload.Shows start) (same : start.SameShape now) : payload.Shows now := by
  constructor
  · rw [shown.nodes, Snapshot.nodeViews, Snapshot.nodeViews, same.nodes]
  · rw [shown.paths, Snapshot.pathViews, Snapshot.pathViews, same.nodes, same.paths]

def asStatic (envelope : Envelope (sceneShell Host Log Mirror)) : Option (StaticPayload Mirror) :=
  match envelope.payload with
  | .static payload => some payload
  | _ => none

/-- The static payload sent last. -/
def latestStatic (sent : List (Envelope (sceneShell Host Log Mirror))) :
    Option (StaticPayload Mirror) :=
  sent.reverse.findSome? asStatic

/-- Before every snapshot a static payload was sent, and the latest one has the nodes and
paths of the world that the snapshot was taken of. -/
def Grounded (sent : List (Envelope (sceneShell Host Log Mirror))) : Prop :=
  ∀ before envelope after, sent = before ++ envelope :: after →
    ∀ world : World Transit, envelope.payload = .snapshot world →
      ∃ payload, latestStatic before = some payload ∧ payload.Shows world.network

theorem latestStatic_append (sent : List (Envelope (sceneShell Host Log Mirror)))
    (envelope : Envelope (sceneShell Host Log Mirror)) :
    latestStatic (sent ++ [envelope]) = (asStatic envelope).or (latestStatic sent) := by
  simp only [latestStatic, List.reverse_append, List.reverse_cons, List.reverse_nil,
    List.nil_append, List.cons_append, List.findSome?_cons]
  cases asStatic envelope <;> rfl

theorem Grounded.append {sent : List (Envelope (sceneShell Host Log Mirror))}
    (grounded : Grounded sent) {envelope : Envelope (sceneShell Host Log Mirror)}
    (new : ∀ world : World Transit, envelope.payload = .snapshot world →
      ∃ payload, latestStatic sent = some payload ∧ payload.Shows world.network) :
    Grounded (sent ++ [envelope]) := by
  intro before other after split world taken
  rcases List.eq_nil_or_concat after with rfl | ⟨rest, last, rfl⟩
  · obtain ⟨rfl, same⟩ := List.append_inj' split rfl
    obtain rfl := (List.cons.inj same).1
    exact new world taken
  · rw [List.concat_eq_append, ← List.cons_append, ← List.append_assoc] at split
    exact grounded before other rest (List.append_inj' split rfl).1 world taken

/-- What was sent is grounded and the cached payload is the latest one sent. -/
structure Cached (driver : Driver (sceneShell Host Log Mirror)) : Prop where
  grounded : Grounded driver.sent
  latest : latestStatic driver.sent = some driver.state.lastStatic

/-- The cached payload also has the nodes and paths of the world. -/
structure Fresh (driver : Driver (sceneShell Host Log Mirror)) : Prop extends Cached driver where
  current : driver.state.lastStatic.Shows driver.world.network

variable {driver : Driver (sceneShell Host Log Mirror)}

theorem events_ne_snapshot {shell : Shell} (events : List SimEvent) (shown : shell.Snapshot) :
    (Payload.events events : Payload shell) ≠ .snapshot shown := nofun

theorem message_ne_snapshot {shell : Shell} (message : SimMessage) (shown : shell.Snapshot) :
    (Payload.message message : Payload shell) ≠ .snapshot shown := nofun

/-- An envelope that is neither static nor a snapshot. -/
theorem Cached.tell (cached : Cached driver) {payload : Payload (sceneShell Host Log Mirror)}
    (untold : asStatic ⟨driver.state.seq, payload⟩ = none)
    (unshown : ∀ world : World Transit, payload ≠ .snapshot world) : Cached (driver.emit payload) := by
  constructor
  · exact cached.grounded.append fun world taken => absurd taken (unshown world)
  · exact (latestStatic_append _ _).trans (by rw [untold]; exact cached.latest)

/-- The cached payload is sent. -/
theorem Cached.refresh {sent : Driver (sceneShell Host Log Mirror)} (grounded : Grounded driver.sent)
    (same : sent = driver.emit (.static driver.state.lastStatic)) : Cached sent := by
  subst same
  constructor
  · apply grounded.append
    intro world taken
    cases taken
  · exact latestStatic_append _ _

namespace Fresh

theorem of_same {after : Driver (sceneShell Host Log Mirror)} (fresh : Fresh driver)
    (sent : after.sent = driver.sent) (lastStatic : after.state.lastStatic = driver.state.lastStatic)
    (same : driver.world.network.SameShape after.world.network) : Fresh after where
  grounded := sent ▸ fresh.grounded
  latest := by rw [sent, lastStatic, fresh.latest]
  current := by
    rw [lastStatic]
    exact fresh.current.of_sameShape same

theorem tell (fresh : Fresh driver) {payload : Payload (sceneShell Host Log Mirror)}
    (untold : asStatic ⟨driver.state.seq, payload⟩ = none)
    (unshown : ∀ world : World Transit, payload ≠ .snapshot world) : Fresh (driver.emit payload) :=
  { fresh.toCached.tell untold unshown with current := fresh.current }

theorem emitEvents (fresh : Fresh driver) : Fresh driver.emitEvents := by
  unfold Driver.emitEvents
  simp only
  split
  · exact fresh.tell rfl (@events_ne_snapshot (sceneShell Host Log Mirror) _)
  · exact fresh

theorem emitMessages (fresh : Fresh driver) : Fresh driver.emitMessages :=
  List.foldlRecOn (motive := Fresh) _ _ fresh fun _ kept _ _ =>
    kept.tell rfl (@message_ne_snapshot (sceneShell Host Log Mirror) _)

variable (mirror : Option Sl1Scene → Mirror)

theorem emitSnapshot (fresh : Fresh driver) :
    Fresh (Driver.emitSnapshot (sceneEncoders mirror) driver) where
  grounded := by
    apply fresh.grounded.append
    intro world taken
    cases taken
    exact ⟨driver.state.lastStatic, fresh.latest, fresh.current⟩
  latest := (latestStatic_append _ _).trans fresh.latest
  current := fresh.current

theorem emitTopology (grounded : Grounded driver.sent) :
    Fresh (Driver.emitTopology (sceneEncoders mirror) driver) := by
  let encoded : Driver (sceneShell Host Log Mirror) := { driver with state := { driver.state with
    lastStatic := (sceneEncoders mirror).encodeStaticParts driver.state.sceneMeta driver.world } }
  have sent : Fresh (encoded.emit (.static encoded.state.lastStatic)) := {
    Cached.refresh (show Grounded encoded.sent from grounded) rfl with
    current := ⟨rfl, rfl⟩ }
  exact (sent.emitSnapshot mirror).of_same rfl rfl (.refl _)

theorem emitPeriodicSnapshot (fresh : Fresh driver) :
    Fresh (Driver.emitPeriodicSnapshot (sceneEncoders mirror) driver) := by
  unfold Driver.emitPeriodicSnapshot
  split
  · apply emitSnapshot
    exact fresh.of_same rfl rfl (.refl _)
  · exact fresh.of_same rfl rfl (.refl _)

end Fresh

/-- A tick leaves nodes and paths alone, or finishes with the flag raised. -/
def Settles (systems : Systems Transit Host Log Observation) (backend : AgentBackend) : Prop :=
  ∀ machine : Machine Transit Host Log, (tickOnce systems backend machine).Ends
    (fun after => after.runner.topologyDirty = false →
      machine.world.network.SameShape after.world.network)
    fun left => machine.world.network.SameShape left.world.network

/-- The static payload of every scene that loads has the scene's nodes and paths. -/
def Faithful (files : SceneFiles (sceneShell Host Log Mirror)) : Prop :=
  ∀ path loaded, files path = .ok loaded →
    StaticPayload.Shows loaded.staticPayload loaded.machine.world.network

namespace Fresh

variable (mirror : Option Sl1Scene → Mirror) {systems : Systems Transit Host Log Observation}
  {backend : AgentBackend}

theorem start (scene : SceneRef) {loaded : SceneLoad (sceneShell Host Log Mirror)}
    (shown : StaticPayload.Shows loaded.staticPayload loaded.machine.world.network) :
    Fresh (Driver.start (sceneEncoders mirror) scene loaded) := by
  unfold Driver.start
  apply emitSnapshot
  refine { Cached.refresh ?_ rfl with current := shown }
  intro before envelope after split
  simp at split

theorem tickAndEmit (fresh : Fresh driver) (settles : Settles systems backend) :
    Fresh (Driver.tickAndEmit systems backend (sceneEncoders mirror) driver) := by
  have ends := settles driver.state.machine
  unfold Driver.tickAndEmit
  split
  · rename_i machine message panicked
    have fell : @tickOnce Transit Host Log Observation systems backend driver.state.machine =
      .panicked machine message := panicked
    rw [fell] at ends
    have wrecked : Fresh (((driver.withMachine machine).enter .faulted).setPaused true) :=
      fresh.of_same rfl rfl ends
    exact wrecked.tell rfl (@message_ne_snapshot (sceneShell Host Log Mirror) _)
  · rename_i machine finished
    have ran : @tickOnce Transit Host Log Observation systems backend driver.state.machine =
      .done machine := finished
    rw [ran] at ends
    simp only
    split
    · exact (emitTopology mirror (show Grounded (driver.withMachine machine).sent from
        fresh.grounded)).emitEvents.emitMessages.emitPeriodicSnapshot mirror
    · rename_i clean
      have stepped : Fresh (driver.withMachine machine) :=
        fresh.of_same rfl rfl (ends (Bool.not_eq_true _ ▸ clean))
      exact stepped.emitEvents.emitMessages.emitPeriodicSnapshot mirror

theorem stepOnce (fresh : Fresh driver) (settles : Settles systems backend) :
    Fresh (Driver.stepOnce systems backend (sceneEncoders mirror) driver) := by
  have resumed : Fresh (if (driver.setPaused false).world.state = .paused then
      (driver.setPaused false).enter .running else driver.setPaused false) := by
    split
    · exact fresh.of_same rfl rfl (.refl _)
    · exact fresh.of_same rfl rfl (.refl _)
  have ticked := resumed.tickAndEmit mirror settles
  unfold Driver.stepOnce
  simp only
  split
  · exact ticked.of_same rfl rfl (.refl _)
  · exact ticked

theorem togglePause (fresh : Fresh driver) : Fresh driver.togglePause := by
  unfold Driver.togglePause
  simp only
  split
  · exact fresh.of_same rfl rfl (.refl _)
  · split
    · exact fresh.of_same rfl rfl (.refl _)
    · exact fresh.of_same rfl rfl (.refl _)

theorem replaceScene (fresh : Fresh driver) (scene : SceneRef)
    {files : SceneFiles (sceneShell Host Log Mirror)} (faithful : Faithful files) :
    Fresh (Driver.replaceScene (sceneEncoders mirror) driver scene files).1 := by
  unfold Driver.replaceScene
  split
  · exact fresh.tell rfl (@message_ne_snapshot (sceneShell Host Log Mirror) _)
  · rename_i loaded read
    have sent : Fresh ((driver.applySceneLoad loaded).emit (.static loaded.staticPayload)) := {
      Cached.refresh (show Grounded (driver.applySceneLoad loaded).sent from fresh.grounded) rfl with
      current := faithful _ _ read }
    exact sent.emitSnapshot mirror

theorem handleCommand (fresh : Fresh driver) (settles : Settles systems backend)
    {files : SceneFiles (sceneShell Host Log Mirror)} (faithful : Faithful files)
    (command : DriverCommand) :
    Fresh (Driver.handleCommand systems backend (sceneEncoders mirror) driver files command) := by
  cases command with
  | togglePause => exact fresh.togglePause
  | step => exact fresh.stepOnce mirror settles
  | setSpeed factor => exact fresh.of_same rfl rfl (.refl _)
  | reload => exact fresh.replaceScene mirror driver.activeScene faithful
  | subscribe =>
    have sent : Fresh (driver.emit (.static driver.state.lastStatic)) :=
      { Cached.refresh fresh.grounded rfl with current := fresh.current }
    exact sent.emitSnapshot mirror
  | setScene scene =>
    have replaced := fresh.replaceScene mirror scene faithful
    simp only [Driver.handleCommand]
    split
    · rename_i outcome
      rw [outcome] at replaced
      exact replaced.of_same rfl rfl (.refl _)
    · rename_i outcome
      rw [outcome] at replaced
      exact replaced.of_same rfl rfl (.refl _)

theorem handleEvent (fresh : Fresh driver) (settles : Settles systems backend)
    {event : DriverEvent (sceneShell Host Log Mirror)}
    (faithful : ∀ command files, event = .command command files → Faithful files) :
    Fresh (Driver.handleEvent systems backend (sceneEncoders mirror) driver event) := by
  cases event with
  | timer =>
    simp only [Driver.handleEvent]
    split
    · exact fresh
    · exact fresh.tickAndEmit mirror settles
  | command command files =>
    exact fresh.handleCommand mirror settles (faithful command files rfl) command

end Fresh

end Shown

/-! ## Any agents -/

section Hosted

variable {Mind Log Mirror : Type} (display : Float32 → String) (agent : Agent Mind)
  (append : Log → Observation → String → AgentReport → Log × Option WarningPayload)

/-- The engine around any agents, who may panic themselves. -/
abbrev befallen (mishaps : Mishaps Mind Log) : Systems Transit (AgentHost Mind) Log Observation :=
  mishaps.befall (hostedSystems display (mishaps.befallAgent agent) append)

/-- Without a panic of its own a tick raises the flag where it changes nodes or paths. -/
theorem unpanicked_settles {mishaps : Mishaps Mind Log} (unpanicked : ¬ mishaps.Panic)
    (backend : AgentBackend) : Settles (befallen display agent append mishaps) backend := by
  intro machine
  have bounded : (befallen display agent append mishaps).Bounded (fun _ => True)
      (fun now dirty => dirty = false → machine.world.network.SameShape now) fun _ => False := by
    apply hosted_bounded
    · exact fun _ _ _ _ _ _ => trivial
    · exact fun held same clean => (held clean).trans same
    · exact fun panic _ _ _ _ _ => unpanicked panic
    · intro start now dirty action _ _ _ clean
      cases clean
  have ends := tickOnce_ends bounded backend fun _ => .refl machine.world.network
  generalize tickOnce (befallen display agent append mishaps) backend machine = outcome at ends ⊢
  cases outcome with
  | done after => exact ends
  | panicked left message => exact ends.elim

/-- Whatever the agents do to the network, and if they panic, each snapshot comes after a
static payload of its nodes and paths, as long as no pass of the engine panics. -/
theorem hosted_grounded (backend : AgentBackend) (mirror : Option Sl1Scene → Mirror) (scene : SceneRef)
    {loaded : SceneLoad (sceneShell (AgentHost Mind) Log Mirror)}
    (shown : StaticPayload.Shows loaded.staticPayload loaded.machine.world.network)
    (happenings : List (Mishaps Mind Log × DriverEvent (sceneShell (AgentHost Mind) Log Mirror)))
    (unpanicked : ∀ happening ∈ happenings, ¬ happening.1.Panic)
    (faithful : ∀ happening ∈ happenings, ∀ command files,
      happening.2 = .command command files → Faithful files) :
    Grounded (Driver.runUnder backend (sceneEncoders mirror)
      (Driver.start (sceneEncoders mirror) scene loaded)
      (happenings.map fun happening => (befallen display agent append happening.1, happening.2))).sent := by
  have fresh : Fresh (Driver.runUnder backend (sceneEncoders mirror)
      (Driver.start (sceneEncoders mirror) scene loaded)
      (happenings.map fun happening => (befallen display agent append happening.1, happening.2))) := by
    refine List.foldlRecOn (motive := Fresh) _ _ (Fresh.start mirror scene shown) ?_
    intro driver fresh happening member
    obtain ⟨given, listed, rfl⟩ := List.mem_map.mp member
    exact fresh.handleEvent mirror
      (unpanicked_settles display agent append (unpanicked given listed) backend)
      (faithful given listed)
  exact fresh.grounded

end Hosted

/-! ## The desktop driver -/

section Desktop

variable {Mirror : Type}

theorem encodeStatic_shows (mirror : Option Sl1Scene → Mirror) (loaded : LoadedScene) :
    (Snapshot.encodeStatic mirror loaded).Shows loaded.world.network := ⟨rfl, rfl⟩

theorem buildSceneLoad_shows {Log : Type} (building : Building Mirror) {raw : RawScene}
    {loaded : SceneLoad (sceneShell (AgentHost SpeedTuner) Log Mirror)}
    (built : buildSceneLoad building raw = .ok loaded) :
    StaticPayload.Shows loaded.staticPayload loaded.machine.world.network := by
  unfold buildSceneLoad at built
  split at built
  · cases built
  · cases built
    exact encodeStatic_shows building.mirror _

theorem sceneFiles_faithful {Log : Type} (building : Building Mirror) (read : RawFiles) :
    Faithful (sceneFiles building read :
      SceneFiles (sceneShell (AgentHost SpeedTuner) Log Mirror)) := by
  intro path loaded found
  unfold sceneFiles at found
  split at found
  · cases found
  · exact buildSceneLoad_shows building found

/-- A speed tuner asks for speeds or for nothing. -/
theorem tuner_chooses (twoDecimals : Float32 → String) {Log : Type} (mishaps : Mishaps SpeedTuner Log)
    {host : AgentHost SpeedTuner} {world : World Transit} {report : AgentReport} {action : Action}
    (reported : (AgentHost.step (mishaps.befallAgent (tunerAgent twoDecimals)) host world).2 =
      .ok report)
    (chosen : report.chosen = some action) : actionChangesTopology action = false := by
  have still (tuner : SpeedTuner) (observation : Observation)
      (chose : (tuner.act twoDecimals observation).chosen = some action) :
      actionChangesTopology action = false := by
    unfold SpeedTuner.act at chose
    split at chose
    · cases chose
      rfl
    · cases chose
      rfl
  unfold AgentHost.step at reported
  split at reported
  · cases reported
  · split at reported
    · cases reported
    · cases reported
    · rename_i acted
      cases reported
      simp only [Mishaps.befallAgent, tunerAgent] at acted
      split at acted
      · cases acted
      · cases acted
        exact still _ _ chosen

theorem desktop_settles (printing : Printing) (mishaps : Mishaps SpeedTuner Unit)
    (backend : AgentBackend) : Settles (desktopSystems printing mishaps) backend := by
  intro machine
  have bounded : (desktopSystems printing mishaps).Bounded
      (fun action => actionChangesTopology action = false)
      (fun now _ => machine.world.network.SameShape now)
      fun left => machine.world.network.SameShape left := by
    apply hosted_bounded
    · exact fun _ _ _ _ reported chosen => tuner_chooses printing.twoDecimals mishaps reported chosen
    · exact fun held same => held.trans same
    · exact fun _ _ _ _ held same => held.trans same
    · intro start now dirty action still topology
      rw [still] at topology
      cases topology
  have ends := tickOnce_ends bounded backend (.refl machine.world.network)
  generalize tickOnce (desktopSystems printing mishaps) backend machine = outcome at ends ⊢
  cases outcome with
  | done after => exact fun _ => ends
  | panicked left message => exact ends

/-- The desktop driver through ticks, each with its mishaps, and commands. -/
def runDesktop (printing : Printing) (backend : AgentBackend) (building : Building Mirror)
    (driver : Driver (desktopShell Mirror)) (inputs : List (Mishaps SpeedTuner Unit × Input)) :
    Driver (desktopShell Mirror) :=
  Driver.runUnder backend (sceneEncoders building.mirror) driver
    (inputs.map fun input => (desktopSystems printing input.1, input.2.event building))

/-- Wherever ticks panic and whatever the driver is told, each snapshot it sends comes after
a static payload with the nodes and paths of the world it was taken of. -/
theorem snapshots_grounded (printing : Printing) (backend : AgentBackend) (building : Building Mirror)
    (scene : SceneRef) {raw : RawScene} {loaded : SceneLoad (desktopShell Mirror)}
    (initial : buildSceneLoad building raw = .ok loaded)
    (inputs : List (Mishaps SpeedTuner Unit × Input)) :
    Grounded (runDesktop printing backend building
      (Driver.start (sceneEncoders building.mirror) scene loaded) inputs).sent := by
  have started : Fresh (Driver.start (sceneEncoders building.mirror) scene loaded) :=
    Fresh.start building.mirror scene (buildSceneLoad_shows building initial)
  have fresh : Fresh (runDesktop printing backend building
      (Driver.start (sceneEncoders building.mirror) scene loaded) inputs) := by
    refine List.foldlRecOn (motive := Fresh) _ _ started ?_
    intro driver fresh happening member
    obtain ⟨⟨mishaps, input⟩, -, rfl⟩ := List.mem_map.mp member
    refine fresh.handleEvent building.mirror (desktop_settles printing mishaps backend) ?_
    intro command files told
    cases input with
    | timer => cases told
    | command given read =>
      cases told
      exact sceneFiles_faithful building read
  exact fresh.grounded

/-- The shuttle with a speed tuner that acts on every tick. -/
def tunedScene : RawScene :=
  { shuttleScene with agents := [{ kind := "speed_tuner", intervalTicks := 1 }] }

def plainBuilding : Building Unit := ⟨false, fun _ => (), fun _ => "", fun _ => .transportLost⟩

def plainPrinting : Printing := ⟨fun _ => "", fun _ => ""⟩

/-- Nothing goes wrong. -/
def calm : Mishaps SpeedTuner Unit := ⟨fun _ _ => none, fun _ _ => none, fun _ _ => none⟩

/-- The interaction pass panics and leaves no movers behind. -/
def stranding : Mishaps SpeedTuner Unit :=
  { calm with
    panics := fun stage machine =>
      if stage = .interaction then some (⟨∅, ∅, machine.world.sl1Runtime, {}⟩, "stranded") else none }

/-- Ticks, of which one panics, a late subscriber, a step and a reload. -/
def roughInputs : List (Mishaps SpeedTuner Unit × Input) :=
  let read : RawFiles := fun _ => .ok tunedScene
  [(calm, .timer), (calm, .timer), (calm, .timer), (stranding, .timer),
    (calm, .command .subscribe read), (calm, .command .step read), (calm, .command .reload read)]

theorem roughInputs_grounded : ∃ loaded, buildSceneLoad plainBuilding tunedScene = .ok loaded ∧
    10 < (runDesktop plainPrinting defaultBackend plainBuilding
      (Driver.start (sceneEncoders plainBuilding.mirror) ⟨"shuttle", "games/shuttle.json"⟩ loaded)
      roughInputs).sent.length ∧
    Grounded (runDesktop plainPrinting defaultBackend plainBuilding
      (Driver.start (sceneEncoders plainBuilding.mirror) ⟨"shuttle", "games/shuttle.json"⟩ loaded)
      roughInputs).sent := by
  have loads : yields (buildSceneLoad plainBuilding tunedScene) (fun loaded =>
      decide (10 < (runDesktop plainPrinting defaultBackend plainBuilding
        (Driver.start (sceneEncoders plainBuilding.mirror) ⟨"shuttle", "games/shuttle.json"⟩ loaded)
        roughInputs).sent.length)) = true := by
    decide +kernel
  obtain ⟨loaded, built, many⟩ := yields_iff.mp loads
  exact ⟨loaded, built, of_decide_eq_true many,
    snapshots_grounded plainPrinting defaultBackend plainBuilding _ built roughInputs⟩

end Desktop

end Simetro.Desktop
