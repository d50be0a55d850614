import Simetro.Desktop.FaultSticky
import Simetro.Desktop.LiveReload

/-! What one step of the driver and the watcher does to what the driver last loaded and to
the watcher's baseline, and when the two stay in step. -/

namespace Simetro.Desktop

open Simetro.Engine Simetro.Library Simetro.Protocol Simetro.Sl1

namespace Driver

variable {shell : Shell}

section ActiveScene

variable (systems : Systems shell.Network shell.Host shell.Log shell.Observation)
  (backend : AgentBackend) (encoders : Encoders shell) (driver : Driver shell)

@[simp] theorem emitSnapshot_activeScene :
    (emitSnapshot encoders driver).activeScene = driver.activeScene := rfl

@[simp] theorem emitTopology_activeScene :
    (emitTopology encoders driver).activeScene = driver.activeScene := rfl

@[simp] theorem emitEvents_activeScene : driver.emitEvents.activeScene = driver.activeScene := by
  unfold emitEvents
  dsimp only
  split <;> rfl

@[simp] theorem emitMessages_activeScene : driver.emitMessages.activeScene = driver.activeScene := by
  rw [emitMessages]
  exact foldl_keeps Driver.activeScene
    (fun driver message _ => (rfl : (driver.emit (.message message)).activeScene = _)) driver

@[simp] theorem emitPeriodicSnapshot_activeScene :
    (emitPeriodicSnapshot encoders driver).activeScene = driver.activeScene := by
  unfold emitPeriodicSnapshot
  split <;> rfl

theorem tickAndEmit_activeScene :
    (tickAndEmit systems backend encoders driver).activeScene = driver.activeScene := by
  unfold tickAndEmit
  split
  · rfl
  · simp only [emitPeriodicSnapshot_activeScene, emitMessages_activeScene, emitEvents_activeScene,
      apply_ite Driver.activeScene, emitTopology_activeScene]
    exact ite_self _

theorem timer_activeScene :
    (handleEvent systems backend encoders driver .timer).activeScene = driver.activeScene := by
  rw [handleEvent]
  split
  · rfl
  · exact tickAndEmit_activeScene systems backend encoders driver

theorem replaceScene_activeScene (scene : SceneRef) (files : SceneFiles shell) :
    (replaceScene encoders driver scene files).1.activeScene = driver.activeScene := by
  unfold replaceScene
  split <;> rfl

/-- Only a switch of scenes changes the active scene, to the scene it has loaded. -/
theorem handleCommand_activeScene (files : SceneFiles shell) (command : DriverCommand) :
    (handleCommand systems backend encoders driver files command).activeScene = driver.activeScene ∨
      command = .setScene
        (handleCommand systems backend encoders driver files command).activeScene := by
  cases command with
  | togglePause =>
    left
    simp only [handleCommand, togglePause]
    split
    · rfl
    · split <;> rfl
  | step =>
    left
    simp only [handleCommand, stepOnce]
    split
    · exact (tickAndEmit_activeScene systems backend encoders _).trans (by split <;> rfl)
    · exact (tickAndEmit_activeScene systems backend encoders _).trans (by split <;> rfl)
  | setSpeed factor => exact .inl rfl
  | reload => exact .inl (replaceScene_activeScene encoders driver driver.activeScene files)
  | setScene scene =>
    simp only [handleCommand]
    split
    · exact .inr rfl
    · rename_i after failure failed
      left
      have kept := replaceScene_activeScene encoders driver scene files
      rw [failed] at kept
      exact kept
  | subscribe => exact .inl rfl

end ActiveScene

end Driver

namespace LiveReload

variable {shell : Shell} (live : LiveReload shell)

def lastSeen : Option SceneFileObservation := live.lastRead.map observeSceneFile

/-- Whether the driver would come to load a file that reads so from now on: its last load
saw the same, a reload is waiting, or the watcher sees a change. -/
def covers (seen : SceneFileObservation) : Bool :=
  match live.task with
  | .subscribing => true
  | .ended _ => live.lastSeen == some seen
  | .running _ => live.reloadWaiting ||
    match live.watcher with
    | .watching scene watch =>
      scene != live.activeScene || live.lastSeen == some watch.stable || seen != watch.stable
    | _ => true

/-- The watcher's next turn takes what the file holds as its baseline. -/
def rebaselines : Bool :=
  match live.watcher with
  | .spawned => true
  | .watching scene _ => scene != live.activeScene
  | .finished => false

/-- A write to the active scene's file leaves a content the driver would come to load, and
a baseline is taken of what the driver's last load saw or with a reload waiting. -/
def keepsUp (live : LiveReload shell) : LiveEvent → Bool
  | .write path content =>
    path != live.activeScene.path || live.covers (observeSceneFile content)
  | .poll =>
    match live.task with
    | .running _ =>
      !live.rebaselines || live.reloadWaiting ||
        live.lastSeen == some (observeSceneFile live.content)
    | _ => true
  | _ => true

/-- What holds of the two tasks as long as they keep up. -/
structure InStep : Prop where
  covered : live.covers (observeSceneFile live.content) = true
  waiting : live.task = .subscribing → live.loads = []
  loaded : live.task ≠ .subscribing → live.lastRead.isSome = true
  timely : ∀ scene watch, live.watcher = .watching scene watch →
    watch.debounce = sceneWatchDebounce ∧ watch.Timely live.clock
  finished : live.watcher = .finished → ∃ fault, live.task = .ended fault

theorem phases : live.task = .subscribing ∨ (∃ driver, live.task = .running driver) ∨
    ∃ fault, live.task = .ended fault := by
  cases live.task with
  | subscribing => exact .inl rfl
  | running driver => exact .inr (.inl ⟨driver, rfl⟩)
  | ended fault => exact .inr (.inr ⟨fault, rfl⟩)

section Covers

variable {live : LiveReload shell} {seen : SceneFileObservation}

theorem covers_of_subscribing (task : live.task = .subscribing) : live.covers seen = true := by
  simp only [covers, task]

theorem covers_of_lastSeen (same : live.lastSeen = some seen) : live.covers seen = true := by
  unfold covers
  split
  · rfl
  · simpa using same
  · split
    · rename_i scene watch _
      by_cases stable : seen = watch.stable
      · simp [same, stable]
      · simp [stable]
    · simp

theorem covers_of_waiting (running : ∃ driver, live.task = .running driver)
    (waiting : live.reloadWaiting = true) : live.covers seen = true := by
  obtain ⟨driver, task⟩ := running
  simp only [covers, task, waiting, Bool.true_or]

/-- Between two states of the running driver that differ in nothing the watcher needs. -/
theorem covers_mono {after : LiveReload shell} (covered : live.covers seen = true)
    (before : ∃ driver, live.task = .running driver) (still : ∃ driver, after.task = .running driver)
    (active : after.activeScene = live.activeScene) (read : after.lastRead = live.lastRead)
    (watcher : ∀ scene watch, after.watcher = .watching scene watch →
      ∃ earlier, live.watcher = .watching scene earlier ∧ earlier.stable = watch.stable)
    (waiting : live.reloadWaiting = true → after.reloadWaiting = true) :
    after.covers seen = true := by
  obtain ⟨_, running⟩ := before
  obtain ⟨_, stillRunning⟩ := still
  simp only [covers, running] at covered
  simp only [covers, stillRunning]
  rcases Bool.or_eq_true_iff.mp covered with reload | watched
  · rw [waiting reload, Bool.true_or]
  · rw [lastSeen, read, active]
    refine Bool.or_eq_true_iff.mpr (.inr ?_)
    split
    · rename_i scene watch watching
      obtain ⟨earlier, watchedBefore, stable⟩ := watcher scene watch watching
      simpa only [watchedBefore, stable, lastSeen] using watched
    · rfl

/-- Once the driver has ended, its last load has to have read what the file holds. -/
theorem lastSeen_of_ended (ended : ∃ fault, live.task = .ended fault)
    (covered : live.covers seen = true) : live.lastSeen = some seen := by
  obtain ⟨fault, task⟩ := ended
  simpa only [covers, task, beq_iff_eq] using covered

end Covers

section Steps

variable (systems : Systems shell.Network shell.Host shell.Log shell.Observation)
  (backend : AgentBackend) (encoders : Encoders shell)
  (load : Content → Except SceneLoadFailure (SceneLoad shell))

theorem target_of_activeScene (driver : Driver shell) (files : SceneFiles shell)
    (command : DriverCommand) :
    (Driver.handleCommand systems backend encoders driver files command).activeScene =
        driver.activeScene ∨
      command.target driver.activeScene =
        some (Driver.handleCommand systems backend encoders driver files command).activeScene := by
  rcases Driver.handleCommand_activeScene systems backend encoders driver files command with
    same | switched
  · exact .inl same
  · right
    generalize Driver.handleCommand systems backend encoders driver files command = after at switched
    rw [switched]
    rfl

theorem isReload_of_target {active : SceneRef} {command : DriverCommand}
    (apart : command.target active ≠ some active) : command.isReload = false := by
  cases command with
  | reload => exact absurd rfl apart
  | _ => rfl

/-- A turn of the driver leaves the watcher, the clock and the files alone and reads at most
one file. -/
structure DriverTurn (before after : LiveReload shell) : Prop where
  watcher : after.watcher = before.watcher
  clock : after.clock = before.clock
  files : after.files = before.files
  loads : after.loads = before.loads ∨
    ∃ scene : SceneRef, after.loads = (scene, before.files scene.path) :: before.loads

theorem handle_turn (live : LiveReload shell) (driver : Driver shell) (command : DriverCommand) :
    DriverTurn live (live.handle systems backend encoders load driver command) := by
  unfold handle
  dsimp only
  split
  · exact ⟨rfl, rfl, rfl, .inr ⟨_, rfl⟩⟩
  · exact ⟨rfl, rfl, rfl, .inl rfl⟩

theorem receive_turn (live : LiveReload shell) :
    DriverTurn live (live.receive systems backend encoders load) := by
  unfold receive
  split
  · unfold subscribe
    dsimp only
    split
    · exact ⟨rfl, rfl, rfl, .inr ⟨_, rfl⟩⟩
    · exact ⟨rfl, rfl, rfl, .inr ⟨_, rfl⟩⟩
  · exact ⟨rfl, rfl, rfl, .inl rfl⟩
  · rename_i driver command rest _ _
    have turn := handle_turn systems backend encoders load { live with backlog := rest } driver command
    exact ⟨turn.watcher, turn.clock, turn.files, turn.loads⟩
  · rename_i driver command rest _ _ _
    have turn := handle_turn systems backend encoders load { live with channel := rest } driver command
    exact ⟨turn.watcher, turn.clock, turn.files, turn.loads⟩
  · exact ⟨rfl, rfl, rfl, .inl rfl⟩

theorem timer_turn (live : LiveReload shell) :
    DriverTurn live (live.timer systems backend encoders) := by
  unfold timer
  split
  · exact ⟨rfl, rfl, rfl, .inl rfl⟩
  · exact ⟨rfl, rfl, rfl, .inl rfl⟩

/-- What handling a command does: the scene active afterwards has just been read, or the
active scene and what was last read of it are as they were. -/
structure Handled (before : LiveReload shell) (command : DriverCommand) (after : LiveReload shell) :
    Prop extends DriverTurn before after where
  running : ∃ driver, after.task = .running driver
  waiting : (before.backlog.any DriverCommand.isReload || before.channel.any DriverCommand.isReload) =
    after.reloadWaiting
  read : after.lastRead = some after.content ∨ command.isReload = false ∧
    after.activeScene = before.activeScene ∧ after.lastRead = before.lastRead

theorem handle_handled {live : LiveReload shell} {driver : Driver shell}
    (running : live.task = .running driver) (command : DriverCommand) :
    Handled live command (live.handle systems backend encoders load driver command) := by
  have active : live.activeScene = driver.activeScene := by simp only [activeScene, running]
  have moved := target_of_activeScene systems backend encoders driver
    (fun path => load (live.files path)) command
  have turn := handle_turn systems backend encoders load live driver command
  unfold handle at turn ⊢
  dsimp only at turn ⊢
  split
  · rename_i scene target
    rw [target] at turn
    refine ⟨turn, ⟨_, rfl⟩, rfl, ?_⟩
    simp only [lastRead, content, attempt, active]
    simp only [activeScene]
    rw [target] at moved
    by_cases same : scene = (Driver.handleCommand systems backend encoders driver
        (fun path => load (live.files path)) command).activeScene
    · left
      simp [same]
    · right
      have kept := moved.resolve_right fun loaded => same (Option.some.inj loaded)
      rw [kept] at same ⊢
      have apart : command.target driver.activeScene ≠ some driver.activeScene := by
        intro loaded
        exact same (Option.some.inj (target.symm.trans loaded))
      refine ⟨isReload_of_target apart, rfl, ?_⟩
      simp [same]
  · rename_i target
    rw [target] at turn
    refine ⟨turn, ⟨_, rfl⟩, rfl, .inr ?_⟩
    have kept : (Driver.handleCommand systems backend encoders driver
        (fun path => load (live.files path)) command).activeScene = driver.activeScene :=
      moved.resolve_right fun loaded => by cases target.symm.trans loaded
    have apart : command.target driver.activeScene ≠ some driver.activeScene := by
      rw [target]
      nofun
    simp only [lastRead, active]
    simp only [activeScene, kept]
    exact ⟨isReload_of_target apart, trivial, trivial⟩

end Steps

section Look

variable (live : LiveReload shell) (scene : SceneRef)

/-- A look at the file changes the watcher, and the channel where it reports a change. -/
theorem look_eq (seen : DebouncedFileWatch × Bool) : ∃ watcher channel,
    live.look scene seen = { live with watcher, channel } ∧
      (watcher = .finished ∨ watcher = .watching scene seen.1) := by
  unfold look
  split
  · rcases live.phases with subscribing | ⟨driver, running⟩ | ⟨fault, ended⟩
    · simp only [send, subscribing]
      exact ⟨_, _, rfl, .inr rfl⟩
    · simp only [send, running]
      exact ⟨_, _, rfl, .inr rfl⟩
    · simp only [ended]
      exact ⟨_, _, rfl, .inl rfl⟩
  · exact ⟨_, _, rfl, .inr rfl⟩

variable {live scene} {watch : DebouncedFileWatch}

/-- A change seen while the driver still takes commands enqueues a reload. -/
theorem look_changed (receiving : ∀ fault, live.task ≠ .ended fault) :
    live.look scene (watch, true) =
      { live with
        watcher := .watching scene watch
        channel := live.channel ++ [.reload] } := by
  unfold look
  rcases live.phases with subscribing | ⟨driver, running⟩ | ⟨fault, ended⟩
  · simp [send, subscribing]
  · simp [send, running]
  · exact absurd ended (receiving fault)

theorem look_ended {fault : Envelope shell} (ended : live.task = .ended fault) :
    live.look scene (watch, true) = { live with watcher := .finished } := by
  simp [look, ended]

end Look

namespace InStep

variable {live : LiveReload shell} (inStep : live.InStep)
include inStep

theorem handled (backlog channel : List DriverCommand) {command : DriverCommand}
    {after : LiveReload shell} (running : ∃ driver, live.task = .running driver)
    (handled : Handled { live with backlog, channel } command after)
    (waiting : live.reloadWaiting = true → command.isReload = false →
      (backlog.any DriverCommand.isReload || channel.any DriverCommand.isReload) = true) :
    after.InStep := by
  obtain ⟨driver, before⟩ := running
  obtain ⟨driver', still⟩ := handled.running
  constructor
  · rcases handled.read with current | ⟨noReload, active, read⟩
    · exact covers_of_lastSeen (by rw [lastSeen, current]; rfl)
    · have same : after.content = live.content := by
        rw [content, handled.files, active]
        rfl
      rw [same]
      exact covers_mono inStep.covered ⟨driver, before⟩ ⟨driver', still⟩ active read
        (fun scene watch watching => ⟨watch, handled.watcher ▸ watching, rfl⟩)
        fun waits => handled.waiting ▸ waiting waits noReload
  · intro subscribing
    cases still.symm.trans subscribing
  · intro _
    rcases handled.read with current | ⟨_, _, read⟩
    · rw [current]
      rfl
    · rw [read]
      exact inStep.loaded (by rw [before]; nofun)
  · rw [handled.watcher, handled.clock]
    exact inStep.timely
  · rw [handled.watcher]
    intro finished
    obtain ⟨fault, ended⟩ := inStep.finished finished
    cases before.symm.trans ended

/-- The first load reads what the file holds, whether it succeeds or not. -/
theorem subscribed (task : live.task = .subscribing) (rest : List DriverCommand)
    (encoders : Encoders shell) (load : Content → Except SceneLoadFailure (SceneLoad shell)) :
    (LiveReload.subscribe { live with channel := rest } encoders load).InStep := by
  have unfinished : live.watcher ≠ .finished := by
    intro finished
    obtain ⟨fault, ended⟩ := inStep.finished finished
    cases task.symm.trans ended
  unfold LiveReload.subscribe
  dsimp only
  split
  · rename_i loaded _
    have active : (Driver.start encoders live.initialScene loaded).activeScene = live.initialScene := rfl
    refine ⟨covers_of_lastSeen ?_, nofun, fun _ => ?_, inStep.timely, fun finished =>
      absurd finished unfinished⟩
    · simp [lastSeen, lastRead, activeScene, content, attempt, active]
    · simp [lastRead, activeScene, attempt, active]
  · refine ⟨covers_of_lastSeen ?_, nofun, fun _ => ?_, inStep.timely, fun finished =>
      absurd finished unfinished⟩
    · simp [lastSeen, lastRead, activeScene, content, attempt]
    · simp [lastRead, activeScene, attempt]

theorem received (systems : Systems shell.Network shell.Host shell.Log shell.Observation)
    (backend : AgentBackend) (encoders : Encoders shell)
    (load : Content → Except SceneLoadFailure (SceneLoad shell)) :
    (live.receive systems backend encoders load).InStep := by
  unfold receive
  split
  · rename_i rest task _
    exact inStep.subscribed task rest encoders load
  · rename_i _ task _
    exact ⟨covers_of_subscribing task, inStep.waiting, inStep.loaded, inStep.timely, inStep.finished⟩
  · rename_i driver command rest task held
    have taken : ({ live with backlog := rest } : LiveReload shell).task = .running driver := task
    refine inStep.handled rest live.channel ⟨driver, task⟩
      (handle_handled systems backend encoders load taken command) fun waits noReload => ?_
    simpa [reloadWaiting, task, held, noReload] using waits
  · rename_i driver command rest task held arrived
    have taken : ({ live with channel := rest } : LiveReload shell).task = .running driver := task
    refine inStep.handled live.backlog rest ⟨driver, task⟩
      (handle_handled systems backend encoders load taken command) fun waits noReload => ?_
    simpa [reloadWaiting, task, held, arrived, noReload] using waits
  · exact inStep

theorem timed (systems : Systems shell.Network shell.Host shell.Log shell.Observation)
    (backend : AgentBackend) (encoders : Encoders shell) :
    (live.timer systems backend encoders).InStep := by
  unfold timer
  split
  · rename_i driver task _
    have active : LiveReload.activeScene { live with
        task := .running (Driver.handleEvent systems backend encoders driver .timer) } =
        live.activeScene := by
      rw [activeScene, activeScene, task]
      exact Driver.timer_activeScene systems backend encoders driver
    have same : LiveReload.lastRead { live with
        task := .running (Driver.handleEvent systems backend encoders driver .timer) } =
        live.lastRead := by
      rw [lastRead, active]
      rfl
    constructor
    · rw [content, active]
      refine covers_mono inStep.covered ⟨driver, task⟩ ⟨_, rfl⟩ active same
        (fun scene watch watching => ⟨watch, watching, rfl⟩) fun waits => ?_
      simpa only [reloadWaiting, task] using waits
    · exact nofun
    · intro _
      rw [same]
      exact inStep.loaded (by rw [task]; nofun)
    · exact inStep.timely
    · intro finished
      obtain ⟨fault, ended⟩ := inStep.finished finished
      cases task.symm.trans ended
  · exact inStep

theorem sent (command : DriverCommand) : (live.send command).InStep := by
  unfold send
  split
  · exact inStep
  · rename_i task
    refine ⟨?_, inStep.waiting, inStep.loaded, inStep.timely, inStep.finished⟩
    rcases live.phases with subscribing | ⟨driver, running⟩ | ⟨fault, ended⟩
    · exact covers_of_subscribing subscribing
    · refine covers_mono inStep.covered ⟨driver, running⟩ ⟨driver, running⟩ rfl rfl
        (fun scene watch watching => ⟨watch, watching, rfl⟩) fun waits => ?_
      simp only [reloadWaiting, running, List.any_append, Bool.or_eq_true] at waits ⊢
      tauto
    · exact absurd ended (task fault)

theorem written (path : String) (content : Content)
    (kept : live.keepsUp (.write path content) = true) :
    InStep { live with files := fun other => if other = path then content else live.files other } := by
  refine ⟨?_, inStep.waiting, inStep.loaded, inStep.timely, inStep.finished⟩
  show live.covers (observeSceneFile (if live.activeScene.path = path then content else live.content)) = true
  split
  · rename_i same
    simpa [keepsUp, same] using kept
  · exact inStep.covered

theorem retargeted (kept : live.keepsUp .poll = true) (rebaselines : live.rebaselines = true) :
    live.retarget.InStep := by
  constructor
  · show live.retarget.covers (observeSceneFile live.content) = true
    rcases live.phases with subscribing | ⟨driver, running⟩ | ⟨fault, ended⟩
    · exact covers_of_subscribing subscribing
    · simp only [keepsUp, running, rebaselines, Bool.not_true, Bool.false_or, Bool.or_eq_true,
        beq_iff_eq] at kept
      rcases kept with waiting | same
      · exact covers_of_waiting ⟨driver, running⟩ (show live.reloadWaiting = true from waiting)
      · exact covers_of_lastSeen (show live.lastSeen = _ from same)
    · exact covers_of_lastSeen (show live.lastSeen = _ from
        lastSeen_of_ended ⟨fault, ended⟩ inStep.covered)
  · exact inStep.waiting
  · exact inStep.loaded
  · rintro scene watch same
    obtain ⟨rfl, rfl⟩ := Watcher.watching.inj same
    exact ⟨rfl, nofun⟩
  · nofun

/-- A look at the file the watcher already watches. -/
theorem observed {scene : SceneRef} {watch : DebouncedFileWatch}
    (watching : live.watcher = .watching scene watch) :
    (live.look scene (watch.observe (observeSceneFile live.content) live.clock)).InStep := by
  obtain ⟨period, timely⟩ := inStep.timely scene watch watching
  have reported := watch.observe_stable (observeSceneFile live.content) live.clock
  have sound : (watch.observe (observeSceneFile live.content) live.clock).1.debounce =
      sceneWatchDebounce ∧
      (watch.observe (observeSceneFile live.content) live.clock).1.Timely live.clock :=
    ⟨(watch.observe_debounce _ _).trans period, timely.observe _⟩
  generalize watch.observe (observeSceneFile live.content) live.clock = seen at *
  obtain ⟨after, changed⟩ := seen
  have held : ∀ other rest, Watcher.watching scene after = .watching other rest →
      rest.debounce = sceneWatchDebounce ∧ rest.Timely live.clock := by
    rintro other rest same
    obtain ⟨rfl, rfl⟩ := Watcher.watching.inj same
    exact sound
  have quiet (unchanged : changed = false) :
      InStep { live with watcher := .watching scene after } := by
    subst unchanged
    have stable : after.stable = watch.stable := reported
    refine ⟨?_, inStep.waiting, inStep.loaded, held, nofun⟩
    rcases live.phases with subscribing | ⟨driver, running⟩ | ended
    · exact covers_of_subscribing subscribing
    · refine covers_mono inStep.covered ⟨driver, running⟩ ⟨driver, running⟩ rfl rfl ?_ fun waits => waits
      rintro other rest same
      obtain ⟨rfl, rfl⟩ := Watcher.watching.inj same
      exact ⟨watch, watching, stable.symm⟩
    · exact covers_of_lastSeen (show live.lastSeen = _ from lastSeen_of_ended ended inStep.covered)
  cases changed with
  | false => exact quiet rfl
  | true =>
    rcases live.phases with subscribing | ⟨driver, running⟩ | ⟨fault, ended⟩
    · rw [look_changed (by rw [subscribing]; nofun)]
      exact ⟨covers_of_subscribing subscribing, inStep.waiting, inStep.loaded, held, nofun⟩
    · rw [look_changed (by rw [running]; nofun)]
      refine ⟨covers_of_waiting ⟨driver, running⟩ ?_, inStep.waiting, inStep.loaded, held, nofun⟩
      simp [reloadWaiting, running, DriverCommand.isReload]
    · rw [look_ended ended]
      refine ⟨covers_of_lastSeen ?_, inStep.waiting, inStep.loaded, nofun, fun _ => ⟨fault, ended⟩⟩
      exact (show live.lastSeen = _ from lastSeen_of_ended ⟨fault, ended⟩ inStep.covered)

theorem polled (kept : live.keepsUp .poll = true) : live.poll.InStep := by
  unfold poll
  split
  · rename_i start
    exact inStep.retargeted kept (by rw [rebaselines, start])
  · rename_i scene watch watching
    split
    · exact inStep.observed watching
    · rename_i moved
      refine inStep.retargeted kept ?_
      simpa [rebaselines, watching] using Ne.symm moved
  · exact inStep

theorem stepped (systems : Systems shell.Network shell.Host shell.Log shell.Observation)
    (backend : AgentBackend) (encoders : Encoders shell)
    (load : Content → Except SceneLoadFailure (SceneLoad shell)) (event : LiveEvent)
    (kept : live.keepsUp event = true) : (live.step systems backend encoders load event).InStep := by
  cases event with
  | write path content => exact inStep.written path content kept
  | send command => exact inStep.sent command
  | receive => exact inStep.received systems backend encoders load
  | timer => exact inStep.timed systems backend encoders
  | poll => exact inStep.polled kept
  | pass millis =>
    refine ⟨inStep.covered, inStep.waiting, inStep.loaded, ?_, inStep.finished⟩
    intro scene watch watching
    obtain ⟨period, timely⟩ := inStep.timely scene watch watching
    exact ⟨period, timely.later (Nat.le_add_right _ _)⟩

end InStep

/-- The condition is the weakest: a step that does not meet it leaves a file the driver would
not come to load. -/
theorem keepsUp_of_covered {live : LiveReload shell}
    {systems : Systems shell.Network shell.Host shell.Log shell.Observation}
    {backend : AgentBackend} {encoders : Encoders shell}
    {load : Content → Except SceneLoadFailure (SceneLoad shell)} {event : LiveEvent}
    (covered : (live.step systems backend encoders load event).covers
      (observeSceneFile (live.step systems backend encoders load event).content) = true) :
    live.keepsUp event = true := by
  cases event with
  | write path content =>
    have after : live.covers (observeSceneFile
        (if live.activeScene.path = path then content else live.content)) = true := covered
    by_cases same : live.activeScene.path = path
    · rw [if_pos same] at after
      simp only [keepsUp, after, Bool.or_true]
    · simp only [keepsUp, bne_iff_ne.mpr (Ne.symm same), Bool.true_or]
  | poll =>
    rcases live.phases with subscribing | ⟨driver, running⟩ | ⟨fault, ended⟩
    · simp only [keepsUp, subscribing]
    · by_cases fresh : live.rebaselines = true
      · have turn : live.poll = live.retarget := by
          unfold rebaselines at fresh
          unfold poll
          split
          · rfl
          · rename_i scene watch watching
            rw [watching] at fresh
            exact if_neg fun active => bne_iff_ne.mp fresh active.symm
          · rename_i finished
            rw [finished] at fresh
            cases fresh
        have retargeted : live.retarget.covers (observeSceneFile live.content) = true := by
          have after : live.poll.covers (observeSceneFile live.poll.content) = true := covered
          rw [turn] at after
          exact after
        have left : (live.reloadWaiting || (live.activeScene != live.activeScene ||
            live.lastSeen == some (observeSceneFile live.content) ||
            observeSceneFile live.content != observeSceneFile live.content)) = true := by
          have still : live.retarget.task = .running driver := running
          rw [covers, still] at retargeted
          exact retargeted
        simp only [bne_self_eq_false, Bool.false_or, Bool.or_false] at left
        simp only [keepsUp, running, left, Bool.or_assoc, Bool.or_true]
      · simp only [keepsUp, running, fresh, Bool.not_false, Bool.true_or]
    · simp only [keepsUp, ended]
  | _ => rfl

end LiveReload

end Simetro.Desktop
