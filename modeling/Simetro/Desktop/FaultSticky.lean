import Simetro.Desktop.Driver
import Simetro.Library.Fold

/-! When a fault holds: which commands leave a faulted world alone. -/

namespace Simetro.Desktop

open Simetro.Engine Simetro.Library Simetro.Protocol Simetro.Sl1

namespace Driver

variable {shell : Shell}

section World

variable (encoders : Encoders shell) (driver : Driver shell) (payload : Payload shell)
  (machine : Machine shell.Network shell.Host shell.Log) (paused : Bool)

@[simp] theorem emit_world : (driver.emit payload).world = driver.world := rfl
@[simp] theorem withMachine_world : (driver.withMachine machine).world = machine.world := rfl
@[simp] theorem setPaused_world : (driver.setPaused paused).world = driver.world := rfl
@[simp] theorem emitSnapshot_world : (emitSnapshot encoders driver).world = driver.world := rfl
@[simp] theorem emitTopology_world : (emitTopology encoders driver).world = driver.world := rfl

@[simp] theorem emitEvents_world : driver.emitEvents.world = driver.world := by
  simp only [emitEvents, apply_ite Driver.world, emit_world, ite_self]

@[simp] theorem emitMessages_world : driver.emitMessages.world = driver.world := by
  rw [emitMessages]
  exact foldl_keeps Driver.world (fun driver message _ => driver.emit_world (.message message)) driver

@[simp] theorem emitPeriodicSnapshot_world :
    (emitPeriodicSnapshot encoders driver).world = driver.world := by
  unfold emitPeriodicSnapshot
  split <;> rfl

end World

variable {systems : Systems shell.Network shell.Host shell.Log shell.Observation}
  {backend : AgentBackend} {encoders : Encoders shell} {driver : Driver shell}

/-- The tick loop does not enter the pipeline of a faulted world. -/
theorem tickOnce_of_faulted {machine : Machine shell.Network shell.Host shell.Log}
    (faulted : machine.world.state = .faulted) :
    ∃ runner, tickOnce systems backend machine = .done ⟨machine.world, runner⟩ :=
  ⟨_, by rw [tickOnce, if_pos (.inr faulted)]; rfl⟩

theorem tickAndEmit_of_faulted (faulted : driver.world.state = .faulted) :
    (tickAndEmit systems backend encoders driver).world = driver.world := by
  obtain ⟨runner, skipped⟩ : ∃ runner, tickOnce systems backend driver.state.machine =
      .done ⟨driver.world, runner⟩ := tickOnce_of_faulted faulted
  simp only [tickAndEmit, skipped, emitPeriodicSnapshot_world, emitMessages_world, emitEvents_world,
    apply_ite Driver.world, emitTopology_world, withMachine_world, ite_self]

/-- Commands that overwrite the run state of a faulted world: a pause, and a step
while paused. -/
def keepsFault (driver : Driver shell) : DriverEvent shell → Bool
  | .command .togglePause _ => driver.state.paused
  | .command .step _ => !driver.state.paused
  | _ => true

/-- The event does not replace the scene. -/
def keepsScene (driver : Driver shell) : DriverEvent shell → Bool
  | .command .reload files => !(files driver.activeScene.path).isOk
  | .command (.setScene scene) files => !(files scene.path).isOk
  | _ => true

theorem togglePause_of_faulted (faulted : driver.world.state = .faulted)
    (paused : driver.state.paused = true) : driver.togglePause.world = driver.world := by
  have unpaused : (driver.setPaused (!driver.state.paused)).state.paused = false := by
    simp [setPaused, paused]
  simp only [togglePause, unpaused, setPaused_world, faulted, reduceCtorEq, Bool.false_eq_true,
    if_false]

theorem stepOnce_of_faulted (faulted : driver.world.state = .faulted)
    (unpaused : driver.state.paused = false) :
    (stepOnce systems backend encoders driver).world = driver.world := by
  simp only [stepOnce, unpaused, setPaused_world, faulted, reduceCtorEq, Bool.false_eq_true,
    if_false]
  exact tickAndEmit_of_faulted faulted

/-- A scene that fails to load leaves the world and the active scene alone. -/
theorem replaceScene_of_error (encoders : Encoders shell) (driver : Driver shell) {scene : SceneRef}
    {files : SceneFiles shell} (fails : (files scene.path).isOk = false) : ∃ failure,
      replaceScene encoders driver scene files =
        (driver.emit (.message (.fault failure.toFault)), .error failure) := by
  unfold replaceScene
  cases outcome : files scene.path with
  | error failure => exact ⟨failure, rfl⟩
  | ok loaded => simp [outcome, Except.isOk, Except.toBool] at fails

/-- Short of a scene load, an event that keeps the fault leaves the world alone. -/
theorem handleEvent_of_faulted (event : DriverEvent shell) (faulted : driver.world.state = .faulted)
    (kept : driver.keepsFault event = true) (scene : driver.keepsScene event = true) :
    (handleEvent systems backend encoders driver event).world = driver.world := by
  cases event with
  | timer =>
    simp only [handleEvent, apply_ite Driver.world, tickAndEmit_of_faulted faulted, ite_self]
  | command command files =>
    cases command with
    | togglePause => exact togglePause_of_faulted faulted kept
    | step => exact stepOnce_of_faulted faulted (by simpa [keepsFault] using kept)
    | setSpeed factor => rfl
    | setScene target =>
      have fails : (files target.path).isOk = false := by simpa [keepsScene] using scene
      obtain ⟨failure, failed⟩ := replaceScene_of_error encoders driver fails
      simp only [handleEvent, handleCommand, failed]
      rfl
    | reload =>
      have fails : (files driver.activeScene.path).isOk = false := by simpa [keepsScene] using scene
      obtain ⟨failure, failed⟩ := replaceScene_of_error encoders driver fails
      simp only [handleEvent, handleCommand, failed]
      rfl
    | subscribe => rfl

end Driver

/-- While no event loads a scene, pauses an unpaused driver or steps a paused one, a
faulted world stays as it is. -/
theorem fault_sticky (shell : Shell)
    (systems : Systems shell.Network shell.Host shell.Log shell.Observation)
    (backend : AgentBackend) (encoders : Encoders shell) (driver : Driver shell)
    (faulted : driver.world.state = .faulted) (events : List (DriverEvent shell))
    (noLoad : meetsThroughout (Driver.handleEvent systems backend encoders) Driver.keepsScene driver
      events = true)
    (keeps : meetsThroughout (Driver.handleEvent systems backend encoders) Driver.keepsFault driver
      events = true) :
    ∀ before, before <+: events →
      (Driver.run systems backend encoders driver before).world = driver.world := by
  refine meetsThroughout_invariant (fun reached => reached.world = driver.world) ?_ rfl
    (meetsThroughout_and noLoad keeps)
  intro reached event met same
  obtain ⟨scene, kept⟩ := Bool.and_eq_true_iff.mp met
  rw [← same] at faulted ⊢
  exact Driver.handleEvent_of_faulted event faulted kept scene

/-- A driver of an empty world. -/
def emptyShell : Shell := ⟨Unit, Unit, Unit, Unit, Unit, Unit, Unit⟩

def emptyEncoders : Encoders emptyShell := ⟨fun _ _ => (), fun _ => ()⟩

/-- Passes that find nothing to do, and an agent that crashes whenever it acts. -/
def crashingAgent : Systems Unit Unit Unit Unit where
  lifecycle := .done
  movement machine := .done (machine, 0)
  interaction := .done
  production := .done
  hostId _ := "tuner"
  shouldFire _ _ := true
  observeOnly host _ := (host, ())
  step host _ := (host, .error (.panicked "tuner" "boom"))
  applyAction machine _ _ := .done (machine, .noChange)
  append log _ _ _ := (log, none)

/-- The first pass of every tick panics. -/
def panickingEngine : Systems Unit Unit Unit Unit :=
  { crashingAgent with
    lifecycle := fun machine => .panicked machine "boom" }

/-- The driver after the first timer tick of the empty world with one agent. -/
def firstTick (systems : Systems Unit Unit Unit Unit) : Driver emptyShell :=
  Driver.run systems defaultBackend emptyEncoders
    (Driver.start emptyEncoders ⟨"empty", "games/empty.json"⟩
      { machine := ⟨⟨0, .loaded, (), none, none⟩, { hosts := [()] }⟩
        sceneMeta := ()
        staticPayload := () }) [.timer]

def noFiles : SceneFiles emptyShell := fun _ => .error (.read "not found")

/-- A step of the running driver, a failed reload, a late subscriber and the timer. -/
def quietEvents : List (DriverEvent emptyShell) :=
  [.command .step noFiles, .command .reload noFiles, .command .subscribe noFiles, .timer]

theorem fault_sticky_quietEvents : (firstTick crashingAgent).world.state = .faulted ∧
    (Driver.run crashingAgent defaultBackend emptyEncoders (firstTick crashingAgent)
      quietEvents).world = (firstTick crashingAgent).world :=
  ⟨by decide +kernel,
    fault_sticky emptyShell crashingAgent defaultBackend emptyEncoders (firstTick crashingAgent)
      (by decide +kernel) quietEvents (by decide +kernel) (by decide +kernel) _ (List.prefix_refl _)⟩

/-- Two pauses resume a world faulted by an agent, two steps one faulted by a panic. -/
theorem fault_overwritten : (firstTick crashingAgent).world.state = .faulted ∧
    (Driver.run crashingAgent defaultBackend emptyEncoders (firstTick crashingAgent)
      [.command .togglePause noFiles, .command .togglePause noFiles, .timer]).world.tick ≠
        (firstTick crashingAgent).world.tick ∧
    (firstTick panickingEngine).world.state = .faulted ∧
    (Driver.run panickingEngine defaultBackend emptyEncoders (firstTick panickingEngine)
      [.command .step noFiles, .command .step noFiles]).world.tick ≠
        (firstTick panickingEngine).world.tick := by
  decide +kernel

end Simetro.Desktop
