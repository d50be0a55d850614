import Simetro.Desktop.Driver
import Simetro.Library.DebouncedWatch

/-! The driver task and the scene file watcher side by side: two tasks that read the same
file at different moments and share the active scene and the command channel. -/

namespace Simetro.Desktop

open Simetro.Engine Simetro.Library Simetro.Protocol Simetro.Sl1

structure SceneFileStamp where
  len : Nat
  contentHash : UInt64
  deriving DecidableEq

inductive SceneFileObservation where
  | present (stamp : SceneFileStamp)
  | unavailable
  deriving DecidableEq

def fnv1a64 (bytes : List UInt8) : UInt64 :=
  bytes.foldl (fun hash byte => (hash ^^^ byte.toUInt64) * 0x100000001b3) 0xcbf29ce484222325

/-- What reading a file gives; `none` where it cannot be read. -/
abbrev Content := Option (List UInt8)

def observeSceneFile : Content → SceneFileObservation
  | some bytes => .present ⟨bytes.length, fnv1a64 bytes⟩
  | none => .unavailable

/-- In milliseconds. -/
def sceneWatchDebounce : Nat := 300

abbrev DebouncedFileWatch := DebouncedWatch SceneFileObservation

/-- `scene_file_watcher_loop`: not yet run, polling, or gone with the channel. -/
inductive Watcher where
  | spawned
  | watching (scene : SceneRef) (watch : DebouncedFileWatch)
  | finished

/-- `driver_loop`: waiting for the frontend, running, or returned after a failed first
load with the fault it sent. -/
inductive DriverTask (shell : Shell) where
  | subscribing
  | running (driver : Driver shell)
  | ended (fault : Envelope shell)

/-- Both tasks, the commands held back until the first load, the channel, the files and
the clock. `loads` lists the loads attempted with what they read, the latest first. -/
structure LiveReload (shell : Shell) where
  initialScene : SceneRef
  task : DriverTask shell := .subscribing
  backlog : List DriverCommand := []
  channel : List DriverCommand := []
  watcher : Watcher := .spawned
  files : String → Content
  clock : Nat := 0
  loads : List (SceneRef × Content) := []

inductive LiveEvent where
  | write (path : String) (content : Content)
  | send (command : DriverCommand)
  | receive
  | timer
  | poll
  | pass (millis : Nat)

/-- How long the event takes; only the passing of time takes any. -/
def LiveEvent.millis : LiveEvent → Nat
  | .pass millis => millis
  | _ => 0

def DriverCommand.isReload : DriverCommand → Bool
  | .reload => true
  | _ => false

/-- The scene a command loads, if it is one that loads. -/
def DriverCommand.target (active : SceneRef) : DriverCommand → Option SceneRef
  | .reload => some active
  | .setScene scene => some scene
  | _ => none

namespace LiveReload

variable {shell : Shell} (live : LiveReload shell)

def activeScene : SceneRef :=
  match live.task with
  | .running driver => driver.activeScene
  | _ => live.initialScene

/-- What the active scene's file holds. -/
def content : Content := live.files live.activeScene.path

/-- What the last load attempted for the active scene read. -/
def lastRead : Option Content :=
  (live.loads.find? fun load => load.1 == live.activeScene).map (·.2)

/-- A reload is on its way to the driver. -/
def reloadWaiting : Bool :=
  match live.task with
  | .ended _ => false
  | _ => live.backlog.any DriverCommand.isReload || live.channel.any DriverCommand.isReload

def attempt (scene : SceneRef) : LiveReload shell :=
  { live with loads := (scene, live.files scene.path) :: live.loads }

/-- The receiver is gone once the driver has ended. -/
def send (command : DriverCommand) : LiveReload shell :=
  match live.task with
  | .ended _ => live
  | _ => { live with channel := live.channel ++ [command] }

/-- Watch the active scene from what its file holds now. -/
def retarget : LiveReload shell :=
  { live with
    watcher := .watching live.activeScene
      { stable := observeSceneFile live.content, debounce := sceneWatchDebounce } }

/-- Keep what a look at the file has left of the watch, and report a change. -/
def look (scene : SceneRef) (seen : DebouncedFileWatch × Bool) : LiveReload shell :=
  let live := { live with watcher := .watching scene seen.1 }
  if seen.2 then
    match live.task with
    | .ended _ => { live with watcher := .finished }
    | _ => live.send .reload
  else live

/-- The watcher's next turn. -/
def poll : LiveReload shell :=
  match live.watcher with
  | .spawned => live.retarget
  | .watching scene watch =>
    if live.activeScene = scene then
      live.look scene (watch.observe (observeSceneFile live.content) live.clock)
    else live.retarget
  | .finished => live

/-- `spawn_driver`: neither task has run yet. -/
def spawnDriver (initialScene : SceneRef) (files : String → Content) : LiveReload shell :=
  { initialScene, files }

section Loop

variable (systems : Systems shell.Network shell.Host shell.Log shell.Observation)
  (backend : AgentBackend) (encoders : Encoders shell)
  -- reading a scene out of what the file holds
  (load : Content → Except SceneLoadFailure (SceneLoad shell))

/-- `load_and_init` once the frontend has subscribed. -/
def subscribe : LiveReload shell :=
  let live := live.attempt live.initialScene
  match load (live.files live.initialScene.path) with
  | .ok loaded => { live with task := .running (Driver.start encoders live.initialScene loaded) }
  | .error failure => { live with task := .ended ⟨0, .message (.fault failure.toFault)⟩ }

def handle (driver : Driver shell) (command : DriverCommand) : LiveReload shell :=
  let after := Driver.handleCommand systems backend encoders driver (fun path => load (live.files path))
    command
  match command.target driver.activeScene with
  | some scene => { live.attempt scene with task := .running after }
  | none => { live with task := .running after }

/-- The driver takes its next command. -/
def receive : LiveReload shell :=
  match live.task, live.backlog, live.channel with
  | .subscribing, _, .subscribe :: rest => subscribe { live with channel := rest } encoders load
  | .subscribing, backlog, command :: rest =>
    { live with
      backlog := backlog ++ [command]
      channel := rest }
  | .running driver, command :: rest, _ =>
    handle { live with backlog := rest } systems backend encoders load driver command
  | .running driver, [], command :: rest =>
    handle { live with channel := rest } systems backend encoders load driver command
  | _, _, _ => live

/-- The driver ticks once the commands held back are done. -/
def timer : LiveReload shell :=
  match live.task, live.backlog with
  | .running driver, [] =>
    { live with task := .running (Driver.handleEvent systems backend encoders driver .timer) }
  | _, _ => live

def step : LiveEvent → LiveReload shell
  | .write path content =>
    { live with files := fun other => if other = path then content else live.files other }
  | .send command => live.send command
  | .receive => live.receive systems backend encoders load
  | .timer => live.timer systems backend encoders
  | .poll => live.poll
  | .pass millis => { live with clock := live.clock + millis }

def run (events : List LiveEvent) : LiveReload shell :=
  events.foldl (step · systems backend encoders load) live

end Loop

end LiveReload

end Simetro.Desktop
