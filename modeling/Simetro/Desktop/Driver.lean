import Mathlib.Algebra.Order.Ring.Rat
import Simetro.Engine.Tick

/-! The desktop driver: one loop that handles commands and timer ticks and sends
envelopes to the frontend. -/

namespace Simetro.Desktop

open Simetro.Engine Simetro.Protocol Simetro.Sl1

structure SceneRef where
  sceneId : String
  path : String
  deriving DecidableEq

/-- A finite speed factor is the rational it stands for; infinities and NaN are
`none`. -/
inductive DriverCommand where
  | togglePause
  | step
  | setSpeed (factor : Option Rat)
  | setScene (scene : SceneRef)
  | reload
  | subscribe

def internalHz : Nat := 60
def snapshotHz : Nat := 20
def ticksPerSnapshot : Nat := internalHz / snapshotHz

/-- The 32-bit float nearest to 0.1. -/
def minSpeedFactor : Rat := 13421773 / 134217728

def maxSpeedFactor : Rat := 10

def clampSpeedFactor : Option Rat → Rat
  | some factor => max minSpeedFactor (min factor maxSpeedFactor)
  | none => 1

/-- Why a scene did not load. A load error keeps its text and the fault it maps to. -/
inductive SceneLoadFailure where
  | read (error : String)
  | load (text : String) (fault : FaultPayload)

def SceneLoadFailure.toText : SceneLoadFailure → String
  | .read error => s!"cannot read scene: {error}"
  | .load text _ => text

def SceneLoadFailure.toFault : SceneLoadFailure → FaultPayload
  | .read error => .engineFault s!"cannot read scene: {error}"
  | .load _ fault => fault

/-- The types of what the driver hands on without looking inside. -/
structure Shell where
  Network : Type
  Host : Type
  Log : Type
  Observation : Type
  Meta : Type
  Static : Type
  Snapshot : Type

/-- The payload encoders of the snapshot module. -/
structure Encoders (shell : Shell) where
  encodeStaticParts : shell.Meta → World shell.Network → shell.Static
  encodeSnapshot : World shell.Network → shell.Snapshot

structure SceneLoad (shell : Shell) where
  machine : Machine shell.Network shell.Host shell.Log
  sceneMeta : shell.Meta
  staticPayload : shell.Static

inductive Payload (shell : Shell) where
  | static (payload : shell.Static)
  | snapshot (payload : shell.Snapshot)
  | events (events : List SimEvent)
  | message (message : SimMessage)

structure Envelope (shell : Shell) where
  seq : Nat
  payload : Payload shell

structure SimState (shell : Shell) where
  machine : Machine shell.Network shell.Host shell.Log
  sceneMeta : shell.Meta
  snapshotBuf : shell.Snapshot
  lastStatic : shell.Static
  seq : Nat
  paused : Bool
  speedFactor : Rat

/-- The loop's state, with the envelopes sent and the replies given so far. -/
structure Driver (shell : Shell) where
  state : SimState shell
  ticksSinceSnapshot : Nat
  activeScene : SceneRef
  sent : List (Envelope shell) := []
  replies : List (Except String Unit) := []

/-- What reading and loading the scene file at a path gives at some moment. -/
abbrev SceneFiles (shell : Shell) :=
  String → Except SceneLoadFailure (SceneLoad shell)

/-- The timer fires, or a command is received while the files are as given. -/
inductive DriverEvent (shell : Shell) where
  | timer
  | command (command : DriverCommand) (files : SceneFiles shell)

def isSemantic : SimEvent → Bool
  | .tick _ => false
  | _ => true

namespace Driver

variable {shell : Shell}

def emit (driver : Driver shell) (payload : Payload shell) :
    Driver shell :=
  { driver with
    state := { driver.state with seq := driver.state.seq + 1 }
    sent := driver.sent ++ [⟨driver.state.seq, payload⟩] }

def withMachine (driver : Driver shell)
    (machine : Machine shell.Network shell.Host shell.Log) : Driver shell :=
  { driver with
    state := { driver.state with machine } }

def setPaused (driver : Driver shell) (paused : Bool) :
    Driver shell :=
  { driver with
    state := { driver.state with paused } }

def world (driver : Driver shell) : World shell.Network :=
  driver.state.machine.world

def enter (driver : Driver shell) (state : RunState) :
    Driver shell :=
  driver.withMachine (driver.state.machine.enter state)

section Loop

variable (systems : Systems shell.Network shell.Host shell.Log shell.Observation) (backend : AgentBackend)
  (encoders : Encoders shell)

/-- Encode the world into the reused buffer and send it. -/
def emitSnapshot (driver : Driver shell) :
    Driver shell :=
  let snapshotBuf := encoders.encodeSnapshot driver.world
  let driver := { driver with state := { driver.state with snapshotBuf } }
  driver.emit (.snapshot snapshotBuf)

/-- After nodes or paths changed: new static geometry and a snapshot of it. -/
def emitTopology (driver : Driver shell) :
    Driver shell :=
  let lastStatic := encoders.encodeStaticParts driver.state.sceneMeta driver.world
  let driver := { driver with state := { driver.state with lastStatic } }
  let driver := emitSnapshot encoders (driver.emit (.static lastStatic))
  { driver with ticksSinceSnapshot := 0 }

def emitEvents (driver : Driver shell) :
    Driver shell :=
  let events := driver.state.machine.runner.events
  if events.any isSemantic then driver.emit (.events events) else driver

def emitMessages (driver : Driver shell) :
    Driver shell :=
  driver.state.machine.runner.messages.foldl (fun driver message => driver.emit (.message message))
    driver

/-- A snapshot every third tick. -/
def emitPeriodicSnapshot (driver : Driver shell) :
    Driver shell :=
  if driver.ticksSinceSnapshot + 1 ≥ ticksPerSnapshot then
    emitSnapshot encoders { driver with ticksSinceSnapshot := 0 }
  else { driver with ticksSinceSnapshot := driver.ticksSinceSnapshot + 1 }

/-- A panic of the engine faults the world and pauses the driver. -/
def tickAndEmit (driver : Driver shell) :
    Driver shell :=
  match tickOnce systems backend driver.state.machine with
  | .panicked machine message =>
    (((driver.withMachine machine).enter .faulted).setPaused true).emit
      (.message (.fault (.engineFault message)))
  | .done machine =>
    let driver := driver.withMachine machine
    let driver := if machine.runner.topologyDirty then emitTopology encoders driver else driver
    emitPeriodicSnapshot encoders (emitMessages (emitEvents driver))

def applySceneLoad (driver : Driver shell)
    (loaded : SceneLoad shell) :
    Driver shell :=
  { driver with
    state := { driver.state with
      machine := loaded.machine
      sceneMeta := loaded.sceneMeta
      lastStatic := loaded.staticPayload
      paused := false }
    ticksSinceSnapshot := 0 }

def replaceScene (driver : Driver shell) (scene : SceneRef)
    (files : SceneFiles shell) :
    Driver shell × Except SceneLoadFailure Unit :=
  match files scene.path with
  | .error failure => (driver.emit (.message (.fault failure.toFault)), .error failure)
  | .ok loaded =>
    let driver := (driver.applySceneLoad loaded).emit (.static loaded.staticPayload)
    (emitSnapshot encoders driver, .ok ())

def togglePause (driver : Driver shell) :
    Driver shell :=
  let driver := driver.setPaused (!driver.state.paused)
  if driver.state.paused then driver.enter .paused
  else if driver.world.state = .paused then driver.enter .running
  else driver

/-- One tick whatever the pause flag says; a paused driver is paused again. -/
def stepOnce (driver : Driver shell) :
    Driver shell :=
  let wasPaused := driver.state.paused
  let driver := driver.setPaused false
  let driver := if driver.world.state = .paused then driver.enter .running else driver
  let driver := tickAndEmit systems backend encoders driver
  if wasPaused then (driver.setPaused true).enter .paused else driver

def handleCommand (driver : Driver shell)
    (files : SceneFiles shell) :
    DriverCommand → Driver shell
  | .togglePause => driver.togglePause
  | .step => stepOnce systems backend encoders driver
  | .setSpeed factor =>
    { driver with
      state := { driver.state with speedFactor := clampSpeedFactor factor } }
  | .reload => (replaceScene encoders driver driver.activeScene files).1
  | .setScene scene =>
    match replaceScene encoders driver scene files with
    | (driver, .ok ()) =>
      { driver with
        activeScene := scene
        replies := driver.replies ++ [.ok ()] }
    | (driver, .error failure) =>
      { driver with
        replies := driver.replies ++ [.error failure.toText] }
  | .subscribe => emitSnapshot encoders (driver.emit (.static driver.state.lastStatic))

def handleEvent (driver : Driver shell) :
    DriverEvent shell → Driver shell
  | .timer => if driver.state.paused then driver else tickAndEmit systems backend encoders driver
  | .command command files => handleCommand systems backend encoders driver files command

def run (driver : Driver shell)
    (events : List (DriverEvent shell)) :
    Driver shell :=
  events.foldl (handleEvent systems backend encoders) driver

/-- `load_and_init`: the driver starts with the initial static and snapshot sent. -/
def start (scene : SceneRef) (loaded : SceneLoad shell) :
    Driver shell :=
  let driver : Driver shell :=
    { state :=
        { machine := loaded.machine
          sceneMeta := loaded.sceneMeta
          snapshotBuf := encoders.encodeSnapshot loaded.machine.world
          lastStatic := loaded.staticPayload
          seq := 0
          paused := false
          speedFactor := 1 }
      ticksSinceSnapshot := 0
      activeScene := scene }
  emitSnapshot encoders (driver.emit (.static loaded.staticPayload))

end Loop

end Driver

end Simetro.Desktop
