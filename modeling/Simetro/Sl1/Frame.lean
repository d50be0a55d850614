import Simetro.Protocol.Messages
import Simetro.Sl1.RuntimeState

/-! What an SL1 pass reads and writes: the runtime state and the two output
buffers. The engine empties the buffers before every tick and no pass reads
them; the model keeps them, so that a run's frame holds its whole transcript.
The ledger, the spawns and the fulfilments are ghosts: no pass reads them either.
The ledger records every change of stock, capacity claims and reservations with
the runtime just before and just after, the other two every demand instance that
entered its queue or was served. -/

namespace Simetro.Sl1

open Simetro.Protocol

inductive LedgerOp where
  | inject (pressure place thing : String) (due units : Nat)
  | start (transform : String)
  | complete (transform : String)
  | abort (transform : String)
  deriving DecidableEq

structure LedgerEntry where
  tick : Nat
  op : LedgerOp
  before : Sl1RuntimeState
  after : Sl1RuntimeState

/-- One instance of a demand. -/
structure DemandEntry where
  tick : Nat
  demand : String
  sequence : Nat
  deriving DecidableEq

structure Frame where
  runtime : Sl1RuntimeState
  events : List SimEvent
  messages : List SimMessage
  ledger : List LedgerEntry
  spawns : List DemandEntry
  fulfilments : List DemandEntry

namespace Frame

/-- The frame of a freshly loaded scene. -/
def load (scene : Sl1Scene) : Frame := ⟨.fromScene scene, [], [], [], [], []⟩

def emit (frame : Frame) (event : SimEvent) : Frame :=
  { frame with events := frame.events ++ [event] }

def warn (frame : Frame) (payload : WarningPayload) : Frame :=
  { frame with messages := frame.messages ++ [.warning payload] }

def modify (frame : Frame) (change : Sl1RuntimeState → Sl1RuntimeState) : Frame :=
  { frame with runtime := change frame.runtime }

/-- Change the runtime and enter the change in the ledger. -/
def perform (frame : Frame) (tick : Nat) (op : LedgerOp)
    (change : Sl1RuntimeState → Sl1RuntimeState) : Frame :=
  { frame with
    runtime := change frame.runtime
    ledger := frame.ledger ++ [⟨tick, op, frame.runtime, change frame.runtime⟩] }

/-- Enter the instances a demand spawned. -/
def enqueue (frame : Frame) (entries : List DemandEntry) : Frame :=
  { frame with spawns := frame.spawns ++ entries }

/-- Enter a served instance. -/
def serve (frame : Frame) (entry : DemandEntry) : Frame :=
  { frame with fulfilments := frame.fulfilments ++ [entry] }

section Projections

variable (frame : Frame) (event : SimEvent) (payload : WarningPayload) (tick : Nat)
  (op : LedgerOp) (change : Sl1RuntimeState → Sl1RuntimeState) (entry : DemandEntry)
  (entries : List DemandEntry)

@[simp] theorem emit_runtime : (frame.emit event).runtime = frame.runtime := rfl
@[simp] theorem emit_events : (frame.emit event).events = frame.events ++ [event] := rfl
@[simp] theorem emit_messages : (frame.emit event).messages = frame.messages := rfl
@[simp] theorem emit_ledger : (frame.emit event).ledger = frame.ledger := rfl
@[simp] theorem warn_runtime : (frame.warn payload).runtime = frame.runtime := rfl
@[simp] theorem warn_events : (frame.warn payload).events = frame.events := rfl
@[simp] theorem warn_messages :
    (frame.warn payload).messages = frame.messages ++ [.warning payload] := rfl
@[simp] theorem warn_ledger : (frame.warn payload).ledger = frame.ledger := rfl
@[simp] theorem modify_runtime : (frame.modify change).runtime = change frame.runtime := rfl
@[simp] theorem modify_events : (frame.modify change).events = frame.events := rfl
@[simp] theorem modify_messages : (frame.modify change).messages = frame.messages := rfl
@[simp] theorem modify_ledger : (frame.modify change).ledger = frame.ledger := rfl
@[simp] theorem perform_runtime :
    (frame.perform tick op change).runtime = change frame.runtime := rfl
@[simp] theorem perform_events : (frame.perform tick op change).events = frame.events := rfl
@[simp] theorem perform_messages :
    (frame.perform tick op change).messages = frame.messages := rfl
@[simp] theorem perform_ledger : (frame.perform tick op change).ledger =
    frame.ledger ++ [⟨tick, op, frame.runtime, change frame.runtime⟩] := rfl
@[simp] theorem emit_spawns : (frame.emit event).spawns = frame.spawns := rfl
@[simp] theorem warn_spawns : (frame.warn payload).spawns = frame.spawns := rfl
@[simp] theorem modify_spawns : (frame.modify change).spawns = frame.spawns := rfl
@[simp] theorem emit_fulfilments : (frame.emit event).fulfilments = frame.fulfilments := rfl
@[simp] theorem warn_fulfilments : (frame.warn payload).fulfilments = frame.fulfilments := rfl
@[simp] theorem modify_fulfilments : (frame.modify change).fulfilments = frame.fulfilments := rfl
@[simp] theorem enqueue_runtime : (frame.enqueue entries).runtime = frame.runtime := rfl
@[simp] theorem enqueue_messages : (frame.enqueue entries).messages = frame.messages := rfl
@[simp] theorem enqueue_spawns :
    (frame.enqueue entries).spawns = frame.spawns ++ entries := rfl
@[simp] theorem enqueue_fulfilments :
    (frame.enqueue entries).fulfilments = frame.fulfilments := rfl
@[simp] theorem serve_runtime : (frame.serve entry).runtime = frame.runtime := rfl
@[simp] theorem serve_messages : (frame.serve entry).messages = frame.messages := rfl
@[simp] theorem serve_spawns : (frame.serve entry).spawns = frame.spawns := rfl
@[simp] theorem serve_fulfilments :
    (frame.serve entry).fulfilments = frame.fulfilments ++ [entry] := rfl

end Projections

end Frame

end Simetro.Sl1
