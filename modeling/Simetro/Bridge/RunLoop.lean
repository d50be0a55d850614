import Simetro.Bridge.WireRoundTrip
import Simetro.Library.ItemReader

/-! The bridge process: the backends it can be started with, its stdio loop and its exit
codes. Writing to its output never fails here. -/

namespace Simetro.Bridge

open Simetro.Agent Simetro.Library Simetro.Protocol

/-- A backend with what it keeps from one call to the next. -/
structure Provider (Store : Type) where
  invoke : Store → BackendRequest → Store × Except LlmError BackendResponse

abbrev MockTurn := Except LlmError BackendResponse

/-- The scripted results that are left. -/
abbrev MockBackend := List MockTurn

namespace MockBackend

def new : MockBackend := []
def push (queue : MockBackend) (turn : MockTurn) : MockBackend := queue ++ [turn]

def invoke : MockBackend → BackendRequest → MockBackend × Except LlmError BackendResponse
  | [], _ => ([], .error .disconnected)
  | turn :: rest, _ => (rest, turn)

def provider : Provider MockBackend := ⟨invoke⟩

end MockBackend

/-- Live calls are off. -/
def copilotBackend : Provider Unit := ⟨fun store _ => (store, .error .notAuthenticated)⟩

def Envelope.isCompatible (envelope : Envelope) : Bool :=
  envelope.schemaVersion = Bridge.schemaVersion

def helloEnvelope (seq : Nat) (bridgeVersion : String) : Envelope :=
  .new seq (.hello bridgeVersion schemaVersion)

def shutdownEnvelope (seq : Nat) : Envelope := .new seq .shutdown

def schemaMismatchMessage (peer : Nat) : String :=
  s!"schema_version mismatch: peer={peer}, ours={schemaVersion}; refusing to process payload"

inductive LoopError where
  | wire (problem : WireError)
  | invalidData (message : String)
  deriving DecidableEq

/-- `fetch_add` wraps. -/
def nextSeq (seq : Nat) : Nat := (seq + 1) % u64Bound

structure BridgeProcess (Store : Type) where
  backend : Store
  seq : Nat

section Loop

variable {Store : Type} (text : F32Text) (debug : DebugText) (provider : Provider Store)

/-- What is asked of a backend for a request. -/
def backendRequest (request : AgentRequest) : BackendRequest where
  agentId := request.id.agentId
  prompt := request.observationJson
  tools := actionToolSpecs

/-- The backend is called once for each request. -/
def Provider.dispatch (store : Store) (request : AgentRequest) : Store × AgentReply :=
  let (next, result) := provider.invoke store (backendRequest request)
  (next, Bridge.dispatch text debug (fun _ => result) request)

/-- One pass of the loop over an envelope that was read. -/
def loopPass (process : BridgeProcess Store) (envelope : Envelope) :
    Except (Except LoopError Unit) (BridgeProcess Store × List Envelope) :=
  if !envelope.isCompatible then
    .error (.error (.invalidData (schemaMismatchMessage envelope.schemaVersion)))
  else
    match envelope.payload with
    | .hello _ _ | .reply _ | .log _ _ => .ok (process, [])
    | .shutdown => .error (.ok ())
    | .request request =>
        let (backend, reply) := provider.dispatch text debug process.backend request
        .ok (⟨backend, nextSeq process.seq⟩, [.new process.seq (.reply reply)])

/-- How the loop ends when there is no further envelope. -/
def loopEnd : Option WireError → Except LoopError Unit
  | none => .ok ()
  | some problem => .error (.wire problem)

theorem readLine_shorter {input line rest : List Char} (read : readLine input = (line, rest))
    (some : line ≠ []) : rest.length < input.length := by
  unfold readLine at read
  have suffix := List.dropWhile_suffix (fun character => character ≠ '\n') (l := input)
  split at read
  · obtain ⟨rfl, rfl⟩ := Prod.mk.inj read
    exact List.length_pos_iff.mpr some
  · rename_i head tail found
    obtain ⟨-, rfl⟩ := Prod.mk.inj read
    rw [found] at suffix
    exact Nat.lt_of_lt_of_le (Nat.lt_succ_self _) suffix.length_le

theorem readEnvelope_shorter {input rest : List Char} {envelope : Envelope}
    (read : readEnvelope text input = (.ok (some envelope), rest)) :
    rest.length < input.length := by
  unfold readEnvelope at read
  cases taken : readLine input with
  | mk line left =>
    rw [taken] at read
    simp only at read
    by_cases empty : line.isEmpty = true
    · rw [if_pos empty] at read
      cases read
    · have left_rest : left = rest := by
        rw [if_neg empty] at read
        split at read
        · exact (Prod.mk.inj read).2
        · split at read
          · exact (Prod.mk.inj read).2
          · cases read
      subst left_rest
      refine readLine_shorter taken ?_
      rintro rfl
      exact empty rfl

/-- The envelopes of a stream. -/
def envelopes : ItemReader Envelope WireError := ⟨readEnvelope text, readEnvelope_shorter text⟩

end Loop

end Simetro.Bridge
