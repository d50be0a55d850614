import Simetro.Engine.AgentHost

/-! The append-only log of agent decisions, with a ring to fall back on when its sink fails.
What a row looks like on disk is a parameter. -/

namespace Simetro.Engine

open Simetro.Library Simetro.Protocol

namespace AgentLog

def defaultRingCap : Nat := 4096
def schemaVersion : Nat := 2
def rawResponseMaxBytes : Nat := 64 * 1024
def agentIdMaxLen : Nat := 256
def rationaleMaxLen : Nat := 4096
def provenanceStrMaxLen : Nat := 128

end AgentLog

/-- One row. Live backends alone know the optional fields. -/
structure AgentLogEntry where
  schemaVersion : Nat
  tick : Nat
  agentId : String
  observationHash : UInt64
  rawResponse : Option String := none
  truncatedBytes : Option Nat := none
  parsedAction : Option Action
  consideredCount : Nat
  rationale : String
  backend : Option String := none
  model : Option String := none
  latencyMs : Option Nat := none
  promptTokens : Option Nat := none
  completionTokens : Option Nat := none
  deriving DecidableEq

namespace ObservationHash

def mix (hash word : UInt64) : UInt64 := (hash ^^^ word) * 0x100000001b3

def bits (value : Float32) : UInt64 := value.toBits.toUInt64

def mixMover (hash : UInt64) (mover : MoverObservation) : UInt64 :=
  let hash := mix hash (.ofNat mover.id)
  let hash := mix hash (bits mover.speed)
  let hash := mix hash (.ofNat mover.homePath)
  match mover.state with
  | .empty => mix hash 0xe0
  | .waiting node => mix (mix hash 0xe1) (.ofNat node)
  | .traveling path progress => mix (mix (mix hash 0xe2) (.ofNat path)) (bits progress)

end ObservationHash

def observationHash (observation : Observation) : UInt64 :=
  observation.movers.foldl ObservationHash.mixMover
    (ObservationHash.mix 0xcbf29ce484222325 (.ofNat observation.tick))

/-- The row of a decision without a raw response. -/
def AgentLogEntry.new (observation : Observation) (agentId : String) (chosen : Option Action)
    (consideredCount : Nat) (rationale : String) : AgentLogEntry where
  schemaVersion := AgentLog.schemaVersion
  tick := observation.tick
  agentId
  observationHash := Engine.observationHash observation
  parsedAction := chosen
  consideredCount
  rationale

inductive SchemaError where
  | unsupportedVersion (version : Nat)
  | emptyAgentId
  | agentIdTooLong (bytes : Nat)
  | rationaleTooLong (bytes : Nat)
  | uncappedRawResponse
  | truncatedBytesWithoutResponse
  | truncatedBytesOnSmallResponse (original bytes : Nat)
  | truncatedBytesNotGreaterThanCurrent (original bytes : Nat)
  | backendTooLong (bytes : Nat)
  | modelTooLong (bytes : Nat)
  deriving DecidableEq

namespace AgentLogEntry

variable (entry : AgentLogEntry)

/-- A raw response and the mark of its truncation agree. -/
def validateResponse : Except SchemaError Unit :=
  match entry.rawResponse, entry.truncatedBytes with
  | none, none => .ok ()
  | none, some _ => .error .truncatedBytesWithoutResponse
  | some raw, none => reject (AgentLog.rawResponseMaxBytes < raw.utf8ByteSize) .uncappedRawResponse
  | some raw, some original => do
    reject (original ≤ AgentLog.rawResponseMaxBytes)
      (.truncatedBytesOnSmallResponse original raw.utf8ByteSize)
    reject (original ≤ raw.utf8ByteSize)
      (.truncatedBytesNotGreaterThanCurrent original raw.utf8ByteSize)

/-- `validate_entry`. -/
def validate : Except SchemaError Unit := do
  reject (entry.schemaVersion == 0 || AgentLog.schemaVersion < entry.schemaVersion)
    (.unsupportedVersion entry.schemaVersion)
  reject entry.agentId.isEmpty .emptyAgentId
  reject (AgentLog.agentIdMaxLen < entry.agentId.utf8ByteSize)
    (.agentIdTooLong entry.agentId.utf8ByteSize)
  reject (AgentLog.rationaleMaxLen < entry.rationale.utf8ByteSize)
    (.rationaleTooLong entry.rationale.utf8ByteSize)
  entry.validateResponse
  let backend := entry.backend.getD ""
  reject (AgentLog.provenanceStrMaxLen < backend.utf8ByteSize) (.backendTooLong backend.utf8ByteSize)
  let model := entry.model.getD ""
  reject (AgentLog.provenanceStrMaxLen < model.utf8ByteSize) (.modelTooLong model.utf8ByteSize)

end AgentLogEntry

/-- A log of rows. The sink is what it holds, how often it was written to and which of those
writes fail; a failed write leaves no row there. -/
structure AgentLog (Row : Type) where
  sink : List Row := []
  writes : Nat := 0
  fails : Nat → Bool
  ring : List Row := []
  ringCap : Nat := AgentLog.defaultRingCap
  degraded : Bool := false
  dropped : Nat := 0

namespace AgentLog

variable {Row : Type} (log : AgentLog Row)

def pushRing (row : Row) : AgentLog Row :=
  if log.ringCap ≤ log.ring.length then
    { log with
      ring := log.ring.tail ++ [row]
      dropped := saturatingAdd u64Max log.dropped 1 }
  else { log with ring := log.ring ++ [row] }

/-- The first fall back is announced. -/
def firstDegrade : AgentLog Row × Option WarningPayload :=
  if log.degraded then (log, none) else ({ log with degraded := true }, some .agentLogSlow)

def append (row : AgentLogEntry → Row) (entry : AgentLogEntry) :
    AgentLog Row × Option WarningPayload :=
  match entry.validate with
  | .error _ => { log with dropped := saturatingAdd u64Max log.dropped 1 }.firstDegrade
  | .ok () =>
    if log.degraded then (log.pushRing (row entry), none)
    else
      let written := { log with writes := log.writes + 1 }
      if log.fails log.writes then (written.pushRing (row entry)).firstDegrade
      else ({ written with sink := log.sink ++ [row entry] }, none)

/-- The row the tick runner appends for a decision. -/
def record (row : AgentLogEntry → Row) (observation : Observation) (agentId : String)
    (report : AgentReport) : AgentLog Row × Option WarningPayload :=
  log.append row (.new observation agentId report.chosen report.considered.length report.rationale)

/-- The rows kept, those of the sink before those of the ring. -/
def rows : List Row := log.sink ++ log.ring

/-- The ring is used only after the sink failed. -/
def Ordered : Prop := log.degraded = false → log.ring = []

variable {log}

theorem pushRing_rows (row : Row) : (log.pushRing row).rows.Sublist (log.rows ++ [row]) := by
  unfold pushRing rows
  split
  · rw [List.append_assoc]
    apply List.Sublist.append (.refl _)
    exact (List.tail_sublist _).append (.refl _)
  · rw [List.append_assoc]

theorem firstDegrade_rows : log.firstDegrade.1.rows = log.rows := by
  unfold firstDegrade
  split <;> rfl

theorem firstDegrade_ordered : log.firstDegrade.1.Ordered := by
  unfold firstDegrade
  split
  · rename_i degraded
    intro fine
    cases degraded.symm.trans fine
  · intro fine
    cases fine

/-- An entry adds its row at most once, behind the others. -/
theorem append_rows (ordered : log.Ordered) (row : AgentLogEntry → Row) (entry : AgentLogEntry) :
    (log.append row entry).1.Ordered ∧
      (log.append row entry).1.rows.Sublist (log.rows ++ [row entry]) := by
  unfold append
  split
  · refine ⟨firstDegrade_ordered, ?_⟩
    rw [firstDegrade_rows]
    exact List.sublist_append_left _ _
  · split
    · rename_i degraded
      refine ⟨fun fine => ?_, pushRing_rows _⟩
      have kept : (log.pushRing (row entry)).degraded = log.degraded := by
        unfold pushRing
        split <;> rfl
      rw [kept, degraded] at fine
      cases fine
    · rename_i fine
      dsimp only
      split
      · refine ⟨firstDegrade_ordered, ?_⟩
        rw [firstDegrade_rows]
        exact pushRing_rows _
      · refine ⟨ordered, ?_⟩
        have none : log.ring = [] := ordered (by simpa using fine)
        unfold rows
        simp [none]

end AgentLog

end Simetro.Engine
