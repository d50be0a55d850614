import Simetro.Sl1.Pressure

/-! Demand queues: scheduled spawns, expiry from the front, fulfilment from the
front. Fulfilment observes stock and consumes none. -/

namespace Simetro.Sl1

open Simetro.Library Simetro.Protocol

/-- Live queue of one demand; an undeclared demand has an empty one. -/
def Sl1RuntimeState.demandRuntime (runtime : Sl1RuntimeState) (id : String) : Sl1DemandRuntime :=
  runtime.demand.getD id {}

/-- Replace the queue of a declared demand. -/
def Sl1RuntimeState.storeDemand (runtime : Sl1RuntimeState) (id : String)
    (queue : Sl1DemandRuntime) : Sl1RuntimeState :=
  { runtime with demand := runtime.demand.modify id fun _ => queue }

namespace Demand

/-- Walk the script from the cursor: past ticks are skipped, the first tick that
equals `now` fires. -/
def scriptedAdvance (now : Nat) : List Nat → Nat → Bool × Nat
  | [], cursor => (false, cursor)
  | candidate :: rest, cursor =>
      if candidate = now then (true, cursor + 1)
      else if candidate < now then scriptedAdvance now rest (cursor + 1)
      else (false, cursor)

def shouldSpawn (schedule : Sl1DemandSchedule) (queue : Sl1DemandRuntime) (now : Nat) :
    Bool × Sl1DemandRuntime :=
  if now = 0 then (false, queue)
  else
    match schedule with
    | .fixed everyTicks startTick =>
        (startTick ≤ now && (now - startTick) % everyTicks == 0, queue)
    | .scripted ticks =>
        let (fired, cursor) :=
          scriptedAdvance now (ticks.drop queue.scriptedCursor) queue.scriptedCursor
        (fired, { queue with scriptedCursor := cursor })

variable (demand : Sl1Demand) (now : Nat)

/-- Append one pending instance. -/
def spawnOne (queue : Sl1DemandRuntime) : Sl1DemandRuntime :=
  { queue with
    nextSequence := saturatingAdd u64Max queue.nextSequence 1
    pending := queue.pending ++
      [⟨queue.nextSequence, now, saturatingAdd u64Max now demand.deadlineTicks⟩] }

/-- Spawn up to `want` instances. The flag reports that the backlog cap was hit
by a queue that was not flagged before. -/
def spawnMany : Nat → Sl1DemandRuntime → Sl1DemandRuntime × Bool
  | 0, queue => (queue, false)
  | want + 1, queue =>
      if maxDemandOutstanding ≤ queue.pending.length then
        if queue.overflow then (queue, false) else ({ queue with overflow := true }, true)
      else spawnMany want (spawnOne demand now queue)

def warnOverflow (frame : Frame) : Frame :=
  frame.warn (.sl1Demand demand.id .backlogOverflow now none none none none)

def spawnScheduled (frame : Frame) : Frame :=
  let (fires, queue) := shouldSpawn demand.spawnSchedule (frame.runtime.demandRuntime demand.id) now
  if ¬ fires then frame.modify (·.storeDemand demand.id queue)
  else
    let want := Pressure.effectiveSpawnCount frame.runtime.pressure demand.id
    let (spawned, overflowed) := spawnMany demand now want queue
    let frame := (frame.modify (·.storeDemand demand.id spawned)).enqueue
      ((spawned.pending.drop queue.pending.length).map fun one => ⟨now, demand.id, one.sequence⟩)
    if overflowed then warnOverflow demand now frame else frame

/-- Spawning is suspended before the pause tick; a stale pause is pruned. -/
def spawn (frame : Frame) : Frame :=
  match frame.runtime.agentDemandPauses[demand.id]? with
  | none => spawnScheduled demand now frame
  | some pauseUntil =>
      if now < pauseUntil then frame
      else spawnScheduled demand now (frame.modify fun runtime =>
        { runtime with agentDemandPauses := runtime.agentDemandPauses.erase demand.id })

def isExpired (one : Sl1DemandInstance) : Bool := one.deadlineTick < now

def warnDropped (frame : Frame) (one : Sl1DemandInstance) : Frame :=
  frame.warn (.sl1Demand demand.id .dropped now (some one.sequence) (some demand.value)
    (some demand.penalty.score) demand.penalty.warning)

/-- Pop expired instances off the front. -/
def dropExpired (queue : Sl1DemandRuntime) : Sl1DemandRuntime :=
  { queue with
    pending := queue.pending.dropWhile (isExpired now)
    droppedCount := (queue.pending.takeWhile (isExpired now)).foldl
      (fun count _ => saturatingAdd u64Max count 1) queue.droppedCount }

def drop (frame : Frame) : Frame :=
  let queue := frame.runtime.demandRuntime demand.id
  (queue.pending.takeWhile (isExpired now)).foldl (warnDropped demand now)
    (frame.modify (·.storeDemand demand.id (dropExpired now queue)))

/-- The target holds every required thing and an instance is waiting. -/
def demandRequirementsMet (runtime : Sl1RuntimeState) : Bool :=
  match demand.target with
  | .place place =>
      runtime.inventories.contains place &&
        !(runtime.demandRuntime demand.id).pending.isEmpty &&
        demand.requires.all fun thing => runtime.stock place thing != 0

def fulfillFront (queue : Sl1DemandRuntime) : Sl1DemandRuntime :=
  { queue with
    pending := queue.pending.tail
    fulfilledCount := saturatingAdd u64Max queue.fulfilledCount 1 }

def fulfill (frame : Frame) : Frame :=
  let queue := frame.runtime.demandRuntime demand.id
  if ¬ demandRequirementsMet demand frame.runtime then frame
  else
    match queue.pending with
    | [] => frame
    | front :: _ => (frame.modify (·.storeDemand demand.id (fulfillFront queue))).serve
        ⟨now, demand.id, front.sequence⟩

/-- Rearm the overflow warning once the backlog is below its cap. -/
def rearm (queue : Sl1DemandRuntime) : Sl1DemandRuntime :=
  if queue.overflow ∧ queue.pending.length < maxDemandOutstanding then
    { queue with overflow := false }
  else queue

def resetOverflow (frame : Frame) : Frame :=
  frame.modify fun runtime =>
    runtime.storeDemand demand.id (rearm (runtime.demandRuntime demand.id))

/-- One demand's tick: spawn, drop, fulfil. -/
def serve (frame : Frame) : Frame :=
  if frame.runtime.demand.contains demand.id then
    resetOverflow demand (fulfill demand now (drop demand now (spawn demand now frame)))
  else frame

/-- `run_demand`. -/
def runDemand (scene : Sl1Scene) (now : Nat) (frame : Frame) : Frame :=
  scene.demand.foldl (fun frame demand => serve demand now frame) frame

end Demand

end Simetro.Sl1
