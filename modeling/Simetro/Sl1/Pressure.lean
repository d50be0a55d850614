import Simetro.Sl1.Frame

/-! Scheduled pressures: activation windows, the overlays they drive and the
injection of `source_multiplier`. -/

namespace Simetro.Sl1

open Simetro.Library Simetro.Protocol

/-- Exclusive end of the active window. -/
def Sl1Pressure.endTick (pressure : Sl1Pressure) : Nat :=
  saturatingAdd u64Max pressure.atTick pressure.durationTicks

/-- Declared storage capacities, keyed by place and thing. -/
def Sl1Scene.storageCaps (scene : Sl1Scene) : PairMap Nat :=
  scene.places.foldl (fun caps place =>
    place.storage.toList.foldl (fun caps (thing, slot) =>
      caps.insert (place.id, thing) slot.capacity) caps) ∅

/-- Change the storage slots of one place. -/
def Sl1RuntimeState.updateSlots (runtime : Sl1RuntimeState) (place : String)
    (change : IdMap Nat → IdMap Nat) : Sl1RuntimeState :=
  { runtime with
    inventories := runtime.inventories.insert place (change (runtime.inventories.getD place ∅)) }

/-- The carry of a pressure's injections into a slot, where it has one. -/
def Sl1RuntimeState.injectCarry (runtime : Sl1RuntimeState) (pressure place thing : String) :
    Option Nat := runtime.pressure.sourceInjectCarryMilli[(pressure, place, thing)]?

namespace Pressure

def pressureDef (scene : Sl1Scene) (id : String) : Option Sl1Pressure :=
  scene.pressure.find? fun pressure => pressure.id = id

/-- Active pressures whose window is over, in id order. -/
def toDeactivate (scene : Sl1Scene) (runtime : Sl1RuntimeState) (now : Nat) : List String :=
  runtime.pressure.active.keys.filter fun id =>
    match pressureDef scene id with
    | some pressure => decide (pressure.endTick ≤ now)
    | none => false

def deactivate (scene : Sl1Scene) (now : Nat) (frame : Frame) (id : String) : Frame :=
  let frame := frame.modify fun runtime =>
    { runtime with pressure := { runtime.pressure with
        active := runtime.pressure.active.erase id
        sourceInjectCarryMilli :=
          runtime.pressure.sourceInjectCarryMilli.filter fun key _ => key.1 != id
        unsupportedWarned := runtime.pressure.unsupportedWarned.erase id } }
  match pressureDef scene id with
  | some pressure => frame.emit (.sl1PressureLifecycle id pressure.kind.asStr .deactivated now)
  | none => frame

/-- The one-shot warning of a kind without a runtime effect. -/
def warnUnsupported (now : Nat) (frame : Frame) (pressure : Sl1Pressure) : Frame :=
  if pressure.kind.hasRuntimeEffectInPr7 ||
      frame.runtime.pressure.unsupportedWarned.contains pressure.id then frame
  else
    (frame.modify fun runtime => { runtime with pressure := { runtime.pressure with
      unsupportedWarned := runtime.pressure.unsupportedWarned.insert pressure.id } }).warn
        (.sl1Pressure pressure.id .unsupportedInThisPr pressure.kind.asStr now)

def activate (now : Nat) (frame : Frame) (pressure : Sl1Pressure) : Frame :=
  if pressure.atTick ≤ now ∧ now < pressure.endTick ∧
      ¬ frame.runtime.pressure.active.contains pressure.id then
    let frame := frame.modify fun runtime => { runtime with pressure := { runtime.pressure with
      active := runtime.pressure.active.insert pressure.id now } }
    warnUnsupported now
      (frame.emit (.sl1PressureLifecycle pressure.id pressure.kind.asStr .activated now)) pressure
  else frame

/-- Declared pressures that are active, in id order. -/
def activePressures (scene : Sl1Scene) (runtime : Sl1RuntimeState) : List Sl1Pressure :=
  scene.pressure.filter fun pressure => runtime.pressure.active.contains pressure.id

def growDemand (entries : IdMap Nat) (pressure : Sl1Pressure) : IdMap Nat :=
  match pressure.params with
  | .demandGrowth spawnMultiplier => entries.insert pressure.target
      (saturatingAdd u32Max (entries.getD pressure.target 0) spawnMultiplier)
  | _ => entries

def reduceQuota (entries : PairMap Nat) (pressure : Sl1Pressure) : PairMap Nat :=
  match pressure.params with
  | .quotaReduction capacity reductionPercent => entries.insert (pressure.target, capacity)
      (min (saturatingAdd 255 (entries.getD (pressure.target, capacity) 0) reductionPercent) 100)
  | _ => entries

def outageLink (links : IdSet) (pressure : Sl1Pressure) : IdSet :=
  match pressure.params with
  | .pathOutage => links.insert pressure.target
  | _ => links

def rebuildOverlays (scene : Sl1Scene) (runtime : Sl1RuntimeState) : Sl1RuntimeState :=
  let active := activePressures scene runtime
  { runtime with pressure := { runtime.pressure with
      demandSpawnMultiplier := active.foldl growDemand ∅
      quotaReduction := active.foldl reduceQuota ∅
      outagedLinks := active.foldl outageLink ∅ } }

structure SourceInjection where
  pressure : String
  place : String
  thing : String
  milliPerTick : Nat

def activeInjections (scene : Sl1Scene) (runtime : Sl1RuntimeState) : List SourceInjection :=
  (activePressures scene runtime).filterMap fun pressure =>
    match pressure.params with
    | .sourceMultiplier thing multiplierMilli =>
        some ⟨pressure.id, pressure.target, thing, multiplierMilli⟩
    | _ => none

namespace SourceInjection

variable (injection : SourceInjection) (caps : PairMap Nat) (runtime : Sl1RuntimeState)

def carryKey : String × String × String := (injection.pressure, injection.place, injection.thing)

/-- Milli-units at hand this tick: the carry of earlier ticks and this tick's rate. -/
def milli : Nat := saturatingAdd u64Max
  (runtime.pressure.sourceInjectCarryMilli.getD injection.carryKey 0) injection.milliPerTick

/-- Whole units due this tick. -/
def due : Nat := injection.milli runtime / 1000

/-- Units the slot takes: what is due, clamped by the capacity the stock leaves. -/
def units : Nat := min (injection.due runtime)
  (caps.getD (injection.place, injection.thing) 0 - runtime.stock injection.place injection.thing)

def keepCarry : Sl1RuntimeState :=
  { runtime with pressure := { runtime.pressure with
      sourceInjectCarryMilli := runtime.pressure.sourceInjectCarryMilli.insert injection.carryKey
        (injection.milli runtime % 1000) } }

/-- Land `units` in the slot. -/
def land (units : Nat) : Sl1RuntimeState :=
  runtime.updateSlots injection.place fun slots =>
    slots.insert injection.thing (saturatingAdd u64Max (slots.getD injection.thing 0) units)

end SourceInjection

def injectSource (caps : PairMap Nat) (now : Nat) (frame : Frame) (injection : SourceInjection) :
    Frame :=
  let due := injection.due frame.runtime
  let units := injection.units caps frame.runtime
  let frame := frame.modify injection.keepCarry
  if due = 0 then frame
  else
    -- units clamped away here are lost, not carried
    frame.perform now (.inject injection.pressure injection.place injection.thing due units)
      (injection.land · units)

def applySourceInjection (scene : Sl1Scene) (now : Nat) (frame : Frame) : Frame :=
  (activeInjections scene frame.runtime).foldl (injectSource scene.storageCaps now) frame

/-- `sl1_pressure::run`. -/
def run (scene : Sl1Scene) (now : Nat) (frame : Frame) : Frame :=
  if scene.pressure.isEmpty then frame
  else
    let frame := (toDeactivate scene frame.runtime now).foldl (deactivate scene now) frame
    let frame := scene.pressure.foldl (activate now) frame
    let frame := frame.modify (rebuildOverlays scene)
    applySourceInjection scene now frame

def effectiveSpawnCount (runtime : Sl1PressureRuntime) (demand : String) : Nat :=
  saturatingAdd u32Max 1 (runtime.demandSpawnMultiplier.getD demand 0)

def effectiveCapacity (runtime : Sl1PressureRuntime) (place bucket : String) (base : Nat) : Nat :=
  let reduction := runtime.quotaReduction.getD (place, bucket) 0
  if reduction = 0 then base
  else min (base * (100 - reduction)) u64Max / 100

/-- An overlay only ever shrinks a capacity. -/
theorem effectiveCapacity_le (runtime : Sl1PressureRuntime) (place bucket : String) (base : Nat) :
    effectiveCapacity runtime place bucket base ≤ base := by
  unfold effectiveCapacity
  generalize runtime.quotaReduction.getD (place, bucket) 0 = reduction
  by_cases none : reduction = 0
  · simp [none]
  · simp only [none, if_false]
    have shrinks : base * (100 - reduction) ≤ base * 100 := Nat.mul_le_mul_left _ (by omega)
    omega

end Pressure

end Simetro.Sl1
