import Simetro.Sl1.ValidateStructure

/-! Validation of demand and pressure. -/

namespace Simetro.Sl1

open Simetro.Library

def validateDemandTarget (demand : String) (placeIds : IdSet) (raw : RawSl1DemandTarget) :
    Checked Sl1DemandTarget :=
  match raw.kind with
  | "place" => do
      reject (!placeIds.contains raw.id) (.demandUnknownTarget demand raw.id)
      return .place raw.id
  | "transform" => .error (.demandTargetKindNotImplemented demand "transform")
  | "dashboard" => .error (.demandTargetKindNotImplemented demand "dashboard")
  | "virtual_sink" => .error (.demandTargetKindNotImplemented demand "virtual_sink")
  | kind => .error (.demandUnknownTargetKind demand kind)

def checkRequires (demand : String) (thingIds : IdSet) : List String → IdSet → Checked Unit
  | [], _ => .ok ()
  | value :: rest, seen => do
      reject (!thingIds.contains value) (.demandUnknownRequires demand value)
      reject (seen.contains value) (.demandDuplicateRequires demand value)
      checkRequires demand thingIds rest (seen.insert value)

def validateDemandRequires (demand : String) (thingIds : IdSet) (raw : List String) :
    Checked (List String) := do
  reject raw.isEmpty (.demandRequiresEmpty demand)
  reject (maxDemandRequires < raw.length)
    (.demandRequiresTooMany demand raw.length maxDemandRequires)
  checkRequires demand thingIds raw ∅
  return sortByKey id raw

def checkScripted (demand : String) : List Nat → Option Nat → Checked Unit
  | [], _ => .ok ()
  | tick :: rest, previous => do
      reject (tick == 0) (.demandScheduleScriptedTickZero demand)
      reject (maxDemandTicks < tick)
        (.demandScheduleFieldOutOfRange demand "ticks" tick maxDemandTicks)
      reject (previous.any (tick ≤ ·)) (.demandScheduleScriptedNotIncreasing demand tick)
      checkScripted demand rest (some tick)

def validateFixedSchedule (demand : String) (raw : RawSl1DemandSchedule) :
    Checked Sl1DemandSchedule := do
  reject raw.ticks.isSome (.demandScheduleUnexpectedField demand "fixed" "ticks")
  let everyTicks ← present (raw.everyTicks.map (·.toNat))
    (.demandScheduleMissingField demand "fixed" "every_ticks")
  let startTick ← present (raw.startTick.map (·.toNat))
    (.demandScheduleMissingField demand "fixed" "start_tick")
  reject (everyTicks == 0) (.demandScheduleFieldZero demand "every_ticks")
  reject (startTick == 0) (.demandScheduleFieldZero demand "start_tick")
  reject (maxDemandTicks < everyTicks)
    (.demandScheduleFieldOutOfRange demand "every_ticks" everyTicks maxDemandTicks)
  reject (maxDemandTicks < startTick)
    (.demandScheduleFieldOutOfRange demand "start_tick" startTick maxDemandTicks)
  return .fixed everyTicks startTick

def validateScriptedSchedule (demand : String) (raw : RawSl1DemandSchedule) :
    Checked Sl1DemandSchedule := do
  reject raw.everyTicks.isSome (.demandScheduleUnexpectedField demand "scripted" "every_ticks")
  reject raw.startTick.isSome (.demandScheduleUnexpectedField demand "scripted" "start_tick")
  let ticks ← present (raw.ticks.map fun ticks => ticks.map (·.toNat))
    (.demandScheduleMissingField demand "scripted" "ticks")
  reject ticks.isEmpty (.demandScheduleScriptedEmpty demand)
  reject (maxDemandScriptedTicks < ticks.length)
    (.demandScheduleScriptedTooMany demand ticks.length maxDemandScriptedTicks)
  checkScripted demand ticks none
  return .scripted ticks

def validateDemandSchedule (demand : String) (raw : RawSl1DemandSchedule) :
    Checked Sl1DemandSchedule :=
  match raw.kind with
  | "fixed" => validateFixedSchedule demand raw
  | "scripted" => validateScriptedSchedule demand raw
  | "wave" => .error (.demandScheduleNotImplemented demand "wave")
  | kind => .error (.demandUnknownScheduleType demand kind)

/-- A penalty score is at most zero. -/
def validateDemandPenalty (demand : String) (raw : RawSl1DemandPenalty) :
    Checked Sl1DemandPenalty := do
  let score := raw.score.toInt
  reject (0 < score) (.demandPenaltyScorePositive demand score)
  let magnitude : Int := min score.natAbs i64Max
  reject (maxDemandPenaltyScore < magnitude)
    (.demandPenaltyScoreOutOfRange demand magnitude maxDemandPenaltyScore)
  reject (raw.warning.any isBlank) (.demandPenaltyWarningEmpty demand)
  return { score, warning := raw.warning }

def demandPriority (demand : String) : String → Checked Sl1DemandPriority
  | "low" => .ok .low
  | "normal" => .ok .normal
  | "high" => .ok .high
  | "critical" => .ok .critical
  | priority => .error (.demandInvalidPriority demand priority)

def validateDemand (placeIds thingIds : IdSet) (raw : RawSl1Demand) : Checked Sl1Demand := do
  reject (!isValidSl1Id raw.id) (.demandInvalidId raw.id)
  reject (isBlank raw.kind) (.demandEmptyType raw.id)
  let target ← validateDemandTarget raw.id placeIds raw.target
  let requires ← validateDemandRequires raw.id thingIds raw.requires
  let spawnSchedule ← validateDemandSchedule raw.id raw.spawnSchedule
  let deadline := raw.deadlineTicks.toNat
  checkPositive deadline maxDemandTicks (.demandDeadlineZero raw.id)
    (.demandDeadlineOutOfRange raw.id deadline maxDemandTicks)
  let priority ← demandPriority raw.id raw.priority
  reject (maxDemandValue < raw.value.toNat)
    (.demandValueOutOfRange raw.id raw.value.toNat maxDemandValue)
  let penalty ← validateDemandPenalty raw.id raw.penalty
  return {
    id := raw.id
    kind := raw.kind
    target
    requires
    spawnSchedule
    deadlineTicks := deadline
    priority
    value := raw.value.toNat
    penalty }

def pressureKind (id : String) : String → Checked Sl1PressureKind
  | "source_multiplier" => .ok .sourceMultiplier
  | "demand_growth" => .ok .demandGrowth
  | "quota_reduction" => .ok .quotaReduction
  | "path_outage" => .ok .pathOutage
  | "schema_drift" => .ok .schemaDrift
  | "dashboard_storm" => .ok .dashboardStorm
  | "spot_eviction_wave" => .ok .spotEvictionWave
  | "storage_metadata_storm" => .ok .storageMetadataStorm
  | "cooling_degradation" => .ok .coolingDegradation
  | other => .error (.pressureUnknownType id other)

def requirePressureField (id : String) (kind : Sl1PressureKind) (field : String)
    (value : Option α) : Checked α :=
  present value (.pressureMissingField id kind.asStr field)

def rejectPressureField (id : String) (kind : Sl1PressureKind) (field : String) (present : Bool) :
    Checked Unit :=
  reject present (.pressureUnexpectedField id kind.asStr field)

/-- What pressures may refer to. -/
structure PressureScope where
  places : IdMap Sl1Place
  thingIds : IdSet
  demandIds : IdSet
  linkIds : IdSet

/-- Rounding half away from zero of a positive value, clamped like a 64-bit cast. -/
def roundToU64 (value : Float) : Nat :=
  let whole := value.toUInt64
  if 0.5 ≤ value - whole.toFloat then min (whole.toNat + 1) u64Max else whole.toNat

section Params

variable (scope : PressureScope) (kind : Sl1PressureKind) (raw : RawSl1Pressure)

def sourceMultiplierParams : Checked Sl1PressureParams := do
  rejectPressureField raw.id kind "spawn_multiplier" raw.spawnMultiplier.isSome
  rejectPressureField raw.id kind "capacity" raw.capacity.isSome
  rejectPressureField raw.id kind "reduction_percent" raw.reductionPercent.isSome
  let thing ← requirePressureField raw.id kind "thing" raw.thing
  reject (!scope.thingIds.contains thing) (.pressureUnknownThing raw.id thing)
  let place ← present scope.places[raw.target]? (.pressureUnknownTarget raw.id "place" raw.target)
  reject (!place.storage.contains thing) (.pressureNoStorageSlot raw.id raw.target thing)
  let multiplier ← requirePressureField raw.id kind "multiplier" raw.multiplier
  let outOfRange := .pressureMultiplierOutOfRange raw.id multiplier maxPressureMultiplierMilli
  reject (!multiplier.isFinite || multiplier ≤ 0.0) outOfRange
  let milli := roundToU64 (multiplier * 1000.0)
  reject (milli == 0 || maxPressureMultiplierMilli < milli) outOfRange
  return .sourceMultiplier thing milli

def demandGrowthParams : Checked Sl1PressureParams := do
  rejectPressureField raw.id kind "thing" raw.thing.isSome
  rejectPressureField raw.id kind "multiplier" raw.multiplier.isSome
  rejectPressureField raw.id kind "capacity" raw.capacity.isSome
  rejectPressureField raw.id kind "reduction_percent" raw.reductionPercent.isSome
  reject (!scope.demandIds.contains raw.target) (.pressureUnknownTarget raw.id "demand" raw.target)
  let spawn ← requirePressureField raw.id kind "spawn_multiplier" (raw.spawnMultiplier.map (·.toNat))
  reject (spawn == 0 || maxPressureSpawnMultiplier < spawn)
    (.pressureSpawnMultiplierOutOfRange raw.id spawn maxPressureSpawnMultiplier)
  return .demandGrowth spawn

def quotaReductionParams : Checked Sl1PressureParams := do
  rejectPressureField raw.id kind "thing" raw.thing.isSome
  rejectPressureField raw.id kind "multiplier" raw.multiplier.isSome
  rejectPressureField raw.id kind "spawn_multiplier" raw.spawnMultiplier.isSome
  let place ← present scope.places[raw.target]? (.pressureUnknownTarget raw.id "place" raw.target)
  let capacity ← requirePressureField raw.id kind "capacity" raw.capacity
  reject (!place.capacity.contains capacity)
    (.pressureUnknownCapacityBucket raw.id raw.target capacity)
  let reduction ←
    requirePressureField raw.id kind "reduction_percent" (raw.reductionPercent.map (·.toNat))
  reject (reduction == 0 || maxPressureReductionPercent < reduction)
    (.pressureReductionPercentOutOfRange raw.id reduction maxPressureReductionPercent)
  return .quotaReduction capacity reduction

/-- Kinds without parameters refuse all of them. -/
def rejectAllParams : Checked Unit := do
  rejectPressureField raw.id kind "thing" raw.thing.isSome
  rejectPressureField raw.id kind "multiplier" raw.multiplier.isSome
  rejectPressureField raw.id kind "spawn_multiplier" raw.spawnMultiplier.isSome
  rejectPressureField raw.id kind "capacity" raw.capacity.isSome
  rejectPressureField raw.id kind "reduction_percent" raw.reductionPercent.isSome

def pathOutageParams : Checked Sl1PressureParams := do
  rejectAllParams kind raw
  reject (!scope.linkIds.contains raw.target) (.pressureUnknownTarget raw.id "link" raw.target)
  return .pathOutage

def unsupportedParams (expected : String) (resolved : Bool) : Checked Sl1PressureParams := do
  rejectAllParams kind raw
  reject (!resolved) (.pressureUnknownTarget raw.id expected raw.target)
  return .unsupportedInThisPr

def pressureParams : Checked Sl1PressureParams :=
  match kind with
  | .sourceMultiplier => sourceMultiplierParams scope kind raw
  | .demandGrowth => demandGrowthParams scope kind raw
  | .quotaReduction => quotaReductionParams scope kind raw
  | .pathOutage => pathOutageParams scope kind raw
  | .schemaDrift => unsupportedParams kind raw "thing" (scope.thingIds.contains raw.target)
  | .dashboardStorm | .spotEvictionWave | .storageMetadataStorm | .coolingDegradation =>
      unsupportedParams kind raw "place" (scope.places.contains raw.target)

end Params

def validatePressure (scope : PressureScope) (raw : RawSl1Pressure) : Checked Sl1Pressure := do
  let atTick := raw.atTick.toNat
  let duration := raw.durationTicks.toNat
  reject (!isValidSl1Id raw.id) (.pressureInvalidId raw.id)
  reject (duration == 0) (.pressureDurationZero raw.id)
  reject (maxPressureTicks < atTick) (.pressureAtTickOutOfRange raw.id atTick maxPressureTicks)
  reject (maxPressureTicks < duration)
    (.pressureDurationOutOfRange raw.id duration maxPressureTicks)
  reject (maxPressureTicks < atTick + duration)
    (.pressureEndOverflow raw.id atTick duration maxPressureTicks)
  let kind ← pressureKind raw.id raw.kind
  reject (isBlank raw.target) (.pressureMissingField raw.id kind.asStr "target")
  let params ← pressureParams scope kind raw
  return { id := raw.id, kind, atTick, durationTicks := duration, target := raw.target, params }

end Simetro.Sl1
