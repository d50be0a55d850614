import Simetro.Library.Checks
import Simetro.Library.Text
import Simetro.Sl1.LoadError
import Simetro.Sl1.RawScene

/-! Validation of things, places, links and transforms. -/

namespace Simetro.Sl1

open Simetro.Library

/-- Result of a validator. -/
abbrev Checked (α : Type) := Except Sl1LoadError α

def isIdCharacter (character : Char) : Bool :=
  character.isAlphanum || character == '_' || character == '-'

def isValidSl1Id (id : String) : Bool :=
  id != "" && id.utf8ByteSize ≤ maxSl1IdLen && id.toList.all isIdCharacter

/-- Reject empty and repeated entries, then sort. -/
def canonicalize (empty : Sl1LoadError) (duplicate : String → Sl1LoadError) :
    List String → IdSet → Checked (List String)
  | [], seen => .ok seen.toList
  | entry :: rest, seen => do
      reject (isBlank entry) empty
      reject (seen.contains entry) (duplicate entry)
      canonicalize empty duplicate rest (seen.insert entry)

def canonicalizeThingTags (thing : String) (raw : List String) : Checked (List String) :=
  canonicalize (.thingEmptyTag thing) (.thingDuplicateTag thing) raw ∅

def canonicalizeSet (place field : String) (raw : List String) : Checked (List String) :=
  canonicalize (.placeEmptyEntry place field) (.placeDuplicateEntry place field) raw ∅

def canonicalizeLinkCompatibility (link : String) (raw : List String) : Checked (List String) :=
  canonicalize (.linkEmptyEntry link "compatibility") (.linkDuplicateCompatibility link) raw ∅

def canonicalizeRequiredFields (thing : String) (raw : List String) : Checked (List String) :=
  canonicalize (.thingQualityRequiredFieldEmpty thing) (.thingQualityRequiredFieldDuplicate thing)
    raw ∅

/-- A value in `1..=max`, with an error for each side. -/
def checkPositive (value max : Nat) (zero tooLarge : Sl1LoadError) : Checked Unit := do
  reject (value == 0) zero
  reject (max < value) tooLarge

def checkDropPercent (thing : String) (value : Float) : Checked Float := do
  reject (!value.isFinite || !(0.0 ≤ value && value ≤ 1.0))
    (.thingQualityMaxDropPercentOutOfRange thing value)
  -- negative zero becomes zero
  return if value == 0.0 then 0.0 else value

def validateThingQualityContract (thing : String) (raw : RawSl1ThingQualityContract) :
    Checked Sl1ThingQualityContract := do
  let maxDropPercent ← raw.maxDropPercent.mapM (checkDropPercent thing)
  let maxLateTicks := raw.maxLateTicks.map (·.toNat)
  checkSome (fun late => checkPositive late maxThingLateTicks (.thingQualityMaxLateTicksZero thing)
    (.thingQualityMaxLateTicksOutOfRange thing late maxThingLateTicks)) maxLateTicks
  let requiredFields ← canonicalizeRequiredFields thing raw.requiredFields
  return { maxDropPercent, maxLateTicks, requiredFields }

def validateThing (raw : RawSl1Thing) : Checked Sl1Thing := do
  reject (!isValidSl1Id raw.id) (.thingInvalidId raw.id)
  reject (isBlank raw.kind) (.thingEmptyKind raw.id)
  let tags ← canonicalizeThingTags raw.id raw.tags
  reject (raw.schemaVersion == some 0) (.thingSchemaVersionZero raw.id)
  let freshnessBudgetTicks := raw.freshnessBudgetTicks.map (·.toNat)
  checkSome (fun budget => checkPositive budget maxThingFreshnessBudget
    (.thingFreshnessBudgetZero raw.id)
    (.thingFreshnessBudgetOutOfRange raw.id budget maxThingFreshnessBudget)) freshnessBudgetTicks
  let qualityContract ← raw.qualityContract.mapM (validateThingQualityContract raw.id)
  reject (raw.render.any (isBlank ·.glyph)) (.thingEmptyRenderGlyph raw.id)
  return {
    id := raw.id
    kind := raw.kind
    tags
    schemaVersion := raw.schemaVersion.map (·.toNat)
    freshnessBudgetTicks
    qualityContract
    render := raw.render.map fun hint => ⟨hint.glyph, hint.color.map (·.toNat)⟩ }

/-- `<metric>.used_percent >= <0..=100>`; `none` hands over to the next template. -/
def parseUsedPercent (unsupported : Sl1LoadError) (tooLarge : Nat → Sl1LoadError)
    (text : List Char) : Option (Checked Sl1OperatingPredicate) := do
  let (left, right) ← splitOnce ">=".toList text
  let metric ← stripSuffix ".used_percent".toList (trim left)
  let name := String.ofList (trim metric)
  guard (isValidSl1Id name)
  return do
    let threshold ← present (parseU64 (trim right)) unsupported
    reject (sl1PercentMax < threshold) (tooLarge threshold)
    return .usedPercentGte name threshold

/-- `overloaded_ticks > <ticks>`; `>=` does not match. -/
def parseOverloadedTicks (unsupported : Sl1LoadError) (text : List Char) :
    Option (Checked Sl1OperatingPredicate) := do
  let (left, right) ← splitOnce ">".toList text
  guard (trim left == "overloaded_ticks".toList && (trim right).head? != some '=')
  return do
    let ticks ← present (parseU64 (trim right)) unsupported
    return .overloadedTicksGt ticks

def parsePredicate (place state when : String) : Checked Sl1OperatingPredicate :=
  let unsupported := .placeUnsupportedPredicate place state when
  let text := trim when.toList
  let tooLarge := (.placePercentThresholdOutOfRange place state · sl1PercentMax)
  ((parseUsedPercent unsupported tooLarge text).or (parseOverloadedTicks unsupported text)).getD
    (.error unsupported)

def sl1CoordLimit : Float32 := 1.0e6

def checkStorageSlot (place : String) (slot : String × RawSl1StorageSlot) : Checked Unit := do
  let (thing, raw) := slot
  reject (isBlank thing) (.placeEmptyEntry place "storage")
  reject (raw.capacity == 0) (.placeStorageCapacityZero place thing)
  reject (raw.capacity < raw.initial)
    (.placeStorageInitialExceedsCapacity place thing raw.initial.toNat raw.capacity.toNat)

/-- A used-percent predicate names a capacity bucket of its own place. -/
def checkPredicateMetric (place state : String) (capacity : IdMap UInt64) :
    Sl1OperatingPredicate → Checked Unit
  | .usedPercentGte metric _ =>
      reject (!capacity.contains metric) (.placePredicateUnknownMetric place state metric)
  | .overloadedTicksGt _ => .ok ()

def validateOperatingState (place : String) (capacity : IdMap UInt64)
    (entry : String × RawSl1OperatingState) : Checked (String × Sl1OperatingState) := do
  let (state, raw) := entry
  reject (isBlank state) (.placeEmptyOperatingStateName place)
  let predicate ← parsePredicate place state raw.when
  checkPredicateMetric place state capacity predicate
  return (state, { predicate, graceTicks := raw.graceTicks.map (·.toNat) })

def validatePlace (raw : RawSl1Place) : Checked Sl1Place := do
  reject (!isValidSl1Id raw.id) (.placeInvalidId raw.id)
  reject (isBlank raw.role) (.placeEmptyRole raw.id)
  reject (!raw.pos.1.isFinite || !raw.pos.2.isFinite || sl1CoordLimit < raw.pos.1.abs ||
    sl1CoordLimit < raw.pos.2.abs) (.placeInvalidPos raw.id)
  reject (raw.shape.any isBlank) (.placeEmptyShape raw.id)
  reject (raw.capacity.keys.any isBlank) (.placeEmptyEntry raw.id "capacity")
  checkAll (checkStorageSlot raw.id) raw.storage.toList
  let accepts ← canonicalizeSet raw.id "accepts" raw.accepts
  let produces ← canonicalizeSet raw.id "produces" raw.produces
  let failureDomains ← canonicalizeSet raw.id "failure_domains" raw.failureDomains
  let operatingStates ← raw.operatingStates.toList.mapM (validateOperatingState raw.id raw.capacity)
  return {
    id := raw.id
    role := raw.role
    pos := raw.pos
    shape := raw.shape
    color := raw.color.map (·.toNat)
    capacity := raw.capacity.map fun _ value => value.toNat
    storage := raw.storage.map fun _ slot => ⟨slot.capacity.toNat, slot.initial.toNat⟩
    accepts
    produces
    failureDomains
    operatingStates := .ofList operatingStates }

/-- Storage keys are declared things; accepted and produced values are things or tags. -/
def crossCheckPlace (thingIds thingTags : IdSet) (place : Sl1Place) : Checked Unit := do
  checkAll (fun thing => reject (!thingIds.contains thing) (.placeStorageUnknownThing place.id thing))
    place.storage.keys
  checkAll (fun value => reject (!thingIds.contains value && !thingTags.contains value)
    (.placeUnknownThingReference place.id "accepts" value)) place.accepts
  checkAll (fun value => reject (!thingIds.contains value && !thingTags.contains value)
    (.placeUnknownThingReference place.id "produces" value)) place.produces

def linkDirection (id : String) : Option String → Checked Sl1LinkDirection
  | none => .error (.linkMissingDirection id)
  | some "forward" => .ok .forward
  | some "bidirectional" => .ok .bidirectional
  | some other => .error (.linkUnknownDirection id other)

def linkBackpressure (id : String) : Option String → Checked Sl1LinkBackpressure
  | none => .error (.linkMissingBackpressure id)
  | some "block_upstream" => .ok .blockUpstream
  | some "drop_low_priority" => .ok .dropLowPriority
  | some "spill_to_buffer" => .ok .spillToBuffer
  | some "degrade_quality" => .ok .degradeQuality
  | some other => .error (.linkUnknownBackpressure id other)

def validateLink (placeIds : IdSet) (raw : RawSl1Link) : Checked Sl1Link := do
  reject (!isValidSl1Id raw.id) (.linkInvalidId raw.id)
  reject (isBlank raw.linkType) (.linkEmptyType raw.id)
  reject (!placeIds.contains raw.source) (.linkUnknownPlace raw.id "from" raw.source)
  reject (!placeIds.contains raw.target) (.linkUnknownPlace raw.id "to" raw.target)
  reject (raw.source == raw.target) (.linkSelfLoop raw.id raw.source)
  let direction ← linkDirection raw.id raw.direction
  let backpressure ← linkBackpressure raw.id raw.backpressure
  reject (raw.capacity.keys.any isBlank) (.linkEmptyEntry raw.id "capacity")
  checkPositive raw.travelTicks.toNat maxLinkTravelTicks (.linkTravelTicksZero raw.id)
    (.linkTravelTicksOutOfRange raw.id raw.travelTicks.toNat maxLinkTravelTicks)
  checkPositive raw.queueCapacity.toNat maxLinkQueueCapacity (.linkQueueCapacityZero raw.id)
    (.linkQueueCapacityOutOfRange raw.id raw.queueCapacity.toNat maxLinkQueueCapacity)
  let compatibility ← canonicalizeLinkCompatibility raw.id raw.compatibility
  reject (raw.render.any (isBlank ·.style)) (.linkEmptyRenderStyle raw.id)
  return {
    id := raw.id
    linkType := raw.linkType
    source := raw.source
    target := raw.target
    direction
    capacity := raw.capacity.map fun _ value => value.toNat
    travelTicks := raw.travelTicks.toNat
    compatibility
    queueCapacity := raw.queueCapacity.toNat
    backpressure
    render := raw.render.map fun hint => ⟨hint.style, hint.color.map (·.toNat)⟩ }

def crossCheckLink (thingIds thingTags : IdSet) (link : Sl1Link) : Checked Unit :=
  checkAll (fun value => reject (!thingIds.contains value && !thingTags.contains value)
    (.linkCompatibilityUnknownReference link.id value)) link.compatibility

def validateIo (transform field : String) (thingIds : IdSet) :
    List RawSl1TransformIo → IdSet → Checked (List Sl1TransformIo)
  | [], _ => .ok []
  | raw :: rest, seen => do
      reject (!thingIds.contains raw.thing) (.transformUnknownThing transform field raw.thing)
      reject (seen.contains raw.thing) (.transformDuplicateIo transform field raw.thing)
      checkPositive raw.amount.toNat maxTransformAmount
        (.transformIoAmountZero transform field raw.thing)
        (.transformIoAmountOutOfRange transform field raw.thing raw.amount.toNat maxTransformAmount)
      let others ← validateIo transform field thingIds rest (seen.insert raw.thing)
      return ⟨raw.thing, raw.amount.toNat⟩ :: others

def validateTransformIo (transform field : String) (thingIds : IdSet)
    (raw : List RawSl1TransformIo) : Checked (List Sl1TransformIo) := do
  let rows ← validateIo transform field thingIds raw ∅
  return sortByKey (·.thingId) rows

def checkCapacityCost (transform : String) (place : Sl1Place) (row : String × UInt64) :
    Checked Unit := do
  let (key, value) := row
  reject (isBlank key) (.transformCapacityCostEmptyKey transform)
  checkPositive value.toNat maxTransformCapacityCost (.transformCapacityCostZero transform key)
    (.transformCapacityCostOutOfRange transform key value.toNat maxTransformCapacityCost)
  reject (!place.capacity.contains key) (.transformUnknownCapacityKey transform key place.id)

def failurePolicy (transform : String) : String → Checked Sl1FailurePolicy
  | "retry_then_warn" => .ok .retryThenWarn
  | "drop" => .ok .drop
  | policy => .error (.transformInvalidFailurePolicy transform policy)

def validateTransform (places : IdMap Sl1Place) (thingIds : IdSet) (raw : RawSl1Transform) :
    Checked Sl1Transform := do
  reject (!isValidSl1Id raw.id) (.transformInvalidId raw.id)
  reject (isBlank raw.kind) (.transformEmptyType raw.id)
  let place ← present places[raw.runsOn]? (.transformUnknownPlace raw.id raw.runsOn)
  let inputs ← validateTransformIo raw.id "inputs" thingIds raw.inputs
  reject raw.outputs.isEmpty (.transformEmptyOutputs raw.id)
  let outputs ← validateTransformIo raw.id "outputs" thingIds raw.outputs
  let cadence := raw.cadenceTicks.toNat
  let duration := raw.durationTicks.toNat
  let deadline := raw.deadlineTicks.toNat
  checkPositive cadence maxTransformTicks (.transformCadenceZero raw.id)
    (.transformTicksOutOfRange raw.id "cadence_ticks" cadence maxTransformTicks)
  checkPositive duration maxTransformTicks (.transformDurationZero raw.id)
    (.transformTicksOutOfRange raw.id "duration_ticks" duration maxTransformTicks)
  checkPositive deadline maxTransformTicks (.transformDeadlineZero raw.id)
    (.transformTicksOutOfRange raw.id "deadline_ticks" deadline maxTransformTicks)
  reject (deadline < duration) (.transformDeadlineLessThanDuration raw.id deadline duration)
  checkAll (checkCapacityCost raw.id place) raw.capacityCost.toList
  let policy ← failurePolicy raw.id raw.failurePolicy
  let attempts := raw.maxAttempts.toNat
  checkPositive attempts maxTransformMaxAttempts (.transformMaxAttemptsZero raw.id)
    (.transformMaxAttemptsOutOfRange raw.id attempts maxTransformMaxAttempts)
  return {
    id := raw.id
    kind := raw.kind
    runsOn := raw.runsOn
    inputs
    outputs
    cadenceTicks := cadence
    durationTicks := duration
    deadlineTicks := deadline
    capacityCost := raw.capacityCost.map fun _ value => value.toNat
    failurePolicy := policy
    maxAttempts := attempts }

end Simetro.Sl1
