import Simetro.Sl1.PlacePressures

/-! A place evolves by its own declarations: two scenes that agree on a place, on its
transforms and on the pressures that bear on it run alike there. -/

namespace Simetro.Sl1

open Simetro.Library Simetro.Protocol

/-- The scenes agree on a place and on what runs on it and bears on it. What a place looks
like plays no part. -/
structure Sl1Scene.AgreeOn (scene other : Sl1Scene) (place : String) : Prop where
  declared : ∃ one ∈ scene.places, ∃ two ∈ other.places, one.id = place ∧ two.id = place ∧
    one.storage = two.storage ∧ one.capacity = two.capacity
  transforms : ∀ transform : Sl1Transform, transform.runsOn = place →
    (transform ∈ scene.transforms ↔ transform ∈ other.transforms)
  pressure : ∀ pressure : Sl1Pressure, pressure.bearsOn place = true →
    (pressure ∈ scene.pressure ↔ pressure ∈ other.pressure)

namespace Sl1Scene.AgreeOn

variable {scene other : Sl1Scene} {place : String} (agree : scene.AgreeOn other place)
include agree

theorem locality_eq : scene.locality place = other.locality place := by
  have hosts : (scene.locality place).hosts = (other.locality place).hosts := by
    funext id
    rw [Bool.eq_iff_iff, hosts_iff, hosts_iff]
    exact exists_congr fun transform => ⟨fun ⟨member, same, here⟩ =>
        ⟨(agree.transforms transform here).mp member, same, here⟩,
      fun ⟨member, same, here⟩ => ⟨(agree.transforms transform here).mpr member, same, here⟩⟩
  have presses : (scene.locality place).presses = (other.locality place).presses := by
    funext id
    rw [Bool.eq_iff_iff, presses_iff, presses_iff]
    exact exists_congr fun pressure => ⟨fun ⟨member, same, bears⟩ =>
        ⟨(agree.pressure pressure bears).mp member, same, bears⟩,
      fun ⟨member, same, bears⟩ => ⟨(agree.pressure pressure bears).mpr member, same, bears⟩⟩
  rw [locality, locality, Locality.mk.injEq]
  exact ⟨rfl, hosts, presses⟩

/-- The slots and buckets of the place have one capacity in both scenes. -/
theorem caps (valid : scene.Valid) (validToo : other.Valid) :
    (∀ thing : String, scene.storageCaps.getD (place, thing) 0 =
      other.storageCaps.getD (place, thing) 0) ∧
    ∀ bucket : String, (scene.placeCaps.getD place ∅).getD bucket 0 =
      (other.placeCaps.getD place ∅).getD bucket 0 := by
  obtain ⟨one, member, two, memberToo, rfl, same, storage, capacity⟩ := agree.declared
  constructor
  · intro thing
    rw [valid.storageCaps_of_mem member, ← same, validToo.storageCaps_of_mem memberToo,
      Sl1Place.storageCapacity, Sl1Place.storageCapacity, storage]
  · intro bucket
    rw [valid.placeCaps_of_mem member, ← same, validToo.placeCaps_of_mem memberToo,
      Sl1Place.baseCapacity, Sl1Place.baseCapacity, capacity]

end Sl1Scene.AgreeOn

namespace Pressure

variable {now : Nat}

section Pass

variable {scene other : Sl1Scene} {place : String} (agree : scene.AgreeOn other place)
  (valid : scene.Valid) (validToo : other.Valid) {first second : Frame}
include agree valid validToo

/-- The pressures that bear on the place stand in one order in both scenes. -/
theorem bearing_eq {keep also : Sl1Pressure → Bool}
    (same : ∀ pressure, pressure.bearsOn place = true →
      pressure ∈ scene.pressure → keep pressure = also pressure) :
    (scene.pressure.filter keep).filter (·.bearsOn place) =
      (other.pressure.filter also).filter (·.bearsOn place) := by
  refine eq_of_ordered
    (fun (left right : Sl1Pressure) (less : left.id < right.id) => String.lt_asymm less) ?_ ?_
    fun pressure => ?_
  · exact (valid.pressureIncreasing.filter _).filter _
  · exact (validToo.pressureIncreasing.filter _).filter _
  · simp only [List.mem_filter]
    constructor
    · rintro ⟨⟨member, kept⟩, bears⟩
      exact ⟨⟨(agree.pressure pressure bears).mp member, same pressure bears member ▸ kept⟩, bears⟩
    · rintro ⟨⟨member, kept⟩, bears⟩
      have memberToo := (agree.pressure pressure bears).mpr member
      exact ⟨⟨memberToo, (same pressure bears memberToo).symm ▸ kept⟩, bears⟩

variable {locale : Locality} (own : scene.locality place = locale)
  (same : first.seenFrom locale = second.seenFrom locale)
include own same

theorem deactivated_local :
    ((toDeactivate scene first.runtime now).foldl (deactivate scene now) first).seenFrom locale =
      ((toDeactivate other second.runtime now).foldl (deactivate other now) second).seenFrom
        locale := by
  refine foldl_restrict (Frame.seenFrom locale) ?_
    (fun frame id _ (foreign : locale.presses id = false) =>
      deactivate_foreign frame scene foreign)
    (fun frame id _ foreign => deactivate_foreign frame other foreign)
    (fun one two id _ _ same => ?_) same
  · rw [toDeactivate, toDeactivate, List.filter_filter, List.filter_filter]
    refine keys_filter_eq fun id => ?_
    cases presses : locale.presses id with
    | false => simp
    | true =>
      obtain ⟨pressure, member, rfl, bears⟩ := Sl1Scene.presses_iff.mp (own ▸ presses)
      have memberToo := (agree.pressure pressure bears).mp member
      rw [pressureDef_of_mem valid member, pressureDef_of_mem validToo memberToo,
        ← Std.ExtTreeMap.contains_iff_mem, ← Std.ExtTreeMap.contains_iff_mem,
        seenFrom_active same presses]
  · rw [deactivate_seenFrom, deactivate_seenFrom, same]

theorem activated_local :
    (scene.pressure.foldl (activate now) first).seenFrom locale =
      (other.pressure.foldl (activate now) second).seenFrom locale := by
  have listed := bearing_eq agree valid validToo fun _ _ _ => (rfl : true = true)
  simp only [List.filter_true] at listed
  refine foldl_restrict (Frame.seenFrom locale) listed
    (fun frame pressure member idle =>
      activate_foreign frame pressure (own ▸ not_presses valid member idle))
    (fun frame pressure member idle =>
      activate_foreign frame pressure
        (own ▸ agree.locality_eq ▸ not_presses validToo member idle))
    (fun one two pressure _ _ same => ?_) same
  rw [activate_seenFrom, activate_seenFrom, same]

theorem activePressures_eq :
    (activePressures scene first.runtime).filter (·.bearsOn place) =
      (activePressures other second.runtime).filter (·.bearsOn place) :=
  bearing_eq agree valid validToo fun _ bears member =>
    seenFrom_active same (own ▸ presses_of_bears member bears)

theorem rebuilt_local :
    (first.modify (rebuildOverlays scene)).seenFrom locale =
      (second.modify (rebuildOverlays other)).seenFrom locale := by
  have rebuilt (scene : Sl1Scene) (frame : Frame) :
      (frame.modify (rebuildOverlays scene)).seenFrom locale =
        { frame.seenFrom locale with
          reduction := fun bucket => ((activePressures scene frame.runtime).foldl reduceQuota ∅).getD
            (locale.place, bucket) 0 } := rfl
  have there : locale.place = place := own ▸ rfl
  have reductions (bucket : String) :
      ((activePressures scene first.runtime).foldl reduceQuota ∅).getD (locale.place, bucket) 0 =
        ((activePressures other second.runtime).foldl reduceQuota ∅).getD
          (locale.place, bucket) 0 := by
    rw [there]
    exact foldl_restrict (fun entries : PairMap Nat => entries.getD (place, bucket) 0)
      (activePressures_eq agree valid validToo own same)
      (fun entries _ _ idle => reduceQuota_foreign idle entries bucket)
      (fun entries _ _ idle => reduceQuota_foreign idle entries bucket)
      (fun _ _ pressure _ _ same => reduceQuota_congr pressure same) rfl
  rw [rebuilt, rebuilt, same, funext reductions]

theorem applySourceInjection_local :
    (applySourceInjection scene now first).seenFrom locale =
      (applySourceInjection other now second).seenFrom locale := by
  have there : locale.place = place := own ▸ rfl
  have quiet (caps : PairMap Nat) (frame : Frame) (pressure : Sl1Pressure)
      (idle : pressure.bearsOn place = false) :
      (injectOne caps now frame pressure).seenFrom locale = frame.seenFrom locale := by
    unfold injectOne
    unfold Sl1Pressure.bearsOn at idle
    split
    · rename_i params
      rw [params] at idle
      have elsewhere : pressure.target ≠ place := by simpa using idle
      exact injectSource_foreign _ (fun here => elsewhere (here.trans there)) frame
    · rfl
  rw [applySourceInjection_eq, applySourceInjection_eq]
  refine foldl_restrict (Frame.seenFrom locale) (activePressures_eq agree valid validToo own same)
    (fun frame pressure _ idle => quiet scene.storageCaps frame pressure idle)
    (fun frame pressure _ idle => quiet other.storageCaps frame pressure idle)
    (fun one two pressure active bears same => ?_) same
  unfold injectOne
  have presses := presses_of_bears (List.mem_of_mem_filter active) bears
  unfold Sl1Pressure.bearsOn at bears
  split
  · rename_i params
    rw [params] at bears
    have here : pressure.target = place := by simpa using bears
    refine injectSource_local _ (here.trans there.symm) (own ▸ presses) same ?_
    rw [there]
    exact (agree.caps valid validToo).1 _
  · exact same

/-- The place cannot tell the pressure passes of the scenes apart. -/
theorem run_local (settled : scene.pressure.isEmpty = true → first.runtime.pressure = {})
    (settledToo : other.pressure.isEmpty = true → second.runtime.pressure = {}) :
    (run scene now first).seenFrom locale = (run other now second).seenFrom locale := by
  rw [run_of_settled settled, run_of_settled settledToo]
  exact applySourceInjection_local agree valid validToo own
    (rebuilt_local agree valid validToo own
      (activated_local agree valid validToo own
        (deactivated_local agree valid validToo own same)))

end Pass

end Pressure

namespace Transforms

variable {scene other : Sl1Scene} {place : String} {locale : Locality} {now : Nat}
  {first second : Frame}

theorem ageFreshness_seenFrom (frame : Frame) :
    (ageFreshness scene now frame).seenFrom locale = frame.seenFrom locale :=
  PlaceView.ext rfl rfl rfl (funext fun thing => ageFreshness_lastSetTick locale.place thing)
    rfl rfl rfl rfl rfl

theorem visit_foreign {id : String}
    (foreign : (scene.locality place).hosts id = false) (frame : Frame) :
    (visit scene now frame id).seenFrom (scene.locality place) =
      frame.seenFrom (scene.locality place) := by
  unfold visit
  split
  · rename_i transform found
    obtain ⟨member, rfl⟩ := Sl1Scene.transformDefs_found found
    refine processOne_foreign frame (fun here => ?_) foreign
    have hosted : (scene.locality place).hosts transform.id = true :=
      Sl1Scene.hosts_iff.mpr ⟨transform, member, rfl, here⟩
    rw [foreign] at hosted
    cases hosted
  · rfl

/-- The place cannot tell the transforms passes of the scenes apart. -/
theorem runTransforms_local (agree : scene.AgreeOn other place) (valid : scene.Valid)
    (validToo : other.Valid) (own : scene.locality place = locale)
    (same : first.seenFrom locale = second.seenFrom locale) :
    (runTransforms scene now first).seenFrom locale =
      (runTransforms other now second).seenFrom locale := by
  subst own
  rw [runTransforms_eq, runTransforms_eq]
  refine foldl_restrict (Frame.seenFrom (scene.locality place)) ?_
    (fun frame id _ (foreign : (scene.locality place).hosts id = false) =>
      visit_foreign foreign frame)
    (fun frame id _ foreign =>
      agree.locality_eq ▸ visit_foreign (agree.locality_eq ▸ foreign) frame)
    (fun one two id _ hosted same => ?_) same
  · refine keys_filter_eq fun id => and_congr_left fun hosted => ?_
    rw [Std.ExtTreeMap.mem_iff_isSome_getElem?, Std.ExtTreeMap.mem_iff_isSome_getElem?,
      seenFrom_state same hosted]
  · obtain ⟨transform, member, rfl, here⟩ := Sl1Scene.hosts_iff.mp hosted
    have memberToo := (agree.transforms transform here).mp member
    rw [visit, visit, valid.transformDefs_of_mem member, validToo.transformDefs_of_mem memberToo]
    have caps := agree.caps valid validToo
    exact (respects_seenFrom here hosted caps.1 caps.2).processOne same

end Transforms

section Run

variable {scene other : Sl1Scene} {place : String}

/-- The passes after the transforms leave every place alone. -/
theorem run_seenFrom (locale : Locality) (backend : AgentBackend) (now : Nat) (frame : Frame) :
    (run scene backend now frame).seenFrom locale = (moveStock scene now frame).seenFrom locale := by
  have flow := run_flow scene backend now frame
  have inventories : (run scene backend now frame).runtime.inventories = _ :=
    congrArg Flow.inventories flow
  have used : (run scene backend now frame).runtime.placeCapacityUsed = _ :=
    congrArg Flow.placeCapacityUsed flow
  have pending : (run scene backend now frame).runtime.pendingOutputs = _ :=
    congrArg Flow.pendingOutputs flow
  have transforms : (run scene backend now frame).runtime.transforms = _ :=
    congrArg Flow.transforms flow
  have pressure : (run scene backend now frame).runtime.pressure =
      (moveStock scene now frame).runtime.pressure :=
    congrArg Overlays.pressure
      ((run_overlays scene backend now frame).trans (moveStock_overlays scene now frame).symm)
  have warnings : (run scene backend now frame).messages.filter (SimMessage.isFrom locale.hosts) =
      (moveStock scene now frame).messages.filter (SimMessage.isFrom locale.hosts) := by
    have among (messages : List SimMessage) :
        messages.filter (SimMessage.isFrom locale.hosts) =
          (messages.filter SimMessage.isTransform).filter (SimMessage.isFrom locale.hosts) := by
      rw [List.filter_filter]
      refine List.filter_congr fun message _ => ?_
      cases message with
      | warning payload => cases payload <;> simp [SimMessage.isFrom, SimMessage.isTransform]
      | _ => simp [SimMessage.isFrom]
    rw [among, among (moveStock scene now frame).messages]
    exact congrArg (List.filter _) (congrArg Flow.warnings flow)
  refine PlaceView.ext ?_ ?_ ?_ ?_ ?_ warnings ?_ ?_ ?_
  · exact congrArg (·[locale.place]?) inventories
  · exact congrArg (·[locale.place]?) used
  · exact funext fun thing => congrArg (·[(locale.place, thing)]?) pending
  · funext thing
    simp only [Frame.seenFrom, Objectives.lastSetTick, run_freshness]
  · funext id
    simp only [Frame.seenFrom, transforms]
    rfl
  all_goals simp only [Frame.seenFrom, Sl1RuntimeState.injectCarry, pressure]

theorem ticks_settled (backend : AgentBackend) (unscheduled : scene.pressure.isEmpty = true)
    (count : Nat) : (ticks scene backend count).runtime.pressure = {} := by
  induction count with
  | zero => rfl
  | succ count ih =>
    have kept : (run scene backend (worldTick (count + 1)) (ticks scene backend count)).runtime.pressure =
        (Pressure.run scene (worldTick (count + 1)) (ticks scene backend count)).runtime.pressure :=
      congrArg Overlays.pressure (run_overlays scene backend _ _)
    rw [ticks, kept, Pressure.run, if_pos unscheduled, ih]

variable (agree : scene.AgreeOn other place) (valid : scene.Valid) (validToo : other.Valid)
include agree valid validToo

theorem load_local : (Frame.load scene).seenFrom (scene.locality place) =
    (Frame.load other).seenFrom (scene.locality place) := by
  obtain ⟨one, member, two, memberToo, own, ownToo, storage, capacity⟩ := agree.declared
  subst own
  have slots : Sl1RuntimeState.placeSlots one = Sl1RuntimeState.placeSlots two := by
    rw [Sl1RuntimeState.placeSlots, storage, Sl1RuntimeState.placeSlots]
  refine PlaceView.ext ?_ ?_ rfl ?_ ?_ rfl rfl rfl rfl
  · have here : (Sl1RuntimeState.fromScene scene).inventories[one.id]? = _ :=
      table_filter_of_mem valid.placesIncreasing.distinct member _
    have there : (Sl1RuntimeState.fromScene other).inventories[two.id]? = _ :=
      table_filter_of_mem validToo.placesIncreasing.distinct memberToo _
    rw [← storage, ← slots, ownToo] at there
    exact here.trans there.symm
  · have here : (Sl1RuntimeState.fromScene scene).placeCapacityUsed[one.id]? = _ :=
      table_filter_of_mem valid.placesIncreasing.distinct member _
    have there : (Sl1RuntimeState.fromScene other).placeCapacityUsed[two.id]? = _ :=
      table_filter_of_mem validToo.placesIncreasing.distinct memberToo _
    rw [← capacity, ownToo] at there
    exact here.trans there.symm
  · funext thing
    have here := Sl1RuntimeState.fromScene_freshness valid member thing
    have there := Sl1RuntimeState.fromScene_freshness validToo memberToo thing
    rw [← storage, ownToo] at there
    have marks : (Frame.load scene).runtime.freshness[(one.id, thing)]? =
        (Frame.load other).runtime.freshness[(one.id, thing)]? := here.trans there.symm
    change Objectives.lastSetTick _ one.id thing = Objectives.lastSetTick _ one.id thing
    rw [Objectives.lastSetTick_eq, Objectives.lastSetTick_eq, Std.ExtTreeMap.getD_eq_getD_getElem?,
      marks, ← Std.ExtTreeMap.getD_eq_getD_getElem?]
  · funext id
    cases hosted : (scene.locality one.id).hosts id with
    | false => simp only [Frame.seenFrom, hosted, Bool.false_eq_true, if_false]
    | true =>
      obtain ⟨transform, declared, rfl, runs⟩ := Sl1Scene.hosts_iff.mp hosted
      have declaredToo := (agree.transforms transform runs).mp declared
      have here : (Frame.load scene).runtime.transforms[transform.id]? = some .idle :=
        table_of_mem valid.transformsIncreasing.distinct declared
      have there : (Frame.load other).runtime.transforms[transform.id]? = some .idle :=
        table_of_mem validToo.transformsIncreasing.distinct declaredToo
      simp only [Frame.seenFrom, here, there]

/-- The place never tells the two runs apart. -/
theorem ticks_local (backend backendToo : AgentBackend) (count : Nat) :
    (ticks scene backend count).seenFrom (scene.locality place) =
      (ticks other backendToo count).seenFrom (scene.locality place) := by
  induction count with
  | zero => exact load_local agree valid validToo
  | succ count ih =>
    rw [ticks, ticks, run_seenFrom, run_seenFrom, moveStock_eq, moveStock_eq]
    refine Transforms.runTransforms_local agree valid validToo rfl ?_
    rw [Transforms.ageFreshness_seenFrom, Transforms.ageFreshness_seenFrom]
    exact Pressure.run_local agree valid validToo rfl ih
      (fun unscheduled => ticks_settled backend unscheduled count)
      (fun unscheduled => ticks_settled backendToo unscheduled count)

end Run

/-- What happens at a place depends on the place, its transforms and the pressures that bear
on it alone, whatever else the scenes declare and whatever their agents do. -/
theorem place_evolves_alone {raw rawToo : RawSl1Scene} {scene other : Sl1Scene}
    (accepted : validate raw = .ok scene) (acceptedToo : validate rawToo = .ok other)
    {place : String} (agree : scene.AgreeOn other place) (backend backendToo : AgentBackend)
    (count : Nat) :
    let first := ticks scene backend count
    let second := ticks other backendToo count
    first.runtime.inventories[place]? = second.runtime.inventories[place]? ∧
    first.runtime.placeCapacityUsed[place]? = second.runtime.placeCapacityUsed[place]? ∧
    (∀ thing : String, first.runtime.pendingOutputs[(place, thing)]? =
      second.runtime.pendingOutputs[(place, thing)]?) ∧
    (∀ thing, Objectives.lastSetTick first.runtime place thing =
      Objectives.lastSetTick second.runtime place thing) ∧
    (∀ transform ∈ scene.transforms, transform.runsOn = place →
      first.runtime.transforms[transform.id]? = second.runtime.transforms[transform.id]?) ∧
    first.messages.filter (SimMessage.isFrom (scene.locality place).hosts) =
      second.messages.filter (SimMessage.isFrom (scene.locality place).hosts) := by
  have same := ticks_local agree (validate_valid accepted) (validate_valid acceptedToo) backend
    backendToo count
  refine ⟨congrArg PlaceView.slots same, congrArg PlaceView.used same,
    congrFun (congrArg PlaceView.pending same), congrFun (congrArg PlaceView.lastSet same), ?_,
    congrArg PlaceView.warnings same⟩
  intro transform member runs
  exact seenFrom_state same (Sl1Scene.hosts_iff.mpr ⟨transform, member, rfl, runs⟩)

/-- The surging mine beside a mill whose transform comes before the mine's in id order and
whose quota is cut. -/
def crowdedScene : RawSl1Scene :=
  let scene := surgeScene 20
  { scene with
    places := scene.places ++ [{
      id := "mill", role := "sink", pos := (1, 0)
      capacity := (∅ : IdMap UInt64).insert "crew" 4
      storage := (∅ : IdMap RawSl1StorageSlot).insert "ore" { capacity := 5 } }]
    transforms := scene.transforms ++ [{
      id := "crush", kind := "refine", runsOn := "mill"
      outputs := [⟨"ore", 2⟩]
      cadenceTicks := 2, durationTicks := 1, deadlineTicks := 1
      capacityCost := (∅ : IdMap UInt64).insert "crew" 1
      failurePolicy := "drop" }]
    pressure := scene.pressure ++ [{
      id := "cut", kind := "quota_reduction", atTick := 1, durationTicks := 3, target := "mill"
      capacity := some "crew", reductionPercent := some 50 }] }

/-- The mine is filled alike beside a mill and without one. -/
theorem place_evolves_alone_crowded : ∃ scene other, validate (surgeScene 20) = .ok scene ∧
    validate crowdedScene = .ok other ∧ scene.transforms ≠ other.transforms ∧
    (ticks scene defaultBackend 3).runtime.stock "mine" "ore" = 6 ∧
    (ticks scene defaultBackend 3).runtime.inventories["mine"]? =
      (ticks other defaultBackend 3).runtime.inventories["mine"]? := by
  have evaluated : yields (validate (surgeScene 20)) (fun scene =>
      yields (validate crowdedScene) fun other =>
        (scene.places.any fun one => other.places.any fun two => one.id == "mine" &&
          two.id == "mine" && decide (one.storage = two.storage) &&
          decide (one.capacity = two.capacity)) &&
        decide (scene.transforms.filter (·.runsOn == "mine") =
          other.transforms.filter (·.runsOn == "mine")) &&
        decide (scene.pressure.filter (·.bearsOn "mine") =
          other.pressure.filter (·.bearsOn "mine")) &&
        decide (scene.transforms ≠ other.transforms) &&
        (ticks scene defaultBackend 3).runtime.stock "mine" "ore" == 6) = true := by
    decide +kernel
  obtain ⟨scene, accepted, evaluated⟩ := yields_iff.mp evaluated
  obtain ⟨other, acceptedToo, evaluated⟩ := yields_iff.mp evaluated
  simp only [Bool.and_eq_true, decide_eq_true_eq, List.any_eq_true, beq_iff_eq] at evaluated
  obtain ⟨⟨⟨⟨⟨one, member, two, memberToo, alike⟩, transforms⟩, pressure⟩, differ⟩, stocked⟩ :=
    evaluated
  have agree : scene.AgreeOn other "mine" := by
    refine ⟨⟨one, member, two, memberToo, alike.1.1.1, alike.1.1.2, alike.1.2, alike.2⟩,
      fun transform runs => ?_, fun source bears => ?_⟩
    · have shared := congrArg (transform ∈ ·) transforms
      simpa [runs] using shared
    · have shared := congrArg (source ∈ ·) pressure
      simpa [bears] using shared
  exact ⟨scene, other, accepted, acceptedToo, differ, stocked,
    (place_evolves_alone accepted acceptedToo agree defaultBackend defaultBackend 3).1⟩

end Simetro.Sl1
