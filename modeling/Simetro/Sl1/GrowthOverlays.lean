import Simetro.Sl1.PressureWindows

/-! The spawn growth of active pressures, added up, and the instances a demand asks for with it. -/

namespace Simetro.Sl1

open Simetro.Library Simetro.Protocol

/-- The spawns a pressure adds to a demand. -/
def Sl1Pressure.growthOf (pressure : Sl1Pressure) (demand : String) : Nat :=
  match pressure.params with
  | .demandGrowth spawnMultiplier => if pressure.target = demand then spawnMultiplier else 0
  | _ => 0

namespace Pressure

variable {scene : Sl1Scene} {now : Nat} {frame : Frame} {demand : String}

theorem growDemand_getD (entries : IdMap Nat) (pressure : Sl1Pressure)
    (capped : entries.getD demand 0 ≤ u32Max) :
    (growDemand entries pressure).getD demand 0 =
      min u32Max (entries.getD demand 0 + pressure.growthOf demand) := by
  unfold growDemand Sl1Pressure.growthOf
  cases pressure.params with
  | demandGrowth spawnMultiplier =>
    rw [insert_getD]
    by_cases here : pressure.target = demand
    · subst here
      simp only [if_true, saturatingAdd]
      omega
    · simp only [here, if_false]
      omega
  | sourceMultiplier | quotaReduction | pathOutage | unsupportedInThisPr =>
    simp only
    omega

theorem foldl_growDemand_getD (pressures : List Sl1Pressure) (entries : IdMap Nat)
    (capped : entries.getD demand 0 ≤ u32Max) :
    (pressures.foldl growDemand entries).getD demand 0 =
      min u32Max (entries.getD demand 0 + (pressures.map (·.growthOf demand)).sum) :=
  foldl_capped (fun entries : IdMap Nat => entries.getD demand 0) _ growDemand_getD pressures capped

/-- The growths of the active pressures are in force when the pressure pass is over. -/
theorem run_growth (declared : scene.pressure.isEmpty = false) (demand : String) :
    (run scene now frame).runtime.pressure.demandSpawnMultiplier.getD demand 0 =
      min u32Max ((activePressures scene (run scene now frame).runtime).map (·.growthOf demand)).sum := by
  let overlay (frame : Frame) : IdMap Nat × IdMap Nat :=
    (frame.runtime.pressure.active, frame.runtime.pressure.demandSpawnMultiplier)
  have injected : overlay (run scene now frame) = overlay (overlaid scene now frame) := by
    rw [run_eq, declared, if_neg Bool.false_ne_true]
    exact foldl_keeps overlay (fun frame _ _ =>
      injectSource_rule (motive := fun after => overlay after = overlay frame) rfl rfl) _
  have active := congrArg Prod.fst injected
  have growth := congrArg Prod.snd injected
  simp only [overlay] at active growth
  rw [growth, activePressures, active]
  have summed := foldl_growDemand_getD
    (activePressures scene (overlaid scene now frame).runtime) (∅ : IdMap Nat)
    (show (∅ : IdMap Nat).getD demand 0 ≤ u32Max by simp)
  rw [Std.ExtTreeMap.getD_empty, Nat.zero_add] at summed
  exact summed

/-- A declared pressure is active when its window is open. -/
theorem run_active (valid : scene.Valid) {pressure : Sl1Pressure} (member : pressure ∈ scene.pressure)
    (opened : pressure.atTick ≤ now) (ends : now < pressure.endTick) :
    (run scene now frame).runtime.pressure.active.contains pressure.id = true := by
  have visited : ((run scene now frame).tracker pressure.id).inside =
      (pressure.window.visit now (frame.tracker pressure.id)).inside :=
    congrArg WindowTracker.inside (run_tracker valid member)
  refine visited.trans (pressure.window.visit_open ?_ _)
  exact pressure.window.covers_iff.mpr ⟨opened, ends⟩

end Pressure

/-- What pressures may refer to in a scene. -/
def Sl1Scene.pressureScope (scene : Sl1Scene) : PressureScope :=
  ⟨table scene.places (·.id) id, idSet (scene.things.map (·.id)), idSet (scene.demand.map (·.id)),
    idSet (scene.links.map (·.id))⟩

/-- A scene whose milestones name nothing takes any further pressures its other sections allow. -/
theorem validate_pressed {raw : RawSl1Scene} {scene : Sl1Scene} {raws : List RawSl1Pressure}
    {pressure : List Sl1Pressure} (accepted : validate { raw with pressure := [] } = .ok scene)
    (unmarked : raw.milestones = []) (few : raws.length ≤ maxSl1ItemsPerSection)
    (read : catalog (validatePressure scene.pressureScope) (·.id) (.pressureDuplicateId ·.id)
      noCrossCheck raws = .ok pressure) :
    validate { raw with pressure := raws } = .ok { scene with pressure } := by
  simp only [validate, bind_eq_ok] at accepted ⊢
  obtain ⟨_, shape, things, thingsRead, places, placesRead, links, linksRead, transforms,
    transformsRead, demand, demandRead, none, -, objectives, objectivesRead, failures, failuresRead,
    victories, victoriesRead, observability, observabilityRead, agents, agentsRead, milestones,
    milestonesRead, same⟩ := accepted
  cases same
  refine ⟨(), ?_, things, thingsRead, places, placesRead, links, linksRead, transforms,
    transformsRead, demand, demandRead, pressure, read, objectives, objectivesRead, failures,
    failuresRead, victories, victoriesRead, observability, observabilityRead, agents, agentsRead,
    milestones, ?_, rfl⟩
  · simp only [checkShape, bind_eq_ok] at shape ⊢
    obtain ⟨_, schema, _, known, _, places, _, links, _, things, _, transforms, _, demand, _, -, rest⟩ :=
      shape
    exact ⟨_, schema, _, known, _, places, _, links, _, things, _, transforms, _, demand, (),
      reject_eq_ok.mpr (decide_eq_false (Nat.not_lt.mpr few)), rest⟩
  · rw [unmarked] at milestonesRead ⊢
    exact milestonesRead

end Simetro.Sl1
