import Simetro.Sl1.DemandThrottles
import Simetro.Sl1.PressureWindows

/-! The quota cuts of active pressures, added up, and the capacity they leave. -/

namespace Simetro.Sl1

open Simetro.Library Simetro.Protocol

/-- The percentage a pressure takes off a bucket. -/
def Sl1Pressure.reductionOf (pressure : Sl1Pressure) (place bucket : String) : Nat :=
  match pressure.params with
  | .quotaReduction capacity percent =>
      if pressure.target = place ∧ capacity = bucket then percent else 0
  | _ => 0

/-- What the active pressures take off a bucket together, at most all of it. -/
def Sl1Scene.totalReduction (scene : Sl1Scene) (runtime : Sl1RuntimeState) (place bucket : String) : Nat :=
  min 100 ((Pressure.activePressures scene runtime).map (·.reductionOf place bucket)).sum

namespace Pressure

section Overlay

variable {place bucket : String}

theorem reduceQuota_getD (entries : PairMap Nat) (pressure : Sl1Pressure)
    (capped : entries.getD (place, bucket) 0 ≤ 100) :
    (reduceQuota entries pressure).getD (place, bucket) 0 =
      min 100 (entries.getD (place, bucket) 0 + pressure.reductionOf place bucket) := by
  unfold reduceQuota Sl1Pressure.reductionOf
  cases pressure.params with
  | quotaReduction capacity percent =>
    rw [insert_getD]
    by_cases here : pressure.target = place ∧ capacity = bucket
    · obtain ⟨rfl, rfl⟩ := here
      simp only [if_true, and_self, saturatingAdd]
      omega
    · have apart : (pressure.target, capacity) ≠ (place, bucket) := fun same =>
        here ⟨(Prod.mk.inj same).1, (Prod.mk.inj same).2⟩
      simp only [apart, here, if_false]
      omega
  | sourceMultiplier | demandGrowth | pathOutage | unsupportedInThisPr =>
    simp only
    omega

theorem foldl_reduceQuota_getD (pressures : List Sl1Pressure) (entries : PairMap Nat)
    (capped : entries.getD (place, bucket) 0 ≤ 100) :
    (pressures.foldl reduceQuota entries).getD (place, bucket) 0 =
      min 100 (entries.getD (place, bucket) 0 +
        (pressures.map (·.reductionOf place bucket)).sum) :=
  foldl_capped (fun entries : PairMap Nat => entries.getD (place, bucket) 0) _ reduceQuota_getD
    pressures capped

end Overlay

/-- The overlay of every bucket is what the active pressures take off it. -/
def QuotaOverlaid (scene : Sl1Scene) (runtime : Sl1RuntimeState) : Prop :=
  ∀ place bucket, runtime.pressure.quotaReduction.getD (place, bucket) 0 =
    scene.totalReduction runtime place bucket

variable {scene : Sl1Scene} {now : Nat} {frame : Frame}

/-- It only depends on which pressures are active. -/
theorem QuotaOverlaid.of_same {runtime other : Sl1RuntimeState} (overlaid : QuotaOverlaid scene runtime)
    (active : other.pressure.active = runtime.pressure.active)
    (quota : other.pressure.quotaReduction = runtime.pressure.quotaReduction) :
    QuotaOverlaid scene other := by
  intro place bucket
  rw [quota, overlaid place bucket]
  unfold Sl1Scene.totalReduction activePressures
  rw [active]

theorem rebuildOverlays_overlaid (scene : Sl1Scene) (runtime : Sl1RuntimeState) :
    QuotaOverlaid scene (rebuildOverlays scene runtime) := by
  intro place bucket
  have summed := foldl_reduceQuota_getD (activePressures scene runtime) (∅ : PairMap Nat)
    (show (∅ : PairMap Nat).getD (place, bucket) 0 ≤ 100 by simp)
  rw [Std.ExtTreeMap.getD_empty, Nat.zero_add] at summed
  exact summed

theorem injectSource_overlays (caps : PairMap Nat) (now : Nat) (frame : Frame) (injection : SourceInjection) :
    (injectSource caps now frame injection).runtime.pressure.active = frame.runtime.pressure.active ∧
      (injectSource caps now frame injection).runtime.pressure.quotaReduction =
        frame.runtime.pressure.quotaReduction :=
  injectSource_rule (motive := fun after =>
    after.runtime.pressure.active = frame.runtime.pressure.active ∧
      after.runtime.pressure.quotaReduction = frame.runtime.pressure.quotaReduction)
    ⟨rfl, rfl⟩ ⟨rfl, rfl⟩

theorem run_quotaOverlaid (overlaid : QuotaOverlaid scene frame.runtime) :
    QuotaOverlaid scene (run scene now frame).runtime := by
  refine run_rule (motive := fun frame => QuotaOverlaid scene frame.runtime) overlaid
    (rebuildOverlays_overlaid scene _) fun frame injection overlaid => ?_
  obtain ⟨active, quota⟩ := injectSource_overlays scene.storageCaps now frame injection
  exact overlaid.of_same active quota

theorem ticks_overlaid (scene : Sl1Scene) (backend : AgentBackend) (count : Nat) :
    QuotaOverlaid scene (ticks scene backend count).runtime := by
  induction count with
  | zero =>
    intro place bucket
    have calm : activePressures scene (Frame.load scene).runtime = [] :=
      List.filter_eq_nil_iff.mpr fun pressure _ active => by cases active
    rw [ticks, Sl1Scene.totalReduction, calm]
    rfl
  | succ count ih =>
    have pressures : (ticks scene backend (count + 1)).runtime.pressure =
        (run scene (worldTick (count + 1)) (ticks scene backend count)).runtime.pressure :=
      congrArg Overlays.pressure (run_overlays scene backend _ _)
    exact (run_quotaOverlaid ih).of_same (by rw [pressures]) (by rw [pressures])

section Capacity

variable {runtime other : Sl1PressureRuntime} {place bucket : String} {base larger : Nat}

theorem effectiveCapacity_mono (more : base ≤ larger) :
    effectiveCapacity runtime place bucket base ≤ effectiveCapacity runtime place bucket larger := by
  unfold effectiveCapacity
  generalize runtime.quotaReduction.getD (place, bucket) 0 = reduction
  by_cases none : reduction = 0
  · simpa [none] using more
  · have product := Nat.mul_le_mul_right (100 - reduction) more
    simp only [none, if_false]
    exact Nat.div_le_div_right (by omega)

theorem effectiveCapacity_antitone (cuts : runtime.quotaReduction.getD (place, bucket) 0 ≤
      other.quotaReduction.getD (place, bucket) 0) :
    effectiveCapacity other place bucket base ≤ effectiveCapacity runtime place bucket base := by
  by_cases none : runtime.quotaReduction.getD (place, bucket) 0 = 0
  · have whole : effectiveCapacity runtime place bucket base = base := by
      simp [effectiveCapacity, none]
    rw [whole]
    exact effectiveCapacity_le other place bucket base
  · unfold effectiveCapacity
    generalize runtime.quotaReduction.getD (place, bucket) 0 = less at cuts none ⊢
    generalize other.quotaReduction.getD (place, bucket) 0 = more at cuts ⊢
    have product : base * (100 - more) ≤ base * (100 - less) := Nat.mul_le_mul_left base (by omega)
    simp only [none, show more ≠ 0 by omega, if_false]
    exact Nat.div_le_div_right (by omega)

/-- The product is exact until it passes the last full hundred of 64 bits. -/
theorem effectiveCapacity_eq_iff {reduction : Nat}
    (cut : runtime.quotaReduction.getD (place, bucket) 0 = reduction) :
    effectiveCapacity runtime place bucket base = base * (100 - reduction) / 100 ↔
      reduction = 0 ∨ base * (100 - reduction) < (u64Max / 100 + 1) * 100 := by
  unfold effectiveCapacity
  rw [cut]
  by_cases none : reduction = 0
  · simp [none]
  · simp only [none, if_false, false_or]
    generalize base * (100 - reduction) = product
    unfold u64Max
    omega

end Capacity

end Pressure

open Pressure

/-- The capacity of a bucket after a tick is the floor of the percentage that is left of it, within
the base, nothing where all of it is cut, growing with the base and falling with the cuts. -/
structure CapacityExact (scene : Sl1Scene) (frames : Nat → Frame) (place bucket : String) (base count : Nat) :
    Prop where
  floor : effectiveCapacity (frames count).runtime.pressure place bucket base =
    base * (100 - scene.totalReduction (frames count).runtime place bucket) / 100
  within : effectiveCapacity (frames count).runtime.pressure place bucket base ≤ base
  nothing : scene.totalReduction (frames count).runtime place bucket = 100 →
    effectiveCapacity (frames count).runtime.pressure place bucket base = 0
  monotone : ∀ larger, base ≤ larger →
    effectiveCapacity (frames count).runtime.pressure place bucket base ≤
      effectiveCapacity (frames count).runtime.pressure place bucket larger
  antitone : ∀ other, scene.totalReduction (frames count).runtime place bucket ≤
      scene.totalReduction (frames other).runtime place bucket →
    effectiveCapacity (frames other).runtime.pressure place bucket base ≤
      effectiveCapacity (frames count).runtime.pressure place bucket base

/-- A capacity is exact where nothing is cut or the product fits 64 bits up to its last full
hundred. -/
theorem capacity_exact_iff (scene : Sl1Scene) (backend : AgentBackend) (place bucket : String)
    (base count : Nat) :
    CapacityExact scene (ticks scene backend) place bucket base count ↔
      scene.totalReduction (ticks scene backend count).runtime place bucket = 0 ∨
        base * (100 - scene.totalReduction (ticks scene backend count).runtime place bucket) <
          (u64Max / 100 + 1) * 100 := by
  have overlay (count : Nat) := ticks_overlaid scene backend count place bucket
  rw [← effectiveCapacity_eq_iff (overlay count)]
  constructor
  · intro scaled
    exact scaled.floor
  · intro floor
    refine ⟨floor, effectiveCapacity_le _ _ _ _, ?_, fun _ more => effectiveCapacity_mono more, ?_⟩
    · intro all
      rw [floor, all, Nat.sub_self, Nat.mul_zero]
    · intro other cuts
      rw [← overlay, ← overlay] at cuts
      exact effectiveCapacity_antitone cuts

/-- A depot of any size whose crew two pressures cut by three quarters. -/
def depotScene (base : UInt64) : RawSl1Scene :=
  { quotaScene 0 2 with places := [{
      id := "depot", role := "store", pos := (0, 0)
      capacity := (∅ : IdMap UInt64).insert "crew" base }] }

/-- A quarter of all of 64 bits comes out as a hundredth. -/
theorem capacity_saturates : ∃ scene, validate (depotScene 18446744073709551615) = .ok scene ∧
    effectiveCapacity (ticks scene defaultBackend 1).runtime.pressure "depot" "crew" u64Max =
      184467440737095516 ∧
    ¬ CapacityExact scene (ticks scene defaultBackend) "depot" "crew" u64Max 1 := by
  have evaluated : yields (validate (depotScene 18446744073709551615)) (fun scene =>
      scene.totalReduction (ticks scene defaultBackend 1).runtime "depot" "crew" == 75 &&
        effectiveCapacity (ticks scene defaultBackend 1).runtime.pressure "depot" "crew" u64Max ==
          184467440737095516) = true := by
    decide +kernel
  obtain ⟨scene, accepted, facts⟩ := yields_iff.mp evaluated
  simp only [Bool.and_eq_true, beq_iff_eq] at facts
  obtain ⟨reduction, capacity⟩ := facts
  refine ⟨scene, accepted, capacity, fun scaled => ?_⟩
  have floor := scaled.floor
  rw [capacity, reduction] at floor
  exact absurd floor (by decide)

end Simetro.Sl1
