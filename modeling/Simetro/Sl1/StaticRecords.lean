import Simetro.Sl1.StateHash
import Simetro.Sl1.ValidScene

/-! The records of the static part of the hash, read back from the stream. -/

namespace Simetro.Sl1

open Simetro.Library Chunk

/-! ## Scenes up to the sign of zero -/

def Sl1ThingQualityContract.canonical (contract : Sl1ThingQualityContract) :
    Sl1ThingQualityContract :=
  { contract with maxDropPercent := contract.maxDropPercent.map StateHash.canonical }

def Sl1Thing.canonical (thing : Sl1Thing) : Sl1Thing :=
  { thing with qualityContract :=
      thing.qualityContract.map Sl1ThingQualityContract.canonical }

/-- The scene with every `-0.0` the hash takes for `0.0` replaced. -/
def Sl1Scene.canonical (scene : Sl1Scene) : Sl1Scene :=
  { scene with things := scene.things.map Sl1Thing.canonical }

namespace StateHash

/-! ## Places, links and things -/

theorem feedPredicate_reads : Reads feedPredicate fun predicate => predicate := by
  constructor
  intro first second after rest agree
  cases first with
  | usedPercentGte =>
    cases second with
    | usedPercentGte =>
      simp only [feedPredicate, Chunk.append_assoc] at agree
      obtain ⟨metrics, agree⟩ := Reads.str.next agree.skip
      obtain ⟨thresholds, ends⟩ := (Reads.unsigned 1).read agree
      simp_all
    | _ => exact absurd agree.2.2 (by simp [feedPredicate])
  | overloadedTicksGt =>
    cases second with
    | overloadedTicksGt =>
      obtain ⟨ticks, ends⟩ := (Reads.unsigned 8).read agree.skip
      simp_all
    | _ => exact absurd agree.2.2 (by simp [feedPredicate])

theorem feedStorageSlot_reads : Reads feedStorageSlot fun slot => slot := by
  constructor
  intro first second after rest agree
  obtain ⟨capacities, agree⟩ := (Reads.unsigned 8).next agree
  obtain ⟨initials, ends⟩ := (Reads.unsigned 8).read agree
  refine ⟨?_, ends⟩
  cases first
  cases second
  simp_all

theorem feedOperatingState_reads : Reads feedOperatingState fun state => state := by
  constructor
  intro first second after rest agree
  obtain ⟨predicates, agree⟩ := Reads.next feedPredicate_reads agree
  obtain ⟨graces, ends⟩ := (Reads.unsigned 8).maybe.read agree
  refine ⟨?_, ends⟩
  cases first
  cases second
  simp_all

theorem feedPlace_reads : Reads feedPlace fun place => place := by
  constructor
  intro first second after rest agree
  simp only [feedPlace, Chunk.append_assoc] at agree
  obtain ⟨ids, agree⟩ := Reads.str.next agree.skip
  obtain ⟨roles, agree⟩ := Reads.str.next agree
  obtain ⟨xs, agree⟩ := Reads.f32.next agree
  obtain ⟨ys, agree⟩ := Reads.f32.next agree
  obtain ⟨shapes, agree⟩ := Reads.str.maybe.next agree
  obtain ⟨colors, agree⟩ := (Reads.unsigned 4).maybe.next agree
  obtain ⟨capacities, agree⟩ := (Reads.entries Reads.str (Reads.unsigned 8)).next agree
  obtain ⟨slots, agree⟩ := (Reads.entries Reads.str feedStorageSlot_reads).next agree
  obtain ⟨accepted, agree⟩ := Reads.str.counted.next agree
  obtain ⟨produced, agree⟩ := Reads.str.counted.next agree
  obtain ⟨domains, agree⟩ := Reads.str.counted.next agree
  obtain ⟨states, ends⟩ := (Reads.entries Reads.str feedOperatingState_reads).read agree
  refine ⟨?_, ends⟩
  cases first
  cases second
  simp_all [Prod.ext_iff]

theorem linkDirectionTag_injective : Function.Injective linkDirectionTag := by
  intro first second same
  cases first <;> cases second <;> first | rfl | exact absurd same (by decide)

theorem linkBackpressureTag_injective : Function.Injective linkBackpressureTag := by
  intro first second same
  cases first <;> cases second <;> first | rfl | exact absurd same (by decide)

theorem feedLinkRender_reads : Reads feedLinkRender fun render => render := by
  constructor
  intro first second after rest agree
  obtain ⟨styles, agree⟩ := Reads.str.next agree
  obtain ⟨colors, ends⟩ := (Reads.unsigned 4).maybe.read agree
  refine ⟨?_, ends⟩
  cases first
  cases second
  simp_all

theorem feedLink_reads : Reads feedLink fun link => link := by
  constructor
  intro first second after rest agree
  simp only [feedLink, Chunk.append_assoc] at agree
  obtain ⟨ids, agree⟩ := Reads.str.next agree.skip
  obtain ⟨types, agree⟩ := Reads.str.next agree
  obtain ⟨sources, agree⟩ := Reads.str.next agree
  obtain ⟨targets, agree⟩ := Reads.str.next agree
  obtain ⟨directions, agree⟩ := (Reads.tag linkDirectionTag_injective).next agree
  obtain ⟨capacities, agree⟩ := (Reads.entries Reads.str (Reads.unsigned 8)).next agree
  obtain ⟨travels, agree⟩ := (Reads.unsigned 8).next agree
  obtain ⟨compatible, agree⟩ := Reads.str.counted.next agree
  obtain ⟨queues, agree⟩ := (Reads.unsigned 8).next agree
  obtain ⟨pressures, agree⟩ := (Reads.tag linkBackpressureTag_injective).next agree
  obtain ⟨renders, ends⟩ := (Reads.maybe feedLinkRender_reads).read agree
  refine ⟨?_, ends⟩
  cases first
  cases second
  simp_all

/-- Floats that hash alike: the same, or both a zero. -/
theorem canonical_eq_iff {first second : Float} :
    canonical first = canonical second ↔
      first = second ∨ ((first == 0.0) = true ∧ (second == 0.0) = true) := by
  have zero : ((0.0 : Float) == 0.0) = true := by decide +kernel
  unfold canonical
  by_cases zero_first : (first == 0.0) = true
  · by_cases zero_second : (second == 0.0) = true
    · simp [zero_first, zero_second]
    · rw [if_pos zero_first, if_neg zero_second]
      constructor
      · intro same
        exact absurd (same ▸ zero) zero_second
      · rintro (same | ⟨-, zero_second'⟩)
        · exact absurd (same ▸ zero_first) zero_second
        · exact absurd zero_second' zero_second
  · by_cases zero_second : (second == 0.0) = true
    · rw [if_neg zero_first, if_pos zero_second]
      constructor
      · intro same
        exact absurd (same ▸ zero) zero_first
      · rintro (same | ⟨zero_first', -⟩)
        · exact absurd (same ▸ zero_second) zero_first
        · exact absurd zero_first' zero_first
    · rw [if_neg zero_first, if_neg zero_second]
      simp [zero_first]

theorem feedQualityContract_reads :
    Reads feedQualityContract Sl1ThingQualityContract.canonical := by
  constructor
  intro first second after rest agree
  simp only [feedQualityContract, Chunk.append_assoc] at agree
  obtain ⟨drops, agree⟩ := (Reads.f64.on canonical).maybe.next agree
  obtain ⟨delays, agree⟩ := (Reads.unsigned 8).maybe.next agree
  obtain ⟨required, ends⟩ := Reads.str.counted.read agree
  refine ⟨?_, ends⟩
  cases first
  cases second
  simp_all [Sl1ThingQualityContract.canonical]

theorem feedThingRender_reads : Reads feedThingRender fun render => render := by
  constructor
  intro first second after rest agree
  obtain ⟨glyphs, agree⟩ := Reads.str.next agree
  obtain ⟨colors, ends⟩ := (Reads.unsigned 4).maybe.read agree
  refine ⟨?_, ends⟩
  cases first
  cases second
  simp_all

theorem feedThing_reads : Reads feedThing Sl1Thing.canonical := by
  constructor
  intro first second after rest agree
  simp only [feedThing, Chunk.append_assoc] at agree
  obtain ⟨ids, agree⟩ := Reads.str.next agree.skip
  obtain ⟨kinds, agree⟩ := Reads.str.next agree
  obtain ⟨tags, agree⟩ := Reads.str.counted.next agree
  obtain ⟨versions, agree⟩ := (Reads.unsigned 4).maybe.next agree
  obtain ⟨budgets, agree⟩ := (Reads.unsigned 8).maybe.next agree
  obtain ⟨contracts, agree⟩ := (Reads.maybe feedQualityContract_reads).next agree
  obtain ⟨renders, ends⟩ := (Reads.maybe feedThingRender_reads).read agree
  refine ⟨?_, ends⟩
  cases first
  cases second
  simp_all [Sl1Thing.canonical]

/-! ## Transforms, demand and pressure -/

theorem feedTransformIo_reads : Reads feedTransformIo fun io => io := by
  constructor
  intro first second after rest agree
  obtain ⟨things, agree⟩ := Reads.str.next agree
  obtain ⟨amounts, ends⟩ := (Reads.unsigned 8).read agree
  refine ⟨?_, ends⟩
  cases first
  cases second
  simp_all

theorem failurePolicyTag_injective : Function.Injective failurePolicyTag := by
  intro first second same
  cases first <;> cases second <;> first | rfl | exact absurd same (by decide)

theorem feedTransform_reads : Reads feedTransform fun transform => transform := by
  constructor
  intro first second after rest agree
  simp only [feedTransform, Chunk.append_assoc] at agree
  obtain ⟨ids, agree⟩ := Reads.str.next agree.skip
  obtain ⟨kinds, agree⟩ := Reads.str.next agree
  obtain ⟨places, agree⟩ := Reads.str.next agree
  obtain ⟨inputs, agree⟩ := (Reads.counted feedTransformIo_reads).next agree
  obtain ⟨outputs, agree⟩ := (Reads.counted feedTransformIo_reads).next agree
  obtain ⟨cadences, agree⟩ := (Reads.unsigned 8).next agree
  obtain ⟨durations, agree⟩ := (Reads.unsigned 8).next agree
  obtain ⟨deadlines, agree⟩ := (Reads.unsigned 8).next agree
  obtain ⟨costs, agree⟩ := (Reads.entries Reads.str (Reads.unsigned 8)).next agree
  obtain ⟨policies, agree⟩ := (Reads.tag failurePolicyTag_injective).next agree
  obtain ⟨attempts, ends⟩ := (Reads.unsigned 4).read agree
  refine ⟨?_, ends⟩
  cases first
  cases second
  simp_all

theorem feedDemandTarget_reads : Reads feedDemandTarget fun target => target := by
  constructor
  intro first second after rest agree
  cases first with
  | place =>
    cases second with
    | place =>
      obtain ⟨ids, ends⟩ := Reads.str.read agree.skip
      simp_all

theorem feedDemandSchedule_reads : Reads feedDemandSchedule fun schedule => schedule := by
  constructor
  intro first second after rest agree
  cases first with
  | fixed =>
    cases second with
    | fixed =>
      simp only [feedDemandSchedule, Chunk.append_assoc] at agree
      obtain ⟨periods, agree⟩ := (Reads.unsigned 8).next agree.skip
      obtain ⟨starts, ends⟩ := (Reads.unsigned 8).read agree
      simp_all
    | _ => exact absurd agree.2.2 (by simp [feedDemandSchedule])
  | scripted =>
    cases second with
    | scripted =>
      obtain ⟨ticks, ends⟩ := (Reads.unsigned 8).counted.read agree.skip
      simp_all
    | _ => exact absurd agree.2.2 (by simp [feedDemandSchedule])

theorem demandPriorityTag_injective : Function.Injective demandPriorityTag := by
  intro first second same
  cases first <;> cases second <;> first | rfl | exact absurd same (by decide)

theorem feedDemand_reads : Reads feedDemand fun demand => demand := by
  constructor
  intro first second after rest agree
  simp only [feedDemand, Chunk.append_assoc] at agree
  obtain ⟨ids, agree⟩ := Reads.str.next agree.skip
  obtain ⟨kinds, agree⟩ := Reads.str.next agree
  obtain ⟨targets, agree⟩ := Reads.next feedDemandTarget_reads agree
  obtain ⟨required, agree⟩ := Reads.str.counted.next agree
  obtain ⟨schedules, agree⟩ := Reads.next feedDemandSchedule_reads agree
  obtain ⟨deadlines, agree⟩ := (Reads.unsigned 8).next agree
  obtain ⟨priorities, agree⟩ := (Reads.tag demandPriorityTag_injective).next agree
  obtain ⟨values, agree⟩ := (Reads.unsigned 8).next agree
  obtain ⟨scores, agree⟩ := Reads.i64.next agree
  obtain ⟨warnings, ends⟩ := Reads.str.maybe.read agree
  refine ⟨?_, ends⟩
  obtain ⟨_, _, _, _, _, _, _, _, ⟨_, _⟩⟩ := first
  obtain ⟨_, _, _, _, _, _, _, _, ⟨_, _⟩⟩ := second
  simp_all

theorem pressureKindTag_injective : Function.Injective pressureKindTag := by
  intro first second same
  cases first <;> cases second <;> first | rfl | exact absurd same (by decide)

theorem feedPressureParams_reads : Reads feedPressureParams fun params => params := by
  constructor
  intro first second after rest agree
  cases first with
  | sourceMultiplier =>
    cases second with
    | sourceMultiplier =>
      simp only [feedPressureParams, Chunk.append_assoc] at agree
      obtain ⟨things, agree⟩ := Reads.str.next agree.skip
      obtain ⟨rates, ends⟩ := (Reads.unsigned 8).read agree
      simp_all
    | _ => exact absurd agree.2.2 (by simp [feedPressureParams])
  | demandGrowth =>
    cases second with
    | demandGrowth =>
      obtain ⟨multipliers, ends⟩ := (Reads.unsigned 4).read agree.skip
      simp_all
    | _ => exact absurd agree.2.2 (by simp [feedPressureParams])
  | quotaReduction =>
    cases second with
    | quotaReduction =>
      simp only [feedPressureParams, Chunk.append_assoc] at agree
      obtain ⟨capacities, agree⟩ := Reads.str.next agree.skip
      obtain ⟨percents, ends⟩ := (Reads.unsigned 1).read agree
      simp_all
    | _ => exact absurd agree.2.2 (by simp [feedPressureParams])
  | pathOutage =>
    cases second with
    | pathOutage =>
      exact ⟨rfl, List.append_cancel_left agree.2.2⟩
    | _ => exact absurd agree.2.2 (by simp [feedPressureParams])
  | unsupportedInThisPr =>
    cases second with
    | unsupportedInThisPr =>
      exact ⟨rfl, List.append_cancel_left agree.2.2⟩
    | _ => exact absurd agree.2.2 (by simp [feedPressureParams])

theorem feedPressure_reads : Reads feedPressure fun pressure => pressure := by
  constructor
  intro first second after rest agree
  simp only [feedPressure, Chunk.append_assoc] at agree
  obtain ⟨ids, agree⟩ := Reads.str.next agree.skip
  obtain ⟨kinds, agree⟩ := (Reads.tag pressureKindTag_injective).next agree
  obtain ⟨starts, agree⟩ := (Reads.unsigned 8).next agree
  obtain ⟨durations, agree⟩ := (Reads.unsigned 8).next agree
  obtain ⟨targets, agree⟩ := Reads.str.next agree
  obtain ⟨params, ends⟩ := Reads.read feedPressureParams_reads agree
  refine ⟨?_, ends⟩
  cases first
  cases second
  simp_all

/-! ## Objectives and conditions -/

theorem objectiveKindTag_injective : Function.Injective objectiveKindTag := by
  intro first second same
  cases first <;> cases second <;> first | rfl | exact absurd same (by decide)

theorem feedObjectiveParams_reads : Reads feedObjectiveParams fun params => params := by
  constructor
  intro first second after rest agree
  cases first with
  | keepFresh =>
    cases second with
    | keepFresh =>
      simp only [feedObjectiveParams, Chunk.append_assoc] at agree
      obtain ⟨places, agree⟩ := Reads.str.next agree.skip
      obtain ⟨things, agree⟩ := Reads.str.next agree
      obtain ⟨ticks, ends⟩ := (Reads.unsigned 8).read agree
      simp_all
    | _ => exact absurd agree.2.2 (by simp [feedObjectiveParams])
  | completeJobsBeforeDeadline =>
    cases second with
    | completeJobsBeforeDeadline =>
      simp only [feedObjectiveParams, Chunk.append_assoc] at agree
      obtain ⟨demands, agree⟩ := Reads.str.next agree.skip
      obtain ⟨misses, ends⟩ := (Reads.unsigned 8).read agree
      simp_all
    | _ => exact absurd agree.2.2 (by simp [feedObjectiveParams])
  | maintainUtilization =>
    cases second with
    | maintainUtilization =>
      simp only [feedObjectiveParams, Chunk.append_assoc] at agree
      obtain ⟨places, agree⟩ := Reads.str.next agree.skip
      obtain ⟨capacities, agree⟩ := Reads.str.next agree
      obtain ⟨lows, agree⟩ := (Reads.unsigned 1).next agree
      obtain ⟨highs, ends⟩ := (Reads.unsigned 1).read agree
      simp_all
    | _ => exact absurd agree.2.2 (by simp [feedObjectiveParams])
  | unsupportedInThisPr =>
    cases second with
    | unsupportedInThisPr =>
      exact ⟨rfl, List.append_cancel_left agree.2.2⟩
    | _ => exact absurd agree.2.2 (by simp [feedObjectiveParams])

theorem feedObjective_reads : Reads feedObjective fun objective => objective := by
  constructor
  intro first second after rest agree
  simp only [feedObjective, Chunk.append_assoc] at agree
  obtain ⟨ids, agree⟩ := Reads.str.next agree.skip
  obtain ⟨kinds, agree⟩ := (Reads.tag objectiveKindTag_injective).next agree
  obtain ⟨weights, agree⟩ := (Reads.unsigned 4).next agree
  obtain ⟨params, ends⟩ := Reads.read feedObjectiveParams_reads agree
  refine ⟨?_, ends⟩
  cases first
  cases second
  simp_all

theorem failureConditionKindTag_injective : Function.Injective failureConditionKindTag := by
  intro first second same
  cases first <;> cases second <;> first | rfl | exact absurd same (by decide)

theorem feedFailureConditionParams_reads : Reads feedFailureConditionParams fun params => params := by
  constructor
  intro first second after rest agree
  cases first with
  | staleTarget =>
    cases second with
    | staleTarget =>
      simp only [feedFailureConditionParams, Chunk.append_assoc] at agree
      obtain ⟨places, agree⟩ := Reads.str.next agree.skip
      obtain ⟨things, agree⟩ := Reads.str.next agree
      obtain ⟨thresholds, agree⟩ := (Reads.unsigned 8).next agree
      obtain ⟨graces, ends⟩ := (Reads.unsigned 8).read agree
      simp_all
    | _ => exact absurd agree.2.2 (by simp [feedFailureConditionParams])
  | placeState =>
    cases second with
    | placeState =>
      simp only [feedFailureConditionParams, Chunk.append_assoc] at agree
      obtain ⟨places, agree⟩ := Reads.str.next agree.skip
      obtain ⟨states, agree⟩ := Reads.str.next agree
      obtain ⟨graces, ends⟩ := (Reads.unsigned 8).read agree
      simp_all
    | _ => exact absurd agree.2.2 (by simp [feedFailureConditionParams])
  | objectiveBreachCount =>
    cases second with
    | objectiveBreachCount =>
      simp only [feedFailureConditionParams, Chunk.append_assoc] at agree
      obtain ⟨objectives, agree⟩ := Reads.str.next agree.skip
      obtain ⟨counts, ends⟩ := (Reads.unsigned 8).read agree
      simp_all
    | _ => exact absurd agree.2.2 (by simp [feedFailureConditionParams])

theorem feedFailureCondition_reads : Reads feedFailureCondition fun condition => condition := by
  constructor
  intro first second after rest agree
  simp only [feedFailureCondition, Chunk.append_assoc] at agree
  obtain ⟨ids, agree⟩ := Reads.str.next agree.skip
  obtain ⟨kinds, agree⟩ := (Reads.tag failureConditionKindTag_injective).next agree
  obtain ⟨params, ends⟩ := Reads.read feedFailureConditionParams_reads agree
  refine ⟨?_, ends⟩
  cases first
  cases second
  simp_all

theorem victoryConditionKindTag_injective : Function.Injective victoryConditionKindTag := by
  intro first second _
  cases first
  cases second
  rfl

theorem feedVictoryConditionParams_reads : Reads feedVictoryConditionParams fun params => params := by
  constructor
  intro first second after rest agree
  cases first with
  | surviveUntil =>
    cases second with
    | surviveUntil =>
      obtain ⟨ticks, ends⟩ := (Reads.unsigned 8).read agree.skip
      simp_all

theorem feedVictoryCondition_reads : Reads feedVictoryCondition fun condition => condition := by
  constructor
  intro first second after rest agree
  simp only [feedVictoryCondition, Chunk.append_assoc] at agree
  obtain ⟨ids, agree⟩ := Reads.str.next agree.skip
  obtain ⟨kinds, agree⟩ := (Reads.tag victoryConditionKindTag_injective).next agree
  obtain ⟨params, ends⟩ := Reads.read feedVictoryConditionParams_reads agree
  refine ⟨?_, ends⟩
  cases first
  cases second
  simp_all

/-! ## Observability and agents -/

theorem metricSourceKind_reads : Reads (fun kind => bare kind.asStr) fun kind : Sl1MetricSourceKind => kind :=
  (Reads.word ["place_capacity_used_percent", "place_inventory_count", "dashboard_freshness"] (by intro kind; cases kind <;> decide) (by decide)).weaken (by
    intro first second same
    cases first <;> cases second <;> first | rfl | exact absurd same (by decide))

theorem feedMetricSource_reads : Reads feedMetricSource fun source => source := by
  constructor
  intro first second after rest agree
  obtain ⟨kinds, agree⟩ := (Reads.on metricSourceKind_reads Sl1MetricSource.kind).next agree
  cases first with
  | placeCapacityUsedPercent place capacity =>
    cases second with
    | placeCapacityUsedPercent =>
      obtain ⟨places, agree⟩ := Reads.str.next agree
      obtain ⟨capacities, ends⟩ := Reads.str.read agree
      simp_all
    | _ => simp [Sl1MetricSource.kind] at kinds
  | placeInventoryCount place thing =>
    cases second with
    | placeInventoryCount =>
      obtain ⟨places, agree⟩ := Reads.str.next agree
      obtain ⟨things, ends⟩ := Reads.str.read agree
      simp_all
    | _ => simp [Sl1MetricSource.kind] at kinds
  | dashboardFreshness dashboard =>
    cases second with
    | dashboardFreshness =>
      obtain ⟨dashboards, ends⟩ := Reads.str.read agree
      simp_all
    | _ => simp [Sl1MetricSource.kind] at kinds

theorem feedMetric_reads : Reads feedMetric fun metric => metric := by
  constructor
  intro first second after rest agree
  obtain ⟨ids, agree⟩ := Reads.str.next agree
  obtain ⟨sources, ends⟩ := Reads.read feedMetricSource_reads agree
  refine ⟨?_, ends⟩
  cases first
  cases second
  simp_all

theorem dashboardKind_reads : Reads (fun kind => bare kind.asStr) fun kind : Sl1DashboardKind => kind :=
  (Reads.word ["report", "live", "ad_hoc"] (by intro kind; cases kind <;> decide) (by decide)).weaken (by
    intro first second same
    cases first <;> cases second <;> first | rfl | exact absurd same (by decide))

theorem feedDashboard_reads : Reads feedDashboard fun dashboard => dashboard := by
  constructor
  intro first second after rest agree
  simp only [feedDashboard, Chunk.append_assoc] at agree
  obtain ⟨ids, agree⟩ := Reads.str.next agree
  obtain ⟨kinds, agree⟩ := Reads.next dashboardKind_reads agree
  obtain ⟨things, agree⟩ := Reads.str.counted.next agree
  obtain ⟨slos, ends⟩ := (Reads.unsigned 8).read agree
  refine ⟨?_, ends⟩
  cases first
  cases second
  simp_all

theorem alertSeverity_reads : Reads (fun kind => bare kind.asStr) fun kind : Sl1AlertSeverity => kind :=
  (Reads.word ["info", "warning", "critical"] (by intro kind; cases kind <;> decide) (by decide)).weaken (by
    intro first second same
    cases first <;> cases second <;> first | rfl | exact absurd same (by decide))

theorem feedAlertPredicate_reads : Reads feedAlertPredicate fun predicate => predicate := by
  constructor
  intro first second after rest agree
  cases first with
  | gt =>
    cases second with
    | gt =>
      obtain ⟨thresholds, ends⟩ := (Reads.unsigned 8).read agree.skip
      simp_all
    | _ => exact absurd agree.2.2 (by simp [feedAlertPredicate])
  | lt =>
    cases second with
    | lt =>
      obtain ⟨thresholds, ends⟩ := (Reads.unsigned 8).read agree.skip
      simp_all
    | _ => exact absurd agree.2.2 (by simp [feedAlertPredicate])
  | outOfRange =>
    cases second with
    | outOfRange =>
      simp only [feedAlertPredicate, Chunk.append_assoc] at agree
      obtain ⟨mins, agree⟩ := (Reads.unsigned 8).next agree.skip
      obtain ⟨maxs, ends⟩ := (Reads.unsigned 8).read agree
      simp_all
    | _ => exact absurd agree.2.2 (by simp [feedAlertPredicate])

theorem feedAlert_reads : Reads feedAlert fun alert => alert := by
  constructor
  intro first second after rest agree
  simp only [feedAlert, Chunk.append_assoc] at agree
  obtain ⟨ids, agree⟩ := Reads.str.next agree
  obtain ⟨metrics, agree⟩ := Reads.str.next agree
  obtain ⟨predicates, agree⟩ := Reads.next feedAlertPredicate_reads agree
  obtain ⟨severities, ends⟩ := Reads.read alertSeverity_reads agree
  refine ⟨?_, ends⟩
  cases first
  cases second
  simp_all

theorem agentKind_reads : Reads (fun kind => bare kind.asStr) fun kind : Sl1AgentKind => kind :=
  (Reads.word ["mock", "builtin", "llm"] (by intro kind; cases kind <;> decide) (by decide)).weaken (by
    intro first second same
    cases first <;> cases second <;> first | rfl | exact absurd same (by decide))

theorem feedObservationTarget_reads : Reads feedObservationTarget fun target => target := by
  have kinds : Reads (fun target => bare target.kindStr) Sl1AgentObservationTarget.kindStr :=
    Reads.word ["place", "transform", "demand", "dashboard", "metric"]
      (by rintro ⟨⟩ <;> simp [Sl1AgentObservationTarget.kindStr]) (by decide)
  apply (kinds.append (Reads.str.on Sl1AgentObservationTarget.id)).weaken
  intro first second same
  cases first <;> cases second <;>
    simp_all [Sl1AgentObservationTarget.kindStr, Sl1AgentObservationTarget.id]

theorem feedAllowedAction_reads : Reads feedAllowedAction fun kind => kind :=
  (Reads.word ["set_job_priority", "throttle_demand", "scale_place_capacity", "warm_cache", "prioritize_transform", "pause_report_refresh"] (by intro kind; cases kind <;> decide) (by decide)).weaken (by
    intro first second same
    cases first <;> cases second <;> first | rfl | exact absurd same (by decide))

theorem feedAgent_reads : Reads feedAgent fun agent => agent := by
  constructor
  intro first second after rest agree
  simp only [feedAgent, Chunk.append_assoc] at agree
  obtain ⟨ids, agree⟩ := Reads.str.next agree.skip
  obtain ⟨kinds, agree⟩ := Reads.next agentKind_reads agree
  obtain ⟨roles, agree⟩ := Reads.str.next agree
  obtain ⟨intervals, agree⟩ := (Reads.unsigned 8).next agree
  obtain ⟨scopes, agree⟩ := (Reads.counted feedObservationTarget_reads).next agree
  obtain ⟨actions, agree⟩ := (Reads.counted feedAllowedAction_reads).next agree
  obtain ⟨costs, agree⟩ := (Reads.unsigned 8).next agree
  obtain ⟨cooldowns, agree⟩ := (Reads.unsigned 8).next agree
  obtain ⟨weights, ends⟩ := (Reads.entries Reads.str Reads.f64).read agree
  refine ⟨?_, ends⟩
  cases first
  cases second
  simp_all

theorem milestoneDashboardState_reads : Reads (fun kind => bare kind.asStr) fun kind : Sl1MilestoneDashboardState => kind :=
  (Reads.word ["ok", "stale", "no_data"] (by intro kind; cases kind <;> decide) (by decide)).weaken (by
    intro first second same
    cases first <;> cases second <;> first | rfl | exact absurd same (by decide))

end StateHash

end Simetro.Sl1
