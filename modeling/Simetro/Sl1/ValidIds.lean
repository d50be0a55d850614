import Simetro.Library.Encoding
import Simetro.Sl1.ValidScene

/-! Every section of an accepted scene has proper identifiers, and the milestones focus on
few of them. -/

namespace Simetro.Sl1

open Simetro.Library

/-- What a milestone may focus on: few entries, none empty and none long. -/
structure Sl1Milestone.Focused (milestone : Sl1Milestone) : Prop where
  few : milestone.cameraFocus.length < 256 ^ 7
  entries : ∀ entry ∈ milestone.cameraFocus,
    0 < (utf8 entry).length ∧ (utf8 entry).length < 256

theorem isValidSl1Id_length {id : String} (valid : isValidSl1Id id = true) :
    0 < (utf8 id).length ∧ (utf8 id).length < 256 := by
  simp only [isValidSl1Id, maxSl1IdLen, Bool.and_eq_true, bne_iff_ne] at valid
  obtain ⟨⟨nonempty, short⟩, -⟩ := valid
  rw [length_utf8]
  have positive : id.utf8ByteSize ≠ 0 := by simpa using nonempty
  have within : id.utf8ByteSize ≤ 64 := of_decide_eq_true short
  omega

/-- A number is a proper identifier. -/
theorem isValidSl1Id_toString {number : Nat} (small : number < 10 ^ 16) :
    isValidSl1Id (toString number) = true := by
  have digits : (toString number).toList = Nat.toDigits 10 number := Nat.toList_repr
  have nonempty : toString number ≠ "" := by
    intro empty
    have gone := congrArg String.toList empty
    rw [digits] at gone
    exact Nat.toDigits_ne_nil gone
  have short : (toString number).utf8ByteSize ≤ maxSl1IdLen := by
    have length : (toString number).length ≤ 16 := (Nat.length_repr_le_iff (by decide)).mpr small
    exact (utf8ByteSize_le _).trans (Nat.mul_le_mul_left 4 length)
  have allowed : (toString number).toList.all isIdCharacter = true := by
    rw [digits, List.all_eq_true]
    intro letter member
    have digit := Nat.isDigit_of_mem_toDigits (by decide) (by decide) member
    simp [isIdCharacter, Char.isAlphanum, digit]
  simp only [isValidSl1Id, Bool.and_eq_true, bne_iff_ne, decide_eq_true_eq]
  exact ⟨⟨nonempty, short⟩, allowed⟩

section Members

/-- The element is declared with a proper identifier. -/
abbrev ProperId (id : Entry → String) (entry : Entry) : Prop := isValidSl1Id (id entry) = true

theorem validateThing_properId (raw : RawSl1Thing) :
    Returns (validateThing raw) (ProperId Sl1Thing.id) := by
  apply Returns.checked
  intro valid
  repeat first
    | exact Returns.pure (by simpa using valid)
    | (apply Returns.bind; intro _)

theorem validatePlace_properId (raw : RawSl1Place) :
    Returns (validatePlace raw) (ProperId Sl1Place.id) := by
  apply Returns.checked
  intro valid
  repeat first
    | exact Returns.pure (by simpa using valid)
    | (apply Returns.bind; intro _)

theorem validateLink_properId (placeIds : IdSet) (raw : RawSl1Link) :
    Returns (validateLink placeIds raw) (ProperId Sl1Link.id) := by
  apply Returns.checked
  intro valid
  repeat first
    | exact Returns.pure (by simpa using valid)
    | (apply Returns.bind; intro _)

theorem validateTransform_properId (places : IdMap Sl1Place) (thingIds : IdSet)
    (raw : RawSl1Transform) :
    Returns (validateTransform places thingIds raw) (ProperId Sl1Transform.id) := by
  apply Returns.checked
  intro valid
  repeat first
    | exact Returns.pure (by simpa using valid)
    | (apply Returns.bind; intro _)

theorem validateDemand_properId (placeIds thingIds : IdSet) (raw : RawSl1Demand) :
    Returns (validateDemand placeIds thingIds raw) (ProperId Sl1Demand.id) := by
  apply Returns.checked
  intro valid
  repeat first
    | exact Returns.pure (by simpa using valid)
    | (apply Returns.bind; intro _)

theorem validatePressure_properId (scope : PressureScope) (raw : RawSl1Pressure) :
    Returns (validatePressure scope raw) (ProperId Sl1Pressure.id) := by
  apply Returns.checked
  intro valid
  repeat first
    | exact Returns.pure (by simpa using valid)
    | (apply Returns.bind; intro _)

theorem validateObjective_properId (scope : ObjectiveScope) (raw : RawSl1Objective) :
    Returns (validateObjective scope raw) (ProperId Sl1Objective.id) := by
  apply Returns.checked
  intro valid
  repeat first
    | exact Returns.pure (by simpa using valid)
    | (apply Returns.bind; intro _)

theorem validateFailureCondition_properId (scope : FailureScope) (raw : RawSl1FailureCondition) :
    Returns (validateFailureCondition scope raw) (ProperId Sl1FailureCondition.id) := by
  apply Returns.checked
  intro valid
  repeat first
    | exact Returns.pure (by simpa using valid)
    | (apply Returns.bind; intro _)

theorem validateMetric_properId (scope : MetricScope) (raw : RawSl1Metric) :
    Returns (validateMetric scope raw) (ProperId Sl1Metric.id) := by
  apply Returns.checked
  intro valid
  repeat first
    | exact Returns.pure (by simpa using valid)
    | (apply Returns.bind; intro _)

theorem validateDashboard_properId (thingIds : IdSet) (raw : RawSl1Dashboard) :
    Returns (validateDashboard thingIds raw) (ProperId Sl1Dashboard.id) := by
  apply Returns.checked
  intro valid
  repeat first
    | exact Returns.pure (by simpa using valid)
    | (apply Returns.bind; intro _)

theorem validateAlert_properId (metricIds : IdSet) (raw : RawSl1Alert) :
    Returns (validateAlert metricIds raw) (ProperId Sl1Alert.id) := by
  apply Returns.checked
  intro valid
  repeat first
    | exact Returns.pure (by simpa using valid)
    | (apply Returns.bind; intro _)

theorem validateAgent_properId (scope : AgentScope) (raw : RawSl1Agent) :
    Returns (validateAgent scope raw) (ProperId Sl1Agent.id) := by
  apply Returns.checked
  intro valid
  repeat first
    | exact Returns.pure (by simpa using valid)
    | (apply Returns.bind; intro _)

end Members

/-- A few identifiers, all of them proper. -/
structure ProperIds (most : Nat) (ids : List String) : Prop where
  few : ids.length ≤ most
  proper : ∀ id ∈ ids, isValidSl1Id id = true

theorem ProperIds.append {most most' : Nat} {ids others : List String} (first : ProperIds most ids)
    (second : ProperIds most' others) : ProperIds (most + most') (ids ++ others) := by
  constructor
  · rw [List.length_append]
    exact Nat.add_le_add first.few second.few
  · intro id member
    obtain member | member := List.mem_append.mp member
    · exact first.proper id member
    · exact second.proper id member

theorem catalog_properIds {read : Raw → Checked Entry} {key : Entry → String}
    {duplicate : Entry → Sl1LoadError} {crossCheck : Entry → Checked Unit} {raws : List Raw}
    {entries : List Entry} {most : Nat} (proper : ∀ raw, Returns (read raw) (ProperId key))
    (few : raws.length ≤ most)
    (success : catalog read key duplicate crossCheck raws = .ok entries) :
    ProperIds most (entries.map key) := by
  have sound := catalog_sound success
  constructor
  · rw [List.length_map, sound.length]
    exact few
  · intro id member
    obtain ⟨entry, declared, rfl⟩ := List.mem_map.mp member
    obtain ⟨raw, -, read⟩ := sound.readFrom declared
    exact proper raw entry read

theorem checkCameraFocus_sound {scope : MilestoneScope} {milestone : String}
    {entries : List String} {seen : IdSet} {done : Unit}
    (success : checkCameraFocus scope milestone entries seen = .ok done) :
    entries.Nodup ∧ ∀ entry ∈ entries, entry ∈ scope.focusableIds ∧ entry ∉ seen := by
  induction entries generalizing seen with
  | nil => simp
  | cons entry entries ih =>
    simp only [checkCameraFocus, bind_eq_ok, reject_eq_ok] at success
    obtain ⟨_, -, _, unseen, _, known, later⟩ := success
    obtain ⟨distinct, fresh⟩ := ih later
    have new : entry ∉ entries := fun member => (fresh entry member).2 (by simp)
    refine ⟨List.nodup_cons.mpr ⟨new, distinct⟩, ?_⟩
    rintro other (_ | ⟨_, member⟩)
    · exact ⟨by simpa using known, fun present => by
        simp [Std.ExtTreeSet.contains_iff_mem.mpr present] at unseen⟩
    · exact ⟨(fresh other member).1, fun present => (fresh other member).2 (by simp [present])⟩

/-- A milestone focuses on some of the identifiers in scope. -/
theorem validateMilestone_focused {scope : MilestoneScope} {raw : RawSl1Milestone}
    {milestone : Sl1Milestone} {focusable : List String} {most : Nat}
    (ids : ProperIds most focusable) (most_small : most < 256 ^ 7)
    (inScope : scope.focusableIds = idSet focusable)
    (success : validateMilestone scope raw = .ok milestone) : milestone.Focused := by
  simp only [validateMilestone, bind_eq_ok, reject_eq_ok] at success
  obtain ⟨_, -, _, -, focus, focusRead, _, -, _, -, same⟩ := success
  cases same
  obtain ⟨distinct, known⟩ : focus.Nodup ∧ ∀ entry ∈ focus, entry ∈ focusable := by
    cases declared : raw.cameraFocus with
    | none =>
      rw [declared] at focusRead
      cases focusRead
      simp
    | some entries =>
      rw [declared] at focusRead
      simp only [validateCameraFocus, bind_eq_ok, reject_eq_ok] at focusRead
      obtain ⟨_, -, _, checked, same⟩ := focusRead
      cases same
      obtain ⟨distinct, known⟩ := checkCameraFocus_sound checked
      refine ⟨distinct, fun entry member => ?_⟩
      have declared := (known entry member).1
      rw [inScope, idSet, Std.ExtTreeSet.mem_ofList] at declared
      simpa using declared
  constructor
  · exact ((List.subperm_of_subset distinct known).length_le.trans ids.few).trans_lt most_small
  · exact fun entry member => isValidSl1Id_length (ids.proper entry (known entry member))

theorem validateObservability_properIds {places : List Sl1Place} {thingIds : IdSet}
    {raw : RawSl1Observability} {observability : Sl1Observability}
    (success : validateObservability places thingIds raw = .ok observability) :
    ProperIds maxObservabilityItems (observability.metrics.map (·.id)) ∧
      ProperIds maxObservabilityItems (observability.dashboards.map (·.id)) ∧
      ProperIds maxObservabilityItems (observability.alerts.map (·.id)) := by
  simp only [validateObservability, checkObservabilityCap, bind_eq_ok, reject_eq_ok,
    decide_eq_false_iff_not, Nat.not_lt] at success
  obtain ⟨_, fewMetrics, _, fewDashboards, _, fewAlerts, dashboards, dashboardsRead, metrics,
    metricsRead, alerts, alertsRead, same⟩ := success
  cases same
  exact ⟨catalog_properIds (validateMetric_properId _) fewMetrics metricsRead,
    catalog_properIds (validateDashboard_properId _) fewDashboards dashboardsRead,
    catalog_properIds (validateAlert_properId _) fewAlerts alertsRead⟩

/-- The ids of an optional section. -/
theorem optional_properIds {places : List Sl1Place} {thingIds : IdSet}
    {raw : Option RawSl1Observability} {observability : Option Sl1Observability}
    (success : raw.mapM (validateObservability places thingIds) = .ok observability) :
    ProperIds maxObservabilityItems (((observability.map (·.metrics)).getD []).map (·.id)) ∧
      ProperIds maxObservabilityItems (((observability.map (·.dashboards)).getD []).map (·.id)) ∧
      ProperIds maxObservabilityItems (((observability.map (·.alerts)).getD []).map (·.id)) := by
  cases raw with
  | none =>
    cases success
    exact ⟨⟨by simp, by simp⟩, ⟨by simp, by simp⟩, ⟨by simp, by simp⟩⟩
  | some raw =>
    cases read : validateObservability places thingIds raw with
    | error error => simp [read] at success
    | ok found =>
      rw [Option.mapM_some, read] at success
      cases success
      exact validateObservability_properIds read

/-- The milestones of an accepted scene focus on few proper identifiers. -/
theorem validate_focused {raw : RawSl1Scene} {scene : Sl1Scene}
    (success : validate raw = .ok scene) : ∀ milestone ∈ scene.milestones, milestone.Focused := by
  simp only [validate, bind_eq_ok] at success
  obtain ⟨_, shape, things, thingsRead, places, placesRead, links, linksRead, transforms,
    transformsRead, demand, demandRead, pressure, pressureRead, objectives, objectivesRead,
    failures, failuresRead, victories, -, observability, observabilityRead, agents, agentsRead,
    milestones, milestonesRead, same⟩ := success
  cases same
  simp only [checkShape, checkSectionCap, bind_eq_ok, reject_eq_ok, decide_eq_false_iff_not,
    Nat.not_lt] at shape
  obtain ⟨_, -, _, -, _, fewPlaces, _, fewLinks, _, fewThings, _, fewTransforms, _, fewDemand, _,
    fewPressure, _, fewObjectives, _, fewFailures, _, -, _, fewAgents, -⟩ := shape
  obtain ⟨metricIds, dashboardIds, alertIds⟩ := optional_properIds observabilityRead
  have ids := (catalog_properIds validatePlace_properId fewPlaces placesRead).append
    (catalog_properIds (validateLink_properId _) fewLinks linksRead) |>.append
    (catalog_properIds validateThing_properId fewThings thingsRead) |>.append
    (catalog_properIds (validateTransform_properId _ _) fewTransforms transformsRead) |>.append
    (catalog_properIds (validateDemand_properId _ _) fewDemand demandRead) |>.append
    (catalog_properIds (validatePressure_properId _) fewPressure pressureRead) |>.append
    (catalog_properIds (validateObjective_properId _) fewObjectives objectivesRead) |>.append
    (catalog_properIds (validateFailureCondition_properId _) fewFailures failuresRead) |>.append
    metricIds |>.append dashboardIds |>.append alertIds |>.append
    (catalog_properIds (validateAgent_properId _) fewAgents agentsRead)
  intro milestone member
  obtain ⟨source, -, read⟩ := (catalog_sound milestonesRead).readFrom member
  exact validateMilestone_focused ids (by decide) rfl read

end Simetro.Sl1
