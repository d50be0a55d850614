import Simetro.Sl1.StaticRecords
import Simetro.Sl1.ValidIds

/-! The static part of the hash tells accepted scenes apart. Sections without a count are
read up to the label of the next one; a milestone's comparison, fed without its length, is
read with the help of what the validator lets follow it. -/

namespace Simetro.Sl1

open Simetro.Library Chunk

namespace StateHash

/-! ## Milestones -/

/-- What stands behind a trigger. -/
def feedFocus (milestone : Sl1Milestone) : Chunk :=
  counted str milestone.cameraFocus ++ maybe str milestone.highlight

/-- The stream does not go on with a presence byte. -/
def NoPresence (after : List UInt8) : Prop := after.head? ≠ some 0 ∧ after.head? ≠ some 1

theorem maybe_head (highlight : Option String) (after : List UInt8) :
    ((maybe str highlight).bytes ++ after).head? = some 0 ∨
      ((maybe str highlight).bytes ++ after).head? = some 1 := by
  cases highlight with
  | none => exact .inl rfl
  | some text => exact .inr rfl

/-- `gt` and a value do not spell `gte` and a value: one byte further on, the number of
focus entries would have to end where the first entry or the highlight starts. -/
theorem threshold_apart {first second : Sl1Milestone} (focused : first.Focused)
    (focused' : second.Focused) {value value' : List UInt8} (width : value.length = 8)
    (width' : value'.length = 8) {letter : UInt8} {after rest : List UInt8}
    (ahead : NoPresence after) :
    value ++ ((feedFocus first).bytes ++ after) ≠
      letter :: (value' ++ ((feedFocus second).bytes ++ rest)) := by
  intro same
  let entries := (each str first.cameraFocus).bytes ++ ((maybe str first.highlight).bytes ++ after)
  let entries' := (each str second.cameraFocus).bytes ++
    ((maybe str second.highlight).bytes ++ rest)
  have low : leBytes 8 first.cameraFocus.length =
      leBytes 1 first.cameraFocus.length ++ leBytes 7 (first.cameraFocus.length / 256) :=
    leBytes_add 1 7 _
  have high : leBytes 8 second.cameraFocus.length = leBytes 7 second.cameraFocus.length ++ [0] := by
    rw [leBytes_add 7 1, Nat.div_eq_of_lt focused'.few]
    rfl
  -- both sides cut after nine bytes
  have nine : (value ++ leBytes 1 first.cameraFocus.length) ++
      (leBytes 7 (first.cameraFocus.length / 256) ++ entries) =
      (letter :: value') ++ (leBytes 7 second.cameraFocus.length ++ 0 :: entries') := by
    simpa [feedFocus, counted, unsigned, low, high, entries, entries'] using same
  have cut := (List.append_inj nine (by simp [width, width'])).2
  obtain ⟨counts, cut⟩ := List.append_inj cut (by simp)
  have counts : first.cameraFocus.length / 256 = second.cameraFocus.length :=
    leBytes_injective (by have := focused.few; omega) focused'.few counts
  cases focus : first.cameraFocus with
  | cons entry others =>
    have sized := focused.entries entry (by simp [focus])
    have head : UInt8.ofNat (utf8 entry).length = 0 := by
      simp only [entries, focus, each, str, unsigned, leBytes, bytes_append, List.cons_append,
        List.cons.injEq] at cut
      exact cut.1
    have := congrArg UInt8.toNat head
    simp only [UInt8.toNat_ofNat'] at this
    simp at this
    omega
  | nil =>
    have none' : second.cameraFocus = [] := by
      rw [focus] at counts
      exact List.length_eq_zero_iff.mp counts.symm
    simp only [entries, entries', focus, none', each, bytes_raw, List.nil_append] at cut
    cases highlight : first.highlight with
    | some text => simp [highlight, maybe] at cut
    | none =>
      simp only [highlight, maybe, bytes_byte, List.cons_append, List.nil_append,
        List.cons.injEq, true_and] at cut
      obtain present | present := maybe_head second.highlight rest
      · exact ahead.1 (cut ▸ present)
      · exact ahead.2 (cut ▸ present)

section Milestone

variable {first second : Sl1Milestone} {after rest : List UInt8}

/-- The comparison is determined although its text is not closed. -/
theorem predicate_determined (focused : first.Focused) (focused' : second.Focused)
    (ahead : NoPresence after) (ahead' : NoPresence rest)
    {predicate predicate' : Sl1MilestonePredicate} {value value' : Int}
    (agree : Agree (bare predicate.asStr ++ (i64 value ++ feedFocus first))
      (bare predicate'.asStr ++ (i64 value' ++ feedFocus second)) after rest) :
    predicate = predicate' := by
  have longer : (i64 value).bytes ++ ((feedFocus first).bytes ++ after) ≠
      0x65 :: ((i64 value').bytes ++ ((feedFocus second).bytes ++ rest)) :=
    threshold_apart focused focused' (length_leBytes 8 _) (length_leBytes 8 _) ahead
  have longer' : (i64 value').bytes ++ ((feedFocus second).bytes ++ rest) ≠
      0x65 :: ((i64 value).bytes ++ ((feedFocus first).bytes ++ after)) :=
    threshold_apart focused' focused (length_leBytes 8 _) (length_leBytes 8 _) ahead'
  have gte : utf8 "gte" = [0x67, 0x74, 0x65] := by decide
  have gt : utf8 "gt" = [0x67, 0x74] := by decide
  have lte : utf8 "lte" = [0x6c, 0x74, 0x65] := by decide
  have lt : utf8 "lt" = [0x6c, 0x74] := by decide
  have same := agree.2.2
  cases predicate <;> cases predicate' <;>
    simp_all [bare, Sl1MilestonePredicate.asStr]

theorem feedTrigger_next (focused : first.Focused) (focused' : second.Focused)
    (ahead : NoPresence after) (ahead' : NoPresence rest)
    {trigger trigger' : Sl1MilestoneTrigger}
    (agree : Agree (feedTrigger trigger ++ feedFocus first)
      (feedTrigger trigger' ++ feedFocus second) after rest) :
    trigger = trigger' ∧ Agree (feedFocus first) (feedFocus second) after rest := by
  cases trigger with
  | pressureActivated pressure =>
    cases trigger' with
    | pressureActivated =>
      simp only [feedTrigger, Chunk.append_assoc] at agree
      obtain ⟨pressures, agree⟩ := Reads.str.next agree.skip
      exact ⟨by rw [pressures], agree⟩
    | _ => exact absurd agree.2.2 (by simp [feedTrigger])
  | pressureDeactivated pressure =>
    cases trigger' with
    | pressureDeactivated =>
      simp only [feedTrigger, Chunk.append_assoc] at agree
      obtain ⟨pressures, agree⟩ := Reads.str.next agree.skip
      exact ⟨by rw [pressures], agree⟩
    | _ => exact absurd agree.2.2 (by simp [feedTrigger])
  | metricThreshold metric predicate value =>
    cases trigger' with
    | metricThreshold metric' predicate' value' =>
      simp only [feedTrigger, Chunk.append_assoc] at agree
      obtain ⟨metrics, agree⟩ := Reads.str.next agree.skip
      obtain rfl := predicate_determined focused focused' ahead ahead' agree
      obtain ⟨values, agree⟩ := Reads.i64.next agree.skip
      exact ⟨by rw [metrics, values], agree⟩
    | _ => exact absurd agree.2.2 (by simp [feedTrigger])
  | dashboardState dashboard target =>
    cases trigger' with
    | dashboardState =>
      simp only [feedTrigger, Chunk.append_assoc] at agree
      obtain ⟨dashboards, agree⟩ := Reads.str.next agree.skip
      obtain ⟨targets, agree⟩ := Reads.next milestoneDashboardState_reads agree
      exact ⟨by rw [dashboards, targets], agree⟩
    | _ => exact absurd agree.2.2 (by simp [feedTrigger])

theorem feedMilestone_read (focused : first.Focused) (focused' : second.Focused)
    (ahead : NoPresence after) (ahead' : NoPresence rest)
    (agree : Agree (feedMilestone first) (feedMilestone second) after rest) :
    first = second ∧ after = rest := by
  simp only [feedMilestone, Chunk.append_assoc] at agree
  obtain ⟨ids, agree⟩ := Reads.str.next agree.skip
  obtain ⟨labels, agree⟩ := Reads.str.next agree
  obtain ⟨triggers, agree⟩ := feedTrigger_next focused focused' ahead ahead' agree
  obtain ⟨focuses, agree⟩ := Reads.str.counted.next agree
  obtain ⟨highlights, ends⟩ := Reads.str.maybe.read agree
  refine ⟨?_, ends⟩
  cases first
  cases second
  simp_all

end Milestone

/-- Behind a milestone comes the label of another, or nothing. -/
theorem noPresence_milestones (milestones : List Sl1Milestone) :
    NoPresence ((each feedMilestone milestones).bytes ++ []) := by
  have letter : ∃ letters, utf8 "sl1.milestone.v1" = 0x73 :: letters := ⟨_, rfl⟩
  obtain ⟨letters, front⟩ := letter
  cases milestones with
  | nil => exact ⟨nofun, nofun⟩
  | cons milestone milestones =>
    constructor <;> simp [each, feedMilestone, bare, front]

theorem milestones_eq : ∀ {milestones others : List Sl1Milestone},
    (∀ milestone ∈ milestones, milestone.Focused) → (∀ other ∈ others, other.Focused) →
    milestones.length = others.length →
    Agree (each feedMilestone milestones) (each feedMilestone others) [] [] → milestones = others
  | [], [], _, _, _, _ => rfl
  | milestone :: milestones, other :: others, focused, focused', lengths, agree => by
    obtain ⟨focus, focused⟩ := List.forall_mem_cons.mp focused
    obtain ⟨focus', focused'⟩ := List.forall_mem_cons.mp focused'
    obtain ⟨heads, ends⟩ := feedMilestone_read focus focus' (noPresence_milestones milestones)
      (noPresence_milestones others) agree.left
    rw [heads, milestones_eq focused focused' (Nat.succ.inj lengths) (agree.right ends)]

/-! ## The scene -/

/-- What the header tells. -/
structure SameHeader (first second : Sl1Scene) : Prop where
  schemaVersion : first.schemaVersion = second.schemaVersion
  places : first.places.length = second.places.length
  links : first.links.length = second.links.length
  things : first.things.length = second.things.length
  transforms : first.transforms.length = second.transforms.length
  demand : first.demand.length = second.demand.length
  pressure : first.pressure.length = second.pressure.length
  objectives : first.objectives.length = second.objectives.length
  failureConditions : first.failureConditions.length = second.failureConditions.length
  agents : first.agents.length = second.agents.length
  milestones : first.milestones.length = second.milestones.length
  observability : first.observability.isSome = second.observability.isSome

theorem feedHeader_next {first second : Sl1Scene} {later last : Chunk} {after rest : List UInt8}
    (agree : Agree (feedHeader first ++ later) (feedHeader second ++ last) after rest) :
    SameHeader first second ∧ Agree later last after rest := by
  simp only [feedHeader, Chunk.append_assoc] at agree
  obtain ⟨versions, agree⟩ := (Reads.unsigned 4).next agree.skip
  obtain ⟨places, agree⟩ := (Reads.unsigned 8).next agree
  obtain ⟨links, agree⟩ := (Reads.unsigned 8).next agree
  obtain ⟨things, agree⟩ := (Reads.unsigned 8).next agree
  obtain ⟨transforms, agree⟩ := (Reads.unsigned 8).next agree
  obtain ⟨demand, agree⟩ := (Reads.unsigned 8).next agree
  obtain ⟨pressure, agree⟩ := (Reads.unsigned 8).next agree
  obtain ⟨objectives, agree⟩ := (Reads.unsigned 8).next agree
  obtain ⟨failures, agree⟩ := (Reads.unsigned 8).next agree
  obtain ⟨agents, agree⟩ := (Reads.unsigned 8).next agree
  obtain ⟨milestones, agree⟩ := (Reads.unsigned 8).next agree
  obtain ⟨present, agree⟩ := Reads.flag.next agree
  exact ⟨⟨versions, places, links, things, transforms, demand, pressure, objectives, failures,
    agents, milestones, present⟩, agree⟩

/-- No observability list starts here. -/
structure Unobserved (after : List UInt8) : Prop where
  metrics : ¬ utf8 "sl1.observability.metrics.v1" <+: after
  dashboards : ¬ utf8 "sl1.observability.dashboards.v1" <+: after
  alerts : ¬ utf8 "sl1.observability.alerts.v1" <+: after

theorem feedObservability_next {first second : Option Sl1Observability} {later last : Chunk}
    {after rest : List UInt8} (present : first.isSome = second.isSome)
    (stops : Unobserved (later.bytes ++ after)) (stops' : Unobserved (last.bytes ++ rest))
    (agree : Agree (feedObservability first ++ later) (feedObservability second ++ last)
      after rest) :
    first = second ∧ Agree later last after rest := by
  cases first with
  | none =>
    cases second with
    | none => exact ⟨rfl, agree.skip⟩
    | some => simp at present
  | some first =>
    cases second with
    | none => simp at present
    | some second =>
      simp only [feedObservability, Chunk.append_assoc] at agree
      obtain ⟨metrics, agree⟩ := feedMetric_reads.labelled agree
        (by
          simp only [bytes_append, List.append_assoc]
          exact not_prefix_labelled (by decide) (not_prefix_labelled (by decide) stops.metrics))
        (by
          simp only [bytes_append, List.append_assoc]
          exact not_prefix_labelled (by decide) (not_prefix_labelled (by decide) stops'.metrics))
      obtain ⟨dashboards, agree⟩ := feedDashboard_reads.labelled agree
        (by
          simp only [bytes_append, List.append_assoc]
          exact not_prefix_labelled (by decide) stops.dashboards)
        (by
          simp only [bytes_append, List.append_assoc]
          exact not_prefix_labelled (by decide) stops'.dashboards)
      obtain ⟨alerts, agree⟩ := feedAlert_reads.labelled agree stops.alerts stops'.alerts
      refine ⟨?_, agree⟩
      cases first
      cases second
      simp_all

/-- Agents and milestones stand behind labels of their own. -/
theorem unobserved_tail (scene : Sl1Scene) :
    Unobserved ((headed "sl1.agents.v1" feedAgent scene.agents ++
      headed "sl1.milestones.v1" feedMilestone scene.milestones).bytes ++ []) := by
  simp only [bytes_append, List.append_assoc]
  exact ⟨not_prefix_headed (by decide) (not_prefix_headed (by decide) (by decide)),
    not_prefix_headed (by decide) (not_prefix_headed (by decide) (by decide)),
    not_prefix_headed (by decide) (not_prefix_headed (by decide) (by decide))⟩

/-- So a victory condition is not taken for what follows the last of them. -/
theorem no_victory_ahead (scene : Sl1Scene) :
    ¬ utf8 "sl1.victory_condition.v1" <+: (feedObservability scene.observability ++
      (headed "sl1.agents.v1" feedAgent scene.agents ++
        headed "sl1.milestones.v1" feedMilestone scene.milestones)).bytes ++ [] := by
  have tail : ¬ utf8 "sl1.victory_condition.v1" <+:
      (headed "sl1.agents.v1" feedAgent scene.agents).bytes ++
        ((headed "sl1.milestones.v1" feedMilestone scene.milestones).bytes ++ []) :=
    not_prefix_headed (by decide) (not_prefix_headed (by decide) (by decide))
  simp only [bytes_append, List.append_assoc]
  cases scene.observability with
  | none => exact tail
  | some observability =>
    simp only [feedObservability, bytes_append, List.append_assoc]
    exact not_prefix_labelled (by decide) (not_prefix_labelled (by decide)
      (not_prefix_labelled (by decide) tail))

/-- The static part determines every scene whose milestones are focused as the validator
asks, up to the sign of zero. -/
theorem feedStatic_determines {first second : Sl1Scene}
    (focused : ∀ milestone ∈ first.milestones, milestone.Focused)
    (focused' : ∀ milestone ∈ second.milestones, milestone.Focused)
    (agree : Agree (feedStatic first) (feedStatic second) [] []) :
    first.canonical = second.canonical := by
  simp only [feedStatic, Chunk.append_assoc] at agree
  obtain ⟨same, agree⟩ := feedHeader_next agree
  obtain ⟨places, agree⟩ := feedPlace_reads.each_next same.places agree
  obtain ⟨links, agree⟩ := feedLink_reads.each_next same.links agree
  obtain ⟨things, agree⟩ := feedThing_reads.each_next same.things agree
  obtain ⟨transforms, agree⟩ := feedTransform_reads.each_next same.transforms agree
  obtain ⟨demand, agree⟩ := feedDemand_reads.each_next same.demand agree
  obtain ⟨pressure, agree⟩ := feedPressure_reads.each_next same.pressure agree
  obtain ⟨objectives, agree⟩ := feedObjective_reads.each_next same.objectives agree
  obtain ⟨failures, agree⟩ := feedFailureCondition_reads.each_next same.failureConditions agree
  obtain ⟨victories, agree⟩ := feedVictoryCondition_reads.each_until (utf8 "sl1.victory_condition.v1")
    (fun _ => by simp only [feedVictoryCondition, bytes_append, List.append_assoc]
                 exact List.prefix_append _ _)
    agree (no_victory_ahead first) (no_victory_ahead second)
  obtain ⟨observability, agree⟩ := feedObservability_next same.observability
    (unobserved_tail first) (unobserved_tail second) agree
  obtain ⟨agents, agree⟩ := feedAgent_reads.headed same.agents agree
  have milestones : first.milestones = second.milestones := by
    have counts := same.milestones
    cases here : first.milestones with
    | nil =>
      rw [here] at counts
      exact (List.length_eq_zero_iff.mp counts.symm).symm
    | cons milestone milestones =>
      cases there : second.milestones with
      | nil => simp [here, there] at counts
      | cons other others =>
        rw [here, there] at agree counts
        exact milestones_eq (here ▸ focused) (there ▸ focused') counts agree.skip
  have versions := same.schemaVersion
  cases first
  cases second
  simp_all [Sl1Scene.canonical]

/-- Scenes the validator accepts are told apart by what is fed for them, up to the sign
of zero. -/
theorem accepted_scenes_apart {raw raw' : RawSl1Scene} {scene scene' : Sl1Scene}
    (accepted : validate raw = .ok scene) (accepted' : validate raw' = .ok scene')
    (fits : (feedSl1 scene none).fits) (fits' : (feedSl1 scene' none).fits)
    (same : (feedSl1 scene none).bytes = (feedSl1 scene' none).bytes) :
    scene.canonical = scene'.canonical := by
  apply feedStatic_determines (validate_focused accepted) (validate_focused accepted')
  refine ⟨(fits_append_iff.mp fits).1, (fits_append_iff.mp fits').1, ?_⟩
  simpa [feedSl1] using same

/-- A cleaned thing, of which so much may be dropped. -/
def sievedScene (maxDropPercent : Float) : RawSl1Scene where
  places := [{ id := "mill", role := "store", pos := (0, 0) }]
  things := [{
    id := "flour", kind := "material"
    qualityContract := some { maxDropPercent := some maxDropPercent } }]

/-- The two zeros give two scenes, fed alike. -/
theorem accepted_scenes_apart_sieved : ∃ scene scene',
    validate (sievedScene 0.0) = .ok scene ∧ validate (sievedScene (-0.0)) = .ok scene' ∧
      scene.canonical = scene'.canonical := by
  have evaluated : yields (validate (sievedScene 0.0)) (fun scene =>
      yields (validate (sievedScene (-0.0))) fun scene' =>
        (feedSl1 scene none).fits && (feedSl1 scene' none).fits &&
          (feedSl1 scene none).bytes == (feedSl1 scene' none).bytes) = true := by decide +kernel
  obtain ⟨scene, accepted, evaluated⟩ := yields_iff.mp evaluated
  obtain ⟨scene', accepted', fed⟩ := yields_iff.mp evaluated
  simp only [Bool.and_eq_true, beq_iff_eq] at fed
  obtain ⟨⟨fits, fits'⟩, same⟩ := fed
  exact ⟨scene, scene', accepted, accepted', accepted_scenes_apart accepted accepted' fits fits' same⟩

end StateHash

end Simetro.Sl1
