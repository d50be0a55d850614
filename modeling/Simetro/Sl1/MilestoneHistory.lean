import Simetro.Sl1.ObserverHistory
import Simetro.Sl1.PressureWindows

/-! Milestones over a whole run: each fires at most once, on the tick its trigger says. -/

namespace Simetro.Protocol

/-- The tick the milestone fired on. -/
def SimEvent.milestoneFired (id : String) : SimEvent → Option Nat
  | .sl1MilestoneFired milestone _ _ _ _ now => if milestone = id then some now else none
  | _ => none

theorem SimEvent.milestoneFired_topic {id : String} (event : SimEvent)
    (read : (event.milestoneFired id).isSome = true) : event.topic = some .milestone := by
  cases event <;> first | rfl | cases read

end Simetro.Protocol

namespace Simetro.Sl1

open Simetro.Library Simetro.Library.History Simetro.Protocol

/-- Ticks a milestone fired on. -/
def Frame.firings (frame : Frame) (id : String) : List Nat :=
  frame.events.filterMap (SimEvent.milestoneFired id)

namespace Milestones

/-- Beyond the signed range the order with any signed threshold is decided. -/
theorem triggerSatisfied_metric {runtime : Sl1RuntimeState} {metric : String} {observed : UInt64}
    (measured : runtime.metricStates[metric]? = some (.ok observed.toNat))
    (predicate : Sl1MilestonePredicate) (value : Int64) :
    triggerSatisfied runtime (.metricThreshold metric predicate value.toInt) =
      predicate.evaluate observed.toNat value.toInt := by
  have bounded : value.toInt ≤ i64Max := by
    have bound := value.toInt_lt
    unfold i64Max
    omega
  simp only [triggerSatisfied, measured]
  split
  · rename_i beyond
    have above : value.toInt < observed.toNat := by omega
    cases predicate with
    | gte => exact (decide_eq_true above.le).symm
    | gt => exact (decide_eq_true above).symm
    | lte => exact (decide_eq_false (not_le.mpr above)).symm
    | lt => exact (decide_eq_false (not_lt.mpr above.le)).symm
  · rfl

variable {scene : Sl1Scene} {now : Nat} {frame : Frame}

/-- The milestone fires now. -/
def due (runtime : Sl1RuntimeState) (trigger : Sl1MilestoneTrigger) (entry : Sl1MilestoneRuntime) :
    Bool :=
  !entry.fired && (!needsArming trigger || entry.armed) && triggerSatisfied runtime trigger

/-- The milestone's entry after one more evaluation. -/
def next (runtime : Sl1RuntimeState) (now : Nat) (trigger : Sl1MilestoneTrigger)
    (entry : Sl1MilestoneRuntime) : Sl1MilestoneRuntime where
  firedAtTick := if due runtime trigger entry then some now else entry.firedAtTick
  armed := entry.armed || (!entry.fired && armsNow runtime trigger)

/-- What evaluating one milestone reads, and what it writes. -/
private def reaching (id : String) (frame : Frame) :
    Sl1RuntimeState × Option Sl1MilestoneRuntime × List Nat :=
  ({ frame.runtime with milestones := ∅ }, frame.runtime.milestones[id]?, frame.firings id)

private theorem evaluate_reaching {milestone : Sl1Milestone} {id : String} (apart : milestone.id ≠ id) :
    reaching id (evaluate now frame milestone) = reaching id frame := by
  have stored (entry : Sl1MilestoneRuntime) :
      reaching id (store milestone entry frame) = reaching id frame := by
    simp [reaching, store, getElem?_insert_of_ne apart, Frame.firings]
  have fires (entry : Sl1MilestoneRuntime) : reaching id ((store milestone entry frame).emit
      (.sl1MilestoneFired milestone.id milestone.label (triggerKindStr milestone.trigger)
        milestone.cameraFocus milestone.highlight now)) = reaching id frame := by
    rw [← stored entry]
    simp [reaching, Frame.firings, SimEvent.milestoneFired, apart]
  unfold evaluate
  split
  · rfl
  · split
    · rfl
    · split
      · split
        · exact stored _
        · rfl
      · split
        · rfl
        · exact fires _

theorem armsNow_eq_false {runtime : Sl1RuntimeState} {trigger : Sl1MilestoneTrigger}
    (ready : needsArming trigger = false) : armsNow runtime trigger = false := by
  cases trigger <;> first | rfl | cases ready

private theorem evaluate_entry {milestone : Sl1Milestone} {entry : Sl1MilestoneRuntime}
    (held : frame.runtime.milestones[milestone.id]? = some entry) :
    reaching milestone.id (evaluate now frame milestone) =
      ({ frame.runtime with milestones := ∅ },
        some (next frame.runtime now milestone.trigger entry),
        frame.firings milestone.id ++
          if due frame.runtime milestone.trigger entry then [now] else []) := by
  have fires (entry : Sl1MilestoneRuntime) : reaching milestone.id ((store milestone entry frame).emit
      (.sl1MilestoneFired milestone.id milestone.label (triggerKindStr milestone.trigger)
        milestone.cameraFocus milestone.highlight now)) =
      ({ frame.runtime with milestones := ∅ }, some entry, frame.firings milestone.id ++ [now]) := by
    simp [reaching, store, Frame.firings, SimEvent.milestoneFired]
  have stored (entry : Sl1MilestoneRuntime) : reaching milestone.id (store milestone entry frame) =
      ({ frame.runtime with milestones := ∅ }, some entry, frame.firings milestone.id) := by
    simp [reaching, store, Frame.firings]
  have stays : reaching milestone.id frame =
      ({ frame.runtime with milestones := ∅ }, some entry, frame.firings milestone.id) := by
    rw [reaching, held]
  unfold evaluate
  rw [held]
  simp only
  by_cases fired : entry.fired = true
  · rw [if_pos fired, stays]
    simp [fired, due, next]
  · rw [if_neg fired]
    by_cases waits : needsArming milestone.trigger ∧ ¬ entry.armed
    · rw [if_pos waits]
      by_cases arms : armsNow frame.runtime milestone.trigger = true
      · rw [if_pos arms, stored]
        simp [due, next, waits, arms, fired]
      · rw [if_neg arms, stays]
        obtain ⟨firedAtTick, armed⟩ := entry
        obtain rfl : armed = false := by simpa using waits.2
        simp [due, next, waits, arms]
    · rw [if_neg waits]
      have ready : (!needsArming milestone.trigger || entry.armed) = true := by
        simpa [Classical.or_iff_not_imp_left] using waits
      have still : (entry.armed || (!entry.fired && armsNow frame.runtime milestone.trigger)) =
          entry.armed := by
        cases armed : entry.armed with
        | true => rfl
        | false =>
          rw [armed, Bool.or_false, Bool.not_eq_true'] at ready
          rw [armsNow_eq_false ready, Bool.and_false, Bool.or_false]
      by_cases satisfied : triggerSatisfied frame.runtime milestone.trigger = true
      · have fires' : due frame.runtime milestone.trigger entry = true := by
          simp [due, fired, ready, satisfied]
        rw [if_neg (not_not.mpr satisfied), fires, next, fires', still]
        rfl
      · have stays' : due frame.runtime milestone.trigger entry = false := by
          simp [due, satisfied]
        rw [if_pos satisfied, stays, next, stays', still]
        simp

/-- The pass evaluates each declared milestone once, on the state it leaves. -/
theorem run_entry (distinct : (scene.milestones.map (·.id)).Nodup) {milestone : Sl1Milestone}
    (member : milestone ∈ scene.milestones) {entry : Sl1MilestoneRuntime}
    (held : frame.runtime.milestones[milestone.id]? = some entry) :
    let after := run scene now frame
    after.runtime.milestones[milestone.id]? =
      some (next after.runtime now milestone.trigger entry) ∧
    after.firings milestone.id = frame.firings milestone.id ++
      if due after.runtime milestone.trigger entry then [now] else [] := by
  intro after
  have others (current : Frame) (other : Sl1Milestone) (present : other ∈ scene.milestones)
      (different : other ≠ milestone) : reaching milestone.id (evaluate now current other) =
        reaching milestone.id current :=
    evaluate_reaching fun same =>
      different (List.inj_on_of_nodup_map distinct present member same)
  obtain ⟨before, reached, final⟩ := foldl_once (reaching milestone.id)
    (List.Nodup.of_map _ distinct) member others frame
  have stored : before.runtime.milestones[milestone.id]? = some entry :=
    (congrArg (·.2.1) reached).trans held
  have logged : before.firings milestone.id = frame.firings milestone.id := congrArg (·.2.2) reached
  have last := final.trans (evaluate_entry stored)
  have beside : { after.runtime with milestones := ∅ } = { before.runtime with milestones := ∅ } :=
    congrArg (·.1) last
  have looks {Value : Type} (look : Sl1RuntimeState → Value)
      (only : ∀ runtime : Sl1RuntimeState, look { runtime with milestones := ∅ } = look runtime) :
      look before.runtime = look after.runtime := by
    rw [← only before.runtime, ← beside, only]
  have dues : due before.runtime milestone.trigger entry = due after.runtime milestone.trigger entry :=
    looks (due · milestone.trigger entry) fun _ => by cases milestone.trigger <;> rfl
  have nexts : next before.runtime now milestone.trigger entry =
      next after.runtime now milestone.trigger entry :=
    looks (next · now milestone.trigger entry) fun _ => by cases milestone.trigger <;> rfl
  refine ⟨(congrArg (·.2.1) last).trans (by rw [nexts]), (congrArg (·.2.2) last).trans ?_⟩
  rw [logged, dues]

end Milestones

section Ticks

variable {scene : Sl1Scene} (references : scene.References) (backend : AgentBackend)
  {milestone : Sl1Milestone} (member : milestone ∈ scene.milestones)

include references member in
/-- A tick evaluates the milestone on the state it ends with. -/
private theorem ticks_milestone {count : Nat} {entry : Sl1MilestoneRuntime}
    (held : (ticks scene backend count).runtime.milestones[milestone.id]? = some entry) :
    let after := ticks scene backend (count + 1)
    after.runtime.milestones[milestone.id]? = some (Milestones.next after.runtime
      (worldTick (count + 1)) milestone.trigger entry) ∧
    after.firings milestone.id = (ticks scene backend count).firings milestone.id ++
      if Milestones.due after.runtime milestone.trigger entry then [worldTick (count + 1)] else [] := by
  intro after
  have around := surrounded scene backend count
  let acted := Agents.run scene (worldTick (count + 1)) backend (observed scene backend count)
  have ends : after = Milestones.run scene (worldTick (count + 1)) acted :=
    runObservers_eq scene backend _ (settled scene backend count)
  have acting : acted.runtime.milestones = (observed scene backend count).runtime.milestones ∧
      (observed scene backend count).Extends [.agent] acted := by
    obtain ⟨_, _, wrote⟩ := Agents.run_writes scene (worldTick (count + 1)) backend
      (observed scene backend count)
    exact ⟨by rw [wrote], Agents.run_extends scene _ backend _⟩
  have kept : acted.runtime.milestones[milestone.id]? = some entry := by
    rw [acting.1, around.milestonesBefore, held]
  have about := @SimEvent.milestoneFired_topic milestone.id
  have quiet : acted.firings milestone.id = (ticks scene backend count).firings milestone.id := by
    have observing : (settled scene backend count).Extends [.dashboard, .alert]
        (observed scene backend count) := Observability.run_extends scene _ _
    exact (acting.2.filterMap_of_topic about (by simp)).trans
      ((observing.filterMap_of_topic about (by simp)).trans
        (around.eventsBefore.filterMap_of_topic about (by simp)))
  obtain ⟨stored, logged⟩ := @Milestones.run_entry scene (worldTick (count + 1)) _
    references.milestonesIncreasing.distinct _ member _ kept
  rw [← ends] at stored logged
  exact ⟨stored, logged.trans (by rw [quiet])⟩

/-- State and events of a milestone agree. -/
structure Reached (frame : Frame) (milestone : Sl1Milestone) (entry : Sl1MilestoneRuntime) : Prop where
  held : frame.runtime.milestones[milestone.id]? = some entry
  firings : frame.firings milestone.id = entry.firedAtTick.toList

include references member in
theorem load_reached : Reached (.load scene) milestone
    ⟨none, Sl1RuntimeState.armedAtLoad milestone.trigger⟩ :=
  ⟨table_of_mem references.milestonesIncreasing.distinct member, rfl⟩

include references member in
/-- A milestone that fired stays as it is. -/
theorem Reached.tick {count : Nat} {entry : Sl1MilestoneRuntime}
    (reached : Reached (ticks scene backend count) milestone entry) :
    Reached (ticks scene backend (count + 1)) milestone
      (Milestones.next (ticks scene backend (count + 1)).runtime (worldTick (count + 1))
        milestone.trigger entry) := by
  obtain ⟨stored, logged⟩ := ticks_milestone references backend member reached.held
  refine ⟨stored, ?_⟩
  rw [logged, reached.firings, Milestones.next]
  by_cases due : Milestones.due (ticks scene backend (count + 1)).runtime milestone.trigger entry = true
  · have unfired : entry.firedAtTick = none := by
      simp only [Milestones.due, Bool.and_eq_true, Bool.not_eq_true', Sl1MilestoneRuntime.fired] at due
      simpa using due.1.1
    simp [due, unfired]
  · simp [due]

section Plain

include references member in
/-- A milestone that needs no arming fires on the first tick whose end satisfies its trigger. -/
theorem reached_first (plain : Milestones.needsArming milestone.trigger = false) (count : Nat) :
    ∃ entry, Reached (ticks scene backend count) milestone entry ∧
      entry.firedAtTick = (firstTick (fun past => Milestones.triggerSatisfied
        (ticks scene backend past).runtime milestone.trigger) count).map worldTick := by
  induction count with
  | zero => exact ⟨_, load_reached references member, rfl⟩
  | succ count ih =>
    obtain ⟨entry, reached, fired⟩ := ih
    refine ⟨_, reached.tick references backend member, ?_⟩
    have due : Milestones.due (ticks scene backend (count + 1)).runtime milestone.trigger entry =
        (entry.firedAtTick.isNone && Milestones.triggerSatisfied
          (ticks scene backend (count + 1)).runtime milestone.trigger) := by
      rw [Milestones.due, plain, Sl1MilestoneRuntime.fired, Option.not_isSome]
      simp
    rw [Milestones.next, due, firstTick_succ, fired]
    cases firstTick (fun past => Milestones.triggerSatisfied (ticks scene backend past).runtime
        milestone.trigger) count with
    | some first => simp
    | none =>
      simp only [Option.map_none, Option.isNone_none, Bool.true_and, Option.none_or]
      split <;> rfl

end Plain

section Pressures

variable (valid : scene.Valid) {pressure : Sl1Pressure} (scheduled : pressure ∈ scene.pressure)

theorem worldTick_steps (count : Nat) :
    worldTick (count + 1) = worldTick count ∨ worldTick (count + 1) = worldTick count + 1 := by
  rw [worldTick_eq, worldTick_eq]
  omega

include valid scheduled in
/-- At the end of a tick the pressure is active where its window says so. -/
theorem active_seenBy (count : Nat) :
    (ticks scene backend count).runtime.pressure.active.contains pressure.id =
      (pressure.window.seenBy (worldTick count)).inside :=
  congrArg WindowTracker.inside (ticks_tracker_clock backend valid scheduled count)

include references member valid scheduled in
theorem reached_activated (trigger : milestone.trigger = .pressureActivated pressure.id)
    (count : Nat) : ∃ entry, Reached (ticks scene backend count) milestone entry ∧
      entry.firedAtTick.toList = (pressure.window.seenBy (worldTick count)).entries := by
  induction count with
  | zero =>
    refine ⟨_, load_reached references member, ?_⟩
    rw [worldTick, Window.seenBy_zero]
    rfl
  | succ count ih =>
    obtain ⟨entry, reached, fired⟩ := ih
    refine ⟨_, reached.tick references backend member, ?_⟩
    have active := active_seenBy backend valid scheduled (count + 1)
    have steps := worldTick_steps count
    cases before : entry.firedAtTick with
    | some _ =>
      rw [before] at fired
      rw [Window.seenBy_entries_kept steps (by rw [← fired]; simp), ← fired]
      simp [Milestones.next, Milestones.due, Sl1MilestoneRuntime.fired, before]
    | none =>
      rw [before] at fired
      rw [Window.seenBy_entered steps fired.symm, ← active]
      simp only [Milestones.next, Milestones.due, trigger, Milestones.needsArming,
        Milestones.triggerSatisfied, Sl1MilestoneRuntime.fired, before]
      split <;> rename_i inside <;> simp at inside <;> simp [inside]

include references member valid scheduled in
theorem reached_deactivated (trigger : milestone.trigger = .pressureDeactivated pressure.id)
    (count : Nat) : ∃ entry, Reached (ticks scene backend count) milestone entry ∧
      entry.armed = !(pressure.window.seenBy (worldTick count)).entries.isEmpty ∧
      entry.firedAtTick.toList = (pressure.window.seenBy (worldTick count)).exits := by
  induction count with
  | zero =>
    refine ⟨_, load_reached references member, ?_⟩
    rw [worldTick, Window.seenBy_zero, trigger]
    exact ⟨rfl, rfl⟩
  | succ count ih =>
    obtain ⟨entry, reached, armed, fired⟩ := ih
    refine ⟨_, reached.tick references backend member, ?_⟩
    have active := active_seenBy backend valid scheduled (count + 1)
    have steps := worldTick_steps count
    by_cases entered : (pressure.window.seenBy (worldTick count)).entries = []
    · have notLeft := Window.seenBy_not_left (.inl rfl) entered
      rw [notLeft] at fired
      have unfired : entry.firedAtTick = none := Option.toList_eq_nil_iff.mp fired
      have unarmed : entry.armed = false := by rw [armed, entered]; rfl
      rw [Window.seenBy_not_left steps entered, Window.seenBy_entered steps entered, ← active]
      constructor
      · simp only [Milestones.next, Milestones.armsNow, trigger, Sl1MilestoneRuntime.fired, unfired,
          unarmed]
        cases (ticks scene backend (count + 1)).runtime.pressure.active.contains pressure.id <;> rfl
      · simp [Milestones.next, Milestones.due, Milestones.needsArming, trigger, unfired, unarmed]
    · have isArmed : entry.armed = true := by simpa using armed.trans (by simpa using entered)
      rw [Window.seenBy_entries_kept steps entered]
      refine ⟨by simp [Milestones.next, isArmed, entered], ?_⟩
      by_cases left : (pressure.window.seenBy (worldTick count)).exits = []
      · rw [left] at fired
        have unfired : entry.firedAtTick = none := Option.toList_eq_nil_iff.mp fired
        rw [Window.seenBy_left steps entered left, ← active]
        simp only [Milestones.next, Milestones.due, Milestones.triggerSatisfied, trigger,
          Sl1MilestoneRuntime.fired, unfired, isArmed]
        cases (ticks scene backend (count + 1)).runtime.pressure.active.contains pressure.id <;> rfl
      · rw [Window.seenBy_exits_kept steps left, ← fired]
        have isFired : entry.firedAtTick.isSome = true := by
          cases stopped : entry.firedAtTick with
          | none => exact absurd (by rw [← fired, stopped]; rfl) left
          | some _ => rfl
        simp [Milestones.next, Milestones.due, Sl1MilestoneRuntime.fired, isFired]

end Pressures

end Ticks

/-- In every run a milestone fires at most once: with the activation or the deactivation of its
pressure, or on the first tick whose end satisfies its trigger; and a metric's comparison with a
signed threshold is the one over the integers. -/
theorem milestones_follow_triggers {raw : RawSl1Scene} {scene : Sl1Scene}
    (accepted : validate raw = .ok scene) (backend : AgentBackend) (count : Nat) :
    let run := ticks scene backend count
    (∀ milestone ∈ scene.milestones, (run.firings milestone.id).length ≤ 1 ∧
      match milestone.trigger with
      | .pressureActivated pressure =>
          run.firings milestone.id = run.lifecycle pressure .activated
      | .pressureDeactivated pressure =>
          run.firings milestone.id = run.lifecycle pressure .deactivated
      | trigger => run.firings milestone.id = (firstTick (fun past =>
          Milestones.triggerSatisfied (ticks scene backend past).runtime trigger)
            count).toList.map worldTick) ∧
    ∀ (runtime : Sl1RuntimeState) (metric : String) (observed : UInt64)
      (predicate : Sl1MilestonePredicate) (value : Int64),
      runtime.metricStates[metric]? = some (.ok observed.toNat) →
      Milestones.triggerSatisfied runtime (.metricThreshold metric predicate value.toInt) =
        predicate.evaluate observed.toNat value.toInt := by
  intro run
  have valid := validate_valid accepted
  have references := validate_references accepted
  refine ⟨fun milestone member => ?_, fun _ _ _ predicate value measured =>
    Milestones.triggerSatisfied_metric measured predicate value⟩
  have once {entry : Sl1MilestoneRuntime} (reached : Reached run milestone entry) :
      (run.firings milestone.id).length ≤ 1 := by
    rw [reached.firings]
    cases entry.firedAtTick <;> simp
  have resolved := references.milestones milestone member
  cases kind : milestone.trigger with
  | pressureActivated id =>
    rw [kind] at resolved
    obtain ⟨pressure, scheduled, rfl⟩ := resolved
    obtain ⟨entry, reached, fired⟩ :=
      reached_activated references backend member valid scheduled kind count
    refine ⟨once reached, reached.firings.trans (fired.trans ?_)⟩
    exact (congrArg WindowTracker.entries (ticks_tracker_clock backend valid scheduled count)).symm
  | pressureDeactivated id =>
    rw [kind] at resolved
    obtain ⟨pressure, scheduled, rfl⟩ := resolved
    obtain ⟨entry, reached, -, fired⟩ :=
      reached_deactivated references backend member valid scheduled kind count
    refine ⟨once reached, reached.firings.trans (fired.trans ?_)⟩
    exact (congrArg WindowTracker.exits (ticks_tracker_clock backend valid scheduled count)).symm
  | metricThreshold metric predicate value =>
    obtain ⟨entry, reached, fired⟩ := reached_first references backend member (by rw [kind]; rfl) count
    refine ⟨once reached, ?_⟩
    rw [reached.firings, fired, Option.toList_map, kind]
  | dashboardState dashboard targetState =>
    obtain ⟨entry, reached, fired⟩ := reached_first references backend member (by rw [kind]; rfl) count
    refine ⟨once reached, ?_⟩
    rw [reached.firings, fired, Option.toList_map, kind]

/-- The dashboard goes stale on the second tick. -/
theorem milestones_follow_triggers_aging : ∃ scene, validate agingScene = .ok scene ∧
    (ticks scene defaultBackend 2).firings "stale_feed" = [2] := by
  have evaluated : yields (validate agingScene) (fun scene =>
      decide (∃ milestone ∈ scene.milestones, milestone.id = "stale_feed" ∧
        milestone.trigger = .dashboardState "feed" .stale) &&
      decide (firstTick (fun past => Milestones.triggerSatisfied
        (ticks scene defaultBackend past).runtime (.dashboardState "feed" .stale)) 2 = some 2)) =
      true := by
    decide +kernel
  obtain ⟨scene, accepted, read⟩ := yields_iff.mp evaluated
  simp only [Bool.and_eq_true, decide_eq_true_eq] at read
  obtain ⟨⟨milestone, listed, named, kind⟩, first⟩ := read
  have follows := ((milestones_follow_triggers accepted defaultBackend 2).1 milestone listed).2
  rw [kind] at follows
  simp only [first, named] at follows
  exact ⟨scene, accepted, follows⟩

end Simetro.Sl1
