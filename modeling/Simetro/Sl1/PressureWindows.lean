import Simetro.Library.Keyed
import Simetro.Library.Window
import Simetro.Sl1.Ambient
import Simetro.Sl1.ValidScene

/-! Every pressure is a tracker of its own window: when it becomes active, when it
stops, and what is reported of it. -/

namespace Simetro.Sl1

open Simetro.Library Simetro.Protocol

structure Sl1Pressure.Valid (pressure : Sl1Pressure) : Prop where
  duration_pos : 0 < pressure.durationTicks
  end_le : pressure.atTick + pressure.durationTicks ≤ maxPressureTicks

theorem validatePressure_valid {scope : PressureScope} {raw : RawSl1Pressure}
    {pressure : Sl1Pressure} (success : validatePressure scope raw = .ok pressure) :
    pressure.Valid := by
  simp only [validatePressure, bind_eq_ok, reject_eq_ok, decide_eq_false_iff_not] at success
  obtain ⟨_, -, _, positive, _, -, _, -, _, bounded, _, -, _, -, _, -, same⟩ := success
  cases same
  exact ⟨Nat.pos_of_ne_zero (by simpa using positive), Nat.le_of_not_lt bounded⟩

theorem validate_pressure {raw : RawSl1Scene} {scene : Sl1Scene}
    (success : validate raw = .ok scene) : ∀ pressure ∈ scene.pressure, pressure.Valid := by
  simp only [validate, bind_eq_ok] at success
  obtain ⟨_, -, things, -, places, -, links, -, transforms, -, demand, -, pressure, pressureRead,
    objectives, -, failures, -, victories, -, observability, -, agents, -, milestones, -, same⟩ :=
    success
  cases same
  intro one member
  obtain ⟨source, -, read⟩ := (catalog_sound pressureRead).readFrom member
  exact validatePressure_valid read

namespace Sl1Pressure

def window (pressure : Sl1Pressure) : Window := ⟨pressure.atTick, pressure.endTick⟩

theorem Valid.endTick_eq {pressure : Sl1Pressure} (valid : pressure.Valid) :
    pressure.endTick = pressure.atTick + pressure.durationTicks :=
  saturatingAdd_of_le (Nat.le_trans valid.end_le (by decide))

/-- The runtime first looks at tick 1, so a window within tick 0 is never seen. -/
theorem Valid.seen_iff {pressure : Sl1Pressure} (valid : pressure.Valid) :
    pressure.window.Seen ↔ ¬ (pressure.atTick = 0 ∧ pressure.durationTicks = 1) := by
  have positive := valid.duration_pos
  simp only [Window.Seen, Window.opening, window, valid.endTick_eq]
  omega

end Sl1Pressure

namespace Frame

/-- Ticks at which a pressure was reported to start or to stop. -/
def lifecycle (frame : Frame) (id : String) (kind : Sl1PressureEventKind) : List Nat :=
  frame.events.filterMap fun
    | .sl1PressureLifecycle pressure _ event tick =>
      if pressure = id ∧ event = kind then some tick else none
    | _ => none

/-- What the runtime holds and has reported of a pressure. -/
def tracker (frame : Frame) (id : String) : WindowTracker where
  inside := frame.runtime.pressure.active.contains id
  entries := frame.lifecycle id .activated
  exits := frame.lifecycle id .deactivated

theorem lifecycle_of_overlays {frame other : Frame} (same : frame.overlays = other.overlays)
    (id : String) (kind : Sl1PressureEventKind) : frame.lifecycle id kind = other.lifecycle id kind := by
  have filtered (frame : Frame) :
      frame.lifecycle id kind = ({ frame with events := frame.overlays.events }).lifecycle id kind := by
    simp only [lifecycle, overlays, List.filterMap_filter]
    refine List.filterMap_congr fun event _ => ?_
    cases event <;> rfl
  rw [filtered frame, filtered other, same]
  rfl

theorem tracker_of_overlays {frame other : Frame} (same : frame.overlays = other.overlays)
    (id : String) : frame.tracker id = other.tracker id := by
  have active : frame.runtime.pressure = other.runtime.pressure := congrArg Overlays.pressure same
  simp only [tracker, active, lifecycle_of_overlays same]

end Frame

namespace Pressure

variable {scene : Sl1Scene} {now : Nat} {frame : Frame} {id : String} {pressure : Sl1Pressure}

theorem pressureDef_of_mem (valid : scene.Valid) (member : pressure ∈ scene.pressure) :
    pressureDef scene pressure.id = some pressure :=
  find?_of_mem valid.pressureIncreasing.distinct member

theorem deactivate_tracker (declared : pressureDef scene pressure.id = some pressure) :
    (deactivate scene now frame pressure.id).tracker pressure.id =
      { frame.tracker pressure.id with
        inside := false, exits := (frame.tracker pressure.id).exits ++ [now] } := by
  simp [deactivate, declared, Frame.tracker, Frame.lifecycle]

theorem deactivate_tracker_other {other : String} (different : other ≠ id) :
    (deactivate scene now frame other).tracker id = frame.tracker id := by
  have kept : (frame.runtime.pressure.active.erase other).contains id =
      frame.runtime.pressure.active.contains id := by
    simp [different]
  unfold deactivate
  cases pressureDef scene other with
  | none => simp [Frame.tracker, Frame.lifecycle, kept]
  | some _ => simp [Frame.tracker, Frame.lifecycle, kept, different]

theorem warnUnsupported_tracker : (warnUnsupported now frame pressure).tracker id = frame.tracker id := by
  unfold warnUnsupported
  split <;> rfl

theorem activate_tracker :
    (activate now frame pressure).tracker pressure.id =
      pressure.window.enter now (frame.tracker pressure.id) := by
  by_cases opens : pressure.atTick ≤ now ∧ now < pressure.endTick ∧
      ¬ frame.runtime.pressure.active.contains pressure.id
  · rw [activate, if_pos opens, warnUnsupported_tracker]
    simp [Window.enter, Sl1Pressure.window, Frame.tracker, Frame.lifecycle, opens]
  · rw [activate, if_neg opens, Window.enter, if_neg]
    simpa [Sl1Pressure.window, Frame.tracker] using opens

theorem activate_tracker_other (different : pressure.id ≠ id) :
    (activate now frame pressure).tracker id = frame.tracker id := by
  unfold activate
  split
  · rw [warnUnsupported_tracker]
    simp [Frame.tracker, Frame.lifecycle, different]
  · rfl

theorem injectSource_tracker (caps : PairMap Nat) (injection : SourceInjection) :
    (injectSource caps now frame injection).tracker id = frame.tracker id :=
  injectSource_rule (motive := fun after => after.tracker id = frame.tracker id) rfl rfl

theorem applySourceInjection_tracker :
    (applySourceInjection scene now frame).tracker id = frame.tracker id :=
  foldl_keeps (Frame.tracker · id) (fun _ injection _ => injectSource_tracker _ injection) frame

/-- A declared pressure leaves its window with the deactivations. -/
theorem deactivated_tracker (valid : scene.Valid) (member : pressure ∈ scene.pressure) :
    ((toDeactivate scene frame.runtime now).foldl (deactivate scene now) frame).tracker pressure.id =
      pressure.window.leave now (frame.tracker pressure.id) := by
  have declared := pressureDef_of_mem valid member
  by_cases past : pressure.id ∈ toDeactivate scene frame.runtime now
  · have distinct : (toDeactivate scene frame.runtime now).Nodup :=
      Std.ExtTreeMap.nodup_keys.filter _
    obtain ⟨before, same, final⟩ := foldl_once (Frame.tracker · pressure.id) distinct past
      (fun _ _ _ different => deactivate_tracker_other different) frame
    have ends : pressure.id ∈ frame.runtime.pressure.active ∧ pressure.endTick ≤ now := by
      simpa [toDeactivate, declared] using past
    rw [final, deactivate_tracker declared, same, Window.leave, if_pos]
    rw [Bool.and_eq_true, decide_eq_true_eq]
    exact ⟨Std.ExtTreeMap.contains_iff_mem.mpr ends.1, ends.2⟩
  · rw [foldl_keeps (Frame.tracker · pressure.id) fun _ other present =>
      deactivate_tracker_other fun same => past (same ▸ present)]
    have stays : ¬ (pressure.id ∈ frame.runtime.pressure.active ∧ pressure.endTick ≤ now) := by
      simpa [toDeactivate, declared] using past
    rw [Window.leave, if_neg]
    rw [Bool.and_eq_true, decide_eq_true_eq]
    rintro ⟨active, past⟩
    exact stays ⟨Std.ExtTreeMap.contains_iff_mem.mp active, past⟩

theorem activated_tracker (valid : scene.Valid) (member : pressure ∈ scene.pressure) :
    (scene.pressure.foldl (activate now) frame).tracker pressure.id =
      pressure.window.enter now (frame.tracker pressure.id) := by
  have distinct := valid.pressureIncreasing.distinct
  obtain ⟨before, same, final⟩ := foldl_once (Frame.tracker · pressure.id) distinct.of_map member
    (fun _ other present different => activate_tracker_other fun equal =>
      different (List.inj_on_of_nodup_map distinct present member equal)) frame
  rw [final, activate_tracker, same]

/-- The pressure pass visits the window of every declared pressure. -/
theorem run_tracker (valid : scene.Valid) (member : pressure ∈ scene.pressure) :
    (run scene now frame).tracker pressure.id =
      pressure.window.visit now (frame.tracker pressure.id) := by
  have some' : scene.pressure.isEmpty = false := by
    cases declared : scene.pressure with
    | nil => simp [declared] at member
    | cons => rfl
  rw [run_eq, some', if_neg (by simp), applySourceInjection_tracker]
  change (scene.pressure.foldl (activate now) _).tracker pressure.id = _
  rw [activated_tracker valid member, deactivated_tracker valid member, Window.visit]

/-- It never touches a name no pressure has. -/
theorem run_tracker_undeclared (absent : ∀ pressure ∈ scene.pressure, pressure.id ≠ id) :
    (run scene now frame).tracker id = frame.tracker id := by
  rw [run_eq]
  split
  · rfl
  · have undefined : pressureDef scene id = none :=
      List.find?_eq_none.mpr fun pressure member => by simpa using absent pressure member
    rw [applySourceInjection_tracker]
    change (scene.pressure.foldl (activate now) _).tracker id = _
    rw [foldl_keeps (Frame.tracker · id) fun _ pressure member =>
      activate_tracker_other (absent pressure member)]
    refine foldl_keeps (Frame.tracker · id) (fun _ other present =>
      deactivate_tracker_other fun same => ?_) frame
    subst same
    simp [toDeactivate, undefined] at present

end Pressure

section Run

variable {scene : Sl1Scene} (backend : AgentBackend)

/-- A declared pressure is tracked along the clock, which may have stopped. -/
theorem ticks_tracker_clock (valid : scene.Valid) {pressure : Sl1Pressure}
    (member : pressure ∈ scene.pressure) (count : Nat) :
    (ticks scene backend count).tracker pressure.id = pressure.window.seenBy (worldTick count) := by
  induction count with
  | zero => rw [worldTick, Window.seenBy_zero]; rfl
  | succ count ih =>
    rw [ticks, Frame.tracker_of_overlays (run_overlays scene backend _ _),
      Pressure.run_tracker valid member, ih]
    by_cases goes : count + 1 ≤ u64Max
    · rw [worldTick_of_le goes, worldTick_of_le (Nat.le_of_succ_le goes), Window.seenBy_succ]
    · have stopped : worldTick (count + 1) = worldTick count := by
        rw [worldTick_eq, worldTick_eq]
        omega
      have running : worldTick count = (worldTick count - 1) + 1 := by
        rw [worldTick_eq]
        unfold u64Max at *
        omega
      rw [stopped, running, Window.seenBy_succ, Window.visit_visit]

theorem ticks_tracker (valid : scene.Valid) {pressure : Sl1Pressure}
    (member : pressure ∈ scene.pressure) {count : Nat} (reachable : count ≤ u64Max) :
    (ticks scene backend count).tracker pressure.id = pressure.window.seenBy count := by
  rw [ticks_tracker_clock backend valid member, worldTick_of_le reachable]

theorem ticks_tracker_undeclared {id : String}
    (absent : ∀ pressure ∈ scene.pressure, pressure.id ≠ id) (count : Nat) :
    (ticks scene backend count).tracker id = ⟨false, [], []⟩ := by
  induction count with
  | zero => rfl
  | succ count ih =>
    rw [ticks, Frame.tracker_of_overlays (run_overlays scene backend _ _),
      Pressure.run_tracker_undeclared absent, ih]

end Run

/-- Over the ticks 1 to `count` the pressures keep to their windows: each one whose
window is over was reported active on its first tick and inactive on its end tick,
once and in that tick, and the active pressures are those whose window is open. -/
def WindowsKept (scene : Sl1Scene) (frames : Nat → Frame) (count : Nat) : Prop :=
  (∀ pressure ∈ scene.pressure, pressure.endTick ≤ count → ∀ now ≤ count,
    (frames now).lifecycle pressure.id .activated =
      (if max pressure.atTick 1 ≤ now then [max pressure.atTick 1] else []) ∧
    (frames now).lifecycle pressure.id .deactivated =
      if pressure.endTick ≤ now then [pressure.endTick] else []) ∧
  ∀ now, 1 ≤ now → now ≤ count → ∀ id, id ∈ (frames now).runtime.pressure.active ↔
    ∃ pressure ∈ scene.pressure, pressure.id = id ∧
      pressure.atTick ≤ now ∧ now < pressure.endTick

section Kept

variable {scene : Sl1Scene} (backend : AgentBackend) (valid : scene.Valid) {count : Nat}
  (reachable : count ≤ u64Max)
include valid reachable

private theorem active_iff {now : Nat} (started : 1 ≤ now) (within : now ≤ count) (id : String) :
    id ∈ (ticks scene backend now).runtime.pressure.active ↔
      ∃ pressure ∈ scene.pressure, pressure.id = id ∧
        pressure.atTick ≤ now ∧ now < pressure.endTick := by
  have inside : (id ∈ (ticks scene backend now).runtime.pressure.active) =
      (((ticks scene backend now).tracker id).inside = true) := by
    simp [Frame.tracker]
  rw [inside]
  by_cases declared : ∃ pressure ∈ scene.pressure, pressure.id = id
  · obtain ⟨pressure, member, rfl⟩ := declared
    rw [ticks_tracker backend valid member (by omega)]
    have open' : (pressure.window.seenBy now).inside = true ↔
        pressure.atTick ≤ now ∧ now < pressure.endTick := by
      rw [Window.seenBy, Bool.and_eq_true, Window.covers_iff, decide_eq_true_eq]
      exact and_iff_right started
    rw [open']
    constructor
    · exact fun covered => ⟨pressure, member, rfl, covered⟩
    · rintro ⟨other, otherMember, same, covered⟩
      exact List.inj_on_of_nodup_map valid.pressureIncreasing.distinct otherMember member same ▸
        covered
  · rw [ticks_tracker_undeclared backend fun pressure member same => declared ⟨pressure, member, same⟩]
    constructor
    · intro impossible
      cases impossible
    · rintro ⟨pressure, member, same, -⟩
      exact absurd ⟨pressure, member, same⟩ declared

private theorem lifecycle_iff {pressure : Sl1Pressure} (member : pressure ∈ scene.pressure)
    (past : pressure.endTick ≤ count) : (∀ now ≤ count,
      (ticks scene backend now).lifecycle pressure.id .activated =
        (if max pressure.atTick 1 ≤ now then [max pressure.atTick 1] else []) ∧
      (ticks scene backend now).lifecycle pressure.id .deactivated =
        if pressure.endTick ≤ now then [pressure.endTick] else []) ↔ pressure.window.Seen := by
  have noted {now : Nat} (within : now ≤ count) :=
    ticks_tracker backend valid member (Nat.le_trans within reachable)
  constructor
  · intro reported
    have exits : (pressure.window.seenBy count).exits = [pressure.endTick] :=
      (congrArg WindowTracker.exits (noted (Nat.le_refl count))).symm.trans
        ((reported count (Nat.le_refl count)).2.trans (if_pos past))
    by_contra unseen
    simp [Window.seenBy, unseen] at exits
  · intro seen now within
    constructor
    · refine (congrArg WindowTracker.entries (noted within)).trans ?_
      simp only [Window.seenBy, seen, true_and]
      rfl
    · refine (congrArg WindowTracker.exits (noted within)).trans ?_
      simp only [Window.seenBy, seen, true_and]
      rfl

end Kept

/-- The pressures of a run keep to their windows exactly when none has a window
that lies within tick 0. -/
theorem windows_kept_iff {raw : RawSl1Scene} {scene : Sl1Scene} (accepted : validate raw = .ok scene)
    (backend : AgentBackend) {count : Nat} (reachable : count ≤ u64Max) :
    WindowsKept scene (ticks scene backend) count ↔
      ∀ pressure ∈ scene.pressure, pressure.endTick ≤ count →
        ¬ (pressure.atTick = 0 ∧ pressure.durationTicks = 1) := by
  have valid := validate_valid accepted
  have pressureValid := validate_pressure accepted
  constructor
  · intro kept pressure member past
    rw [← (pressureValid pressure member).seen_iff]
    exact (lifecycle_iff backend valid reachable member past).mp (kept.1 pressure member past)
  · intro seen
    refine ⟨fun pressure member past => ?_, fun now started within id =>
      active_iff backend valid reachable started within id⟩
    refine (lifecycle_iff backend valid reachable member past).mpr ?_
    exact (pressureValid pressure member).seen_iff.mpr (seen pressure member past)

/-- Two quota cuts on one bucket, the second from tick 1 to tick 3. -/
def quotaScene (atTick durationTicks : UInt64) : RawSl1Scene where
  places := [{
    id := "depot", role := "store", pos := (0, 0)
    capacity := (∅ : IdMap UInt64).insert "crew" 2 }]
  pressure := [
    { id := "audit", kind := "quota_reduction", atTick, durationTicks, target := "depot"
      capacity := some "crew", reductionPercent := some 50 },
    { id := "strike", kind := "quota_reduction", atTick := 1, durationTicks := 2, target := "depot"
      capacity := some "crew", reductionPercent := some 25 }]

theorem windows_kept_quota : ∃ scene, validate (quotaScene 0 2) = .ok scene ∧
    WindowsKept scene (ticks scene defaultBackend) 3 := by
  have evaluated : yields (validate (quotaScene 0 2)) (fun scene => decide
      (∀ pressure ∈ scene.pressure, pressure.endTick ≤ 3 →
        ¬ (pressure.atTick = 0 ∧ pressure.durationTicks = 1))) = true := by decide +kernel
  obtain ⟨scene, accepted, seen⟩ := yields_iff.mp evaluated
  exact ⟨scene, accepted,
    (windows_kept_iff accepted defaultBackend (by decide)).mpr (of_decide_eq_true seen)⟩

/-- A pressure declared for tick 0 alone never becomes active. -/
theorem window_missed : ∃ scene, validate (quotaScene 0 1) = .ok scene ∧
    ¬ WindowsKept scene (ticks scene defaultBackend) 1 := by
  have evaluated : yields (validate (quotaScene 0 1)) (fun scene => scene.pressure.any fun pressure =>
      decide (pressure.endTick ≤ 1) &&
        (ticks scene defaultBackend 1).lifecycle pressure.id .activated == [] &&
        decide (max pressure.atTick 1 ≤ 1)) = true := by decide +kernel
  obtain ⟨scene, accepted, found⟩ := yields_iff.mp evaluated
  obtain ⟨pressure, member, silent⟩ := List.any_eq_true.mp found
  simp only [Bool.and_eq_true, beq_iff_eq, decide_eq_true_eq] at silent
  obtain ⟨⟨past, unreported⟩, due⟩ := silent
  refine ⟨scene, accepted, fun kept => ?_⟩
  have reported := (kept.1 pressure member past 1 (Nat.le_refl 1)).1
  simp [unreported, due] at reported

end Simetro.Sl1
