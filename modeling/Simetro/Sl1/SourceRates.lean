import Simetro.Library.Draws
import Simetro.Sl1.SourceInjections

/-! Every source injects at its rate: what it offered and carries over after any number of
active ticks, and what its slot took. -/

namespace Simetro.Sl1

open Simetro.Library Simetro.Protocol

section Rates

/-- A validated rate is bounded. -/
theorem pressureParams_rate (scope : PressureScope) (kind : Sl1PressureKind) (raw : RawSl1Pressure) :
    Returns (pressureParams scope kind raw) fun params =>
      ∀ thing rate, params = .sourceMultiplier thing rate → rate ≤ maxPressureMultiplierMilli := by
  cases kind with
  | sourceMultiplier =>
    intro params read thing rate source
    simp only [pressureParams, sourceMultiplierParams, bind_eq_ok, reject_eq_ok] at read
    obtain ⟨_, -, _, -, _, -, thing', -, _, -, _, -, _, -, _, -, _, -, _, bounded, same⟩ := read
    cases same
    cases source
    simp only [Bool.or_eq_false_iff, decide_eq_false_iff_not, Nat.not_lt] at bounded
    exact bounded.2
  | _ =>
    repeat first
      | exact Returns.pure (by simp)
      | (apply Returns.bind; intro _)

theorem validatePressure_rate {scope : PressureScope} {raw : RawSl1Pressure} {pressure : Sl1Pressure}
    {thing : String} {rate : Nat} (success : validatePressure scope raw = .ok pressure)
    (source : pressure.params = .sourceMultiplier thing rate) : rate ≤ maxPressureMultiplierMilli := by
  simp only [validatePressure, bind_eq_ok, reject_eq_ok] at success
  obtain ⟨_, -, _, -, _, -, _, -, _, -, kind, -, _, -, params, read, same⟩ := success
  cases same
  exact pressureParams_rate scope kind raw params read thing rate source

theorem validate_rates {raw : RawSl1Scene} {scene : Sl1Scene} (success : validate raw = .ok scene)
    {pressure : Sl1Pressure} (member : pressure ∈ scene.pressure) {thing : String} {rate : Nat}
    (source : pressure.params = .sourceMultiplier thing rate) : rate ≤ maxPressureMultiplierMilli := by
  simp only [validate, bind_eq_ok] at success
  obtain ⟨_, -, things, -, places, -, links, -, transforms, -, demand, -, pressures, pressureRead,
    objectives, -, failures, -, victories, -, observability, -, agents, -, milestones, -, same⟩ :=
    success
  cases same
  obtain ⟨_, -, read⟩ := (catalog_sound pressureRead).readFrom member
  exact validatePressure_rate read source

end Rates

/-- Every stock fits its counter. -/
def Sl1RuntimeState.Counted (runtime : Sl1RuntimeState) : Prop :=
  ∀ place thing, runtime.stock place thing ≤ u64Max

/-- Now, and before each change on the ledger. -/
structure Frame.Counted (frame : Frame) : Prop where
  now : frame.runtime.Counted
  entries : ∀ entry ∈ frame.ledger, entry.before.Counted

namespace Frame.Counted

variable {frame other : Frame} (counted : frame.Counted)
include counted

theorem perform (tick : Nat) (op : LedgerOp) {change : Sl1RuntimeState → Sl1RuntimeState}
    (after : (change frame.runtime).Counted) : (frame.perform tick op change).Counted := by
  refine ⟨after, fun entry listed => ?_⟩
  rcases List.mem_append.mp listed with earlier | new
  · exact counted.entries entry earlier
  · rw [List.mem_singleton.mp new]
    exact counted.now

theorem of_flow (same : other.flow = frame.flow) : other.Counted := by
  have inventories : other.runtime.inventories = frame.runtime.inventories :=
    congrArg Flow.inventories same
  have ledger : other.ledger = frame.ledger := congrArg Flow.ledger same
  constructor
  · intro place thing
    unfold Sl1RuntimeState.stock
    rw [inventories]
    exact counted.now place thing
  · exact ledger ▸ counted.entries

end Frame.Counted

namespace Transforms

variable {transform : Sl1Transform} {caps : PassCaps} {now : Nat} {frame last : Frame}
  {state next : Sl1TransformState}

theorem begun_counted (counted : frame.Counted) : (begun transform now frame).Counted := by
  refine counted.perform now (.start transform.id) fun place thing => ?_
  rw [commitStart_stock]
  exact (Nat.sub_le _ _).trans (counted.now place thing)

theorem aborted_counted (counted : frame.Counted) : (aborted transform now frame).Counted :=
  counted.perform now (.abort transform.id) counted.now

theorem completed_counted (counted : frame.Counted) : (completed transform now frame).Counted := by
  refine counted.perform now (.complete transform.id) fun place thing => ?_
  have moved := frame.runtime.updateSlots_stock transform.runsOn place thing fun slots =>
    deposit u64Max slots transform.outputRows
  have landed : (completeRun transform now frame.runtime).stock place thing = _ := moved
  rw [landed]
  split
  · rename_i here
    subst here
    rw [deposit_getD_min _ _ _ (counted.now transform.runsOn thing)]
    exact Nat.min_le_right _ _
  · exact counted.now place thing

theorem Advanced.counted (advanced : Advanced transform caps now frame state next last)
    (counted : frame.Counted) : last.Counted := by
  cases advanced with
  | kept => exact counted
  | overdue | overdueFailed | exhausted => exact ⟨counted.now, counted.entries⟩
  | started => exact begun_counted counted
  | completed => exact completed_counted counted
  | breached | breachedFailed =>
    have back : (aborted transform now frame).Counted := aborted_counted counted
    exact ⟨back.now, back.entries⟩

theorem Served.counted (served : Served transform caps now frame state next last)
    (counted : frame.Counted) : last.Counted := by
  cases served with
  | quiet => exact counted
  | missed | starved | blocked => exact ⟨counted.now, counted.entries⟩
  | started => exact begun_counted counted

theorem runTransforms_counted (scene : Sl1Scene) (now : Nat) (counted : frame.Counted) :
    (runTransforms scene now frame).Counted := by
  refine runTransforms_rule (motive := Frame.Counted) counted fun frame transform _ counted => ?_
  obtain ⟨_, _, middle, last, advanced, served, same⟩ :=
    processOne_cases transform scene.passCaps now frame
  have after := served.counted (advanced.counted counted)
  exact same ▸ ⟨after.now, after.entries⟩

end Transforms

theorem Pressure.run_counted (scene : Sl1Scene) (now : Nat) {frame : Frame} (counted : frame.Counted) :
    (run scene now frame).Counted := by
  refine run_rule (motive := Frame.Counted) counted
    (counted.of_flow (Frame.flow_of_core (overlaid_core scene now frame))) ?_
  intro frame injection counted
  have kept : (frame.modify injection.keepCarry).Counted := ⟨counted.now, counted.entries⟩
  refine injectSource_rule (motive := Frame.Counted) kept (kept.perform now _ fun place thing => ?_)
  rw [SourceInjection.land_stock]
  split
  · exact Nat.min_le_right _ _
  · exact kept.now place thing

/-- The ticks so far in which the pressure was active. -/
def activeTicks (scene : Sl1Scene) (backend : AgentBackend) (id : String) (count : Nat) : Nat :=
  (List.range count).countP fun earlier =>
    (ticks scene backend (earlier + 1)).runtime.pressure.active.contains id

theorem activeTicks_succ (scene : Sl1Scene) (backend : AgentBackend) (id : String) (count : Nat) :
    activeTicks scene backend id (count + 1) = activeTicks scene backend id count +
      if (ticks scene backend (count + 1)).runtime.pressure.active.contains id then 1 else 0 := by
  simp [activeTicks, List.range_succ]

/-- A source after a number of active ticks. -/
structure Metered (scene : Sl1Scene) (pressure : Sl1Pressure) (thing : String) (rate : Nat)
    (frame : Frame) (turns : Nat) : Prop where
  offered : ((frame.injections pressure.id).map (·.offered)).sum = (Meter.after 1000 rate turns).released
  carried : frame.runtime.pressure.active.contains pressure.id = true →
    frame.runtime.injectCarry pressure.id pressure.target thing =
      some (Meter.after 1000 rate turns).carried
  idle : frame.runtime.pressure.active.contains pressure.id = false →
    frame.runtime.injectCarry pressure.id = fun _ _ => none
  own : ∀ place other, frame.runtime.injectCarry pressure.id place other ≠ none →
    place = pressure.target ∧ other = thing
  sound : ∀ entry ∈ frame.injections pressure.id, Pressure.Injects scene.storageCaps
    ⟨pressure.id, pressure.target, thing, rate⟩ entry

namespace Metered

variable {scene : Sl1Scene} {pressure : Sl1Pressure} {thing : String} {rate turns now : Nat}
  {frame other : Frame}

theorem of_source (metered : Metered scene pressure thing rate frame turns)
    (active : other.runtime.pressure.active.contains pressure.id =
      frame.runtime.pressure.active.contains pressure.id)
    (same : other.source pressure.id = frame.source pressure.id) :
    Metered scene pressure thing rate other turns := by
  have carry : other.runtime.injectCarry pressure.id = frame.runtime.injectCarry pressure.id :=
    congrArg SourceView.carry same
  have entries : other.injections pressure.id = frame.injections pressure.id :=
    congrArg SourceView.injections same
  constructor
  · exact entries ▸ metered.offered
  · rw [active, carry]
    exact metered.carried
  · rw [active, carry]
    exact metered.idle
  · rw [carry]
    exact metered.own
  · exact entries ▸ metered.sound

theorem load : Metered scene pressure thing rate (Frame.load scene) 0 := by
  have none (place other : String) :
      (Frame.load scene).runtime.injectCarry pressure.id place other = none := rfl
  refine ⟨by rw [Meter.after_zero]; rfl, ?_, fun _ => rfl,
    fun place other held => absurd (none place other) held, ?_⟩
  · intro active
    cases active
  · intro entry listed
    cases listed

variable (metered : Metered scene pressure thing rate frame turns)
include metered

theorem carry_getD (started : frame.runtime.pressure.active.contains pressure.id = false → turns = 0) :
    (frame.runtime.injectCarry pressure.id pressure.target thing).getD 0 =
      (Meter.after 1000 rate turns).carried := by
  cases active : frame.runtime.pressure.active.contains pressure.id with
  | true =>
    rw [metered.carried active]
    rfl
  | false =>
    rw [metered.idle active, started active, Meter.after_zero]
    rfl

/-- The pressure pass turns the meter of an active source. -/
theorem turn (valid : scene.Valid) (member : pressure ∈ scene.pressure)
    (source : pressure.params = .sourceMultiplier thing rate) (bounded : rate ≤ maxPressureMultiplierMilli)
    (started : frame.runtime.pressure.active.contains pressure.id = false → turns = 0)
    (active : (Pressure.run scene now frame).runtime.pressure.active.contains pressure.id = true) :
    Metered scene pressure thing rate (Pressure.run scene now frame) (turns + 1) ∧
      ∃ booked, (Pressure.run scene now frame).injections pressure.id =
        frame.injections pressure.id ++ booked ∧ booked.length ≤ 1 ∧
        ∀ entry ∈ booked, entry.tick = now := by
  have small := Meter.carried_after_lt 1000 rate (by decide) turns
  have held := metered.carry_getD started
  obtain ⟨booked, after, few, total, sound⟩ := Pressure.run_injects valid member source active (by
    rw [held]
    unfold maxPressureMultiplierMilli at bounded
    unfold u64Max
    omega)
  have step := Meter.turn_after 1000 rate (by decide) turns
  have carry : (Pressure.run scene now frame).runtime.injectCarry pressure.id = _ :=
    congrArg SourceView.carry after
  have entries : (Pressure.run scene now frame).injections pressure.id = _ :=
    congrArg SourceView.injections after
  rw [held] at carry total
  refine ⟨⟨?_, ?_, ?_, ?_, ?_⟩, booked, entries, few, fun entry listed => (sound entry listed).1⟩
  · rw [entries, List.map_append, List.sum_append, metered.offered, total, ← step]
    rfl
  · intro _
    rw [carry, ← step]
    exact if_pos ⟨rfl, rfl⟩
  · intro inactive
    rw [active] at inactive
    cases inactive
  · intro place other
    rw [carry]
    by_cases here : place = pressure.target ∧ other = thing
    · exact fun _ => here
    · intro kept
      simp only [here, if_false] at kept
      exact metered.own place other kept
  · intro entry listed
    rw [entries] at listed
    rcases List.mem_append.mp listed with earlier | new
    · exact metered.sound entry earlier
    · exact (sound entry new).2

/-- A source that is not active injects and carries nothing. -/
theorem rest (inactive : (Pressure.run scene now frame).runtime.pressure.active.contains pressure.id = false) :
    Metered scene pressure thing rate (Pressure.run scene now frame) turns ∧
      (Pressure.run scene now frame).injections pressure.id = frame.injections pressure.id := by
  have after := Pressure.run_source_of_inactive metered.idle inactive
  have carry : (Pressure.run scene now frame).runtime.injectCarry pressure.id = fun _ _ => none :=
    congrArg SourceView.carry after
  have entries : (Pressure.run scene now frame).injections pressure.id =
      frame.injections pressure.id := congrArg SourceView.injections after
  refine ⟨⟨entries ▸ metered.offered, ?_, fun _ => carry, ?_, entries ▸ metered.sound⟩, entries⟩
  · intro active
    rw [inactive] at active
    cases active
  · intro place other held
    rw [carry] at held
    exact absurd rfl held

end Metered

section Run

variable {scene : Sl1Scene} (valid : scene.Valid) (backend : AgentBackend)
include valid

theorem ticks_counted (count : Nat) : (ticks scene backend count).Counted := by
  induction count with
  | zero =>
    refine ⟨fun id thing => ?_, by simp [ticks, Frame.load]⟩
    change (Sl1RuntimeState.fromScene scene).stock id thing ≤ u64Max
    by_cases declared : ∃ place ∈ scene.places, place.id = id
    · obtain ⟨place, member, rfl⟩ := declared
      rw [Sl1RuntimeState.fromScene_stock valid member]
      exact ((valid.places place member).initial_le thing).trans
        ((valid.places place member).capacity_le thing)
    · have absent : ∀ place ∈ scene.places, place.id ≠ id := fun place member same =>
        declared ⟨place, member, same⟩
      rw [Sl1RuntimeState.fromScene_stock_undeclared absent]
      exact Nat.zero_le _
  | succ count ih =>
    have pressed := Pressure.run_counted scene (worldTick (count + 1)) ih
    have moved : (moveStock scene (worldTick (count + 1)) (ticks scene backend count)).Counted := by
      have aged := pressed.of_flow
        (Frame.flow_of_core (Transforms.ageFreshness_core scene (worldTick (count + 1)) _))
      rw [moveStock_eq]
      exact Transforms.runTransforms_counted scene _ aged
    exact moved.of_flow (run_flow scene backend _ _)

variable {pressure : Sl1Pressure} (member : pressure ∈ scene.pressure)
include member

private theorem active_iff_open (count : Nat) :
    (ticks scene backend count).runtime.pressure.active.contains pressure.id = true ↔
      1 ≤ worldTick count ∧ pressure.atTick ≤ worldTick count ∧ worldTick count < pressure.endTick := by
  have inside := congrArg WindowTracker.inside (ticks_tracker_clock backend valid member count)
  change (ticks scene backend count).runtime.pressure.active.contains pressure.id = _ at inside
  rw [inside, Window.seenBy, Bool.and_eq_true, Window.covers_iff, decide_eq_true_eq]
  rfl

/-- A pressure that starts has never been active before. -/
theorem activeTicks_eq_zero {count : Nat}
    (off : (ticks scene backend count).runtime.pressure.active.contains pressure.id = false)
    (on : (ticks scene backend (count + 1)).runtime.pressure.active.contains pressure.id = true) :
    activeTicks scene backend pressure.id count = 0 := by
  unfold activeTicks
  rw [List.countP_eq_zero]
  intro earlier listed
  have before : earlier < count := List.mem_range.mp listed
  rw [active_iff_open valid backend member]
  intro opened
  have still : (ticks scene backend count).runtime.pressure.active.contains pressure.id = true := by
    rw [active_iff_open valid backend member] at on ⊢
    have sooner : worldTick (earlier + 1) ≤ worldTick count := by
      rw [worldTick_eq, worldTick_eq]
      omega
    have later : worldTick count ≤ worldTick (count + 1) := by
      rw [worldTick_eq, worldTick_eq]
      omega
    omega
  rw [off] at still
  cases still

variable {thing : String} {rate : Nat} (source : pressure.params = .sourceMultiplier thing rate)
  (bounded : rate ≤ maxPressureMultiplierMilli)
include source bounded

/-- A tick turns the meter of an active source and leaves the others' alone. -/
theorem tick_metered {count : Nat} (metered : Metered scene pressure thing rate (ticks scene backend count)
      (activeTicks scene backend pressure.id count)) :
    Metered scene pressure thing rate (ticks scene backend (count + 1))
        (activeTicks scene backend pressure.id (count + 1)) ∧
      ∃ booked, (ticks scene backend (count + 1)).injections pressure.id =
        (ticks scene backend count).injections pressure.id ++ booked ∧ booked.length ≤ 1 ∧
        (∀ entry ∈ booked, entry.tick = worldTick (count + 1)) ∧
        ((ticks scene backend (count + 1)).runtime.pressure.active.contains pressure.id = false →
          booked = []) := by
  have same := run_source scene backend (worldTick (count + 1)) (ticks scene backend count) pressure.id
  have pressures : (ticks scene backend (count + 1)).runtime.pressure =
      (Pressure.run scene (worldTick (count + 1)) (ticks scene backend count)).runtime.pressure :=
    congrArg Overlays.pressure (run_overlays scene backend _ _)
  have actives : (ticks scene backend (count + 1)).runtime.pressure.active.contains pressure.id =
      (Pressure.run scene (worldTick (count + 1))
        (ticks scene backend count)).runtime.pressure.active.contains pressure.id := by
    rw [pressures]
  have entries : (ticks scene backend (count + 1)).injections pressure.id =
      (Pressure.run scene (worldTick (count + 1)) (ticks scene backend count)).injections pressure.id :=
    congrArg SourceView.injections same
  rw [activeTicks_succ, entries]
  cases active : (ticks scene backend (count + 1)).runtime.pressure.active.contains pressure.id with
  | true =>
    obtain ⟨turned, booked, added, few, dated⟩ := metered.turn valid member source bounded
      (fun off => activeTicks_eq_zero valid backend member off active) (actives.symm.trans active)
    refine ⟨turned.of_source actives same, booked, added, few, dated, fun off => ?_⟩
    cases off
  | false =>
    obtain ⟨rested, kept⟩ := metered.rest (actives.symm.trans active)
    refine ⟨rested.of_source actives same, [], ?_, by simp, by simp, fun _ => rfl⟩
    rw [kept, List.append_nil]

theorem ticks_metered (count : Nat) : Metered scene pressure thing rate (ticks scene backend count)
    (activeTicks scene backend pressure.id count) := by
  induction count with
  | zero => exact Metered.load
  | succ count ih => exact (tick_metered valid backend member source bounded ih).1

end Run

/-- No carry outlives its pressure. -/
theorem ticks_carry_of_inactive (scene : Sl1Scene) (backend : AgentBackend) (count : Nat) (id : String)
    (inactive : (ticks scene backend count).runtime.pressure.active.contains id = false) :
    (ticks scene backend count).runtime.injectCarry id = fun _ _ => none := by
  induction count with
  | zero => rfl
  | succ count ih =>
    have same := congrArg SourceView.carry
      (run_source scene backend (worldTick (count + 1)) (ticks scene backend count) id)
    have pressures : (ticks scene backend (count + 1)).runtime.pressure =
        (Pressure.run scene (worldTick (count + 1)) (ticks scene backend count)).runtime.pressure :=
      congrArg Overlays.pressure (run_overlays scene backend _ _)
    rw [pressures] at inactive
    exact same.trans (congrArg SourceView.carry (Pressure.run_source_of_inactive ih inactive))

/-- After its active ticks so far a source has offered its rate in whole units and carries the
fraction, whatever else injects into its slot; each injection lands what room there is, no unit is
offered twice, and nothing is carried for a pressure that is not active. -/
theorem sources_metered {raw : RawSl1Scene} {scene : Sl1Scene} (accepted : validate raw = .ok scene)
    (backend : AgentBackend) {pressure : Sl1Pressure} (member : pressure ∈ scene.pressure)
    {thing : String} {rate : Nat} (source : pressure.params = .sourceMultiplier thing rate) (count : Nat) :
    let run := ticks scene backend count
    let turns := activeTicks scene backend pressure.id count
    ((run.injections pressure.id).map (·.offered)).sum = turns * rate / 1000 ∧
    (run.runtime.pressure.active.contains pressure.id = true →
      run.runtime.injectCarry pressure.id pressure.target thing = some (turns * rate % 1000)) ∧
    (∀ place other, run.runtime.injectCarry pressure.id place other ≠ none →
      place = pressure.target ∧ other = thing) ∧
    (∃ booked, (ticks scene backend (count + 1)).injections pressure.id =
        run.injections pressure.id ++ booked ∧ booked.length ≤ 1 ∧
      (∀ entry ∈ booked, entry.tick = worldTick (count + 1)) ∧
      ((ticks scene backend (count + 1)).runtime.pressure.active.contains pressure.id = false →
        booked = [])) ∧
    (∀ entry ∈ run.injections pressure.id,
      entry.after.stock pressure.target thing = entry.before.stock pressure.target thing +
        min entry.offered (scene.storageCaps.getD (pressure.target, thing) 0 -
          entry.before.stock pressure.target thing) ∧
      ∀ place other, (pressure.target, thing) ≠ (place, other) →
        entry.after.stock place other = entry.before.stock place other) ∧
    ∀ id, run.runtime.pressure.active.contains id = false →
      ∀ place other, run.runtime.injectCarry id place other = none := by
  intro run turns
  have valid := validate_valid accepted
  have bounded := validate_rates accepted member source
  have metered := ticks_metered valid backend member source bounded count
  have counted := ticks_counted valid backend count
  refine ⟨metered.offered, metered.carried, metered.own,
    (tick_metered valid backend member source bounded metered).2, ?_, ?_⟩
  · intro entry listed
    have injects := metered.sound entry listed
    have fits := counted.entries entry (List.mem_filter.mp listed).1 pressure.target thing
    have room : scene.storageCaps.getD (pressure.target, thing) 0 ≤ u64Max :=
      room_le valid (pressure.target, thing)
    rw [injects.lands]
    constructor
    · rw [Pressure.SourceInjection.land_stock, if_pos rfl]
      refine saturatingAdd_of_le ?_
      simp only
      omega
    · intro place other apart
      rw [Pressure.SourceInjection.land_stock, if_neg apart]
  · intro id inactive place other
    rw [ticks_carry_of_inactive scene backend count id inactive]

/-- A source of two and a half units a tick. -/
def drippingScene : RawSl1Scene :=
  { lapsingScene with pressure := [{
      id := "drip", kind := "source_multiplier", atTick := 1, durationTicks := 4, target := "shop"
      thing := some "ore", multiplier := some 2.5 }] }

theorem sources_metered_dripping : ∃ scene, validate drippingScene = .ok scene ∧
    ∃ pressure ∈ scene.pressure,
      (((ticks scene defaultBackend 3).injections pressure.id).map (·.offered)).sum = 7 ∧
      (ticks scene defaultBackend 3).runtime.injectCarry pressure.id pressure.target "ore" =
        some 500 := by
  have evaluated : yields (validate drippingScene) (fun scene => scene.pressure.any fun pressure =>
      pressure.params == .sourceMultiplier "ore" 2500 &&
        (activeTicks scene defaultBackend pressure.id 3 == 3 &&
          (ticks scene defaultBackend 3).runtime.pressure.active.contains pressure.id)) = true := by
    decide +kernel
  obtain ⟨scene, accepted, found⟩ := yields_iff.mp evaluated
  obtain ⟨pressure, member, facts⟩ := List.any_eq_true.mp found
  simp only [Bool.and_eq_true, beq_iff_eq] at facts
  obtain ⟨source, turns, active⟩ := facts
  obtain ⟨offered, carried, -⟩ := sources_metered accepted defaultBackend member source 3
  rw [turns] at offered carried
  exact ⟨scene, accepted, pressure, member, offered, carried active⟩

end Simetro.Sl1
