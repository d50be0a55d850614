import Simetro.Sl1.PressureWindows
import Simetro.Sl1.RuntimeRecords
import Simetro.Sl1.UnfedSections

/-! The runtime part of the hash tells the runtime states of a tick apart. What is fed is
read back, what is not fed for want of a declaration is as it was loaded, and the
pressures, never fed, are the same in every run of the scene. -/

namespace Simetro.Sl1

open Simetro.Library Simetro.Protocol

namespace Pressure

/-- The pressures of the frames agree. -/
def SamePressure (first second : Frame) : Prop := first.runtime.pressure = second.runtime.pressure

theorem warnUnsupported_same {first second : Frame} (now : Nat) (pressure : Sl1Pressure)
    (same : SamePressure first second) :
    SamePressure (warnUnsupported now first pressure) (warnUnsupported now second pressure) := by
  unfold SamePressure at same ⊢
  unfold warnUnsupported
  rw [same]
  split
  · exact same
  · simp [same]

section Step

variable {first second : Frame} (scene : Sl1Scene) (now : Nat)
  (same : SamePressure first second)
include same

theorem deactivate_same (id : String) :
    SamePressure (deactivate scene now first id) (deactivate scene now second id) := by
  unfold SamePressure at same ⊢
  unfold deactivate
  cases pressureDef scene id <;> simp [same]

theorem activate_same (pressure : Sl1Pressure) :
    SamePressure (activate now first pressure) (activate now second pressure) := by
  unfold activate
  rw [show first.runtime.pressure = second.runtime.pressure from same]
  split
  · apply warnUnsupported_same
    unfold SamePressure at same ⊢
    simp [same]
  · exact same

theorem injectSource_same (caps : PairMap Nat) (injection : SourceInjection) :
    SamePressure (injectSource caps now first injection) (injectSource caps now second injection) := by
  have kept (frame : Frame) : (injectSource caps now frame injection).runtime.pressure =
      (injection.keepCarry frame.runtime).pressure :=
    injectSource_rule (motive := fun after =>
      after.runtime.pressure = (injection.keepCarry frame.runtime).pressure) rfl rfl
  unfold SamePressure at same ⊢
  rw [kept, kept]
  simp only [SourceInjection.keepCarry, SourceInjection.milli, same]

/-- What the pressure pass makes of the pressures depends on nothing else. -/
theorem run_same : SamePressure (run scene now first) (run scene now second) := by
  have due : toDeactivate scene first.runtime now = toDeactivate scene second.runtime now := by
    simp only [toDeactivate, show first.runtime.pressure = second.runtime.pressure from same]
  rw [run_eq, run_eq]
  split
  · exact same
  · have deactivated := List.foldl_rel same
      fun id (_ : id ∈ toDeactivate scene second.runtime now) _ _ same =>
        deactivate_same scene now same id
    have activated := List.foldl_rel deactivated
      fun pressure (_ : pressure ∈ scene.pressure) _ _ same => activate_same now same pressure
    have overlaid : SamePressure (overlaid scene now first) (overlaid scene now second) := by
      unfold Pressure.overlaid
      rw [due]
      unfold SamePressure at activated ⊢
      simp only [Frame.modify_runtime, rebuildOverlays, activePressures, activated]
    have injections : activeInjections scene (Pressure.overlaid scene now first).runtime =
        activeInjections scene (Pressure.overlaid scene now second).runtime := by
      unfold SamePressure at overlaid
      simp only [activeInjections, activePressures, overlaid]
    unfold applySourceInjection
    rw [injections]
    exact List.foldl_rel overlaid fun injection _ _ _ same =>
      injectSource_same now same scene.storageCaps injection

end Step

/-- Pressures of which none is active have no overlays. -/
theorem activePressures_nil {scene : Sl1Scene} {runtime : Sl1RuntimeState}
    (inactive : ∀ pressure ∈ scene.pressure, pressure.id ∉ runtime.pressure.active) :
    activePressures scene runtime = [] := by
  refine List.filter_eq_nil_iff.mpr fun pressure member => ?_
  simpa using inactive pressure member

section Settled

variable {scene : Sl1Scene} (valid : scene.Valid) {now : Nat}
  (past : ∀ pressure ∈ scene.pressure, pressure.endTick ≤ now)
include past

theorem overlaid_inactive (valid : scene.Valid) (frame : Frame) : ∀ pressure ∈ scene.pressure,
    pressure.id ∉ (overlaid scene now frame).runtime.pressure.active := by
  intro pressure member active
  have visited : (overlaid scene now frame).tracker pressure.id =
      pressure.window.visit now (frame.tracker pressure.id) :=
    (activated_tracker valid member).trans
      (congrArg (pressure.window.enter now) (deactivated_tracker valid member))
  have inside : ((overlaid scene now frame).tracker pressure.id).inside = true :=
    Std.ExtTreeMap.contains_iff_mem.mpr active
  rw [visited, pressure.window.visit_past (past pressure member)] at inside
  cases inside

theorem run_overlaid (valid : scene.Valid) (frame : Frame) :
    run scene now frame = if scene.pressure.isEmpty then frame else overlaid scene now frame := by
  rw [run_eq, applySourceInjection, activeInjections,
    activePressures_nil (overlaid_inactive past valid frame)]
  rfl

/-- Once every window is over, visiting the pressures again changes nothing. -/
theorem run_settled (valid : scene.Valid) (frame : Frame) :
    SamePressure (run scene now (run scene now frame)) (run scene now frame) := by
  rw [run_overlaid past valid, run_overlaid past valid]
  split
  · rfl
  · have inactive := overlaid_inactive past valid frame
    have ended : toDeactivate scene (overlaid scene now frame).runtime now = [] := by
      refine List.filter_eq_nil_iff.mpr fun id active => ?_
      cases declared : pressureDef scene id with
      | none => simp
      | some pressure =>
        have named : pressure.id = id := by simpa using List.find?_some declared
        have member := List.mem_of_find?_eq_some declared
        rw [Std.ExtTreeMap.mem_keys, ← named] at active
        exact absurd active (inactive pressure member)
    have shut (frame : Frame) : scene.pressure.foldl (activate now) frame = frame := by
      refine foldl_keeps id (fun frame pressure member => ?_) frame
      have ended := past pressure member
      exact if_neg fun opens => by omega
    have silent := activePressures_nil inactive
    unfold SamePressure
    rw [overlaid, ended, List.foldl_nil, shut]
    simp only [Frame.modify_runtime, rebuildOverlays, silent]
    simp only [overlaid, Frame.modify_runtime, shut] at silent ⊢
    -- the overlays were rebuilt from the same active pressures
    change activePressures scene (List.foldl (deactivate scene now) frame _).runtime = [] at silent
    simp only [rebuildOverlays, silent]

end Settled

end Pressure

section Runs

variable {scene : Sl1Scene}

/-- In a tick only the pressure pass touches the pressures. -/
theorem run_pressure (backend : AgentBackend) (now : Nat) (frame : Frame) :
    Pressure.SamePressure (run scene backend now frame) (Pressure.run scene now frame) :=
  congrArg Overlays.pressure (run_overlays scene backend now frame)

/-- The agents have no say in the pressures. -/
theorem ticks_pressure (backend backend' : AgentBackend) (count : Nat) :
    Pressure.SamePressure (ticks scene backend count) (ticks scene backend' count) := by
  induction count with
  | zero => rfl
  | succ count ih =>
    exact (run_pressure backend _ _).trans
      ((Pressure.run_same scene _ ih).trans (run_pressure backend' _ _).symm)

/-- Where the clock stands still every window is over, and the pressures stand still too. -/
theorem ticks_pressure_saturated (valid : scene.Valid) (backend : AgentBackend) {count : Nat}
    (saturated : u64Max ≤ count) :
    Pressure.SamePressure (ticks scene backend (count + 1)) (ticks scene backend count) := by
  have past : ∀ pressure ∈ scene.pressure, pressure.endTick ≤ u64Max :=
    fun pressure _ => Nat.min_le_right _ _
  cases count with
  | zero => exact absurd saturated (by decide)
  | succ count =>
    have now : worldTick (count + 1) = u64Max := by
      rw [worldTick_eq]
      omega
    have next : worldTick (count + 1 + 1) = u64Max := by
      rw [worldTick_eq]
      omega
    have reached : Pressure.SamePressure (run scene backend u64Max (ticks scene backend count)) _ :=
      run_pressure backend u64Max (ticks scene backend count)
    simp only [ticks, now, next]
    exact ((run_pressure backend u64Max _).trans (Pressure.run_same scene u64Max reached)).trans
      ((Pressure.run_settled past valid _).trans reached.symm)

/-- At one tick all runs of a scene have the same pressures. -/
theorem pressure_of_together (valid : scene.Valid) (backend backend' : AgentBackend)
    {count count' : Nat} (together : worldTick count = worldTick count') :
    Pressure.SamePressure (ticks scene backend count) (ticks scene backend' count') := by
  have standing (backend : AgentBackend) (more : Nat) : Pressure.SamePressure
      (ticks scene backend (u64Max + more)) (ticks scene backend' u64Max) := by
    induction more with
    | zero => exact ticks_pressure backend backend' u64Max
    | succ more ih => exact (ticks_pressure_saturated valid backend (Nat.le_add_right _ _)).trans ih
  rw [worldTick_eq, worldTick_eq] at together
  by_cases saturated : u64Max ≤ count ∧ u64Max ≤ count'
  · obtain ⟨more, rfl⟩ := Nat.exists_eq_add_of_le saturated.1
    obtain ⟨more', rfl⟩ := Nat.exists_eq_add_of_le saturated.2
    exact (standing backend more).trans (standing backend' more').symm
  · obtain rfl : count = count' := by omega
    exact ticks_pressure backend backend' count

end Runs

/-- `world.tick`, `count` ticks after `tick`. -/
def tickAfter (tick : Nat) : Nat → Nat
  | 0 => tick
  | count + 1 => saturatingAdd u64Max (tickAfter tick count) 1

/-- The frame `count` ticks after `tick`, from the runtime then and empty buffers. -/
def resumed (scene : Sl1Scene) (backend : AgentBackend) (tick : Nat) (runtime : Sl1RuntimeState) :
    Nat → Frame
  | 0 => ⟨runtime, [], [], [], [], []⟩
  | count + 1 =>
      run scene backend (tickAfter tick (count + 1)) (resumed scene backend tick runtime count)

/-- A run from a fresh load is one resumed at tick 0. -/
theorem resumed_load (scene : Sl1Scene) (backend : AgentBackend) (count : Nat) :
    resumed scene backend 0 (.fromScene scene) count = ticks scene backend count := by
  have clock (count : Nat) : tickAfter 0 count = worldTick count := by
    induction count with
    | zero => rfl
    | succ count ih => rw [tickAfter, ih, worldTick]
  induction count with
  | zero => rfl
  | succ count ih => rw [resumed, ih, clock, ticks]

namespace Dormant

variable {scene : Sl1Scene} {runtime : Sl1RuntimeState} (dormant : Dormant scene runtime)
include dormant

theorem stock (empty : scene.things.isEmpty) : (runtime.inventories, runtime.freshness) =
    ((Sl1RuntimeState.fromScene scene).inventories, (Sl1RuntimeState.fromScene scene).freshness) :=
  Prod.ext (dormant.inventories empty) (dormant.freshness empty)

theorem work (empty : scene.transforms.isEmpty) :
    (runtime.transforms, runtime.placeCapacityUsed, runtime.pendingOutputs) =
      (∅, (Sl1RuntimeState.fromScene scene).placeCapacityUsed, ∅) :=
  Prod.ext (dormant.transforms empty)
    (Prod.ext (dormant.placeCapacityUsed empty) (dormant.pendingOutputs empty))

theorem verdicts (empty : scene.objectives.isEmpty) :
    (runtime.objectives, runtime.unsupportedObjectivesWarned) = (∅, ∅) :=
  Prod.ext (dormant.objectives empty) (dormant.warned empty)

theorem undecided (empty : (scene.objectives.isEmpty && scene.failureConditions.isEmpty &&
    scene.victoryConditions.isEmpty) = true) :
    (runtime.gameOutcome, runtime.gamePhase) = (.inProgress, .stabilizing) := by
  simp only [Bool.and_eq_true] at empty
  obtain ⟨⟨objectives, failures⟩, victories⟩ := empty
  rw [dormant.outcome objectives failures victories, dormant.phase objectives failures victories]

theorem idle (empty : scene.agents.isEmpty) :
    (runtime.agents, runtime.agentDemandPauses) = (∅, ∅) :=
  Prod.ext (dormant.agents empty) (dormant.pauses empty)

end Dormant

namespace StateHash

open Chunk

/-- A part of two runtimes agrees if it does where it is fed, and is as loaded elsewhere. -/
theorem part_eq {Part : Type} {empty : Bool} {first second load : Part}
    (fed : (if !empty then some first else none) = if !empty then some second else none)
    (unfed : empty = true → first = load) (unfed' : empty = true → second = load) :
    first = second := by
  cases empty with
  | true => exact (unfed rfl).trans (unfed' rfl).symm
  | false => simpa using fed

/-- Equal runtime parts of the hash, of runtimes whose unfed parts agree. -/
theorem feedRuntime_determines {scene : Sl1Scene} {first second : Sl1RuntimeState}
    (dormant : Dormant scene first) (dormant' : Dormant scene second)
    (pressure : first.pressure = second.pressure)
    (agree : Agree (feedRuntime scene first) (feedRuntime scene second) [] []) :
    first = second := by
  simp only [feedRuntime, Chunk.append_assoc] at agree
  obtain ⟨stock, agree⟩ := (gated_reads feedThingsRuntime_reads _).next agree
  obtain ⟨transforms, agree⟩ := (gated_reads feedTransformsRuntime_reads _).next agree
  obtain ⟨demand, agree⟩ := (gated_reads
    (labelledEntries_reads feedDemandRuntime_reads _ Sl1RuntimeState.demand) _).next agree
  obtain ⟨objectives, agree⟩ := (gated_reads feedObjectivesRuntime_reads _).next agree
  obtain ⟨failures, agree⟩ := (gated_reads (labelledEntries_reads feedFailureConditionRuntime_reads
    _ Sl1RuntimeState.failureConditions) _).next agree
  obtain ⟨victories, agree⟩ := (gated_reads (labelledEntries_reads feedVictoryConditionRuntime_reads
    _ Sl1RuntimeState.victoryConditions) _).next agree
  obtain ⟨outcome, agree⟩ := (gated_reads feedOutcome_reads _).next agree
  obtain ⟨observed, agree⟩ := (feedObservabilityRuntime_reads scene.observability).next agree
  obtain ⟨agents, agree⟩ := (gated_reads feedAgentsRuntime_reads _).next agree
  obtain ⟨milestones, -⟩ := (gated_reads
    (labelledEntries_reads feedMilestoneRuntime_reads _ Sl1RuntimeState.milestones) _).read agree
  simp only [Prod.mk.injEq] at observed
  obtain ⟨metrics, dashboards, alerts⟩ := observed
  simp only [← Bool.not_and] at outcome
  obtain ⟨inventories, freshness⟩ := Prod.mk.inj (part_eq stock dormant.stock dormant'.stock)
  obtain ⟨states, claims⟩ := Prod.mk.inj (part_eq transforms dormant.work dormant'.work)
  obtain ⟨used, pending⟩ := Prod.mk.inj claims
  obtain ⟨verdicts, warned⟩ :=
    Prod.mk.inj (part_eq objectives dormant.verdicts dormant'.verdicts)
  obtain ⟨outcomes, phases⟩ :=
    Prod.mk.inj (part_eq outcome dormant.undecided dormant'.undecided)
  obtain ⟨decisions, pauses⟩ := Prod.mk.inj (part_eq agents dormant.idle dormant'.idle)
  have queues := part_eq demand dormant.demand dormant'.demand
  have streaks := part_eq failures dormant.failureConditions dormant'.failureConditions
  have met := part_eq victories dormant.victoryConditions dormant'.victoryConditions
  have values := part_eq metrics dormant.metrics dormant'.metrics
  have boards := part_eq dashboards dormant.dashboards dormant'.dashboards
  have firing := part_eq alerts dormant.alerts dormant'.alerts
  have fired := part_eq milestones dormant.milestones dormant'.milestones
  cases first
  cases second
  simp only [Sl1RuntimeState.mk.injEq]
  exact ⟨inventories, freshness, states, used, pending, queues, pressure, verdicts, streaks, met,
    outcomes, phases, warned, values, boards, firing, decisions, pauses, fired⟩

/-- At one tick, whatever the agents did on the way, the runtime states of an accepted
scene are told apart by what is fed of them, and equal ones go on alike for ever. -/
theorem runtimes_apart {raw : RawSl1Scene} {scene : Sl1Scene} (accepted : validate raw = .ok scene)
    {backend backend' : AgentBackend} {count count' : Nat}
    (together : worldTick count = worldTick count')
    (fits : (feedSl1 scene (some (ticks scene backend count).runtime)).fits)
    (fits' : (feedSl1 scene (some (ticks scene backend' count').runtime)).fits)
    (same : (feedSl1 scene (some (ticks scene backend count).runtime)).bytes =
      (feedSl1 scene (some (ticks scene backend' count').runtime)).bytes) :
    (ticks scene backend count).runtime = (ticks scene backend' count').runtime ∧
      ∀ (later : AgentBackend) (more : Nat),
        resumed scene later (worldTick count) (ticks scene backend count).runtime more =
          resumed scene later (worldTick count') (ticks scene backend' count').runtime more := by
  have thingless := validate_thingless accepted
  have equal : (ticks scene backend count).runtime = (ticks scene backend' count').runtime := by
    apply feedRuntime_determines (Dormant.ticks thingless backend count)
      (Dormant.ticks thingless backend' count')
      (pressure_of_together (validate_valid accepted) backend backend' together)
    have agree : Agree (feedSl1 scene (some (ticks scene backend count).runtime))
        (feedSl1 scene (some (ticks scene backend' count').runtime)) [] [] := ⟨fits, fits', by rw [same]⟩
    exact agree.skip
  refine ⟨equal, fun later more => ?_⟩
  rw [equal, together]

/-- Agents whose every proposal is turned down. -/
def futile : AgentBackend := fun _ _ => some (.throttleDemand "orders" 0)

theorem runtimes_apart_rationed : ∃ scene, validate rationedScene = .ok scene ∧
    (ticks scene defaultBackend 4).runtime = (ticks scene futile 4).runtime := by
  have evaluated : yields (validate rationedScene) (fun scene =>
      (feedSl1 scene (some (ticks scene defaultBackend 4).runtime)).fits &&
        (feedSl1 scene (some (ticks scene futile 4).runtime)).fits &&
        (feedSl1 scene (some (ticks scene defaultBackend 4).runtime)).bytes ==
          (feedSl1 scene (some (ticks scene futile 4).runtime)).bytes) = true := by
    decide +kernel
  obtain ⟨scene, accepted, fed⟩ := yields_iff.mp evaluated
  simp only [Bool.and_eq_true, beq_iff_eq] at fed
  obtain ⟨⟨fits, fits'⟩, same⟩ := fed
  exact ⟨scene, accepted, (runtimes_apart accepted rfl fits fits' same).1⟩

end StateHash

end Simetro.Sl1
