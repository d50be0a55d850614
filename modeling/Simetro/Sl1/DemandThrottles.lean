import Simetro.Sl1.SpawnSchedule

/-! The pauses agents impose on a demand, against the history of their actions. -/

namespace Simetro.Sl1

open Simetro.Library Simetro.Protocol

namespace Agents

/-- The tick from which a pause decided at a tick no longer holds. -/
def pauseEnd (decidedAt pauseTicks : Nat) : Nat :=
  saturatingAdd u64Max (saturatingAdd u64Max decidedAt 1) pauseTicks

/-- An agent applied `ThrottleDemand` to the demand at a tick. -/
def Throttled (scene : Sl1Scene) (backend : AgentBackend) (applied : List SimEvent)
    (demand : String) (decidedAt pauseTicks : Nat) : Prop :=
  ∃ agent ∈ scene.agents, backend agent decidedAt = some (.throttleDemand demand pauseTicks) ∧
    .sl1AgentActionApplied agent.id Sl1AgentActionKind.throttleDemand.asStr demand 1 decidedAt ∈ applied

/-- From `now` on a demand is paused as its applied throttles say. -/
def Suspends (scene : Sl1Scene) (backend : AgentBackend) (demand : String) (now : Nat)
    (throttles : Throttles) : Prop :=
  ∀ later, now ≤ later → (later < throttles.pauses.getD demand 0 ↔
    ∃ decidedAt pauseTicks,
      Throttled scene backend throttles.applied demand decidedAt pauseTicks ∧
        later < pauseEnd decidedAt pauseTicks)

variable {scene : Sl1Scene} {backend : AgentBackend} {demand : String} {now next : Nat}
  {throttles : Throttles} {agent : Sl1Agent} {frame : Frame}

theorem pauseUntil_throttle (now pauseTicks : Nat) (other : String) (runtime : Sl1RuntimeState) :
    (applyAction now (.throttleDemand other pauseTicks) runtime).pauseUntil demand =
      if other = demand then max (runtime.pauseUntil demand) (pauseEnd now pauseTicks)
      else runtime.pauseUntil demand := by
  unfold applyAction Sl1RuntimeState.pauseUntil
  rw [Std.ExtTreeMap.getD_insert]
  by_cases same : other = demand
  · simp [same, pauseEnd]
  · simp [same]

/-- An agent's turn applies what it decided, or changes no pause. -/
theorem decideOne_throttles (scene : Sl1Scene) (now : Nat) (backend : AgentBackend) (frame : Frame)
    (agent : Sl1Agent) :
    (decideOne scene now backend frame agent).throttles = frame.throttles ∨
      ∃ target pauseTicks, backend agent now = some (.throttleDemand target pauseTicks) ∧
        (decideOne scene now backend frame agent).throttles =
          ⟨frame.throttles.pauses.insert target
              (max (frame.throttles.pauses.getD target 0) (pauseEnd now pauseTicks)),
            frame.throttles.applied ++ [.sl1AgentActionApplied agent.id
              Sl1AgentActionKind.throttleDemand.asStr target 1 now]⟩ := by
  unfold decideOne
  cases frame.runtime.agents[agent.id]? with
  | none => exact .inl rfl
  | some state =>
    simp only
    by_cases idle : ¬ shouldFire agent now state
    · exact .inl (by rw [if_pos idle])
    rw [if_neg idle]
    by_cases llm : agent.kind = .llm
    · rw [if_pos llm]
      unfold reportDisabled
      cases state.llmDisabledEmitted with
      | true => exact .inl rfl
      | false => exact .inl (Eq.trans rfl (Frame.emit_throttles frame rfl))
    rw [if_neg llm]
    cases decided : backend agent now with
    | none => exact .inl rfl
    | some action =>
      unfold settleAction
      simp only
      split
      · exact .inl (Eq.trans (Frame.emit_throttles _ rfl) rfl)
      · cases action with
        | throttleDemand target pauseTicks =>
          refine .inr ⟨target, pauseTicks, rfl, ?_⟩
          change Throttles.mk _ _ = Throttles.mk _ _
          simp [Frame.throttles, updateAgent, applyAction, actionTargetId, Sl1AgentAction.kind,
            Sl1AgentAction.cost, SimEvent.isApplied, pauseEnd]

section Decide

variable (distinct : (scene.agents.map (·.id)).Nodup) (member : agent ∈ scene.agents)
include distinct member

/-- The agent and the tick of an entry say which pause was decided. -/
private theorem throttled_append {applied : List SimEvent} {target : String}
    {decidedAt pauseTicks : Nat} :
    Throttled scene backend (applied ++ [.sl1AgentActionApplied agent.id
        Sl1AgentActionKind.throttleDemand.asStr target 1 now]) demand decidedAt pauseTicks ↔
      Throttled scene backend applied demand decidedAt pauseTicks ∨
        target = demand ∧ decidedAt = now ∧
          backend agent now = some (.throttleDemand demand pauseTicks) := by
  constructor
  · rintro ⟨other, listed, decided, entered⟩
    rcases List.mem_append.mp entered with earlier | new
    · exact .inl ⟨other, listed, decided, earlier⟩
    · simp only [List.mem_singleton, SimEvent.sl1AgentActionApplied.injEq, true_and] at new
      obtain ⟨sameId, rfl, rfl⟩ := new
      obtain rfl := List.inj_on_of_nodup_map distinct listed member sameId
      exact .inr ⟨rfl, rfl, decided⟩
  · rintro (⟨other, listed, decided, earlier⟩ | ⟨rfl, rfl, decided⟩)
    · exact ⟨other, listed, decided, List.mem_append_left _ earlier⟩
    · exact ⟨agent, member, decided, by simp⟩

theorem Suspends.decideOne (suspends : Suspends scene backend demand now frame.throttles) :
    Suspends scene backend demand now (decideOne scene now backend frame agent).throttles := by
  rcases decideOne_throttles scene now backend frame agent with same |
    ⟨target, pauseTicks, decided, imposed⟩
  · exact same ▸ suspends
  · intro later after
    have before := suspends later after
    rw [imposed, Std.ExtTreeMap.getD_insert]
    simp only [throttled_append distinct member]
    by_cases aimed : target = demand
    · subst aimed
      constructor
      · intro paused
        rcases lt_max_iff.mp (by simpa using paused) with old | new
        · obtain ⟨decidedAt, ticks, throttled, within⟩ := before.mp old
          exact ⟨decidedAt, ticks, .inl throttled, within⟩
        · exact ⟨now, pauseTicks, .inr ⟨rfl, rfl, decided⟩, new⟩
      · rintro ⟨decidedAt, ticks, throttled | ⟨-, rfl, same⟩, within⟩
        · have old := before.mpr ⟨decidedAt, ticks, throttled, within⟩
          simpa using Or.inl old
        · obtain ⟨-, rfl⟩ : target = target ∧ pauseTicks = ticks := by
            simpa [decided] using same
          simpa using Or.inr within
    · simpa [aimed] using before

end Decide

/-- The whole agents pass, in whatever order the agents decide. -/
theorem Suspends.run (distinct : (scene.agents.map (·.id)).Nodup)
    (suspends : Suspends scene backend demand now frame.throttles) :
    Suspends scene backend demand now (run scene now backend frame).throttles :=
  List.foldlRecOn (motive := fun frame : Frame => Suspends scene backend demand now frame.throttles)
    scene.agents _ suspends fun _ suspends _ listed => suspends.decideOne distinct listed

/-- The actions applied in a pass carry its tick. -/
theorem run_applied (scene : Sl1Scene) (now : Nat) (backend : AgentBackend) (frame : Frame) :
    ∃ added, (run scene now backend frame).throttles.applied = frame.throttles.applied ++ added ∧
      ∀ event ∈ added, ∃ agent kind target cost,
        event = .sl1AgentActionApplied agent kind target cost now := by
  refine List.foldlRecOn (motive := fun after : Frame => ∃ added,
    after.throttles.applied = frame.throttles.applied ++ added ∧
      ∀ event ∈ added, ∃ agent kind target cost,
        event = .sl1AgentActionApplied agent kind target cost now) scene.agents _
    ⟨[], by simp, by simp⟩ ?_
  rintro current ⟨added, applied, dated⟩ agent -
  rcases decideOne_throttles scene now backend current agent with same |
    ⟨target, pauseTicks, -, imposed⟩
  · exact ⟨added, by rw [same, applied], dated⟩
  · refine ⟨added ++ [_], by rw [imposed, applied, List.append_assoc], fun event listed => ?_⟩
    rcases List.mem_append.mp listed with earlier | new
    · exact dated event earlier
    · exact ⟨_, _, _, _, List.mem_singleton.mp new⟩

end Agents

namespace Demand

variable {scene : Sl1Scene} {demand : Sl1Demand} {now : Nat} {frame : Frame}
  {queue : Sl1DemandRuntime}

/-- The demand pass only forgets pauses that no longer hold. -/
theorem runDemand_paused_iff (scene : Sl1Scene) (frame : Frame) (id : String) {later : Nat}
    (after : now ≤ later) : later < (runDemand scene now frame).runtime.pauseUntil id ↔
      later < frame.runtime.pauseUntil id := by
  have kept := foldl_keeps (fun frame : Frame => decide (later < frame.runtime.pauseUntil id))
    (fun current demand (_ : demand ∈ scene.demand) =>
      decide_eq_decide.mpr (serve_paused_iff demand current id after)) frame
  exact decide_eq_decide.mp kept

private theorem serve_pressure (demand : Sl1Demand) (now : Nat) (frame : Frame) :
    (serve demand now frame).runtime.pressure = frame.runtime.pressure :=
  congrArg Overlays.pressure (serve_overlays demand now frame)

/-- In the demand pass only the demand's own turn counts. -/
theorem runDemand_turn (now : Nat) (valid : scene.Valid) (member : demand ∈ scene.demand)
    (held : (frame.book demand.id).queue = some queue) :
    (runDemand scene now frame).spawned demand.id = frame.spawned demand.id +
        (if wants demand now frame.runtime then joining demand frame.runtime.pressure queue else 0) ∧
      ∃ next, ((runDemand scene now frame).book demand.id).queue = some next ∧
        next.scriptedCursor = if now < frame.runtime.pauseUntil demand.id then queue.scriptedCursor
          else (shouldSpawn demand.spawnSchedule queue now).2.scriptedCursor := by
  have distinct := valid.demandIncreasing.distinct
  let view (current : Frame) : DemandBook × Sl1PressureRuntime × Bool :=
    (current.book demand.id, current.runtime.pressure,
      decide (now < current.runtime.pauseUntil demand.id))
  have others (current : Frame) (other : Sl1Demand) (present : other ∈ scene.demand)
      (different : other ≠ demand) : view (serve other now current) = view current := by
    have apart : other.id ≠ demand.id := fun same =>
      different (List.inj_on_of_nodup_map distinct present member same)
    simp only [view, serve_book_other apart, serve_pressure,
      serve_paused_iff other current demand.id (Nat.le_refl now)]
  obtain ⟨before, reached, final⟩ := foldl_once view (List.Nodup.of_map _ distinct) member others frame
  have sameBook : before.book demand.id = frame.book demand.id := congrArg (·.1) reached
  have samePressure : before.runtime.pressure = frame.runtime.pressure := congrArg (·.2.1) reached
  have samePause : now < before.runtime.pauseUntil demand.id ↔
      now < frame.runtime.pauseUntil demand.id :=
    decide_eq_decide.mp (congrArg (·.2.2) reached)
  have there : (before.book demand.id).queue = some queue := sameBook ▸ held
  have wanted : wants demand now before.runtime = wants demand now frame.runtime := by
    unfold wants
    rw [demandRuntime_of_some held, demandRuntime_of_some there,
      decide_eq_decide.mpr (by simpa using not_congr samePause)]
  have booked : (runDemand scene now frame).book demand.id = (serve demand now before).book demand.id :=
    congrArg (·.1) final
  obtain ⟨spawned, next, present, cursor⟩ := serve_turn now there
  rw [wanted, samePressure] at spawned
  refine ⟨?_, next, booked ▸ present, ?_⟩
  · have sum := congrArg DemandBook.spawned booked
    exact sum.trans (spawned.trans (congrArg (· + _) (congrArg DemandBook.spawned sameBook)))
  · rw [cursor]
    exact if_congr samePause rfl rfl

end Demand

/-- The demand's queue follows its schedule and its pauses follow the history. -/
structure OnSchedule (scene : Sl1Scene) (backend : AgentBackend) (demand : Sl1Demand) (now : Nat)
    (frame : Frame) : Prop where
  follows : ∃ queue, (frame.book demand.id).queue = some queue ∧
    Demand.Follows demand.spawnSchedule now queue
  suspends : Agents.Suspends scene backend demand.id now frame.throttles

section Run

variable {scene : Sl1Scene} (valid : scene.Valid) (backend : AgentBackend) {demand : Sl1Demand}
  (member : demand ∈ scene.demand)

/-- In a tick the demand pass may forget pauses and then the agents impose new ones. -/
theorem run_throttles (scene : Sl1Scene) (backend : AgentBackend) (now : Nat) (frame : Frame) :
    ∃ quiet : Frame, quiet.throttles =
        (Demand.runDemand scene now (moveStock scene now frame)).throttles ∧
      (run scene backend now frame).throttles =
        (Agents.run scene now backend quiet).throttles := by
  refine ⟨Observability.run scene now (Objectives.run scene now (runFlow scene now frame)), ?_, ?_⟩
  · rw [Frame.throttles_of_ambient (Observability.run_ambient scene now _),
      Frame.throttles_of_ambient (Objectives.run_ambient scene now _), runFlow_eq]
  · rw [run, runObservers_eq]
    exact Frame.throttles_of_ambient (Milestones.run_ambient scene now _)

include valid member

/-- One tick of a declared demand. -/
theorem tick_turn (now : Nat) {frame : Frame} {queue : Sl1DemandRuntime}
    (held : (frame.book demand.id).queue = some queue) :
    (run scene backend now frame).spawned demand.id = frame.spawned demand.id +
        (if Demand.wants demand now frame.runtime then
          Demand.joining demand (run scene backend now frame).runtime.pressure queue else 0) ∧
      ∃ next, ((run scene backend now frame).book demand.id).queue = some next ∧
        next.scriptedCursor = if now < frame.runtime.pauseUntil demand.id then queue.scriptedCursor
          else (Demand.shouldSpawn demand.spawnSchedule queue now).2.scriptedCursor := by
  have booked := Frame.book_of_queues demand.id (run_queues scene backend now frame)
  have moved := Frame.book_of_queues demand.id (moveStock_queues scene now frame)
  have pauses : (moveStock scene now frame).runtime.agentDemandPauses =
      frame.runtime.agentDemandPauses := congrArg Throttles.pauses (moveStock_throttles scene now frame)
  have pressure : (moveStock scene now frame).runtime.pressure =
      (run scene backend now frame).runtime.pressure := congrArg Overlays.pressure
    ((moveStock_overlays scene now frame).trans (run_overlays scene backend now frame).symm)
  have there : ((moveStock scene now frame).book demand.id).queue = some queue := moved ▸ held
  have paused : (moveStock scene now frame).runtime.pauseUntil demand.id =
      frame.runtime.pauseUntil demand.id := by
    rw [Sl1RuntimeState.pauseUntil, pauses]
    rfl
  have wanted : Demand.wants demand now (moveStock scene now frame).runtime =
      Demand.wants demand now frame.runtime := by
    unfold Demand.wants
    rw [demandRuntime_of_some held, demandRuntime_of_some there, paused]
  obtain ⟨spawned, next, present, cursor⟩ := Demand.runDemand_turn now valid member there
  rw [wanted, pressure] at spawned
  rw [paused] at cursor
  refine ⟨?_, next, booked ▸ present, cursor⟩
  have sum := congrArg DemandBook.spawned booked
  exact sum.trans (spawned.trans (congrArg (· + _) (congrArg DemandBook.spawned moved)))

theorem ticks_onSchedule (ordered : demand.spawnSchedule.Ordered)
    (distinct : (scene.agents.map (·.id)).Nodup) {count : Nat} (reachable : count ≤ u64Max) :
    OnSchedule scene backend demand count (ticks scene backend count) := by
  induction count with
  | zero =>
    have held : (Frame.load scene).runtime.demand[demand.id]? = some {} :=
      table_of_mem valid.demandIncreasing.distinct member
    refine ⟨⟨{}, held, Demand.Follows.start _⟩, fun later _ => ?_⟩
    have none : ¬ ∃ decidedAt pauseTicks,
        Agents.Throttled scene backend [] demand.id decidedAt pauseTicks ∧
          later < Agents.pauseEnd decidedAt pauseTicks := by
      rintro ⟨_, _, ⟨_, _, _, entered⟩, _⟩
      cases entered
    exact iff_of_false (Nat.not_lt_zero later) none
  | succ count ih =>
    obtain ⟨⟨queue, held, follows⟩, suspends⟩ := ih (by omega)
    rw [ticks, worldTick_of_le reachable]
    constructor
    · obtain ⟨-, next, present, cursor⟩ :=
        tick_turn valid backend member (count + 1) held
      refine ⟨next, present, ?_⟩
      by_cases paused : count + 1 < (ticks scene backend count).runtime.pauseUntil demand.id
      · rw [if_pos paused] at cursor
        exact (follows.later (Nat.le_succ count)).of_cursor cursor
      · rw [if_neg paused] at cursor
        exact (follows.advance ordered (Nat.lt_succ_self count)).of_cursor cursor
    · obtain ⟨quiet, before, after⟩ :=
        run_throttles scene backend (count + 1) (ticks scene backend count)
      have demanded : Agents.Suspends scene backend demand.id (count + 1) quiet.throttles := by
        intro later reached
        have sum := suspends later (by omega)
        rw [before, Demand.runDemand_applied, moveStock_throttles]
        refine Iff.trans ?_ sum
        refine (Demand.runDemand_paused_iff scene _ demand.id reached).trans ?_
        have pauses := congrArg Throttles.pauses
          (moveStock_throttles scene (count + 1) (ticks scene backend count))
        exact iff_of_eq (congrArg (fun pauses : IdMap Nat => later < pauses.getD demand.id 0) pauses)
      rw [after]
      exact demanded.run distinct

omit valid member

theorem run_applied (scene : Sl1Scene) (now : Nat) (frame : Frame) :
    ∃ added, (run scene backend now frame).throttles.applied = frame.throttles.applied ++ added ∧
      ∀ event ∈ added, ∃ agent kind target cost,
        event = .sl1AgentActionApplied agent kind target cost now := by
  obtain ⟨quiet, before, after⟩ := run_throttles scene backend now frame
  obtain ⟨added, applied, dated⟩ := Agents.run_applied scene now backend quiet
  refine ⟨added, ?_, dated⟩
  rw [after, applied, before, Demand.runDemand_applied, moveStock_throttles]

/-- What a run applies after a tick is dated after it. -/
theorem ticks_applied_after {before : Nat} (small : before < u64Max) (scene : Sl1Scene)
    (extra : Nat) : ∃ added, (ticks scene backend (before + extra)).throttles.applied =
        (ticks scene backend before).throttles.applied ++ added ∧
      ∀ event ∈ added, ∃ agent kind target cost tick,
        event = .sl1AgentActionApplied agent kind target cost tick ∧ before < tick := by
  induction extra with
  | zero => exact ⟨[], by simp, by simp⟩
  | succ extra ih =>
    obtain ⟨earlier, applied, dated⟩ := ih
    obtain ⟨added, appliedNow, datedNow⟩ := run_applied backend scene
      (worldTick (before + extra + 1)) (ticks scene backend (before + extra))
    refine ⟨earlier ++ added, ?_, fun event listed => ?_⟩
    · rw [← List.append_assoc, ← applied]
      exact appliedNow
    · rcases List.mem_append.mp listed with old | new
      · exact dated event old
      · obtain ⟨agent, kind, target, cost, same⟩ := datedNow event new
        refine ⟨agent, kind, target, cost, _, same, ?_⟩
        rw [worldTick_eq]
        omega

theorem ticks_applied_by (scene : Sl1Scene) (count : Nat) :
    ∀ event ∈ (ticks scene backend count).throttles.applied, ∃ agent kind target cost tick,
      event = .sl1AgentActionApplied agent kind target cost tick ∧ tick ≤ count := by
  induction count with
  | zero => exact fun event listed => absurd listed List.not_mem_nil
  | succ count ih =>
    obtain ⟨added, applied, dated⟩ :=
      run_applied backend scene (worldTick (count + 1)) (ticks scene backend count)
    intro event listed
    rw [ticks, applied] at listed
    rcases List.mem_append.mp listed with old | new
    · obtain ⟨agent, kind, target, cost, tick, same, earlier⟩ := ih event old
      exact ⟨agent, kind, target, cost, tick, same, Nat.le_succ_of_le earlier⟩
    · obtain ⟨agent, kind, target, cost, same⟩ := dated event new
      refine ⟨agent, kind, target, cost, _, same, ?_⟩
      rw [worldTick_eq]
      omega

/-- The throttles decided by a tick are those of the run up to it. -/
theorem throttled_by {before count : Nat} (small : before < u64Max) (within : before ≤ count)
    (scene : Sl1Scene) (id : String) (decidedAt pauseTicks : Nat) :
    Agents.Throttled scene backend (ticks scene backend before).throttles.applied id decidedAt
        pauseTicks ↔
      Agents.Throttled scene backend (ticks scene backend count).events id decidedAt pauseTicks ∧
        decidedAt ≤ before := by
  obtain ⟨extra, rfl⟩ := Nat.exists_eq_add_of_le within
  obtain ⟨added, applied, dated⟩ := ticks_applied_after backend small scene extra
  constructor
  · rintro ⟨agent, member, decided, entered⟩
    obtain ⟨_, _, _, _, tick, same, earlier⟩ := ticks_applied_by backend scene before _ entered
    have kept : _ ∈ (ticks scene backend (before + extra)).throttles.applied :=
      applied ▸ List.mem_append_left added entered
    cases same
    exact ⟨⟨agent, member, decided, List.mem_of_mem_filter kept⟩, earlier⟩
  · rintro ⟨⟨agent, member, decided, entered⟩, early⟩
    refine ⟨agent, member, decided, ?_⟩
    have kept : _ ∈ (ticks scene backend (before + extra)).throttles.applied :=
      List.mem_filter.mpr ⟨entered, rfl⟩
    rw [applied] at kept
    rcases List.mem_append.mp kept with old | new
    · exact old
    · obtain ⟨_, _, _, _, tick, same, late⟩ := dated _ new
      cases same
      omega

end Run

/-- At every tick a demand wants an instance exactly when the tick is on its schedule and
no throttle applied before it still pauses it; what is wanted joins the queue, as far as
the cap allows, and throttles of one tick combine as their maximum in any order. -/
theorem spawns_on_schedule {raw : RawSl1Scene} {scene : Sl1Scene}
    (accepted : validate raw = .ok scene) (backend : AgentBackend) {demand : Sl1Demand}
    (member : demand ∈ scene.demand) {now count : Nat} (started : 1 ≤ now) (within : now ≤ count)
    (reachable : now < u64Max) :
    let before := ticks scene backend (now - 1)
    let after := ticks scene backend now
    (Demand.wants demand now before.runtime = true ↔ demand.spawnSchedule.Names now ∧
      ¬ ∃ decidedAt pauseTicks, Agents.Throttled scene backend (ticks scene backend count).events
        demand.id decidedAt pauseTicks ∧ decidedAt < now ∧ now ≤ decidedAt + pauseTicks) ∧
    after.spawned demand.id = before.spawned demand.id +
      (if Demand.wants demand now before.runtime then Demand.joining demand after.runtime.pressure
        (before.runtime.demandRuntime demand.id) else 0) ∧
    ∀ (runtime : Sl1RuntimeState) (first second : Nat),
      (Agents.applyAction now (.throttleDemand demand.id second)
        (Agents.applyAction now (.throttleDemand demand.id first) runtime)).pauseUntil demand.id =
      max (runtime.pauseUntil demand.id)
        (max (Agents.pauseEnd now first) (Agents.pauseEnd now second)) := by
  obtain ⟨last, rfl⟩ := Nat.exists_eq_add_of_le' started
  rw [Nat.add_sub_cancel]
  intro before after
  have valid := validate_valid accepted
  obtain ⟨schedules, distinct⟩ := validate_schedules accepted
  have ordered := schedules demand member
  obtain ⟨⟨queue, held, follows⟩, suspends⟩ :=
    ticks_onSchedule valid backend member ordered distinct (show last ≤ u64Max by omega)
  have current := demandRuntime_of_some held
  refine ⟨?_, ?_, ?_⟩
  · have fires := follows.shouldSpawn_iff ordered (Nat.lt_succ_self last)
    have paused : last + 1 < before.runtime.pauseUntil demand.id ↔
        ∃ decidedAt pauseTicks, Agents.Throttled scene backend (ticks scene backend count).events
          demand.id decidedAt pauseTicks ∧ decidedAt < last + 1 ∧
            last + 1 ≤ decidedAt + pauseTicks := by
      refine (suspends (last + 1) (Nat.le_succ last)).trans ?_
      refine exists_congr fun decidedAt => exists_congr fun pauseTicks => ?_
      rw [throttled_by backend (show last < u64Max by omega) (show last ≤ count by omega) scene,
        and_assoc]
      refine and_congr_right fun _ => ?_
      rw [Nat.lt_succ_iff]
      refine and_congr_right fun early => ?_
      have counted : Agents.pauseEnd decidedAt pauseTicks = min (decidedAt + 1 + pauseTicks) u64Max := by
        unfold Agents.pauseEnd saturatingAdd
        omega
      omega
    unfold Demand.wants
    rw [Bool.and_eq_true, decide_eq_true_eq, current, fires, ← paused, Nat.not_lt, and_comm]
  · obtain ⟨spawned, -⟩ := tick_turn valid backend member (last + 1) held
    have tick : after = run scene backend (last + 1) before := by
      change run scene backend (worldTick (last + 1)) before = _
      rw [worldTick_of_le (by omega)]
    rw [current, tick]
    exact spawned
  · intro runtime first second
    rw [Agents.pauseUntil_throttle, Agents.pauseUntil_throttle, if_pos rfl, if_pos rfl, max_assoc]

/-- Two agents throttle a scripted demand. -/
def rationedScene : RawSl1Scene where
  places := [{
    id := "shop", role := "sink", pos := (0, 0)
    storage := (∅ : IdMap RawSl1StorageSlot).insert "ore" { capacity := 10 } }]
  things := [{ id := "ore", kind := "material" }]
  demand := [{
    id := "orders", kind := "job", target := ⟨"place", "shop"⟩, requires := ["ore"]
    spawnSchedule := { kind := "scripted", ticks := some [1, 3, 4, 6] }
    deadlineTicks := 9, priority := "normal", value := 5, penalty := { score := -2 } }]
  agents := [
    { id := "clerk", kind := "mock", role := "ration", intervalTicks := 2
      observationScope := ["demand:orders"], allowedActions := ["throttle_demand"]
      budgets := ⟨1, 9⟩ },
    { id := "warden", kind := "mock", role := "ration", intervalTicks := 2
      observationScope := ["demand:orders"], allowedActions := ["throttle_demand"]
      budgets := ⟨1, 9⟩ }]

def rationing : AgentBackend := fun agent now =>
  if now = 2 then some (.throttleDemand "orders" (if agent.id = "clerk" then 2 else 1)) else none

theorem spawns_on_schedule_rationed : ∃ scene, validate rationedScene = .ok scene ∧
    ∃ demand ∈ scene.demand, (ticks scene rationing 6).spawned demand.id = 2 ∧
      ∃ decidedAt pauseTicks, Agents.Throttled scene rationing (ticks scene rationing 6).events
        demand.id decidedAt pauseTicks ∧ decidedAt < 4 ∧ 4 ≤ decidedAt + pauseTicks := by
  have evaluated : yields (validate rationedScene) (fun scene => scene.demand.any fun demand =>
      (ticks scene rationing 6).spawned demand.id == 2 &&
        (!Demand.wants demand 4 (ticks scene rationing 3).runtime &&
          demand.spawnSchedule == .scripted [1, 3, 4, 6])) = true := by
    decide +kernel
  obtain ⟨scene, accepted, found⟩ := yields_iff.mp evaluated
  obtain ⟨demand, member, facts⟩ := List.any_eq_true.mp found
  simp only [Bool.and_eq_true, beq_iff_eq, Bool.not_eq_true'] at facts
  obtain ⟨spawned, unwanted, script⟩ := facts
  refine ⟨scene, accepted, demand, member, spawned, ?_⟩
  by_contra free
  have wanted := (spawns_on_schedule accepted rationing member (show 1 ≤ 4 by decide)
    (show 4 ≤ 6 by decide) (by decide)).1.mpr ⟨by simp [script, Sl1DemandSchedule.Names], free⟩
  exact absurd wanted (by simp [unwanted])

end Simetro.Sl1
