import Mathlib.Data.Nat.Basic
import Mathlib.Order.Lattice.Nat
import Simetro.Sl1.AgentGate

/-! When an agent decides and acts in a run: on the multiples of its interval, its actions
spaced by interval and cooldown, an LLM agent only reporting itself once. -/

namespace Simetro.Sl1

open Simetro.Library Simetro.Protocol

/-- The last multiple of the interval a run has passed. -/
def lastMultiple (interval count : Nat) : Option Nat :=
  if count / interval = 0 then none else some (interval * (count / interval))

theorem lastMultiple_succ_of_dvd {interval count : Nat} (due : interval ∣ count + 1) :
    lastMultiple interval (count + 1) = some (count + 1) := by
  rw [lastMultiple, Nat.succ_div_of_dvd due, if_neg (Nat.succ_ne_zero _),
    ← Nat.succ_div_of_dvd due, Nat.mul_div_cancel' due]

theorem lastMultiple_succ_of_not_dvd {interval count : Nat} (early : ¬ interval ∣ count + 1) :
    lastMultiple interval (count + 1) = lastMultiple interval count := by
  rw [lastMultiple, lastMultiple, Nat.succ_div_of_not_dvd early]

theorem lastMultiple_eq_self_iff {interval count : Nat} (positive : 0 < interval)
    (started : 1 ≤ count) : lastMultiple interval count = some count ↔ interval ∣ count := by
  unfold lastMultiple
  constructor
  · intro reached
    split at reached
    · cases reached
    · exact ⟨count / interval, (Option.some.inj reached).symm⟩
  · intro multiple
    have passed : count / interval ≠ 0 :=
      (Nat.div_pos (Nat.le_of_dvd started multiple) positive).ne'
    rw [if_neg passed, Nat.mul_div_cancel' multiple]

namespace Agents

variable {scene : Sl1Scene} {backend : AgentBackend} {agent : Sl1Agent} {count now : Nat}
  {record after : AgentRecord} {state : Sl1AgentRuntimeState}

/-- An agent whose clock shows the last multiple decides at the next one. -/
theorem shouldFire_iff (positive : 0 < agent.intervalTicks) (reachable : count + 1 < u64Max)
    (clock : state.lastDecisionTick = lastMultiple agent.intervalTicks count) :
    shouldFire agent (count + 1) state = true ↔ agent.intervalTicks ∣ count + 1 := by
  unfold shouldFire
  rw [if_neg (Nat.succ_ne_zero count), clock, lastMultiple]
  by_cases fresh : count / agent.intervalTicks = 0
  · rw [if_pos fresh]
    simp only [beq_iff_eq]
    exact (Nat.dvd_iff_mod_eq_zero).symm
  · rw [if_neg fresh]
    have passed : saturatingAdd u64Max (agent.intervalTicks * (count / agent.intervalTicks))
        agent.intervalTicks ≤ count + 1 ↔
          agent.intervalTicks * (count / agent.intervalTicks) + agent.intervalTicks ≤ count + 1 := by
      unfold saturatingAdd
      omega
    refine decide_eq_true_iff.trans (passed.trans ?_)
    constructor
    · intro elapsed
      by_contra early
      have below := Nat.lt_mul_div_succ (count + 1) positive
      rw [Nat.succ_div_of_not_dvd early, Nat.mul_add, Nat.mul_one] at below
      omega
    · intro due
      have exact' := Nat.mul_div_cancel' due
      rw [Nat.succ_div_of_dvd due, Nat.mul_add, Nat.mul_one] at exact'
      omega

theorem startCooldown_clock (agent : Sl1Agent) (now : Nat) (state : Sl1AgentRuntimeState) :
    (startCooldown agent now (clocked now state)).lastDecisionTick = some now := by
  unfold startCooldown
  split <;> rfl

theorem startCooldown_capped (agent : Sl1Agent) (now : Nat)
    (capped : ∀ cooldownUntil, state.cooldownUntilTick = some cooldownUntil →
      cooldownUntil ≤ u64Max) {cooldownUntil : Nat}
    (present : (startCooldown agent now (clocked now state)).cooldownUntilTick =
      some cooldownUntil) : cooldownUntil ≤ u64Max := by
  unfold startCooldown at present
  split at present
  · rw [← Option.some.inj present]
    exact Nat.min_le_right _ _
  · exact capped cooldownUntil present

/-- The least distance of two actions of an agent. -/
def spacing (agent : Sl1Agent) : Nat := max agent.intervalTicks agent.cooldownTicks

/-- The clock shows the last multiple, and the actions so far are spaced multiples under the
cooldown in force. -/
structure Paced (agent : Sl1Agent) (count : Nat) (record : AgentRecord)
    (state : Sl1AgentRuntimeState) : Prop where
  held : record.state = some state
  clock : state.lastDecisionTick = lastMultiple agent.intervalTicks count
  past : ∀ tick ∈ record.applied, tick ≤ count ∧ agent.intervalTicks ∣ tick
  cooling : 0 < agent.cooldownTicks → ∀ tick ∈ record.applied, ∃ cooldownUntil,
    state.cooldownUntilTick = some cooldownUntil ∧
      saturatingAdd u64Max tick agent.cooldownTicks ≤ cooldownUntil
  capped : ∀ cooldownUntil, state.cooldownUntilTick = some cooldownUntil → cooldownUntil ≤ u64Max
  spaced : record.applied.Pairwise fun first second => first + spacing agent ≤ second

namespace Paced

theorem clocked (paced : Paced agent count record state) (due : agent.intervalTicks ∣ count + 1)
    (disabled : List Nat) :
    Paced agent (count + 1) ⟨some (Agents.clocked (count + 1) state), record.applied, disabled⟩
      (Agents.clocked (count + 1) state) where
  held := rfl
  clock := (lastMultiple_succ_of_dvd due).symm
  past tick listed :=
    ⟨Nat.le_succ_of_le (paced.past tick listed).1, (paced.past tick listed).2⟩
  cooling := paced.cooling
  capped := paced.capped
  spaced := paced.spaced

theorem rested (paced : Paced agent count record state) (reachable : count + 1 < u64Max)
    (due : agent.intervalTicks ∣ count + 1)
    (rested : ∀ cooldownUntil, state.cooldownUntilTick = some cooldownUntil →
      cooldownUntil ≤ count + 1) {tick : Nat} (listed : tick ∈ record.applied) :
    tick + spacing agent ≤ count + 1 := by
  obtain ⟨earlier, multiple⟩ := paced.past tick listed
  have interval : tick + agent.intervalTicks ≤ count + 1 := by
    have apart := Nat.le_of_dvd (by omega) (Nat.dvd_sub due multiple)
    omega
  have cooldown : tick + agent.cooldownTicks ≤ count + 1 := by
    rcases Nat.eq_zero_or_pos agent.cooldownTicks with none | some'
    · omega
    · obtain ⟨cooldownUntil, present, later⟩ := paced.cooling some' tick listed
      have passed := rested cooldownUntil present
      unfold saturatingAdd at later
      omega
  unfold spacing
  omega

theorem applied (paced : Paced agent count record state) (reachable : count + 1 < u64Max)
    (due : agent.intervalTicks ∣ count + 1)
    (rested : ∀ cooldownUntil, state.cooldownUntilTick = some cooldownUntil →
      cooldownUntil ≤ count + 1) :
    Paced agent (count + 1)
      ⟨some (startCooldown agent (count + 1) (Agents.clocked (count + 1) state)),
        record.applied ++ [count + 1], record.disabled⟩
      (startCooldown agent (count + 1) (Agents.clocked (count + 1) state)) where
  held := rfl
  clock := (startCooldown_clock agent (count + 1) state).trans (lastMultiple_succ_of_dvd due).symm
  past tick listed := by
    rcases List.mem_append.mp listed with old | new
    · exact ⟨Nat.le_succ_of_le (paced.past tick old).1, (paced.past tick old).2⟩
    · obtain rfl := List.mem_singleton.mp new
      exact ⟨Nat.le_refl _, due⟩
  cooling some' tick listed := by
    refine ⟨saturatingAdd u64Max (count + 1) agent.cooldownTicks, ?_, ?_⟩
    · rw [startCooldown, if_pos some']
    · have earlier : tick ≤ count + 1 := by
        rcases List.mem_append.mp listed with old | new
        · exact Nat.le_succ_of_le (paced.past tick old).1
        · exact (List.mem_singleton.mp new).le
      unfold saturatingAdd
      omega
  capped _ present := startCooldown_capped agent (count + 1) paced.capped present
  spaced := by
    rw [List.pairwise_append]
    refine ⟨paced.spaced, List.pairwise_singleton _ _, fun first old second new => ?_⟩
    obtain rfl := List.mem_singleton.mp new
    exact paced.rested reachable due rested old

theorem step (paced : Paced agent count record state) (positive : 0 < agent.intervalTicks)
    (reachable : count + 1 < u64Max) (entered : Entered scene backend agent (count + 1) state record after) :
    ∃ next, Paced agent (count + 1) after next := by
  have fires := shouldFire_iff positive reachable paced.clock
  cases entered with
  | idle early =>
    have off : ¬ agent.intervalTicks ∣ count + 1 := fun due => by
      rw [fires.mpr due] at early
      cases early
    exact ⟨state, paced.held, paced.clock.trans (lastMultiple_succ_of_not_dvd off).symm,
      fun tick listed => ⟨Nat.le_succ_of_le (paced.past tick listed).1, (paced.past tick listed).2⟩,
      paced.cooling, paced.capped, paced.spaced⟩
  | disabled due llm =>
    obtain ⟨-, clock, past, cooling, capped, spaced⟩ := paced.clocked (fires.mp due) record.disabled
    exact ⟨_, rfl, clock, past, cooling, capped, spaced⟩
  | decided due live => exact ⟨_, paced.clocked (fires.mp due) record.disabled⟩
  | applied due live proposed admissible =>
    exact ⟨_, paced.applied reachable (fires.mp due) admissible.rested⟩

end Paced

/-- What an LLM agent has done: nothing before its first interval, its one report after. -/
structure Muted (agent : Sl1Agent) (count : Nat) (record : AgentRecord)
    (state : Sl1AgentRuntimeState) : Prop where
  held : record.state = some state
  fresh : count < agent.intervalTicks →
    state.lastDecisionTick = none ∧ state.llmDisabledEmitted = false ∧ record.disabled = []
  told : agent.intervalTicks ≤ count →
    state.llmDisabledEmitted = true ∧ record.disabled = [agent.intervalTicks]
  powerless : record.applied = []

theorem Muted.step (muted : Muted agent count record state)
    (representable : agent.intervalTicks ≤ u64Max) (llm : agent.kind = .llm)
    (entered : Entered scene backend agent (worldTick (count + 1)) state record after) :
    ∃ next, Muted agent (count + 1) after next := by
  have dated (within : count + 1 ≤ agent.intervalTicks) : worldTick (count + 1) = count + 1 :=
    worldTick_of_le (Nat.le_trans within representable)
  have fires (within : count + 1 ≤ agent.intervalTicks) :
      shouldFire agent (worldTick (count + 1)) state = true ↔ count + 1 = agent.intervalTicks := by
    rw [dated within, shouldFire, if_neg (Nat.succ_ne_zero count), (muted.fresh within).1]
    simp only [beq_iff_eq]
    constructor
    · intro multiple
      exact Nat.le_antisymm within (Nat.le_of_dvd (Nat.succ_pos count) (Nat.dvd_of_mod_eq_zero multiple))
    · intro first
      rw [first, Nat.mod_self]
  cases entered with
  | idle early =>
    refine ⟨state, muted.held, fun within => muted.fresh (by omega), fun passed => ?_,
      muted.powerless⟩
    rcases Nat.lt_or_ge count agent.intervalTicks with before | later
    · rw [(fires before).mpr (by omega)] at early
      cases early
    · exact muted.told later
  | disabled due =>
    refine ⟨_, rfl, fun within => ?_, fun passed => ⟨rfl, ?_⟩, muted.powerless⟩
    · have first := (fires (by omega)).mp due
      omega
    · rcases Nat.lt_or_ge count agent.intervalTicks with before | later
      · obtain ⟨-, untold, none⟩ := muted.fresh before
        simp only [untold, none, dated before]
        simpa using (fires before).mp due
      · obtain ⟨told, once⟩ := muted.told later
        simp [told, once]
  | decided due live => exact absurd llm live
  | applied due live => exact absurd llm live

end Agents

/-- What the agent's clock shows. -/
def lastDecision (agent : Sl1Agent) (frame : Frame) : Option Nat :=
  frame.runtime.agents[agent.id]?.bind (·.lastDecisionTick)

theorem validate_intervals {raw : RawSl1Scene} {scene : Sl1Scene}
    (success : validate raw = .ok scene) :
    ∀ agent ∈ scene.agents, 0 < agent.intervalTicks ∧ agent.intervalTicks ≤ sl1AgentMaxIntervalTicks := by
  simp only [validate, bind_eq_ok] at success
  obtain ⟨_, -, things, -, places, -, links, -, transforms, -, demand, -, pressure, -, objectives, -,
    failures, -, victories, -, observability, -, agents, agentsRead, milestones, -, same⟩ := success
  cases same
  intro agent member
  obtain ⟨source, -, read⟩ := (catalog_sound agentsRead).readFrom member
  simp only [validateAgent, bind_eq_ok, checkPositive_eq_ok] at read
  obtain ⟨_, -, kind, -, _, -, _, ⟨positive, bounded⟩, rest⟩ := read
  obtain ⟨_, -, _, -, _, -, targets, -, actions, -, _, -, _, -, _, -, same⟩ := rest
  cases same
  exact ⟨positive, bounded⟩

namespace Agents

variable {scene : Sl1Scene} {now : Nat} {backend : AgentBackend} {agent : Sl1Agent}
  {frame after : Frame} {state : Sl1AgentRuntimeState} {action : Sl1AgentAction}

/-- Only an admissible proposal has an effect on the demands, or is reported as applied. -/
theorem Turn.applies_admissible (turn : Turn scene now backend agent frame after)
    (effective : after.throttles ≠ frame.throttles) :
    agent.kind ≠ .llm ∧ ∃ state action, frame.runtime.agents[agent.id]? = some state ∧
      shouldFire agent now state = true ∧ backend agent now = some action ∧
        Admissible scene agent now state action := by
  cases turn with
  | absent | idle => exact absurd rfl effective
  | disabled held due llm =>
    refine absurd ?_ effective
    unfold reportDisabled
    split
    · rfl
    · exact Eq.trans rfl (Frame.emit_throttles frame rfl)
  | silent => exact absurd rfl effective
  | refused => exact absurd (Frame.emit_throttles _ rfl) effective
  | applied held due live proposed admissible =>
    exact ⟨live, _, _, held, due, proposed, admissible⟩

/-- A refused proposal moves the decision clock and nothing else. -/
theorem Turn.refuses (turn : Turn scene now backend agent frame after)
    (held : frame.runtime.agents[agent.id]? = some state)
    (due : shouldFire agent now state = true) (live : agent.kind ≠ .llm)
    (proposed : backend agent now = some action)
    (inadmissible : ¬ Admissible scene agent now state action) :
    after.runtime = updateAgent agent (clocked now) frame.runtime := by
  cases turn with
  | absent missing =>
    rw [held] at missing
    cases missing
  | idle present early =>
    obtain rfl := Option.some.inj (held.symm.trans present)
    rw [due] at early
    cases early
  | disabled present fired llm => exact absurd llm live
  | silent => rfl
  | refused => rfl
  | applied present fired acting other admissible =>
    obtain rfl := Option.some.inj (held.symm.trans present)
    obtain rfl := Option.some.inj (proposed.symm.trans other)
    exact absurd admissible inadmissible

end Agents

section Run

variable {scene : Sl1Scene} (backend : AgentBackend) {agent : Sl1Agent}
  (distinct : (scene.agents.map (·.id)).Nodup) (member : agent ∈ scene.agents)
include distinct member

theorem load_held : (Frame.load scene).runtime.agents[agent.id]? = some {} :=
  table_of_mem distinct member

theorem ticks_paced (positive : 0 < agent.intervalTicks) {count : Nat} (reachable : count < u64Max) :
    ∃ state, Agents.Paced agent count ((ticks scene backend count).record agent.id) state := by
  induction count with
  | zero =>
    refine ⟨{}, load_held distinct member, ?_, ?_, ?_, ?_, ?_⟩
    · rw [lastMultiple, Nat.zero_div, if_pos rfl]
    · intro tick listed
      cases listed
    · intro _ tick listed
      cases listed
    · intro cooldownUntil present
      cases present
    · exact List.Pairwise.nil
  | succ count ih =>
    obtain ⟨state, paced⟩ := ih (by omega)
    have entered := run_entered backend distinct member (count + 1) paced.held
    rw [ticks, worldTick_of_le (by omega)]
    exact paced.step positive reachable entered

theorem ticks_muted (bounds : 0 < agent.intervalTicks ∧ agent.intervalTicks ≤ sl1AgentMaxIntervalTicks)
    (llm : agent.kind = .llm) (count : Nat) :
    ∃ state, Agents.Muted agent count ((ticks scene backend count).record agent.id) state := by
  induction count with
  | zero =>
    refine ⟨{}, load_held distinct member, fun _ => ⟨rfl, rfl, rfl⟩, fun passed => ?_, rfl⟩
    omega
  | succ count ih =>
    obtain ⟨state, muted⟩ := ih
    have entered := run_entered backend distinct member (worldTick (count + 1)) muted.held
    have representable : agent.intervalTicks ≤ u64Max := by
      have limit : sl1AgentMaxIntervalTicks ≤ u64Max := by decide
      omega
    exact muted.step representable llm entered

theorem ticks_lastDecision (positive : 0 < agent.intervalTicks) {count : Nat}
    (reachable : count < u64Max) :
    lastDecision agent (ticks scene backend count) = lastMultiple agent.intervalTicks count := by
  obtain ⟨state, paced⟩ := ticks_paced backend distinct member positive reachable
  have held : (ticks scene backend count).runtime.agents[agent.id]? = some state := paced.held
  rw [lastDecision, held]
  exact paced.clock

end Run

/-- Whatever the backend proposes: in any state an action takes effect only when it passes
the six checks, and a refused one moves the agent's clock alone; in a run an agent decides on
the multiples of its interval and spaces its actions by interval and cooldown, until the tick
counter saturates; an LLM agent applies nothing and reports itself once. -/
theorem gate_sound {raw : RawSl1Scene} {scene : Sl1Scene} (accepted : validate raw = .ok scene)
    (backend : AgentBackend) {agent : Sl1Agent} (member : agent ∈ scene.agents) :
    (∀ now frame, (Agents.decideOne scene now backend frame agent).throttles ≠ frame.throttles →
      agent.kind ≠ .llm ∧ ∃ state action, frame.runtime.agents[agent.id]? = some state ∧
        Agents.shouldFire agent now state = true ∧ backend agent now = some action ∧
          Agents.Admissible scene agent now state action) ∧
    (∀ now frame state action, frame.runtime.agents[agent.id]? = some state →
      Agents.shouldFire agent now state = true → agent.kind ≠ .llm →
        backend agent now = some action → ¬ Agents.Admissible scene agent now state action →
          (Agents.decideOne scene now backend frame agent).runtime =
            Agents.updateAgent agent (Agents.clocked now) frame.runtime) ∧
    (∀ count, 1 ≤ count → count < u64Max →
      (lastDecision agent (ticks scene backend count) = some count ↔
        agent.intervalTicks ∣ count)) ∧
    (∀ count, count < u64Max →
      (appliedTicks agent.id (ticks scene backend count).events).Pairwise fun first second =>
        first + max agent.intervalTicks agent.cooldownTicks ≤ second) ∧
    (agent.kind = .llm → ∀ count,
      appliedTicks agent.id (ticks scene backend count).events = [] ∧
        disabledTicks agent.id (ticks scene backend count).events =
          if agent.intervalTicks ≤ count then [agent.intervalTicks] else []) := by
  obtain ⟨-, distinct⟩ := validate_schedules accepted
  have bounds := validate_intervals accepted agent member
  refine ⟨fun now frame effective => ?_, fun now frame state action held due live proposed bad => ?_,
    fun count started reachable => ?_, fun count reachable => ?_, fun llm count => ?_⟩
  · exact (Agents.decideOne_turn scene now backend frame agent).applies_admissible effective
  · exact (Agents.decideOne_turn scene now backend frame agent).refuses held due live proposed bad
  · rw [ticks_lastDecision backend distinct member bounds.1 reachable]
    exact lastMultiple_eq_self_iff bounds.1 started
  · obtain ⟨state, paced⟩ := ticks_paced backend distinct member bounds.1 reachable
    exact paced.spaced
  · obtain ⟨state, muted⟩ := ticks_muted backend distinct member bounds llm count
    refine ⟨muted.powerless, ?_⟩
    split
    · rename_i passed
      exact (muted.told passed).2
    · rename_i fresh
      exact (muted.fresh (Nat.lt_of_not_le fresh)).2.2

theorem gate_sound_rationed : ∃ scene, validate rationedScene = .ok scene ∧
    ∃ agent ∈ scene.agents, appliedTicks agent.id (ticks scene rationing 6).events = [2] ∧
      (lastDecision agent (ticks scene rationing 6) = some 6 ↔ agent.intervalTicks ∣ 6) := by
  have evaluated : yields (validate rationedScene) (fun scene => scene.agents.any fun agent =>
      appliedTicks agent.id (ticks scene rationing 6).events == [2]) = true := by
    decide +kernel
  obtain ⟨scene, accepted, found⟩ := yields_iff.mp evaluated
  obtain ⟨agent, member, applied⟩ := List.any_eq_true.mp found
  obtain ⟨-, -, decides, -⟩ := gate_sound accepted rationing member
  exact ⟨scene, accepted, agent, member, by simpa using applied, decides 6 (by decide) (by decide)⟩

/-- Past its last value the tick counter stays there. -/
theorem ticks_saturated (scene : Sl1Scene) (backend : AgentBackend) {count : Nat}
    (saturated : u64Max ≤ count + 1) :
    ticks scene backend (count + 1) = run scene backend u64Max (ticks scene backend count) := by
  rw [ticks, worldTick_eq, Nat.min_eq_right saturated]

/-- A backend that throttles at every decision. -/
def insisting : AgentBackend := fun _ _ => some (.throttleDemand "orders" 1)

/-- Where the tick counter saturates, a decision is due whether or not the interval divides
its last value, and due again there, in spite of interval and cooldown. -/
theorem decides_between_multiples : ∃ scene, validate rationedScene = .ok scene ∧
    ∃ agent ∈ scene.agents,
      lastDecision agent (ticks scene insisting u64Max) = some u64Max ∧
      ¬ agent.intervalTicks ∣ u64Max ∧
      ¬ (appliedTicks agent.id (ticks scene insisting (u64Max + 1)).events).Pairwise
        fun first second => first + max agent.intervalTicks agent.cooldownTicks ≤ second := by
  have evaluated : yields (validate rationedScene) (fun scene => scene.agents.any fun agent =>
      agent.intervalTicks == 2 && agent.kind == .mock &&
        Agents.rejection scene agent u64Max {} (.throttleDemand "orders" 1) == none) = true := by
    decide +kernel
  obtain ⟨scene, accepted, found⟩ := yields_iff.mp evaluated
  obtain ⟨agent, member, facts⟩ := List.any_eq_true.mp found
  simp only [Bool.and_eq_true, beq_iff_eq] at facts
  obtain ⟨⟨interval, kind⟩, passed⟩ := facts
  obtain ⟨-, distinct⟩ := validate_schedules accepted
  have live : agent.kind ≠ .llm := by simp [kind]
  have admissible (state : Sl1AgentRuntimeState)
      (capped : ∀ cooldownUntil, state.cooldownUntilTick = some cooldownUntil →
        cooldownUntil ≤ u64Max) :
      Agents.Admissible scene agent u64Max state (.throttleDemand "orders" 1) :=
    { Agents.rejection_eq_none_iff.mp passed with rested := capped }
  obtain ⟨last, maximal⟩ : ∃ last, last + 1 = u64Max := ⟨u64Max - 1, rfl⟩
  obtain ⟨state, paced⟩ := ticks_paced insisting distinct member (by omega)
    (show last < u64Max by omega)
  have due : Agents.shouldFire agent u64Max state = true := by
    rw [Agents.shouldFire, paced.clock, interval, ← Nat.add_sub_cancel (n := last) (m := 1), maximal]
    decide
  have first := (run_entered insisting distinct member u64Max paced.held).applies due live rfl
    (admissible state paced.capped)
  rw [← ticks_saturated scene insisting maximal.ge] at first
  have held := congrArg AgentRecord.state first
  have again : Agents.shouldFire agent u64Max
      (Agents.startCooldown agent u64Max (Agents.clocked u64Max state)) = true := by
    rw [Agents.shouldFire, Agents.startCooldown_clock, interval]
    decide
  have second := (run_entered insisting distinct member u64Max held).applies again live rfl
    (admissible _ fun _ => Agents.startCooldown_capped agent u64Max paced.capped)
  rw [← ticks_saturated scene insisting (by omega), first] at second
  refine ⟨scene, accepted, agent, member, ?_, by rw [interval]; decide, fun spaced => ?_⟩
  · have present : (ticks scene insisting (last + 1)).runtime.agents[agent.id]? = _ := held
    rw [← maximal, lastDecision, present, maximal]
    exact Agents.startCooldown_clock agent u64Max state
  · have twice : appliedTicks agent.id (ticks scene insisting (last + 1 + 1)).events = _ :=
      congrArg AgentRecord.applied second
    rw [← maximal, twice, List.pairwise_append] at spaced
    have apart := spaced.2.2 u64Max (by simp) u64Max (by simp)
    omega

end Simetro.Sl1
