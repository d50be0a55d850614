import Mathlib.Data.Nat.Basic
import Simetro.Sl1.Agency

/-! The agent gate against an arbitrary backend: what one turn may do, when an agent
decides, and how far apart its actions are. -/

namespace Simetro.Sl1

open Simetro.Library Simetro.Protocol

namespace Agents

/-- What an action has to meet before it is applied. -/
structure Admissible (scene : Sl1Scene) (agent : Sl1Agent) (now : Nat)
    (state : Sl1AgentRuntimeState) (action : Sl1AgentAction) : Prop where
  rested : ∀ cooldownUntil, state.cooldownUntilTick = some cooldownUntil → cooldownUntil ≤ now
  allowed : action.kind ∈ agent.allowedActions
  declared : ∃ demand ∈ scene.demand, actionTargetId action = some demand.id
  observed : ∃ id, actionTargetId action = some id ∧
    Sl1AgentObservationTarget.demand id ∈ agent.observationScope
  affordable : action.cost ≤ agent.maxCostPerDecision
  parameters : ∀ demandId pauseTicks, action = .throttleDemand demandId pauseTicks →
    1 ≤ pauseTicks ∧ pauseTicks ≤ sl1AgentMaxCooldownTicks

/-- The decision clock of an agent set to a tick. -/
def clocked (now : Nat) (state : Sl1AgentRuntimeState) : Sl1AgentRuntimeState :=
  { state with lastDecisionTick := some now }

section Gate

variable {scene : Sl1Scene} {agent : Sl1Agent} {now : Nat} {state : Sl1AgentRuntimeState}
  {action : Sl1AgentAction}

private theorem rested_iff : ¬ state.cooldownUntilTick.any (now < ·) ↔
    ∀ cooldownUntil, state.cooldownUntilTick = some cooldownUntil → cooldownUntil ≤ now := by
  cases state.cooldownUntilTick with
  | none => simp
  | some cooldownUntil => simp

private theorem declared_iff : validateTargetExists scene action.kind (actionTargetId action) = none ↔
    ∃ demand ∈ scene.demand, actionTargetId action = some demand.id := by
  cases action with
  | throttleDemand demandId pauseTicks =>
    simp only [validateTargetExists, Sl1AgentAction.kind, actionTargetId, Option.some.injEq]
    constructor
    · intro passed
      split at passed
      · rename_i found
        obtain ⟨demand, member, same⟩ := List.any_eq_true.mp found
        exact ⟨demand, member, (of_decide_eq_true same).symm⟩
      · cases passed
    · rintro ⟨demand, member, same⟩
      rw [if_pos]
      exact List.any_eq_true.mpr ⟨demand, member, decide_eq_true same.symm⟩

private theorem observed_iff :
    ¬ ((actionTargetId action).any fun id => !targetInScope agent action.kind id) ↔
      ∃ id, actionTargetId action = some id ∧
        Sl1AgentObservationTarget.demand id ∈ agent.observationScope := by
  cases action with
  | throttleDemand demandId pauseTicks =>
    simp only [actionTargetId, Sl1AgentAction.kind, targetInScope, Option.any_some,
      Bool.not_eq_true', Bool.not_eq_false, Option.some.injEq, exists_eq_left']
    constructor
    · intro found
      obtain ⟨scope, member, named⟩ := List.any_eq_true.mp found
      cases scope with
      | demand id => exact of_decide_eq_true named ▸ member
      | _ => cases named
    · intro member
      exact List.any_eq_true.mpr ⟨_, member, decide_eq_true rfl⟩

private theorem parameters_iff : validateParameters action = none ↔
    ∀ demandId pauseTicks, action = .throttleDemand demandId pauseTicks →
      1 ≤ pauseTicks ∧ pauseTicks ≤ sl1AgentMaxCooldownTicks := by
  cases action with
  | throttleDemand demandId pauseTicks =>
    simp only [validateParameters, Sl1AgentAction.throttleDemand.injEq]
    constructor
    · intro passed
      split at passed
      · cases passed
      · rename_i bounded
        rintro _ _ ⟨-, rfl⟩
        omega
    · intro bounded
      have := bounded demandId pauseTicks ⟨rfl, rfl⟩
      rw [if_neg (by omega)]

/-- The six checks, in whatever order they are made, let exactly the admissible actions pass. -/
theorem rejection_eq_none_iff : rejection scene agent now state action = none ↔
    Admissible scene agent now state action := by
  constructor
  · intro passed
    unfold rejection at passed
    simp only at passed
    by_cases rested : state.cooldownUntilTick.any (now < ·)
    · rw [if_pos rested] at passed
      cases passed
    rw [if_neg rested] at passed
    by_cases allowed : ¬ agent.allowedActions.contains action.kind
    · rw [if_pos allowed] at passed
      cases passed
    rw [if_neg allowed] at passed
    cases declared : validateTargetExists scene action.kind (actionTargetId action) with
    | some reason =>
      rw [declared] at passed
      cases passed
    | none =>
      simp only [declared] at passed
      by_cases observed : (actionTargetId action).any fun id => !targetInScope agent action.kind id
      · rw [if_pos observed] at passed
        cases passed
      rw [if_neg observed] at passed
      by_cases affordable : agent.maxCostPerDecision < action.cost
      · rw [if_pos affordable] at passed
        cases passed
      rw [if_neg affordable] at passed
      exact {
        rested := rested_iff.mp rested
        allowed := by simpa using allowed
        declared := declared_iff.mp declared
        observed := observed_iff.mp observed
        affordable := Nat.le_of_not_lt affordable
        parameters := parameters_iff.mp passed }
  · rintro ⟨rested, allowed, declared, observed, affordable, parameters⟩
    unfold rejection
    simp only
    rw [if_neg (rested_iff.mpr rested), if_neg (by simpa using allowed), declared_iff.mpr declared]
    simp only
    rw [if_neg (observed_iff.mpr observed), if_neg (Nat.not_lt.mpr affordable),
      parameters_iff.mpr parameters]

end Gate

/-- The turns an agent may take. -/
inductive Turn (scene : Sl1Scene) (now : Nat) (backend : AgentBackend) (agent : Sl1Agent)
    (frame : Frame) : Frame → Prop
  | absent (missing : frame.runtime.agents[agent.id]? = none) :
      Turn scene now backend agent frame frame
  | idle {state} (held : frame.runtime.agents[agent.id]? = some state)
      (early : shouldFire agent now state = false) : Turn scene now backend agent frame frame
  | disabled {state} (held : frame.runtime.agents[agent.id]? = some state)
      (due : shouldFire agent now state = true) (llm : agent.kind = .llm) :
      Turn scene now backend agent frame (reportDisabled agent now state frame)
  | silent {state} (held : frame.runtime.agents[agent.id]? = some state)
      (due : shouldFire agent now state = true) (live : agent.kind ≠ .llm)
      (quiet : backend agent now = none) :
      Turn scene now backend agent frame (frame.modify (updateAgent agent (clocked now)))
  | refused {state action reason} (held : frame.runtime.agents[agent.id]? = some state)
      (due : shouldFire agent now state = true) (live : agent.kind ≠ .llm)
      (proposed : backend agent now = some action)
      (inadmissible : ¬ Admissible scene agent now state action)
      (named : rejection scene agent now state action = some reason) :
      Turn scene now backend agent frame
        ((frame.modify (updateAgent agent (clocked now))).emit
          (.sl1AgentActionRejected agent.id action.kind.asStr (actionTargetId action) reason.asStr now))
  | applied {state action} (held : frame.runtime.agents[agent.id]? = some state)
      (due : shouldFire agent now state = true) (live : agent.kind ≠ .llm)
      (proposed : backend agent now = some action)
      (admissible : Admissible scene agent now state action) :
      Turn scene now backend agent frame
        ((((frame.modify (updateAgent agent (clocked now))).modify (applyAction now action)).modify
          (updateAgent agent (startCooldown agent now))).emit
            (.sl1AgentActionApplied agent.id action.kind.asStr ((actionTargetId action).getD "")
              action.cost now))

variable {scene : Sl1Scene} {backend : AgentBackend} {agent : Sl1Agent} {now : Nat}
  {frame : Frame} {state : Sl1AgentRuntimeState}

theorem decideOne_turn (scene : Sl1Scene) (now : Nat) (backend : AgentBackend) (frame : Frame)
    (agent : Sl1Agent) :
    Turn scene now backend agent frame (decideOne scene now backend frame agent) := by
  unfold decideOne
  cases held : frame.runtime.agents[agent.id]? with
  | none => exact .absent held
  | some state =>
    simp only
    cases due : shouldFire agent now state with
    | false => exact .idle held due
    | true =>
      simp only [not_true, if_false]
      by_cases llm : agent.kind = .llm
      · rw [if_pos llm]
        exact .disabled held due llm
      rw [if_neg llm]
      cases proposed : backend agent now with
      | none => exact .silent held due llm proposed
      | some action =>
        simp only
        unfold settleAction
        cases judged : rejection scene agent now state action with
        | none => exact .applied held due llm proposed (rejection_eq_none_iff.mp judged)
        | some reason =>
          refine .refused held due llm proposed (fun admissible => ?_) judged
          rw [rejection_eq_none_iff.mpr admissible] at judged
          cases judged

theorem updateAgent_record (held : (frame.record agent.id).state = some state)
    (change : Sl1AgentRuntimeState → Sl1AgentRuntimeState) :
    (frame.modify (updateAgent agent change)).record agent.id =
      { frame.record agent.id with state := some (change state) } := by
  have present : frame.runtime.agents[agent.id]? = some state := held
  simp [Frame.record, updateAgent, present]

theorem updateAgent_record_other {other : String} (apart : agent.id ≠ other) (frame : Frame)
    (change : Sl1AgentRuntimeState → Sl1AgentRuntimeState) :
    (frame.modify (updateAgent agent change)).record other = frame.record other := by
  simp [Frame.record, updateAgent, Std.ExtTreeMap.getElem?_modify, apart]

theorem applyAction_record (now : Nat) (action : Sl1AgentAction) (frame : Frame) (other : String) :
    (frame.modify (applyAction now action)).record other = frame.record other := by
  cases action
  rfl

/-- An agent's turn leaves the records of the others alone. -/
theorem Turn.record_other {after : Frame} {other : String}
    (turn : Turn scene now backend agent frame after) (apart : agent.id ≠ other) :
    after.record other = frame.record other := by
  have clock (change : Sl1AgentRuntimeState → Sl1AgentRuntimeState) (frame : Frame) :=
    updateAgent_record_other apart frame change
  cases turn with
  | absent | idle => rfl
  | disabled held due llm =>
    unfold reportDisabled
    rw [clock]
    split
    · rfl
    · exact frame.emit_record_of rfl (SimEvent.disabledAt_of_ne apart)
  | silent => exact clock _ frame
  | refused => exact (Frame.emit_record_of _ rfl rfl).trans (clock _ frame)
  | applied =>
    refine (Frame.emit_record_of _ (SimEvent.appliedAt_of_ne apart) rfl).trans ?_
    rw [clock, applyAction_record, clock]

/-- What a turn writes in the agent's own record. -/
inductive Entered (scene : Sl1Scene) (backend : AgentBackend) (agent : Sl1Agent) (now : Nat)
    (state : Sl1AgentRuntimeState) (record : AgentRecord) : AgentRecord → Prop
  | idle (early : shouldFire agent now state = false) :
      Entered scene backend agent now state record record
  | disabled (due : shouldFire agent now state = true) (llm : agent.kind = .llm) :
      Entered scene backend agent now state record
        ⟨some { clocked now state with llmDisabledEmitted := true }, record.applied,
          record.disabled ++ if state.llmDisabledEmitted then [] else [now]⟩
  | decided (due : shouldFire agent now state = true) (live : agent.kind ≠ .llm)
      (withheld : ∀ action, backend agent now = some action →
        ¬ Admissible scene agent now state action) :
      Entered scene backend agent now state record
        ⟨some (clocked now state), record.applied, record.disabled⟩
  | applied {action} (due : shouldFire agent now state = true) (live : agent.kind ≠ .llm)
      (proposed : backend agent now = some action)
      (admissible : Admissible scene agent now state action) :
      Entered scene backend agent now state record
        ⟨some (startCooldown agent now (clocked now state)), record.applied ++ [now],
          record.disabled⟩

/-- A due agent's admissible proposal is applied. -/
theorem Entered.applies {record after : AgentRecord} {action : Sl1AgentAction}
    (entered : Entered scene backend agent now state record after)
    (due : shouldFire agent now state = true) (live : agent.kind ≠ .llm)
    (proposed : backend agent now = some action)
    (admissible : Admissible scene agent now state action) :
    after = ⟨some (startCooldown agent now (clocked now state)), record.applied ++ [now],
      record.disabled⟩ := by
  cases entered with
  | idle early =>
    rw [due] at early
    cases early
  | disabled _ llm => exact absurd llm live
  | decided _ _ withheld => exact absurd admissible (withheld _ proposed)
  | applied => rfl

theorem Turn.entered {after : Frame} (turn : Turn scene now backend agent frame after)
    (held : frame.runtime.agents[agent.id]? = some state) :
    Entered scene backend agent now state (frame.record agent.id) (after.record agent.id) := by
  cases turn with
  | absent missing =>
    rw [held] at missing
    cases missing
  | idle present early =>
    obtain rfl := Option.some.inj (held.symm.trans present)
    exact .idle early
  | disabled present due llm =>
    obtain rfl := Option.some.inj (held.symm.trans present)
    have entered : Entered scene backend agent now state (frame.record agent.id) _ :=
      .disabled due llm
    unfold reportDisabled
    cases told : state.llmDisabledEmitted with
    | true =>
      rw [if_pos rfl, updateAgent_record held]
      rw [told, if_pos rfl, List.append_nil] at entered
      exact entered
    | false =>
      have kept : ((frame.emit (.sl1AgentLlmDisabled agent.id now)).record agent.id).state =
          some state := held
      rw [if_neg Bool.false_ne_true, updateAgent_record kept, Frame.emit_disabled_record]
      rw [told, if_neg Bool.false_ne_true] at entered
      exact entered
  | silent present due live quiet =>
    obtain rfl := Option.some.inj (held.symm.trans present)
    rw [updateAgent_record held]
    refine .decided due live fun action proposed => ?_
    rw [quiet] at proposed
    cases proposed
  | refused present due live proposed inadmissible =>
    obtain rfl := Option.some.inj (held.symm.trans present)
    rw [Frame.emit_record_of _ rfl rfl, updateAgent_record held]
    refine .decided due live fun action also => ?_
    obtain rfl := Option.some.inj (proposed.symm.trans also)
    exact inadmissible
  | applied present due live proposed admissible =>
    rename_i action
    obtain rfl := Option.some.inj (held.symm.trans present)
    have decided := updateAgent_record held (clocked now)
    have effected := (applyAction_record now action _ agent.id).trans decided
    have kept := congrArg AgentRecord.state effected
    rw [Frame.emit_applied_record, updateAgent_record kept, effected]
    exact .applied due live proposed admissible

end Agents

section Run

variable {scene : Sl1Scene} (backend : AgentBackend) {agent : Sl1Agent}
  (distinct : (scene.agents.map (·.id)).Nodup) (member : agent ∈ scene.agents)
include distinct member

/-- In a tick only the agent's own turn writes its record. -/
theorem run_entered (now : Nat) {frame : Frame} {state : Sl1AgentRuntimeState}
    (held : (frame.record agent.id).state = some state) :
    Agents.Entered scene backend agent now state (frame.record agent.id)
      ((run scene backend now frame).record agent.id) := by
  have others (current : Frame) (other : Sl1Agent) (present : other ∈ scene.agents)
      (different : other ≠ agent) :
      (Agents.decideOne scene now backend current other).record agent.id =
        current.record agent.id := by
    refine (Agents.decideOne_turn scene now backend current other).record_other fun same => ?_
    exact different (List.inj_on_of_nodup_map distinct present member same)
  let quiet := Observability.run scene now (Objectives.run scene now (runFlow scene now frame))
  have reached : quiet.record agent.id = frame.record agent.id := by
    rw [Observability.run_record, Objectives.run_record, runFlow_eq, Demand.runDemand_record,
      moveStock_record]
  obtain ⟨before, same, final⟩ :=
    foldl_once (Frame.record agent.id) (List.Nodup.of_map _ distinct) member others quiet
  have after : (run scene backend now frame).record agent.id =
      (Agents.run scene now backend quiet).record agent.id := by
    rw [run, runObservers_eq]
    exact Milestones.run_record agent.id scene now _
  rw [after, ← same.trans reached]
  have present : before.runtime.agents[agent.id]? = some state :=
    (congrArg AgentRecord.state (same.trans reached)).trans held
  exact final ▸ (Agents.decideOne_turn scene now backend before agent).entered present

end Run

end Simetro.Sl1
