import Simetro.Sl1.StoreInvariants

/-! The outcome of a run is exact while it lasts and final once it is decided. -/

namespace Simetro.Protocol

def SimEvent.isFailureFired : SimEvent → Bool
  | .sl1FailureConditionFired _ _ => true
  | _ => false

def SimEvent.isOutcomeChanged : SimEvent → Bool
  | .sl1GameOutcomeChanged _ _ _ _ => true
  | _ => false

end Simetro.Protocol

namespace Simetro.Sl1

open Simetro.Library Simetro.Protocol

namespace Frame

variable (frame : Frame)

/-- The transcript shows the condition fired on `tick`. -/
def FiredAt (id : String) (tick : Nat) : Prop :=
  SimEvent.sl1FailureConditionFired id tick ∈ frame.events

/-- State and transcript of the failure conditions. -/
def failures : IdMap Sl1FailureConditionRuntime × List SimEvent :=
  (frame.runtime.failureConditions, frame.events.filter SimEvent.isFailureFired)

/-- The outcome and how often it was announced. -/
def verdict : GameOutcome × Nat :=
  (frame.runtime.gameOutcome, frame.events.countP SimEvent.isOutcomeChanged)

variable {frame} {other : Frame}

theorem firedAt_iff (id : String) (tick : Nat) : frame.FiredAt id tick ↔
    SimEvent.sl1FailureConditionFired id tick ∈ frame.failures.2 := by
  simp [FiredAt, failures, SimEvent.isFailureFired]

/-- Events of the objectives pass belong to the standing. -/
theorem filter_of_standing (same : other.standing = frame.standing) {keep : SimEvent → Bool}
    (standing : ∀ event, keep event = true → event.isStanding = true) :
    other.events.filter keep = frame.events.filter keep := by
  have narrowed (events : List SimEvent) :
      (events.filter SimEvent.isStanding).filter keep = events.filter keep := by
    rw [List.filter_filter]
    apply List.filter_congr
    intro event _
    cases kept : keep event with
    | false => rfl
    | true => rw [standing event kept, Bool.and_self]
  rw [← narrowed other.events, ← narrowed frame.events]
  exact congrArg (List.filter keep) (congrArg Standing.events same)

theorem failures_of_standing (same : other.standing = frame.standing) :
    other.failures = frame.failures := by
  have conditions : other.runtime.failureConditions = frame.runtime.failureConditions :=
    congrArg Standing.failureConditions same
  have events : other.events.filter SimEvent.isFailureFired =
      frame.events.filter SimEvent.isFailureFired := by
    apply filter_of_standing same
    intro event fired
    cases event <;> first | rfl | cases fired
  rw [failures, failures, conditions, events]

theorem verdict_of_standing (same : other.standing = frame.standing) :
    other.verdict = frame.verdict := by
  have outcome : other.runtime.gameOutcome = frame.runtime.gameOutcome :=
    congrArg Standing.gameOutcome same
  have events : other.events.filter SimEvent.isStanding = frame.events.filter SimEvent.isStanding :=
    congrArg Standing.events same
  have narrowed (events : List SimEvent) : (events.filter SimEvent.isStanding).countP
      SimEvent.isOutcomeChanged = events.countP SimEvent.isOutcomeChanged := by
    rw [List.countP_filter]
    apply List.countP_congr
    intro event _
    cases event <;> simp [SimEvent.isOutcomeChanged, SimEvent.isStanding]
  simp only [verdict, outcome, ← narrowed other.events, events]
  rw [narrowed]

end Frame

/-- The transcript records exactly the fired conditions, all of them declared. -/
structure FailuresRecorded (scene : Sl1Scene)
    (failures : IdMap Sl1FailureConditionRuntime × List SimEvent) : Prop where
  declared : ∀ id : String, id ∈ failures.1 ↔ ∃ condition ∈ scene.failureConditions, condition.id = id
  recorded : ∀ (id : String) (tick : Nat), SimEvent.sl1FailureConditionFired id tick ∈ failures.2 ↔
    ∃ entry, failures.1[id]? = some entry ∧ entry.firedAtTick = some tick

namespace Objectives

variable (scene : Sl1Scene) (now : Nat) (frame : Frame)

/-- What evaluating the objectives leaves alone. -/
private def conditions (frame : Frame) :
    (IdMap Sl1FailureConditionRuntime × List SimEvent) × IdMap Sl1VictoryConditionRuntime ×
      (GameOutcome × Nat) :=
  (frame.failures, frame.runtime.victoryConditions, frame.verdict)

private theorem evaluateObjectives_conditions :
    conditions (evaluateObjectives scene now frame) = conditions frame := by
  refine evaluateObjectives_rule (conditions · = conditions frame) rfl (fun _ _ same => same)
    (fun _ _ _ same => same) (fun _ _ _ same => same) fun current _ _ _ same => Eq.trans ?_ same
  simp [conditions, Frame.failures, Frame.verdict, SimEvent.isFailureFired,
    SimEvent.isOutcomeChanged]

/-- What evaluating the failure conditions leaves alone. -/
private def victories (frame : Frame) :
    IdMap Sl1VictoryConditionRuntime × (GameOutcome × Nat) :=
  (frame.runtime.victoryConditions, frame.verdict)

private theorem evaluateFailureConditions_victories :
    victories (evaluateFailureConditions scene now frame) = victories frame := by
  refine evaluateFailureConditions_rule (victories · = victories frame) rfl (fun _ _ _ same => same)
    fun current _ same => Eq.trans ?_ same
  simp [victories, Frame.verdict, SimEvent.isOutcomeChanged]

/-- What evaluating the victory conditions leaves alone. -/
private def failing (frame : Frame) :
    (IdMap Sl1FailureConditionRuntime × List SimEvent) × (GameOutcome × Nat) :=
  (frame.failures, frame.verdict)

private theorem evaluateVictoryConditions_failing :
    failing (evaluateVictoryConditions scene now frame) = failing frame := by
  refine evaluateVictoryConditions_rule (failing · = failing frame) rfl (fun _ _ _ same => same)
    fun current _ same => Eq.trans ?_ same
  simp [failing, Frame.failures, Frame.verdict, SimEvent.isFailureFired, SimEvent.isOutcomeChanged]

section Failures

variable {scene now frame}

/-- The failures on record are those of `now`. -/
private structure FiredNow (scene : Sl1Scene) (now : Nat) (frame : Frame) : Prop where
  recorded : FailuresRecorded scene frame.failures
  current : ∀ id tick, frame.FiredAt id tick → tick = now

private theorem evaluateFailureCondition_firedNow {condition : Sl1FailureCondition}
    (member : condition ∈ scene.failureConditions) (fired : FiredNow scene now frame) :
    FiredNow scene now (evaluateFailureCondition scene now frame condition) := by
  obtain ⟨⟨declared, recorded⟩, current⟩ := fired
  unfold evaluateFailureCondition
  split
  · exact ⟨⟨declared, recorded⟩, current⟩
  · rename_i entry found
    have inserted (next : Sl1FailureConditionRuntime) (id : String) :
        id ∈ frame.runtime.failureConditions.insert condition.id next ↔
          ∃ other ∈ scene.failureConditions, other.id = id := by
      rw [Std.ExtTreeMap.mem_insert, Std.LawfulEqCmp.compare_eq_iff_eq]
      constructor
      · rintro (same | present)
        · exact ⟨condition, member, same⟩
        · exact (declared id).mp present
      · exact fun known => .inr ((declared id).mpr known)
    have stored (next : Sl1FailureConditionRuntime) (id : String) :
        (frame.runtime.failureConditions.insert condition.id next)[id]? =
          if condition.id = id then some next else frame.failures.1[id]? := by
      rw [Std.ExtTreeMap.getElem?_insert]
      simp [Frame.failures]
    have held : frame.failures.1[condition.id]? = some entry := found
    simp only
    split
    · rename_i fires
      have unfired : entry.firedAtTick = none := by simpa using fires.1
      refine ⟨⟨inserted _, fun id tick => ?_⟩, fun id tick fired => ?_⟩
      · change _ ∈ (frame.events ++ [_]).filter _ ↔ ∃ entry,
          (frame.runtime.failureConditions.insert condition.id _)[id]? = some entry ∧ _
        rw [List.filter_append, List.mem_append, stored]
        refine (or_congr_left (recorded id tick)).trans ?_
        by_cases same : condition.id = id
        · subst same
          simp [SimEvent.isFailureFired, held, unfired, eq_comm]
        · simp [SimEvent.isFailureFired, same, Ne.symm same]
      · rcases List.mem_append.mp fired with earlier | new
        · exact current id tick earlier
        · exact (SimEvent.sl1FailureConditionFired.inj (List.mem_singleton.mp new)).2
    · refine ⟨⟨inserted _, fun id tick => ?_⟩, current⟩
      change _ ∈ frame.failures.2 ↔ ∃ entry,
        (frame.runtime.failureConditions.insert condition.id _)[id]? = some entry ∧ _
      rw [recorded, stored]
      by_cases same : condition.id = id
      · subst same
        simp [held]
      · simp [same]

private theorem evaluateFailureConditions_firedNow (fired : FiredNow scene now frame) :
    FiredNow scene now (evaluateFailureConditions scene now frame) :=
  List.foldlRecOn _ _ fired fun _ fired _ member => evaluateFailureCondition_firedNow member fired

end Failures

section Victories

variable {scene now frame}

theorem vcMet_mono {params : Sl1VictoryConditionParams} {later : Nat} (after : now ≤ later)
    (met : vcMet now params = true) : vcMet later params = true := by
  cases params with
  | surviveUntil atTick =>
    simp only [vcMet, decide_eq_true_eq] at met ⊢
    omega

/-- After a pass a declared condition is achieved if it was, or is met now. -/
private theorem evaluateVictoryConditions_entry (valid : scene.Valid)
    {condition : Sl1VictoryCondition} (member : condition ∈ scene.victoryConditions)
    {entry : Sl1VictoryConditionRuntime}
    (held : frame.runtime.victoryConditions[condition.id]? = some entry) : ∃ next,
      (evaluateVictoryConditions scene now frame).runtime.victoryConditions[condition.id]? =
        some next ∧
      next.metAtTick.isSome = (entry.metAtTick.isSome || vcMet now condition.params) := by
  have distinct := valid.victoryConditionsIncreasing.distinct
  have others (current : Frame) (other : Sl1VictoryCondition)
      (present : other ∈ scene.victoryConditions) (different : other ≠ condition) :
      (evaluateVictoryCondition now current other).runtime.victoryConditions[condition.id]? =
        current.runtime.victoryConditions[condition.id]? := by
    have apart : other.id ≠ condition.id := fun same =>
      different (List.inj_on_of_nodup_map distinct present member same)
    unfold evaluateVictoryCondition
    split
    · rfl
    · split
      · change (current.runtime.victoryConditions.insert other.id _)[condition.id]? = _
        rw [Std.ExtTreeMap.getElem?_insert]
        simp [apart]
      · rfl
  obtain ⟨before, reached, final⟩ := foldl_once
    (fun frame : Frame => frame.runtime.victoryConditions[condition.id]?)
    (List.Nodup.of_map _ distinct) member others frame
  unfold evaluateVictoryConditions
  rw [final]
  rw [held] at reached
  unfold evaluateVictoryCondition
  rw [reached]
  simp only
  split
  · rename_i met
    refine ⟨⟨some now⟩, ?_, by simp [met.1]⟩
    change (before.runtime.victoryConditions.insert condition.id _)[condition.id]? = _
    rw [Std.ExtTreeMap.getElem?_insert_self]
  · rename_i unmet
    refine ⟨entry, reached, ?_⟩
    cases achieved : entry.metAtTick with
    | some tick => simp
    | none =>
      simp only [achieved, Option.isNone_none, and_true] at unmet
      simp [unmet]

end Victories

section Outcome

variable {scene now frame} {other : Frame}

theorem outcomeOf_congr
    (conditions : other.runtime.failureConditions = frame.runtime.failureConditions)
    (victories : other.runtime.victoryConditions = frame.runtime.victoryConditions) :
    outcomeOf scene other.runtime = outcomeOf scene frame.runtime := by
  have fired : fcFired other.runtime = fcFired frame.runtime := by
    funext condition
    simp only [fcFired, conditions]
  have achieved : vcAchieved other.runtime = vcAchieved frame.runtime := by
    funext condition
    simp only [vcAchieved, victories]
  simp only [outcomeOf, fired, achieved]

theorem fcFired_iff (recorded : FailuresRecorded scene frame.failures)
    (condition : Sl1FailureCondition) :
    fcFired frame.runtime condition = true ↔ ∃ tick, frame.FiredAt condition.id tick := by
  simp only [Frame.firedAt_iff, recorded.recorded]
  simp only [fcFired, Frame.failures, Option.isSome_iff_exists, Option.bind_eq_some_iff]

/-- As long as the outcome is not a loss, no condition has fired. -/
theorem unfired_of_outcomeOf (recorded : FailuresRecorded scene frame.failures)
    (notLost : ∀ reason, outcomeOf scene frame.runtime ≠ .lost reason) (id : String) (tick : Nat) :
    ¬ frame.FiredAt id tick := by
  intro fired
  obtain ⟨entry, held, -⟩ := (recorded.recorded id tick).mp ((Frame.firedAt_iff id tick).mp fired)
  obtain ⟨condition, member, rfl⟩ := (recorded.declared id).mp
    (Std.ExtTreeMap.mem_iff_isSome_getElem?.mpr (by simp [held]))
  have firedNow := (fcFired_iff recorded condition).mpr ⟨tick, fired⟩
  unfold outcomeOf at notLost
  split at notLost
  · exact notLost _ rfl
  · rename_i none
    exact absurd firedNow (List.find?_eq_none.mp none condition member)

theorem recomputeOutcome_failures :
    (recomputeOutcome scene now frame).failures = frame.failures := by
  refine recomputeOutcome_rule (fun current => current.failures = frame.failures) rfl
    (fun current _ _ _ same => Eq.trans ?_ same) fun _ _ same => same
  simp [Frame.failures, SimEvent.isFailureFired]

theorem recomputeOutcome_victories :
    (recomputeOutcome scene now frame).runtime.victoryConditions =
      frame.runtime.victoryConditions :=
  recomputeOutcome_rule (fun current => current.runtime.victoryConditions =
    frame.runtime.victoryConditions) rfl (fun _ _ _ _ same => same) fun _ _ same => same

/-- A change of outcome is announced. -/
theorem recomputeOutcome_verdict (scene : Sl1Scene) (now : Nat) (frame : Frame) :
    (recomputeOutcome scene now frame).verdict =
    (outcomeOf scene frame.runtime, if outcomeOf scene frame.runtime = frame.runtime.gameOutcome
      then frame.verdict.2 else frame.verdict.2 + 1) := by
  unfold recomputeOutcome
  simp only
  split
  · rename_i same
    rw [same]
    rfl
  · simp [Frame.verdict, SimEvent.isOutcomeChanged]

end Outcome

end Objectives

/-- Standing of a run at `now`: failures on record share one tick, victories are
those due, the outcome follows from both and was announced once if decided. -/
structure OutcomeExact (scene : Sl1Scene) (now : Nat) (frame : Frame) : Prop where
  recorded : FailuresRecorded scene frame.failures
  together : ∀ id tick other otherTick, frame.FiredAt id tick → frame.FiredAt other otherTick →
    tick = otherTick
  victories : ∀ condition ∈ scene.victoryConditions, ∃ entry,
    frame.runtime.victoryConditions[condition.id]? = some entry ∧
    ((∀ id tick, ¬ frame.FiredAt id tick) →
      entry.metAtTick.isSome = Objectives.vcMet now condition.params)
  outcome : frame.runtime.gameOutcome = Objectives.outcomeOf scene frame.runtime
  announced : frame.verdict.2 = if frame.runtime.gameOutcome.isTerminal then 1 else 0

section Run

variable {scene : Sl1Scene} (valid : scene.Valid) {now later : Nat} {frame : Frame}

theorem OutcomeExact.of_standing {other : Frame} (exact_ : OutcomeExact scene now frame)
    (same : other.standing = frame.standing) : OutcomeExact scene now other := by
  have failures := Frame.failures_of_standing same
  have verdict := Frame.verdict_of_standing same
  have conditions : other.runtime.failureConditions = frame.runtime.failureConditions :=
    congrArg Standing.failureConditions same
  have victories : other.runtime.victoryConditions = frame.runtime.victoryConditions :=
    congrArg Standing.victoryConditions same
  have outcome : other.runtime.gameOutcome = frame.runtime.gameOutcome :=
    congrArg Standing.gameOutcome same
  have fired (id : String) (tick : Nat) : other.FiredAt id tick ↔ frame.FiredAt id tick := by
    rw [Frame.firedAt_iff, Frame.firedAt_iff, failures]
  refine ⟨failures ▸ exact_.recorded, ?_, ?_, ?_, ?_⟩
  · simpa only [fired] using exact_.together
  · simpa only [fired, victories] using exact_.victories
  · rw [outcome, exact_.outcome, Objectives.outcomeOf_congr conditions victories]
  · rw [verdict, outcome]
    exact exact_.announced

/-- A decided run keeps its standing. -/
private theorem OutcomeExact.decided (exact_ : OutcomeExact scene now frame) (after : now ≤ later)
    (terminal : frame.runtime.gameOutcome.isTerminal = true) : OutcomeExact scene later frame := by
  refine { exact_ with victories := fun condition member => ?_ }
  obtain ⟨entry, held, met⟩ := exact_.victories condition member
  refine ⟨entry, held, fun unfired => ?_⟩
  have won : frame.runtime.gameOutcome = .won := by
    have outcome := exact_.outcome
    unfold Objectives.outcomeOf at outcome
    split at outcome
    · rename_i lost found
      have fired := List.find?_some found
      obtain ⟨tick, firedAt⟩ := (Objectives.fcFired_iff exact_.recorded lost).mp fired
      exact absurd firedAt (unfired _ _)
    · split at outcome
      · exact outcome
      · rw [outcome] at terminal
        cases terminal
  have achieved : entry.metAtTick.isSome = true := by
    have outcome := exact_.outcome
    rw [won] at outcome
    unfold Objectives.outcomeOf at outcome
    split at outcome
    · cases outcome
    · split at outcome
      · rename_i all
        simp only [Bool.and_eq_true, List.all_eq_true] at all
        have own := all.2 condition member
        simpa [Objectives.vcAchieved, held] using own
      · cases outcome
  rw [achieved, Objectives.vcMet_mono after ((met unfired).symm.trans achieved)]

include valid in
/-- A run in progress is brought up to date. -/
private theorem OutcomeExact.evaluated (exact_ : OutcomeExact scene now frame)
    (after : now ≤ later) (running : frame.runtime.gameOutcome.isTerminal = false) :
    OutcomeExact scene later (Objectives.run scene later frame) := by
  have inProgress : frame.runtime.gameOutcome = .inProgress := by
    cases outcome : frame.runtime.gameOutcome <;> simp_all [GameOutcome.isTerminal]
  have unfired := Objectives.unfired_of_outcomeOf exact_.recorded
    (by simp [← exact_.outcome, inProgress])
  let judged := Objectives.evaluateObjectives scene later frame
  let failed := Objectives.evaluateFailureConditions scene later judged
  let met := Objectives.evaluateVictoryConditions scene later failed
  let settled := Objectives.recomputeOutcome scene later met
  have judgedSame := Objectives.evaluateObjectives_conditions scene later frame
  have failedSame := Objectives.evaluateFailureConditions_victories scene later judged
  have metSame := Objectives.evaluateVictoryConditions_failing scene later failed
  have judgedFailures : judged.failures = frame.failures := congrArg (·.1) judgedSame
  have metFailures : met.failures = failed.failures := congrArg (·.1) metSame
  have settledFailures : settled.failures = met.failures := Objectives.recomputeOutcome_failures
  have metVerdict : met.verdict = frame.verdict :=
    (congrArg (·.2) metSame).trans ((congrArg (·.2) failedSame).trans (congrArg (·.2.2) judgedSame))
  have fired : Objectives.FiredNow scene later failed := by
    refine Objectives.evaluateFailureConditions_firedNow ⟨judgedFailures ▸ exact_.recorded, ?_⟩
    intro id tick firedAt
    rw [Frame.firedAt_iff, judgedFailures, ← Frame.firedAt_iff] at firedAt
    exact absurd firedAt (unfired id tick)
  have settledVerdict := Objectives.recomputeOutcome_verdict scene later met
  have failedVictories : failed.runtime.victoryConditions = frame.runtime.victoryConditions :=
    (congrArg (·.1) failedSame).trans (congrArg (·.2.1) judgedSame)
  have settledVictories : settled.runtime.victoryConditions = met.runtime.victoryConditions :=
    Objectives.recomputeOutcome_victories
  have final : OutcomeExact scene later settled := by
    refine ⟨?_, ?_, ?_, ?_, ?_⟩
    · rw [settledFailures, metFailures]
      exact fired.recorded
    · intro id tick other otherTick first second
      rw [Frame.firedAt_iff, settledFailures, metFailures, ← Frame.firedAt_iff] at first second
      exact (fired.current _ _ first).trans (fired.current _ _ second).symm
    · intro condition member
      obtain ⟨entry, held, achieved⟩ := exact_.victories condition member
      obtain ⟨next, stored, isMet⟩ := Objectives.evaluateVictoryConditions_entry valid member
        (failedVictories ▸ held)
      refine ⟨next, settledVictories ▸ stored, fun _ => ?_⟩
      rw [isMet, achieved unfired]
      cases before : Objectives.vcMet now condition.params with
      | false => rfl
      | true => rw [Objectives.vcMet_mono after before, Bool.true_or]
    · have conditions : settled.runtime.failureConditions = met.runtime.failureConditions :=
        congrArg (·.1) settledFailures
      rw [Objectives.outcomeOf_congr conditions settledVictories]
      exact congrArg (·.1) settledVerdict
    · have outcome : settled.runtime.gameOutcome = _ := congrArg (·.1) settledVerdict
      have count : settled.verdict.2 = _ := congrArg (·.2) settledVerdict
      have silent : met.verdict.2 = 0 := by
        rw [metVerdict, exact_.announced, running]
        rfl
      have undecided : met.runtime.gameOutcome = .inProgress :=
        (congrArg (·.1) metVerdict).trans inProgress
      rw [outcome, count, silent, undecided]
      cases Objectives.outcomeOf scene met.runtime <;> simp [GameOutcome.isTerminal]
  have phased : Objectives.run scene later frame = settled.modify fun runtime =>
      { runtime with gamePhase := Objectives.computePhase scene runtime } := by
    unfold Objectives.run
    rw [if_neg (by simp [running])]
  rw [phased]
  exact final.of_standing rfl

include valid in
theorem OutcomeExact.run (exact_ : OutcomeExact scene now frame) (after : now ≤ later) :
    OutcomeExact scene later (Objectives.run scene later frame) := by
  cases terminal : frame.runtime.gameOutcome.isTerminal with
  | false => exact exact_.evaluated valid after terminal
  | true =>
    have kept : Objectives.run scene later frame = frame := by
      unfold Objectives.run
      rw [if_pos terminal]
    rw [kept]
    exact exact_.decided after terminal

end Run

theorem runFlow_standing (scene : Sl1Scene) (now : Nat) (frame : Frame) :
    (runFlow scene now frame).standing = frame.standing := by
  have moved : (moveStock scene now frame).standing = frame.standing := by
    have aged : (Transforms.ageFreshness scene now (Pressure.run scene now frame)).standing =
        frame.standing := Pressure.run_standing scene now frame
    rw [moveStock_eq]
    exact (Transforms.runTransforms_standing scene now _).trans aged
  rw [runFlow_eq]
  exact (Demand.runDemand_standing now _ scene).trans moved

theorem run_standing (scene : Sl1Scene) (backend : AgentBackend) (now : Nat) (frame : Frame) :
    (run scene backend now frame).standing =
      (Objectives.run scene now (runFlow scene now frame)).standing :=
  Frame.standing_of_core (runObservers_core scene backend now _)

/-- A fresh load stands at its beginning. -/
theorem OutcomeExact.load {scene : Sl1Scene} (valid : scene.Valid) :
    OutcomeExact scene 0 (Frame.load scene) := by
  have unfired (id : String) (entry : Sl1FailureConditionRuntime)
      (held : (Frame.load scene).runtime.failureConditions[id]? = some entry) :
      entry.firedAtTick = none := by
    obtain ⟨_, -, -, rfl⟩ := table_found held
    rfl
  have held (condition : Sl1VictoryCondition) (member : condition ∈ scene.victoryConditions) :
      (Frame.load scene).runtime.victoryConditions[condition.id]? = some {} :=
    table_of_mem valid.victoryConditionsIncreasing.distinct member
  have recorded : FailuresRecorded scene (Frame.load scene).failures := by
    refine ⟨fun id => mem_table, fun id tick => ⟨fun event => by simp [Frame.failures, Frame.load] at event, ?_⟩⟩
    rintro ⟨entry, found, fired⟩
    rw [unfired id entry found] at fired
    cases fired
  refine ⟨recorded, fun _ _ _ _ event => by simp [Frame.FiredAt, Frame.load] at event, ?_, ?_, rfl⟩
  · intro condition member
    refine ⟨{}, held condition member, fun _ => ?_⟩
    cases due : condition.params with
    | surviveUntil atTick =>
      have positive := (valid.victoryConditions condition member).atTick_pos atTick due
      simp [Objectives.vcMet]
      omega
  · unfold Objectives.outcomeOf
    split
    · rename_i condition found
      obtain ⟨tick, event⟩ := (Objectives.fcFired_iff recorded condition).mp (List.find?_some found)
      simp [Frame.FiredAt, Frame.load] at event
    · split
      · rename_i all
        simp only [Bool.and_eq_true, List.all_eq_true] at all
        cases listed : scene.victoryConditions with
        | nil => simp [listed] at all
        | cons condition rest =>
          have member : condition ∈ scene.victoryConditions := by simp [listed]
          have achieved := all.2 condition member
          simp [Objectives.vcAchieved, held condition member] at achieved
      · rfl

theorem ticks_exact {scene : Sl1Scene} (valid : scene.Valid) (backend : AgentBackend) (count : Nat) :
    OutcomeExact scene (worldTick count) (ticks scene backend count) := by
  induction count with
  | zero => exact .load valid
  | succ count ih =>
    have later : worldTick count ≤ worldTick (count + 1) := by
      rw [worldTick_eq, worldTick_eq]
      omega
    exact ((ih.of_standing (runFlow_standing scene _ _)).run valid later).of_standing
      (run_standing scene backend _ _)

/-- Once decided, a run keeps its standing. -/
theorem standing_final (scene : Sl1Scene) (backend : AgentBackend) {count later : Nat}
    (decided : (ticks scene backend count).runtime.gameOutcome.isTerminal = true)
    (after : count ≤ later) :
    (ticks scene backend later).standing = (ticks scene backend count).standing := by
  induction later, after using Nat.le_induction with
  | base => rfl
  | succ later _ ih =>
    have same : (ticks scene backend later).runtime.gameOutcome = _ :=
      congrArg Standing.gameOutcome ih
    have flowed := runFlow_standing scene (worldTick (later + 1)) (ticks scene backend later)
    have outcome : (runFlow scene (worldTick (later + 1)) (ticks scene backend later)).runtime.gameOutcome =
        (ticks scene backend later).runtime.gameOutcome := congrArg Standing.gameOutcome flowed
    have terminal : (runFlow scene (worldTick (later + 1))
        (ticks scene backend later)).runtime.gameOutcome.isTerminal = true := by
      rw [outcome, same]
      exact decided
    rw [ticks, run_standing, Objectives.run, if_pos terminal, flowed]
    exact ih

/-- In a list sorted by key, `find?` returns the least key that passes. -/
theorem find?_least {Element : Type} {key : Element → String} {elements : List Element}
    (increasing : Increasing key elements) {test : Element → Bool} {found other : Element}
    (located : elements.find? test = some found) (member : other ∈ elements)
    (passes : test other = true) : key found ≤ key other := by
  obtain ⟨-, front, back, rfl, failing⟩ := List.find?_eq_some_iff_append.mp located
  rcases List.mem_append.mp member with earlier | later
  · have fails := failing other earlier
    simp [passes] at fails
  · rcases List.mem_cons.mp later with same | behind
    · exact le_of_eq (congrArg key same.symm)
    · exact le_of_lt ((List.pairwise_cons.mp (List.pairwise_append.mp increasing).2.1).1 other behind)

/-- In every run the outcome is exact, a decided one is final, and it is announced
at most once. -/
theorem outcome_exact {raw : RawSl1Scene} {scene : Sl1Scene} (accepted : validate raw = .ok scene)
    (backend : AgentBackend) (count : Nat) :
    let run := ticks scene backend count
    (run.runtime.gameOutcome.isTerminal = true → ∀ later, count ≤ later →
      (ticks scene backend later).runtime.gameOutcome = run.runtime.gameOutcome ∧
      (ticks scene backend later).events.filter SimEvent.isStanding =
        run.events.filter SimEvent.isStanding) ∧
    run.events.countP SimEvent.isOutcomeChanged ≤ 1 ∧
    ((∃ tick, ∃ condition ∈ scene.failureConditions, run.FiredAt condition.id tick ∧
        (∀ other otherTick, run.FiredAt other otherTick → otherTick = tick ∧ condition.id ≤ other) ∧
        run.runtime.gameOutcome = .lost ("failure_condition:" ++ condition.id)) ∨
      (∀ id tick, ¬ run.FiredAt id tick) ∧
        run.runtime.gameOutcome =
          if scene.victoryConditions ≠ [] ∧ ∀ condition ∈ scene.victoryConditions,
            Objectives.vcMet (worldTick count) condition.params = true then .won
          else .inProgress) := by
  intro run
  have valid := validate_valid accepted
  have standing := ticks_exact valid backend count
  refine ⟨fun decided later after => ?_, ?_, ?_⟩
  · have final := standing_final scene backend decided after
    exact ⟨congrArg Standing.gameOutcome final, congrArg Standing.events final⟩
  · have announced : run.events.countP SimEvent.isOutcomeChanged = _ := standing.announced
    rw [announced]
    split <;> omega
  · have outcome := standing.outcome
    unfold Objectives.outcomeOf at outcome
    split at outcome
    · rename_i condition found
      have member := List.mem_of_find?_eq_some found
      obtain ⟨tick, fired⟩ := (Objectives.fcFired_iff standing.recorded condition).mp
        (List.find?_some found)
      refine .inl ⟨tick, condition, member, fired, fun other otherTick otherFired => ⟨?_, ?_⟩, outcome⟩
      · exact standing.together _ _ _ _ otherFired fired
      · obtain ⟨entry, held, -⟩ := (standing.recorded.recorded other otherTick).mp
          ((Frame.firedAt_iff other otherTick).mp otherFired)
        obtain ⟨declared, declaredMember, rfl⟩ := (standing.recorded.declared other).mp
          (Std.ExtTreeMap.mem_iff_isSome_getElem?.mpr (by simp [held]))
        exact find?_least valid.failureConditionsIncreasing found declaredMember
          ((Objectives.fcFired_iff standing.recorded declared).mpr ⟨otherTick, otherFired⟩)
    · rename_i unfailed
      have unfired := Objectives.unfired_of_outcomeOf standing.recorded fun reason => by
        unfold Objectives.outcomeOf
        rw [unfailed]
        simp only
        split <;> simp
      have achieved : ∀ condition ∈ scene.victoryConditions,
          Objectives.vcAchieved (ticks scene backend count).runtime condition =
            Objectives.vcMet (worldTick count) condition.params := by
        intro condition member
        obtain ⟨entry, held, met⟩ := standing.victories condition member
        simpa [Objectives.vcAchieved, held] using met unfired
      have every : (!scene.victoryConditions.isEmpty &&
          scene.victoryConditions.all
            (Objectives.vcAchieved (ticks scene backend count).runtime)) = true ↔
          scene.victoryConditions ≠ [] ∧ ∀ condition ∈ scene.victoryConditions,
            Objectives.vcMet (worldTick count) condition.params = true := by
        rw [Bool.and_eq_true, List.all_eq_true]
        refine and_congr (by simp) (forall₂_congr fun condition member => ?_)
        rw [achieved condition member]
      refine .inr ⟨unfired, outcome.trans ?_⟩
      simp only [every]

/-- A place that never holds its ore: the loss and the last victory condition fall
on the same tick. -/
def tiedScene : RawSl1Scene where
  places := [{
    id := "shop", role := "sink", pos := (0, 0)
    storage := (∅ : IdMap RawSl1StorageSlot).insert "ore" { capacity := 10 } }]
  things := [{ id := "ore", kind := "material" }]
  failureConditions := [{
    id := "dry", kind := "stale_target", place := some "shop", thing := some "ore"
    thresholdTicks := some 1, graceTicks := some 1 }]
  victoryConditions := [{ id := "survive", kind := "survive_until", atTick := some 2 }]

theorem outcome_exact_tied : ∃ scene, validate tiedScene = .ok scene ∧
    (ticks scene defaultBackend 2).runtime.gameOutcome = .lost "failure_condition:dry" ∧
    ∀ later, 2 ≤ later →
      (ticks scene defaultBackend later).runtime.gameOutcome = .lost "failure_condition:dry" := by
  have evaluated : yields (validate tiedScene) (fun scene =>
      (ticks scene defaultBackend 2).runtime.gameOutcome = .lost "failure_condition:dry") = true := by
    decide +kernel
  obtain ⟨scene, accepted, lost⟩ := yields_iff.mp evaluated
  rw [decide_eq_true_eq] at lost
  have final := (outcome_exact accepted defaultBackend 2).1 (by rw [lost]; rfl)
  exact ⟨scene, accepted, lost, fun later after => (final later after).1.trans lost⟩

end Simetro.Sl1
