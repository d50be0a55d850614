import Simetro.Library.History
import Simetro.Sl1.EvaluationLayers
import Simetro.Sl1.Footprints
import Simetro.Sl1.OutcomeInvariants
import Simetro.Sl1.References
import Simetro.Sl1.Transcript

/-! Objectives and failure conditions over a whole run: counters, streaks and events against the
history of what each evaluated tick saw. -/

namespace Simetro.Protocol

def SimEvent.isStatusChange (id : String) : SimEvent → Bool
  | .sl1ObjectiveStateChanged objective _ _ _ => objective = id
  | _ => false

def SimEvent.isFiring (id : String) : SimEvent → Bool
  | .sl1FailureConditionFired condition _ => condition = id
  | _ => false

end Simetro.Protocol

namespace Simetro.Sl1

open Simetro.Library Simetro.Library.History Simetro.Protocol

namespace Objectives

variable {scene : Sl1Scene} {now : Nat} {frame : Frame}

/-- A status depends on the simulation alone. -/
theorem objectiveStatus_congr {runtime other : Sl1RuntimeState} (params : Sl1ObjectiveParams)
    (same : runtime.simulation = other.simulation) :
    objectiveStatus scene runtime now params = objectiveStatus scene other now params := by
  have only (runtime : Sl1RuntimeState) : objectiveStatus scene runtime now params =
      objectiveStatus scene runtime.simulation now params := by
    cases params <;> rfl
  rw [only, same, ← only]

/-- A breach depends on the simulation and the objectives' counts. -/
theorem fcBreached_congr {runtime other : Sl1RuntimeState} (params : Sl1FailureConditionParams)
    (same : runtime.simulation = other.simulation) (objectives : runtime.objectives = other.objectives) :
    fcBreached scene runtime now params = fcBreached scene other now params := by
  have only (runtime : Sl1RuntimeState) : fcBreached scene runtime now params =
      fcBreached scene { runtime.simulation with objectives := runtime.objectives } now params := by
    cases params <;> rfl
  rw [only, same, objectives, ← only]

section Judged

/-- What judging one objective reads, and what it writes. -/
private def judging (id : String) (frame : Frame) :
    Sl1RuntimeState × Option Sl1ObjectiveRuntime × List SimEvent :=
  (frame.runtime.simulation, frame.runtime.objectives[id]?,
    frame.events.filter (SimEvent.isStatusChange id))

private theorem warnUnsupported_judging (id : String) (frame : Frame) (objective : Sl1Objective) :
    judging id (warnUnsupported now frame objective) = judging id frame := by
  unfold warnUnsupported
  split <;> rfl

private theorem evaluateObjective_judging {objective : Sl1Objective} {id : String}
    (apart : objective.id ≠ id) :
    judging id (evaluateObjective scene now frame objective) = judging id frame := by
  have warned : judging id (warnUnsupported now frame objective) = judging id frame :=
    warnUnsupported_judging id frame objective
  unfold evaluateObjective
  split
  · rfl
  · rw [← warned]
    simp only
    split
    · simp [judging, getElem?_insert_of_ne apart, Sl1RuntimeState.simulation]
    · simp [judging, getElem?_insert_of_ne apart, Sl1RuntimeState.simulation, apart,
        SimEvent.isStatusChange]

/-- The pass observes each declared objective once. -/
theorem evaluateObjectives_entry (valid : scene.Valid) {objective : Sl1Objective}
    (member : objective ∈ scene.objectives) {entry : Sl1ObjectiveRuntime}
    (held : frame.runtime.objectives[objective.id]? = some entry) {status : Sl1ObjectiveStatus}
    (current : objectiveStatus scene frame.runtime now objective.params = status) :
    (evaluateObjectives scene now frame).runtime.objectives[objective.id]? =
      some (observe now status entry) ∧
    (evaluateObjectives scene now frame).events.filter (SimEvent.isStatusChange objective.id) =
      frame.events.filter (SimEvent.isStatusChange objective.id) ++
        if entry.status = status then []
        else [.sl1ObjectiveStateChanged objective.id (statusTag entry.status) (statusTag status)
          now] := by
  have distinct := valid.objectivesIncreasing.distinct
  have others (current : Frame) (other : Sl1Objective) (present : other ∈ scene.objectives)
      (different : other ≠ objective) : judging objective.id
        (evaluateObjective scene now current other) = judging objective.id current :=
    evaluateObjective_judging fun same =>
      different (List.inj_on_of_nodup_map distinct present member same)
  obtain ⟨before, reached, final⟩ := foldl_once (judging objective.id)
    (List.Nodup.of_map _ distinct) member others frame
  have simulated : before.runtime.simulation = frame.runtime.simulation := congrArg (·.1) reached
  have stored : before.runtime.objectives[objective.id]? = some entry :=
    (congrArg (·.2.1) reached).trans held
  have logged : before.events.filter (SimEvent.isStatusChange objective.id) =
      frame.events.filter (SimEvent.isStatusChange objective.id) := congrArg (·.2.2) reached
  have judged : judging objective.id (evaluateObjective scene now before objective) =
      (before.runtime.simulation, some (observe now status entry),
        before.events.filter (SimEvent.isStatusChange objective.id) ++
          if entry.status = status then []
          else [.sl1ObjectiveStateChanged objective.id (statusTag entry.status)
            (statusTag status) now]) := by
    have same : objectiveStatus scene before.runtime now objective.params = status :=
      (objectiveStatus_congr objective.params simulated).trans current
    have warned : judging objective.id (warnUnsupported now before objective) =
        judging objective.id before := warnUnsupported_judging objective.id before objective
    have kept : (warnUnsupported now before objective).runtime.simulation =
        before.runtime.simulation := congrArg (·.1) warned
    have quiet : (warnUnsupported now before objective).events.filter
        (SimEvent.isStatusChange objective.id) = before.events.filter _ := congrArg (·.2.2) warned
    unfold evaluateObjective
    rw [stored, same]
    simp only
    split
    · simpa [judging, Sl1RuntimeState.simulation, quiet] using kept
    · simpa [judging, Sl1RuntimeState.simulation, quiet, SimEvent.isStatusChange] using kept
  have last := final.trans judged
  refine ⟨congrArg (·.2.1) last, (congrArg (·.2.2) last).trans ?_⟩
  rw [logged]

end Judged

section Failing

/-- What evaluating one failure condition reads, and what it writes. -/
private def checking (id : String) (frame : Frame) :
    (Sl1RuntimeState × IdMap Sl1ObjectiveRuntime) × Option Sl1FailureConditionRuntime ×
      List SimEvent :=
  ((frame.runtime.simulation, frame.runtime.objectives), frame.runtime.failureConditions[id]?,
    frame.events.filter (SimEvent.isFiring id))

private theorem evaluateFailureCondition_checking {condition : Sl1FailureCondition} {id : String}
    (apart : condition.id ≠ id) :
    checking id (evaluateFailureCondition scene now frame condition) = checking id frame := by
  unfold evaluateFailureCondition
  split
  · rfl
  · simp only
    split
    · simp [checking, getElem?_insert_of_ne apart, Sl1RuntimeState.simulation, apart,
        SimEvent.isFiring]
    · simp [checking, getElem?_insert_of_ne apart, Sl1RuntimeState.simulation]

/-- The pass evaluates each declared condition once. -/
theorem evaluateFailureConditions_entry (valid : scene.Valid) {condition : Sl1FailureCondition}
    (member : condition ∈ scene.failureConditions) {entry : Sl1FailureConditionRuntime}
    (held : frame.runtime.failureConditions[condition.id]? = some entry)
    (unfired : entry.firedAtTick = none) {streak : Nat}
    (next : nextStreak (fcBreached scene frame.runtime now condition.params) entry = streak) :
    (evaluateFailureConditions scene now frame).runtime.failureConditions[condition.id]? =
      some ⟨streak, if fcGrace condition.params < streak then some now else none⟩ ∧
    (evaluateFailureConditions scene now frame).events.filter (SimEvent.isFiring condition.id) =
      frame.events.filter (SimEvent.isFiring condition.id) ++
        if fcGrace condition.params < streak then [.sl1FailureConditionFired condition.id now]
        else [] := by
  have distinct := valid.failureConditionsIncreasing.distinct
  have others (current : Frame) (other : Sl1FailureCondition)
      (present : other ∈ scene.failureConditions) (different : other ≠ condition) :
      checking condition.id (evaluateFailureCondition scene now current other) =
        checking condition.id current :=
    evaluateFailureCondition_checking fun same =>
      different (List.inj_on_of_nodup_map distinct present member same)
  obtain ⟨before, reached, final⟩ := foldl_once (checking condition.id)
    (List.Nodup.of_map _ distinct) member others frame
  have simulated : before.runtime.simulation = frame.runtime.simulation := congrArg (·.1.1) reached
  have objectives : before.runtime.objectives = frame.runtime.objectives := congrArg (·.1.2) reached
  have stored : before.runtime.failureConditions[condition.id]? = some entry :=
    (congrArg (·.2.1) reached).trans held
  have logged : before.events.filter (SimEvent.isFiring condition.id) =
      frame.events.filter (SimEvent.isFiring condition.id) := congrArg (·.2.2) reached
  have same : nextStreak (fcBreached scene before.runtime now condition.params) entry = streak := by
    rw [fcBreached_congr condition.params simulated objectives]
    exact next
  have entered : (evaluateFailureCondition scene now before condition).runtime.failureConditions[
        condition.id]? =
        some ⟨streak, if fcGrace condition.params < streak then some now else none⟩ ∧
      (evaluateFailureCondition scene now before condition).events.filter
        (SimEvent.isFiring condition.id) =
        before.events.filter (SimEvent.isFiring condition.id) ++
          if fcGrace condition.params < streak then [.sl1FailureConditionFired condition.id now]
          else [] := by
    unfold evaluateFailureCondition
    rw [stored]
    simp only [same, unfired, Option.isNone_none, true_and]
    by_cases patient : fcGrace condition.params < streak
    · simp [patient, SimEvent.isFiring]
    · simp [patient]
  refine ⟨(congrArg (·.2.1) final).trans entered.1, (congrArg (·.2.2) final).trans ?_⟩
  rw [← logged]
  exact entered.2

end Failing

end Objectives

section Histories

variable (scene : Sl1Scene) (backend : AgentBackend)

/-- The next tick is evaluated. -/
def running (count : Nat) : Bool := !(ticks scene backend count).runtime.gameOutcome.isTerminal

/-- What a look at each evaluated tick saw; a decided run is not evaluated any more. -/
def evaluations {Result : Type} (look : Nat → Result) : Nat → List Result
  | 0 => []
  | count + 1 => if running scene backend count then evaluations look count ++ [look count]
    else evaluations look count

/-- The frame whose objectives tick `count + 1` judges. -/
def flowed (count : Nat) : Frame :=
  runFlow scene (worldTick (count + 1)) (ticks scene backend count)

/-- The frame whose failure conditions tick `count + 1` checks. -/
def judged (count : Nat) : Frame :=
  Objectives.evaluateObjectives scene (worldTick (count + 1)) (flowed scene backend count)

/-- The statuses of an objective. -/
def statuses (objective : Sl1Objective) : Nat → List Sl1ObjectiveStatus :=
  evaluations scene backend fun count => Objectives.objectiveStatus scene
    (flowed scene backend count).runtime (worldTick (count + 1)) objective.params

/-- The breach results of a failure condition. -/
def breaches (condition : Sl1FailureCondition) : Nat → List Bool :=
  evaluations scene backend fun count => Objectives.fcBreached scene
    (judged scene backend count).runtime (worldTick (count + 1)) condition.params

/-- The event of a change of status. -/
def statusChanged (objective : Sl1Objective) :
    Nat × Sl1ObjectiveStatus × Sl1ObjectiveStatus → SimEvent
  | (position, before, after) => .sl1ObjectiveStateChanged objective.id (Objectives.statusTag before)
      (Objectives.statusTag after) (worldTick position)

/-- Patience of the condition, on its results so far. -/
def outlasts (condition : Sl1FailureCondition) (results : List Bool) : Bool :=
  Objectives.fcGrace condition.params < streak results

variable {scene backend}

theorem running_of_succ {count : Nat} (later : running scene backend (count + 1) = true) :
    running scene backend count = true := by
  unfold running at *
  cases decided : (ticks scene backend count).runtime.gameOutcome.isTerminal with
  | false => rfl
  | true =>
    have final := standing_final scene backend decided (Nat.le_succ count)
    have same : (ticks scene backend (count + 1)).runtime.gameOutcome =
        (ticks scene backend count).runtime.gameOutcome := congrArg Standing.gameOutcome final
    rw [same, decided] at later
    exact later

/-- While the run is in progress every tick was evaluated. -/
theorem evaluations_length {Result : Type} (look : Nat → Result) {count : Nat}
    (progress : running scene backend count = true) :
    (evaluations scene backend look count).length = count := by
  induction count with
  | zero => rfl
  | succ count ih =>
    have before := running_of_succ progress
    rw [evaluations, if_pos before, List.length_append, ih before, List.length_singleton]

theorem evaluations_running {Result : Type} (look : Nat → Result) {count : Nat}
    (progress : running scene backend count = true) :
    evaluations scene backend look (count + 1) = evaluations scene backend look count ++ [look count] :=
  if_pos progress

theorem evaluations_decided {Result : Type} (look : Nat → Result) {count : Nat}
    (progress : running scene backend count = false) :
    evaluations scene backend look (count + 1) = evaluations scene backend look count := by
  rw [evaluations, progress]
  rfl

end Histories

namespace Objectives

variable {scene : Sl1Scene} {now : Nat} {frame : Frame}

/-- What the later passes of an evaluation leave of the objectives and failure conditions. -/
theorem run_evaluated (going : frame.runtime.gameOutcome.isTerminal = false) :
    let checked := evaluateFailureConditions scene now (evaluateObjectives scene now frame)
    (run scene now frame).runtime.objectives =
      (evaluateObjectives scene now frame).runtime.objectives ∧
    (run scene now frame).runtime.failureConditions = checked.runtime.failureConditions ∧
    checked.Extends [.victory, .outcome] (run scene now frame) := by
  intro checked
  obtain ⟨conditions, failed⟩ := evaluateFailureConditions_writes scene now
    (evaluateObjectives scene now frame)
  obtain ⟨victories, met⟩ := evaluateVictoryConditions_writes scene now checked
  have settled := recomputeOutcome_writes scene now (evaluateVictoryConditions scene now checked)
  have evaluated : run scene now frame =
      (recomputeOutcome scene now (evaluateVictoryConditions scene now checked)).modify
        fun runtime => { runtime with gamePhase := computePhase scene runtime } := by
    unfold run
    rw [if_neg (by simp [going])]
  rw [evaluated]
  refine ⟨?_, ?_, ?_⟩
  · rw [Frame.modify_runtime, settled, met, failed]
  · rw [Frame.modify_runtime, settled, met]
  · exact .same (((evaluateVictoryConditions_extends scene now checked).mono (by simp)).trans
      ((recomputeOutcome_extends scene now _).mono (by simp))) rfl rfl

theorem isStatusChange_topic {id : String} (event : SimEvent)
    (kept : event.isStatusChange id = true) : event.topic = some .objective := by
  cases event <;> simp_all [SimEvent.isStatusChange, SimEvent.topic]

theorem isFiring_topic {id : String} (event : SimEvent) (kept : event.isFiring id = true) :
    event.topic = some .failure := by
  cases event <;> simp_all [SimEvent.isFiring, SimEvent.topic]

end Objectives

section Ticks

variable {scene : Sl1Scene} {backend : AgentBackend} {count : Nat}

/-- Where the next tick is evaluated, what it leaves of objectives and conditions. -/
private structure Evaluated (scene : Sl1Scene) (backend : AgentBackend) (count : Nat) : Prop where
  objectives : (ticks scene backend (count + 1)).runtime.objectives =
    (judged scene backend count).runtime.objectives
  failureConditions : (ticks scene backend (count + 1)).runtime.failureConditions =
    (Objectives.evaluateFailureConditions scene (worldTick (count + 1))
      (judged scene backend count)).runtime.failureConditions
  objectivesBefore : (flowed scene backend count).runtime.objectives =
    (ticks scene backend count).runtime.objectives
  conditionsBefore : (judged scene backend count).runtime.failureConditions =
    (ticks scene backend count).runtime.failureConditions
  statusEvents : ∀ id, (ticks scene backend (count + 1)).events.filter (SimEvent.isStatusChange id) =
    (judged scene backend count).events.filter (SimEvent.isStatusChange id)
  statusBefore : ∀ id, (flowed scene backend count).events.filter (SimEvent.isStatusChange id) =
    (ticks scene backend count).events.filter (SimEvent.isStatusChange id)
  firings : ∀ id, (ticks scene backend (count + 1)).events.filter (SimEvent.isFiring id) =
    (Objectives.evaluateFailureConditions scene (worldTick (count + 1))
      (judged scene backend count)).events.filter (SimEvent.isFiring id)
  firingsBefore : ∀ id, (judged scene backend count).events.filter (SimEvent.isFiring id) =
    (ticks scene backend count).events.filter (SimEvent.isFiring id)

private theorem ticks_evaluated (progress : running scene backend count = true) :
    Evaluated scene backend count := by
  have stand := run_standing scene backend (worldTick (count + 1)) (ticks scene backend count)
  have before : (flowed scene backend count).standing = (ticks scene backend count).standing :=
    runFlow_standing scene _ _
  have flow : (ticks scene backend count).Extends [.pressure] (flowed scene backend count) :=
    runFlow_extends scene _ _
  have observed : (Objectives.run scene (worldTick (count + 1)) (flowed scene backend count)).Extends
      [.dashboard, .alert, .agent, .milestone] (ticks scene backend (count + 1)) :=
    runObservers_extends scene backend _ _
  have going : (flowed scene backend count).runtime.gameOutcome.isTerminal = false := by
    have same : (flowed scene backend count).runtime.gameOutcome =
        (ticks scene backend count).runtime.gameOutcome := congrArg Standing.gameOutcome before
    rw [same]
    simpa [running] using progress
  obtain ⟨objectives, conditions, later⟩ :=
    @Objectives.run_evaluated scene (worldTick (count + 1)) _ going
  obtain ⟨_, _, judging⟩ := Objectives.evaluateObjectives_writes scene (worldTick (count + 1))
    (flowed scene backend count)
  have judges := Objectives.evaluateObjectives_extends scene (worldTick (count + 1))
    (flowed scene backend count)
  have checks := Objectives.evaluateFailureConditions_extends scene (worldTick (count + 1))
    (judged scene backend count)
  refine ⟨?_, ?_, congrArg Standing.objectives before, ?_, ?_, ?_, ?_, ?_⟩
  · exact (congrArg Standing.objectives stand).trans objectives
  · exact (congrArg Standing.failureConditions stand).trans conditions
  · have same := congrArg Sl1RuntimeState.failureConditions judging
    exact same.trans (congrArg Standing.failureConditions before)
  · intro id
    have about := @Objectives.isStatusChange_topic id
    exact (observed.filter_of_topic about (by simp)).trans
      ((later.filter_of_topic about (by simp)).trans (checks.filter_of_topic about (by simp)))
  · exact fun id => flow.filter_of_topic Objectives.isStatusChange_topic (by simp)
  · intro id
    have about := @Objectives.isFiring_topic id
    exact (observed.filter_of_topic about (by simp)).trans (later.filter_of_topic about (by simp))
  · intro id
    have about := @Objectives.isFiring_topic id
    exact (judges.filter_of_topic about (by simp)).trans (flow.filter_of_topic about (by simp))

/-- A decided run keeps its objectives and conditions. -/
private theorem ticks_decided (over' : running scene backend count = false) :
    (ticks scene backend (count + 1)).standing = (ticks scene backend count).standing :=
  standing_final scene backend (by simpa [running] using over') (Nat.le_succ count)

/-- In progress nothing has fired. -/
private theorem ticks_unfired (valid : scene.Valid) (progress : running scene backend count = true)
    {id : String} {entry : Sl1FailureConditionRuntime}
    (held : (ticks scene backend count).runtime.failureConditions[id]? = some entry) :
    entry.firedAtTick = none := by
  have standing := ticks_exact valid backend count
  cases fired : entry.firedAtTick with
  | none => rfl
  | some tick =>
    have recorded := (standing.recorded.recorded id tick).mpr ⟨entry, held, fired⟩
    have undecided : (ticks scene backend count).runtime.gameOutcome.isTerminal = false := by
      simpa [running] using progress
    refine absurd ((Frame.firedAt_iff id tick).mpr recorded)
      (Objectives.unfired_of_outcomeOf standing.recorded (fun reason lost => ?_) id tick)
    rw [standing.outcome, lost] at undecided
    cases undecided

end Ticks

section Conditions

variable {scene : Sl1Scene} {backend : AgentBackend}

theorem maxObjectiveTicks_lt : maxObjectiveTicks < u64Max := by decide

/-- Streak and firing of a condition follow its results. -/
private structure Followed (scene : Sl1Scene) (backend : AgentBackend)
    (condition : Sl1FailureCondition) (count : Nat) : Prop where
  entry : (ticks scene backend count).runtime.failureConditions[condition.id]? =
    some ⟨streak (breaches scene backend condition count),
      (firstAt (outlasts condition) (breaches scene backend condition count)).map worldTick⟩
  events : (ticks scene backend count).events.filter (SimEvent.isFiring condition.id) =
    (firstAt (outlasts condition) (breaches scene backend condition count)).toList.map
      fun position => .sl1FailureConditionFired condition.id (worldTick position)

private theorem fcGrace_le {condition : Sl1FailureCondition}
    (resolved : condition.params.Resolved scene) :
    Objectives.fcGrace condition.params ≤ maxObjectiveTicks := by
  cases kind : condition.params with
  | staleTarget _ _ _ _ | placeState _ _ _ =>
    rw [kind] at resolved
    exact resolved
  | objectiveBreachCount _ _ => exact Nat.zero_le _

/-- A condition still patient has a short streak. -/
private theorem streak_le {condition : Sl1FailureCondition} {results : List Bool}
    (patient : firstAt (outlasts condition) results = none) :
    streak results ≤ Objectives.fcGrace condition.params := by
  by_cases empty : results = []
  · subst empty
    exact Nat.zero_le _
  · have still := not_of_firstAt_none (outlasts condition) patient empty
    simpa [outlasts] using still

private theorem Followed.decided {condition : Sl1FailureCondition} {count : Nat}
    (followed : Followed scene backend condition count)
    (progress : running scene backend count = false) :
    Followed scene backend condition (count + 1) := by
  have same := ticks_decided progress
  have kept : breaches scene backend condition (count + 1) = breaches scene backend condition count :=
    evaluations_decided _ progress
  constructor
  · rw [kept, ← followed.entry]
    exact congrArg (·[condition.id]?) (congrArg Standing.failureConditions same)
  · rw [kept, ← followed.events]
    apply Frame.filter_of_standing same
    intro event fired
    cases event <;> first | rfl | cases fired

/-- One more result makes the streak longer or ends it, and may be the first to outlast the
patience. -/
private theorem Followed.evaluated (valid : scene.Valid) (references : scene.References)
    {condition : Sl1FailureCondition} (member : condition ∈ scene.failureConditions) {count : Nat}
    (followed : Followed scene backend condition count)
    (progress : running scene backend count = true) :
    Followed scene backend condition (count + 1) := by
  obtain ⟨entry, events⟩ := followed
  have evaluated := ticks_evaluated progress
  have unfired := ticks_unfired valid progress entry
  have patient := Option.map_eq_none_iff.mp unfired
  have short := (streak_le patient).trans (fcGrace_le (references.failureConditions condition member))
  have held : (judged scene backend count).runtime.failureConditions[condition.id]? =
      some ⟨streak (breaches scene backend condition count), none⟩ := by
    rw [evaluated.conditionsBefore, entry, patient, Option.map_none]
  have grown : breaches scene backend condition (count + 1) =
      breaches scene backend condition count ++ [Objectives.fcBreached scene
        (judged scene backend count).runtime (worldTick (count + 1)) condition.params] :=
    evaluations_running _ progress
  have length := evaluations_length (fun count => Objectives.fcBreached scene
    (judged scene backend count).runtime (worldTick (count + 1)) condition.params) progress
  have next : Objectives.nextStreak (Objectives.fcBreached scene
        (judged scene backend count).runtime (worldTick (count + 1)) condition.params)
        ⟨streak (breaches scene backend condition count), none⟩ =
      streak (breaches scene backend condition (count + 1)) := by
    have fits : streak (breaches scene backend condition count) + 1 ≤ u64Max :=
      Nat.succ_le_of_lt (short.trans_lt maxObjectiveTicks_lt)
    rw [grown, streak_snoc, Objectives.nextStreak, saturatingAdd_of_le fits]
  have first : firstAt (outlasts condition) (breaches scene backend condition (count + 1)) =
      if outlasts condition (breaches scene backend condition (count + 1)) then
        some (count + 1) else none := by
    rw [grown, firstAt_snoc, patient, Option.none_or]
    congr 2
    exact congrArg (· + 1) length
  obtain ⟨entered, fired⟩ := Objectives.evaluateFailureConditions_entry valid member held rfl next
  constructor
  · rw [evaluated.failureConditions, entered, first]
    by_cases due : Objectives.fcGrace condition.params <
        streak (breaches scene backend condition (count + 1))
    · simp [outlasts, due]
    · simp [outlasts, due]
  · rw [evaluated.firings, fired, evaluated.firingsBefore, events, patient, first]
    by_cases due : Objectives.fcGrace condition.params <
        streak (breaches scene backend condition (count + 1))
    · simp [outlasts, due]
    · simp [outlasts, due]

variable (backend) in
private theorem followed (valid : scene.Valid) (references : scene.References)
    {condition : Sl1FailureCondition} (member : condition ∈ scene.failureConditions) (count : Nat) :
    Followed scene backend condition count := by
  induction count with
  | zero => exact ⟨table_of_mem valid.failureConditionsIncreasing.distinct member, rfl⟩
  | succ count ih =>
    cases progress : running scene backend count with
    | false => exact ih.decided progress
    | true => exact ih.evaluated valid references member progress

end Conditions

section Statuses

variable {scene : Sl1Scene} {backend : AgentBackend}

theorem observe_status (now : Nat) (status : Sl1ObjectiveStatus) (entry : Sl1ObjectiveRuntime) :
    (Objectives.observe now status entry).status = status := by
  unfold Objectives.observe
  by_cases same : entry.status = status
  · simp only [same, if_true]
    split <;> simp [same]
  · simp only [same, if_false]
    split <;> rfl

theorem observe_breachTickCount (now : Nat) (status : Sl1ObjectiveStatus)
    (entry : Sl1ObjectiveRuntime) : (Objectives.observe now status entry).breachTickCount =
      if status = .breached then saturatingAdd u64Max entry.breachTickCount 1
      else entry.breachTickCount := by
  unfold Objectives.observe
  by_cases same : entry.status = status
  · simp only [same, if_true]
    split <;> rfl
  · simp only [same, if_false]
    split <;> rfl

/-- Status, count and changes of an objective follow its statuses. -/
private structure Watched (scene : Sl1Scene) (backend : AgentBackend) (objective : Sl1Objective)
    (count : Nat) : Prop where
  entry : ∃ entry, (ticks scene backend count).runtime.objectives[objective.id]? = some entry ∧
    entry.status = (statuses scene backend objective count).getLastD .unknown ∧
    entry.breachTickCount = min ((statuses scene backend objective count).count .breached) u64Max
  events : (ticks scene backend count).events.filter (SimEvent.isStatusChange objective.id) =
    (changes .unknown (statuses scene backend objective count)).map (statusChanged objective)

private theorem Watched.decided {objective : Sl1Objective} {count : Nat}
    (watched : Watched scene backend objective count)
    (progress : running scene backend count = false) :
    Watched scene backend objective (count + 1) := by
  obtain ⟨⟨entry, held, status, counted⟩, events⟩ := watched
  have same := ticks_decided progress
  have kept : statuses scene backend objective (count + 1) = statuses scene backend objective count :=
    evaluations_decided _ progress
  constructor
  · rw [kept]
    refine ⟨entry, ?_, status, counted⟩
    rw [← held]
    exact congrArg (·[objective.id]?) (congrArg Standing.objectives same)
  · rw [kept, ← events]
    apply Frame.filter_of_standing same
    intro event fired
    cases event <;> first | rfl | cases fired

private theorem Watched.evaluated (valid : scene.Valid) {objective : Sl1Objective}
    (member : objective ∈ scene.objectives) {count : Nat}
    (watched : Watched scene backend objective count)
    (progress : running scene backend count = true) :
    Watched scene backend objective (count + 1) := by
  obtain ⟨⟨entry, held, status, counted⟩, events⟩ := watched
  have evaluated := ticks_evaluated progress
  rw [← evaluated.objectivesBefore] at held
  obtain ⟨current, now⟩ : ∃ current, Objectives.objectiveStatus scene
      (flowed scene backend count).runtime (worldTick (count + 1)) objective.params = current :=
    ⟨_, rfl⟩
  have grown : statuses scene backend objective (count + 1) =
      statuses scene backend objective count ++ [current] :=
    now ▸ evaluations_running _ progress
  have length : (statuses scene backend objective count).length = count :=
    evaluations_length _ progress
  obtain ⟨entered, changed⟩ := Objectives.evaluateObjectives_entry valid member held now
  constructor
  · rw [grown]
    refine ⟨_, (congrArg (·[objective.id]?) evaluated.objectives).trans entered, ?_, ?_⟩
    · rw [observe_status, List.getLastD_concat]
    · rw [observe_breachTickCount, counted, List.count_append, List.count_singleton]
      by_cases breached : current = .breached
      · simp [breached, saturatingAdd]
        omega
      · simp [breached]
  · rw [evaluated.statusEvents, judged, changed, evaluated.statusBefore, events, grown,
      changes_snoc, List.map_append, ← status, length]
    congr 1
    split <;> rfl

variable (backend) in
private theorem watched (valid : scene.Valid) {objective : Sl1Objective}
    (member : objective ∈ scene.objectives) (count : Nat) :
    Watched scene backend objective count := by
  induction count with
  | zero =>
    refine ⟨⟨{}, ?_, rfl, rfl⟩, rfl⟩
    exact table_of_mem valid.objectivesIncreasing.distinct member
  | succ count ih =>
    cases progress : running scene backend count with
    | false => exact ih.decided progress
    | true => exact ih.evaluated valid member progress

end Statuses

section Counting

variable {scene : Sl1Scene} {backend : AgentBackend}

/-- More than `most` breached results. -/
def exceeds (most : Nat) (results : List Sl1ObjectiveStatus) : Bool :=
  most < results.count .breached

theorem streak_snoc_pos (results : List Bool) (result : Bool) :
    decide (0 < streak (results ++ [result])) = result := by
  rw [streak_snoc]
  cases result <;> simp

/-- A condition on an objective's count fires when that count first exceeds its bound. -/
private theorem firstAt_counted (valid : scene.Valid) (references : scene.References)
    {condition : Sl1FailureCondition} (listed : condition ∈ scene.failureConditions)
    {objective : Sl1Objective} (member : objective ∈ scene.objectives) {maxCount : Nat}
    (counts : condition.params = .objectiveBreachCount objective.id maxCount) (count : Nat) :
    firstAt (outlasts condition) (breaches scene backend condition count) =
      firstAt (exceeds maxCount) (statuses scene backend objective count) := by
  induction count with
  | zero => rfl
  | succ count ih =>
    cases progress : running scene backend count with
    | false =>
      rw [breaches, statuses, evaluations, evaluations, progress]
      exact ih
    | true =>
      have evaluated := ticks_evaluated progress
      obtain ⟨entry, held, -, counted⟩ := (watched backend valid member (count + 1)).entry
      rw [evaluated.objectives] at held
      have bounded := references.failureConditions condition listed
      rw [counts] at bounded
      have breached : outlasts condition (breaches scene backend condition (count + 1)) =
          exceeds maxCount (statuses scene backend objective (count + 1)) := by
        rw [breaches, evaluations, progress, if_pos rfl, outlasts, counts]
        refine (streak_snoc_pos _ _).trans ?_
        have room : maxCount < u64Max := bounded.1.trans_lt (by decide)
        simp only [Objectives.fcBreached, held, Option.map_some, Option.getD_some, exceeds, counted,
          decide_eq_decide]
        omega
      have lengths : (breaches scene backend condition count).length =
          (statuses scene backend objective count).length :=
        (evaluations_length _ progress).trans (evaluations_length _ progress).symm
      rw [breaches, evaluations, progress, if_pos rfl] at breached ⊢
      rw [statuses, evaluations, progress, if_pos rfl] at breached ⊢
      rw [firstAt_snoc, firstAt_snoc, breached]
      rw [breaches, statuses] at ih lengths
      rw [ih, lengths]

end Counting

/-- In every run a failure condition fires once, on the first evaluated tick that its breaches
outlast its patience, and its streak is that of its breaches; an objective's count is the number
of its breached ticks, clamped, and its events are its changes of status; a condition on that
count fires on the tick the count first exceeds its bound. -/
theorem conditions_follow_history {raw : RawSl1Scene} {scene : Sl1Scene}
    (accepted : validate raw = .ok scene) (backend : AgentBackend) (count : Nat) :
    let run := ticks scene backend count
    (∀ condition ∈ scene.failureConditions,
      let results := breaches scene backend condition count
      let fired := firstAt (outlasts condition) results
      run.runtime.failureConditions[condition.id]? = some ⟨streak results, fired.map worldTick⟩ ∧
      run.events.filter (SimEvent.isFiring condition.id) = fired.toList.map fun position =>
        .sl1FailureConditionFired condition.id (worldTick position)) ∧
    (∀ objective ∈ scene.objectives,
      let results := statuses scene backend objective count
      (∃ entry, run.runtime.objectives[objective.id]? = some entry ∧
        entry.status = results.getLastD .unknown ∧
        entry.breachTickCount = min (results.count .breached) u64Max) ∧
      run.events.filter (SimEvent.isStatusChange objective.id) =
        (changes .unknown results).map (statusChanged objective)) ∧
    (∀ condition ∈ scene.failureConditions, ∀ objective ∈ scene.objectives, ∀ maxCount,
      condition.params = .objectiveBreachCount objective.id maxCount →
      run.events.filter (SimEvent.isFiring condition.id) =
        (firstAt (exceeds maxCount) (statuses scene backend objective count)).toList.map
          fun position => .sl1FailureConditionFired condition.id (worldTick position)) := by
  intro run
  have valid := validate_valid accepted
  have references := validate_references accepted
  refine ⟨fun condition listed => ?_, fun objective member => ?_, ?_⟩
  · obtain ⟨entry, events⟩ := followed backend valid references listed count
    exact ⟨entry, events⟩
  · obtain ⟨entry, events⟩ := watched backend valid member count
    exact ⟨entry, events⟩
  · intro condition listed objective member maxCount counts
    rw [← firstAt_counted valid references listed member counts count]
    exact (followed backend valid references listed count).events

/-- The place never holds its ore; the condition waits out one breached tick. -/
theorem conditions_follow_history_tied : ∃ scene, validate tiedScene = .ok scene ∧
    (ticks scene defaultBackend 2).events.filter (SimEvent.isFiring "dry") =
      [.sl1FailureConditionFired "dry" 2] := by
  have evaluated : yields (validate tiedScene) (fun scene =>
      decide (∃ condition ∈ scene.failureConditions, condition.id = "dry" ∧
        firstAt (outlasts condition) (breaches scene defaultBackend condition 2) = some 2)) = true := by
    decide +kernel
  obtain ⟨scene, accepted, read⟩ := yields_iff.mp evaluated
  obtain ⟨condition, listed, named, fired⟩ := of_decide_eq_true read
  have follows := ((conditions_follow_history accepted defaultBackend 2).1 condition listed).2
  rw [fired, named] at follows
  exact ⟨scene, accepted, follows⟩

section Saturation

variable {scene : Sl1Scene} {backend : AgentBackend}

/-- Without conditions a run never ends. -/
theorem running_endless (valid : scene.Valid) (lossless : scene.failureConditions = [])
    (winless : scene.victoryConditions = []) (count : Nat) : running scene backend count = true := by
  have outcome := (ticks_exact valid backend count).outcome
  rw [running, outcome, Objectives.outcomeOf, lossless, winless]
  rfl

variable (backend) in
/-- An objective that no tick meets. -/
theorem statuses_breached (valid : scene.Valid) (lossless : scene.failureConditions = [])
    (winless : scene.victoryConditions = []) {objective : Sl1Objective}
    (hopeless : ∀ runtime now, Objectives.objectiveStatus scene runtime now objective.params = .breached)
    (count : Nat) : (statuses scene backend objective count).count .breached = count := by
  induction count with
  | zero => rfl
  | succ count ih =>
    rw [statuses, evaluations, if_pos (running_endless valid lossless winless count), hopeless,
      List.count_append]
    rw [statuses] at ih
    rw [ih]
    rfl

end Saturation

/-- A bucket without room that should be in use. -/
def hopelessScene : RawSl1Scene where
  places := [{
    id := "shop", role := "sink", pos := (0, 0)
    capacity := (∅ : IdMap UInt64).insert "bay" 0 }]
  objectives := [{
    id := "busy", kind := "maintain_utilization", place := some "shop", capacity := some "bay"
    minPercent := some 1, maxPercent := some 100 }]

/-- The counter stops where its integer type ends. -/
theorem breachTickCount_saturates : ∃ scene, validate hopelessScene = .ok scene ∧
    ∃ objective ∈ scene.objectives, ∃ entry,
      (ticks scene defaultBackend (u64Max + 1)).runtime.objectives[objective.id]? = some entry ∧
      entry.breachTickCount ≠
        (statuses scene defaultBackend objective (u64Max + 1)).count .breached := by
  have evaluated : yields (validate hopelessScene) (fun scene =>
      scene.failureConditions.isEmpty && scene.victoryConditions.isEmpty &&
      scene.objectives.any fun objective =>
        decide (objective.params = .maintainUtilization "shop" "bay" 1 100) &&
        decide (((scene.placeDef "shop").bind (·.capacity["bay"]?)).getD 0 = 0)) = true := by
    decide +kernel
  obtain ⟨scene, accepted, read⟩ := yields_iff.mp evaluated
  simp only [Bool.and_eq_true, List.isEmpty_iff, List.any_eq_true, decide_eq_true_eq] at read
  obtain ⟨⟨lossless, winless⟩, objective, member, params, full⟩ := read
  have valid := validate_valid accepted
  have hopeless (runtime : Sl1RuntimeState) (now : Nat) :
      Objectives.objectiveStatus scene runtime now objective.params = .breached := by
    rw [params]
    simp [Objectives.objectiveStatus, Objectives.evaluateUtilization, full]
  obtain ⟨entry, held, -, counted⟩ := (watched defaultBackend valid member (u64Max + 1)).entry
  have breached := statuses_breached defaultBackend valid lossless winless hopeless (u64Max + 1)
  refine ⟨scene, accepted, objective, member, entry, held, ?_⟩
  rw [counted, breached]
  decide

end Simetro.Sl1
