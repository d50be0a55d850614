import Mathlib.Algebra.BigOperators.Group.List.Basic
import Mathlib.Tactic.Linarith
import Mathlib.Tactic.Ring
import Simetro.Engine.World
import Simetro.Sl1.DemandInvariants

/-! How a finished trial is scored, and what the score rewards. -/

namespace Simetro.Headless

open Simetro.Engine Simetro.Library Simetro.Sl1

/-- `Won > InProgress > Lost`. -/
inductive OutcomeClass where
  | lost
  | inProgress
  | won
  deriving DecidableEq, Ord

def OutcomeClass.fromOutcome : GameOutcome → OutcomeClass
  | .inProgress => .inProgress
  | .won => .won
  | .lost _ => .lost

/-- The source holds `weighted` in an `f64`; here it is exact. -/
structure TrialScore where
  outcomeClass : OutcomeClass
  weighted : ℚ

/-- Lexicographic in the class and then the points. -/
def TrialScore.beats (score other : TrialScore) : Bool :=
  match compare score.outcomeClass other.outcomeClass with
  | .gt => true
  | .lt => false
  | .eq => score.weighted > other.weighted

def objectiveScore (runtime : Sl1RuntimeState) (objective : Sl1Objective) : ℚ :=
  match (runtime.objectives[objective.id]?.map (·.status)).getD .unknown with
  | .met => objective.weight
  | .breached => -objective.weight
  | .unknown | .unsupported => 0

def demandScore (runtime : Sl1RuntimeState) (demand : Sl1Demand) : ℚ :=
  match runtime.demand[demand.id]? with
  | none => 0
  | some entry =>
    entry.fulfilledCount * demand.value - entry.droppedCount * demand.penalty.score

def declaredScore (runtime : Sl1RuntimeState) (scene : Sl1Scene) : ℚ :=
  (scene.objectives.map (objectiveScore runtime)).sum +
    (scene.demand.map (demandScore runtime)).sum

def firedFailureConditions (runtime : Sl1RuntimeState) : Nat :=
  runtime.failureConditions.values.countP (·.firedAtTick.isSome)

def computePolicyScore (world : World Network) : TrialScore :=
  match world.sl1Runtime with
  | none => ⟨.inProgress, 0⟩
  | some runtime =>
    { outcomeClass := .fromOutcome runtime.gameOutcome
      weighted := (world.sl1.map (declaredScore runtime)).getD 0 -
        50 * firedFailureConditions runtime }

/-- The same runtime with other counters for one demand. -/
def withCounters (runtime : Sl1RuntimeState) (demand : String) (fulfilled dropped : Nat) :
    Sl1RuntimeState :=
  { runtime with
    demand := runtime.demand.modify demand fun entry =>
      { entry with
        fulfilledCount := fulfilled
        droppedCount := dropped } }

/-- A trial that ended in `runtime`. -/
def finished (world : World Network) (scene : Sl1Scene) (runtime : Sl1RuntimeState) :
    World Network :=
  { world with
    sl1 := some scene
    sl1Runtime := some runtime }

@[simp] theorem OutcomeClass.compare_self (outcome : OutcomeClass) :
    compare outcome outcome = .eq := by
  cases outcome <;> rfl

theorem TrialScore.beats_iff_of_class_eq {score other : TrialScore}
    (same : score.outcomeClass = other.outcomeClass) :
    score.beats other = true ↔ other.weighted < score.weighted := by
  simp [beats, same]

private theorem sum_map_update [DecidableEq Element] {elements : List Element} {element : Element}
    (old new : Element → ℚ) (distinct : elements.Nodup) (member : element ∈ elements)
    (others : ∀ other ∈ elements, other ≠ element → new other = old other) :
    (elements.map new).sum = (elements.map old).sum + (new element - old element) := by
  have rest : (elements.erase element).map new = (elements.erase element).map old :=
    List.map_congr_left fun other present =>
      have stayed := (distinct.mem_erase_iff).mp present
      others other stayed.2 stayed.1
  have newSplit := List.sum_map_erase new member
  have oldSplit := List.sum_map_erase old member
  rw [rest] at newSplit
  linarith

section OneDemand

variable {scene : Sl1Scene} {demand : Sl1Demand} {runtime : Sl1RuntimeState}
  {entry : Sl1DemandRuntime}

private theorem demandScore_withCounters (tracked : runtime.demand[demand.id]? = some entry)
    (fulfilled dropped : Nat) :
    demandScore (withCounters runtime demand.id fulfilled dropped) demand =
      fulfilled * demand.value - dropped * demand.penalty.score := by
  simp [demandScore, withCounters, tracked]

private theorem demandScore_withCounters_of_ne {other : Sl1Demand} {id : String}
    (different : other.id ≠ id) (fulfilled dropped : Nat) :
    demandScore (withCounters runtime id fulfilled dropped) other = demandScore runtime other := by
  simp [demandScore, withCounters, Std.ExtTreeMap.getElem?_modify, different.symm]

/-- Each further fulfilment adds the value, each further drop takes the penalty's
score away. -/
theorem weighted_withCounters (valid : scene.Valid) (declared : demand ∈ scene.demand)
    (tracked : runtime.demand[demand.id]? = some entry) (world : World Network)
    (fulfilled dropped : Nat) :
    (computePolicyScore (finished world scene
        (withCounters runtime demand.id fulfilled dropped))).weighted =
      (computePolicyScore (finished world scene runtime)).weighted +
        ((fulfilled : ℚ) - entry.fulfilledCount) * demand.value -
        ((dropped : ℚ) - entry.droppedCount) * demand.penalty.score := by
  have distinct := valid.demandIncreasing.distinct
  have demands := sum_map_update (demandScore runtime)
    (demandScore (withCounters runtime demand.id fulfilled dropped)) (List.Nodup.of_map _ distinct)
    declared fun other member different =>
      demandScore_withCounters_of_ne
        (fun same => different (List.inj_on_of_nodup_map distinct member declared same)) _ _
  have before : demandScore runtime demand =
      entry.fulfilledCount * demand.value - entry.droppedCount * demand.penalty.score := by
    simp [demandScore, tracked]
  have objectives : objectiveScore (withCounters runtime demand.id fulfilled dropped) =
      objectiveScore runtime := rfl
  have fired : firedFailureConditions (withCounters runtime demand.id fulfilled dropped) =
      firedFailureConditions runtime := rfl
  rw [demandScore_withCounters tracked, before] at demands
  simp only [computePolicyScore, finished, declaredScore, Option.map_some, Option.getD_some,
    objectives, fired, demands]
  ring

end OneDemand

theorem class_withCounters (world : World Network) (scene : Sl1Scene) (runtime : Sl1RuntimeState)
    (demand : String) (fulfilled dropped : Nat) :
    (computePolicyScore (finished world scene
        (withCounters runtime demand fulfilled dropped))).outcomeClass =
      (computePolicyScore (finished world scene runtime)).outcomeClass := rfl

/-- The score treats the trial that ended in `candidate` as no better for having
dropped more than the one that ended in `baseline`, and as no worse for having
fulfilled more. -/
structure RewardsGoodOutcomes (baseline candidate : World Network)
    (before after : Sl1DemandRuntime) : Prop where
  fulfilling : before.fulfilledCount ≤ after.fulfilledCount →
    after.droppedCount = before.droppedCount →
    (computePolicyScore baseline).weighted ≤ (computePolicyScore candidate).weighted
  dropping : before.droppedCount ≤ after.droppedCount →
    after.fulfilledCount = before.fulfilledCount →
    (computePolicyScore candidate).weighted ≤ (computePolicyScore baseline).weighted ∧
      (computePolicyScore candidate).beats (computePolicyScore baseline) = false

/-- The validator admits no positive penalty score, and the scorer subtracts it:
of two finished trials that differ in one demand's counters, the one that only
dropped more is preferred, unless the demand's penalty is zero. -/
theorem rewardsGoodOutcomes_iff {raw : RawSl1Scene} {scene : Sl1Scene}
    (accepted : validate raw = .ok scene) {demand : Sl1Demand} (declared : demand ∈ scene.demand)
    (world : World Network) (runtime : Sl1RuntimeState) {entry : Sl1DemandRuntime}
    (tracked : runtime.demand[demand.id]? = some entry) (fulfilled dropped : Nat) :
    RewardsGoodOutcomes (finished world scene runtime)
        (finished world scene (withCounters runtime demand.id fulfilled dropped)) entry
        { entry with
          fulfilledCount := fulfilled
          droppedCount := dropped } ↔
      ¬ (fulfilled = entry.fulfilledCount ∧ entry.droppedCount < dropped ∧
        demand.penalty.score ≠ 0) := by
  have valid := validate_valid accepted
  have difference := weighted_withCounters valid declared tracked world fulfilled dropped
  have notBeaten := TrialScore.beats_iff_of_class_eq
    (class_withCounters world scene runtime demand.id fulfilled dropped)
  have nonpos : (demand.penalty.score : ℚ) ≤ 0 :=
    Int.cast_nonpos.mpr (valid.demand demand declared).penalty_nonpos
  constructor
  · rintro rewards ⟨rfl, more, penalised⟩
    have preferred := (rewards.dropping more.le rfl).1
    have negative : (demand.penalty.score : ℚ) < 0 :=
      lt_of_le_of_ne nonpos (Int.cast_ne_zero.mpr penalised)
    have further : (0 : ℚ) < dropped - entry.droppedCount := sub_pos.mpr (Nat.cast_lt.mpr more)
    have gain := mul_neg_of_pos_of_neg further negative
    rw [difference] at preferred
    linarith
  · intro spared
    constructor
    · rintro more rfl
      have gain : (0 : ℚ) ≤ (fulfilled - entry.fulfilledCount) * demand.value :=
        mul_nonneg (sub_nonneg.mpr (Nat.cast_le.mpr more)) (Nat.cast_nonneg _)
      rw [difference]
      linarith
    · rintro more rfl
      have level : (computePolicyScore (finished world scene
          (withCounters runtime demand.id entry.fulfilledCount dropped))).weighted =
          (computePolicyScore (finished world scene runtime)).weighted := by
        rcases more.eq_or_lt with same | further
        · simp [difference, same]
        · have free : demand.penalty.score = 0 := by_contra fun penalised =>
            spared ⟨rfl, further, penalised⟩
          simp [difference, free]
      exact ⟨level.le, Bool.eq_false_iff.mpr fun beaten => (notBeaten.mp beaten).ne level.symm⟩

/-- A world without a transit network. -/
def bareWorld : World Unit := ⟨0, .running, (), none, none⟩

theorem rewardsGoodOutcomes_lapsing : ∃ scene, validate lapsingScene = .ok scene ∧
    ∃ demand ∈ scene.demand, ∃ entry,
      (ticks scene defaultBackend 7).runtime.demand[demand.id]? = some entry ∧
        RewardsGoodOutcomes (finished bareWorld scene (ticks scene defaultBackend 7).runtime)
          (finished bareWorld scene
            (withCounters (ticks scene defaultBackend 7).runtime demand.id 4 3)) entry
          { entry with
            fulfilledCount := 4
            droppedCount := 3 } := by
  have evaluated : yields (validate lapsingScene) (fun scene => scene.demand.any fun demand =>
      (ticks scene defaultBackend 7).runtime.demand[demand.id]?.any
        fun entry => decide (entry.fulfilledCount = 3)) = true := by
    decide +kernel
  obtain ⟨scene, accepted, found⟩ := yields_iff.mp evaluated
  obtain ⟨demand, declared, held⟩ := List.any_eq_true.mp found
  obtain ⟨entry, tracked, three⟩ := (Option.any_eq_true _ _).mp held
  refine ⟨scene, accepted, demand, declared, entry, tracked, ?_⟩
  refine (rewardsGoodOutcomes_iff accepted declared bareWorld _ tracked 4 3).mpr ?_
  rintro ⟨same, -, -⟩
  rw [of_decide_eq_true three] at same
  exact absurd same (by decide)

/-- Seven ticks of the lapsing scene drop three orders. One drop more earns two
points, and the trial is preferred. -/
theorem dropping_preferred : ∃ scene, validate lapsingScene = .ok scene ∧
    ∃ demand ∈ scene.demand, ∃ entry,
      (ticks scene defaultBackend 7).runtime.demand[demand.id]? = some entry ∧
        entry.fulfilledCount = 3 ∧ entry.droppedCount = 3 ∧
        (computePolicyScore (finished bareWorld scene
          (withCounters (ticks scene defaultBackend 7).runtime demand.id 3 4))).beats
          (computePolicyScore (finished bareWorld scene
            (ticks scene defaultBackend 7).runtime)) = true := by
  have evaluated : yields (validate lapsingScene) (fun scene => scene.demand.any fun demand =>
      (ticks scene defaultBackend 7).runtime.demand[demand.id]?.any fun entry =>
        decide (entry.fulfilledCount = 3 ∧ entry.droppedCount = 3 ∧
          (computePolicyScore (finished bareWorld scene
            (withCounters (ticks scene defaultBackend 7).runtime demand.id 3 4))).beats
            (computePolicyScore (finished bareWorld scene
              (ticks scene defaultBackend 7).runtime)) = true)) = true := by
    decide +kernel
  obtain ⟨scene, accepted, found⟩ := yields_iff.mp evaluated
  obtain ⟨demand, declared, held⟩ := List.any_eq_true.mp found
  obtain ⟨entry, tracked, facts⟩ := (Option.any_eq_true _ _).mp held
  exact ⟨scene, accepted, demand, declared, entry, tracked, of_decide_eq_true facts⟩

end Simetro.Headless
