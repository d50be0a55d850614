import Simetro.Headless.SearchRows
import Simetro.Library.Champion

/-! When the rows of a policy search agree with each other and with the summary. -/

namespace Simetro.Headless.Search

open Simetro.Engine Simetro.Library Simetro.Sl1

section Order

def rank : OutcomeClass → Nat
  | .lost => 0
  | .inProgress => 1
  | .won => 2

theorem compare_eq_rank (left right : OutcomeClass) :
    compare left right = compare (rank left) (rank right) := by
  cases left <;> cases right <;> rfl

theorem rank_injective {left right : OutcomeClass} (same : rank left = rank right) : left = right := by
  cases left <;> cases right <;> first | rfl | cases same

theorem TrialScore.beats_iff {score other : TrialScore} : score.beats other = true ↔
    rank other.outcomeClass < rank score.outcomeClass ∨
      rank score.outcomeClass = rank other.outcomeClass ∧ score.weighted.gt other.weighted = true := by
  rw [beats, compare_eq_rank]
  rcases lt_trichotomy (rank score.outcomeClass) (rank other.outcomeClass) with less | same | more
  · rw [Nat.compare_eq_lt.mpr less]
    simp [less.ne, less.le]
  · rw [Nat.compare_eq_eq.mpr same]
    simp [same]
  · rw [Nat.compare_eq_gt.mpr more]
    simp [more]

/-- A lost game beats only lost ones. -/
theorem TrialScore.lost_of_beats {score other : TrialScore} (better : score.beats other = true)
    (lost : score.outcomeClass = .lost) : other.outcomeClass = .lost := by
  rcases beats_iff.mp better with higher | ⟨same, -⟩
  · rw [lost] at higher
    exact absurd higher (Nat.not_lt_zero _)
  · exact (rank_injective same).symm.trans lost

/-- A row with its policy's name. -/
abbrev Contender := String × TrialScore

def outranks (left right : Contender) : Bool := left.2.beats right.2

theorem outranks_ranks : Ranks outranks where
  irrefl contender := by
    rw [Bool.eq_false_iff]
    intro beaten
    rcases TrialScore.beats_iff.mp beaten with less | ⟨-, more⟩
    · exact absurd less (lt_irrefl _)
    · rw [F64Bits.gt_irrefl] at more
      exact Bool.noConfusion more
  trans above below := by
    rcases TrialScore.beats_iff.mp above with higher | ⟨same, more⟩
    · rcases TrialScore.beats_iff.mp below with lower | ⟨same, -⟩
      · exact TrialScore.beats_iff.mpr (.inl (lower.trans higher))
      · exact TrialScore.beats_iff.mpr (.inl (same ▸ higher))
    · rcases TrialScore.beats_iff.mp below with lower | ⟨sameToo, less⟩
      · exact TrialScore.beats_iff.mpr (.inl (same ▸ lower))
      · exact TrialScore.beats_iff.mpr (.inr ⟨same.trans sameToo, F64Bits.gt_trans more less⟩)

/-- What a better entry does not beat, and what does not beat the lower one, has no number for
its points and the class of both. -/
theorem nan_of_beside {top other low : Contender} (above : outranks top low = true)
    (notAbove : outranks other low = false) (notBelow : outranks top other = false) :
    other.2.weighted.isNaN = true ∧ rank other.2.outcomeClass = rank low.2.outcomeClass ∧
      rank other.2.outcomeClass = rank top.2.outcomeClass := by
  have notAbove : ¬ other.2.beats low.2 = true := by simpa [outranks] using notAbove
  have notBelow : ¬ top.2.beats other.2 = true := by simpa [outranks] using notBelow
  rw [TrialScore.beats_iff, not_or, not_lt, not_and] at notAbove notBelow
  rcases TrialScore.beats_iff.mp above with higher | ⟨same, more⟩
  · exact absurd higher (not_lt.mpr (notBelow.1.trans notAbove.1))
  · have level : rank other.2.outcomeClass = rank low.2.outcomeClass :=
      le_antisymm notAbove.1 (same ▸ notBelow.1)
    have levelToo := level.trans same.symm
    refine ⟨F64Bits.isNaN_of_beside more ?_ ?_, level, levelToo⟩
    · simpa using notAbove.2 level
    · simpa using notBelow.2 levelToo.symm

end Order

section Placing

/-- A row without a number for its points that no row beats follows a row that none beats
either, or no row of its class. -/
def PointsPlaced (contenders : List Contender) : Prop :=
  ∀ before entry after, contenders = before ++ entry :: after → entry.2.weighted.isNaN = true →
    unbeaten outranks contenders entry = true →
      (∃ earlier ∈ before, unbeaten outranks contenders earlier = true) ∨
        ∀ earlier ∈ before, earlier.2.outcomeClass ≠ entry.2.outcomeClass

variable {contenders before after : List Contender} {winner : Contender}

/-- The running best is the first row that no row beats. -/
theorem firstUnbeaten_of_placed (won : Won outranks contenders winner before after)
    (placed : PointsPlaced contenders) : firstUnbeaten outranks contenders = some winner := by
  have best : unbeaten outranks contenders winner = true :=
    unbeaten_iff.mpr (won.unbeaten outranks_ranks)
  refine List.find?_eq_some_iff_append.mpr ⟨best, before, after, won.split, ?_⟩
  by_contra found
  obtain ⟨entry, sought⟩ : ∃ entry, before.find? (unbeaten outranks contenders) = some entry := by
    refine Option.ne_none_iff_exists'.mp fun none => found ?_
    simpa using List.find?_eq_none.mp none
  obtain ⟨top, earlier, later, cut, first⟩ := List.find?_eq_some_iff_append.mp sought
  obtain ⟨holder, listed, above, below⟩ := won.passed earlier entry later cut
  have notBelow : outranks winner entry = false :=
    unbeaten_iff.mp top winner (by rw [won.split]; simp)
  obtain ⟨nan, level, -⟩ := nan_of_beside above below notBelow
  have whole : contenders = earlier ++ entry :: (later ++ winner :: after) := by
    rw [won.split, cut]
    simp
  rcases placed earlier entry _ whole nan top with ⟨other, present, free⟩ | alone
  · have covered := first other present
    rw [free] at covered
    exact Bool.noConfusion covered
  · rcases List.mem_append.mp listed with present | same
    · exact alone holder present (rank_injective level.symm)
    · rw [List.mem_singleton.mp same, notBelow] at above
      exact Bool.noConfusion above

/-- Only then: a first unbeaten row with the running best's score keeps the points in place. -/
theorem placed_of_firstUnbeaten (won : Won outranks contenders winner before after)
    (score : (firstUnbeaten outranks contenders).map Prod.snd = some winner.2) :
    PointsPlaced contenders := by
  intro left entry right whole nan top
  obtain ⟨first, found, same⟩ := Option.map_eq_some_iff.mp score
  obtain ⟨free, earlier, later, cut, covered⟩ := List.find?_eq_some_iff_append.mp found
  rcases cut_cases (cut.symm.trans whole) with present | ⟨rfl, rfl⟩ | present
  · exact .inl ⟨first, present, free⟩
  · right
    rcases cut_cases (cut.symm.trans won.split) with passed | ⟨rfl, rfl⟩ | winning
    · -- an entry with the winner's score beats whom the winner beats
      obtain ⟨rest, others, split⟩ := List.append_of_mem passed
      obtain ⟨holder, -, above, below⟩ := won.passed rest first others split
      rw [outranks, ← same] at above
      rw [outranks, above] at below
      exact Bool.noConfusion below
    · intro other present level
      obtain ⟨rest, others, split⟩ := List.append_of_mem present
      obtain ⟨holder, -, above, below⟩ := won.passed rest other others split
      rcases TrialScore.beats_iff.mp above with higher | ⟨-, more⟩
      · have beaten : other.2.beats holder.2 = true :=
          TrialScore.beats_iff.mpr (.inl (level ▸ higher))
        rw [outranks, beaten] at below
        exact Bool.noConfusion below
      · rw [F64Bits.nan_gt nan] at more
        exact Bool.noConfusion more
    · have beaten := covered winner winning
      rw [unbeaten_iff.mpr (won.unbeaten outranks_ranks)] at beaten
      exact Bool.noConfusion beaten
  · have beaten := covered entry present
    rw [top] at beaten
    exact Bool.noConfusion beaten

end Placing

section Rows

variable (harness : Harness) (seed ticks : Nat)

/-- What the trial of a policy gives, where it runs to its end. -/
def trial (parsedScene : Except String Json) (policy : Policy) : Option TrialRun := do
  let scene ← parsedScene.toOption
  let mutated ← (applyPolicy harness.numbers scene policy).toOption
  let text ← (harness.toText mutated).toOption
  (harness.runTrial text seed ticks).toOption

variable {harness seed ticks} {parsedScene : Except String Json} {policy : Policy} {trialId : Nat}
  {status : TrialStatus} {baselineScore : Option TrialScore}

/-- A row shows the run of its trial or nothing. -/
def Shows (row : TrialRecord) (run : Option TrialRun) : Prop :=
  row.score = run.map (·.score) ∧ row.hash = run.map (·.hash) ∧
    row.outcome = run.map fun run => (outcomeLabel run.outcome).1

/-- What a row is before it is judged. -/
structure Built (row : TrialRecord) (trialId : Nat) (policy : Policy) (status : TrialStatus)
    (run : Option TrialRun) : Prop where
  trialId : row.trialId = trialId
  policyName : row.policyName = policy.name
  shows : Shows row run
  status : if run.isSome then row.status = status else row.status = .blocked ∨ row.status = .failed

theorem buildRecord_built : Built
    (buildRecord harness seed ticks trialId policy status parsedScene baselineScore) trialId policy
    status (trial harness seed ticks parsedScene policy) := by
  unfold buildRecord trial
  cases parsedScene with
  | error text => exact ⟨rfl, rfl, ⟨rfl, rfl, rfl⟩, .inl rfl⟩
  | ok scene =>
    simp only [Except.toOption, Option.bind_eq_bind, Option.bind_some]
    cases applyPolicy harness.numbers scene policy with
    | error error => exact ⟨rfl, rfl, ⟨rfl, rfl, rfl⟩, .inl rfl⟩
    | ok mutated =>
      simp only [Option.bind_some]
      cases harness.toText mutated with
      | error text => exact ⟨rfl, rfl, ⟨rfl, rfl, rfl⟩, .inl rfl⟩
      | ok text =>
        simp only [Option.bind_some]
        cases harness.runTrial text seed ticks with
        | ok run => exact ⟨rfl, rfl, ⟨rfl, rfl, rfl⟩, rfl⟩
        | error error =>
          cases error with
          | sceneReload error => exact ⟨rfl, rfl, ⟨rfl, rfl, rfl⟩, .inl rfl⟩
          | panicked => exact ⟨rfl, rfl, ⟨rfl, rfl, rfl⟩, .inr rfl⟩

theorem judge_trialId (row : TrialRecord) : (judge baselineScore row).trialId = row.trialId := by
  unfold judge
  split
  · rfl
  · split <;> rfl
  · rfl

theorem judge_policyName (row : TrialRecord) :
    (judge baselineScore row).policyName = row.policyName := by
  unfold judge
  split
  · rfl
  · split <;> rfl
  · rfl

variable {row : TrialRecord} {run : Option TrialRun}

/-- Beside a baseline with a score a row shows its run. It is kept when the run beats the
baseline, and blocked or failed only without a run. -/
theorem Built.judged {baseline : TrialScore} (built : Built row trialId policy .discarded run) :
    Shows (judge (some baseline) row) run ∧
      ((judge (some baseline) row).status = .kept ↔
        ∃ own, run = some own ∧ own.score.beats baseline = true) ∧
      ((judge (some baseline) row).status = .blocked ∨ (judge (some baseline) row).status = .failed →
        run = none) := by
  obtain ⟨score, hash, outcome⟩ := built.shows
  have status := built.status
  cases run with
  | none =>
    have left : judge (some baseline) row = row := by
      simp only [Option.map_none] at score
      simp only [judge, score]
    have blocked : row.status = .blocked ∨ row.status = .failed := status
    rw [left]
    refine ⟨built.shows, ?_, fun _ => rfl⟩
    rcases blocked with blocked | blocked <;> simp [blocked]
  | some run =>
    have ran : row.score = some run.score := score
    simp only [judge, ran]
    refine ⟨⟨rfl, hash, outcome⟩, ?_, ?_⟩
    · cases better : run.score.beats baseline <;> simp [better]
    · cases run.score.beats baseline <;> simp

/-- Without a baseline score a row that ran is blocked, and only its outcome stays. -/
theorem Built.skipped (built : Built row trialId policy .discarded run) :
    (judge none row).score = none ∧ (judge none row).hash = none ∧
      (judge none row).outcome = run.map (fun run => (outcomeLabel run.outcome).1) ∧
      ((judge none row).status = .blocked ∨ (judge none row).status = .failed) := by
  obtain ⟨score, hash, outcome⟩ := built.shows
  have status := built.status
  cases run with
  | none =>
    have blocked : row.status = .blocked ∨ row.status = .failed := status
    have left : judge none row = row := by
      simp only [judge]
      rw [if_neg]
      rintro ⟨notFailed, notBlocked⟩
      exact blocked.elim notBlocked notFailed
    rw [left]
    exact ⟨score, hash, outcome, blocked⟩
  | some run =>
    have discarded : row.status = .discarded := status
    simp only [judge, discarded]
    exact ⟨rfl, rfl, outcome, .inl rfl⟩

end Rows

section Runs

variable (harness : Harness) (seed ticks : Nat) (parsedScene : Except String Json)

/-- The row of the baseline. -/
def baselineRow (policy : Policy) : TrialRecord :=
  buildRecord harness seed ticks 0 policy .baseline parsedScene none

/-- The row of the candidate at an index, before it is judged. -/
def candidateRow (baselineScore : Option TrialScore) (entry : Policy × Nat) : TrialRecord :=
  buildRecord harness seed ticks ((entry.2 % 2 ^ 32 + 1) % 2 ^ 32) entry.1 .discarded parsedScene
    baselineScore

/-- The policies whose trials run, with their scores. -/
def contenders (policies : List Policy) : List Contender :=
  policies.filterMap fun policy =>
    (trial harness seed ticks parsedScene policy).map fun run => (policy.name, run.score)

/-- The rows with a score. -/
def scoredRows (rows : List TrialRecord) : List Contender :=
  rows.filterMap fun row => row.score.map fun score => (row.policyName, score)

variable {harness seed ticks parsedScene}

theorem candidates_records (baselineScore : Option TrialScore) (entries : List (Policy × Nat))
    (state : Searching) :
    (entries.foldl (candidateStep harness seed ticks parsedScene baselineScore) state).records =
      state.records ++ entries.map fun entry =>
        judge baselineScore (candidateRow harness seed ticks parsedScene baselineScore entry) := by
  induction entries generalizing state with
  | nil => simp
  | cons entry rest ih =>
    rw [List.foldl_cons, ih, List.map_cons]
    simp [candidateStep, candidateRow]

/-- The best so far, as an entry of the contest. -/
def Best.holding (holder : Contender) : Best := ⟨some holder.2, some holder.1⟩

theorem candidates_best (baseline : TrialScore) (entries : List (Policy × Nat)) (state : Searching)
    (holder : Contender) (held : state.best = .holding holder) :
    (entries.foldl (candidateStep harness seed ticks parsedScene (some baseline)) state).best =
      .holding (champion outranks holder
        (contenders harness seed ticks parsedScene (entries.map Prod.fst))) := by
  induction entries generalizing state holder with
  | nil => exact held
  | cons entry rest ih =>
    have built := @buildRecord_built harness seed ticks parsedScene entry.1
      ((entry.2 % 2 ^ 32 + 1) % 2 ^ 32) .discarded (some baseline)
    rw [List.foldl_cons, List.map_cons, contenders, List.filterMap_cons]
    cases ran : trial harness seed ticks parsedScene entry.1 with
    | none =>
      refine ih _ holder ?_
      have score := built.shows.1
      rw [ran, Option.map_none] at score
      simp only [candidateStep, Best.update, score, held]
    | some run =>
      refine ih _ (contend outranks holder (entry.1.name, run.score)) ?_
      have score := built.shows.1
      rw [ran, Option.map_some] at score
      simp only [candidateStep, Best.update, score, held, Best.holding, contend, outranks]
      split
      case isTrue better => simp only [better, if_true]
      case isFalse kept => simp only [kept, Bool.false_eq_true, if_false]

theorem candidates_best_unscored (entries : List (Policy × Nat)) (state : Searching) :
    (entries.foldl (candidateStep harness seed ticks parsedScene none) state).best = state.best := by
  induction entries generalizing state with
  | nil => rfl
  | cons entry rest ih =>
    rw [List.foldl_cons, ih]
    rfl

/-- The rows and the summary of a search agree with the policies and with each other. -/
structure Coherent (policies : List Policy) (rows : List TrialRecord) (summary : SummaryRecord) :
    Prop where
  inOrder : rows.map (·.policyName) = policies.map (·.name)
  numbered : rows.map (·.trialId) = List.range rows.length
  counted : summary.baselineCount + summary.keptCount + summary.discardedCount +
    summary.failedCount + summary.blockedCount = rows.length
  total : summary.totalTrials = rows.length
  together : ∀ row ∈ rows, row.hash.isSome = row.score.isSome ∧ row.outcome.isSome = row.score.isSome
  withheld : ∀ row ∈ rows, row.status = .blocked ∨ row.status = .failed →
    row.score = none ∧ row.hash = none ∧ row.outcome = none
  kept : ∀ first candidates, rows = first :: candidates → ∀ row ∈ candidates,
    row.status = .kept ↔ ∃ score baseline, row.score = some score ∧ first.score = some baseline ∧
      score.beats baseline = true
  lost : ∀ first candidates, rows = first :: candidates → ∀ row ∈ candidates,
    ∀ score baseline, row.score = some score → first.score = some baseline →
      score.outcomeClass = .lost → baseline.outcomeClass ≠ .lost → row.status ≠ .kept
  best : summary.bestPolicyName = (firstUnbeaten outranks (scoredRows rows)).map Prod.fst ∧
    summary.bestScore = (firstUnbeaten outranks (scoredRows rows)).map Prod.snd

theorem countStatus_sum (rows : List TrialRecord) (small : rows.length < 2 ^ 32) :
    countStatus .baseline rows + countStatus .kept rows + countStatus .discarded rows +
      countStatus .failed rows + countStatus .blocked rows = rows.length := by
  have exhaustive (rows : List TrialRecord) :
      rows.countP (fun row => row.status = .baseline) + rows.countP (fun row => row.status = .kept) +
        rows.countP (fun row => row.status = .discarded) +
        rows.countP (fun row => row.status = .failed) +
        rows.countP (fun row => row.status = .blocked) = rows.length := by
    induction rows with
    | nil => rfl
    | cons row rest ih =>
      simp only [List.countP_cons, List.length_cons]
      cases row.status <;> simp <;> omega
  have all := exhaustive rows
  unfold countStatus
  omega

variable {scenePath sceneJson : String} {baselinePolicy : Policy} {candidatePolicies : List Policy}

theorem runPolicySearch_rows :
    (runPolicySearch harness seed ticks scenePath sceneJson baselinePolicy candidatePolicies).1 =
      baselineRow harness seed ticks (harness.fromStr sceneJson) baselinePolicy ::
        candidatePolicies.zipIdx.map fun entry =>
          judge (baselineRow harness seed ticks (harness.fromStr sceneJson) baselinePolicy).score
            (candidateRow harness seed ticks (harness.fromStr sceneJson)
              (baselineRow harness seed ticks (harness.fromStr sceneJson) baselinePolicy).score entry) :=
  candidates_records _ _ _

theorem runPolicySearch_length :
    (runPolicySearch harness seed ticks scenePath sceneJson baselinePolicy candidatePolicies).1.length =
      candidatePolicies.length + 1 := by
  rw [runPolicySearch_rows]
  simp

theorem baselineRow_built (policy : Policy) : Built (baselineRow harness seed ticks parsedScene policy)
    0 policy .baseline (trial harness seed ticks parsedScene policy) := buildRecord_built

theorem candidateRow_built (baselineScore : Option TrialScore) (entry : Policy × Nat) :
    Built (candidateRow harness seed ticks parsedScene baselineScore entry)
      ((entry.2 % 2 ^ 32 + 1) % 2 ^ 32) entry.1 .discarded
      (trial harness seed ticks parsedScene entry.1) := buildRecord_built

theorem runPolicySearch_inOrder :
    (runPolicySearch harness seed ticks scenePath sceneJson baselinePolicy candidatePolicies).1.map
      (·.policyName) = (baselinePolicy :: candidatePolicies).map (·.name) := by
  rw [runPolicySearch_rows, List.map_cons, List.map_cons, (baselineRow_built _).policyName,
    List.map_map]
  refine congrArg (_ :: ·) ?_
  refine (List.map_congr_left fun entry _ => ?_).trans
    ((@List.map_map _ _ _ (fun policy : Policy => policy.name) Prod.fst _).symm.trans ?_)
  · simp only [Function.comp_apply, judge_policyName, (candidateRow_built _ entry).policyName]
  · rw [List.zipIdx_map_fst]

theorem runPolicySearch_numbered (small : candidatePolicies.length + 1 < 2 ^ 32) :
    (runPolicySearch harness seed ticks scenePath sceneJson baselinePolicy candidatePolicies).1.map
      (·.trialId) = List.range (candidatePolicies.length + 1) := by
  rw [runPolicySearch_rows, List.map_cons, (baselineRow_built _).trialId, List.map_map,
    List.range_succ_eq_map]
  refine congrArg (0 :: ·) ?_
  have indices : candidatePolicies.zipIdx.map Prod.snd = List.range candidatePolicies.length := by
    rw [List.zipIdx_map_snd, List.range_eq_range']
  rw [← indices, List.map_map]
  refine List.map_congr_left fun entry listed => ?_
  have below : entry.2 < candidatePolicies.length := by
    have member : entry.2 ∈ candidatePolicies.zipIdx.map Prod.snd := List.mem_map_of_mem listed
    rwa [indices, List.mem_range] at member
  simp only [Function.comp_apply, judge_trialId, (candidateRow_built _ entry).trialId,
    Nat.succ_eq_add_one]
  omega

section Scored

variable {first : TrialRun}

theorem baselineRow_score (ran : trial harness seed ticks parsedScene baselinePolicy = some first) :
    (baselineRow harness seed ticks parsedScene baselinePolicy).score = some first.score := by
  have score := (@baselineRow_built harness seed ticks parsedScene baselinePolicy).shows.1
  rwa [ran] at score

theorem contenders_cons (ran : trial harness seed ticks parsedScene baselinePolicy = some first) :
    contenders harness seed ticks parsedScene (baselinePolicy :: candidatePolicies) =
      (baselinePolicy.name, first.score) ::
        contenders harness seed ticks parsedScene candidatePolicies := by
  simp [contenders, ran]

theorem scoredRows_scored
    (ran : trial harness seed ticks (harness.fromStr sceneJson) baselinePolicy = some first) :
    scoredRows (runPolicySearch harness seed ticks scenePath sceneJson baselinePolicy
      candidatePolicies).1 = contenders harness seed ticks (harness.fromStr sceneJson)
        (baselinePolicy :: candidatePolicies) := by
  have built := @baselineRow_built harness seed ticks (harness.fromStr sceneJson) baselinePolicy
  have score := baselineRow_score ran
  rw [runPolicySearch_rows, contenders_cons ran, scoredRows, List.filterMap_cons, score]
  simp only [Option.map_some, built.policyName]
  refine congrArg (_ :: ·) ?_
  have policies : candidatePolicies = candidatePolicies.zipIdx.map Prod.fst := by
    rw [List.zipIdx_map_fst]
  conv_rhs => rw [policies, contenders, List.filterMap_map]
  rw [List.filterMap_map]
  refine List.filterMap_congr fun entry _ => ?_
  have candidate := @candidateRow_built harness seed ticks (harness.fromStr sceneJson)
    (some first.score) entry
  simp only [Function.comp_apply, judge_policyName, candidate.policyName, candidate.judged.1.1,
    Option.map_map]
  rfl

theorem runPolicySearch_best
    (ran : trial harness seed ticks (harness.fromStr sceneJson) baselinePolicy = some first) :
    ∃ winner before after,
      Won outranks (contenders harness seed ticks (harness.fromStr sceneJson)
        (baselinePolicy :: candidatePolicies)) winner before after ∧
      (runPolicySearch harness seed ticks scenePath sceneJson baselinePolicy
        candidatePolicies).2.bestPolicyName = some winner.1 ∧
      (runPolicySearch harness seed ticks scenePath sceneJson baselinePolicy
        candidatePolicies).2.bestScore = some winner.2 := by
  have score : (buildRecord harness seed ticks 0 baselinePolicy .baseline
    (harness.fromStr sceneJson) none).score = some first.score := baselineRow_score ran
  obtain ⟨before, after, won⟩ := champion_won outranks_ranks (baselinePolicy.name, first.score)
    (contenders harness seed ticks (harness.fromStr sceneJson) candidatePolicies)
  rw [← contenders_cons ran] at won
  have best := @candidates_best harness seed ticks (harness.fromStr sceneJson) first.score
    candidatePolicies.zipIdx
    ⟨[buildRecord harness seed ticks 0 baselinePolicy .baseline (harness.fromStr sceneJson) none],
      ⟨some first.score, some baselinePolicy.name⟩⟩ (baselinePolicy.name, first.score) rfl
  rw [List.zipIdx_map_fst] at best
  refine ⟨_, before, after, won, ?_, ?_⟩
  · simp only [runPolicySearch, summarize, score, Option.map_some, best, Best.holding]
  · simp only [runPolicySearch, summarize, score, Option.map_some, best, Best.holding]

/-- The clause about the best policy. -/
theorem best_iff_placed
    (ran : trial harness seed ticks (harness.fromStr sceneJson) baselinePolicy = some first) :
    ((runPolicySearch harness seed ticks scenePath sceneJson baselinePolicy
          candidatePolicies).2.bestPolicyName =
        (firstUnbeaten outranks (scoredRows (runPolicySearch harness seed ticks scenePath sceneJson
          baselinePolicy candidatePolicies).1)).map Prod.fst ∧
      (runPolicySearch harness seed ticks scenePath sceneJson baselinePolicy
          candidatePolicies).2.bestScore =
        (firstUnbeaten outranks (scoredRows (runPolicySearch harness seed ticks scenePath sceneJson
          baselinePolicy candidatePolicies).1)).map Prod.snd) ↔
    PointsPlaced (contenders harness seed ticks (harness.fromStr sceneJson)
      (baselinePolicy :: candidatePolicies)) := by
  obtain ⟨winner, before, after, won, name, score⟩ :=
    @runPolicySearch_best harness seed ticks scenePath sceneJson baselinePolicy candidatePolicies
      first ran
  rw [scoredRows_scored ran, name, score]
  constructor
  · rintro ⟨-, same⟩
    exact placed_of_firstUnbeaten won same.symm
  · intro placed
    rw [firstUnbeaten_of_placed won placed]
    exact ⟨rfl, rfl⟩

end Scored

/-- Fewer policies than a `u32` counts, and either the baseline's trial runs and every row without
a number for its points is in its place, or no trial runs at all. -/
def Comparable (harness : Harness) (seed ticks : Nat) (sceneJson : String) (baselinePolicy : Policy)
    (candidatePolicies : List Policy) : Prop :=
  candidatePolicies.length + 1 < 2 ^ 32 ∧
    ((trial harness seed ticks (harness.fromStr sceneJson) baselinePolicy).isSome = true ∧
        PointsPlaced (contenders harness seed ticks (harness.fromStr sceneJson)
          (baselinePolicy :: candidatePolicies)) ∨
      ∀ policy ∈ baselinePolicy :: candidatePolicies,
        trial harness seed ticks (harness.fromStr sceneJson) policy = none)

theorem mem_candidates {baselineScore : Option TrialScore} {row : TrialRecord}
    (member : row ∈ candidatePolicies.zipIdx.map fun entry =>
      judge baselineScore (candidateRow harness seed ticks parsedScene baselineScore entry)) :
    ∃ entry, entry.1 ∈ candidatePolicies ∧
      row = judge baselineScore (candidateRow harness seed ticks parsedScene baselineScore entry) := by
  obtain ⟨entry, listed, rfl⟩ := List.mem_map.mp member
  refine ⟨entry, ?_, rfl⟩
  rw [← List.zipIdx_map_fst 0 candidatePolicies]
  exact List.mem_map_of_mem listed

section Shown

variable {first : TrialRun}
  (ran : trial harness seed ticks (harness.fromStr sceneJson) baselinePolicy = some first)
include ran

/-- Beside a baseline with a score a candidate's row shows its run. -/
theorem candidate_shown {head row : TrialRecord} {candidates : List TrialRecord}
    (cut : (runPolicySearch harness seed ticks scenePath sceneJson baselinePolicy
      candidatePolicies).1 = head :: candidates) (listed : row ∈ candidates) :
    head.score = some first.score ∧ ∃ run, Shows row run ∧
      (row.status = .kept ↔ ∃ own, run = some own ∧ own.score.beats first.score = true) ∧
      (row.status = .blocked ∨ row.status = .failed → run = none) := by
  have score := baselineRow_score ran
  rw [runPolicySearch_rows, score] at cut
  obtain ⟨rfl, rfl⟩ := List.cons.inj cut
  obtain ⟨entry, -, rfl⟩ := mem_candidates listed
  exact ⟨score, _, (candidateRow_built _ entry).judged⟩

/-- So does the baseline's own row, which is neither blocked nor failed. -/
theorem row_shown {row : TrialRecord} (listed : row ∈ (runPolicySearch harness seed ticks scenePath
      sceneJson baselinePolicy candidatePolicies).1) :
    ∃ run, Shows row run ∧ (row.status = .blocked ∨ row.status = .failed → run = none) := by
  have built := @baselineRow_built harness seed ticks (harness.fromStr sceneJson) baselinePolicy
  rw [ran] at built
  have rows := @runPolicySearch_rows harness seed ticks scenePath sceneJson baselinePolicy
    candidatePolicies
  rw [rows] at listed
  rcases List.mem_cons.mp listed with rfl | listed
  · have status := built.status
    simp only [Option.isSome_some, if_true] at status
    exact ⟨_, built.shows, by simp [status]⟩
  · obtain ⟨-, run, shown, -, nothing⟩ := candidate_shown ran rows listed
    exact ⟨run, shown, nothing⟩

theorem kept_iff {head row : TrialRecord} {candidates : List TrialRecord}
    (cut : (runPolicySearch harness seed ticks scenePath sceneJson baselinePolicy
      candidatePolicies).1 = head :: candidates) (listed : row ∈ candidates) :
    row.status = .kept ↔ ∃ score baseline, row.score = some score ∧ head.score = some baseline ∧
      score.beats baseline = true := by
  obtain ⟨based, run, ⟨shown, -, -⟩, state, -⟩ := candidate_shown ran cut listed
  rw [state, shown, based]
  cases run <;> simp

/-- With a baseline score only the points' places are left to decide. -/
theorem coherent_scored (small : candidatePolicies.length + 1 < 2 ^ 32)
    (placed : PointsPlaced (contenders harness seed ticks (harness.fromStr sceneJson)
      (baselinePolicy :: candidatePolicies))) :
    Coherent (baselinePolicy :: candidatePolicies)
      (runPolicySearch harness seed ticks scenePath sceneJson baselinePolicy candidatePolicies).1
      (runPolicySearch harness seed ticks scenePath sceneJson baselinePolicy candidatePolicies).2 := by
  have length := @runPolicySearch_length harness seed ticks scenePath sceneJson baselinePolicy
    candidatePolicies
  refine
    { inOrder := runPolicySearch_inOrder
      numbered := by rw [length, runPolicySearch_numbered small]
      counted := countStatus_sum _ (length ▸ small)
      total := Nat.mod_eq_of_lt (length ▸ small)
      together := ?_
      withheld := ?_
      kept := fun _ _ cut _ listed => kept_iff ran cut listed
      lost := ?_
      best := (best_iff_placed ran).mpr placed }
  · intro row listed
    obtain ⟨run, ⟨score, hash, outcome⟩, -⟩ := row_shown ran listed
    simp [score, hash, outcome]
  · intro row listed withheld
    obtain ⟨run, ⟨score, hash, outcome⟩, nothing⟩ := row_shown ran listed
    rw [nothing withheld] at score hash outcome
    exact ⟨score, hash, outcome⟩
  · intro head candidates cut row listed own baseline held heldToo lost notLost isKept
    obtain ⟨score, other, scored, based, better⟩ := (kept_iff ran cut listed).mp isKept
    obtain rfl := Option.some.inj (held.symm.trans scored)
    obtain rfl := Option.some.inj (heldToo.symm.trans based)
    exact notLost (TrialScore.lost_of_beats better lost)

end Shown

section Hidden

variable (idle : ∀ policy ∈ baselinePolicy :: candidatePolicies,
  trial harness seed ticks (harness.fromStr sceneJson) policy = none)
include idle

theorem baselineRow_hidden :
    Shows (baselineRow harness seed ticks (harness.fromStr sceneJson) baselinePolicy) none := by
  have shows := (@baselineRow_built harness seed ticks (harness.fromStr sceneJson)
    baselinePolicy).shows
  rwa [idle baselinePolicy (by simp)] at shows

theorem candidate_hidden {head row : TrialRecord} {candidates : List TrialRecord}
    (cut : (runPolicySearch harness seed ticks scenePath sceneJson baselinePolicy
      candidatePolicies).1 = head :: candidates) (listed : row ∈ candidates) :
    Shows row none ∧ (row.status = .blocked ∨ row.status = .failed) := by
  have score : (baselineRow harness seed ticks (harness.fromStr sceneJson) baselinePolicy).score =
      none := (baselineRow_hidden idle).1
  rw [runPolicySearch_rows, score] at cut
  obtain ⟨rfl, rfl⟩ := List.cons.inj cut
  obtain ⟨entry, candidate, rfl⟩ := mem_candidates listed
  obtain ⟨score, hash, outcome, status⟩ :=
    (@candidateRow_built harness seed ticks (harness.fromStr sceneJson) none entry).skipped
  rw [idle entry.1 (by simp [candidate])] at outcome
  exact ⟨⟨score, hash, outcome⟩, status⟩

theorem row_hidden {row : TrialRecord} (listed : row ∈ (runPolicySearch harness seed ticks scenePath
      sceneJson baselinePolicy candidatePolicies).1) : Shows row none := by
  have rows := @runPolicySearch_rows harness seed ticks scenePath sceneJson baselinePolicy
    candidatePolicies
  rw [rows] at listed
  rcases List.mem_cons.mp listed with rfl | listed
  · exact baselineRow_hidden idle
  · exact (candidate_hidden idle rows listed).1

/-- Without any score the rows are blocked or failed and show nothing. -/
theorem coherent_unscored (small : candidatePolicies.length + 1 < 2 ^ 32) :
    Coherent (baselinePolicy :: candidatePolicies)
      (runPolicySearch harness seed ticks scenePath sceneJson baselinePolicy candidatePolicies).1
      (runPolicySearch harness seed ticks scenePath sceneJson baselinePolicy candidatePolicies).2 := by
  have length := @runPolicySearch_length harness seed ticks scenePath sceneJson baselinePolicy
    candidatePolicies
  refine
    { inOrder := runPolicySearch_inOrder
      numbered := by rw [length, runPolicySearch_numbered small]
      counted := countStatus_sum _ (length ▸ small)
      total := Nat.mod_eq_of_lt (length ▸ small)
      together := ?_
      withheld := fun row listed _ => row_hidden idle listed
      kept := ?_
      lost := ?_
      best := ?_ }
  · intro row listed
    obtain ⟨score, hash, outcome⟩ := row_hidden idle listed
    simp [score, hash, outcome]
  · intro head candidates cut row listed
    obtain ⟨⟨score, -, -⟩, status⟩ := candidate_hidden idle cut listed
    rw [score]
    rcases status with status | status <;> simp [status]
  · intro head candidates cut row listed own baseline held
    rw [(candidate_hidden idle cut listed).1.1] at held
    cases held
  · have unscored : scoredRows (runPolicySearch harness seed ticks scenePath sceneJson baselinePolicy
        candidatePolicies).1 = [] := by
      refine List.filterMap_eq_nil_iff.mpr fun row listed => ?_
      rw [(row_hidden idle listed).1]
      rfl
    have score : (buildRecord harness seed ticks 0 baselinePolicy .baseline
      (harness.fromStr sceneJson) none).score = none := (baselineRow_hidden idle).1
    have best := @candidates_best_unscored harness seed ticks (harness.fromStr sceneJson)
      candidatePolicies.zipIdx ⟨[buildRecord harness seed ticks 0 baselinePolicy .baseline
        (harness.fromStr sceneJson) none], ⟨none, none⟩⟩
    rw [unscored]
    simp only [runPolicySearch, summarize, score, Option.map_none, best]
    exact ⟨rfl, rfl⟩

end Hidden

/-- The rows of a search agree exactly where the policies can be compared. Otherwise a row that ran
beside a baseline that did not keeps its outcome, a counter wraps, or the best is not the first. -/
theorem runPolicySearch_coherent_iff (harness : Harness) (seed ticks : Nat)
    (scenePath sceneJson : String) (baselinePolicy : Policy) (candidatePolicies : List Policy) :
    Coherent (baselinePolicy :: candidatePolicies)
        (runPolicySearch harness seed ticks scenePath sceneJson baselinePolicy candidatePolicies).1
        (runPolicySearch harness seed ticks scenePath sceneJson baselinePolicy candidatePolicies).2 ↔
      Comparable harness seed ticks sceneJson baselinePolicy candidatePolicies := by
  constructor
  · intro coherent
    have length := @runPolicySearch_length harness seed ticks scenePath sceneJson baselinePolicy
      candidatePolicies
    have total : (runPolicySearch harness seed ticks scenePath sceneJson baselinePolicy
        candidatePolicies).1.length % 2 ^ 32 = _ := coherent.total
    refine ⟨by omega, ?_⟩
    have built := @baselineRow_built harness seed ticks (harness.fromStr sceneJson) baselinePolicy
    cases ran : trial harness seed ticks (harness.fromStr sceneJson) baselinePolicy with
    | some first => exact .inl ⟨rfl, (best_iff_placed ran).mp coherent.best⟩
    | none =>
      right
      intro policy listed
      rcases List.mem_cons.mp listed with rfl | listed
      · exact ran
      · -- a candidate that ran would keep its outcome
        rw [← List.zipIdx_map_fst 0 candidatePolicies] at listed
        obtain ⟨entry, indexed, rfl⟩ := List.mem_map.mp listed
        have score : (baselineRow harness seed ticks (harness.fromStr sceneJson)
            baselinePolicy).score = Option.none := by rw [built.shows.1, ran, Option.map_none]
        have rows := @runPolicySearch_rows harness seed ticks scenePath sceneJson baselinePolicy
          candidatePolicies
        rw [score] at rows
        have together := (coherent.together _ (by
          rw [rows]
          exact List.mem_cons_of_mem _ (List.mem_map_of_mem indexed))).2
        obtain ⟨unscored, -, outcome, -⟩ := (@candidateRow_built harness seed ticks
          (harness.fromStr sceneJson) Option.none entry).skipped
        rw [unscored, outcome] at together
        simpa using together
  · rintro ⟨small, ⟨scored, placed⟩ | idle⟩
    · obtain ⟨first, ran⟩ := Option.isSome_iff_exists.mp scored
      exact coherent_scored ran small placed
    · exact coherent_unscored idle small

/-- A scene with one agent, read from any text. Every trial ends in progress. -/
def oneAgentHarness : Harness where
  numbers := ⟨fun _ => F64Bits.zero⟩
  fromStr _ := .ok (.object [("scenario_language_v1",
    .object [("agents", .array [.object [("id", .string "planner")]])])])
  toText _ := .ok ""
  runTrial _ _ _ := .ok ⟨⟨.inProgress, F64Bits.zero⟩, "0", .inProgress⟩

/-- The baseline names an agent the scene lacks; the candidate overrides nothing and runs. Its row
is blocked without score and hash, and still has its outcome. -/
theorem blocked_with_outcome :
    ¬ Coherent [⟨"baseline", "", ⟨(∅ : IdMap (IdMap Json)).insert "ghost" ∅⟩⟩, ⟨"candidate", "", {}⟩]
      (runPolicySearch oneAgentHarness 1 1 "scene.json" "" ⟨"baseline", "",
        ⟨(∅ : IdMap (IdMap Json)).insert "ghost" ∅⟩⟩ [⟨"candidate", "", {}⟩]).1
      (runPolicySearch oneAgentHarness 1 1 "scene.json" "" ⟨"baseline", "",
        ⟨(∅ : IdMap (IdMap Json)).insert "ghost" ∅⟩⟩ [⟨"candidate", "", {}⟩]).2 := by
  intro coherent
  have leftOver : ((runPolicySearch oneAgentHarness 1 1 "scene.json" "" ⟨"baseline", "",
      ⟨(∅ : IdMap (IdMap Json)).insert "ghost" ∅⟩⟩ [⟨"candidate", "", {}⟩]).1.all fun row =>
        row.outcome.isSome == row.score.isSome) = false := by
    decide +kernel
  refine absurd (List.all_eq_true.mpr fun row listed => ?_) (Bool.eq_false_iff.mp leftOver)
  rw [(coherent.together row listed).2]
  exact beq_self_eq_true _

end Runs

end Simetro.Headless.Search
