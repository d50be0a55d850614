import Simetro.Engine.SceneLoader
import Simetro.Headless.Policy
import Simetro.Headless.PolicySearch

/-! The rows and the summary of a policy search. -/

namespace Simetro.Headless.Search

open Simetro.Engine Simetro.Library Simetro.Sl1

structure TrialScore where
  outcomeClass : OutcomeClass
  weighted : F64Bits
  deriving DecidableEq

/-- Lexicographic in the class and then the points. -/
def TrialScore.beats (score other : TrialScore) : Bool :=
  match compare score.outcomeClass other.outcomeClass with
  | .gt => true
  | .lt => false
  | .eq => score.weighted.gt other.weighted

inductive TrialStatus where
  | baseline
  | kept
  | discarded
  | failed
  | blocked
  deriving DecidableEq

structure TrialRun where
  score : TrialScore
  hash : String
  outcome : GameOutcome

inductive TrialRunError where
  | sceneReload (error : LoadError)
  | panicked

/-- Why a row has no score. The source renders these; the texts of the JSON library are kept. -/
inductive TrialError where
  | sceneNotJson (text : String)
  | policy (error : PolicyApplyError)
  | notSerialized (text : String)
  | sceneReload (error : LoadError)
  | panicked
  | baselineNotComparable

structure TrialRecord where
  recordType : String
  trialId : Nat
  policyName : String
  status : TrialStatus
  seed : Nat
  ticks : Nat
  score : Option TrialScore
  baselineScore : Option TrialScore
  delta : Option Float
  outcome : Option String
  lostReason : Option String
  hash : Option String
  error : Option TrialError

structure SummaryRecord where
  recordType : String
  scene : String
  seed : Nat
  ticks : Nat
  totalTrials : Nat
  baselineCount : Nat
  keptCount : Nat
  discardedCount : Nat
  failedCount : Nat
  blockedCount : Nat
  bestPolicyName : Option String
  bestScore : Option TrialScore

/-- The JSON library and the trial runner. -/
structure Harness where
  numbers : NumberText
  fromStr : String → Except String Json
  toText : Json → Except String String
  runTrial : String → Nat → Nat → Except TrialRunError TrialRun

def outcomeLabel : GameOutcome → String × Option String
  | .inProgress => ("in_progress", none)
  | .won => ("won", none)
  | .lost reason => ("lost", some reason)

def float (bits : F64Bits) : Float := Float.ofBits ⟨bits⟩

section Search

variable (harness : Harness) (seed ticks : Nat)

def buildRecord (trialId : Nat) (policy : Policy) (initialStatus : TrialStatus)
    (parsedScene : Except String Json) (baselineScore : Option TrialScore) : TrialRecord :=
  let row : TrialRecord :=
    { recordType := "trial"
      trialId
      policyName := policy.name
      status := initialStatus
      seed
      ticks
      score := none
      baselineScore
      delta := none
      outcome := none
      lostReason := none
      hash := none
      error := none }
  match parsedScene with
  | .error text => { row with status := .blocked, error := some (.sceneNotJson text) }
  | .ok scene =>
    match applyPolicy harness.numbers scene policy with
    | .error error => { row with status := .blocked, error := some (.policy error) }
    | .ok mutated =>
      match harness.toText mutated with
      | .error text => { row with status := .blocked, error := some (.notSerialized text) }
      | .ok text =>
        match harness.runTrial text seed ticks with
        | .ok run =>
          { row with
            outcome := some (outcomeLabel run.outcome).1
            lostReason := (outcomeLabel run.outcome).2
            hash := some run.hash
            score := some run.score
            delta := baselineScore.map fun score =>
              float run.score.weighted - float score.weighted }
        | .error (.sceneReload error) =>
          { row with status := .blocked, error := some (.sceneReload error) }
        | .error .panicked => { row with status := .failed, error := some .panicked }

/-- The status of a candidate's row beside the baseline. Without a baseline score a row that ran
loses its score, delta and hash. -/
def judge (baselineScore : Option TrialScore) (row : TrialRecord) : TrialRecord :=
  match baselineScore, row.score with
  | some baseline, some score =>
    { row with status := if score.beats baseline then .kept else .discarded }
  | none, _ =>
    if row.status ≠ .failed ∧ row.status ≠ .blocked then
      { row with
        status := .blocked
        error := some .baselineNotComparable
        score := none
        delta := none
        hash := none }
    else row
  | some _, none => row

/-- The best score so far and whose it is. -/
structure Best where
  score : Option TrialScore
  name : Option String

def Best.update (best : Best) (baselineScore : Option TrialScore) (policy : Policy)
    (row : TrialRecord) : Best :=
  match baselineScore, row.score with
  | some _, some score =>
    let updateBest := match best.score with
      | some current => score.beats current
      | none => true
    if updateBest then ⟨some score, some policy.name⟩ else best
  | _, _ => best

/-- The loop's state. -/
structure Searching where
  records : List TrialRecord
  best : Best

def candidateStep (parsedScene : Except String Json) (baselineScore : Option TrialScore)
    (state : Searching) (entry : Policy × Nat) : Searching :=
  -- both casts and the increment are of `u32`
  let trialId := (entry.2 % 2 ^ 32 + 1) % 2 ^ 32
  let row := buildRecord harness seed ticks trialId entry.1 .discarded parsedScene baselineScore
  { records := state.records ++ [judge baselineScore row]
    best := state.best.update baselineScore entry.1 row }

/-- A `u32` counter of rows. -/
def countStatus (status : TrialStatus) (records : List TrialRecord) : Nat :=
  records.countP (fun row => row.status = status) % 2 ^ 32

def summarize (scenePath : String) (state : Searching) : SummaryRecord :=
  { recordType := "summary"
    scene := scenePath
    seed
    ticks
    totalTrials := state.records.length % 2 ^ 32
    baselineCount := countStatus .baseline state.records
    keptCount := countStatus .kept state.records
    discardedCount := countStatus .discarded state.records
    failedCount := countStatus .failed state.records
    blockedCount := countStatus .blocked state.records
    bestPolicyName := state.best.name
    bestScore := state.best.score }

def runPolicySearch (scenePath sceneJson : String) (baselinePolicy : Policy)
    (candidatePolicies : List Policy) : List TrialRecord × SummaryRecord :=
  let parsedScene := harness.fromStr sceneJson
  let baseline := buildRecord harness seed ticks 0 baselinePolicy .baseline parsedScene none
  let start : Searching :=
    { records := [baseline]
      best := ⟨baseline.score, baseline.score.map fun _ => baselinePolicy.name⟩ }
  let final := candidatePolicies.zipIdx.foldl
    (candidateStep harness seed ticks parsedScene baseline.score) start
  (final.records, summarize seed ticks scenePath final)

end Search

end Simetro.Headless.Search
