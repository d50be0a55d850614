import Simetro.Sl1.StaticRecords

/-! Reading back the runtime part of the state hash: each fed section determines the
part of the runtime it is fed from. -/

namespace Simetro.Sl1

open Simetro.Library Chunk

namespace StateHash

/-! ## Records of one entity -/

theorem feedFreshnessState_reads : Reads feedFreshnessState fun state => state := by
  constructor
  intro first second after rest agree
  cases first with
  | noData =>
    cases second with
    | noData =>
      exact ⟨rfl, List.append_cancel_left agree.2.2⟩
    | _ => exact absurd agree.2.2 (by simp [feedFreshnessState])
  | ok =>
    cases second with
    | ok =>
      obtain ⟨ticks, ends⟩ := (Reads.unsigned 8).read agree.skip
      simp_all
    | _ => exact absurd agree.2.2 (by simp [feedFreshnessState])
  | stale =>
    cases second with
    | stale =>
      obtain ⟨ticks, ends⟩ := (Reads.unsigned 8).read agree.skip
      simp_all
    | _ => exact absurd agree.2.2 (by simp [feedFreshnessState])
  | degraded =>
    cases second with
    | degraded =>
      exact ⟨rfl, List.append_cancel_left agree.2.2⟩
    | _ => exact absurd agree.2.2 (by simp [feedFreshnessState])
  | invalid =>
    cases second with
    | invalid =>
      exact ⟨rfl, List.append_cancel_left agree.2.2⟩
    | _ => exact absurd agree.2.2 (by simp [feedFreshnessState])

theorem feedTransformState_reads : Reads feedTransformState fun state => state := by
  constructor
  intro first second after rest agree
  cases first with
  | idle =>
    cases second with
    | idle =>
      exact ⟨rfl, List.append_cancel_left agree.2.2⟩
    | _ => exact absurd agree.2.2 (by simp [feedTransformState])
  | running =>
    cases second with
    | running =>
      simp only [feedTransformState, Chunk.append_assoc] at agree
      obtain ⟨scheduled, agree⟩ := (Reads.unsigned 8).next agree.skip
      obtain ⟨started, agree⟩ := (Reads.unsigned 8).next agree
      obtain ⟨attempts, ends⟩ := (Reads.unsigned 4).read agree
      simp_all
    | _ => exact absurd agree.2.2 (by simp [feedTransformState])
  | starved =>
    cases second with
    | starved =>
      simp only [feedTransformState, Chunk.append_assoc] at agree
      obtain ⟨scheduled, agree⟩ := (Reads.unsigned 8).next agree.skip
      obtain ⟨sinces, agree⟩ := (Reads.unsigned 8).next agree
      obtain ⟨attempts, ends⟩ := (Reads.unsigned 4).read agree
      simp_all
    | _ => exact absurd agree.2.2 (by simp [feedTransformState])
  | blocked =>
    cases second with
    | blocked =>
      simp only [feedTransformState, Chunk.append_assoc] at agree
      obtain ⟨scheduled, agree⟩ := (Reads.unsigned 8).next agree.skip
      obtain ⟨sinces, agree⟩ := (Reads.unsigned 8).next agree
      obtain ⟨attempts, ends⟩ := (Reads.unsigned 4).read agree
      simp_all
    | _ => exact absurd agree.2.2 (by simp [feedTransformState])
  | late =>
    cases second with
    | late =>
      simp only [feedTransformState, Chunk.append_assoc] at agree
      obtain ⟨scheduled, agree⟩ := (Reads.unsigned 8).next agree.skip
      obtain ⟨attempts, agree⟩ := (Reads.unsigned 4).next agree
      obtain ⟨sinces, ends⟩ := (Reads.unsigned 8).read agree
      simp_all
    | _ => exact absurd agree.2.2 (by simp [feedTransformState])

theorem feedDemandInstance_reads : Reads feedDemandInstance fun waiting => waiting := by
  constructor
  intro first second after rest agree
  simp only [feedDemandInstance, Chunk.append_assoc] at agree
  obtain ⟨sequences, agree⟩ := (Reads.unsigned 8).next agree
  obtain ⟨spawns, agree⟩ := (Reads.unsigned 8).next agree
  obtain ⟨deadlines, ends⟩ := (Reads.unsigned 8).read agree
  refine ⟨?_, ends⟩
  cases first
  cases second
  simp_all

theorem feedDemandRuntime_reads : Reads feedDemandRuntime fun queue => queue := by
  constructor
  intro first second after rest agree
  simp only [feedDemandRuntime, Chunk.append_assoc] at agree
  obtain ⟨sequences, agree⟩ := (Reads.unsigned 8).next agree
  obtain ⟨fulfilled, agree⟩ := (Reads.unsigned 8).next agree
  obtain ⟨dropped, agree⟩ := (Reads.unsigned 8).next agree
  obtain ⟨cursors, agree⟩ := (Reads.unsigned 8).next agree
  obtain ⟨overflows, agree⟩ := Reads.flag.next agree
  obtain ⟨queues, ends⟩ := Reads.read (Reads.counted feedDemandInstance_reads) agree
  refine ⟨?_, ends⟩
  cases first
  cases second
  simp_all

theorem objectiveStatusTag_injective : Function.Injective objectiveStatusTag := by
  intro first second same
  cases first <;> cases second <;> first | rfl | exact absurd same (by decide)

theorem feedObjectiveRuntime_reads : Reads feedObjectiveRuntime fun objective => objective := by
  constructor
  intro first second after rest agree
  simp only [feedObjectiveRuntime, Chunk.append_assoc] at agree
  obtain ⟨statuses, agree⟩ := (Reads.tag objectiveStatusTag_injective).next agree
  obtain ⟨breaches, agree⟩ := (Reads.unsigned 8).next agree
  obtain ⟨changes, ends⟩ := (Reads.unsigned 8).read agree
  refine ⟨?_, ends⟩
  cases first
  cases second
  simp_all

theorem feedFailureConditionRuntime_reads : Reads feedFailureConditionRuntime fun condition => condition := by
  constructor
  intro first second after rest agree
  obtain ⟨streaks, agree⟩ := (Reads.unsigned 8).next agree
  obtain ⟨fired, ends⟩ := (Reads.unsigned 8).maybe.read agree
  refine ⟨?_, ends⟩
  cases first
  cases second
  simp_all

theorem feedVictoryConditionRuntime_reads :
    Reads feedVictoryConditionRuntime fun condition => condition := by
  constructor
  intro first second after rest agree
  obtain ⟨met, ends⟩ := (Reads.unsigned 8).maybe.read agree
  refine ⟨?_, ends⟩
  cases first
  cases second
  simp_all

theorem feedMetricState_reads : Reads feedMetricState fun state => state := by
  constructor
  intro first second after rest agree
  cases first with
  | ok =>
    cases second with
    | ok =>
      obtain ⟨values, ends⟩ := (Reads.unsigned 8).read agree.skip
      simp_all
    | _ => exact absurd agree.2.2 (by simp [feedMetricState])
  | noData =>
    cases second with
    | noData =>
      exact ⟨rfl, List.append_cancel_left agree.2.2⟩
    | _ => exact absurd agree.2.2 (by simp [feedMetricState])

theorem feedDashboardState_reads : Reads feedDashboardState fun state => state := by
  constructor
  intro first second after rest agree
  cases first with
  | ok =>
    cases second with
    | ok =>
      exact ⟨rfl, List.append_cancel_left agree.2.2⟩
    | _ => exact absurd agree.2.2 (by simp [feedDashboardState])
  | stale =>
    cases second with
    | stale =>
      obtain ⟨ticks, ends⟩ := (Reads.unsigned 8).read agree.skip
      simp_all
    | _ => exact absurd agree.2.2 (by simp [feedDashboardState])
  | noData =>
    cases second with
    | noData =>
      exact ⟨rfl, List.append_cancel_left agree.2.2⟩
    | _ => exact absurd agree.2.2 (by simp [feedDashboardState])

theorem feedAlertState_reads : Reads feedAlertState fun state => state := by
  constructor
  intro first second after rest agree
  cases first with
  | inactive =>
    cases second with
    | inactive =>
      exact ⟨rfl, List.append_cancel_left agree.2.2⟩
    | _ => exact absurd agree.2.2 (by simp [feedAlertState])
  | firing =>
    cases second with
    | firing =>
      obtain ⟨ticks, ends⟩ := (Reads.unsigned 8).read agree.skip
      simp_all
    | _ => exact absurd agree.2.2 (by simp [feedAlertState])

theorem feedAgentRuntime_reads : Reads feedAgentRuntime fun agent => agent := by
  constructor
  intro first second after rest agree
  simp only [feedAgentRuntime, Chunk.append_assoc] at agree
  obtain ⟨decisions, agree⟩ := (Reads.unsigned 8).maybe.next agree
  obtain ⟨cooldowns, agree⟩ := (Reads.unsigned 8).maybe.next agree
  obtain ⟨disabled, ends⟩ := Reads.flag.read agree
  refine ⟨?_, ends⟩
  cases first
  cases second
  simp_all

theorem feedMilestoneRuntime_reads : Reads feedMilestoneRuntime fun milestone => milestone := by
  constructor
  intro first second after rest agree
  obtain ⟨fired, agree⟩ := (Reads.unsigned 8).maybe.next agree
  obtain ⟨armed, ends⟩ := Reads.flag.read agree
  refine ⟨?_, ends⟩
  cases first
  cases second
  simp_all

theorem feedPair_reads : Reads feedPair fun pair => pair := Reads.str.on Prod.fst |>.append (Reads.str.on Prod.snd)

/-! ## Sections -/

theorem feedThingsRuntime_reads :
    Reads feedThingsRuntime fun runtime => (runtime.inventories, runtime.freshness) := by
  constructor
  intro first second after rest agree
  simp only [feedThingsRuntime, Chunk.append_assoc] at agree
  obtain ⟨inventories, agree⟩ :=
    (Reads.entries Reads.str (Reads.entries Reads.str (Reads.unsigned 8))).next agree.skip
  obtain ⟨freshness, ends⟩ :=
    (Reads.entries feedPair_reads feedFreshnessState_reads).read agree
  rw [inventories, freshness]
  exact ⟨rfl, ends⟩

theorem feedTransformsRuntime_reads : Reads feedTransformsRuntime fun runtime =>
    (runtime.transforms, runtime.placeCapacityUsed, runtime.pendingOutputs) := by
  constructor
  intro first second after rest agree
  simp only [feedTransformsRuntime, Chunk.append_assoc] at agree
  obtain ⟨transforms, agree⟩ :=
    (Reads.entries Reads.str feedTransformState_reads).next agree.skip
  obtain ⟨used, agree⟩ := (Reads.entries Reads.str
    (Reads.entries Reads.str (Reads.unsigned 8))).next agree
  obtain ⟨pending, ends⟩ :=
    (Reads.entries feedPair_reads (Reads.unsigned 8)).read agree.skip
  rw [transforms, used, pending]
  exact ⟨rfl, ends⟩

theorem feedObjectivesRuntime_reads : Reads feedObjectivesRuntime fun runtime =>
    (runtime.objectives, runtime.unsupportedObjectivesWarned) := by
  constructor
  intro first second after rest agree
  simp only [feedObjectivesRuntime, Chunk.append_assoc] at agree
  obtain ⟨objectives, agree⟩ :=
    (Reads.entries Reads.str feedObjectiveRuntime_reads).next agree.skip
  obtain ⟨warned, ends⟩ :=
    (Reads.members Reads.str).read agree
  rw [objectives, warned]
  exact ⟨rfl, ends⟩

theorem variantStr_reads : Reads (fun outcome => bare (GameOutcome.variantStr outcome))
    GameOutcome.variantStr :=
  Reads.word ["in_progress", "won", "lost"] (by intro outcome; cases outcome <;> simp [GameOutcome.variantStr]) (by decide)

theorem feedGameOutcome_reads : Reads feedGameOutcome fun outcome => outcome := by
  constructor
  intro first second after rest agree
  obtain ⟨variants, agree⟩ := Reads.next variantStr_reads agree
  cases first with
  | inProgress =>
    cases second with
    | inProgress => exact ⟨rfl, List.append_cancel_left agree.2.2⟩
    | _ => exact absurd variants (by simp [GameOutcome.variantStr])
  | won =>
    cases second with
    | won => exact ⟨rfl, List.append_cancel_left agree.2.2⟩
    | _ => exact absurd variants (by simp [GameOutcome.variantStr])
  | lost =>
    cases second with
    | lost =>
      obtain ⟨reasons, ends⟩ := Reads.str.read agree.skip
      exact ⟨congrArg _ reasons, ends⟩
    | _ => exact absurd variants (by simp [GameOutcome.variantStr])

theorem gamePhase_reads : Reads (fun phase => bare (Sl1GamePhase.asStr phase)) fun phase => phase :=
  (Reads.word ["stabilizing", "winning", "losing", "spiraling", "won", "lost"]
    (by intro phase; cases phase <;> decide) (by decide)).weaken (by
    intro first second same
    cases first <;> cases second <;> first | rfl | exact absurd same (by decide))

theorem feedOutcome_reads :
    Reads feedOutcome fun runtime => (runtime.gameOutcome, runtime.gamePhase) := by
  constructor
  intro first second after rest agree
  simp only [feedOutcome, Chunk.append_assoc] at agree
  obtain ⟨outcomes, agree⟩ := Reads.next feedGameOutcome_reads agree.skip
  obtain ⟨phases, ends⟩ := Reads.read gamePhase_reads agree
  rw [outcomes, phases]
  exact ⟨rfl, ends⟩

theorem feedAgentsRuntime_reads :
    Reads feedAgentsRuntime fun runtime => (runtime.agents, runtime.agentDemandPauses) := by
  constructor
  intro first second after rest agree
  simp only [feedAgentsRuntime, Chunk.append_assoc] at agree
  obtain ⟨agents, agree⟩ :=
    (Reads.entries Reads.str feedAgentRuntime_reads).next agree.skip
  obtain ⟨pauses, ends⟩ :=
    (Reads.entries Reads.str (Reads.unsigned 8)).read agree
  rw [agents, pauses]
  exact ⟨rfl, ends⟩

/-- A table behind its label. -/
theorem labelledEntries_reads {Value : Type} {feed : Value → Chunk}
    (values : Reads feed fun value => value) (label : String)
    (part : Sl1RuntimeState → IdMap Value) :
    Reads (fun runtime => bare label ++ entries str feed (part runtime)) part := by
  constructor
  intro first second after rest agree
  exact (Reads.entries Reads.str values).read agree.skip

/-- A section is read where the scene declares it, and takes no room elsewhere. -/
theorem gated_reads {View : Type} {feed : Sl1RuntimeState → Chunk} {view : Sl1RuntimeState → View}
    (reads : Reads feed view) (declared : Bool) :
    Reads (fun runtime => gated declared (feed runtime))
      fun runtime => if declared then some (view runtime) else none := by
  constructor
  intro first second after rest agree
  cases declared with
  | false => exact ⟨rfl, agree.ends⟩
  | true => exact (reads.read agree).imp_left (congrArg some)

theorem feedObservabilityRuntime_reads (observability : Option Sl1Observability) :
    Reads (feedObservabilityRuntime observability) fun runtime =>
      ((if !((observability.map (·.metrics)).getD []).isEmpty then some runtime.metricStates else none),
        (if !((observability.map (·.dashboards)).getD []).isEmpty then some runtime.dashboardStates
          else none),
        if !((observability.map (·.alerts)).getD []).isEmpty then some runtime.alertStates else none) := by
  constructor
  intro first second after rest agree
  cases observability with
  | none => exact ⟨rfl, agree.ends⟩
  | some observability =>
    simp only [feedObservabilityRuntime, Chunk.append_assoc] at agree
    obtain ⟨metrics, agree⟩ := (gated_reads
      (labelledEntries_reads feedMetricState_reads _ Sl1RuntimeState.metricStates) _).next agree
    obtain ⟨dashboards, agree⟩ := (gated_reads
      (labelledEntries_reads feedDashboardState_reads _ Sl1RuntimeState.dashboardStates) _).next agree
    obtain ⟨alerts, ends⟩ := (gated_reads
      (labelledEntries_reads feedAlertState_reads _ Sl1RuntimeState.alertStates) _).read agree
    exact ⟨Prod.ext metrics (Prod.ext dashboards alerts), ends⟩

end StateHash

end Simetro.Sl1
