import Simetro.Sl1.Runtime

/-! The parts of a frame that one group of passes works on, the passes that leave
them alone, and for each pass the rule by which what its writes preserve outlasts it. -/

namespace Simetro.Protocol

def SimMessage.isTransform : SimMessage → Bool
  | .warning (.sl1Transform _ _ _ _) => true
  | _ => false

def SimMessage.isDemand : SimMessage → Bool
  | .warning (.sl1Demand _ _ _ _ _ _ _) => true
  | _ => false

/-- Events of the objectives pass. -/
def SimEvent.isStanding : SimEvent → Bool
  | .sl1ObjectiveStateChanged _ _ _ _ | .sl1FailureConditionFired _ _
  | .sl1VictoryConditionMet _ _ | .sl1GameOutcomeChanged _ _ _ _ => true
  | _ => false

end Simetro.Protocol

namespace Simetro.Sl1

open Simetro.Library Simetro.Protocol

/-- What transforms and injections work on. -/
structure Flow where
  inventories : IdMap (IdMap Nat)
  placeCapacityUsed : IdMap (IdMap Nat)
  pendingOutputs : PairMap Nat
  transforms : IdMap Sl1TransformState
  ledger : List LedgerEntry
  warnings : List SimMessage

/-- What only the transforms write. -/
structure Claims where
  placeCapacityUsed : IdMap (IdMap Nat)
  pendingOutputs : PairMap Nat
  transforms : IdMap Sl1TransformState
  warnings : List SimMessage

def Flow.claims (flow : Flow) : Claims where
  placeCapacityUsed := flow.placeCapacityUsed
  pendingOutputs := flow.pendingOutputs
  transforms := flow.transforms
  warnings := flow.warnings

/-- What the demand pass works on. -/
structure Queues where
  demand : IdMap Sl1DemandRuntime
  spawns : List DemandEntry
  fulfilments : List DemandEntry
  warnings : List SimMessage

/-- What the objectives pass works on. -/
structure Standing where
  objectives : IdMap Sl1ObjectiveRuntime
  failureConditions : IdMap Sl1FailureConditionRuntime
  victoryConditions : IdMap Sl1VictoryConditionRuntime
  gameOutcome : GameOutcome
  events : List SimEvent

namespace Frame

variable (frame : Frame)

def flow : Flow where
  inventories := frame.runtime.inventories
  placeCapacityUsed := frame.runtime.placeCapacityUsed
  pendingOutputs := frame.runtime.pendingOutputs
  transforms := frame.runtime.transforms
  ledger := frame.ledger
  warnings := frame.messages.filter SimMessage.isTransform

def queues : Queues where
  demand := frame.runtime.demand
  spawns := frame.spawns
  fulfilments := frame.fulfilments
  warnings := frame.messages.filter SimMessage.isDemand

def standing : Standing where
  objectives := frame.runtime.objectives
  failureConditions := frame.runtime.failureConditions
  victoryConditions := frame.runtime.victoryConditions
  gameOutcome := frame.runtime.gameOutcome
  events := frame.events.filter SimEvent.isStanding

/-- All three parts. -/
def core : Flow × Queues × Standing := (frame.flow, frame.queues, frame.standing)

@[simp] theorem emit_flow (event : SimEvent) : (frame.emit event).flow = frame.flow := rfl

@[simp] theorem emit_queues (event : SimEvent) : (frame.emit event).queues = frame.queues := rfl

theorem emit_standing {event : SimEvent} (other : event.isStanding = false) :
    (frame.emit event).standing = frame.standing := by
  simp [standing, other]

theorem emit_core {event : SimEvent} (other : event.isStanding = false) :
    (frame.emit event).core = frame.core := by
  simp [core, emit_standing frame other]

theorem warn_flow {payload : WarningPayload}
    (other : (SimMessage.warning payload).isTransform = false) :
    (frame.warn payload).flow = frame.flow := by
  simp [flow, other]

theorem warn_queues {payload : WarningPayload}
    (other : (SimMessage.warning payload).isDemand = false) :
    (frame.warn payload).queues = frame.queues := by
  simp [queues, other]

@[simp] theorem warn_standing (payload : WarningPayload) :
    (frame.warn payload).standing = frame.standing := rfl

theorem warn_core {payload : WarningPayload}
    (notTransform : (SimMessage.warning payload).isTransform = false)
    (notDemand : (SimMessage.warning payload).isDemand = false) :
    (frame.warn payload).core = frame.core := by
  simp [core, warn_flow frame notTransform, warn_queues frame notDemand]

theorem flow_of_core {frame other : Frame} (same : frame.core = other.core) :
    frame.flow = other.flow := congrArg (·.1) same

theorem queues_of_core {frame other : Frame} (same : frame.core = other.core) :
    frame.queues = other.queues := congrArg (·.2.1) same

theorem standing_of_core {frame other : Frame} (same : frame.core = other.core) :
    frame.standing = other.standing := congrArg (·.2.2) same

end Frame

namespace Pressure

/-- The frame the injections start from. -/
def overlaid (scene : Sl1Scene) (now : Nat) (frame : Frame) : Frame :=
  let frame := (toDeactivate scene frame.runtime now).foldl (deactivate scene now) frame
  (scene.pressure.foldl (activate now) frame).modify (rebuildOverlays scene)

theorem run_eq (scene : Sl1Scene) (now : Nat) (frame : Frame) : run scene now frame =
    if scene.pressure.isEmpty then frame
    else applySourceInjection scene now (overlaid scene now frame) := rfl

section Rules

variable {scene : Sl1Scene} {now : Nat} {frame : Frame}

/-- An injection keeps the fraction and, where whole units are due, performs them. -/
theorem injectSource_rule {motive : Frame → Prop} {caps : PairMap Nat} {injection : SourceInjection}
    (carried : motive (frame.modify injection.keepCarry))
    (landed : motive ((frame.modify injection.keepCarry).perform now
      (.inject injection.pressure injection.place injection.thing (injection.due frame.runtime)
        (injection.units caps frame.runtime))
      (injection.land · (injection.units caps frame.runtime)))) :
    motive (injectSource caps now frame injection) := by
  unfold injectSource
  simp only
  split
  · exact carried
  · exact landed

/-- The pass builds its overlays and then injects. -/
theorem run_rule {motive : Frame → Prop} (unscheduled : motive frame)
    (started : motive (overlaid scene now frame))
    (injected : ∀ frame injection, motive frame →
      motive (injectSource scene.storageCaps now frame injection)) :
    motive (run scene now frame) := by
  rw [run_eq]
  split
  · exact unscheduled
  · exact List.foldlRecOn (motive := motive) _ _ started
      fun frame holds injection _ => injected frame injection holds

/-- Building the overlays writes the pressures, tells who comes and goes, and may warn. -/
theorem overlaid_rule (motive : Frame → Prop) (holds : motive frame)
    (written : ∀ current pressure, motive current →
      motive (current.modify fun runtime => { runtime with pressure }))
    (told : ∀ current id kind change, motive current →
      motive (current.emit (.sl1PressureLifecycle id kind change now)))
    (warned : ∀ current id kind, motive current →
      motive (current.warn (.sl1Pressure id .unsupportedInThisPr kind now))) :
    motive (overlaid scene now frame) := by
  have ended : motive ((toDeactivate scene frame.runtime now).foldl (deactivate scene now) frame) := by
    refine List.foldlRecOn _ _ holds fun current kept id _ => ?_
    have erased := written current { current.runtime.pressure with
      active := current.runtime.pressure.active.erase id
      sourceInjectCarryMilli :=
        current.runtime.pressure.sourceInjectCarryMilli.filter fun key _ => key.1 != id
      unsupportedWarned := current.runtime.pressure.unsupportedWarned.erase id } kept
    unfold deactivate
    cases pressureDef scene id with
    | none => exact erased
    | some pressure => exact told _ _ _ _ erased
  refine written _ (rebuildOverlays scene _).pressure ?_
  refine List.foldlRecOn _ _ ended fun current kept pressure _ => ?_
  unfold activate
  split
  · have opened := told _ pressure.id pressure.kind.asStr .activated (written current
      { current.runtime.pressure with
        active := current.runtime.pressure.active.insert pressure.id now } kept)
    unfold warnUnsupported
    simp only
    split
    · exact opened
    · exact warned _ _ _ (written _ _ opened)
  · exact kept

variable {View : Type} (view : Frame → View)

theorem run_keeps (started : view (overlaid scene now frame) = view frame)
    (injected : ∀ frame injection,
      view (injectSource scene.storageCaps now frame injection) = view frame) :
    view (run scene now frame) = view frame :=
  run_rule (motive := fun after => view after = view frame) rfl started
    fun current injection same => (injected current injection).trans same

end Rules

theorem overlaid_core (scene : Sl1Scene) (now : Nat) (frame : Frame) :
    (overlaid scene now frame).core = frame.core :=
  overlaid_rule (fun current => current.core = frame.core) rfl (fun _ _ same => same)
    (fun current _ _ _ same => (current.emit_core rfl).trans same)
    fun current _ _ same => (current.warn_core rfl rfl).trans same

theorem injectSource_queues (caps : PairMap Nat) (now : Nat) (frame : Frame)
    (injection : SourceInjection) : (injectSource caps now frame injection).queues = frame.queues :=
  injectSource_rule (motive := fun after => after.queues = frame.queues) rfl rfl

theorem injectSource_standing (caps : PairMap Nat) (now : Nat) (frame : Frame)
    (injection : SourceInjection) :
    (injectSource caps now frame injection).standing = frame.standing :=
  injectSource_rule (motive := fun after => after.standing = frame.standing) rfl rfl

theorem injectSource_claims (caps : PairMap Nat) (now : Nat) (frame : Frame)
    (injection : SourceInjection) :
    (injectSource caps now frame injection).flow.claims = frame.flow.claims :=
  injectSource_rule (motive := fun after => after.flow.claims = frame.flow.claims) rfl rfl

theorem run_claims (scene : Sl1Scene) (now : Nat) (frame : Frame) :
    (run scene now frame).flow.claims = frame.flow.claims :=
  run_keeps (·.flow.claims) (congrArg Flow.claims (Frame.flow_of_core (overlaid_core scene now frame)))
    (injectSource_claims _ now)

theorem run_queues (scene : Sl1Scene) (now : Nat) (frame : Frame) :
    (run scene now frame).queues = frame.queues :=
  run_keeps Frame.queues (Frame.queues_of_core (overlaid_core scene now frame))
    (injectSource_queues _ now)

theorem run_standing (scene : Sl1Scene) (now : Nat) (frame : Frame) :
    (run scene now frame).standing = frame.standing :=
  run_keeps Frame.standing (Frame.standing_of_core (overlaid_core scene now frame))
    (injectSource_standing _ now)

end Pressure

theorem Transforms.ageFreshness_core (scene : Sl1Scene) (now : Nat) (frame : Frame) :
    (ageFreshness scene now frame).core = frame.core := rfl

namespace Demand

variable (demand : Sl1Demand) (now : Nat) (frame : Frame)

/-- A view that no write of a demand's tick changes, pruning a pause apart. -/
structure Keeps (demand : Sl1Demand) (now : Nat) {View : Type} (view : Frame → View) : Prop where
  stored (frame : Frame) (queue : Sl1DemandRuntime) :
    view (frame.modify (·.storeDemand demand.id queue)) = view frame
  entered (frame : Frame) (births : List Sl1DemandInstance) :
    view (frame.enqueue (births.map fun one => ⟨now, demand.id, one.sequence⟩)) = view frame
  overflowed (frame : Frame) : view (warnOverflow demand now frame) = view frame
  dropped (frame : Frame) (one : Sl1DemandInstance) :
    view (warnDropped demand now frame one) = view frame
  served (frame : Frame) (sequence : Nat) :
    view (frame.serve ⟨now, demand.id, sequence⟩) = view frame

section Kept

variable {demand now} {View : Type} {view : Frame → View} (keeps : Keeps demand now view)
include keeps

/-- A scheduled spawn stores the queue, books what is born and may report an overflow. -/
theorem spawnScheduled_keeps : view (spawnScheduled demand now frame) = view frame := by
  unfold spawnScheduled
  rcases shouldSpawn demand.spawnSchedule (frame.runtime.demandRuntime demand.id) now with ⟨fires, queue⟩
  cases fires with
  | false => exact keeps.stored frame queue
  | true =>
    simp only [not_true, if_false]
    generalize spawnMany demand now _ queue = outcome
    obtain ⟨spawned, overflowed⟩ := outcome
    have booked := (keeps.entered _ (spawned.pending.drop queue.pending.length)).trans
      (keeps.stored frame spawned)
    cases overflowed with
    | false => exact booked
    | true => exact (keeps.overflowed _).trans booked

theorem drop_keeps : view (drop demand now frame) = view frame := by
  unfold drop
  exact (foldl_keeps view (fun frame one _ => keeps.dropped frame one) _).trans (keeps.stored frame _)

theorem fulfill_keeps : view (fulfill demand now frame) = view frame := by
  unfold fulfill
  split
  · rfl
  · simp only
    split
    · rfl
    · exact (keeps.served _ _).trans (keeps.stored frame _)

/-- What follows the spawn prunes no pause. -/
theorem settle_keeps :
    view (resetOverflow demand (fulfill demand now (drop demand now frame))) = view frame :=
  (keeps.stored _ _).trans ((fulfill_keeps _ keeps).trans (drop_keeps frame keeps))

section Pruned

variable (pruned : ∀ frame : Frame, view (frame.modify fun runtime =>
  { runtime with agentDemandPauses := runtime.agentDemandPauses.erase demand.id }) = view frame)
include pruned

/-- A spawn may also prune a stale pause. -/
theorem spawn_keeps : view (spawn demand now frame) = view frame := by
  unfold spawn
  split
  · exact spawnScheduled_keeps frame keeps
  · split
    · rfl
    · exact (spawnScheduled_keeps _ keeps).trans (pruned frame)

theorem serve_keeps : view (serve demand now frame) = view frame := by
  unfold serve
  split
  · exact (settle_keeps _ keeps).trans (spawn_keeps frame keeps pruned)
  · rfl

end Pruned

end Kept

/-- A view that the writes of every demand keep is kept by the pass. -/
theorem runDemand_keeps {View : Type} {view : Frame → View} (scene : Sl1Scene)
    (keeps : ∀ demand, Keeps demand now view)
    (pruned : ∀ (demand : Sl1Demand) (frame : Frame), view (frame.modify fun runtime =>
      { runtime with agentDemandPauses := runtime.agentDemandPauses.erase demand.id }) = view frame) :
    view (runDemand scene now frame) = view frame :=
  foldl_keeps view (fun frame demand _ => serve_keeps frame (keeps demand) (pruned demand)) frame

/-- What the demand pass leaves alone. -/
private def outside (frame : Frame) : Flow × Standing := (frame.flow, frame.standing)

private theorem outside_warn {payload : WarningPayload}
    (other : (SimMessage.warning payload).isTransform = false) :
    outside (frame.warn payload) = outside frame := by
  rw [outside, Frame.warn_flow _ other, Frame.warn_standing]
  rfl

private theorem outside_kept : Keeps demand now outside where
  stored _ _ := rfl
  entered _ _ := rfl
  overflowed frame := outside_warn frame rfl
  dropped frame _ := outside_warn frame rfl
  served _ _ := rfl

private theorem runDemand_outside (scene : Sl1Scene) :
    outside (runDemand scene now frame) = outside frame :=
  runDemand_keeps now frame scene (outside_kept · now) fun _ _ => rfl

theorem runDemand_flow (scene : Sl1Scene) : (runDemand scene now frame).flow = frame.flow :=
  congrArg Prod.fst (runDemand_outside now frame scene)

theorem runDemand_standing (scene : Sl1Scene) :
    (runDemand scene now frame).standing = frame.standing :=
  congrArg Prod.snd (runDemand_outside now frame scene)

end Demand

namespace Objectives

variable (scene : Sl1Scene) (now : Nat) (frame : Frame)

section Rules

variable {scene now frame} (motive : Frame → Prop) (holds : motive frame)
include holds

/-- What the writes and reports of the layer preserve outlasts the objectives. -/
theorem evaluateObjectives_rule
    (flagged : ∀ current id, motive current → motive (current.modify fun runtime => { runtime with
      unsupportedObjectivesWarned := runtime.unsupportedObjectivesWarned.insert id }))
    (warned : ∀ current id kind, motive current →
      motive (current.warn (.sl1Objective id .unsupportedInThisPr kind now)))
    (stored : ∀ current id entry, motive current → motive (current.modify fun runtime =>
      { runtime with objectives := runtime.objectives.insert id entry }))
    (changed : ∀ current id previous next, motive current →
      motive (current.emit (.sl1ObjectiveStateChanged id previous next now))) :
    motive (evaluateObjectives scene now frame) := by
  refine List.foldlRecOn _ _ holds fun current kept objective _ => ?_
  have told : motive (warnUnsupported now current objective) := by
    unfold warnUnsupported
    split
    · exact warned _ _ _ (flagged _ _ kept)
    · exact kept
  unfold evaluateObjective
  split
  · exact kept
  · simp only
    split
    · exact stored _ _ _ told
    · exact changed _ _ _ _ (stored _ _ _ told)

theorem evaluateFailureConditions_rule
    (stored : ∀ current id entry, motive current → motive (current.modify fun runtime =>
      { runtime with failureConditions := runtime.failureConditions.insert id entry }))
    (fired : ∀ current id, motive current → motive (current.emit (.sl1FailureConditionFired id now))) :
    motive (evaluateFailureConditions scene now frame) := by
  refine List.foldlRecOn _ _ holds fun current kept condition _ => ?_
  unfold evaluateFailureCondition
  split
  · exact kept
  · simp only
    split
    · exact fired _ _ (stored _ _ _ kept)
    · exact stored _ _ _ kept

theorem evaluateVictoryConditions_rule
    (stored : ∀ current id entry, motive current → motive (current.modify fun runtime =>
      { runtime with victoryConditions := runtime.victoryConditions.insert id entry }))
    (met : ∀ current id, motive current → motive (current.emit (.sl1VictoryConditionMet id now))) :
    motive (evaluateVictoryConditions scene now frame) := by
  refine List.foldlRecOn _ _ holds fun current kept condition _ => ?_
  unfold evaluateVictoryCondition
  split
  · exact kept
  · split
    · exact met _ _ (stored _ _ _ kept)
    · exact kept

theorem recomputeOutcome_rule
    (decided : ∀ current previous next reason, motive current →
      motive (current.emit (.sl1GameOutcomeChanged previous next now reason)))
    (adopted : ∀ current outcome, motive current → motive (current.modify fun runtime =>
      { runtime with gameOutcome := outcome })) :
    motive (recomputeOutcome scene now frame) := by
  unfold recomputeOutcome
  simp only
  split
  · exact holds
  · exact adopted _ _ (decided _ _ _ _ holds)

theorem run_rule
    (judged : ∀ current, motive current → motive (evaluateObjectives scene now current))
    (failed : ∀ current, motive current → motive (evaluateFailureConditions scene now current))
    (won : ∀ current, motive current → motive (evaluateVictoryConditions scene now current))
    (settled : ∀ current, motive current → motive (recomputeOutcome scene now current))
    (phased : ∀ current, motive current → motive (current.modify fun runtime =>
      { runtime with gamePhase := computePhase scene runtime })) :
    motive (run scene now frame) := by
  unfold run
  split
  · exact holds
  · exact phased _ (settled _ (won _ (failed _ (judged _ holds))))

end Rules

/-- What the objectives pass leaves alone. -/
private def outside (frame : Frame) : Flow × Queues := (frame.flow, frame.queues)

private theorem outside_warn {payload : WarningPayload}
    (notTransform : (SimMessage.warning payload).isTransform = false)
    (notDemand : (SimMessage.warning payload).isDemand = false) :
    outside (frame.warn payload) = outside frame := by
  rw [outside, Frame.warn_flow _ notTransform, Frame.warn_queues _ notDemand]
  rfl

private theorem run_outside : outside (run scene now frame) = outside frame := by
  let kept (current : Frame) : Prop := outside current = outside frame
  refine run_rule kept rfl (fun current same => ?_) (fun current same => ?_) (fun current same => ?_)
    (fun current same => ?_) fun _ same => same
  · exact evaluateObjectives_rule kept same (fun _ _ same => same)
      (fun current _ _ same => (outside_warn current rfl rfl).trans same) (fun _ _ _ same => same)
      fun _ _ _ _ same => same
  · exact evaluateFailureConditions_rule kept same (fun _ _ _ same => same) fun _ _ same => same
  · exact evaluateVictoryConditions_rule kept same (fun _ _ _ same => same) fun _ _ same => same
  · exact recomputeOutcome_rule kept same (fun _ _ _ _ same => same) fun _ _ same => same

theorem run_flow : (run scene now frame).flow = frame.flow :=
  congrArg Prod.fst (run_outside scene now frame)

theorem run_queues : (run scene now frame).queues = frame.queues :=
  congrArg Prod.snd (run_outside scene now frame)

end Objectives

namespace Observability

variable (scene : Sl1Scene) (now : Nat) (frame : Frame)

section Rules

variable {scene now frame} (motive : Frame → Prop) (holds : motive frame)
include holds

theorem updateDashboards_rule (dashboards : List Sl1Dashboard)
    (changed : ∀ current id previous next stale, motive current →
      motive (current.emit (.sl1DashboardStateChanged id previous next now stale)))
    (stored : ∀ current id state, motive current → motive (current.modify fun runtime =>
      { runtime with dashboardStates := runtime.dashboardStates.insert id state })) :
    motive (dashboards.foldl (updateDashboard now) frame) := by
  refine List.foldlRecOn _ _ holds fun current kept dashboard _ => ?_
  unfold updateDashboard
  simp only
  split
  · exact kept
  · split
    · exact stored _ _ _ (changed _ _ _ _ _ kept)
    · exact stored _ _ _ kept

theorem updateMetrics_rule (metrics : List Sl1Metric)
    (stored : ∀ current id state, motive current → motive (current.modify fun runtime =>
      { runtime with metricStates := runtime.metricStates.insert id state })) :
    motive (metrics.foldl (updateMetric scene now) frame) := by
  refine List.foldlRecOn _ _ holds fun current kept metric _ => ?_
  unfold updateMetric
  split
  · exact kept
  · exact stored _ _ _ kept

omit holds in
/-- An alert reports nothing but that it fires or clears. -/
theorem alertEvent_reports {current : Frame} {alert : Sl1Alert} {metric : Sl1MetricState}
    {previous next : Sl1AlertState} {event : SimEvent}
    (raised : alertEvent now alert metric previous next = some event) (kept : motive current)
    (fired : ∀ current id metric value severity summary, motive current →
      motive (current.emit (.sl1AlertFired id metric value severity summary now)))
    (cleared : ∀ current id metric, motive current →
      motive (current.emit (.sl1AlertCleared id metric now))) : motive (current.emit event) := by
  unfold alertEvent at raised
  split at raised
  · split at raised
    · cases raised
      exact fired _ _ _ _ _ _ kept
    · cases raised
  · cases raised
    exact cleared _ _ _ kept
  · cases raised

theorem updateAlerts_rule (alerts : List Sl1Alert)
    (fired : ∀ current id metric value severity summary, motive current →
      motive (current.emit (.sl1AlertFired id metric value severity summary now)))
    (cleared : ∀ current id metric, motive current →
      motive (current.emit (.sl1AlertCleared id metric now)))
    (stored : ∀ current id state, motive current → motive (current.modify fun runtime =>
      { runtime with alertStates := runtime.alertStates.insert id state })) :
    motive (alerts.foldl (updateAlert now) frame) := by
  refine List.foldlRecOn _ _ holds fun current kept alert _ => ?_
  unfold updateAlert
  split
  · simp only
    split
    · rename_i raised
      exact stored _ _ _ (alertEvent_reports motive raised kept fired cleared)
    · exact stored _ _ _ kept
  · exact kept

theorem run_rule
    (shown : ∀ current dashboards, motive current →
      motive (List.foldl (updateDashboard now) current dashboards))
    (measured : ∀ current metrics, motive current →
      motive (List.foldl (updateMetric scene now) current metrics))
    (alerted : ∀ current alerts, motive current →
      motive (List.foldl (updateAlert now) current alerts)) : motive (run scene now frame) := by
  unfold run
  split
  · exact holds
  · exact alerted _ _ (measured _ _ (shown _ _ holds))

end Rules

theorem run_core : (run scene now frame).core = frame.core := by
  let kept (current : Frame) : Prop := current.core = frame.core
  refine run_rule kept rfl (fun current dashboards same => ?_) (fun current metrics same => ?_)
    fun current alerts same => ?_
  · exact updateDashboards_rule kept same dashboards
      (fun current _ _ _ _ same => (current.emit_core rfl).trans same) fun _ _ _ same => same
  · exact updateMetrics_rule kept same metrics fun _ _ _ same => same
  · exact updateAlerts_rule kept same alerts
      (fun current _ _ _ _ _ same => (current.emit_core rfl).trans same)
      (fun current _ _ same => (current.emit_core rfl).trans same) fun _ _ _ same => same

end Observability

namespace Agents

/-- What an agent's turn writes, imposes and reports. -/
theorem run_rule {scene : Sl1Scene} {now : Nat} {backend : AgentBackend} {frame : Frame}
    (motive : Frame → Prop) (holds : motive frame)
    (updated : ∀ current agent change, motive current →
      motive (current.modify (updateAgent agent change)))
    (imposed : ∀ current action, motive current → motive (current.modify (applyAction now action)))
    (disabled : ∀ current id, motive current → motive (current.emit (.sl1AgentLlmDisabled id now)))
    (rejected : ∀ current id kind target reason, motive current →
      motive (current.emit (.sl1AgentActionRejected id kind target reason now)))
    (applied : ∀ current id kind target cost, motive current →
      motive (current.emit (.sl1AgentActionApplied id kind target cost now))) :
    motive (run scene now backend frame) := by
  refine List.foldlRecOn _ _ holds fun current kept agent _ => ?_
  unfold decideOne
  split
  · exact kept
  · split
    · exact kept
    · split
      · unfold reportDisabled
        simp only
        split
        · exact updated _ _ _ kept
        · exact updated _ _ _ (disabled _ _ kept)
      · have clocked := updated _ agent (fun state => { state with lastDecisionTick := some now }) kept
        simp only
        split
        · exact clocked
        · unfold settleAction
          split
          · exact rejected _ _ _ _ _ clocked
          · exact applied _ _ _ _ _ (updated _ _ _ (imposed _ _ clocked))

theorem run_core (scene : Sl1Scene) (now : Nat) (backend : AgentBackend) (frame : Frame) :
    (run scene now backend frame).core = frame.core := by
  refine run_rule (fun current => current.core = frame.core) rfl (fun _ _ _ same => same)
    (fun current action same => ?_) (fun current _ same => (current.emit_core rfl).trans same)
    (fun current _ _ _ _ same => (current.emit_core rfl).trans same)
    fun current _ _ _ _ same => (current.emit_core rfl).trans same
  cases action
  exact same

end Agents

namespace Milestones

theorem run_rule {scene : Sl1Scene} {now : Nat} {frame : Frame} (motive : Frame → Prop)
    (holds : motive frame)
    (stored : ∀ current milestone entry, motive current → motive (store milestone entry current))
    (fired : ∀ current id label kind focus highlight, motive current →
      motive (current.emit (.sl1MilestoneFired id label kind focus highlight now))) :
    motive (run scene now frame) := by
  refine List.foldlRecOn _ _ holds fun current kept milestone _ => ?_
  unfold evaluate
  split
  · exact kept
  · split
    · exact kept
    · split
      · split
        · exact stored _ _ _ kept
        · exact kept
      · split
        · exact kept
        · exact fired _ _ _ _ _ _ (stored _ _ _ kept)

theorem run_core (scene : Sl1Scene) (now : Nat) (frame : Frame) :
    (run scene now frame).core = frame.core :=
  run_rule (fun current => current.core = frame.core) rfl (fun _ _ _ same => same)
    fun current _ _ _ _ _ same => (current.emit_core rfl).trans same

end Milestones

/-- The observers change nothing the flow, the queues or the standing rest on. -/
theorem runObservers_core (scene : Sl1Scene) (backend : AgentBackend) (now : Nat) (frame : Frame) :
    (runObservers scene backend now frame).core = frame.core := by
  rw [runObservers_eq, Milestones.run_core, Agents.run_core, Observability.run_core]

end Simetro.Sl1
