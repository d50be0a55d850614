import Simetro.Sl1.Ambient

/-! What each pass adds to the transcript: events about its own topics, and warnings. -/

namespace Simetro.Protocol

/-- What an SL1 event is about. -/
inductive Topic where
  | pressure
  | objective
  | failure
  | victory
  | outcome
  | dashboard
  | alert
  | agent
  | milestone
  deriving DecidableEq

/-- The engine's own events have no topic. -/
def SimEvent.topic : SimEvent → Option Topic
  | .sl1PressureLifecycle _ _ _ _ => some .pressure
  | .sl1ObjectiveStateChanged _ _ _ _ => some .objective
  | .sl1FailureConditionFired _ _ => some .failure
  | .sl1VictoryConditionMet _ _ => some .victory
  | .sl1GameOutcomeChanged _ _ _ _ => some .outcome
  | .sl1DashboardStateChanged _ _ _ _ _ => some .dashboard
  | .sl1AlertFired _ _ _ _ _ _ | .sl1AlertCleared _ _ _ => some .alert
  | .sl1AgentActionApplied _ _ _ _ _ | .sl1AgentActionRejected _ _ _ _ _
  | .sl1AgentLlmDisabled _ _ => some .agent
  | .sl1MilestoneFired _ _ _ _ _ _ => some .milestone
  | .tick _ | .moverDeparted _ _ _ | .moverArrived _ _ _ | .moverSpeedChange _ _ _
  | .nodeHighlighted _ _ | .pathPulsed _ | .agentDecided _ _ => none

end Simetro.Protocol

namespace Simetro.Sl1

open Simetro.Library Simetro.Protocol

/-- The transcript of `after` continues that of `before`. -/
structure Frame.Extends (topics : List Topic) (before after : Frame) : Prop where
  events : ∃ more, after.events = before.events ++ more ∧
    ∀ event ∈ more, ∃ topic ∈ topics, event.topic = some topic
  messages : ∃ warnings : List WarningPayload, after.messages = before.messages ++ warnings.map SimMessage.warning

namespace Frame.Extends

variable {topics : List Topic} {before middle after : Frame}

theorem refl : before.Extends topics before := ⟨⟨[], by simp⟩, ⟨[], by simp⟩⟩

theorem trans (first : before.Extends topics middle) (second : middle.Extends topics after) :
    before.Extends topics after := by
  obtain ⟨⟨early, continued, about⟩, warnings, warned⟩ := first
  obtain ⟨⟨late, continued', about'⟩, warnings', warned'⟩ := second
  constructor
  · refine ⟨early ++ late, by rw [continued', continued, List.append_assoc], fun event listed => ?_⟩
    rcases List.mem_append.mp listed with early | late
    · exact about event early
    · exact about' event late
  · exact ⟨warnings ++ warnings', by rw [warned', warned, List.map_append, List.append_assoc]⟩

theorem mono {wider : List Topic} (extends_ : before.Extends topics after)
    (subset : topics ⊆ wider) : before.Extends wider after := by
  obtain ⟨⟨more, continued, about⟩, messages⟩ := extends_
  refine ⟨⟨more, continued, fun event listed => ?_⟩, messages⟩
  obtain ⟨topic, known, same⟩ := about event listed
  exact ⟨topic, subset known, same⟩

theorem emit {event : SimEvent} {topic : Topic} (sofar : before.Extends topics after)
    (about : event.topic = some topic) (known : topic ∈ topics) :
    before.Extends topics (after.emit event) :=
  sofar.trans ⟨⟨[event], rfl, fun _ listed => List.mem_singleton.mp listed ▸ ⟨topic, known, about⟩⟩,
    ⟨[], by simp⟩⟩

theorem warn {payload : WarningPayload} (sofar : before.Extends topics after) :
    before.Extends topics (after.warn payload) :=
  sofar.trans ⟨⟨[], by simp⟩, ⟨[payload], rfl⟩⟩

/-- Changes beside the transcript. -/
theorem same (sofar : before.Extends topics middle) (events : after.events = middle.events)
    (messages : after.messages = middle.messages) : before.Extends topics after :=
  sofar.trans ⟨⟨[], by simp [events]⟩, ⟨[], by simp [messages]⟩⟩

theorem foldl {Label : Type} {step : Frame → Label → Frame} {labels : List Label}
    (each : ∀ frame : Frame, ∀ label ∈ labels, frame.Extends topics (step frame label))
    (start : Frame) :
    start.Extends topics (labels.foldl step start) := by
  induction labels generalizing start with
  | nil => exact refl
  | cons label rest ih =>
    rw [List.foldl_cons]
    refine (each start label (by simp)).trans (ih (fun frame other listed => ?_) _)
    exact each frame other (by simp [listed])

/-- Events about other topics are those of before. -/
theorem filter (extends_ : before.Extends topics after) {keep : SimEvent → Bool}
    (other : ∀ event topic, topic ∈ topics → event.topic = some topic → keep event = false) :
    after.events.filter keep = before.events.filter keep := by
  obtain ⟨⟨more, continued, about⟩, -⟩ := extends_
  have none : more.filter keep = [] := by
    apply List.filter_eq_nil_iff.mpr
    intro event listed
    obtain ⟨topic, known, same⟩ := about event listed
    simp [other event topic known same]
  rw [continued, List.filter_append, none, List.append_nil]

/-- Events of a topic the passes are not about are those of before. -/
theorem filter_of_topic (extends_ : before.Extends topics after) {keep : SimEvent → Bool}
    {mine : Topic} (about : ∀ event, keep event = true → event.topic = some mine)
    (apart : mine ∉ topics) : after.events.filter keep = before.events.filter keep := by
  apply extends_.filter
  intro event topic listed same
  cases kept : keep event with
  | false => rfl
  | true =>
    have own := about event kept
    rw [same] at own
    exact absurd (Option.some.inj own ▸ listed) apart

/-- What is read off events of another topic is unchanged. -/
theorem filterMap_of_topic {Reading : Type} (extends_ : before.Extends topics after)
    {read : SimEvent → Option Reading} {mine : Topic}
    (about : ∀ event, (read event).isSome = true → event.topic = some mine) (apart : mine ∉ topics) :
    after.events.filterMap read = before.events.filterMap read := by
  obtain ⟨⟨more, continued, others⟩, -⟩ := extends_
  have none : more.filterMap read = [] := by
    apply List.filterMap_eq_nil_iff.mpr
    intro event listed
    obtain ⟨topic, known, same⟩ := others event listed
    cases reading : read event with
    | none => rfl
    | some _ =>
      have own := about event (by rw [reading]; rfl)
      rw [same] at own
      exact absurd (Option.some.inj own ▸ known) apart
  rw [continued, List.filterMap_append, none, List.append_nil]

end Frame.Extends

namespace Pressure

variable (scene : Sl1Scene) (now : Nat) (frame : Frame)

theorem overlaid_extends : frame.Extends [.pressure] (overlaid scene now frame) :=
  overlaid_rule (frame.Extends [.pressure]) .refl (fun _ _ grown => .same grown rfl rfl)
    (fun _ _ _ _ grown => .emit grown rfl (by simp)) fun _ _ _ grown => .warn grown

theorem run_extends : frame.Extends [.pressure] (run scene now frame) :=
  run_rule (motive := frame.Extends [.pressure]) .refl (overlaid_extends scene now frame)
    fun _ _ grown => injectSource_rule (motive := frame.Extends [.pressure]) (.same grown rfl rfl)
      (.same grown rfl rfl)

end Pressure

namespace Transforms

variable {transform : Sl1Transform} {caps : PassCaps} {now : Nat} {frame last : Frame}
  {state next : Sl1TransformState}

private theorem Advanced.extends (advanced : Advanced transform caps now frame state next last) :
    frame.Extends [] last := by
  cases advanced with
  | kept => exact .refl
  | started | completed => exact .same .refl rfl rfl
  | breached => exact .warn (.same .refl rfl rfl)
  | breachedFailed => exact .warn (.warn (.same .refl rfl rfl))
  | overdue | exhausted => exact .warn .refl
  | overdueFailed => exact .warn (.warn .refl)

private theorem Served.extends (served : Served transform caps now frame state next last) :
    frame.Extends [] last := by
  cases served with
  | quiet => exact .refl
  | started => exact .same .refl rfl rfl
  | missed | starved | blocked => exact .warn .refl

theorem runTransforms_extends (scene : Sl1Scene) (now : Nat) (frame : Frame) :
    frame.Extends [] (runTransforms scene now frame) := by
  refine runTransforms_rule (motive := frame.Extends []) .refl fun current transform _ before => ?_
  obtain ⟨_, _, middle, last, advanced, served, same⟩ :=
    processOne_cases transform scene.passCaps now current
  rw [same]
  exact .same (before.trans (advanced.extends.trans served.extends)) rfl rfl

end Transforms

namespace Demand

variable (demand : Sl1Demand) (now : Nat) (frame : Frame)

private theorem spawnScheduled_extends : frame.Extends [] (spawnScheduled demand now frame) := by
  unfold spawnScheduled
  simp only
  split
  · exact .same .refl rfl rfl
  · split
    · exact .warn (.same .refl rfl rfl)
    · exact .same .refl rfl rfl

private theorem spawn_extends : frame.Extends [] (spawn demand now frame) := by
  unfold spawn
  split
  · exact spawnScheduled_extends demand now frame
  · split
    · exact .refl
    · have pruned (start : Frame) (events : start.events = frame.events)
          (messages : start.messages = frame.messages) :
          frame.Extends [] (spawnScheduled demand now start) :=
        .trans (.same .refl events messages) (spawnScheduled_extends demand now start)
      exact pruned _ rfl rfl

private theorem drop_extends : frame.Extends [] (drop demand now frame) := by
  unfold drop
  have warned (start : Frame) (events : start.events = frame.events)
      (messages : start.messages = frame.messages) (expired : List Sl1DemandInstance) :
      frame.Extends [] (expired.foldl (warnDropped demand now) start) :=
    .trans (.same .refl events messages) (.foldl (fun _ _ _ => .warn .refl) start)
  exact warned (frame.modify _) rfl rfl _

private theorem fulfill_extends : frame.Extends [] (fulfill demand now frame) := by
  unfold fulfill
  split
  · exact .refl
  · simp only
    split
    · exact .refl
    · exact .same .refl rfl rfl

theorem runDemand_extends (scene : Sl1Scene) : frame.Extends [] (runDemand scene now frame) := by
  refine .foldl (fun frame demand _ => ?_) frame
  unfold serve
  split
  · have dropped := (spawn_extends demand now frame).trans (drop_extends demand now _)
    exact .same (dropped.trans (fulfill_extends demand now _)) rfl rfl
  · exact .refl

end Demand

theorem runFlow_extends (scene : Sl1Scene) (now : Nat) (frame : Frame) :
    frame.Extends [.pressure] (runFlow scene now frame) := by
  have pressed := Pressure.run_extends scene now frame
  have aged : frame.Extends [.pressure]
      (Transforms.ageFreshness scene now (Pressure.run scene now frame)) :=
    .same pressed rfl rfl
  have moved : frame.Extends [.pressure] (moveStock scene now frame) := by
    rw [moveStock_eq]
    exact aged.trans ((Transforms.runTransforms_extends scene now _).mono (by simp))
  rw [runFlow_eq]
  exact moved.trans ((Demand.runDemand_extends now _ scene).mono (by simp))

namespace Objectives

variable (scene : Sl1Scene) (now : Nat) (frame : Frame)

theorem evaluateObjectives_extends :
    frame.Extends [.objective] (evaluateObjectives scene now frame) :=
  evaluateObjectives_rule (frame.Extends [.objective]) .refl (fun _ _ grown => .same grown rfl rfl)
    (fun _ _ _ grown => .warn grown) (fun _ _ _ grown => .same grown rfl rfl)
    fun _ _ _ _ grown => .emit grown rfl (by simp)

theorem evaluateFailureConditions_extends :
    frame.Extends [.failure] (evaluateFailureConditions scene now frame) :=
  evaluateFailureConditions_rule (frame.Extends [.failure]) .refl
    (fun _ _ _ grown => .same grown rfl rfl) fun _ _ grown => .emit grown rfl (by simp)

theorem evaluateVictoryConditions_extends :
    frame.Extends [.victory] (evaluateVictoryConditions scene now frame) :=
  evaluateVictoryConditions_rule (frame.Extends [.victory]) .refl
    (fun _ _ _ grown => .same grown rfl rfl) fun _ _ grown => .emit grown rfl (by simp)

theorem recomputeOutcome_extends :
    frame.Extends [.outcome] (recomputeOutcome scene now frame) :=
  recomputeOutcome_rule (frame.Extends [.outcome]) .refl
    (fun _ _ _ _ grown => .emit grown rfl (by simp)) fun _ _ grown => .same grown rfl rfl

theorem run_extends :
    frame.Extends [.objective, .failure, .victory, .outcome] (run scene now frame) := by
  have judged : frame.Extends [.objective, .failure, .victory, .outcome]
      (evaluateObjectives scene now frame) :=
    (evaluateObjectives_extends scene now frame).mono (by simp)
  have failed := judged.trans ((evaluateFailureConditions_extends scene now _).mono (by simp))
  have met := failed.trans ((evaluateVictoryConditions_extends scene now _).mono (by simp))
  unfold run
  split
  · exact .refl
  · exact .same (met.trans ((recomputeOutcome_extends scene now _).mono (by simp))) rfl rfl

end Objectives

namespace Observability

variable (scene : Sl1Scene) (now : Nat) (frame : Frame)

theorem updateDashboards_extends (dashboards : List Sl1Dashboard) :
    frame.Extends [.dashboard] (dashboards.foldl (updateDashboard now) frame) :=
  updateDashboards_rule (frame.Extends [.dashboard]) .refl dashboards
    (fun _ _ _ _ _ grown => .emit grown rfl (by simp)) fun _ _ _ grown => .same grown rfl rfl

theorem updateMetrics_extends (metrics : List Sl1Metric) :
    frame.Extends [] (metrics.foldl (updateMetric scene now) frame) :=
  updateMetrics_rule (frame.Extends []) .refl metrics fun _ _ _ grown => .same grown rfl rfl

theorem updateAlerts_extends (alerts : List Sl1Alert) :
    frame.Extends [.alert] (alerts.foldl (updateAlert now) frame) :=
  updateAlerts_rule (frame.Extends [.alert]) .refl alerts
    (fun _ _ _ _ _ _ grown => .emit grown rfl (by simp))
    (fun _ _ _ grown => .emit grown rfl (by simp)) fun _ _ _ grown => .same grown rfl rfl

theorem run_extends : frame.Extends [.dashboard, .alert] (run scene now frame) :=
  run_rule (frame.Extends [.dashboard, .alert]) .refl
    (fun current dashboards grown =>
      grown.trans ((updateDashboards_extends now current dashboards).mono (by simp)))
    (fun current metrics grown =>
      grown.trans ((updateMetrics_extends scene now current metrics).mono (by simp)))
    fun current alerts grown => grown.trans ((updateAlerts_extends now current alerts).mono (by simp))

end Observability

namespace Agents

theorem run_extends (scene : Sl1Scene) (now : Nat) (backend : AgentBackend) (frame : Frame) :
    frame.Extends [.agent] (run scene now backend frame) :=
  run_rule (frame.Extends [.agent]) .refl (fun _ _ _ grown => .same grown rfl rfl)
    (fun _ _ grown => .same grown rfl rfl) (fun _ _ grown => .emit grown rfl (by simp))
    (fun _ _ _ _ _ grown => .emit grown rfl (by simp))
    fun _ _ _ _ _ grown => .emit grown rfl (by simp)

end Agents

namespace Milestones

theorem run_extends (scene : Sl1Scene) (now : Nat) (frame : Frame) :
    frame.Extends [.milestone] (run scene now frame) :=
  run_rule (frame.Extends [.milestone]) .refl (fun _ _ _ grown => .same grown rfl rfl)
    fun _ _ _ _ _ _ grown => .emit grown rfl (by simp)

end Milestones

/-- What follows the observability pass. -/
theorem runObservers_follows (scene : Sl1Scene) (backend : AgentBackend) (now : Nat) (frame : Frame) :
    (Observability.run scene now frame).Extends [.agent, .milestone]
      (runObservers scene backend now frame) := by
  rw [runObservers_eq]
  exact ((Agents.run_extends scene now backend _).mono (by simp)).trans
    ((Milestones.run_extends scene now _).mono (by simp))

theorem runObservers_extends (scene : Sl1Scene) (backend : AgentBackend) (now : Nat) (frame : Frame) :
    frame.Extends [.dashboard, .alert, .agent, .milestone] (runObservers scene backend now frame) :=
  ((Observability.run_extends scene now frame).mono (by simp)).trans
    ((runObservers_follows scene backend now frame).mono (by simp))

theorem run_extends (scene : Sl1Scene) (backend : AgentBackend) (now : Nat) (frame : Frame) :
    frame.Extends [.pressure, .objective, .failure, .victory, .outcome, .dashboard, .alert, .agent,
      .milestone] (run scene backend now frame) := by
  refine ((runFlow_extends scene now frame).mono (by simp)).trans ?_
  refine ((Objectives.run_extends scene now _).mono (by simp)).trans ?_
  exact (runObservers_extends scene backend now _).mono (by simp)

end Simetro.Sl1
