import Simetro.Library.Encoding
import Simetro.Protocol.Messages

/-! The simulation events of a tick as `state_hash` feeds them to the hasher. -/

namespace Simetro.Engine.StateHash

open Simetro.Library Simetro.Protocol Chunk

/-- `ActionTag as u8`. -/
def actionByte : ActionTag → UInt8
  | .noOp => 0
  | .setSpeed => 1
  | .placePiece => 2
  | .connectPieces => 3
  | .removePiece => 4
  | .defineResource => 5
  | .addProducer => 6
  | .addConsumer => 7
  | .setGoal => 8

/-- `HighlightReason as u8`. -/
def highlightByte : HighlightReason → UInt8
  | .agentFocus => 0
  | .bottleneck => 1
  | .goalReached => 2

def sl1ObjectiveStatusTag : Sl1ObjectiveStatusTag → UInt8
  | .unknown => 0x00
  | .met => 0x01
  | .breached => 0x02
  | .unsupported => 0x03

def sl1PressureEventTag : Sl1PressureEventKind → UInt8
  | .activated => 0x01
  | .deactivated => 0x02

def feedEvent : SimEvent → Chunk
  | .moverDeparted mover fromNode path => byte 0x10 ++ u32 mover ++ u32 fromNode ++ u32 path
  | .moverArrived mover atNode path => byte 0x11 ++ u32 mover ++ u32 atNode ++ u32 path
  | .moverSpeedChange mover old new => byte 0x12 ++ u32 mover ++ word32 old ++ word32 new
  | .nodeHighlighted node reason => byte 0x13 ++ u32 node ++ byte (highlightByte reason)
  | .pathPulsed path => byte 0x14 ++ u32 path
  -- the one string that goes in without its length
  | .agentDecided agentId action => byte 0x15 ++ bare agentId ++ byte (actionByte action)
  | .tick tick => byte 0x16 ++ u64 tick
  | .sl1PressureLifecycle pressureId pressureKind event tick =>
      byte 0x17 ++ str pressureId ++ str pressureKind ++ byte (sl1PressureEventTag event) ++
        u64 tick
  | .sl1ObjectiveStateChanged objectiveId source target tick =>
      byte 0x18 ++ str objectiveId ++ byte (sl1ObjectiveStatusTag source) ++
        byte (sl1ObjectiveStatusTag target) ++ u64 tick
  | .sl1FailureConditionFired failureConditionId tick =>
      byte 0x19 ++ str failureConditionId ++ u64 tick
  | .sl1VictoryConditionMet victoryConditionId tick =>
      byte 0x1a ++ str victoryConditionId ++ u64 tick
  | .sl1GameOutcomeChanged source target tick reason =>
      byte 0x1b ++ str source ++ str target ++ u64 tick ++ maybe str reason
  | .sl1DashboardStateChanged dashboardId source target tick freshnessTicks =>
      byte 0x1c ++ str dashboardId ++ str source ++ str target ++ u64 tick ++
        maybe u64 freshnessTicks
  | .sl1AlertFired alertId metricId value severity predicate tick =>
      byte 0x1d ++ str alertId ++ str metricId ++ u64 value ++ str severity ++ str predicate ++
        u64 tick
  | .sl1AlertCleared alertId metricId tick =>
      byte 0x1e ++ str alertId ++ str metricId ++ u64 tick
  | .sl1AgentActionApplied agentId actionKind targetId cost tick =>
      byte 0x1f ++ str agentId ++ str actionKind ++ str targetId ++ u64 cost ++ u64 tick
  | .sl1AgentActionRejected agentId actionKind targetId reason tick =>
      byte 0x20 ++ str agentId ++ str actionKind ++ maybe str targetId ++ str reason ++ u64 tick
  | .sl1AgentLlmDisabled agentId tick => byte 0x21 ++ str agentId ++ u64 tick
  | .sl1MilestoneFired milestoneId label triggerKind cameraFocus highlight tick =>
      byte 0x22 ++ str milestoneId ++ str label ++ str triggerKind ++ counted str cameraFocus ++
        maybe str highlight ++ u64 tick

/-- The event part of one tick in `hash_run`. -/
def feedEvents (events : List SimEvent) : Chunk :=
  bare "evs" ++ u64 events.length ++ each feedEvent events

/-! ## Reading one event back -/

theorem actionByte_injective : Function.Injective actionByte := by
  intro first second same
  cases first <;> cases second <;> first | rfl | exact absurd same (by decide)

theorem highlightByte_injective : Function.Injective highlightByte := by
  intro first second same
  cases first <;> cases second <;> first | rfl | exact absurd same (by decide)

theorem sl1ObjectiveStatusTag_injective : Function.Injective sl1ObjectiveStatusTag := by
  intro first second same
  cases first <;> cases second <;> first | rfl | exact absurd same (by decide)

theorem sl1PressureEventTag_injective : Function.Injective sl1PressureEventTag := by
  intro first second same
  cases first <;> cases second <;> first | rfl | exact absurd same (by decide)

/-- The byte an event starts with. -/
def eventTag : SimEvent → UInt8
  | .moverDeparted .. => 0x10
  | .moverArrived .. => 0x11
  | .moverSpeedChange .. => 0x12
  | .nodeHighlighted .. => 0x13
  | .pathPulsed .. => 0x14
  | .agentDecided .. => 0x15
  | .tick .. => 0x16
  | .sl1PressureLifecycle .. => 0x17
  | .sl1ObjectiveStateChanged .. => 0x18
  | .sl1FailureConditionFired .. => 0x19
  | .sl1VictoryConditionMet .. => 0x1a
  | .sl1GameOutcomeChanged .. => 0x1b
  | .sl1DashboardStateChanged .. => 0x1c
  | .sl1AlertFired .. => 0x1d
  | .sl1AlertCleared .. => 0x1e
  | .sl1AgentActionApplied .. => 0x1f
  | .sl1AgentActionRejected .. => 0x20
  | .sl1AgentLlmDisabled .. => 0x21
  | .sl1MilestoneFired .. => 0x22

theorem feedEvent_head (event : SimEvent) :
    ∃ payload, (feedEvent event).bytes = eventTag event :: payload := by
  cases event <;> exact ⟨_, rfl⟩

theorem feedEvent_tag {first second : SimEvent} {after rest : List UInt8}
    (agree : Agree (feedEvent first) (feedEvent second) after rest) :
    eventTag first = eventTag second := by
  obtain ⟨payload, front⟩ := feedEvent_head first
  obtain ⟨payload', front'⟩ := feedEvent_head second
  have same := agree.2.2
  rw [front, front'] at same
  exact (List.cons.inj same).1

/-- Two streams that go on with the bytes of an event go on with the same event, except
where both have an agent's decision. -/
theorem feedEvent_agree {first second : SimEvent} {after rest : List UInt8}
    (agree : Agree (feedEvent first) (feedEvent second) after rest) :
    (first = second ∧ after = rest) ∨
      ∃ agentId action agentId' action',
        first = .agentDecided agentId action ∧ second = .agentDecided agentId' action' := by
  have tags := feedEvent_tag agree
  cases first with
  | agentDecided agentId action =>
    cases second with
    | agentDecided agentId' action' => exact .inr ⟨agentId, action, agentId', action', rfl, rfl⟩
    | _ => simp [eventTag] at tags
  | moverDeparted mover fromNode path =>
    cases second with
    | moverDeparted =>
      simp only [feedEvent, Chunk.append_assoc] at agree
      replace agree := agree.skip
      obtain ⟨movers, agree⟩ := (Reads.unsigned 4).next agree
      obtain ⟨fromNodes, agree⟩ := (Reads.unsigned 4).next agree
      obtain ⟨paths, ends⟩ := (Reads.unsigned 4).read agree
      simp_all
    | _ => simp [eventTag] at tags
  | moverArrived mover atNode path =>
    cases second with
    | moverArrived =>
      simp only [feedEvent, Chunk.append_assoc] at agree
      replace agree := agree.skip
      obtain ⟨movers, agree⟩ := (Reads.unsigned 4).next agree
      obtain ⟨atNodes, agree⟩ := (Reads.unsigned 4).next agree
      obtain ⟨paths, ends⟩ := (Reads.unsigned 4).read agree
      simp_all
    | _ => simp [eventTag] at tags
  | moverSpeedChange mover old new =>
    cases second with
    | moverSpeedChange =>
      simp only [feedEvent, Chunk.append_assoc] at agree
      replace agree := agree.skip
      obtain ⟨movers, agree⟩ := (Reads.unsigned 4).next agree
      obtain ⟨olds, agree⟩ := Reads.word32.next agree
      obtain ⟨news, ends⟩ := Reads.word32.read agree
      simp_all
    | _ => simp [eventTag] at tags
  | nodeHighlighted node reason =>
    cases second with
    | nodeHighlighted =>
      simp only [feedEvent, Chunk.append_assoc] at agree
      replace agree := agree.skip
      obtain ⟨nodes, agree⟩ := (Reads.unsigned 4).next agree
      obtain ⟨reasons, ends⟩ := (Reads.tag highlightByte_injective).read agree
      simp_all
    | _ => simp [eventTag] at tags
  | pathPulsed path =>
    cases second with
    | pathPulsed =>
      simp only [feedEvent] at agree
      replace agree := agree.skip
      obtain ⟨paths, ends⟩ := (Reads.unsigned 4).read agree
      simp_all
    | _ => simp [eventTag] at tags
  | tick tick =>
    cases second with
    | tick =>
      simp only [feedEvent] at agree
      replace agree := agree.skip
      obtain ⟨ticks, ends⟩ := (Reads.unsigned 8).read agree
      simp_all
    | _ => simp [eventTag] at tags
  | sl1PressureLifecycle pressureId pressureKind event tick =>
    cases second with
    | sl1PressureLifecycle =>
      simp only [feedEvent, Chunk.append_assoc] at agree
      replace agree := agree.skip
      obtain ⟨pressureIds, agree⟩ := Reads.str.next agree
      obtain ⟨pressureKinds, agree⟩ := Reads.str.next agree
      obtain ⟨events, agree⟩ := (Reads.tag sl1PressureEventTag_injective).next agree
      obtain ⟨ticks, ends⟩ := (Reads.unsigned 8).read agree
      simp_all
    | _ => simp [eventTag] at tags
  | sl1ObjectiveStateChanged objectiveId source target tick =>
    cases second with
    | sl1ObjectiveStateChanged =>
      simp only [feedEvent, Chunk.append_assoc] at agree
      replace agree := agree.skip
      obtain ⟨objectiveIds, agree⟩ := Reads.str.next agree
      obtain ⟨sources, agree⟩ := (Reads.tag sl1ObjectiveStatusTag_injective).next agree
      obtain ⟨targets, agree⟩ := (Reads.tag sl1ObjectiveStatusTag_injective).next agree
      obtain ⟨ticks, ends⟩ := (Reads.unsigned 8).read agree
      simp_all
    | _ => simp [eventTag] at tags
  | sl1FailureConditionFired failureConditionId tick =>
    cases second with
    | sl1FailureConditionFired =>
      simp only [feedEvent, Chunk.append_assoc] at agree
      replace agree := agree.skip
      obtain ⟨failureConditionIds, agree⟩ := Reads.str.next agree
      obtain ⟨ticks, ends⟩ := (Reads.unsigned 8).read agree
      simp_all
    | _ => simp [eventTag] at tags
  | sl1VictoryConditionMet victoryConditionId tick =>
    cases second with
    | sl1VictoryConditionMet =>
      simp only [feedEvent, Chunk.append_assoc] at agree
      replace agree := agree.skip
      obtain ⟨victoryConditionIds, agree⟩ := Reads.str.next agree
      obtain ⟨ticks, ends⟩ := (Reads.unsigned 8).read agree
      simp_all
    | _ => simp [eventTag] at tags
  | sl1GameOutcomeChanged source target tick reason =>
    cases second with
    | sl1GameOutcomeChanged =>
      simp only [feedEvent, Chunk.append_assoc] at agree
      replace agree := agree.skip
      obtain ⟨sources, agree⟩ := Reads.str.next agree
      obtain ⟨targets, agree⟩ := Reads.str.next agree
      obtain ⟨ticks, agree⟩ := (Reads.unsigned 8).next agree
      obtain ⟨reasons, ends⟩ := Reads.str.maybe.read agree
      simp_all
    | _ => simp [eventTag] at tags
  | sl1DashboardStateChanged dashboardId source target tick freshnessTicks =>
    cases second with
    | sl1DashboardStateChanged =>
      simp only [feedEvent, Chunk.append_assoc] at agree
      replace agree := agree.skip
      obtain ⟨dashboardIds, agree⟩ := Reads.str.next agree
      obtain ⟨sources, agree⟩ := Reads.str.next agree
      obtain ⟨targets, agree⟩ := Reads.str.next agree
      obtain ⟨ticks, agree⟩ := (Reads.unsigned 8).next agree
      obtain ⟨freshnessTickss, ends⟩ := (Reads.unsigned 8).maybe.read agree
      simp_all
    | _ => simp [eventTag] at tags
  | sl1AlertFired alertId metricId value severity predicate tick =>
    cases second with
    | sl1AlertFired =>
      simp only [feedEvent, Chunk.append_assoc] at agree
      replace agree := agree.skip
      obtain ⟨alertIds, agree⟩ := Reads.str.next agree
      obtain ⟨metricIds, agree⟩ := Reads.str.next agree
      obtain ⟨values, agree⟩ := (Reads.unsigned 8).next agree
      obtain ⟨severitys, agree⟩ := Reads.str.next agree
      obtain ⟨predicates, agree⟩ := Reads.str.next agree
      obtain ⟨ticks, ends⟩ := (Reads.unsigned 8).read agree
      simp_all
    | _ => simp [eventTag] at tags
  | sl1AlertCleared alertId metricId tick =>
    cases second with
    | sl1AlertCleared =>
      simp only [feedEvent, Chunk.append_assoc] at agree
      replace agree := agree.skip
      obtain ⟨alertIds, agree⟩ := Reads.str.next agree
      obtain ⟨metricIds, agree⟩ := Reads.str.next agree
      obtain ⟨ticks, ends⟩ := (Reads.unsigned 8).read agree
      simp_all
    | _ => simp [eventTag] at tags
  | sl1AgentActionApplied agentId actionKind targetId cost tick =>
    cases second with
    | sl1AgentActionApplied =>
      simp only [feedEvent, Chunk.append_assoc] at agree
      replace agree := agree.skip
      obtain ⟨agentIds, agree⟩ := Reads.str.next agree
      obtain ⟨actionKinds, agree⟩ := Reads.str.next agree
      obtain ⟨targetIds, agree⟩ := Reads.str.next agree
      obtain ⟨costs, agree⟩ := (Reads.unsigned 8).next agree
      obtain ⟨ticks, ends⟩ := (Reads.unsigned 8).read agree
      simp_all
    | _ => simp [eventTag] at tags
  | sl1AgentActionRejected agentId actionKind targetId reason tick =>
    cases second with
    | sl1AgentActionRejected =>
      simp only [feedEvent, Chunk.append_assoc] at agree
      replace agree := agree.skip
      obtain ⟨agentIds, agree⟩ := Reads.str.next agree
      obtain ⟨actionKinds, agree⟩ := Reads.str.next agree
      obtain ⟨targetIds, agree⟩ := Reads.str.maybe.next agree
      obtain ⟨reasons, agree⟩ := Reads.str.next agree
      obtain ⟨ticks, ends⟩ := (Reads.unsigned 8).read agree
      simp_all
    | _ => simp [eventTag] at tags
  | sl1AgentLlmDisabled agentId tick =>
    cases second with
    | sl1AgentLlmDisabled =>
      simp only [feedEvent, Chunk.append_assoc] at agree
      replace agree := agree.skip
      obtain ⟨agentIds, agree⟩ := Reads.str.next agree
      obtain ⟨ticks, ends⟩ := (Reads.unsigned 8).read agree
      simp_all
    | _ => simp [eventTag] at tags
  | sl1MilestoneFired milestoneId label triggerKind cameraFocus highlight tick =>
    cases second with
    | sl1MilestoneFired =>
      simp only [feedEvent, Chunk.append_assoc] at agree
      replace agree := agree.skip
      obtain ⟨milestoneIds, agree⟩ := Reads.str.next agree
      obtain ⟨labels, agree⟩ := Reads.str.next agree
      obtain ⟨triggerKinds, agree⟩ := Reads.str.next agree
      obtain ⟨cameraFocuss, agree⟩ := Reads.str.counted.next agree
      obtain ⟨highlights, agree⟩ := Reads.str.maybe.next agree
      obtain ⟨ticks, ends⟩ := (Reads.unsigned 8).read agree
      simp_all
    | _ => simp [eventTag] at tags

/-- The lengths of the agents' names in the decisions, in order. -/
def decidedLengths (events : List SimEvent) : List Nat :=
  events.filterMap fun
    | .agentDecided agentId _ => some (utf8 agentId).length
    | _ => none

theorem decidedLengths_decided (agentId : String) (action : ActionTag) (events : List SimEvent) :
    decidedLengths (.agentDecided agentId action :: events) =
      (utf8 agentId).length :: decidedLengths events := rfl

theorem feedEvent_ne_nil (event : SimEvent) (after : List UInt8) :
    (feedEvent event).bytes ++ after ≠ [] := by
  obtain ⟨payload, front⟩ := feedEvent_head event
  simp [front]

/-- Decisions whose names have one length are read back like every other event. -/
theorem feedEvent_decided {agentId agentId' : String} {action action' : ActionTag}
    {after rest : List UInt8}
    (agree : Agree (feedEvent (.agentDecided agentId action))
      (feedEvent (.agentDecided agentId' action')) after rest)
    (lengths : (utf8 agentId).length = (utf8 agentId').length) :
    agentId = agentId' ∧ action = action' ∧ after = rest := by
  simp only [feedEvent, Chunk.append_assoc] at agree
  obtain ⟨names, -⟩ := List.append_inj agree.skip.left.2.2 lengths
  obtain rfl := utf8_injective names
  obtain ⟨actions, ends⟩ := (Reads.tag actionByte_injective).read agree.skip.skip
  exact ⟨rfl, actions, ends⟩

/-- What the stream leaves open is where the names in the decisions end. -/
theorem events_eq : ∀ {first second : List SimEvent},
    Agree (each feedEvent first) (each feedEvent second) [] [] →
    decidedLengths first = decidedLengths second → first = second
  | [], [], _, _ => rfl
  | [], event :: events, agree, _ => by
    have ended := agree.2.2
    simp only [each, bytes_append, List.append_assoc] at ended
    exact absurd ended.symm (feedEvent_ne_nil event _)
  | event :: events, [], agree, _ => by
    have ended := agree.2.2
    simp only [each, bytes_append, List.append_assoc] at ended
    exact absurd ended (feedEvent_ne_nil event _)
  | event :: events, event' :: events', agree, lengths => by
    obtain ⟨rfl, ends⟩ | ⟨agentId, action, agentId', action', rfl, rfl⟩ :=
      feedEvent_agree agree.left
    · have tails : decidedLengths events = decidedLengths events' := by
        cases event <;> simpa [decidedLengths] using lengths
      rw [events_eq (agree.right ends) tails]
    · simp only [decidedLengths_decided, List.cons.injEq] at lengths
      obtain ⟨names, actions, ends⟩ := feedEvent_decided agree.left lengths.1
      rw [names, actions, events_eq (agree.right ends) lengths.2]

end Simetro.Engine.StateHash
