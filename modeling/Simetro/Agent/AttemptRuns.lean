import Simetro.Agent.Attempts

/-! Runs of the agent runtime, with every request they put in the outbox. -/

namespace Simetro.Agent

open Simetro.Library Simetro.Protocol

namespace AgentOp

def tick : AgentOp → Nat
  | .enqueueDecision _ _ _ now | .processReply _ now | .expireOverdue now => now
  | .recordFault _ faultTick _ => faultTick
  | .drainOutbox => 0

def isFault : AgentOp → Bool
  | .recordFault _ _ _ => true
  | _ => false

end AgentOp

namespace AgentRuntime

/-- The requests an operation puts in the outbox, which only a drain empties. -/
def puts (runtime : AgentRuntime) (op : AgentOp) : List Issue :=
  ((runtime.perform op).outbox.drop runtime.outbox.length).map fun request => ⟨request, op.tick⟩

/-- The requests of a run in their order. -/
def issues (runtime : AgentRuntime) : List AgentOp → List Issue
  | [] => []
  | op :: rest => runtime.puts op ++ (runtime.perform op).issues rest

/-- A request in flight since its tick. -/
def inFlightFrom (now : Nat) (request : AgentRequest) : PendingEntry :=
  ⟨saturatingAdd u64Max now request.deadlineTicks, request⟩

variable {runtime : AgentRuntime} {issued : List Issue} {waiting : List PendingEntry}

theorem puts_of_outbox {op : AgentOp} {new : List AgentRequest}
    (outbox : (runtime.perform op).outbox = runtime.outbox ++ new) :
    runtime.puts op = new.map fun request => ⟨request, op.tick⟩ := by
  rw [puts, outbox, List.drop_left]

/-- Whatever a mutator does to the entry of a decision that is not in flight. -/
theorem settle_booked {timeline : DecisionTimeline} {inFlight : List PendingEntry} {id : TimelineId}
    (booked : Booked issued inFlight timeline) (landed : id ∉ inFlight.map (·.timelineId))
    (allowed : DecisionStatus → Bool) (target : String) {change : DecisionEntry → DecisionEntry}
    (keeps : ∀ entry, (change entry).id = entry.id ∧ (change entry).attempts = entry.attempts) :
    Booked issued inFlight (timeline.settle (timeline.transition id allowed target change)) := by
  rw [settle_rewrite booked.ids]
  refine booked.rewrite landed fun entry => ?_
  split
  · exact keeps entry
  · exact ⟨rfl, rfl⟩

theorem recordExpiry_booked {timeline : DecisionTimeline} {inFlight : List PendingEntry}
    {id : TimelineId} (booked : Booked issued inFlight timeline)
    (landed : id ∉ inFlight.map (·.timelineId)) (now : Nat) (warning : Option WarningPayload) :
    Booked issued inFlight (timeline.settle (timeline.recordExpiry id now warning)) :=
  settle_booked booked landed _ _ fun _ => ⟨rfl, rfl⟩

theorem giveUp_booked {timeline : DecisionTimeline} {inFlight : List PendingEntry}
    {id : TimelineId} (booked : Booked issued inFlight timeline)
    (landed : id ∉ inFlight.map (·.timelineId)) (now : Nat) (warning : Option WarningPayload) :
    Booked issued inFlight (timeline.settle (timeline.giveUp id now warning)) :=
  settle_booked booked landed _ _ fun _ => ⟨rfl, rfl⟩

/-- The first request of the agent's next decision. -/
def firstRequest (runtime : AgentRuntime) (agentId observationJson : String)
    (deadlineTicks now : Nat) : AgentRequest :=
  ⟨⟨runtime.timeline.nextId, agentId, now, 0⟩, deadlineTicks, observationJson⟩

/-- An idle agent gets its decision. -/
theorem enqueueDecision_of_idle {agentId : String}
    (idle : runtime.lifecycle.hasPendingForAgent agentId = false) (observationJson : String)
    (deadlineTicks now : Nat) :
    runtime.enqueueDecision agentId observationJson deadlineTicks now =
      ({ timeline := (runtime.timeline.allocate now agentId).1
         lifecycle := { runtime.lifecycle with
           pending := runtime.lifecycle.pending ++
             [inFlightFrom now (runtime.firstRequest agentId observationJson deadlineTicks now)] }
         outbox := runtime.outbox ++
           [runtime.firstRequest agentId observationJson deadlineTicks now] },
        .enqueued runtime.timeline.nextId) := by
  have free : agentId ∉ runtime.lifecycle.pending.map (·.agentId) := fun present => by
    rw [RequestLifecycle.hasPendingForAgent_iff.mpr present] at idle
    cases idle
  have accepted := RequestLifecycle.tryEnqueue_of_absent
    (runtime.firstRequest agentId observationJson deadlineTicks now) now free
  simp only [firstRequest] at accepted
  simp [enqueueDecision, idle, DecisionTimeline.allocate, accepted, firstRequest, inFlightFrom]

theorem perform_of_busy {agentId : String}
    (busy : runtime.lifecycle.hasPendingForAgent agentId = true) (observationJson : String)
    (deadlineTicks now : Nat) :
    runtime.perform (.enqueueDecision agentId observationJson deadlineTicks now) = runtime := by
  simp [perform, enqueueDecision, busy]

theorem enqueueDecision_booked
    (booked : Booked issued runtime.lifecycle.pending runtime.timeline)
    (agentId observationJson : String) (deadlineTicks now : Nat)
    (room : decisionCount (issued ++
      runtime.puts (.enqueueDecision agentId observationJson deadlineTicks now)) ≤ u64Max) :
    let after := runtime.perform (.enqueueDecision agentId observationJson deadlineTicks now)
    Booked (issued ++ runtime.puts (.enqueueDecision agentId observationJson deadlineTicks now))
        after.lifecycle.pending after.timeline ∧
      ∀ issue ∈ runtime.puts (.enqueueDecision agentId observationJson deadlineTicks now),
        issue.issuedAt = now ∧ inFlightFrom now issue.request ∈ after.lifecycle.pending := by
  cases busy : runtime.lifecycle.hasPendingForAgent agentId with
  | true =>
    rw [puts, perform_of_busy busy, List.drop_length, List.map_nil, List.append_nil]
    exact ⟨booked, by simp⟩
  | false =>
    have after := congrArg Prod.fst (enqueueDecision_of_idle busy observationJson deadlineTicks now)
    have sent : (runtime.perform (.enqueueDecision agentId observationJson deadlineTicks now)).outbox =
        runtime.outbox ++ [runtime.firstRequest agentId observationJson deadlineTicks now] :=
      congrArg outbox after
    have put := puts_of_outbox sent
    rw [List.map_singleton] at put
    have free : agentId ∉ runtime.lifecycle.pending.map (·.agentId) := fun present => by
      rw [RequestLifecycle.hasPendingForAgent_iff.mpr present] at busy
      cases busy
    rw [put] at room ⊢
    rw [perform, after]
    constructor
    · refine booked.launch ?_ free rfl
      have counted : decisionCount (issued ++
          [⟨runtime.firstRequest agentId observationJson deadlineTicks now, now⟩]) =
            decisionCount issued + 1 := by
        simp [decisionCount, firstRequest]
      exact Nat.lt_of_succ_le (Nat.le_trans (Nat.le_of_eq counted.symm) room)
    · intro issue member
      rw [List.mem_singleton.mp member]
      exact ⟨rfl, by simp⟩

theorem processReply_booked (booked : Booked issued runtime.lifecycle.pending runtime.timeline)
    (reply : AgentReply) (now : Nat) :
    Booked issued (runtime.processReply reply now).1.lifecycle.pending
      (runtime.processReply reply now).1.timeline := by
  have fewer : (runtime.lifecycle.removePending reply.id).pending.Sublist runtime.lifecycle.pending :=
    List.filter_sublist
  unfold processReply
  rcases runtime.lifecycle.drainReply_cases reply now with ⟨entry, member, same, -, result⟩ |
    ⟨entry, member, same, -, result⟩ | result | result | result
  · rw [result]
    refine settle_booked (booked.of_sublist fewer) ?_ _ _ fun _ => ⟨rfl, rfl⟩
    intro present
    obtain ⟨other, listed, twin⟩ := List.mem_map.mp present
    obtain ⟨otherMember, different⟩ := List.mem_filter.mp listed
    have one := List.inj_on_of_nodup_map booked.flights otherMember member
      (twin.trans (congrArg RequestId.timelineId same).symm)
    simp [one, same] at different
  · rw [result]
    exact booked.of_sublist fewer
  all_goals
    rw [result]
    exact booked

/-- The attempt of an expired request is not the last. -/
def goesOn (entry : PendingEntry) : Bool := entry.request.id.attempt < maxAttempts

/-- An expired request is issued again, in flight from now on, or given up. -/
theorem expireOne_booked {entry : PendingEntry} (now : Nat)
    (booked : Booked issued (runtime.lifecycle.pending ++ entry :: waiting) runtime.timeline)
    (outcomes : List ExpireOutcome) :
    let after := (expireOne now (runtime, outcomes)
      (RequestLifecycle.expiryOutcome now entry.request.id entry)).1
    ∃ new : List AgentRequest, after.outbox = runtime.outbox ++ new ∧
      Booked (issued ++ new.map fun request => ⟨request, now⟩) (after.lifecycle.pending ++ waiting)
        after.timeline ∧
      after.lifecycle.pending = runtime.lifecycle.pending ++ new.map (inFlightFrom now) ∧
      new.map (·.id.agentId) = ([entry].filter goesOn).map (·.agentId) := by
  have front : (runtime.lifecycle.pending ++ entry :: waiting).Perm
      (entry :: (runtime.lifecycle.pending ++ waiting)) := List.perm_middle
  have agents := (front.map PendingEntry.agentId).nodup_iff.mp booked.agents
  have free : entry.agentId ∉ (runtime.lifecycle.pending ++ waiting).map (·.agentId) :=
    (List.nodup_cons.mp agents).1
  have absent : entry.agentId ∉ runtime.lifecycle.pending.map (·.agentId) := fun present =>
    free (by simpa using Or.inl (List.mem_map.mp present))
  have pending : ∀ row ∈ runtime.timeline.entries, row.id = entry.timelineId →
      row.status = .pending := fun row member hit =>
    (booked.flying row member entry (by simp) hit.symm).1
  unfold RequestLifecycle.expiryOutcome
  by_cases more : entry.request.id.attempt < maxAttempts
  · have accepted := RequestLifecycle.tryEnqueue_of_absent
      { entry.request with id := entry.request.id.nextAttempt } now absent
    simp only [if_pos more, expireOne, accepted, DecisionTimeline.reissue]
    rw [show entry.request.id.nextAttempt.timelineId = entry.timelineId from rfl,
      expire_then booked.ids pending _ rfl]
    refine ⟨[{ entry.request with id := entry.request.id.nextAttempt }], rfl, ?_, rfl, ?_⟩
    · refine booked.reissue ⟨saturatingAdd u64Max now entry.request.deadlineTicks,
        { entry.request with id := entry.request.id.nextAttempt }⟩ more (fun _ => ⟨?_, ?_⟩)
          (fun _ => ?_) (fun _ => ?_) ?_ ?_ ?_
      all_goals rfl
    · simp [goesOn, more, RequestId.nextAttempt]
  · have less := booked.of_perm front
    have rest : Booked issued (runtime.lifecycle.pending ++ waiting) runtime.timeline :=
      less.of_sublist (List.sublist_cons_self _ _)
    simp only [if_neg more, expireOne, giveUpWarning, giveUpTarget, Option.bind_some]
    refine ⟨[], ?_⟩
    cases found : findPendingIdForAgent runtime.timeline entry.request.id.agentId with
    | none => exact ⟨by simp, by simpa using rest, by simp, by simp [goesOn, more]⟩
    | some id =>
      refine ⟨by simp, ?_, by simp, by simp [goesOn, more]⟩
      rw [List.map_nil, List.append_nil]
      obtain ⟨row, located, rfl⟩ := Option.map_eq_some_iff.mp found
      have listed := List.mem_of_find?_eq_some located
      have mine := List.find?_some located
      rw [Bool.and_eq_true, decide_eq_true_eq] at mine
      -- the entry given up need not be the expired one, but none in flight is the agent's
      have landed : row.id ∉ (runtime.lifecycle.pending ++ waiting).map (·.timelineId) := by
        intro present
        obtain ⟨other, flying, same⟩ := List.mem_map.mp present
        have owner := (rest.flying row listed other flying same).2
        exact free (List.mem_map.mpr ⟨other, flying, owner.symm.trans mine.1⟩)
      exact giveUp_booked (recordExpiry_booked rest landed _ _) landed _ _

theorem expireAll_booked (gone : List PendingEntry) (now : Nat)
    (booked : Booked issued (runtime.lifecycle.pending ++ gone) runtime.timeline)
    (outcomes : List ExpireOutcome) :
    let after := ((gone.map fun entry => RequestLifecycle.expiryOutcome now entry.request.id entry).foldl
      (expireOne now) (runtime, outcomes)).1
    ∃ new : List AgentRequest, after.outbox = runtime.outbox ++ new ∧
      Booked (issued ++ new.map fun request => ⟨request, now⟩) after.lifecycle.pending
        after.timeline ∧
      after.lifecycle.pending = runtime.lifecycle.pending ++ new.map (inFlightFrom now) ∧
      new.map (·.id.agentId) = (gone.filter goesOn).map (·.agentId) := by
  induction gone generalizing runtime issued outcomes with
  | nil => exact ⟨[], by simp, by simpa using booked, by simp, by simp⟩
  | cons entry rest ih =>
    obtain ⟨new, outbox, stepped, waits, agents⟩ := expireOne_booked now booked outcomes
    obtain ⟨more, outboxAfter, final, waitsAfter, agentsAfter⟩ :=
      ih stepped (expireOne now (runtime, outcomes)
        (RequestLifecycle.expiryOutcome now entry.request.id entry)).2
    refine ⟨new ++ more, ?_, ?_, ?_, ?_⟩
    · rw [← List.append_assoc, ← outbox]
      exact outboxAfter
    · rw [List.map_append, ← List.append_assoc]
      exact final
    · rw [List.map_append, ← List.append_assoc, ← waits]
      exact waitsAfter
    · have split : (entry :: rest).filter goesOn = [entry].filter goesOn ++ rest.filter goesOn :=
        List.filter_append [entry] rest
      rw [split, List.map_append, List.map_append, agents, agentsAfter]

/-- The expiry pass issues overdue requests again or gives them up: the agents that wait after
it waited before, for a request that was in time or could go on. -/
theorem expireOverdue_booked (booked : Booked issued runtime.lifecycle.pending runtime.timeline)
    (now : Nat) :
    let after := runtime.perform (.expireOverdue now)
    Booked (issued ++ runtime.puts (.expireOverdue now)) after.lifecycle.pending after.timeline ∧
      (∀ issue ∈ runtime.puts (.expireOverdue now), issue.issuedAt = now ∧
        inFlightFrom now issue.request ∈ after.lifecycle.pending) ∧
      ∀ pending ∈ after.lifecycle.pending, ∃ entry ∈ runtime.lifecycle.pending,
        entry.agentId = pending.agentId ∧ (entry.deadlineAbs < now → goesOn entry = true) := by
  intro after
  obtain ⟨gone, late, pending, outcomes⟩ := RequestLifecycle.expireOverdue_spec booked.agents now
  have parts := RequestLifecycle.expireOverdue_parts late pending
  obtain ⟨new, outbox, final, waits, agents⟩ := @expireAll_booked
    { runtime with lifecycle := (runtime.lifecycle.expireOverdue now).1 } issued gone now
    (booked.of_perm parts) []
  rw [← outcomes] at outbox final waits
  have put : runtime.puts (.expireOverdue now) = new.map fun request => ⟨request, now⟩ :=
    puts_of_outbox outbox
  have held : after.lifecycle.pending =
      (runtime.lifecycle.expireOverdue now).1.pending ++ new.map (inFlightFrom now) := waits
  refine ⟨put ▸ final, ?_, fun waiting member => ?_⟩
  · rw [put]
    intro issue member
    obtain ⟨request, listed, rfl⟩ := List.mem_map.mp member
    rw [held]
    exact ⟨rfl, List.mem_append_right _ (List.mem_map.mpr ⟨request, listed, rfl⟩)⟩
  · rw [held] at member
    rcases List.mem_append.mp member with kept | moved
    · rw [pending] at kept
      obtain ⟨present, inTime⟩ := List.mem_filter.mp kept
      refine ⟨waiting, present, rfl, fun overdue => ?_⟩
      simp [overdue] at inTime
    · obtain ⟨request, listed, rfl⟩ := List.mem_map.mp moved
      have named : request.id.agentId ∈ (gone.filter goesOn).map (·.agentId) :=
        agents ▸ List.mem_map.mpr ⟨request, listed, rfl⟩
      obtain ⟨entry, present, same⟩ := List.mem_map.mp named
      obtain ⟨present, more⟩ := List.mem_filter.mp present
      exact ⟨entry, (List.mem_filter.mp (late.mem_iff.mp present)).1, same, fun _ => more⟩

theorem perform_booked (booked : Booked issued runtime.lifecycle.pending runtime.timeline)
    {op : AgentOp} (internal : op.isFault = false)
    (room : decisionCount (issued ++ runtime.puts op) ≤ u64Max) :
    Booked (issued ++ runtime.puts op) (runtime.perform op).lifecycle.pending
        (runtime.perform op).timeline ∧
      ∀ issue ∈ runtime.puts op, issue.issuedAt = op.tick ∧
        inFlightFrom op.tick issue.request ∈ (runtime.perform op).lifecycle.pending := by
  cases op with
  | enqueueDecision agentId observationJson deadlineTicks now =>
    exact enqueueDecision_booked booked agentId observationJson deadlineTicks now room
  | drainOutbox =>
    have quiet : runtime.puts .drainOutbox = [] := by simp [puts, perform, drainOutbox]
    rw [quiet, List.append_nil]
    exact ⟨booked, by simp⟩
  | processReply reply now =>
    have outbox : (runtime.perform (.processReply reply now)).outbox = runtime.outbox ++ [] := by
      rw [List.append_nil]
      unfold perform processReply
      simp only
      split <;> rfl
    rw [puts_of_outbox outbox, List.map_nil, List.append_nil]
    exact ⟨processReply_booked booked reply now, by simp⟩
  | expireOverdue now =>
    obtain ⟨after, put, -⟩ := expireOverdue_booked booked now
    exact ⟨after, put⟩
  | recordFault id faultTick reason => cases internal

theorem run_booked {ops : List AgentOp}
    (booked : Booked issued runtime.lifecycle.pending runtime.timeline)
    (internal : ∀ op ∈ ops, op.isFault = false)
    (room : decisionCount (issued ++ runtime.issues ops) ≤ u64Max) :
    Booked (issued ++ runtime.issues ops) (runtime.run ops).lifecycle.pending
      (runtime.run ops).timeline := by
  induction ops generalizing runtime issued with
  | nil => simpa [issues, run] using booked
  | cons op rest ih =>
    rw [issues, ← List.append_assoc] at room ⊢
    have first : decisionCount (issued ++ runtime.puts op) ≤ u64Max :=
      Nat.le_trans (decisionCount_le_append _ _) room
    exact ih (perform_booked booked (internal op (by simp)) first).1
      (fun other member => internal other (by simp [member])) room

theorem issues_append (runtime : AgentRuntime) (earlier later : List AgentOp) :
    runtime.issues (earlier ++ later) =
      runtime.issues earlier ++ (runtime.run earlier).issues later := by
  induction earlier generalizing runtime with
  | nil => rfl
  | cons op rest ih =>
    have onward : runtime.run (op :: rest) = (runtime.perform op).run rest := rfl
    rw [List.cons_append, issues, issues, ih, onward, List.append_assoc]

end AgentRuntime

/-- The outcome gives up a decision of the agent. -/
def ExpireOutcome.givesUp (agentId : String) : ExpireOutcome → Bool
  | .gaveUp _ message => giveUpTarget message = some agentId
  | .reissued _ _ => false

def AgentOp.enqueuesFor (agentId : String) : AgentOp → Bool
  | .enqueueDecision agent _ _ _ => agent = agentId
  | _ => false

namespace AgentRuntime

/-- The operation applies or gives up a decision of the agent. -/
def ends (runtime : AgentRuntime) (agentId : String) : AgentOp → Bool
  | .processReply reply now =>
    match (runtime.processReply reply now).2 with
    | .apply _ agent _ _ _ => agent = agentId
    | .drop _ => false
  | .expireOverdue now => (runtime.expireOverdue now).2.any (ExpireOutcome.givesUp agentId)
  | _ => false

variable {runtime : AgentRuntime} {issued : List Issue} {agentId : String}

/-- Only a request that could not go on is given up. -/
theorem givesUp_of_expireAll (gone : List PendingEntry) (now : Nat) (outcomes : List ExpireOutcome)
    (given : ((gone.map fun entry => RequestLifecycle.expiryOutcome now entry.request.id entry).foldl
      (expireOne now) (runtime, outcomes)).2.any (ExpireOutcome.givesUp agentId) = true) :
    outcomes.any (ExpireOutcome.givesUp agentId) = true ∨
      ∃ entry ∈ gone, entry.agentId = agentId ∧ goesOn entry = false := by
  induction gone generalizing runtime outcomes with
  | nil => exact .inl given
  | cons entry rest ih =>
    rcases ih _ given with earlier | ⟨other, member, ends⟩
    · by_cases more : entry.request.id.attempt < maxAttempts
      · refine .inl ?_
        simp only [RequestLifecycle.expiryOutcome, if_pos more] at earlier
        split at earlier <;> simpa [ExpireOutcome.givesUp] using earlier
      · have last : goesOn entry = false := by simp [goesOn, more]
        have reported : outcomes.any (ExpireOutcome.givesUp agentId) = true ∨
            entry.agentId = agentId := by
          simp only [RequestLifecycle.expiryOutcome, if_neg more] at earlier
          split at earlier <;>
            simpa [ExpireOutcome.givesUp, giveUpWarning, giveUpTarget] using earlier
        rcases reported with old | mine
        · exact .inl old
        · exact .inr ⟨entry, by simp, mine, last⟩
    · exact .inr ⟨other, by simp [member], ends⟩

theorem idle_of_ends (booked : Booked issued runtime.lifecycle.pending runtime.timeline)
    {op : AgentOp} (ends : runtime.ends agentId op = true) :
    (runtime.perform op).lifecycle.hasPendingForAgent agentId = false := by
  apply Bool.eq_false_iff.mpr
  intro busy
  obtain ⟨waiting, member, mine⟩ := List.mem_map.mp (RequestLifecycle.hasPendingForAgent_iff.mp busy)
  cases op with
  | enqueueDecision agent observationJson deadlineTicks now => cases ends
  | drainOutbox => cases ends
  | recordFault id faultTick reason => cases ends
  | processReply reply now =>
    simp only [perform, AgentRuntime.ends, processReply] at ends member
    rcases runtime.lifecycle.drainReply_cases reply now with ⟨entry, listed, same, -, result⟩ |
      ⟨entry, listed, same, -, result⟩ | result | result | result
    · rw [result] at ends member
      have agent : reply.id.agentId = agentId := by simpa using ends
      obtain ⟨present, different⟩ := List.mem_filter.mp member
      have one := List.inj_on_of_nodup_map booked.agents present listed
        (mine.trans (agent.symm.trans (congrArg RequestId.agentId same).symm))
      simp [one, same] at different
    all_goals
      rw [result] at ends
      cases ends
  | expireOverdue now =>
    obtain ⟨gone, late, -, outcomes⟩ := RequestLifecycle.expireOverdue_spec booked.agents now
    obtain ⟨entry, listed, same, more⟩ := (expireOverdue_booked booked now).2.2 waiting member
    have given : ((runtime.lifecycle.expireOverdue now).2.foldl (expireOne now)
        ({ runtime with lifecycle := (runtime.lifecycle.expireOverdue now).1 }, [])).2.any
          (ExpireOutcome.givesUp agentId) = true := ends
    rw [outcomes] at given
    rcases givesUp_of_expireAll gone now [] given with none | ⟨other, present, own, last⟩
    · cases none
    · obtain ⟨otherListed, overdue⟩ := List.mem_filter.mp (late.mem_iff.mp present)
      have one := List.inj_on_of_nodup_map booked.agents otherListed listed
        (own.trans (mine.symm.trans same.symm))
      rw [one, more (by simpa [one] using overdue)] at last
      cases last

theorem idle_stays (booked : Booked issued runtime.lifecycle.pending runtime.timeline) {op : AgentOp}
    (idle : runtime.lifecycle.hasPendingForAgent agentId = false)
    (other : op.enqueuesFor agentId = false) :
    (runtime.perform op).lifecycle.hasPendingForAgent agentId = false := by
  have absent {pending : PendingEntry} (member : pending ∈ runtime.lifecycle.pending) :
      pending.agentId ≠ agentId := fun mine => by
    have busy := RequestLifecycle.hasPendingForAgent_iff.mpr (List.mem_map.mpr ⟨pending, member, mine⟩)
    rw [idle] at busy
    cases busy
  apply Bool.eq_false_iff.mpr
  intro busy
  obtain ⟨waiting, member, mine⟩ := List.mem_map.mp (RequestLifecycle.hasPendingForAgent_iff.mp busy)
  cases op with
  | enqueueDecision agent observationJson deadlineTicks now =>
    cases busy : runtime.lifecycle.hasPendingForAgent agent with
    | true =>
      rw [perform_of_busy busy] at member
      exact absent member mine
    | false =>
      rw [perform, enqueueDecision_of_idle busy] at member
      rcases List.mem_append.mp member with old | new
      · exact absent old mine
      · rw [List.mem_singleton.mp new] at mine
        have same : agent = agentId := mine
        simp [AgentOp.enqueuesFor, same] at other
  | drainOutbox => exact absent member mine
  | processReply reply now =>
    have kept : waiting ∈ runtime.lifecycle.pending := by
      simp only [perform, processReply] at member
      rcases runtime.lifecycle.drainReply_cases reply now with ⟨_, _, _, -, result⟩ |
        ⟨_, _, _, -, result⟩ | result | result | result <;> rw [result] at member
      · exact (List.mem_filter.mp member).1
      · exact (List.mem_filter.mp member).1
      all_goals exact member
    exact absent kept mine
  | expireOverdue now =>
    obtain ⟨entry, listed, same, -⟩ := (expireOverdue_booked booked now).2.2 waiting member
    exact absent listed (same.trans mine)
  | recordFault id faultTick reason =>
    have kept : waiting ∈ runtime.lifecycle.pending := by
      simp only [perform, recordFault] at member
      split at member <;> exact member
    exact absent kept mine

theorem idle_run {ops : List AgentOp}
    (booked : Booked issued runtime.lifecycle.pending runtime.timeline)
    (idle : runtime.lifecycle.hasPendingForAgent agentId = false)
    (internal : ∀ op ∈ ops, op.isFault = false)
    (quiet : ∀ op ∈ ops, op.enqueuesFor agentId = false)
    (room : decisionCount (issued ++ runtime.issues ops) ≤ u64Max) :
    (runtime.run ops).lifecycle.hasPendingForAgent agentId = false := by
  induction ops generalizing runtime issued with
  | nil => exact idle
  | cons op rest ih =>
    rw [issues, ← List.append_assoc] at room
    have stepped := perform_booked booked (internal op (by simp))
      (Nat.le_trans (decisionCount_le_append _ _) room)
    exact ih stepped.1 (idle_stays booked idle (quiet op (by simp)))
      (fun other member => internal other (by simp [member]))
      (fun other member => quiet other (by simp [member])) room

end AgentRuntime

theorem new_booked {runtime : AgentRuntime}
    (fresh : runtime = .new ∨ ∃ cap, runtime = .withTimelineCapacity cap) :
    Booked [] runtime.lifecycle.pending runtime.timeline := by
  rcases fresh with rfl | ⟨cap, rfl⟩
  · exact Booked.start _
  · exact Booked.start _

/-- In a run without outside faults that asks for no more decisions than there are ids, the
attempts of a decision count from zero, at most three, the retained entry counts with them, every
request waits its deadline from the tick it was issued at, and an agent whose decision ended may
ask for the next. -/
theorem attempts_in_order (runtime : AgentRuntime)
    (fresh : runtime = .new ∨ ∃ cap, runtime = .withTimelineCapacity cap) (ops : List AgentOp)
    (internal : ∀ op ∈ ops, op.isFault = false)
    (room : decisionCount (runtime.issues ops) ≤ u64Max) :
    (∀ id, let attempts := attemptsOf id (runtime.issues ops)
      attempts = List.range attempts.length ∧ attempts.length ≤ maxAttempts + 1) ∧
    (∀ entry ∈ (runtime.run ops).timeline.entries, ∃ latest,
      (attemptsOf entry.id (runtime.issues ops)).getLast? = some latest ∧
      entry.attempts = latest + 1) ∧
    ((∀ earlier op later, ops = earlier ++ op :: later →
        ∀ issue ∈ (runtime.run earlier).puts op, issue.issuedAt = op.tick ∧
          AgentRuntime.inFlightFrom op.tick issue.request ∈
            ((runtime.run earlier).perform op).lifecycle.pending) ∧
      (∀ pending ∈ (runtime.run ops).lifecycle.pending, ∃ issue ∈ runtime.issues ops,
        issue.request = pending.request ∧ pending.deadlineAbs = issue.deadline) ∧
      ∀ first ∈ runtime.issues ops, ∀ second ∈ runtime.issues ops,
        first.timelineId = second.timelineId →
        first.request.deadlineTicks = second.request.deadlineTicks) ∧
    ∀ earlier op later agentId, ops = earlier ++ op :: later →
      (runtime.run earlier).ends agentId op = true →
      (∀ other ∈ later, other.enqueuesFor agentId = false) →
      ∀ observationJson deadlineTicks now, ∃ id,
        ((runtime.run ops).enqueueDecision agentId observationJson deadlineTicks now).2 =
          .enqueued id := by
  have empty := new_booked fresh
  have total : Booked (runtime.issues ops) (runtime.run ops).lifecycle.pending
      (runtime.run ops).timeline := AgentRuntime.run_booked empty internal room
  have midway {earlier : List AgentOp} {op : AgentOp} {later : List AgentOp}
      (split : ops = earlier ++ op :: later) :
      Booked (runtime.issues earlier) (runtime.run earlier).lifecycle.pending
        (runtime.run earlier).timeline ∧ op.isFault = false ∧
      decisionCount (runtime.issues earlier ++ (runtime.run earlier).puts op) ≤ u64Max := by
    rw [split, runtime.issues_append, AgentRuntime.issues, ← List.append_assoc] at room
    have upTo := Nat.le_trans (decisionCount_le_append _ _) room
    refine ⟨AgentRuntime.run_booked empty (fun other member => internal other (by simp [split, member]))
      (Nat.le_trans (decisionCount_le_append _ _) upTo), internal op (by simp [split]), upTo⟩
  refine ⟨fun id => ⟨total.ordered id, total.bounded id⟩, fun entry member => ?_, ⟨?_, ?_, total.alike⟩,
    ?_⟩
  · obtain ⟨positive, counted⟩ := total.counted entry member
    refine ⟨entry.attempts - 1, ?_, by omega⟩
    rw [total.ordered, ← counted]
    obtain ⟨more, same⟩ := Nat.exists_eq_succ_of_ne_zero (Nat.pos_iff_ne_zero.mp positive)
    simp [same, List.range_succ]
  · intro earlier op later split issue member
    obtain ⟨booked, inside, upTo⟩ := midway split
    exact (AgentRuntime.perform_booked booked inside upTo).2 issue member
  · intro pending member
    obtain ⟨issue, listed, request, due⟩ := (total.latest pending member).1
    exact ⟨issue, listed, request, due.symm⟩
  · intro earlier op later agentId split ends quiet observationJson deadlineTicks now
    obtain ⟨booked, inside, upTo⟩ := midway split
    have idle : (runtime.run ops).lifecycle.hasPendingForAgent agentId = false := by
      have stepped := (AgentRuntime.perform_booked booked inside upTo).1
      have onward : runtime.run ops = ((runtime.run earlier).perform op).run later := by
        rw [split, AgentRuntime.run, List.foldl_append]
        rfl
      rw [onward]
      refine AgentRuntime.idle_run stepped (AgentRuntime.idle_of_ends booked ends)
        (fun other member => internal other (by simp [split, member])) quiet ?_
      rw [split, runtime.issues_append, AgentRuntime.issues, ← List.append_assoc] at room
      exact room
    exact ⟨_, congrArg Prod.snd
      (AgentRuntime.enqueueDecision_of_idle idle observationJson deadlineTicks now)⟩

/-- A decision that is never answered: three requests, then the next decision. -/
def neverAnswered : List AgentOp :=
  [.enqueueDecision "dispatcher" "{}" 2 0, .expireOverdue 3, .drainOutbox, .expireOverdue 6,
    .expireOverdue 9]

theorem attempts_in_order_neverAnswered :
    attemptsOf 1 (AgentRuntime.new.issues neverAnswered) = [0, 1, 2] ∧
      ∃ id, ((AgentRuntime.new.run neverAnswered).enqueueDecision "dispatcher" "{}" 2 10).2 =
        .enqueued id := by
  have books := attempts_in_order .new (.inl rfl) neverAnswered (by decide +kernel)
    (by decide +kernel)
  refine ⟨by decide +kernel, ?_⟩
  exact books.2.2.2 [.enqueueDecision "dispatcher" "{}" 2 0, .expireOverdue 3, .drainOutbox,
    .expireOverdue 6] (.expireOverdue 9) [] "dispatcher" rfl (by decide +kernel) (by simp) "{}" 2 10

section Crowd

/-- A name for each number. -/
def crowdName (number : Nat) : String := String.ofList (List.replicate number 'a')

theorem crowdName_injective : Function.Injective crowdName := by
  intro first second same
  have lengths := congrArg String.length same
  simpa [crowdName] using lengths

/-- As many agents ask for a decision each. -/
def crowd (size : Nat) : List AgentOp :=
  (List.range size).map fun number => .enqueueDecision (crowdName number) "{}" 1 0

theorem crowd_issues (size : Nat) :
    (AgentRuntime.new.run (crowd size)).timeline.nextId = saturatingAdd u64Max size 1 ∧
      (AgentRuntime.new.run (crowd size)).lifecycle.pending.map (·.agentId) =
        (List.range size).map crowdName ∧
      AgentRuntime.new.issues (crowd size) = (List.range size).map fun number =>
        ⟨⟨⟨saturatingAdd u64Max number 1, crowdName number, 0, 0⟩, 1, "{}"⟩, 0⟩ := by
  induction size with
  | zero => exact ⟨rfl, rfl, rfl⟩
  | succ size ih =>
    obtain ⟨next, agents, issued⟩ := ih
    have grown : crowd (size + 1) = crowd size ++ [.enqueueDecision (crowdName size) "{}" 1 0] := by
      simp [crowd, List.range_succ]
    have idle : (AgentRuntime.new.run (crowd size)).lifecycle.hasPendingForAgent (crowdName size) =
        false := by
      apply Bool.eq_false_iff.mpr
      intro busy
      rw [RequestLifecycle.hasPendingForAgent_iff, agents] at busy
      obtain ⟨number, listed, same⟩ := List.mem_map.mp busy
      exact absurd (List.mem_range.mp listed) (by simp [crowdName_injective same])
    have asked := AgentRuntime.enqueueDecision_of_idle idle "{}" 1 0
    have after : AgentRuntime.new.run (crowd (size + 1)) =
        ((AgentRuntime.new.run (crowd size)).enqueueDecision (crowdName size) "{}" 1 0).1 := by
      rw [grown, AgentRuntime.run, List.foldl_append]
      rfl
    have put : (AgentRuntime.new.run (crowd size)).puts
        (.enqueueDecision (crowdName size) "{}" 1 0) = [⟨⟨⟨saturatingAdd u64Max size 1,
          crowdName size, 0, 0⟩, 1, "{}"⟩, 0⟩] := by
      have sent : ((AgentRuntime.new.run (crowd size)).perform
          (.enqueueDecision (crowdName size) "{}" 1 0)).outbox =
            (AgentRuntime.new.run (crowd size)).outbox ++
              [(AgentRuntime.new.run (crowd size)).firstRequest (crowdName size) "{}" 1 0] :=
        congrArg (fun result => result.1.outbox) asked
      rw [AgentRuntime.puts_of_outbox sent, ← next]
      rfl
    refine ⟨?_, ?_, ?_⟩
    · rw [after, asked]
      change saturatingAdd u64Max (AgentRuntime.new.run (crowd size)).timeline.nextId 1 = _
      rw [next]
      unfold saturatingAdd
      omega
    · rw [after, asked, List.range_succ, List.map_append, List.map_append, agents]
      rfl
    · rw [grown, AgentRuntime.issues_append, issued, List.range_succ, List.map_append]
      simp [AgentRuntime.issues, put]

end Crowd

/-- A deadline is clamped at the last tick, and one decision more than there are ids begins a
second first attempt under the last id. -/
theorem ids_and_deadlines_saturate :
    (∃ pending ∈ (AgentRuntime.new.run
        [.enqueueDecision "dispatcher" "{}" 2 0, .expireOverdue u64Max]).lifecycle.pending,
      pending.request.id.attempt = 1 ∧
        pending.deadlineAbs ≠ u64Max + pending.request.deadlineTicks) ∧
    (∀ op ∈ crowd (u64Max + 1), op.isFault = false) ∧
      attemptsOf u64Max (AgentRuntime.new.issues (crowd (u64Max + 1))) = [0, 0] := by
  refine ⟨?_, ?_, ?_⟩
  · exact ⟨⟨u64Max, ⟨⟨1, "dispatcher", 0, 1⟩, 2, "{}"⟩⟩, by decide +kernel, rfl, by decide⟩
  · intro op member
    obtain ⟨number, -, rfl⟩ := List.mem_map.mp member
    rfl
  · obtain ⟨last, same⟩ : ∃ last, u64Max = last + 1 := ⟨u64Max - 1, rfl⟩
    have earlier : (List.range last).filter
        (fun number => decide (saturatingAdd (last + 1) number 1 = last + 1)) = [] := by
      refine List.filter_eq_nil_iff.mpr fun number listed => ?_
      have small := List.mem_range.mp listed
      rw [saturatingAdd_of_le (by omega)]
      simp
      omega
    rw [(crowd_issues (u64Max + 1)).2.2, same, List.range_succ, List.range_succ, attemptsOf,
      List.filter_map, List.map_map]
    change ((List.range last ++ [last] ++ [last + 1]).filter fun number =>
      decide (saturatingAdd (last + 1) number 1 = last + 1)).map (fun _ => 0) = [0, 0]
    rw [List.filter_append, List.filter_append, earlier]
    simp [saturatingAdd]

end Simetro.Agent
