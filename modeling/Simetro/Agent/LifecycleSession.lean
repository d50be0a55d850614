import Simetro.Agent.LifecycleSteps
import Simetro.Library.Tokens

/-! Sessions of a request lifecycle: any sequence of calls with arbitrary replies
and ticks, re-issues enqueued again the way the agent runtime does. -/

namespace Simetro.Agent

open Simetro.Library Simetro.Protocol

/-- An accepted request; a re-issue is not fresh. -/
structure Attempt where
  request : AgentRequest
  issuedAt : Nat
  fresh : Bool

/-- The tick up to which the attempt may be answered. -/
def Attempt.deadline (attempt : Attempt) : Nat :=
  saturatingAdd u64Max attempt.issuedAt attempt.request.deadlineTicks

inductive LifecycleCall where
  | tryEnqueue (request : AgentRequest) (now : Nat)
  | drainReply (reply : AgentReply) (now : Nat)
  | expireOverdue (now : Nat)

/-- The lifecycle, and what it accepted, applied and expired so far. -/
structure Session where
  lifecycle : RequestLifecycle
  issued : List Attempt := []
  applied : List RequestId := []
  expired : List RequestId := []

/-- The attempts that left the pending set between two states. -/
def RequestLifecycle.left (before after : RequestLifecycle) : List RequestId :=
  (before.pending.filter fun entry => entry ∉ after.pending).map (·.request.id)

/-- Requests that leave the pending set are the ones filtered out. -/
theorem RequestLifecycle.left_of_filter {before after : RequestLifecycle}
    {keep : PendingEntry → Bool} (kept : after.pending = before.pending.filter keep) :
    before.left after = (before.pending.filter fun entry => !keep entry).map (·.request.id) := by
  rw [RequestLifecycle.left, kept]
  refine congrArg _ (List.filter_congr fun entry member => ?_)
  by_cases stays : keep entry <;> simp [stays, member]

namespace Session

def enqueue (session : Session) (fresh : Bool) (request : AgentRequest) (now : Nat) : Session :=
  match session.lifecycle.tryEnqueue request now with
  | (lifecycle, .enqueued) =>
    { session with
      lifecycle
      issued := session.issued ++ [⟨request, now, fresh⟩] }
  | (lifecycle, .backpressureDropped _) => { session with lifecycle }

def reissue (now : Nat) (session : Session) : ExpiryOutcome → Session
  | .reissue next _ => session.enqueue false next now
  | .giveUp _ => session

def expire (session : Session) (lifecycle : RequestLifecycle) : Session :=
  { session with
    lifecycle
    expired := session.expired ++ session.lifecycle.left lifecycle }

def call (session : Session) : LifecycleCall → Session
  | .tryEnqueue request now => session.enqueue true request now
  | .drainReply reply now =>
    match session.lifecycle.drainReply reply now with
    | (lifecycle, .apply _ _ _ _) =>
      { session with
        lifecycle
        applied := session.applied ++ [reply.id] }
    | (lifecycle, _) => session.expire lifecycle
  | .expireOverdue now =>
    let (lifecycle, outcomes) := session.lifecycle.expireOverdue now
    outcomes.foldl (reissue now) (session.expire lifecycle)

def run (session : Session) (calls : List LifecycleCall) : Session :=
  calls.foldl call session

/-- The decisions the caller asked for, each under its own timeline id. -/
def decisions (session : Session) : List Nat :=
  (session.issued.filter (·.fresh)).map (·.request.id.timelineId)

/-- The books of a session while the `waiting` requests are to be issued again. -/
structure Sound (session : Session) (waiting : List AgentRequest) : Prop where
  agents : (session.lifecycle.pending.map (·.agentId) ++ waiting.map (·.id.agentId)).Nodup
  attempts : Books (session.issued.map (·.request.id))
    (session.lifecycle.pending.map (·.request.id)) session.applied session.expired
  decided : ∃ dropped, Books session.decisions
    (session.lifecycle.pending.map (·.timelineId) ++ waiting.map (·.id.timelineId))
    (session.applied.map (·.timelineId)) dropped
  deadlines : ∀ entry ∈ session.lifecycle.pending, ∃ attempt ∈ session.issued,
    attempt.request = entry.request ∧ entry.deadlineAbs = attempt.deadline

variable {session : Session} {waiting : List AgentRequest} {request : AgentRequest} {now : Nat}

theorem Sound.onePerAgent (sound : session.Sound waiting) : session.lifecycle.OnePerAgent :=
  (List.nodup_append.mp sound.agents).1

theorem sound_start (lifecycle : RequestLifecycle) (empty : lifecycle.pending = []) :
    Sound { lifecycle } [] := by
  refine ⟨by simp [empty], ?_, ⟨[], ?_⟩, by simp [empty]⟩
  · simpa [empty] using Books.empty
  · simpa [empty, decisions] using Books.empty

theorem enqueue_of_absent (fresh : Bool)
    (absent : request.id.agentId ∉ session.lifecycle.pending.map (·.agentId)) :
    session.enqueue fresh request now =
      { session with
        lifecycle := { session.lifecycle with
          pending := session.lifecycle.pending ++
            [⟨saturatingAdd u64Max now request.deadlineTicks, request⟩] }
        issued := session.issued ++ [⟨request, now, fresh⟩] } := by
  simp only [enqueue, RequestLifecycle.tryEnqueue_of_absent _ _ absent]

theorem enqueue_of_present (fresh : Bool)
    (present : request.id.agentId ∈ session.lifecycle.pending.map (·.agentId)) :
    session.enqueue fresh request now = session := by
  obtain ⟨message, dropped⟩ := RequestLifecycle.tryEnqueue_of_present now present
  simp only [enqueue, dropped]

private theorem deadlines_enqueue (fresh : Bool)
    (deadlines : ∀ entry ∈ session.lifecycle.pending, ∃ attempt ∈ session.issued,
      attempt.request = entry.request ∧ entry.deadlineAbs = attempt.deadline) :
    ∀ entry ∈ session.lifecycle.pending ++
        [⟨saturatingAdd u64Max now request.deadlineTicks, request⟩],
      ∃ attempt ∈ session.issued ++ [⟨request, now, fresh⟩],
        attempt.request = entry.request ∧ entry.deadlineAbs = attempt.deadline := by
  intro entry member
  rcases List.mem_append.mp member with old | new
  · obtain ⟨attempt, listed, same⟩ := deadlines entry old
    exact ⟨attempt, List.mem_append_left _ listed, same⟩
  · rw [List.mem_singleton] at new
    exact ⟨⟨request, now, fresh⟩, by simp, by simp [new], by simp [new, Attempt.deadline]⟩

/-- A fresh request is accepted as a new attempt of a new decision, or changes
nothing. -/
theorem Sound.enqueue_fresh (sound : session.Sound []) (request : AgentRequest) (now : Nat) :
    (session.enqueue true request now).Sound [] := by
  by_cases present : request.id.agentId ∈ session.lifecycle.pending.map (·.agentId)
  · rwa [enqueue_of_present true present]
  · rw [enqueue_of_absent true present]
    obtain ⟨dropped, decided⟩ := sound.decided
    have agents := sound.agents
    simp only [List.map_nil, List.append_nil] at agents decided
    refine ⟨?_, ?_, ⟨dropped, ?_⟩, deadlines_enqueue true sound.deadlines⟩
    · simpa [List.nodup_append] using ⟨agents, fun entry member same =>
        present (List.mem_map.mpr ⟨entry, member, same⟩)⟩
    · simpa using sound.attempts.issue request.id
    · simpa [decisions, List.filter_append] using decided.issue request.id.timelineId

/-- A waiting request is accepted as a new attempt of its decision. -/
theorem Sound.enqueue_waiting (sound : session.Sound (request :: waiting)) (now : Nat) :
    (session.enqueue false request now).Sound waiting := by
  have agents := sound.agents
  have absent : request.id.agentId ∉ session.lifecycle.pending.map (·.agentId) := fun present =>
    (List.nodup_append.mp agents).2.2 _ present _ (by simp) rfl
  rw [enqueue_of_absent false absent]
  obtain ⟨dropped, decided⟩ := sound.decided
  refine ⟨?_, ?_, ⟨dropped, ?_⟩, deadlines_enqueue false sound.deadlines⟩
  · simpa using agents
  · simpa using sound.attempts.issue request.id
  · simpa [decisions, List.filter_append] using decided

theorem Sound.reissue_all (outcomes : List ExpiryOutcome) (now : Nat)
    (sound : session.Sound (outcomes.filterMap (·.nextRequest))) :
    (outcomes.foldl (reissue now) session).Sound [] := by
  induction outcomes generalizing session with
  | nil => exact sound
  | cons outcome rest ih =>
    rw [List.foldl_cons]
    apply ih
    cases outcome with
    | reissue next warning => exact sound.enqueue_waiting now
    | giveUp message => exact sound

/-- Some pending requests expire; those in `again` are to be issued again. -/
theorem Sound.expire {lifecycle : RequestLifecycle} {keep : PendingEntry → Bool}
    {waiting : List AgentRequest} (sound : session.Sound []) (again : List PendingEntry)
    (kept : lifecycle.pending = session.lifecycle.pending.filter keep)
    (part : ∃ gone : List PendingEntry,
      gone.Perm (session.lifecycle.pending.filter fun entry => !keep entry) ∧ again.Sublist gone)
    (agents : waiting.map (·.id.agentId) = again.map (·.agentId))
    (timelines : waiting.map (·.id.timelineId) = again.map (·.timelineId)) :
    (session.expire lifecycle).Sound waiting := by
  obtain ⟨gone, same, included⟩ := part
  obtain ⟨rest, split⟩ := included.exists_perm_append
  have parts : session.lifecycle.pending.Perm (lifecycle.pending ++ again ++ rest) := by
    rw [kept, List.append_assoc]
    exact (List.filter_append_perm keep _).symm.trans ((same.symm.trans split).append_left _)
  obtain ⟨dropped, decided⟩ := sound.decided
  refine ⟨?_, ?_, ⟨dropped ++ rest.map (·.timelineId), ?_⟩, ?_⟩
  · have one : (session.lifecycle.pending.map (·.agentId)).Nodup := sound.onePerAgent
    have all := (parts.map (·.agentId)).nodup_iff.mp one
    rw [List.map_append, List.map_append] at all
    exact agents ▸ (List.nodup_append.mp all).1
  · refine sound.attempts.lapse ?_
    rw [RequestLifecycle.left_of_filter kept, Session.expire, kept, ← List.map_append]
    exact ((List.filter_append_perm keep _).symm.trans List.perm_append_comm).map _
  · refine decided.lapse ?_
    rw [List.map_nil, List.append_nil, timelines, ← List.map_append, ← List.map_append]
    exact (parts.trans List.perm_append_comm).map _
  · intro entry member
    have member : entry ∈ lifecycle.pending := member
    rw [kept] at member
    exact sound.deadlines entry (List.mem_filter.mp member).1

/-- A pending request is applied. -/
private theorem Sound.settle {lifecycle : RequestLifecycle} {entry : PendingEntry}
    (sound : session.Sound []) (member : entry ∈ session.lifecycle.pending)
    (kept : lifecycle.pending =
      session.lifecycle.pending.filter fun other => other.request.id ≠ entry.request.id) :
    Sound { session with
      lifecycle
      applied := session.applied ++ [entry.request.id] } [] := by
  have parts : session.lifecycle.pending.Perm (entry :: lifecycle.pending) :=
    kept ▸ perm_cons_filter sound.onePerAgent.ids member
  obtain ⟨dropped, decided⟩ := sound.decided
  rw [List.map_nil, List.append_nil] at decided
  refine ⟨?_, sound.attempts.settle (by simpa using parts.map (·.request.id)), ⟨dropped, ?_⟩, ?_⟩
  · have one : (session.lifecycle.pending.map (·.agentId)).Nodup := sound.onePerAgent
    simpa using (List.nodup_cons.mp ((parts.map (·.agentId)).nodup_iff.mp one)).2
  · simpa [decisions] using decided.settle (by simpa using parts.map (·.timelineId))
  · intro other present
    exact sound.deadlines other (parts.mem_iff.mpr (List.mem_cons_of_mem _ present))

private theorem Sound.drain (sound : session.Sound []) (reply : AgentReply) (now : Nat) :
    (session.call (.drainReply reply now)).Sound [] := by
  have all : session.lifecycle.pending = session.lifecycle.pending.filter fun _ => true := by simp
  have unchanged : (session.expire session.lifecycle).Sound [] :=
    sound.expire [] all ⟨[], by simp, .refl _⟩ rfl rfl
  rcases session.lifecycle.drainReply_cases reply now with ⟨entry, member, same, -, result⟩ |
    ⟨entry, member, same, -, result⟩ | result | result | result <;>
    simp only [call, result]
  · rw [← same]
    exact sound.settle member rfl
  · exact sound.expire [] rfl ⟨_, .refl _, List.nil_sublist _⟩ rfl rfl
  all_goals exact unchanged

private theorem Sound.expireOverdue (sound : session.Sound []) (now : Nat) :
    (session.call (.expireOverdue now : LifecycleCall)).Sound [] := by
  obtain ⟨gone, late, pending, outcomes⟩ :=
    RequestLifecycle.expireOverdue_spec sound.onePerAgent now
  have passes : session.call (.expireOverdue now : LifecycleCall) =
      (session.lifecycle.expireOverdue now).2.foldl (reissue now)
        (session.expire (session.lifecycle.expireOverdue now).1) := rfl
  rw [passes]
  refine Sound.reissue_all _ now ?_
  rw [outcomes, RequestLifecycle.nextRequests]
  refine sound.expire (gone.filter fun entry => entry.request.id.attempt < maxAttempts) pending
    ⟨gone, ?_, List.filter_sublist⟩ ?_ ?_
  · simpa using late
  · simp [RequestId.nextAttempt]
  · simp [RequestId.nextAttempt]

theorem Sound.call (sound : session.Sound []) (call : LifecycleCall) :
    (session.call call).Sound [] := by
  cases call with
  | tryEnqueue request now => exact sound.enqueue_fresh request now
  | drainReply reply now => exact sound.drain reply now
  | expireOverdue now => exact sound.expireOverdue now

theorem Sound.run (sound : session.Sound []) (calls : List LifecycleCall) :
    (session.run calls).Sound [] := by
  induction calls generalizing session with
  | nil => exact sound
  | cons call rest ih => exact ih (sound.call call)

end Session

/-- However replies arrive, an attempt is applied at most once and never after it
expired, a decision at most once over all its attempts, and only in time. -/
theorem applied_at_most_once (completedCap expiredCap : Nat) (calls : List LifecycleCall)
    (session : Session)
    (reached : session = Session.run { lifecycle := .withCaps completedCap expiredCap } calls)
    (idsOnce : (session.issued.map (·.request.id)).Nodup) :
    (session.lifecycle.pending.map (·.agentId)).Nodup ∧
      session.applied.Nodup ∧
      (session.decisions.Nodup → (session.applied.map (·.timelineId)).Nodup) ∧
      (∀ id ∈ session.expired, id ∉ session.applied) ∧
      ∀ (reply : AgentReply) (now : Nat) (lifecycle : RequestLifecycle) (agentId : String)
        (chosen : Option Action) (rationale : String) (confidence : F32Bits),
        session.lifecycle.drainReply reply now =
          (lifecycle, .apply agentId chosen rationale confidence) →
        reply.id ∈ session.lifecycle.pending.map (·.request.id) ∧
          ∃ attempt ∈ session.issued, attempt.request.id = reply.id ∧ now ≤ attempt.deadline := by
  subst reached
  have sound := (Session.sound_start (.withCaps completedCap expiredCap) rfl).run calls
  obtain ⟨dropped, decided⟩ := sound.decided
  refine ⟨sound.onePerAgent, sound.attempts.settled_nodup idsOnce, decided.settled_nodup,
    fun id => sound.attempts.not_settled_of_lapsed idsOnce, ?_⟩
  intro reply now lifecycle agentId chosen rationale confidence applied
  rcases RequestLifecycle.drainReply_cases _ reply now with ⟨entry, member, same, inTime, -⟩ |
    ⟨_, _, _, _, result⟩ | result | result | result
  · obtain ⟨attempt, listed, request, deadline⟩ := sound.deadlines entry member
    exact ⟨List.mem_map.mpr ⟨entry, member, same⟩, attempt, listed, by rw [request, same],
      deadline ▸ inTime⟩
  all_goals simp [result] at applied

/-- One decision that expires, is issued again, answered late and then in time. -/
def answeredLate : List LifecycleCall :=
  [.tryEnqueue ⟨⟨1, "dispatcher", 0, 0⟩, 2, "{}"⟩ 0,
    .expireOverdue 3,
    .drainReply ⟨⟨1, "dispatcher", 0, 0⟩, none, "", 1⟩ 3,
    .drainReply ⟨⟨1, "dispatcher", 0, 1⟩, none, "", 1⟩ 5,
    .drainReply ⟨⟨1, "dispatcher", 0, 1⟩, none, "", 1⟩ 5]

theorem applied_at_most_once_answeredLate :
    (Session.run { lifecycle := .withCaps 0 0 } answeredLate).expired = [⟨1, "dispatcher", 0, 0⟩] ∧
      (Session.run { lifecycle := .withCaps 0 0 } answeredLate).applied =
        [⟨1, "dispatcher", 0, 1⟩] ∧
      (Session.run { lifecycle := .withCaps 0 0 } answeredLate).applied.Nodup :=
  ⟨by decide +kernel, by decide +kernel,
    (applied_at_most_once 0 0 answeredLate _ rfl (by decide +kernel)).2.1⟩

end Simetro.Agent
