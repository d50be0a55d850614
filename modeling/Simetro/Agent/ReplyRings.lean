import Simetro.Agent.LifecycleSession
import Simetro.Agent.RuntimeRuns

/-! Which replies the runtime still recognises: its rings hold the ids that were
applied or expired last, and how many depends on how the runtime was built. -/

namespace Simetro.Agent

open Simetro.Library Simetro.Protocol

namespace RequestLifecycle

variable {lifecycle : RequestLifecycle} {request : AgentRequest} {now cap : Nat}
  {applied expired : List RequestId}

/-- The source's hash map: no id is pending twice. -/
def Keyed (lifecycle : RequestLifecycle) : Prop := (lifecycle.pending.map (·.request.id)).Nodup

theorem Keyed.removePending (keyed : lifecycle.Keyed) (id : RequestId) :
    (lifecycle.removePending id).Keyed :=
  List.Nodup.sublist (List.filter_sublist.map _) keyed

theorem Keyed.insertPending (keyed : lifecycle.Keyed) (entry : PendingEntry) :
    (lifecycle.insertPending entry).Keyed := by
  have absent : entry.request.id ∉
      (lifecycle.removePending entry.request.id).pending.map (·.request.id) := by
    intro present
    obtain ⟨other, listed, same⟩ := List.mem_map.mp present
    simp [RequestLifecycle.removePending, same] at listed
  have kept : ((lifecycle.removePending entry.request.id).pending.map (·.request.id)).Nodup :=
    keyed.removePending entry.request.id
  unfold Keyed RequestLifecycle.insertPending
  rw [List.map_append, List.map_singleton]
  exact List.concat_eq_append ▸ kept.concat absent

/-- Both rings have the capacity `cap` and hold the latest of the ids applied and
expired so far. -/
structure Remembers (cap : Nat) (lifecycle : RequestLifecycle) (applied expired : List RequestId) :
    Prop where
  keyed : lifecycle.Keyed
  completedCap : lifecycle.completedCap = cap
  expiredCap : lifecycle.expiredCap = cap
  completed : lifecycle.completed = applied.rtake (max cap 1)
  expired : lifecycle.expired = expired.rtake (max cap 1)

namespace Remembers

theorem start (cap : Nat) : Remembers cap (.withCaps cap cap) [] [] :=
  ⟨List.nodup_nil, rfl, rfl, by simp [withCaps], by simp [withCaps]⟩

theorem tryEnqueue (remembers : Remembers cap lifecycle applied expired) (request : AgentRequest)
    (now : Nat) : Remembers cap (lifecycle.tryEnqueue request now).1 applied expired := by
  unfold RequestLifecycle.tryEnqueue
  split
  · exact remembers
  · exact { remembers with keyed := remembers.keyed.insertPending _ }

theorem apply (remembers : Remembers cap lifecycle applied expired) (id : RequestId) :
    Remembers cap ((lifecycle.removePending id).pushCompleted id) (applied ++ [id]) expired where
  keyed := remembers.keyed.removePending id
  completedCap := remembers.completedCap
  expiredCap := remembers.expiredCap
  completed := by
    rw [← pushRing_rtake, ← remembers.completed, ← remembers.completedCap]
    rfl
  expired := remembers.expired

theorem expire (remembers : Remembers cap lifecycle applied expired) (id : RequestId) :
    Remembers cap ((lifecycle.removePending id).pushExpired id) applied (expired ++ [id]) where
  keyed := remembers.keyed.removePending id
  completedCap := remembers.completedCap
  expiredCap := remembers.expiredCap
  completed := remembers.completed
  expired := by
    rw [← pushRing_rtake, ← remembers.expired, ← remembers.expiredCap]
    rfl

private theorem foldl_expireOne (ids : List RequestId)
    (progress : RequestLifecycle × List ExpiryOutcome) (distinct : ids.Nodup)
    (held : ∀ id ∈ ids, id ∈ progress.1.pending.map (·.request.id))
    (remembers : Remembers cap progress.1 applied expired) :
    Remembers cap (ids.foldl (RequestLifecycle.expireOne now) progress).1 applied
      (expired ++ ids) := by
  induction ids generalizing progress expired with
  | nil => simpa using remembers
  | cons id rest ih =>
    obtain ⟨absent, distinct⟩ := List.nodup_cons.mp distinct
    obtain ⟨entry, member, same⟩ := List.mem_map.mp (held id (by simp))
    have found : progress.1.findPending id = some entry :=
      same ▸ find?_of_mem remembers.keyed member
    have step : RequestLifecycle.expireOne now progress id =
        ((progress.1.removePending id).pushExpired id,
          progress.2 ++ [expiryOutcome now id entry]) := by
      simp [RequestLifecycle.expireOne, found]
    rw [List.foldl_cons, step, List.append_cons expired]
    refine ih (_, _) distinct (fun other later => ?_) (remembers.expire id)
    obtain ⟨row, present, equal⟩ := List.mem_map.mp (held other (by simp [later]))
    have different : row.request.id ≠ id := fun clash => absent (clash ▸ equal ▸ later)
    exact List.mem_map.mpr ⟨row, List.mem_filter.mpr ⟨present, by simpa using different⟩, equal⟩

/-- The expiry pass pushes every overdue id, in its own order. -/
theorem expireOverdue (remembers : Remembers cap lifecycle applied expired) (now : Nat) :
    Remembers cap (lifecycle.expireOverdue now).1 applied (expired ++ lifecycle.overdue now) := by
  have sorted : (lifecycle.overdue now).Perm
      ((lifecycle.pending.filter fun entry => entry.deadlineAbs < now).map (·.request.id)) :=
    List.perm_insertionSort _ _
  refine foldl_expireOne _ _ ?_ (fun id member => ?_) remembers
  · exact sorted.nodup_iff.mpr (List.Nodup.sublist (List.filter_sublist.map _) remembers.keyed)
  · obtain ⟨entry, late, same⟩ := List.mem_map.mp (sorted.mem_iff.mp member)
    exact List.mem_map.mpr ⟨entry, (List.mem_filter.mp late).1, same⟩

end Remembers

/-- A pending id that is removed is the one that left. -/
theorem Keyed.left_removed (keyed : lifecycle.Keyed) {entry : PendingEntry}
    (member : entry ∈ lifecycle.pending) {after : RequestLifecycle}
    (removed : after.pending = (lifecycle.removePending entry.request.id).pending) :
    lifecycle.left after = [entry.request.id] := by
  have split := (perm_cons_filter keyed member).filter fun other =>
    !decide (other.request.id ≠ entry.request.id)
  have alone : (lifecycle.pending.filter fun other =>
      !decide (other.request.id ≠ entry.request.id)).Perm [entry] := by
    simpa [List.filter_filter] using split
  rw [left_of_filter removed, List.perm_singleton.mp alone]
  rfl

end RequestLifecycle

/-- A runtime, and the ids it applied and expired so far, oldest first. -/
structure Watched where
  runtime : AgentRuntime
  applied : List RequestId := []
  expired : List RequestId := []

/-- The id a reply applies. -/
def AgentRuntime.applies (runtime : AgentRuntime) : AgentOp → List RequestId
  | .processReply reply now =>
    match (runtime.processReply reply now).2 with
    | .apply _ _ _ _ _ => [reply.id]
    | .drop _ => []
  | _ => []

/-- The ids that expire: a pending one whose reply is late, and all overdue ones in
the expiry pass. -/
def AgentRuntime.expires (runtime : AgentRuntime) : AgentOp → List RequestId
  | .processReply reply now =>
    match runtime.processReply reply now with
    | (_, .apply _ _ _ _ _) => []
    | (after, .drop _) => runtime.lifecycle.left after.lifecycle
  | .expireOverdue now => runtime.lifecycle.overdue now
  | _ => []

namespace Watched

def perform (watched : Watched) (op : AgentOp) : Watched where
  runtime := watched.runtime.perform op
  applied := watched.applied ++ watched.runtime.applies op
  expired := watched.expired ++ watched.runtime.expires op

def run (watched : Watched) (ops : List AgentOp) : Watched := ops.foldl perform watched

/-- The ids whose replies the documentation promises to recognise. -/
def Recent (watched : Watched) (id : RequestId) : Prop :=
  id ∈ watched.applied.rtake completedRingCap ∨ id ∈ watched.expired.rtake completedRingCap

/-- The last applied and the last expired id. -/
def Latest (watched : Watched) (id : RequestId) : Prop :=
  watched.applied.getLast? = some id ∨ watched.expired.getLast? = some id

/-- Every repeated or late reply to a recent id gets the duplicate or the stale
warning. -/
def Recognises (watched : Watched) : Prop :=
  ∀ (reply : AgentReply) (now : Nat), watched.Recent reply.id →
    (watched.runtime.processReply reply now).2 = .drop (duplicateWarning reply.id) ∨
      (watched.runtime.processReply reply now).2 = .drop (staleWarning reply.id now)

variable {watched : Watched} {cap : Nat}

/-- The rings of the runtime are the ends of its two histories. -/
def Holds (cap : Nat) (watched : Watched) : Prop :=
  RequestLifecycle.Remembers cap watched.runtime.lifecycle watched.applied watched.expired

theorem Holds.processReply (holds : watched.Holds cap) (reply : AgentReply) (now : Nat) :
    (watched.perform (.processReply reply now)).Holds cap := by
  rcases watched.runtime.lifecycle.drainReply_cases reply now with ⟨entry, member, same, -, result⟩ |
    ⟨entry, member, same, -, result⟩ | result | result | result
  · have applied := RequestLifecycle.Remembers.apply holds reply.id
    simpa [Holds, perform, AgentRuntime.perform, AgentRuntime.applies, AgentRuntime.expires,
      AgentRuntime.processReply, result] using applied
  · have expired := RequestLifecycle.Remembers.expire holds reply.id
    have left : watched.runtime.lifecycle.left
        ((watched.runtime.lifecycle.removePending reply.id).pushExpired reply.id) =
          [entry.request.id] :=
      holds.keyed.left_removed member (by rw [same]; rfl)
    simpa [Holds, perform, AgentRuntime.perform, AgentRuntime.applies, AgentRuntime.expires,
      AgentRuntime.processReply, result, left, same] using expired
  all_goals
    have stays : watched.runtime.lifecycle.left watched.runtime.lifecycle = [] := by
      simp [RequestLifecycle.left]
    simpa [Holds, perform, AgentRuntime.perform, AgentRuntime.applies, AgentRuntime.expires,
      AgentRuntime.processReply, result, stays] using holds

private theorem expireOne_remembers {applied expired : List RequestId} (now : Nat)
    (progress : AgentRuntime × List ExpireOutcome) (outcome : ExpiryOutcome)
    (remembers : RequestLifecycle.Remembers cap progress.1.lifecycle applied expired) :
    RequestLifecycle.Remembers cap (AgentRuntime.expireOne now progress outcome).1.lifecycle
      applied expired := by
  cases outcome with
  | reissue next warning =>
    have accepted := remembers.tryEnqueue next now
    rcases result : progress.1.lifecycle.tryEnqueue next now with ⟨lifecycle, _ | _⟩ <;>
      simpa [AgentRuntime.expireOne, result] using accepted
  | giveUp message =>
    rcases found : (giveUpTarget message).bind
        (AgentRuntime.findPendingIdForAgent progress.1.timeline) with _ | id <;>
      simpa [AgentRuntime.expireOne, found] using remembers

private theorem expireAll_remembers {applied expired : List RequestId} (now : Nat)
    (outcomes : List ExpiryOutcome) (progress : AgentRuntime × List ExpireOutcome)
    (remembers : RequestLifecycle.Remembers cap progress.1.lifecycle applied expired) :
    RequestLifecycle.Remembers cap (outcomes.foldl (AgentRuntime.expireOne now) progress).1.lifecycle
      applied expired := by
  induction outcomes generalizing progress with
  | nil => exact remembers
  | cons outcome rest ih => exact ih _ (expireOne_remembers now progress outcome remembers)

theorem Holds.perform (holds : watched.Holds cap) (op : AgentOp) :
    (watched.perform op).Holds cap := by
  cases op with
  | enqueueDecision agentId observationJson deadlineTicks now =>
    simp only [Holds, Watched.perform, AgentRuntime.perform, AgentRuntime.applies,
      AgentRuntime.expires, List.append_nil, AgentRuntime.enqueueDecision]
    split
    · exact holds
    · have accepted := RequestLifecycle.Remembers.tryEnqueue holds
        ⟨⟨watched.runtime.timeline.nextId, agentId, now, 0⟩, deadlineTicks, observationJson⟩ now
      simp only [DecisionTimeline.allocate]
      rcases result : watched.runtime.lifecycle.tryEnqueue
          ⟨⟨watched.runtime.timeline.nextId, agentId, now, 0⟩, deadlineTicks, observationJson⟩
          now with ⟨lifecycle, _ | _⟩ <;>
        simpa [result] using accepted
  | drainOutbox =>
    simpa [Holds, Watched.perform, AgentRuntime.perform, AgentRuntime.drainOutbox,
      AgentRuntime.applies, AgentRuntime.expires] using holds
  | processReply reply now => exact holds.processReply reply now
  | expireOverdue now =>
    have pushed := RequestLifecycle.Remembers.expireOverdue holds now
    have kept := expireAll_remembers now (watched.runtime.lifecycle.expireOverdue now).2
      ({ watched.runtime with lifecycle := (watched.runtime.lifecycle.expireOverdue now).1 }, []) pushed
    simpa [Holds, Watched.perform, AgentRuntime.perform, AgentRuntime.expireOverdue,
      AgentRuntime.applies, AgentRuntime.expires] using kept
  | recordFault id faultTick reason =>
    simp only [Holds, Watched.perform, AgentRuntime.perform, AgentRuntime.applies,
      AgentRuntime.expires, List.append_nil, AgentRuntime.recordFault]
    split <;> exact holds

theorem Holds.run (holds : watched.Holds cap) (ops : List AgentOp) :
    (watched.run ops).Holds cap := by
  induction ops generalizing watched with
  | nil => exact holds
  | cons op rest ih => exact ih (holds.perform op)

/-- An id outside both rings is unknown, or pending and applied by a reply at tick 0. -/
private theorem processReply_at_start (reply : AgentReply)
    (uncompleted : reply.id ∉ watched.runtime.lifecycle.completed)
    (unexpired : reply.id ∉ watched.runtime.lifecycle.expired) :
    ∀ message, (watched.runtime.processReply reply 0).2 = .drop message →
      message = unknownIdFault reply.id := by
  intro message dropped
  rcases found : watched.runtime.lifecycle.findPending reply.id with _ | entry
  · simpa [AgentRuntime.processReply, RequestLifecycle.drainReply, uncompleted, unexpired, found]
      using dropped.symm
  · simp [AgentRuntime.processReply, RequestLifecycle.drainReply, uncompleted, unexpired, found]
      at dropped

theorem Holds.recognises_iff (holds : watched.Holds cap) : watched.Recognises ↔
    ∀ id, watched.Recent id →
      id ∈ watched.applied.rtake (max cap 1) ∨ id ∈ watched.expired.rtake (max cap 1) := by
  unfold Recognises
  rw [← holds.completed, ← holds.expired]
  constructor
  · intro recognises id recent
    by_contra forgotten
    obtain ⟨uncompleted, unexpired⟩ := not_or.mp forgotten
    have only := processReply_at_start ⟨id, none, "", 0⟩ uncompleted unexpired
    rcases recognises ⟨id, none, "", 0⟩ 0 recent with duplicate | stale
    · simpa [duplicateWarning, unknownIdFault] using only _ duplicate
    · simpa [staleWarning, unknownIdFault] using only _ stale
  · intro remembered reply now recent
    by_cases completed : reply.id ∈ watched.runtime.lifecycle.completed
    · exact .inl (by simp [AgentRuntime.processReply, RequestLifecycle.drainReply, completed])
    · have expired := (remembered reply.id recent).resolve_left completed
      exact .inr (by
        simp [AgentRuntime.processReply, RequestLifecycle.drainReply, completed, expired])

end Watched

theorem mem_rtake_one {Entry : Type} (history : List Entry) (entry : Entry) :
    entry ∈ history.rtake 1 ↔ history.getLast? = some entry := by
  induction history using List.reverseRecOn with
  | nil => simp
  | append_singleton earlier last _ => simp [List.rtake_concat_succ, eq_comm]

/-- A runtime with a timeline capacity recognises every recent id; one built by
`new` only the last applied and the last expired one. -/
theorem recent_replies_recognised (runtime : AgentRuntime)
    (built : runtime = .new ∨ ∃ cap, runtime = .withTimelineCapacity cap) (ops : List AgentOp) :
    (Watched.run { runtime } ops).Recognises ↔
      (∃ cap, runtime = .withTimelineCapacity cap) ∨
        ∀ id, (Watched.run { runtime } ops).Recent id →
          (Watched.run { runtime } ops).Latest id := by
  rcases built with rfl | ⟨cap, rfl⟩
  · have start : Watched.Holds 0 { runtime := .new } := RequestLifecycle.Remembers.start 0
    have other : ¬ ∃ cap, AgentRuntime.new = .withTimelineCapacity cap := by
      rintro ⟨cap, same⟩
      have caps := congrArg (·.lifecycle.completedCap) same
      simp [AgentRuntime.new, AgentRuntime.withTimelineCapacity, RequestLifecycle.new,
        RequestLifecycle.withCaps, completedRingCap] at caps
    rw [(start.run ops).recognises_iff]
    simp only [other, false_or, Watched.Latest, Nat.zero_max, mem_rtake_one]
  · have start : Watched.Holds completedRingCap { runtime := .withTimelineCapacity cap } :=
      RequestLifecycle.Remembers.start completedRingCap
    rw [(start.run ops).recognises_iff]
    exact ⟨fun _ => .inl ⟨cap, rfl⟩, fun _ id recent => recent⟩

/-- Two decisions, each answered in time. -/
def answeredTwice : List AgentOp :=
  [.enqueueDecision "dispatcher" "{}" 2 0, .drainOutbox,
    .processReply ⟨⟨1, "dispatcher", 0, 0⟩, none, "", 1⟩ 1,
    .enqueueDecision "dispatcher" "{}" 2 2, .drainOutbox,
    .processReply ⟨⟨2, "dispatcher", 2, 0⟩, none, "", 1⟩ 3]

theorem recent_replies_recognised_twice :
    (Watched.run { runtime := .withTimelineCapacity 8 } answeredTwice).Recognises :=
  (recent_replies_recognised (.withTimelineCapacity 8) (.inr ⟨8, rfl⟩) answeredTwice).mpr
    (.inl ⟨8, rfl⟩)

/-- The first reply again: an engine fault, though two replies were applied in all. -/
theorem repeated_reply_unknown :
    (Watched.run { runtime := .new } answeredTwice).applied =
        [⟨1, "dispatcher", 0, 0⟩, ⟨2, "dispatcher", 2, 0⟩] ∧
      ((Watched.run { runtime := .new } answeredTwice).runtime.processReply
          ⟨⟨1, "dispatcher", 0, 0⟩, none, "", 1⟩ 4).2 =
        .drop (unknownIdFault ⟨1, "dispatcher", 0, 0⟩) ∧
      ¬ (Watched.run { runtime := .new } answeredTwice).Recognises := by
  have applied : (Watched.run { runtime := .new } answeredTwice).applied =
      [⟨1, "dispatcher", 0, 0⟩, ⟨2, "dispatcher", 2, 0⟩] := by
    decide +kernel
  have fault : ((Watched.run { runtime := .new } answeredTwice).runtime.processReply
      ⟨⟨1, "dispatcher", 0, 0⟩, none, "", 1⟩ 4).2 =
        .drop (unknownIdFault ⟨1, "dispatcher", 0, 0⟩) := by
    rfl
  refine ⟨applied, fault, fun recognises => ?_⟩
  have recent : (Watched.run { runtime := .new } answeredTwice).Recent ⟨1, "dispatcher", 0, 0⟩ :=
    .inl (by rw [applied]; decide +kernel)
  rcases recognises ⟨⟨1, "dispatcher", 0, 0⟩, none, "", 1⟩ 4 recent with duplicate | stale
  · have clash := fault.symm.trans duplicate
    simp [unknownIdFault, duplicateWarning] at clash
  · have clash := fault.symm.trans stale
    simp [unknownIdFault, staleWarning] at clash

end Simetro.Agent
