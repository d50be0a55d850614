import Simetro.Agent.Lifecycle

/-! What each operation of the request lifecycle does to the pending requests. -/

namespace Simetro.Agent

open Simetro.Library Simetro.Protocol

abbrev PendingEntry.agentId (entry : PendingEntry) : String := entry.request.id.agentId

abbrev PendingEntry.timelineId (entry : PendingEntry) : Nat := entry.request.id.timelineId

/-- The request an expiry asks to issue next. -/
def ExpiryOutcome.nextRequest : ExpiryOutcome → Option AgentRequest
  | .reissue next _ => some next
  | .giveUp _ => none

namespace RequestLifecycle

variable {lifecycle : RequestLifecycle} {request : AgentRequest} {now : Nat}

/-- No agent has two pending requests. -/
def OnePerAgent (lifecycle : RequestLifecycle) : Prop :=
  (lifecycle.pending.map (·.agentId)).Nodup

theorem OnePerAgent.ids (one : lifecycle.OnePerAgent) :
    (lifecycle.pending.map (·.request.id)).Nodup := by
  refine List.Nodup.of_map RequestId.agentId ?_
  simpa [OnePerAgent, Function.comp_def] using one

theorem hasPendingForAgent_iff {agentId : String} :
    lifecycle.hasPendingForAgent agentId = true ↔ agentId ∈ lifecycle.pending.map (·.agentId) := by
  simp [hasPendingForAgent]

/-- With no request of the agent pending, a request is accepted at the end. -/
theorem tryEnqueue_of_absent (request : AgentRequest) (now : Nat)
    (absent : request.id.agentId ∉ lifecycle.pending.map (·.agentId)) :
    lifecycle.tryEnqueue request now =
      ({ lifecycle with
          pending := lifecycle.pending ++ [⟨saturatingAdd u64Max now request.deadlineTicks, request⟩] },
        .enqueued) := by
  have idle : lifecycle.hasPendingForAgent request.id.agentId = false :=
    Bool.eq_false_iff.mpr fun busy => absent (hasPendingForAgent_iff.mp busy)
  have untouched : (lifecycle.pending.filter fun other => other.request.id ≠ request.id) =
      lifecycle.pending := by
    refine List.filter_eq_self.mpr fun other member => ?_
    rw [decide_eq_true_eq]
    exact fun same => absent (List.mem_map.mpr ⟨other, member, congrArg RequestId.agentId same⟩)
  simp only [tryEnqueue, idle, insertPending, untouched, Bool.false_eq_true, if_false]

theorem tryEnqueue_of_present (now : Nat)
    (present : request.id.agentId ∈ lifecycle.pending.map (·.agentId)) :
    ∃ message, lifecycle.tryEnqueue request now = (lifecycle, .backpressureDropped message) :=
  ⟨_, by rw [tryEnqueue, if_pos (hasPendingForAgent_iff.mpr present)]⟩

theorem findPending_found {id : RequestId} {entry : PendingEntry}
    (found : lifecycle.findPending id = some entry) :
    entry ∈ lifecycle.pending ∧ entry.request.id = id :=
  ⟨List.mem_of_find?_eq_some found, by simpa using List.find?_some found⟩

/-- A reply applies a pending request in time, expires a pending request that is
past its deadline, or changes nothing. -/
theorem drainReply_cases (lifecycle : RequestLifecycle) (reply : AgentReply) (now : Nat) :
    (∃ entry ∈ lifecycle.pending, entry.request.id = reply.id ∧ now ≤ entry.deadlineAbs ∧
      lifecycle.drainReply reply now =
        ((lifecycle.removePending reply.id).pushCompleted reply.id,
          .apply reply.id.agentId reply.chosen reply.rationale reply.confidence)) ∨
    (∃ entry ∈ lifecycle.pending, entry.request.id = reply.id ∧ entry.deadlineAbs < now ∧
      lifecycle.drainReply reply now =
        ((lifecycle.removePending reply.id).pushExpired reply.id,
          .stale (staleWarning reply.id now))) ∨
    (lifecycle.drainReply reply now = (lifecycle, .duplicate (duplicateWarning reply.id)) ∨
      lifecycle.drainReply reply now = (lifecycle, .stale (staleWarning reply.id now)) ∨
      lifecycle.drainReply reply now = (lifecycle, .unknownId (unknownIdFault reply.id))) := by
  unfold drainReply
  by_cases completed : reply.id ∈ lifecycle.completed
  · simp [completed]
  by_cases expired : reply.id ∈ lifecycle.expired
  · simp [completed, expired]
  cases found : lifecycle.findPending reply.id with
  | none => simp [completed, expired]
  | some entry =>
    obtain ⟨member, same⟩ := findPending_found found
    by_cases inTime : now ≤ entry.deadlineAbs
    · exact .inl ⟨entry, member, same, inTime, by simp [completed, expired, inTime]⟩
    · exact .inr (.inl ⟨entry, member, same, by omega, by simp [completed, expired, inTime]⟩)

/-- Expiring pending ids in turn removes them and reports one outcome for each. -/
private theorem foldl_expireOne (now : Nat) (ids : List RequestId)
    (progress : RequestLifecycle × List ExpiryOutcome) (distinct : ids.Nodup)
    (keyed : (progress.1.pending.map (·.request.id)).Nodup)
    (held : ∀ id ∈ ids, id ∈ progress.1.pending.map (·.request.id)) :
    ∃ gone : List PendingEntry, gone.map (·.request.id) = ids ∧
      (∀ entry ∈ gone, entry ∈ progress.1.pending) ∧
      (ids.foldl (expireOne now) progress).1.pending =
        progress.1.pending.filter (fun entry => entry.request.id ∉ ids) ∧
      (ids.foldl (expireOne now) progress).2 =
        progress.2 ++ gone.map fun entry => expiryOutcome now entry.request.id entry := by
  induction ids generalizing progress with
  | nil => exact ⟨[], by simp⟩
  | cons id rest ih =>
    obtain ⟨absent, distinct⟩ := List.nodup_cons.mp distinct
    obtain ⟨entry, member, same⟩ := List.mem_map.mp (held id (by simp))
    have found : progress.1.findPending id = some entry := same ▸ find?_of_mem keyed member
    have step : expireOne now progress id = ((progress.1.removePending id).pushExpired id,
        progress.2 ++ [expiryOutcome now id entry]) := by
      simp [expireOne, found]
    obtain ⟨gone, named, members, pending, outcomes⟩ := ih (expireOne now progress id) distinct
      (by rw [step]; exact keyed.sublist (List.filter_sublist.map _))
      (by
        intro other later
        obtain ⟨row, present, equal⟩ := List.mem_map.mp (held other (by simp [later]))
        have different : row.request.id ≠ id := fun clash => absent (clash ▸ equal ▸ later)
        rw [step]
        exact List.mem_map.mpr ⟨row, List.mem_filter.mpr ⟨present, by simpa using different⟩, equal⟩)
    refine ⟨entry :: gone, by simp [same, named], ?_, ?_, ?_⟩
    · intro row present
      rcases List.mem_cons.mp present with equal | later
      · exact equal ▸ member
      · have kept := members row later
        rw [step] at kept
        exact (List.mem_filter.mp kept).1
    · rw [List.foldl_cons, pending, step]
      simp only [pushExpired, removePending, List.filter_filter]
      refine List.filter_congr fun row _ => ?_
      rw [← Bool.decide_and, decide_eq_decide, List.mem_cons, not_or, and_comm]
    · rw [List.foldl_cons, outcomes, step]
      simp [same]

theorem mem_overdue (ids : (lifecycle.pending.map (·.request.id)).Nodup) {entry : PendingEntry}
    (member : entry ∈ lifecycle.pending) :
    entry.request.id ∈ lifecycle.overdue now ↔ entry.deadlineAbs < now := by
  rw [overdue, List.mem_insertionSort, List.mem_map]
  constructor
  · rintro ⟨other, late, same⟩
    obtain ⟨present, late⟩ := List.mem_filter.mp late
    rw [← List.inj_on_of_nodup_map ids present member same]
    simpa using late
  · exact fun late => ⟨entry, List.mem_filter.mpr ⟨member, by simpa using late⟩, rfl⟩

/-- The expiry pass removes exactly the overdue requests and reports one outcome
for each. -/
theorem expireOverdue_spec (one : lifecycle.OnePerAgent) (now : Nat) :
    ∃ gone : List PendingEntry, gone.Perm (lifecycle.pending.filter fun entry => entry.deadlineAbs < now) ∧
      (lifecycle.expireOverdue now).1.pending =
        lifecycle.pending.filter (fun entry => !decide (entry.deadlineAbs < now)) ∧
      (lifecycle.expireOverdue now).2 =
        gone.map fun entry => expiryOutcome now entry.request.id entry := by
  have ids := one.ids
  have sorted : (lifecycle.overdue now).Perm
      ((lifecycle.pending.filter fun entry => entry.deadlineAbs < now).map (·.request.id)) :=
    List.perm_insertionSort _ _
  have lateIds : ((lifecycle.pending.filter fun entry => entry.deadlineAbs < now).map
      (·.request.id)).Nodup := ids.sublist (List.filter_sublist.map _)
  have distinct := sorted.nodup_iff.mpr lateIds
  obtain ⟨gone, named, members, pending, outcomes⟩ :=
    foldl_expireOne now (lifecycle.overdue now) (lifecycle, []) distinct ids fun id member => by
      obtain ⟨entry, late, same⟩ := List.mem_map.mp (sorted.mem_iff.mp member)
      exact List.mem_map.mpr ⟨entry, (List.mem_filter.mp late).1, same⟩
  refine ⟨gone, ?_, ?_, by simpa [expireOverdue] using outcomes⟩
  · have goneIds : (gone.map (·.request.id)).Nodup := named ▸ distinct
    refine (List.perm_ext_iff_of_nodup (.of_map _ goneIds) (.of_map _ lateIds)).mpr fun entry => ?_
    rw [List.mem_filter, decide_eq_true_eq]
    constructor
    · intro member
      have present := members entry member
      refine ⟨present, (mem_overdue ids present).mp ?_⟩
      exact named ▸ List.mem_map.mpr ⟨entry, member, rfl⟩
    · rintro ⟨present, late⟩
      have listed := (mem_overdue ids present).mpr late
      rw [← named] at listed
      obtain ⟨other, member, same⟩ := List.mem_map.mp listed
      exact List.inj_on_of_nodup_map ids (members other member) present same ▸ member
  · rw [expireOverdue, pending]
    refine List.filter_congr fun entry member => ?_
    rw [decide_not, decide_eq_decide.mpr (mem_overdue ids member)]

/-- Nothing in flight is lost: it waits on or it is removed. -/
theorem expireOverdue_parts {gone : List PendingEntry} {now : Nat}
    (late : gone.Perm (lifecycle.pending.filter fun entry => entry.deadlineAbs < now))
    (pending : (lifecycle.expireOverdue now).1.pending =
      lifecycle.pending.filter fun entry => !decide (entry.deadlineAbs < now)) :
    lifecycle.pending.Perm ((lifecycle.expireOverdue now).1.pending ++ gone) := by
  rw [pending]
  exact ((List.filter_append_perm _ _).symm.trans List.perm_append_comm).trans
    (late.symm.append_left _)

/-- The re-issued requests keep the agent and the timeline id of the attempts
that expired short of the limit. -/
theorem nextRequests (now : Nat) (gone : List PendingEntry) :
    (gone.map fun entry => expiryOutcome now entry.request.id entry).filterMap (·.nextRequest) =
      (gone.filter fun entry => entry.request.id.attempt < maxAttempts).map fun entry =>
        { entry.request with id := entry.request.id.nextAttempt } := by
  induction gone with
  | nil => rfl
  | cons entry rest ih =>
    rw [List.map_cons, List.filterMap_cons, ih]
    by_cases again : entry.request.id.attempt < maxAttempts <;>
      simp [expiryOutcome, again, ExpiryOutcome.nextRequest]

end RequestLifecycle

end Simetro.Agent
