import Simetro.Agent.ReplyRings
import Simetro.Agent.GiveUps

/-! The requests a runtime issues: no id is given twice, and each is pending, applied or
expired. -/

namespace Simetro.Agent

open Simetro.Library Simetro.Protocol

/-- The ticks of an operation are those of its argument types. -/
def AgentOp.Typed : AgentOp → Prop
  | .enqueueDecision _ _ deadlineTicks now => deadlineTicks ≤ u32Max ∧ now ≤ u64Max
  | _ => True

/-- The numbers of a request are those of its field types. -/
structure AgentRequest.Typed (request : AgentRequest) : Prop where
  sourceTick : request.id.sourceTick ≤ u64Max
  attempt : request.id.attempt ≤ maxAttempts
  deadlineTicks : request.deadlineTicks ≤ u32Max

/-- The next attempt of an expired request. -/
def PendingEntry.renewed (entry : PendingEntry) (deadlineAbs : Nat) : PendingEntry where
  deadlineAbs
  request := { entry.request with id := entry.request.id.nextAttempt }

@[simp] theorem PendingEntry.renewed_timelineId (entry : PendingEntry) (deadline : Nat) :
    (entry.renewed deadline).timelineId = entry.timelineId := rfl

@[simp] theorem PendingEntry.renewed_agentId (entry : PendingEntry) (deadline : Nat) :
    (entry.renewed deadline).agentId = entry.agentId := rfl

/-- What was issued against what is in flight: the ids are distinct, and a request in flight is
the last attempt at its decision. -/
structure Issues (next : Nat) (inFlight : List PendingEntry) (issued : List AgentRequest) : Prop where
  distinct : (issued.map (·.id)).Nodup
  below : ∀ request ∈ issued, request.id.timelineId < next
  typed : ∀ request ∈ issued, request.Typed
  flying : ∀ entry ∈ inFlight, entry.request ∈ issued
  latest : ∀ entry ∈ inFlight, ∀ request ∈ issued, request.id.timelineId = entry.timelineId →
    request.id.attempt ≤ entry.request.id.attempt
  decisions : (inFlight.map (·.timelineId)).Nodup
  agents : (inFlight.map (·.agentId)).Nodup

namespace Issues

variable {next : Nat} {inFlight fewer : List PendingEntry} {issued : List AgentRequest}

theorem start (next : Nat) : Issues next [] [] :=
  ⟨List.nodup_nil, by simp, by simp, by simp, by simp, List.nodup_nil, List.nodup_nil⟩

theorem of_perm (issues : Issues next inFlight issued) (same : inFlight.Perm fewer) :
    Issues next fewer issued :=
  { issues with
    flying := fun entry member => issues.flying entry (same.mem_iff.mpr member)
    latest := fun entry member => issues.latest entry (same.mem_iff.mpr member)
    decisions := (same.map _).nodup_iff.mp issues.decisions
    agents := (same.map _).nodup_iff.mp issues.agents }

theorem of_sublist (issues : Issues next inFlight issued) (less : fewer.Sublist inFlight) :
    Issues next fewer issued :=
  { issues with
    flying := fun entry member => issues.flying entry (less.subset member)
    latest := fun entry member => issues.latest entry (less.subset member)
    decisions := issues.decisions.sublist (less.map _)
    agents := issues.agents.sublist (less.map _) }

/-- The first request of a decision with a number of its own. -/
theorem launch (issues : Issues next inFlight issued) (entry : PendingEntry)
    (fresh : entry.timelineId = next) (typed : entry.request.Typed)
    (free : entry.agentId ∉ inFlight.map (·.agentId)) :
    Issues (next + 1) (inFlight ++ [entry]) (issued ++ [entry.request]) := by
  have unused {request : AgentRequest} (member : request ∈ issued) :
      request.id.timelineId ≠ entry.timelineId := by
    rw [fresh]
    exact (issues.below request member).ne
  refine ⟨?_, ?_, ?_, ?_, ?_, ?_, ?_⟩
  · rw [List.map_append]
    refine List.concat_eq_append ▸ issues.distinct.concat fun present => ?_
    obtain ⟨request, member, same⟩ := List.mem_map.mp present
    exact unused member (congrArg RequestId.timelineId same)
  · intro request member
    rcases List.mem_append.mp member with old | new
    · exact Nat.lt_succ_of_lt (issues.below request old)
    · rw [List.mem_singleton.mp new]
      exact Nat.lt_succ_of_le (Nat.le_of_eq fresh)
  · intro request member
    rcases List.mem_append.mp member with old | new
    · exact issues.typed request old
    · rw [List.mem_singleton.mp new]
      exact typed
  · intro other member
    rcases List.mem_append.mp member with old | new
    · exact List.mem_append_left _ (issues.flying other old)
    · rw [List.mem_singleton.mp new]
      exact List.mem_append_right _ List.mem_cons_self
  · intro other member request listed same
    rcases List.mem_append.mp member with flew | new <;> rcases List.mem_append.mp listed with old | first
    · exact issues.latest other flew request old same
    · rw [List.mem_singleton.mp first] at same
      exact absurd same.symm (unused (issues.flying other flew))
    · rw [List.mem_singleton.mp new] at same
      exact absurd same (unused old)
    · rw [List.mem_singleton.mp new, List.mem_singleton.mp first]
  · rw [List.map_append]
    refine List.concat_eq_append ▸ issues.decisions.concat fun present => ?_
    obtain ⟨other, member, same⟩ := List.mem_map.mp present
    exact unused (issues.flying other member) same
  · rw [List.map_append]
    exact List.concat_eq_append ▸ issues.agents.concat free

/-- The next attempt at a decision takes the place of the last. -/
theorem reissue {pending waiting : List PendingEntry} {entry : PendingEntry}
    (issues : Issues next (pending ++ entry :: waiting) issued)
    (more : entry.request.id.attempt < maxAttempts) (deadline : Nat) :
    Issues next (pending ++ [entry.renewed deadline] ++ waiting)
      (issued ++ [(entry.renewed deadline).request]) := by
  have listed : entry ∈ pending ++ entry :: waiting := by simp
  have held := issues.flying entry listed
  have counted : (entry.renewed deadline).request.id.attempt = entry.request.id.attempt + 1 :=
    saturatingAdd_of_le (Nat.le_trans more (by decide))
  have replaced := issues.of_perm (List.perm_middle (a := entry))
  have others {other : PendingEntry} (member : other ∈ pending ++ waiting) :
      other.timelineId ≠ entry.timelineId := by
    have apart := (List.nodup_cons.mp replaced.decisions).1
    exact fun same => apart (List.mem_map.mpr ⟨other, member, same⟩)
  have among {other : PendingEntry} (member : other ∈ pending ++ [entry.renewed deadline] ++ waiting) :
      other ∈ pending ++ waiting ∨ other = entry.renewed deadline := by
    simp only [List.mem_append, List.mem_singleton] at member ⊢
    rcases member with (old | new) | later
    · exact .inl (.inl old)
    · exact .inr new
    · exact .inl (.inr later)
  refine ⟨?_, ?_, ?_, ?_, ?_, ?_, ?_⟩
  · rw [List.map_append]
    refine List.concat_eq_append ▸ issues.distinct.concat fun present => ?_
    obtain ⟨request, member, same⟩ := List.mem_map.mp present
    have attempts := issues.latest entry listed request member
      ((congrArg RequestId.timelineId same).trans (entry.renewed_timelineId deadline))
    have equal := (congrArg RequestId.attempt same).trans counted
    omega
  · intro request member
    rcases List.mem_append.mp member with old | new
    · exact issues.below request old
    · rw [List.mem_singleton.mp new]
      exact issues.below entry.request held
  · intro request member
    rcases List.mem_append.mp member with old | new
    · exact issues.typed request old
    · rw [List.mem_singleton.mp new]
      have typed := issues.typed entry.request held
      exact ⟨typed.sourceTick, counted ▸ more, typed.deadlineTicks⟩
  · intro other member
    rcases among member with old | rfl
    · have before := replaced.flying other (List.mem_cons_of_mem entry old)
      exact List.mem_append_left _ before
    · exact List.mem_append_right _ List.mem_cons_self
  · intro other member request present same
    rcases among member with old | rfl <;> rcases List.mem_append.mp present with earlier | new
    · exact replaced.latest other (List.mem_cons_of_mem entry old) request earlier same
    · rw [List.mem_singleton.mp new] at same
      exact absurd same.symm (others old)
    · have before := issues.latest entry listed request earlier same
      exact Nat.le_trans before (counted ▸ Nat.le_succ _)
    · rw [List.mem_singleton.mp new]
  · have same : (pending ++ [entry.renewed deadline] ++ waiting).map (·.timelineId) =
        (pending ++ entry :: waiting).map (·.timelineId) := by
      simp
    rw [same]
    exact issues.decisions
  · have same : (pending ++ [entry.renewed deadline] ++ waiting).map (·.agentId) =
        (pending ++ entry :: waiting).map (·.agentId) := by
      simp
    rw [same]
    exact issues.agents

end Issues

namespace AgentRuntime

/-- The requests an operation puts in the outbox. -/
def issuedBy (runtime : AgentRuntime) (op : AgentOp) : List AgentRequest :=
  (runtime.perform op).outbox.drop runtime.outbox.length

/-- What was issued, while the `waiting` requests are being expired. -/
def Issuing (runtime : AgentRuntime) (waiting : List PendingEntry) (issued : List AgentRequest) : Prop :=
  Issues runtime.timeline.nextId (runtime.lifecycle.pending ++ waiting) issued

/-- New requests go into flight and to the end of the outbox. -/
structure Adds (before after : AgentRuntime) (new : List AgentRequest) : Prop where
  outbox : after.outbox = before.outbox ++ new
  pending : after.lifecycle.pending.map (·.request) = before.lifecycle.pending.map (·.request) ++ new
  next : after.timeline.nextId = before.timeline.nextId

theorem Adds.none (runtime : AgentRuntime) : Adds runtime runtime [] :=
  ⟨(List.append_nil _).symm, (List.append_nil _).symm, rfl⟩

theorem Adds.trans {first second third : AgentRuntime} {new more : List AgentRequest}
    (adds : Adds first second new) (then' : Adds second third more) : Adds first third (new ++ more) :=
  ⟨by rw [then'.outbox, adds.outbox, List.append_assoc],
    by rw [then'.pending, adds.pending, List.append_assoc], then'.next.trans adds.next⟩

theorem settle_nextId (timeline : DecisionTimeline) (id : TimelineId)
    (allowed : DecisionStatus → Bool) (target : String) (change : DecisionEntry → DecisionEntry) :
    (timeline.settle (timeline.transition id allowed target change)).nextId = timeline.nextId := by
  unfold DecisionTimeline.transition DecisionTimeline.settle
  cases timeline.get id with
  | none => rfl
  | some entry =>
    by_cases allow : allowed entry.status = true
    · simp only [allow, if_true]
    · simp only [allow]
      rfl

theorem recordFault_nextId (runtime : AgentRuntime) (id : TimelineId) (faultTick : Nat)
    (reason : String) :
    (runtime.recordFault id faultTick reason).1.timeline.nextId = runtime.timeline.nextId := by
  have numbered := settle_nextId runtime.timeline id
    (fun status => status.isPending || status.isExpired) "faulted" fun entry =>
      { entry with status := .faulted faultTick reason }
  unfold recordFault
  cases recorded : runtime.timeline.recordFault id faultTick reason with
  | error problem => rfl
  | ok timeline =>
    rw [DecisionTimeline.recordFault] at recorded
    rwa [recorded] at numbered

variable {runtime : AgentRuntime} {issued : List AgentRequest} {waiting : List PendingEntry}
  {entry : PendingEntry}

/-- An attempt that expired is issued again, or its decision is given up. -/
theorem Issuing.expireOne (issuing : runtime.Issuing (entry :: waiting) issued) (now : Nat)
    (outcomes : List ExpireOutcome) :
    let after := (AgentRuntime.expireOne now (runtime, outcomes)
      (RequestLifecycle.expiryOutcome now entry.request.id entry)).1
    ∃ new, runtime.Adds after new ∧ after.Issuing waiting (issued ++ new) := by
  unfold RequestLifecycle.expiryOutcome
  split
  · rename_i more
    have absent : entry.agentId ∉ runtime.lifecycle.pending.map (·.agentId) := fun present => by
      have agents := issuing.agents
      rw [List.map_append] at agents
      exact (List.nodup_append.mp agents).2.2 _ present _ (by simp) rfl
    have accepted := RequestLifecycle.tryEnqueue_of_absent
      { entry.request with id := entry.request.id.nextAttempt } now absent
    have renewed := issuing.reissue more (saturatingAdd u64Max now entry.request.deadlineTicks)
    refine ⟨[(entry.renewed (saturatingAdd u64Max now entry.request.deadlineTicks)).request], ?_, ?_⟩
    · simp only [AgentRuntime.expireOne, accepted]
      refine ⟨rfl, by rw [List.map_append]; rfl, ?_⟩
      rw [DecisionTimeline.reissue, settle_nextId, DecisionTimeline.recordExpiry, settle_nextId]
    · simp only [AgentRuntime.expireOne, accepted, Issuing]
      rw [DecisionTimeline.reissue, settle_nextId, DecisionTimeline.recordExpiry, settle_nextId]
      exact renewed
  · refine ⟨[], ?_, ?_⟩
    · simp only [AgentRuntime.expireOne]
      split
      · refine ⟨(List.append_nil _).symm, (List.append_nil _).symm, ?_⟩
        simp only
        rw [DecisionTimeline.giveUp, settle_nextId, DecisionTimeline.recordExpiry, settle_nextId]
      · exact ⟨(List.append_nil _).symm, (List.append_nil _).symm, rfl⟩
    · have dropped := issuing.of_sublist ((List.sublist_cons_self entry waiting).append_left
        runtime.lifecycle.pending)
      rw [List.append_nil]
      simp only [AgentRuntime.expireOne, Issuing]
      split
      · simp only
        rw [DecisionTimeline.giveUp, settle_nextId, DecisionTimeline.recordExpiry, settle_nextId]
        exact dropped
      · exact dropped

theorem Issuing.expireAll (gone : List PendingEntry) (issuing : runtime.Issuing gone issued) (now : Nat)
    (outcomes : List ExpireOutcome) :
    let after := ((gone.map fun entry => RequestLifecycle.expiryOutcome now entry.request.id entry).foldl
      (AgentRuntime.expireOne now) (runtime, outcomes)).1
    ∃ new, runtime.Adds after new ∧ after.Issuing [] (issued ++ new) := by
  induction gone generalizing runtime issued outcomes with
  | nil => exact ⟨[], .none runtime, by rwa [List.append_nil]⟩
  | cons entry rest ih =>
    obtain ⟨new, adds, next⟩ := issuing.expireOne now outcomes
    obtain ⟨more, later, final⟩ := ih next (AgentRuntime.expireOne now (runtime, outcomes)
      (RequestLifecycle.expiryOutcome now entry.request.id entry)).2
    refine ⟨new ++ more, adds.trans later, ?_⟩
    rw [← List.append_assoc]
    exact final

/-- The expiry pass takes the overdue requests out of flight and issues the next attempts. -/
theorem Issuing.expireOverdue (issuing : runtime.Issuing [] issued) (now : Nat) :
    ∃ gone new, gone.Perm (runtime.lifecycle.pending.filter fun entry => entry.deadlineAbs < now) ∧
      runtime.lifecycle.pending.Perm ((runtime.lifecycle.expireOverdue now).1.pending ++ gone) ∧
      Adds { runtime with lifecycle := (runtime.lifecycle.expireOverdue now).1 }
        (runtime.expireOverdue now).1 new ∧
      (runtime.expireOverdue now).1.Issuing [] (issued ++ new) := by
  have one : runtime.lifecycle.OnePerAgent := by
    have agents := issuing.agents
    rwa [List.append_nil] at agents
  obtain ⟨gone, late, pending, outcomes⟩ := RequestLifecycle.expireOverdue_spec one now
  have parts := RequestLifecycle.expireOverdue_parts late pending
  have started : Issuing
      { runtime with lifecycle := (runtime.lifecycle.expireOverdue now).1 } gone issued := by
    refine Issues.of_perm issuing ?_
    rw [List.append_nil]
    exact parts
  obtain ⟨new, adds, final⟩ := started.expireAll gone now []
  rw [← outcomes] at adds final
  exact ⟨gone, new, late, parts, adds, final⟩

theorem issuedBy_of_adds (op : AgentOp) {new : List AgentRequest}
    (outbox : (runtime.perform op).outbox = runtime.outbox ++ new) : runtime.issuedBy op = new := by
  rw [issuedBy, outbox, List.drop_left]

/-- Decisions are numbered one at a time. -/
theorem perform_nextId_le (issuing : runtime.Issuing [] issued) (op : AgentOp) :
    (runtime.perform op).timeline.nextId ≤ runtime.timeline.nextId + 1 := by
  cases op with
  | enqueueDecision agentId observationJson deadlineTicks now =>
    cases busy : runtime.lifecycle.hasPendingForAgent agentId with
    | true =>
      rw [perform_of_busy busy]
      exact Nat.le_succ _
    | false =>
      rw [perform, enqueueDecision_of_idle busy]
      exact Nat.min_le_left _ _
  | drainOutbox => exact Nat.le_succ _
  | processReply reply now =>
    simp only [perform, processReply]
    split
    · simp only [DecisionTimeline.recordReply, settle_nextId]
      exact Nat.le_succ _
    all_goals exact Nat.le_succ _
  | expireOverdue now =>
    obtain ⟨gone, new, -, -, adds, -⟩ := issuing.expireOverdue now
    exact Nat.le_succ_of_le (Nat.le_of_eq adds.next)
  | recordFault id faultTick reason => exact Nat.le_succ_of_le (Nat.le_of_eq (recordFault_nextId ..))

end AgentRuntime

/-- What a watched runtime issued is pending, applied or expired, each id once. -/
structure Watched.Accounts (watched : Watched) (issued : List AgentRequest) : Prop where
  issuing : watched.runtime.Issuing [] issued
  account : (issued.map (·.id)).Perm (watched.runtime.lifecycle.pending.map (·.request.id) ++
    (watched.applied ++ watched.expired))

namespace Watched

open AgentRuntime

variable {watched : Watched} {issued : List AgentRequest}

/-- Removing a pending request and remembering its id keeps the account. -/
theorem account_remove {pending : List PendingEntry} {entry : PendingEntry} {past : List RequestId}
    {ids : List RequestId} (keyed : (pending.map (·.request.id)).Nodup) (member : entry ∈ pending)
    (account : ids.Perm (pending.map (·.request.id) ++ past)) :
    ids.Perm ((pending.filter fun other => other.request.id ≠ entry.request.id).map (·.request.id) ++
      (past ++ [entry.request.id])) := by
  have split := (perm_cons_filter keyed member).map (·.request.id)
  refine account.trans ((split.append_right past).trans ?_)
  rw [List.map_cons, List.cons_append]
  refine (List.perm_middle.symm.trans ?_)
  exact (List.perm_append_singleton _ _).symm.append_left _

theorem Accounts.enqueueDecision (accounts : watched.Accounts issued) (agentId observationJson : String)
    {deadlineTicks now : Nat} (typed : deadlineTicks ≤ u32Max ∧ now ≤ u64Max)
    (room : watched.runtime.timeline.nextId < u64Max) :
    let op := AgentOp.enqueueDecision agentId observationJson deadlineTicks now
    (watched.perform op).Accounts (issued ++ watched.runtime.issuedBy op) := by
  intro op
  cases busy : watched.runtime.lifecycle.hasPendingForAgent agentId with
  | true =>
    have stays : watched.runtime.perform op = watched.runtime := perform_of_busy busy _ _ _
    have nothing : watched.runtime.issuedBy op = [] := by
      rw [issuedBy, stays, List.drop_length]
    have same : watched.perform op = watched := by
      rw [Watched.perform, stays]
      simp [AgentRuntime.applies, AgentRuntime.expires, op]
    rwa [nothing, List.append_nil, same]
  | false =>
    have idle := congrArg Prod.fst (enqueueDecision_of_idle busy observationJson deadlineTicks now)
    have free : agentId ∉ watched.runtime.lifecycle.pending.map (·.agentId) := fun present => by
      rw [RequestLifecycle.hasPendingForAgent_iff.mpr present] at busy
      cases busy
    have new := issuedBy_of_adds op (congrArg AgentRuntime.outbox idle)
    have counted : saturatingAdd u64Max watched.runtime.timeline.nextId 1 =
        watched.runtime.timeline.nextId + 1 := saturatingAdd_of_le room
    rw [new]
    constructor
    · have launched := Issues.launch accounts.issuing
        (inFlightFrom now (watched.runtime.firstRequest agentId observationJson deadlineTicks now))
        rfl ⟨typed.2, Nat.zero_le _, typed.1⟩ (by rwa [List.append_nil])
      change Issues (watched.runtime.perform op).timeline.nextId
        ((watched.runtime.perform op).lifecycle.pending ++ []) _
      rw [show watched.runtime.perform op = _ from idle]
      simpa [DecisionTimeline.allocate, counted, inFlightFrom] using launched
    · have account := accounts.account
      change (_ : List RequestId).Perm ((watched.runtime.perform op).lifecycle.pending.map _ ++
        ((watched.applied ++ []) ++ (watched.expired ++ [])))
      rw [show watched.runtime.perform op = _ from idle, List.append_nil, List.append_nil,
        List.map_append, List.map_append, List.append_assoc]
      refine (account.append_right _).trans ?_
      rw [List.append_assoc]
      exact List.perm_append_comm.append_left _

theorem Accounts.processReply (accounts : watched.Accounts issued) (reply : AgentReply) (now : Nat) :
    (watched.perform (.processReply reply now)).Accounts issued := by
  have keyed : (watched.runtime.lifecycle.pending.map (·.request.id)).Nodup := by
    have agents := accounts.issuing.agents
    rw [List.append_nil] at agents
    exact RequestLifecycle.OnePerAgent.ids agents
  have fewer : ((watched.runtime.lifecycle.removePending reply.id).pending ++ []).Sublist
      (watched.runtime.lifecycle.pending ++ []) := List.filter_sublist.append_right []
  have kept : Issues watched.runtime.timeline.nextId
      ((watched.runtime.lifecycle.removePending reply.id).pending ++ []) issued :=
    Issues.of_sublist accounts.issuing fewer
  rcases watched.runtime.lifecycle.drainReply_cases reply now with ⟨entry, member, same, -, result⟩ |
    ⟨entry, member, same, -, result⟩ | result | result | result
  · have removed := account_remove keyed member (accounts.account.trans
      (List.perm_append_comm.append_left _))
    constructor
    · simpa [Issuing, Watched.perform, AgentRuntime.perform, AgentRuntime.processReply, result,
        DecisionTimeline.recordReply, settle_nextId, RequestLifecycle.pushCompleted] using kept
    · refine removed.trans ?_
      simp only [Watched.perform, AgentRuntime.perform, AgentRuntime.processReply, result,
        AgentRuntime.applies, AgentRuntime.expires, RequestLifecycle.pushCompleted,
        RequestLifecycle.removePending, ← same, List.append_nil]
      refine List.Perm.append_left _ ?_
      rw [List.append_assoc]
      exact List.perm_append_comm
  · have removed := account_remove keyed member accounts.account
    have left : watched.runtime.lifecycle.left
        ((watched.runtime.lifecycle.removePending reply.id).pushExpired reply.id) =
          [entry.request.id] :=
      RequestLifecycle.Keyed.left_removed keyed member (by rw [same]; rfl)
    constructor
    · simpa [Issuing, Watched.perform, AgentRuntime.perform, AgentRuntime.processReply, result,
        RequestLifecycle.pushExpired] using kept
    · refine removed.trans ?_
      simp only [Watched.perform, AgentRuntime.perform, AgentRuntime.processReply, result,
        AgentRuntime.applies, AgentRuntime.expires, List.append_nil, left, List.append_assoc, same]
      exact List.Perm.refl _
  all_goals
    have stays : watched.runtime.lifecycle.left watched.runtime.lifecycle = [] := by
      simp [RequestLifecycle.left]
    have same : watched.perform (.processReply reply now) = watched := by
      simp [Watched.perform, AgentRuntime.perform, AgentRuntime.applies, AgentRuntime.expires,
        AgentRuntime.processReply, result, stays]
    rwa [same]

theorem Accounts.expireOverdue (accounts : watched.Accounts issued) (now : Nat) :
    (watched.perform (.expireOverdue now)).Accounts
      (issued ++ watched.runtime.issuedBy (.expireOverdue now)) := by
  obtain ⟨gone, new, late, parts, adds, final⟩ := accounts.issuing.expireOverdue now
  have issued' := issuedBy_of_adds (.expireOverdue now) adds.outbox
  rw [issued']
  refine ⟨final, ?_⟩
  have ids := congrArg (List.map fun request => request.id) adds.pending
  rw [List.map_append, List.map_map, List.map_map] at ids
  have overdue : (watched.runtime.lifecycle.overdue now).Perm (gone.map (·.request.id)) :=
    (List.perm_insertionSort _ _).trans (late.symm.map _)
  change (_ : List RequestId).Perm ((watched.runtime.expireOverdue now).1.lifecycle.pending.map
    ((fun request => request.id) ∘ fun entry => entry.request) ++
      ((watched.applied ++ []) ++ (watched.expired ++ watched.runtime.lifecycle.overdue now)))
  rw [show (watched.runtime.expireOverdue now).1.lifecycle.pending.map _ = _ from ids]
  apply List.perm_iff_count.mpr
  intro id
  have before := accounts.account.count_eq id
  have split := (parts.map (·.request.id)).count_eq id
  have expired := overdue.count_eq id
  simp only [List.map_append, List.count_append, List.append_nil, Function.comp_def] at before split expired ⊢
  omega

theorem Accounts.perform (accounts : watched.Accounts issued) (op : AgentOp) (typed : op.Typed)
    (lasts : watched.runtime.idsLast op = true) :
    (watched.perform op).Accounts (issued ++ watched.runtime.issuedBy op) := by
  cases op with
  | enqueueDecision agentId observationJson deadlineTicks now =>
    exact accounts.enqueueDecision agentId observationJson typed (by simpa [idsLast] using lasts)
  | drainOutbox =>
    have nothing : watched.runtime.issuedBy .drainOutbox = [] := List.drop_nil
    rw [nothing, List.append_nil]
    exact ⟨accounts.issuing, by
      simpa [Watched.perform, AgentRuntime.perform, AgentRuntime.drainOutbox, AgentRuntime.applies,
        AgentRuntime.expires] using accounts.account⟩
  | processReply reply now =>
    have kept : (watched.runtime.perform (.processReply reply now)).outbox = watched.runtime.outbox := by
      simp only [AgentRuntime.perform, AgentRuntime.processReply]
      split <;> rfl
    rw [issuedBy_of_adds _ (kept.trans (List.append_nil _).symm), List.append_nil]
    exact accounts.processReply reply now
  | expireOverdue now => exact accounts.expireOverdue now
  | recordFault id faultTick reason =>
    have kept : (watched.runtime.perform (.recordFault id faultTick reason)).outbox =
        watched.runtime.outbox ∧
        (watched.runtime.perform (.recordFault id faultTick reason)).lifecycle = watched.runtime.lifecycle ∧
        (watched.runtime.perform (.recordFault id faultTick reason)).timeline.nextId =
          watched.runtime.timeline.nextId := by
      have numbered := recordFault_nextId watched.runtime id faultTick reason
      refine ⟨?_, ?_, numbered⟩ <;>
      · simp only [AgentRuntime.perform, AgentRuntime.recordFault]
        split <;> rfl
    rw [issuedBy_of_adds _ (kept.1.trans (List.append_nil _).symm), List.append_nil]
    constructor
    · change Issues (watched.runtime.perform _).timeline.nextId
        ((watched.runtime.perform _).lifecycle.pending ++ []) issued
      rw [kept.2.1, kept.2.2]
      exact accounts.issuing
    · change (_ : List RequestId).Perm ((watched.runtime.perform _).lifecycle.pending.map _ ++
        ((watched.applied ++ []) ++ (watched.expired ++ [])))
      rw [kept.2.1, List.append_nil, List.append_nil]
      exact accounts.account

end Watched

end Simetro.Agent
