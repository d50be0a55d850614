import Simetro.Agent.AttemptRuns

/-! Which decision a give-up names. The message carries the agent alone, so the runtime takes
the agent's first open entry, which is the request's own only while no other is open. -/

namespace Simetro.Agent

open Simetro.Library Simetro.Protocol

/-- The decisions the window retains, oldest first. -/
def retained (timeline : DecisionTimeline) : List Decision :=
  timeline.entries.map fun entry => (entry.id, entry.agentId)

/-- Decisions are numbered in the order they are made: the window keeps that order, and what is
in flight for an agent is its latest decision. -/
structure Numbered (next : Nat) (inFlight kept : List Decision) : Prop where
  started : 0 < next
  ordered : (kept.map (·.1)).Pairwise (· < ·)
  issued : ∀ decision ∈ kept, decision.1 < next
  agents : (inFlight.map (·.2)).Nodup
  flying : ∀ decision ∈ inFlight, 0 < decision.1 ∧ decision.1 < next
  own : ∀ decision ∈ kept, ∀ flight ∈ inFlight, decision.1 = flight.1 → decision.2 = flight.2
  latest : ∀ decision ∈ kept, ∀ flight ∈ inFlight, decision.2 = flight.2 → decision.1 ≤ flight.1

namespace Numbered

variable {next : Nat} {inFlight fewer kept recent : List Decision} {agentId : String}

theorem start : Numbered 1 [] [] :=
  ⟨Nat.one_pos, by simp, by simp, by simp, by simp, by simp, by simp⟩

theorem of_perm (numbered : Numbered next inFlight kept) (same : inFlight.Perm fewer) :
    Numbered next fewer kept :=
  { numbered with
    agents := (same.map _).nodup_iff.mp numbered.agents
    flying := fun flight member => numbered.flying flight (same.mem_iff.mpr member)
    own := fun decision listed flight member => numbered.own decision listed flight (same.mem_iff.mpr member)
    latest := fun decision listed flight member =>
      numbered.latest decision listed flight (same.mem_iff.mpr member) }

theorem of_sublist (numbered : Numbered next inFlight kept) (less : fewer.Sublist inFlight) :
    Numbered next fewer kept :=
  { numbered with
    agents := numbered.agents.sublist (less.map _)
    flying := fun flight member => numbered.flying flight (less.subset member)
    own := fun decision listed flight member => numbered.own decision listed flight (less.subset member)
    latest := fun decision listed flight member =>
      numbered.latest decision listed flight (less.subset member) }

/-- The next decision takes off, and the window may forget for it. -/
theorem launch (numbered : Numbered next inFlight kept) (free : agentId ∉ inFlight.map (·.2))
    (forgets : recent.Sublist (kept ++ [(next, agentId)])) :
    Numbered (next + 1) (inFlight ++ [(next, agentId)]) recent := by
  have among {decision : Decision} (member : decision ∈ recent) :
      decision ∈ kept ∨ decision = (next, agentId) := by
    simpa using forgets.subset member
  refine ⟨Nat.succ_pos _, ?_, ?_, ?_, ?_, ?_, ?_⟩
  · refine List.Pairwise.sublist (forgets.map _) ?_
    rw [List.map_append, List.pairwise_append]
    refine ⟨numbered.ordered, by simp, ?_⟩
    intro earlier listed last only
    obtain ⟨decision, member, rfl⟩ := List.mem_map.mp listed
    rw [List.mem_singleton.mp only]
    exact numbered.issued decision member
  · intro decision member
    rcases among member with old | rfl
    · exact Nat.lt_succ_of_lt (numbered.issued decision old)
    · exact Nat.lt_succ_self next
  · rw [List.map_append]
    exact List.concat_eq_append ▸ numbered.agents.concat free
  · intro flight member
    rcases List.mem_append.mp member with old | new
    · obtain ⟨positive, below⟩ := numbered.flying flight old
      exact ⟨positive, Nat.lt_succ_of_lt below⟩
    · rw [List.mem_singleton.mp new]
      exact ⟨numbered.started, Nat.lt_succ_self next⟩
  · intro decision listed flight member same
    rcases among listed with old | rfl <;> rcases List.mem_append.mp member with flew | new
    · exact numbered.own decision old flight flew same
    · rw [List.mem_singleton.mp new] at same
      exact absurd same (numbered.issued decision old).ne
    · exact absurd same.symm (numbered.flying flight flew).2.ne
    · rw [List.mem_singleton.mp new]
  · intro decision listed flight member same
    rcases among listed with old | rfl <;> rcases List.mem_append.mp member with flew | new
    · exact numbered.latest decision old flight flew same
    · rw [List.mem_singleton.mp new]
      exact (numbered.issued decision old).le
    · exact absurd (List.mem_map.mpr ⟨flight, flew, same.symm⟩) free
    · rw [List.mem_singleton.mp new]

end Numbered

/-- The agent's entries in the window. -/
def entriesOf (agentId : String) (timeline : DecisionTimeline) : List DecisionEntry :=
  timeline.entries.filter fun entry => entry.agentId = agentId

theorem isOpen_eq (status : DecisionStatus) :
    (status.isPending || status.isExpired) = !status.isTerminal := by
  cases status <;> rfl

section Window

variable {timeline : DecisionTimeline} {agentId : String} {id : TimelineId}
  {change : DecisionEntry → DecisionEntry}

/-- The search reads the agent's entries alone. -/
theorem findPending_entriesOf : AgentRuntime.findPendingIdForAgent timeline agentId =
    ((entriesOf agentId timeline).find? fun entry => !entry.status.isTerminal).map (·.id) := by
  unfold AgentRuntime.findPendingIdForAgent entriesOf
  simp only [isOpen_eq, List.find?_filter]
  congr 2
  funext entry
  simp

theorem entriesOf_rewrite (keeps : ∀ entry, (change entry).agentId = entry.agentId)
    (entries : List DecisionEntry) :
    (rewriteEntry id change entries).filter (fun entry => entry.agentId = agentId) =
      rewriteEntry id change (entries.filter fun entry => entry.agentId = agentId) := by
  unfold rewriteEntry
  rw [List.filter_map]
  congr 1
  refine List.filter_congr fun entry _ => ?_
  by_cases hit : entry.id = id <;> simp [hit, keeps]

variable {next : Nat} {inFlight : List Decision}

theorem Numbered.entryIds (numbered : Numbered next inFlight (retained timeline)) :
    (timeline.entries.map (·.id)).Pairwise (· < ·) := by
  have ordered := numbered.ordered
  rwa [retained, List.map_map] at ordered

theorem Numbered.distinct (numbered : Numbered next inFlight (retained timeline)) :
    (timeline.entries.map (·.id)).Nodup :=
  numbered.entryIds.imp fun less => less.ne

/-- The search finds the decision in flight exactly where it is the agent's only open entry. -/
theorem findPending_iff_only (numbered : Numbered next inFlight (retained timeline))
    (flying : (id, agentId) ∈ inFlight) :
    AgentRuntime.findPendingIdForAgent timeline agentId = some id ↔
      (timeline.entries.filter (openFor agentId)).map (·.id) = [id] := by
  have search : AgentRuntime.findPendingIdForAgent timeline agentId =
      ((timeline.entries.filter (openFor agentId)).map (·.id)).head? := by
    rw [List.head?_map, List.head?_filter]
    simp only [AgentRuntime.findPendingIdForAgent, isOpen_eq]
    rfl
  have ordered : ((timeline.entries.filter (openFor agentId)).map (·.id)).Pairwise (· < ·) :=
    numbered.entryIds.sublist (List.filter_sublist.map _)
  have bounded : ∀ number ∈ (timeline.entries.filter (openFor agentId)).map (·.id), number ≤ id := by
    intro number listed
    obtain ⟨entry, member, rfl⟩ := List.mem_map.mp listed
    obtain ⟨present, isOpen⟩ := List.mem_filter.mp member
    have mine : entry.agentId = agentId := by
      rw [openFor, Bool.and_eq_true, decide_eq_true_eq] at isOpen
      exact isOpen.1
    exact numbered.latest (entry.id, entry.agentId) (List.mem_map.mpr ⟨entry, present, rfl⟩) _ flying mine
  rw [search]
  generalize (timeline.entries.filter (openFor agentId)).map (·.id) = numbers at ordered bounded
  cases numbers with
  | nil => simp
  | cons first rest =>
    constructor
    · intro found
      obtain rfl := Option.some.inj found
      -- a later open entry would be past the latest decision
      have alone : rest = [] := by
        apply List.eq_nil_iff_forall_not_mem.mpr
        intro later member
        have past := (List.pairwise_cons.mp ordered).1 later member
        exact absurd (bounded later (List.mem_cons_of_mem _ member)) (Nat.not_le.mpr past)
      rw [alone]
    · intro only
      rw [only]
      rfl

end Window

/-- The mutations of a give-up: an open entry expires and is given up, any other is left. -/
def abandon (now : Nat) (warning : Option WarningPayload) (entry : DecisionEntry) : DecisionEntry :=
  let expired := if entry.status.isPending then
      { entry with
        status := .expired now
        lastExpiredTick := some now
        lastWarning := warning.or entry.lastWarning }
    else entry
  if expired.status.isExpired then
    { expired with status := .gaveUp now, lastWarning := warning.or expired.lastWarning }
  else expired

theorem abandon_keeps (now : Nat) (warning : Option WarningPayload) (entry : DecisionEntry) :
    (abandon now warning entry).id = entry.id ∧ (abandon now warning entry).agentId = entry.agentId := by
  cases status : entry.status <;>
    simp [abandon, status, DecisionStatus.isPending, DecisionStatus.isExpired]

theorem abandon_closes (now : Nat) (warning : Option WarningPayload) {entry : DecisionEntry}
    (isOpen : entry.status.isTerminal = false) :
    (abandon now warning entry).status = .gaveUp now := by
  unfold abandon
  cases status : entry.status with
  | pending => rfl
  | expired tick => simp [status, DecisionStatus.isPending, DecisionStatus.isExpired]
  | applied | gaveUp | faulted =>
    rw [status] at isOpen
    cases isOpen

theorem rewriteEntry_rewriteEntry {id : TimelineId} {first second : DecisionEntry → DecisionEntry}
    (keeps : ∀ entry, (first entry).id = entry.id) (entries : List DecisionEntry) :
    rewriteEntry id second (rewriteEntry id first entries) =
      rewriteEntry id (fun entry => second (first entry)) entries := by
  rw [rewriteEntry, rewriteEntry, rewriteEntry, List.map_map]
  refine List.map_congr_left fun entry _ => ?_
  by_cases hit : entry.id = id <;> simp [hit, keeps]

/-- A mutation of the entry with this id, if it is retained. -/
structure Mutates (id : TimelineId) (before after : DecisionTimeline) : Prop where
  kept : retained after = retained before
  next : after.nextId = before.nextId
  others : ∀ agentId, (∀ decision ∈ retained before, decision.1 = id → decision.2 ≠ agentId) →
    entriesOf agentId after = entriesOf agentId before

namespace Mutates

variable {id : TimelineId} {before after final : DecisionTimeline}

theorem trans (first : Mutates id before after) (second : Mutates id after final) :
    Mutates id before final where
  kept := second.kept.trans first.kept
  next := second.next.trans first.next
  others agentId apart :=
    (second.others agentId (by rwa [first.kept])).trans (first.others agentId apart)

theorem ids (mutates : Mutates id before after) (distinct : ((retained before).map (·.1)).Nodup) :
    ((retained after).map (·.1)).Nodup := by
  rwa [mutates.kept]

end Mutates

namespace AgentRuntime

section Mutators

variable {timeline : DecisionTimeline} (distinct : ((retained timeline).map (·.1)).Nodup)
  (id : TimelineId) (now : Nat) (warning : Option WarningPayload)
include distinct

theorem settle_mutates {allowed : DecisionStatus → Bool} {target : String}
    {change : DecisionEntry → DecisionEntry}
    (keeps : ∀ entry, (change entry).id = entry.id ∧ (change entry).agentId = entry.agentId) :
    Mutates id timeline (timeline.settle (timeline.transition id allowed target change)) := by
  rw [retained, List.map_map] at distinct
  rw [settle_rewrite distinct]
  have keepsBoth (entry : DecisionEntry) :
      (if allowed entry.status then change entry else entry).id = entry.id ∧
        (if allowed entry.status then change entry else entry).agentId = entry.agentId := by
    split
    · exact keeps entry
    · exact ⟨rfl, rfl⟩
  refine ⟨?_, rfl, ?_⟩
  · unfold retained rewriteEntry
    rw [List.map_map]
    refine List.map_congr_left fun entry _ => ?_
    by_cases hit : entry.id = id
    · simp [hit, keepsBoth]
    · simp [hit]
  · intro agentId apart
    refine (entriesOf_rewrite (fun entry => (keepsBoth entry).2) _).trans ?_
    refine rewriteEntry_of_absent _ fun entry member same => ?_
    obtain ⟨present, mine⟩ := List.mem_filter.mp member
    exact apart (entry.id, entry.agentId) (List.mem_map.mpr ⟨entry, present, rfl⟩) same
      (by simpa using mine)

theorem recordExpiry_mutates :
    Mutates id timeline (timeline.settle (timeline.recordExpiry id now warning)) :=
  settle_mutates distinct id fun _ => ⟨rfl, rfl⟩

theorem reissue_mutates : Mutates id timeline (timeline.settle (timeline.reissue id)) :=
  settle_mutates distinct id fun _ => ⟨rfl, rfl⟩

theorem giveUp_mutates : Mutates id timeline (timeline.settle (timeline.giveUp id now warning)) :=
  settle_mutates distinct id fun _ => ⟨rfl, rfl⟩

theorem recordReply_mutates (response : DecisionResponse) :
    Mutates id timeline (timeline.settle (timeline.recordReply id now response)) :=
  settle_mutates distinct id fun _ => ⟨rfl, rfl⟩

theorem recordFault_mutates (reason : String) :
    Mutates id timeline (timeline.settle (timeline.recordFault id now reason)) :=
  settle_mutates distinct id fun _ => ⟨rfl, rfl⟩

end Mutators

variable {runtime : AgentRuntime} {waiting : List Decision} {entry : PendingEntry}

/-- Decisions are numbered while the `waiting` ones are being expired. -/
def Numbers (runtime : AgentRuntime) (waiting : List Decision) : Prop :=
  Numbered runtime.timeline.nextId (runtime.lifecycle.pending.map (·.decision) ++ waiting)
    (retained runtime.timeline)

theorem Numbers.onePerAgent (numbers : runtime.Numbers waiting) : runtime.lifecycle.OnePerAgent := by
  have agents := numbers.agents
  rw [List.map_append, List.map_map] at agents
  exact (List.nodup_append.mp agents).1

/-- The decision a give-up of the agent names. -/
def target (timeline : DecisionTimeline) (agentId : String) : TimelineId :=
  (findPendingIdForAgent timeline agentId).getD 0

/-- The id and the message of a give-up. -/
def gaveUp : ExpireOutcome → Option (TimelineId × SimMessage)
  | .gaveUp id message => some (id, message)
  | .reissued _ _ => none

/-- The attempt was the last. -/
def isLast (entry : PendingEntry) : Bool := !goesOn entry

theorem giveUp_entries {timeline : DecisionTimeline} (distinct : (timeline.entries.map (·.id)).Nodup)
    (id : TimelineId) (now : Nat) (warning : Option WarningPayload) :
    let first := timeline.settle (timeline.recordExpiry id now warning)
    (first.settle (first.giveUp id now warning)).entries =
      rewriteEntry id (abandon now warning) timeline.entries := by
  intro first
  have expires : first.entries = rewriteEntry id _ timeline.entries :=
    congrArg DecisionTimeline.entries (settle_rewrite distinct)
  have distinctToo : (first.entries.map (·.id)).Nodup := by
    rw [expires, InStep.rewriteEntry_ids]
    · exact distinct
    · intro entry
      split <;> rfl
  rw [DecisionTimeline.giveUp, settle_rewrite distinctToo, expires, rewriteEntry_rewriteEntry]
  · rfl
  · intro entry
    split <;> rfl

/-- What one expired attempt makes of the runtime. -/
structure Expires (now : Nat) (entry : PendingEntry) (before after : AgentRuntime × List ExpireOutcome) :
    Prop where
  kept : retained after.1.timeline = retained before.1.timeline
  next : after.1.timeline.nextId = before.1.timeline.nextId
  pending : (after.1.lifecycle.pending.map (·.decision)).Sublist
    (before.1.lifecycle.pending.map (·.decision) ++ [entry.decision])
  others : ∀ agentId, agentId ≠ entry.agentId →
    entriesOf agentId after.1.timeline = entriesOf agentId before.1.timeline
  named : after.2.filterMap gaveUp = before.2.filterMap gaveUp ++
    if isLast entry then [(target before.1.timeline entry.agentId, giveUpWarning entry.request.id)] else []
  closed : isLast entry = true → ∀ id, findPendingIdForAgent before.1.timeline entry.agentId = some id →
    entriesOf entry.agentId after.1.timeline =
      rewriteEntry id (abandon now (warningPayload (giveUpWarning entry.request.id)))
        (entriesOf entry.agentId before.1.timeline)

theorem Numbers.ids (numbers : runtime.Numbers waiting) :
    ((retained runtime.timeline).map (·.1)).Nodup := numbers.ordered.imp fun less => less.ne

theorem expireOne_again (numbers : runtime.Numbers (entry.decision :: waiting)) (now : Nat)
    (outcomes : List ExpireOutcome) (more : entry.request.id.attempt < maxAttempts) :
    Expires now entry (runtime, outcomes)
      (expireOne now (runtime, outcomes) (.reissue
        { entry.request with id := entry.request.id.nextAttempt } (staleWarning entry.request.id now))) := by
  have absent : entry.agentId ∉ runtime.lifecycle.pending.map (·.agentId) := fun present => by
    have agents := numbers.agents
    rw [List.map_append, List.map_map] at agents
    exact (List.nodup_append.mp agents).2.2 _ present _ (by simp [PendingEntry.decision]) rfl
  have accepted := RequestLifecycle.tryEnqueue_of_absent
    { entry.request with id := entry.request.id.nextAttempt } now absent
  have goes : isLast entry = false := by simp [isLast, goesOn, more]
  have expires := recordExpiry_mutates numbers.ids entry.timelineId now
    (warningPayload (staleWarning entry.request.id now))
  have mutates := expires.trans (reissue_mutates (expires.ids numbers.ids) entry.timelineId)
  simp only [expireOne, accepted]
  refine ⟨mutates.kept, mutates.next, ?_, ?_, ?_, ?_⟩
  · simp [PendingEntry.decision, RequestId.nextAttempt]
  · intro agentId other
    apply mutates.others
    intro decision listed same mine
    exact other (mine.symm.trans (numbers.own decision listed entry.decision (by simp) same))
  · simp [gaveUp, goes]
  · intro last
    rw [goes] at last
    cases last

theorem expireOne_last (numbers : runtime.Numbers (entry.decision :: waiting)) (now : Nat)
    (outcomes : List ExpireOutcome) (last : isLast entry = true) :
    Expires now entry (runtime, outcomes)
      (expireOne now (runtime, outcomes) (.giveUp (giveUpWarning entry.request.id))) := by
  have distinct := Numbered.distinct numbers
  simp only [expireOne, giveUpTarget, giveUpWarning, Option.bind_some]
  cases found : findPendingIdForAgent runtime.timeline entry.request.id.agentId with
  | none =>
    refine ⟨rfl, rfl, List.sublist_append_left _ _, fun _ _ => rfl, ?_, ?_⟩
    · simp [gaveUp, last, target, found]
      rfl
    · intro _ id named
      rw [found] at named
      cases named
  | some id =>
    obtain ⟨row, located, rfl⟩ := Option.map_eq_some_iff.mp found
    have member := List.mem_of_find?_eq_some located
    have mine := List.find?_some located
    rw [Bool.and_eq_true, decide_eq_true_eq] at mine
    have changed := giveUp_entries distinct row.id now (warningPayload (giveUpWarning entry.request.id))
    have expires := recordExpiry_mutates numbers.ids row.id now
      (warningPayload (giveUpWarning entry.request.id))
    have mutates := expires.trans (giveUp_mutates (expires.ids numbers.ids) row.id now
      (warningPayload (giveUpWarning entry.request.id)))
    refine ⟨mutates.kept, mutates.next, List.sublist_append_left _ _, ?_, ?_, ?_⟩
    · intro agentId other
      apply mutates.others
      intro decision listed same owned
      obtain ⟨held, present, rfl⟩ := List.mem_map.mp listed
      obtain rfl := List.inj_on_of_nodup_map distinct present member same
      exact other (owned.symm.trans mine.1)
    · simp [gaveUp, last, target, found]
      rfl
    · intro _ id named
      obtain rfl := Option.some.inj (found.symm.trans named)
      refine (congrArg (List.filter fun row => row.agentId = entry.agentId) changed).trans ?_
      exact entriesOf_rewrite (fun row => (abandon_keeps _ _ row).2) _

theorem expireOne_expires (numbers : runtime.Numbers (entry.decision :: waiting)) (now : Nat)
    (outcomes : List ExpireOutcome) : Expires now entry (runtime, outcomes)
      (expireOne now (runtime, outcomes)
        (RequestLifecycle.expiryOutcome now entry.request.id entry)) := by
  unfold RequestLifecycle.expiryOutcome
  split
  · rename_i more
    exact expireOne_again numbers now outcomes more
  · rename_i last
    exact expireOne_last numbers now outcomes (by simpa [isLast, goesOn] using last)

theorem Expires.numbers {now : Nat} {before after : AgentRuntime × List ExpireOutcome}
    (expires : Expires now entry before after) (numbers : before.1.Numbers (entry.decision :: waiting)) :
    after.1.Numbers waiting := by
  unfold Numbers at numbers ⊢
  rw [expires.kept, expires.next]
  refine numbers.of_sublist ?_
  have less := expires.pending.append_right waiting
  rwa [List.append_assoc] at less

theorem target_congr {first second : DecisionTimeline} {agentId : String}
    (same : entriesOf agentId first = entriesOf agentId second) :
    findPendingIdForAgent first agentId = findPendingIdForAgent second agentId := by
  rw [findPending_entriesOf, findPending_entriesOf, same]

/-- What the expiry of the overdue requests makes of the runtime. -/
structure ExpiresAll (now : Nat) (gone : List PendingEntry)
    (before after : AgentRuntime × List ExpireOutcome) : Prop where
  numbers : after.1.Numbers []
  others : ∀ agentId, agentId ∉ gone.map (·.agentId) →
    entriesOf agentId after.1.timeline = entriesOf agentId before.1.timeline
  named : after.2.filterMap gaveUp = before.2.filterMap gaveUp ++
    (gone.filter isLast).map fun entry =>
      (target before.1.timeline entry.agentId, giveUpWarning entry.request.id)
  closed : ∀ entry ∈ gone, isLast entry = true → ∀ id,
    findPendingIdForAgent before.1.timeline entry.agentId = some id →
    entriesOf entry.agentId after.1.timeline =
      rewriteEntry id (abandon now (warningPayload (giveUpWarning entry.request.id)))
        (entriesOf entry.agentId before.1.timeline)

theorem expireAll_expires (now : Nat) (gone : List PendingEntry)
    (numbers : runtime.Numbers (gone.map (·.decision))) (outcomes : List ExpireOutcome) :
    ExpiresAll now gone (runtime, outcomes)
      ((gone.map fun entry => RequestLifecycle.expiryOutcome now entry.request.id entry).foldl
        (expireOne now) (runtime, outcomes)) := by
  induction gone generalizing runtime outcomes with
  | nil => exact ⟨numbers, fun _ _ => rfl, by simp, by simp⟩
  | cons entry rest ih =>
    have expires := expireOne_expires numbers now outcomes
    have later := ih (expires.numbers numbers)
      (expireOne now (runtime, outcomes) (RequestLifecycle.expiryOutcome now entry.request.id entry)).2
    have apart : entry.agentId ∉ rest.map (·.agentId) := by
      have agents := numbers.agents
      rw [List.map_append] at agents
      have waiting := (List.nodup_append.mp agents).2.1
      rw [List.map_cons, List.map_cons, List.map_map] at waiting
      exact (List.nodup_cons.mp waiting).1
    have unlike {other : PendingEntry} (member : other ∈ rest) : other.agentId ≠ entry.agentId :=
      fun same => apart (List.mem_map.mpr ⟨other, member, same⟩)
    rw [List.map_cons, List.foldl_cons]
    refine ⟨later.numbers, ?_, ?_, ?_⟩
    · intro agentId absent
      rw [List.map_cons, List.mem_cons, not_or] at absent
      exact (later.others agentId absent.2).trans (expires.others agentId absent.1)
    · refine later.named.trans ?_
      rw [expires.named, List.append_assoc]
      have unmoved : (rest.filter isLast).map (fun other =>
          (target (expireOne now (runtime, outcomes)
            (RequestLifecycle.expiryOutcome now entry.request.id entry)).1.timeline other.agentId,
              giveUpWarning other.request.id)) =
            (rest.filter isLast).map fun other =>
              (target runtime.timeline other.agentId, giveUpWarning other.request.id) := by
        refine List.map_congr_left fun other listed => ?_
        have member := (List.mem_filter.mp listed).1
        rw [target, target, target_congr (expires.others _ (unlike member))]
      rw [unmoved]
      cases last : isLast entry with
      | true => simp [last]
      | false => simp [last]
    · intro other member last id found
      rcases List.mem_cons.mp member with rfl | listed
      · exact (later.others _ apart).trans (expires.closed last id found)
      · have before := expires.others _ (unlike listed)
        rw [later.closed other listed last id ((target_congr before).trans found), before]

/-- The overdue requests on their last attempt. -/
def exhausted (runtime : AgentRuntime) (now : Nat) : List PendingEntry :=
  runtime.lifecycle.pending.filter fun entry => decide (entry.deadlineAbs < now) && isLast entry

/-- The give-ups of an expiry pass: each names the decision whose attempts ran out, whose
entry, if it is retained, is given up, and no other entry of the agent changes. -/
structure GivesUpOwn (runtime : AgentRuntime) (now : Nat) : Prop where
  named : ((runtime.expireOverdue now).2.filterMap gaveUp).Perm
    ((runtime.exhausted now).map fun entry => (entry.timelineId, giveUpWarning entry.request.id))
  closes : ∀ entry ∈ runtime.exhausted now, ∀ row ∈ runtime.timeline.entries,
    row.id = entry.timelineId →
    ((runtime.expireOverdue now).1.timeline.get row.id).map (·.status) = some (.gaveUp now)
  spares : ∀ entry ∈ runtime.exhausted now, ∀ row ∈ runtime.timeline.entries,
    row.agentId = entry.agentId → row.id ≠ entry.timelineId →
    (runtime.expireOverdue now).1.timeline.get row.id = some row

/-- Every decision about to be given up is retained and its agent's only open one. -/
def onlyOpen (runtime : AgentRuntime) (now : Nat) : Bool :=
  (runtime.exhausted now).all fun entry =>
    (runtime.timeline.entries.filter (openFor entry.agentId)).map (·.id) == [entry.timelineId]

theorem expireOverdue_expires (numbers : runtime.Numbers []) (now : Nat) :
    ∃ gone, gone.Perm (runtime.lifecycle.pending.filter fun entry => entry.deadlineAbs < now) ∧
      ExpiresAll now gone (runtime, []) (runtime.expireOverdue now) := by
  obtain ⟨gone, late, pending, outcomes⟩ :=
    RequestLifecycle.expireOverdue_spec numbers.onePerAgent now
  have parts := RequestLifecycle.expireOverdue_parts late pending
  have started : Numbers { runtime with lifecycle := (runtime.lifecycle.expireOverdue now).1 }
      (gone.map (·.decision)) := by
    refine numbers.of_perm ?_
    rw [List.append_nil, ← List.map_append]
    exact parts.map _
  have expires := expireAll_expires now gone started []
  have passes : runtime.expireOverdue now =
      (runtime.lifecycle.expireOverdue now).2.foldl (expireOne now)
        ({ runtime with lifecycle := (runtime.lifecycle.expireOverdue now).1 }, []) := rfl
  rw [passes, outcomes]
  exact ⟨gone, late, expires.numbers, expires.others, expires.named, expires.closed⟩

section Exhausted

variable {now : Nat} {gone : List PendingEntry} {after : AgentRuntime × List ExpireOutcome}

theorem exhausted_inFlight (member : entry ∈ runtime.exhausted now) :
    entry.decision ∈ runtime.lifecycle.pending.map (·.decision) ++ [] := by
  rw [List.append_nil]
  exact List.mem_map.mpr ⟨entry, (List.mem_filter.mp member).1, rfl⟩

theorem onlyOpen_iff (numbers : runtime.Numbers []) : runtime.onlyOpen now = true ↔
    ∀ entry ∈ runtime.exhausted now,
      findPendingIdForAgent runtime.timeline entry.agentId = some entry.timelineId := by
  rw [onlyOpen, List.all_eq_true]
  refine forall₂_congr fun entry member => ?_
  rw [beq_iff_eq]
  exact (findPending_iff_only numbers (exhausted_inFlight member)).symm

theorem exhausted_perm
    (late : gone.Perm (runtime.lifecycle.pending.filter fun entry => entry.deadlineAbs < now)) :
    (gone.filter isLast).Perm (runtime.exhausted now) := by
  have kept := late.filter isLast
  rw [List.filter_filter] at kept
  refine kept.trans (List.Perm.of_eq (List.filter_congr fun entry _ => ?_))
  rw [Bool.and_comm]

/-- Where the give-ups name their own decisions, each agent's search finds the one. -/
theorem found_of_named (numbers : runtime.Numbers [])
    (named : ((runtime.exhausted now).map fun entry =>
      (target runtime.timeline entry.agentId, giveUpWarning entry.request.id)).Perm
        ((runtime.exhausted now).map fun entry => (entry.timelineId, giveUpWarning entry.request.id)))
    (member : entry ∈ runtime.exhausted now) :
    findPendingIdForAgent runtime.timeline entry.agentId = some entry.timelineId := by
  obtain ⟨other, listed, same⟩ := List.mem_map.mp
    (named.mem_iff.mp (List.mem_map.mpr ⟨entry, member, rfl⟩))
  obtain ⟨numbered, warned⟩ := Prod.mk.inj same
  -- the message names the agent, and the agent has one request in flight
  have agent : other.agentId = entry.agentId := by
    unfold giveUpWarning at warned
    injection warned with warned
    injection warned
  obtain rfl := List.inj_on_of_nodup_map numbers.onePerAgent (List.mem_filter.mp listed).1
    (List.mem_filter.mp member).1 agent
  have positive : 0 < other.timelineId := (numbers.flying _ (exhausted_inFlight member)).1
  unfold target at numbered
  cases found : findPendingIdForAgent runtime.timeline other.agentId with
  | none =>
    rw [found] at numbered
    exact absurd numbered positive.ne'
  | some id =>
    rw [found] at numbered
    exact congrArg some numbered.symm

/-- An entry of an agent that gives up is still there: given up if the search finds it, or as it
was. -/
theorem ExpiresAll.rewritten (expires : ExpiresAll now gone (runtime, []) after)
    (gaveUp : entry ∈ gone.filter isLast) {id : TimelineId}
    (found : findPendingIdForAgent runtime.timeline entry.agentId = some id) {row : DecisionEntry}
    (listed : row ∈ entriesOf entry.agentId runtime.timeline) :
    let changed := if row.id = id then
      abandon now (warningPayload (giveUpWarning entry.request.id)) row else row
    after.1.timeline.get changed.id = some changed := by
  intro changed
  obtain ⟨present, last⟩ := List.mem_filter.mp gaveUp
  have placed : changed ∈ entriesOf entry.agentId after.1.timeline := by
    rw [expires.closed entry present last id found, rewriteEntry]
    exact List.mem_map.mpr ⟨row, listed, rfl⟩
  exact find?_of_mem (Numbered.distinct expires.numbers) (List.mem_filter.mp placed).1

theorem isOpen_of_found (distinct : (runtime.timeline.entries.map (·.id)).Nodup)
    {agentId : String} {row : DecisionEntry} (listed : row ∈ runtime.timeline.entries)
    (found : findPendingIdForAgent runtime.timeline agentId = some row.id) :
    row.status.isTerminal = false := by
  obtain ⟨first, located, same⟩ := Option.map_eq_some_iff.mp (findPending_entriesOf ▸ found)
  have present := (List.mem_filter.mp (List.mem_of_find?_eq_some located)).1
  obtain rfl := List.inj_on_of_nodup_map distinct present listed same
  simpa using List.find?_some located

end Exhausted

theorem givesUpOwn_iff (numbers : runtime.Numbers []) (now : Nat) :
    runtime.GivesUpOwn now ↔ runtime.onlyOpen now = true := by
  obtain ⟨gone, late, expires⟩ := expireOverdue_expires numbers now
  have lasting := exhausted_perm late
  have named : ((runtime.expireOverdue now).2.filterMap gaveUp).Perm
      ((runtime.exhausted now).map fun entry =>
        (target runtime.timeline entry.agentId, giveUpWarning entry.request.id)) := by
    rw [expires.named]
    exact lasting.map _
  rw [onlyOpen_iff numbers]
  constructor
  · exact fun own entry member => found_of_named numbers (named.symm.trans own.named) member
  · intro found
    have rewritten {entry : PendingEntry} (member : entry ∈ runtime.exhausted now)
        {row : DecisionEntry} (listed : row ∈ runtime.timeline.entries)
        (mine : row.agentId = entry.agentId) :=
      expires.rewritten (lasting.mem_iff.mpr member) (found entry member)
        (List.mem_filter.mpr ⟨listed, by simpa using mine⟩)
    refine ⟨?_, ?_, ?_⟩
    · refine named.trans (List.Perm.of_eq (List.map_congr_left fun entry member => ?_))
      rw [target, found entry member]
      rfl
    · intro entry member row listed same
      have mine : row.agentId = entry.agentId := numbers.own (row.id, row.agentId)
        (List.mem_map.mpr ⟨row, listed, rfl⟩) _ (exhausted_inFlight member) same
      have isOpen := isOpen_of_found (Numbered.distinct numbers) listed (same ▸ found entry member)
      have kept := rewritten member listed mine
      rw [if_pos same] at kept
      rw [← (abandon_keeps now _ row).1, kept, Option.map_some, abandon_closes now _ isOpen]
    · intro entry member row listed mine other
      have kept := rewritten member listed mine
      rwa [if_neg other] at kept

/-- A fresh decision gets a number of its own. -/
def idsLast (runtime : AgentRuntime) : AgentOp → Bool
  | .enqueueDecision _ _ _ _ => runtime.timeline.nextId < u64Max
  | _ => true

/-- An expiry pass gives up decisions that are their agents' only open ones. -/
def givesUpClearly (runtime : AgentRuntime) : AgentOp → Bool
  | .expireOverdue now => runtime.onlyOpen now
  | _ => true

theorem Mutates.numbers {id : TimelineId} {timeline : DecisionTimeline} {lifecycle : RequestLifecycle}
    {outbox : List AgentRequest} (numbers : runtime.Numbers [])
    (mutates : Mutates id runtime.timeline timeline)
    (less : lifecycle.pending.Sublist runtime.lifecycle.pending) :
    Numbers ⟨timeline, lifecycle, outbox⟩ [] := by
  unfold Numbers at numbers ⊢
  rw [mutates.kept, mutates.next]
  exact numbers.of_sublist ((less.map _).append_right _)

theorem enqueueDecision_numbers (numbers : runtime.Numbers []) (agentId observationJson : String)
    (deadlineTicks now : Nat) (room : runtime.timeline.nextId < u64Max) :
    (runtime.perform (.enqueueDecision agentId observationJson deadlineTicks now)).Numbers [] := by
  cases busy : runtime.lifecycle.hasPendingForAgent agentId with
  | true => rwa [perform_of_busy busy]
  | false =>
    have absent : agentId ∉ runtime.lifecycle.pending.map (·.agentId) := fun present => by
      rw [RequestLifecycle.hasPendingForAgent_iff.mpr present] at busy
      cases busy
    have free : agentId ∉ (runtime.lifecycle.pending.map PendingEntry.decision ++ []).map Prod.snd := by
      simpa [Function.comp_def, PendingEntry.decision] using absent
    have forgets := (pushRing_sublist runtime.timeline.cap runtime.timeline.entries
      { id := runtime.timeline.nextId, sourceTick := now, agentId }).map fun entry =>
        (entry.id, entry.agentId)
    rw [List.map_append] at forgets
    have launched := Numbered.launch numbers free forgets
    have counted : saturatingAdd u64Max runtime.timeline.nextId 1 = runtime.timeline.nextId + 1 :=
      saturatingAdd_of_le room
    rw [perform, enqueueDecision_of_idle busy]
    simpa [Numbers, PendingEntry.decision, counted, DecisionTimeline.allocate, retained, firstRequest,
      inFlightFrom] using launched

theorem processReply_numbers (numbers : runtime.Numbers []) (reply : AgentReply) (now : Nat) :
    (runtime.processReply reply now).1.Numbers [] := by
  have fewer : (runtime.lifecycle.removePending reply.id).pending.Sublist runtime.lifecycle.pending :=
    List.filter_sublist
  unfold processReply
  rcases runtime.lifecycle.drainReply_cases reply now with ⟨entry, member, same, -, result⟩ |
    ⟨entry, member, same, -, result⟩ | result | result | result
  · rw [result]
    exact Mutates.numbers numbers (recordReply_mutates numbers.ids _ _ _) fewer
  · rw [result]
    exact numbers.of_sublist ((fewer.map _).append_right _)
  all_goals
    rw [result]
    exact numbers

theorem recordFault_numbers (numbers : runtime.Numbers []) (id : TimelineId) (faultTick : Nat)
    (reason : String) : (runtime.recordFault id faultTick reason).1.Numbers [] := by
  have mutates := recordFault_mutates numbers.ids id faultTick reason
  unfold recordFault
  cases recorded : runtime.timeline.recordFault id faultTick reason with
  | error problem => exact numbers
  | ok timeline =>
    rw [recorded] at mutates
    exact Mutates.numbers numbers mutates (List.Sublist.refl _)

theorem perform_numbers (numbers : runtime.Numbers []) (op : AgentOp)
    (lasts : runtime.idsLast op = true) : (runtime.perform op).Numbers [] := by
  cases op with
  | enqueueDecision agentId observationJson deadlineTicks now =>
    exact enqueueDecision_numbers numbers agentId observationJson deadlineTicks now
      (by simpa [idsLast] using lasts)
  | drainOutbox => exact numbers
  | processReply reply now => exact processReply_numbers numbers reply now
  | expireOverdue now =>
    obtain ⟨gone, -, expires⟩ := expireOverdue_expires numbers now
    exact expires.numbers
  | recordFault id faultTick reason => exact recordFault_numbers numbers id faultTick reason

end AgentRuntime

/-- While decisions get numbers of their own, every give-up of a run names its own decision
exactly where every decision given up was retained and its agent's only open one: none
forgotten, none faulted from outside, and none left open by a late reply. -/
theorem givesUpOwn_throughout (runtime : AgentRuntime)
    (fresh : runtime = .new ∨ ∃ cap, runtime = .withTimelineCapacity cap) (ops : List AgentOp)
    (lasting : meetsThroughout AgentRuntime.perform AgentRuntime.idsLast runtime ops = true) :
    (∀ earlier now, earlier ++ [.expireOverdue now] <+: ops →
        (runtime.run earlier).GivesUpOwn now) ↔
      meetsThroughout AgentRuntime.perform AgentRuntime.givesUpClearly runtime ops = true := by
  have empty : runtime.Numbers [] := by
    rcases fresh with rfl | ⟨cap, rfl⟩ <;> exact Numbered.start
  have numbers := meetsThroughout_invariant (AgentRuntime.Numbers · [])
    (fun _ op lasts numbers => AgentRuntime.perform_numbers numbers op lasts) empty lasting
  rw [meetsThroughout_iff]
  constructor
  · intro own earlier op reached
    cases op with
    | expireOverdue now =>
      have before := numbers earlier ((List.prefix_append _ _).trans reached)
      exact (AgentRuntime.givesUpOwn_iff before now).mp (own earlier now reached)
    | enqueueDecision | drainOutbox | processReply | recordFault => rfl
  · intro clear earlier now reached
    have before := numbers earlier ((List.prefix_append _ _).trans reached)
    exact (AgentRuntime.givesUpOwn_iff before now).mpr (clear earlier (.expireOverdue now) reached)

theorem givesUpOwn_neverAnswered : (AgentRuntime.new.run (neverAnswered.take 4)).GivesUpOwn 9 :=
  (givesUpOwn_throughout .new (.inl rfl) neverAnswered (by decide +kernel)).mpr (by decide +kernel)
    (neverAnswered.take 4) 9 (List.prefix_refl _)

/-- A late reply leaves the first decision open without a request, and the second one is never
answered. -/
def answeredLateThenNever : List AgentOp :=
  [.enqueueDecision "dispatcher" "{}" 2 0, .drainOutbox,
    .processReply ⟨⟨1, "dispatcher", 0, 0⟩, none, "", 1⟩ 3,
    .enqueueDecision "dispatcher" "{}" 2 4, .expireOverdue 7, .expireOverdue 10]

/-- The give-up of the second decision names the first. -/
theorem gaveUp_another :
    ¬ (AgentRuntime.new.run answeredLateThenNever).GivesUpOwn 13 := by
  intro own
  have ids := own.named.map (·.1)
  have lists : (((AgentRuntime.new.run answeredLateThenNever).expireOverdue 13).2.filterMap
        AgentRuntime.gaveUp).map (·.1) = [1] ∧
      (((AgentRuntime.new.run answeredLateThenNever).exhausted 13).map fun entry =>
        (entry.timelineId, giveUpWarning entry.request.id)).map (·.1) = [2] := by
    decide +kernel
  rw [lists.1, lists.2] at ids
  simpa using ids.mem_iff.mp (List.mem_singleton.mpr rfl)

end Simetro.Agent
