import Simetro.Agent.RuntimeRuns

/-! The attempts of a decision: how its requests are numbered, how many there are, and until when
each may be answered. -/

namespace Simetro.Agent

open Simetro.Library Simetro.Protocol

/-- A request put in the outbox, and the tick of it. -/
structure Issue where
  request : AgentRequest
  issuedAt : Nat

/-- The tick up to which the request may be answered. -/
def Issue.deadline (issue : Issue) : Nat :=
  saturatingAdd u64Max issue.issuedAt issue.request.deadlineTicks

abbrev Issue.timelineId (issue : Issue) : Nat := issue.request.id.timelineId

abbrev Issue.attempt (issue : Issue) : Nat := issue.request.id.attempt

/-- The attempts of one decision, in the order of their requests. -/
def attemptsOf (id : Nat) (issued : List Issue) : List Nat :=
  (issued.filter fun issue => issue.timelineId = id).map (·.attempt)

/-- The decisions asked for. -/
def decisionCount (issued : List Issue) : Nat := issued.countP fun issue => issue.attempt = 0

theorem decisionCount_le_append (first second : List Issue) :
    decisionCount first ≤ decisionCount (first ++ second) := by
  rw [decisionCount, decisionCount, List.countP_append]
  exact Nat.le_add_right _ _

theorem attemptsOf_append (id : Nat) (issued : List Issue) (issue : Issue) :
    attemptsOf id (issued ++ [issue]) =
      if issue.timelineId = id then attemptsOf id issued ++ [issue.attempt]
      else attemptsOf id issued := by
  unfold attemptsOf
  by_cases same : issue.timelineId = id
  · simp [List.filter_append, same]
  · simp [List.filter_append, same]

theorem attemptsOf_own (issued : List Issue) (issue : Issue) :
    attemptsOf issue.timelineId (issued ++ [issue]) =
      attemptsOf issue.timelineId issued ++ [issue.attempt] := by
  rw [attemptsOf_append, if_pos rfl]

theorem attemptsOf_other {id : Nat} {issue : Issue} (other : issue.timelineId ≠ id)
    (issued : List Issue) : attemptsOf id (issued ++ [issue]) = attemptsOf id issued := by
  rw [attemptsOf_append, if_neg other]

theorem attemptsOf_eq_nil {id : Nat} {issued : List Issue}
    (unknown : ∀ issue ∈ issued, issue.timelineId ≠ id) : attemptsOf id issued = [] := by
  rw [attemptsOf, List.filter_eq_nil_iff.mpr fun issue member => by simpa using unknown issue member]
  rfl

theorem attemptsOf_ne_nil {id : Nat} {issued : List Issue} (asked : attemptsOf id issued ≠ []) :
    ∃ issue ∈ issued, issue.timelineId = id := by
  by_contra none
  push Not at none
  exact asked (attemptsOf_eq_nil none)

/-- One more request, with the deadline of its decision's earlier ones. -/
theorem alike_append {issued : List Issue} {new : Issue}
    (alike : ∀ first ∈ issued, ∀ second ∈ issued, first.timelineId = second.timelineId →
      first.request.deadlineTicks = second.request.deadlineTicks)
    (joins : ∀ issue ∈ issued, issue.timelineId = new.timelineId →
      issue.request.deadlineTicks = new.request.deadlineTicks) :
    ∀ first ∈ issued ++ [new], ∀ second ∈ issued ++ [new], first.timelineId = second.timelineId →
      first.request.deadlineTicks = second.request.deadlineTicks := by
  intro first member second memberToo same
  rcases List.mem_append.mp member with old | added <;>
    rcases List.mem_append.mp memberToo with oldToo | addedToo
  · exact alike first old second oldToo same
  · obtain rfl := List.mem_singleton.mp addedToo
    exact joins first old same
  · obtain rfl := List.mem_singleton.mp added
    exact (joins second oldToo same.symm).symm
  · rw [List.mem_singleton.mp added, List.mem_singleton.mp addedToo]

/-- The books over the requests of a run: attempts counted from zero, every request in flight the
latest of its decision, and every retained entry counting them. -/
structure Booked (issued : List Issue) (inFlight : List PendingEntry) (timeline : DecisionTimeline) :
    Prop where
  agents : (inFlight.map (·.agentId)).Nodup
  flights : (inFlight.map (·.timelineId)).Nodup
  ids : (timeline.entries.map (·.id)).Nodup
  next : timeline.nextId = saturatingAdd u64Max (decisionCount issued) 1
  known : ∀ issue ∈ issued, issue.timelineId ≤ decisionCount issued
  alike : ∀ first ∈ issued, ∀ second ∈ issued, first.timelineId = second.timelineId →
    first.request.deadlineTicks = second.request.deadlineTicks
  ordered : ∀ id, attemptsOf id issued = List.range (attemptsOf id issued).length
  bounded : ∀ id, (attemptsOf id issued).length ≤ maxAttempts + 1
  latest : ∀ pending ∈ inFlight, (∃ issue ∈ issued, issue.request = pending.request ∧
    issue.deadline = pending.deadlineAbs) ∧
    (attemptsOf pending.timelineId issued).length = pending.request.id.attempt + 1
  counted : ∀ entry ∈ timeline.entries, 0 < entry.attempts ∧
    entry.attempts = (attemptsOf entry.id issued).length
  flying : ∀ entry ∈ timeline.entries, ∀ pending ∈ inFlight, pending.timelineId = entry.id →
    entry.status = .pending ∧ entry.agentId = pending.agentId

namespace Booked

variable {issued : List Issue} {inFlight rest : List PendingEntry} {timeline : DecisionTimeline}

theorem start (cap : Nat) : Booked [] [] (.withCapacity cap) :=
  ⟨by simp, by simp, by simp [DecisionTimeline.withCapacity], rfl, by simp, by simp, fun _ => rfl,
    fun _ => Nat.zero_le _, by simp, by simp [DecisionTimeline.withCapacity],
    by simp [DecisionTimeline.withCapacity]⟩

theorem of_perm (booked : Booked issued inFlight timeline) (same : inFlight.Perm rest) :
    Booked issued rest timeline :=
  { booked with
    agents := (same.map _).nodup_iff.mp booked.agents
    flights := (same.map _).nodup_iff.mp booked.flights
    latest := fun pending member => booked.latest pending (same.mem_iff.mpr member)
    flying := fun entry listed pending member =>
      booked.flying entry listed pending (same.mem_iff.mpr member) }

theorem of_sublist (booked : Booked issued inFlight timeline) (fewer : rest.Sublist inFlight) :
    Booked issued rest timeline :=
  { booked with
    agents := booked.agents.sublist (fewer.map _)
    flights := booked.flights.sublist (fewer.map _)
    latest := fun pending member => booked.latest pending (fewer.subset member)
    flying := fun entry listed pending member =>
      booked.flying entry listed pending (fewer.subset member) }

/-- The entry of a decision that is not in flight may change its status. -/
theorem rewrite (booked : Booked issued inFlight timeline) {id : TimelineId}
    {change : DecisionEntry → DecisionEntry} (landed : id ∉ inFlight.map (·.timelineId))
    (keeps : ∀ entry, (change entry).id = entry.id ∧ (change entry).attempts = entry.attempts) :
    Booked issued inFlight { timeline with entries := rewriteEntry id change timeline.entries } := by
  refine { booked with ids := ?_, counted := ?_, flying := ?_ }
  · rw [InStep.rewriteEntry_ids fun entry => (keeps entry).1]
    exact booked.ids
  · intro entry member
    obtain ⟨old, listed, rfl⟩ := List.mem_map.mp member
    have counted := booked.counted old listed
    by_cases hit : old.id = id
    · simpa [hit, keeps] using counted
    · simpa [hit] using counted
  · intro entry member pending flying same
    obtain ⟨old, listed, rfl⟩ := List.mem_map.mp member
    by_cases hit : old.id = id
    · rw [if_pos hit, (keeps old).1, hit] at same
      exact absurd (List.mem_map.mpr ⟨pending, flying, same⟩) landed
    · rw [if_neg hit] at same ⊢
      exact booked.flying old listed pending flying same

theorem known_of_attempts (booked : Booked issued inFlight timeline) {id : Nat}
    (asked : 0 < (attemptsOf id issued).length) : id ≤ decisionCount issued := by
  obtain ⟨issue, member, same⟩ := attemptsOf_ne_nil (List.ne_nil_of_length_pos asked)
  exact same ▸ booked.known issue member

theorem known_pending (booked : Booked issued inFlight timeline) {pending : PendingEntry}
    (member : pending ∈ inFlight) : pending.timelineId ≤ decisionCount issued :=
  booked.known_of_attempts (by rw [(booked.latest pending member).2]; exact Nat.succ_pos _)

theorem known_entry (booked : Booked issued inFlight timeline) {entry : DecisionEntry}
    (member : entry ∈ timeline.entries) : entry.id ≤ decisionCount issued := by
  obtain ⟨positive, counted⟩ := booked.counted entry member
  exact booked.known_of_attempts (counted ▸ positive)

section Append

variable (booked : Booked issued inFlight timeline) {new : Issue}
include booked

theorem known_append (within : new.timelineId ≤ decisionCount (issued ++ [new])) :
    ∀ issue ∈ issued ++ [new], issue.timelineId ≤ decisionCount (issued ++ [new]) := by
  intro issue member
  rcases List.mem_append.mp member with old | added
  · exact Nat.le_trans (booked.known issue old) (decisionCount_le_append issued [new])
  · rw [List.mem_singleton.mp added]
    exact within

/-- A request of another decision leaves a flight and a row as they were booked. -/
theorem latest_append {pending : PendingEntry} (member : pending ∈ inFlight)
    (other : new.timelineId ≠ pending.timelineId) :
    (∃ issue ∈ issued ++ [new], issue.request = pending.request ∧
      issue.deadline = pending.deadlineAbs) ∧
    (attemptsOf pending.timelineId (issued ++ [new])).length = pending.request.id.attempt + 1 := by
  obtain ⟨⟨issue, listed, same⟩, length⟩ := booked.latest pending member
  rw [attemptsOf_other other]
  exact ⟨⟨issue, List.mem_append_left _ listed, same⟩, length⟩

theorem counted_append {entry : DecisionEntry} (member : entry ∈ timeline.entries)
    (other : new.timelineId ≠ entry.id) :
    0 < entry.attempts ∧ entry.attempts = (attemptsOf entry.id (issued ++ [new])).length := by
  rw [attemptsOf_other other]
  exact booked.counted entry member

variable (numbered : new.attempt = (attemptsOf new.timelineId issued).length)
include numbered

theorem ordered_append (id : Nat) :
    attemptsOf id (issued ++ [new]) = List.range (attemptsOf id (issued ++ [new])).length := by
  by_cases own : new.timelineId = id
  · rw [← own, attemptsOf_own, List.length_append, List.length_singleton, List.range_succ,
      ← booked.ordered, numbered]
  · rw [attemptsOf_other own]
    exact booked.ordered id

theorem bounded_append (room : new.attempt ≤ maxAttempts) (id : Nat) :
    (attemptsOf id (issued ++ [new])).length ≤ maxAttempts + 1 := by
  by_cases own : new.timelineId = id
  · rw [← own, attemptsOf_own, List.length_append, List.length_singleton, ← numbered]
    exact Nat.succ_le_succ room
  · rw [attemptsOf_other own]
    exact booked.bounded id

omit booked in
theorem latest_new {pending : PendingEntry} (same : new.request = pending.request)
    (due : new.deadline = pending.deadlineAbs) :
    (∃ issue ∈ issued ++ [new], issue.request = pending.request ∧
      issue.deadline = pending.deadlineAbs) ∧
    (attemptsOf pending.timelineId (issued ++ [new])).length = pending.request.id.attempt + 1 := by
  have own : pending.timelineId = new.timelineId := by rw [PendingEntry.timelineId, ← same]
  refine ⟨⟨new, List.mem_append_right _ (List.mem_singleton_self new), same, due⟩, ?_⟩
  rw [own, attemptsOf_own, List.length_append, List.length_singleton, ← numbered, ← same]

end Append

/-- A fresh decision under a new id. -/
theorem launch (booked : Booked issued inFlight timeline) (room : decisionCount issued < u64Max)
    {agentId : String} (free : agentId ∉ inFlight.map (·.agentId)) {request : AgentRequest} {now : Nat}
    (named : request.id = ⟨timeline.nextId, agentId, now, 0⟩) :
    Booked (issued ++ [⟨request, now⟩])
      (inFlight ++ [⟨saturatingAdd u64Max now request.deadlineTicks, request⟩])
      (timeline.allocate now agentId).1 := by
  have next : timeline.nextId = decisionCount issued + 1 :=
    booked.next.trans (saturatingAdd_of_le room)
  have first : (Issue.mk request now).attempt = 0 := congrArg RequestId.attempt named
  have own : (Issue.mk request now).timelineId = timeline.nextId := congrArg RequestId.timelineId named
  have total : decisionCount (issued ++ [⟨request, now⟩]) = timeline.nextId := by
    simp [decisionCount, first, next]
  have unused {id : Nat} (known : id ≤ decisionCount issued) :
      (Issue.mk request now).timelineId ≠ id := by omega
  have numbered : (Issue.mk request now).attempt =
      (attemptsOf (Issue.mk request now).timelineId issued).length := by
    rw [first, attemptsOf_eq_nil fun issue member same => unused (booked.known issue member) same.symm]
    rfl
  have recent := pushRing_sublist timeline.cap timeline.entries
    { id := timeline.nextId, sourceTick := now, agentId }
  refine
    { agents := ?_
      flights := ?_
      ids := ?_
      next := by rw [total]; rfl
      known := booked.known_append (by rw [own, total])
      alike := alike_append booked.alike fun issue member same =>
        absurd same.symm (unused (booked.known issue member))
      ordered := booked.ordered_append numbered
      bounded := booked.bounded_append numbered (by rw [first]; exact Nat.zero_le _)
      latest := ?_
      counted := ?_
      flying := ?_ }
  · rw [List.map_append, List.map_singleton, PendingEntry.agentId, named]
    exact List.concat_eq_append ▸ booked.agents.concat free
  · rw [List.map_append, List.map_singleton]
    refine List.concat_eq_append ▸ booked.flights.concat fun present => ?_
    obtain ⟨pending, member, same⟩ := List.mem_map.mp present
    exact unused (booked.known_pending member) same.symm
  · refine List.Nodup.sublist (recent.map _) ?_
    rw [List.map_append, List.map_singleton, ← own]
    refine List.concat_eq_append ▸ booked.ids.concat fun present => ?_
    obtain ⟨entry, member, same⟩ := List.mem_map.mp present
    exact unused (booked.known_entry member) same.symm
  · intro pending member
    rcases List.mem_append.mp member with old | new
    · exact booked.latest_append old (unused (booked.known_pending old))
    · rw [List.mem_singleton.mp new]
      exact latest_new numbered rfl rfl
  · intro entry member
    rcases List.mem_append.mp (recent.subset member) with old | new
    · exact booked.counted_append old (unused (booked.known_entry old))
    · rw [List.mem_singleton.mp new, ← own, attemptsOf_own, List.length_append, ← numbered, first]
      exact ⟨Nat.one_pos, rfl⟩
  · intro entry listed pending member same
    rcases List.mem_append.mp (recent.subset listed) with oldEntry | newEntry <;>
      rcases List.mem_append.mp member with old | new
    · exact booked.flying entry oldEntry pending old same
    · rw [List.mem_singleton.mp new] at same
      exact absurd same (unused (booked.known_entry oldEntry))
    · rw [List.mem_singleton.mp newEntry, ← own] at same
      exact absurd same.symm (unused (booked.known_pending old))
    · rw [List.mem_singleton.mp newEntry, List.mem_singleton.mp new, PendingEntry.agentId, named]
      exact ⟨rfl, rfl⟩

/-- The other requests in flight are of other decisions. -/
theorem others {pending waiting : List PendingEntry} {entry other : PendingEntry}
    (booked : Booked issued (pending ++ entry :: waiting) timeline) (member : other ∈ pending ++ waiting) :
    other ∈ pending ++ entry :: waiting ∧ entry.timelineId ≠ other.timelineId := by
  have front : (pending ++ entry :: waiting).Perm (entry :: (pending ++ waiting)) := List.perm_middle
  have distinct := (front.map PendingEntry.timelineId).nodup_iff.mp booked.flights
  refine ⟨front.mem_iff.mpr (List.mem_cons_of_mem _ member), fun same => ?_⟩
  exact (List.nodup_cons.mp distinct).1 (List.mem_map.mpr ⟨other, member, same.symm⟩)

/-- An expired attempt that is issued again, under the next number and with a deadline of its
own. -/
theorem reissue {pending waiting : List PendingEntry} {entry : PendingEntry}
    (booked : Booked issued (pending ++ entry :: waiting) timeline) (moved : PendingEntry)
    (more : entry.request.id.attempt < maxAttempts) {change : DecisionEntry → DecisionEntry}
    (keeps : ∀ row, (change row).id = row.id ∧ (change row).agentId = row.agentId)
    (counts : ∀ row, (change row).attempts = saturatingAdd u32Max row.attempts 1)
    (pends : ∀ row, (change row).status = .pending)
    (again : moved.request.id = entry.request.id.nextAttempt)
    (kept : moved.request.deadlineTicks = entry.request.deadlineTicks) {now : Nat}
    (due : moved.deadlineAbs = saturatingAdd u64Max now moved.request.deadlineTicks) :
    Booked (issued ++ [⟨moved.request, now⟩]) (pending ++ [moved] ++ waiting)
      { timeline with entries := rewriteEntry entry.timelineId change timeline.entries } := by
  have flying : entry ∈ pending ++ entry :: waiting := by simp
  obtain ⟨⟨last, listed, request, -⟩, length⟩ := booked.latest entry flying
  have own : moved.timelineId = entry.timelineId := (congrArg RequestId.timelineId again).trans rfl
  have agent : moved.agentId = entry.agentId := (congrArg RequestId.agentId again).trans rfl
  have number : (Issue.mk moved.request now).attempt = entry.request.id.attempt + 1 := by
    rw [Issue.attempt, again]
    exact saturatingAdd_of_le (Nat.le_trans (Nat.succ_le_of_lt more) (by decide))
  have numbered : (Issue.mk moved.request now).attempt =
      (attemptsOf (Issue.mk moved.request now).timelineId issued).length :=
    (number.trans length.symm).trans (congrArg (fun id => (attemptsOf id issued).length) own.symm)
  have total : decisionCount (issued ++ [⟨moved.request, now⟩]) = decisionCount issued := by
    simp [decisionCount, number]
  have agents : (pending ++ [moved] ++ waiting).map (·.agentId) =
      (pending ++ entry :: waiting).map (·.agentId) := by
    simp [agent]
  have flights : (pending ++ [moved] ++ waiting).map (·.timelineId) =
      (pending ++ entry :: waiting).map (·.timelineId) := by
    simp [own]
  have split {other : PendingEntry} (member : other ∈ pending ++ [moved] ++ waiting) :
      other = moved ∨ other ∈ pending ++ waiting := by
    simpa [or_left_comm] using member
  have span {issue : Issue} (member : issue ∈ issued) (same : issue.timelineId = entry.timelineId) :
      issue.request.deadlineTicks = moved.request.deadlineTicks := by
    rw [kept, ← request]
    exact booked.alike issue member last listed (same.trans (by rw [Issue.timelineId, request]))
  refine
    { agents := agents ▸ booked.agents
      flights := flights ▸ booked.flights
      ids := ?_
      next := by rw [total]; exact booked.next
      known := booked.known_append (total ▸ Nat.le_trans (Nat.le_of_eq own) (booked.known_pending flying))
      alike := alike_append booked.alike fun issue member same => span member (same.trans own)
      ordered := booked.ordered_append numbered
      bounded := booked.bounded_append numbered (number ▸ more)
      latest := ?_
      counted := ?_
      flying := ?_ }
  · rw [InStep.rewriteEntry_ids fun row => (keeps row).1]
    exact booked.ids
  · intro other member
    rcases split member with rfl | old
    · exact latest_new numbered rfl due.symm
    · exact booked.latest_append (booked.others old).1 fun same =>
        (booked.others old).2 (own.symm.trans same)
  · intro row member
    obtain ⟨old, listed, rfl⟩ := List.mem_map.mp member
    by_cases hit : old.id = entry.timelineId
    · have small : entry.request.id.attempt + 1 + 1 ≤ u32Max :=
        Nat.le_trans (Nat.add_le_add_right (Nat.succ_le_of_lt more) 1) (by decide)
      have tracked : old.attempts = entry.request.id.attempt + 1 := by
        rw [(booked.counted old listed).2, hit, length]
      rw [if_pos hit, (keeps old).1, counts, tracked, saturatingAdd_of_le small, hit, ← own]
      refine ⟨Nat.succ_pos _, ?_⟩
      rw [show moved.timelineId = (Issue.mk moved.request now).timelineId from rfl, attemptsOf_own,
        List.length_append, List.length_singleton, ← numbered, number]
    · rw [if_neg hit]
      exact booked.counted_append listed fun same => hit (same.symm.trans own)
  · intro row member other present same
    obtain ⟨old, listed, rfl⟩ := List.mem_map.mp member
    by_cases hit : old.id = entry.timelineId
    · rw [if_pos hit] at same ⊢
      rw [(keeps old).1, hit] at same
      rcases split present with rfl | old
      · rw [pends, (keeps _).2, agent]
        exact ⟨rfl, (booked.flying _ listed entry flying hit.symm).2⟩
      · exact absurd same.symm (booked.others old).2
    · rw [if_neg hit] at same ⊢
      rcases split present with rfl | old
      · exact absurd (same.symm.trans own) hit
      · exact booked.flying _ listed other (booked.others old).1 same

end Booked

end Simetro.Agent
