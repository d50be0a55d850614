import Simetro.Agent.RuntimeSync
import Simetro.Library.Fold

/-! Runs of the agent runtime, and when they keep its two machines in step. -/

namespace Simetro.Agent

open Simetro.Library Simetro.Protocol

/-- A mutator rewrites the entry where its transition is allowed. -/
theorem settle_rewrite {timeline : DecisionTimeline} {id : TimelineId}
    {allowed : DecisionStatus → Bool} {target : String} {change : DecisionEntry → DecisionEntry}
    (distinct : (timeline.entries.map (·.id)).Nodup) :
    timeline.settle (timeline.transition id allowed target change) =
      { timeline with
        entries := rewriteEntry id
          (fun entry => if allowed entry.status then change entry else entry) timeline.entries } := by
  unfold DecisionTimeline.transition DecisionTimeline.settle DecisionTimeline.get
  cases found : timeline.entries.find? fun entry => entry.id = id with
  | none =>
    have absent := List.find?_eq_none.mp found
    rw [rewriteEntry_of_absent _ fun entry member => by simpa using absent entry member]
  | some entry =>
    have hit : entry.id = id := by simpa using List.find?_some found
    have member := List.mem_of_find?_eq_some found
    have only {other : DecisionEntry} (listed : other ∈ timeline.entries) (same : other.id = id) :
        other = entry := List.inj_on_of_nodup_map distinct listed member (same.trans hit.symm)
    by_cases allow : allowed entry.status = true
    · rw [rewriteEntry_congr fun other listed same => if_pos (only listed same ▸ allow)]
      simp only [allow, if_true, updateFirst_eq_map change id distinct, rewriteEntry]
    · rw [rewriteEntry_eq_self fun other listed same => if_neg (only listed same ▸ allow)]
      simp only [allow]
      rfl

/-- A mutator whose transition is allowed rewrites the entry; an entry that is no
longer retained is left alone. -/
theorem settle_transition {timeline : DecisionTimeline} {id : TimelineId}
    {allowed : DecisionStatus → Bool} {target : String}
    {change : DecisionEntry → DecisionEntry}
    (distinct : (timeline.entries.map (·.id)).Nodup)
    (permitted : ∀ entry ∈ timeline.entries, entry.id = id → allowed entry.status = true) :
    timeline.settle (timeline.transition id allowed target change) =
      { timeline with entries := rewriteEntry id change timeline.entries } := by
  rw [settle_rewrite distinct,
    rewriteEntry_congr fun entry listed same => if_pos (permitted entry listed same)]

def PendingEntry.decision (entry : PendingEntry) : Decision := (entry.timelineId, entry.agentId)

def openFor (agentId : String) (entry : DecisionEntry) : Bool :=
  entry.agentId = agentId && !entry.status.isTerminal

inductive AgentOp where
  | enqueueDecision (agentId observationJson : String) (deadlineTicks now : Nat)
  | drainOutbox
  | processReply (reply : AgentReply) (now : Nat)
  | expireOverdue (now : Nat)
  | recordFault (id : TimelineId) (faultTick : Nat) (reason : String)

namespace AgentRuntime

def perform (runtime : AgentRuntime) : AgentOp → AgentRuntime
  | .enqueueDecision agentId observationJson deadlineTicks now =>
    (runtime.enqueueDecision agentId observationJson deadlineTicks now).1
  | .drainOutbox => runtime.drainOutbox.1
  | .processReply reply now => (runtime.processReply reply now).1
  | .expireOverdue now => (runtime.expireOverdue now).1
  | .recordFault id faultTick reason => (runtime.recordFault id faultTick reason).1

def run (runtime : AgentRuntime) (ops : List AgentOp) : AgentRuntime :=
  ops.foldl perform runtime

/-- Operations that move both machines or neither: no reply for a pending request
past its deadline while its entry is retained, no fault on an open entry, and ids
left to give out. -/
def keepsStep (runtime : AgentRuntime) : AgentOp → Bool
  | .enqueueDecision _ _ _ _ => runtime.timeline.nextId < u64Max
  | .processReply reply now =>
    (runtime.timeline.get reply.id.timelineId).isNone ||
      runtime.lifecycle.pending.all fun entry =>
        entry.request.id ≠ reply.id || now ≤ entry.deadlineAbs
  | .recordFault id _ _ => (runtime.timeline.get id).all (·.status.isTerminal)
  | .drainOutbox | .expireOverdue _ => true

/-- The two machines agree on what is open, and no agent has two open entries. -/
structure InSync (runtime : AgentRuntime) : Prop where
  open_iff : ∀ entry ∈ runtime.timeline.entries, entry.status.isTerminal = false ↔
    ∃ pending ∈ runtime.lifecycle.pending, pending.timelineId = entry.id
  one_open : ∀ agentId, runtime.timeline.entries.countP (openFor agentId) ≤ 1

/-- The machines are in step while the `waiting` decisions are being expired. -/
def Sound (runtime : AgentRuntime) (waiting : List Decision) : Prop :=
  InStep runtime.timeline.nextId (runtime.lifecycle.pending.map (·.decision) ++ waiting)
    runtime.timeline.entries

variable {runtime : AgentRuntime} {waiting : List Decision}

theorem Sound.onePerAgent (sound : runtime.Sound waiting) : runtime.lifecycle.OnePerAgent := by
  have agents := sound.agents
  rw [List.map_append, List.map_map] at agents
  exact (List.nodup_append.mp agents).1

private theorem Sound.enqueueDecision (sound : runtime.Sound []) (agentId observationJson : String)
    (deadlineTicks now : Nat) (room : runtime.timeline.nextId < u64Max) :
    (runtime.enqueueDecision agentId observationJson deadlineTicks now).1.Sound [] := by
  unfold AgentRuntime.enqueueDecision
  by_cases busy : runtime.lifecycle.hasPendingForAgent agentId = true
  · rwa [if_pos busy]
  · have absent : agentId ∉ runtime.lifecycle.pending.map (·.agentId) := fun present =>
      busy (RequestLifecycle.hasPendingForAgent_iff.mpr present)
    have free : agentId ∉ (runtime.lifecycle.pending.map PendingEntry.decision ++ []).map Prod.snd := by
      simpa [Function.comp_def, PendingEntry.decision] using absent
    have launched := InStep.launch sound free runtime.timeline.cap now
    have accepted := RequestLifecycle.tryEnqueue_of_absent
      ⟨⟨runtime.timeline.nextId, agentId, now, 0⟩, deadlineTicks, observationJson⟩ now absent
    have counted : saturatingAdd u64Max runtime.timeline.nextId 1 = runtime.timeline.nextId + 1 :=
      saturatingAdd_of_le room
    simp only [if_neg busy, DecisionTimeline.allocate, accepted]
    simpa [Sound, PendingEntry.decision, counted] using launched

private theorem Sound.processReply (sound : runtime.Sound []) (reply : AgentReply) (now : Nat)
    (inTime : runtime.timeline.get reply.id.timelineId = none ∨
      ∀ entry ∈ runtime.lifecycle.pending, entry.request.id = reply.id → now ≤ entry.deadlineAbs) :
    (runtime.processReply reply now).1.Sound [] := by
  have landing (entry : PendingEntry) (member : entry ∈ runtime.lifecycle.pending)
      (same : entry.request.id = reply.id) :
      (runtime.lifecycle.pending.map PendingEntry.decision ++ []).Perm
        ((reply.id.timelineId, entry.agentId) ::
          ((runtime.lifecycle.removePending reply.id).pending.map PendingEntry.decision ++ [])) := by
    have split := (perm_cons_filter sound.onePerAgent.ids member).map PendingEntry.decision
    simpa [PendingEntry.decision, ← same, RequestLifecycle.removePending] using split
  unfold AgentRuntime.processReply
  rcases runtime.lifecycle.drainReply_cases reply now with ⟨entry, member, same, -, result⟩ |
    ⟨entry, member, same, late, result⟩ | result | result | result
  · have flying := (landing entry member same).mem_iff.mpr List.mem_cons_self
    have permitted : ∀ row ∈ runtime.timeline.entries, row.id = reply.id.timelineId →
        row.status.isPending = true := fun row listed hit => by
      rw [InStep.pending_of_inFlight sound flying listed hit]
      rfl
    rw [result]
    simp only [DecisionTimeline.recordReply, settle_transition sound.ids permitted]
    exact InStep.land sound (fun _ => ⟨rfl, rfl⟩) (fun _ => rfl) (landing entry member same)
  · -- a late reply drops the request only, which the window must have forgotten
    rcases inTime with forgotten | inTime
    · have gone := List.find?_eq_none.mp forgotten
      rw [result]
      exact InStep.land_of_absent sound (fun row listed => by simpa using gone row listed)
        (landing entry member same)
    · exact absurd (inTime entry member same) (by omega)
  all_goals
    rw [result]
    exact sound

private theorem Sound.recordFault (sound : runtime.Sound []) (id : TimelineId) (faultTick : Nat)
    (reason : String) (gone : (runtime.timeline.get id).all (·.status.isTerminal) = true) :
    (runtime.recordFault id faultTick reason).1.Sound [] := by
  unfold AgentRuntime.recordFault DecisionTimeline.recordFault DecisionTimeline.transition
  cases found : runtime.timeline.get id with
  | none => exact sound
  | some entry =>
    have ended : entry.status.isTerminal = true := by simpa [found] using gone
    have refused : (entry.status.isPending || entry.status.isExpired) = false := by
      cases status : entry.status <;>
        simp_all [DecisionStatus.isTerminal, DecisionStatus.isPending, DecisionStatus.isExpired]
    simpa [refused] using sound

/-- Expiring a retained entry and then moving it on rewrites it once. -/
theorem expire_then {timeline : DecisionTimeline} {id : TimelineId} {now : Nat}
    {warning : Option WarningPayload} {target : String}
    {change : DecisionEntry → DecisionEntry}
    (distinct : (timeline.entries.map (·.id)).Nodup)
    (pending : ∀ entry ∈ timeline.entries, entry.id = id → entry.status = .pending)
    (expired : DecisionTimeline)
    (first : expired = timeline.settle (timeline.recordExpiry id now warning)) :
    expired.settle (expired.transition id (·.isExpired) target change) =
      { timeline with
        entries := rewriteEntry id (fun entry => change
          { entry with
            status := .expired now
            lastExpiredTick := some now
            lastWarning := warning.or entry.lastWarning }) timeline.entries } := by
  rw [DecisionTimeline.recordExpiry, settle_transition distinct
    fun entry member hit => by simp [pending entry member hit, DecisionStatus.isPending]] at first
  have expiredIds : (expired.entries.map (·.id)).Nodup := by
    rw [first]
    refine (congrArg List.Nodup (InStep.rewriteEntry_ids ?_)).mpr distinct
    exact fun _ => rfl
  rw [settle_transition expiredIds, first]
  · simp only [rewriteEntry, List.map_map]
    congr 1
    refine List.map_congr_left fun entry _ => ?_
    by_cases hit : entry.id = id <;> simp [hit]
  · rw [first]
    intro entry member hit
    obtain ⟨old, -, rfl⟩ := List.mem_map.mp member
    by_cases same : old.id = id
    · simp [same, DecisionStatus.isExpired]
    · simp [same] at hit

/-- The open entry of the agent is the one whose decision expired. -/
private theorem findPendingIdForAgent_eq {id : TimelineId} {agentId : String}
    (sound : runtime.Sound waiting)
    (flying : (id, agentId) ∈ runtime.lifecycle.pending.map PendingEntry.decision ++ waiting) :
    findPendingIdForAgent runtime.timeline agentId = some id ∨
      findPendingIdForAgent runtime.timeline agentId = none ∧
        ∀ entry ∈ runtime.timeline.entries, entry.id ≠ id := by
  unfold findPendingIdForAgent
  cases found : runtime.timeline.entries.find? fun entry => entry.agentId = agentId &&
      (entry.status.isPending || entry.status.isExpired) with
  | none =>
    refine .inr ⟨rfl, fun entry member same => ?_⟩
    have closed := List.find?_eq_none.mp found entry member
    rcases sound.matched entry member with ⟨pending, flight⟩ | ⟨-, landed⟩
    · have named := List.inj_on_of_nodup_map sound.flightIds flight flying same
      simp [pending, (Prod.mk.inj named).2, DecisionStatus.isPending] at closed
    · exact landed (List.mem_map.mpr ⟨_, flying, same.symm⟩)
  | some entry =>
    have member := List.mem_of_find?_eq_some found
    have isOpen := List.find?_some found
    rw [Bool.and_eq_true, decide_eq_true_eq] at isOpen
    rcases sound.matched entry member with ⟨-, flight⟩ | ⟨terminal, -⟩
    · have named := List.inj_on_of_nodup_map sound.agents flight flying isOpen.1
      exact .inl (congrArg some (Prod.mk.inj named).1)
    · have isOpen := isOpen.2
      cases status : entry.status <;>
        simp_all [DecisionStatus.isTerminal, DecisionStatus.isPending, DecisionStatus.isExpired]

/-- An attempt that expired is issued again or its decision lands. -/
private theorem Sound.expireOne {entry : PendingEntry}
    (sound : runtime.Sound (entry.decision :: waiting)) (now : Nat) (outcomes : List ExpireOutcome) :
    (AgentRuntime.expireOne now (runtime, outcomes)
      (RequestLifecycle.expiryOutcome now entry.request.id entry)).1.Sound waiting := by
  have flying : (entry.timelineId, entry.agentId) ∈
      runtime.lifecycle.pending.map PendingEntry.decision ++ entry.decision :: waiting := by
    simp [PendingEntry.decision]
  have pending : ∀ row ∈ runtime.timeline.entries, row.id = entry.timelineId →
      row.status = .pending := fun row member hit =>
    InStep.pending_of_inFlight sound flying member hit
  unfold RequestLifecycle.expiryOutcome
  split
  · have absent : entry.agentId ∉ runtime.lifecycle.pending.map (·.agentId) := fun present => by
      have agents := sound.agents
      rw [List.map_append, List.map_map] at agents
      exact (List.nodup_append.mp agents).2.2 _ present _ (by simp [PendingEntry.decision]) rfl
    have accepted := RequestLifecycle.tryEnqueue_of_absent
      { entry.request with id := entry.request.id.nextAttempt } now absent
    simp only [AgentRuntime.expireOne, accepted, DecisionTimeline.reissue]
    rw [show entry.request.id.nextAttempt.timelineId = entry.timelineId from rfl,
      expire_then sound.ids pending _ rfl]
    have flights : ∀ deadline, (runtime.lifecycle.pending ++ [PendingEntry.mk deadline
        { entry.request with id := entry.request.id.nextAttempt }]).map PendingEntry.decision ++
          waiting = runtime.lifecycle.pending.map PendingEntry.decision ++ entry.decision :: waiting := by
      simp [PendingEntry.decision, RequestId.nextAttempt]
    simp only [Sound, flights]
    exact InStep.refresh sound (fun _ => ⟨rfl, rfl⟩) (fun _ => rfl) flying
  · have landing : (runtime.lifecycle.pending.map PendingEntry.decision ++
        entry.decision :: waiting).Perm ((entry.timelineId, entry.agentId) ::
          (runtime.lifecycle.pending.map PendingEntry.decision ++ waiting)) :=
      List.perm_middle
    simp only [AgentRuntime.expireOne, giveUpWarning, giveUpTarget, Option.bind_some]
    rcases findPendingIdForAgent_eq sound flying with found | ⟨none, gone⟩
    · rw [found]
      simp only [DecisionTimeline.giveUp]
      rw [expire_then sound.ids pending _ rfl]
      exact InStep.land sound (fun _ => ⟨rfl, rfl⟩) (fun _ => rfl) landing
    · rw [none]
      exact InStep.land_of_absent sound gone landing

private theorem Sound.expireAll (gone : List PendingEntry) (now : Nat)
    (sound : runtime.Sound (gone.map PendingEntry.decision)) (outcomes : List ExpireOutcome) :
    ((gone.map fun entry => RequestLifecycle.expiryOutcome now entry.request.id entry).foldl
      (AgentRuntime.expireOne now) (runtime, outcomes)).1.Sound [] := by
  induction gone generalizing runtime outcomes with
  | nil => exact sound
  | cons entry rest ih => exact ih (sound.expireOne now outcomes) _

private theorem Sound.expireOverdue (sound : runtime.Sound []) (now : Nat) :
    (runtime.expireOverdue now).1.Sound [] := by
  obtain ⟨gone, late, pending, outcomes⟩ :=
    RequestLifecycle.expireOverdue_spec sound.onePerAgent now
  have parts := RequestLifecycle.expireOverdue_parts late pending
  have started : Sound { runtime with lifecycle := (runtime.lifecycle.expireOverdue now).1 }
      (gone.map PendingEntry.decision) := by
    refine InStep.of_perm sound ?_
    rw [List.append_nil, ← List.map_append]
    exact parts.map _
  have passes : runtime.expireOverdue now =
      (runtime.lifecycle.expireOverdue now).2.foldl (AgentRuntime.expireOne now)
        ({ runtime with lifecycle := (runtime.lifecycle.expireOverdue now).1 }, []) := rfl
  rw [passes, outcomes]
  exact started.expireAll gone now []

theorem Sound.perform (sound : runtime.Sound []) (op : AgentOp)
    (keeps : runtime.keepsStep op = true) : (runtime.perform op).Sound [] := by
  cases op with
  | enqueueDecision agentId observationJson deadlineTicks now =>
    exact sound.enqueueDecision agentId observationJson deadlineTicks now (by simpa [keepsStep] using keeps)
  | drainOutbox => exact sound
  | processReply reply now =>
    refine sound.processReply reply now ?_
    rcases Bool.or_eq_true_iff.mp keeps with forgotten | inTime
    · exact .inl (Option.isNone_iff_eq_none.mp forgotten)
    · refine .inr fun entry member same => ?_
      simpa [same] using List.all_eq_true.mp inTime entry member
  | expireOverdue now => exact sound.expireOverdue now
  | recordFault id faultTick reason => exact sound.recordFault id faultTick reason keeps

theorem Sound.inSync (sound : runtime.Sound []) : runtime.InSync := by
  have step : InStep runtime.timeline.nextId (runtime.lifecycle.pending.map PendingEntry.decision)
      runtime.timeline.entries := by
    simpa [Sound] using sound
  constructor
  · intro entry member
    rcases step.matched entry member with ⟨status, flying⟩ | ⟨terminal, landed⟩
    · obtain ⟨pending, present, same⟩ := List.mem_map.mp flying
      exact ⟨fun _ => ⟨pending, present, (Prod.mk.inj same).1⟩, fun _ => by rw [status]; rfl⟩
    · refine ⟨fun isOpen => by simp [terminal] at isOpen, ?_⟩
      rintro ⟨pending, present, same⟩
      exact absurd (List.mem_map.mpr ⟨_, List.mem_map.mpr ⟨pending, present, rfl⟩, same⟩) landed
  · intro agentId
    have flies : ∀ entry ∈ runtime.timeline.entries.filter (openFor agentId),
        (entry.id, agentId) ∈ runtime.lifecycle.pending.map PendingEntry.decision := by
      intro entry listed
      obtain ⟨member, isOpen⟩ := List.mem_filter.mp listed
      rw [openFor, Bool.and_eq_true, decide_eq_true_eq, Bool.not_eq_true'] at isOpen
      rcases step.matched entry member with ⟨-, flying⟩ | ⟨terminal, -⟩
      · exact isOpen.1 ▸ flying
      · simp [terminal] at isOpen
    have distinct : ((runtime.timeline.entries.filter (openFor agentId)).map (·.id)).Nodup :=
      step.ids.sublist (List.filter_sublist.map _)
    rw [List.countP_eq_length_filter]
    -- two open entries of one agent would be one decision in flight
    match shape : runtime.timeline.entries.filter (openFor agentId) with
    | [] | [_] => simp
    | first :: second :: rest =>
      rw [shape] at flies distinct
      have same := List.inj_on_of_nodup_map step.agents (flies first (by simp))
        (flies second (by simp)) rfl
      simp [(Prod.mk.inj same).1] at distinct

end AgentRuntime

/-- While every operation keeps step, an entry in the window is open exactly when its
request is pending, and an agent has at most one open entry. -/
theorem machines_in_step (runtime : AgentRuntime)
    (fresh : runtime = .new ∨ ∃ cap, runtime = .withTimelineCapacity cap)
    (ops : List AgentOp)
    (keeps : meetsThroughout AgentRuntime.perform AgentRuntime.keepsStep runtime ops = true) :
    ∀ before, before <+: ops → (runtime.run before).InSync := by
  have empty : runtime.Sound [] := by
    rcases fresh with rfl | ⟨cap, rfl⟩ <;> exact InStep.empty
  intro before reached
  have sound := meetsThroughout_invariant (AgentRuntime.Sound · [])
    (fun _ op met sound => sound.perform op met) empty keeps before reached
  exact AgentRuntime.Sound.inSync sound

/-- A decision that expires, is issued again and answered in time, and a second one. -/
def answeredInTime : List AgentOp :=
  [.enqueueDecision "dispatcher" "{}" 2 0, .drainOutbox, .expireOverdue 3,
    .processReply ⟨⟨1, "dispatcher", 0, 0⟩, none, "", 1⟩ 3,
    .processReply ⟨⟨1, "dispatcher", 0, 1⟩, none, "", 1⟩ 4,
    .enqueueDecision "dispatcher" "{}" 2 5, .recordFault 1 6 "late fault"]

theorem machines_in_step_answeredInTime :
    ((AgentRuntime.new.run answeredInTime).timeline.entries.map (·.status)) =
        [.applied 4, .pending] ∧ (AgentRuntime.new.run answeredInTime).InSync :=
  ⟨by decide +kernel,
    machines_in_step .new (.inl rfl) answeredInTime (by decide +kernel) _ (List.prefix_refl _)⟩

/-- The bridge drains a reply after its deadline and before the expiry pass. -/
def answeredTooLate : List AgentOp :=
  [.enqueueDecision "dispatcher" "{}" 2 0, .drainOutbox,
    .processReply ⟨⟨1, "dispatcher", 0, 0⟩, none, "", 1⟩ 3, .expireOverdue 3]

/-- A fault is recorded while the request is in flight. -/
def faultedInFlight : List AgentOp :=
  [.enqueueDecision "dispatcher" "{}" 2 0, .drainOutbox, .recordFault 1 1 "parse failure"]

/-- The late reply leaves an open entry without a request, the fault a request
without an open entry. -/
theorem machines_drift : ¬ (AgentRuntime.new.run answeredTooLate).InSync ∧
    ¬ (AgentRuntime.new.run faultedInFlight).InSync := by
  have lost : (AgentRuntime.new.run answeredTooLate).timeline.entries.map (·.status) = [.pending] ∧
      (AgentRuntime.new.run answeredTooLate).lifecycle.pending = [] := by
    decide +kernel
  have kept : (AgentRuntime.new.run faultedInFlight).timeline.entries.map
        (fun entry => (entry.id, entry.status.isTerminal)) = [(1, true)] ∧
      (AgentRuntime.new.run faultedInFlight).lifecycle.pending.map (·.timelineId) = [1] := by
    decide +kernel
  constructor
  · intro sync
    obtain ⟨entry, member, status⟩ := List.mem_map.mp
      (lost.1 ▸ List.mem_singleton.mpr rfl :
        DecisionStatus.pending ∈ (AgentRuntime.new.run answeredTooLate).timeline.entries.map (·.status))
    obtain ⟨pending, present, -⟩ := (sync.open_iff entry member).mp (by rw [status]; rfl)
    simp [lost.2] at present
  · intro sync
    obtain ⟨entry, member, row⟩ := List.mem_map.mp
      (kept.1 ▸ List.mem_singleton.mpr rfl :
        (1, true) ∈ (AgentRuntime.new.run faultedInFlight).timeline.entries.map
          (fun entry => (entry.id, entry.status.isTerminal)))
    obtain ⟨pending, present, flying⟩ := List.mem_map.mp
      (kept.2 ▸ List.mem_singleton.mpr rfl :
        1 ∈ (AgentRuntime.new.run faultedInFlight).lifecycle.pending.map (·.timelineId))
    obtain ⟨named, terminal⟩ := Prod.mk.inj row
    have isOpen := (sync.open_iff entry member).mpr ⟨pending, present, flying.trans named.symm⟩
    simp [terminal] at isOpen

end Simetro.Agent
