import Mathlib.Data.List.Forall2
import Simetro.Library.Fold
import Simetro.Protocol.DecisionTimeline

/-! The mutators of the timeline statement by statement, and what every run of them keeps. -/

namespace Simetro.Protocol

open Simetro.Library

/-- A body that works on `&mut self` and may return early. -/
abbrev Mutation (α : Type) := EStateM DecisionTimelineError DecisionTimeline α

namespace Mutators

/-- The reference is to the first entry with the id; no assignment changes an id. -/
def entryMut (id : TimelineId) : Mutation DecisionEntry := do
  let timeline ← get
  match timeline.get id with
  | none => throw (.unknown id (timeline.wasEvicted id))
  | some entry => return entry

def assign (id : TimelineId) (write : DecisionEntry → DecisionEntry) : Mutation Unit :=
  modify fun timeline =>
    { timeline with entries := updateFirst (fun entry => entry.id = id) write timeline.entries }

def refuse (bad : Bool) (error : DecisionTimelineError) : Mutation Unit :=
  if bad then throw error else return ()

def allocate (sourceTick : Nat) (agentId : String) : Mutation TimelineId := do
  let id := (← get).nextId
  modify fun timeline => { timeline with nextId := saturatingAdd u64Max timeline.nextId 1 }
  if (← get).cap ≤ (← get).entries.length then
    modify fun timeline => { timeline with entries := timeline.entries.tail }
  modify fun timeline => { timeline with entries := timeline.entries ++ [{ id, sourceTick, agentId }] }
  return id

def recordReply (id : TimelineId) (appliedTick : Nat) (response : DecisionResponse) :
    Mutation Unit := do
  let entry ← entryMut id
  refuse (!entry.status.isPending) (.illegalTransition id entry.status.statusName "applied")
  assign id fun entry => { entry with status := .applied appliedTick }
  assign id fun entry => { entry with response := some response }
  assign id fun entry => { entry with lastWarning := none }

def recordExpiry (id : TimelineId) (expiredTick : Nat) (warning : Option WarningPayload) :
    Mutation Unit := do
  let entry ← entryMut id
  refuse (!entry.status.isPending) (.illegalTransition id entry.status.statusName "expired")
  assign id fun entry => { entry with status := .expired expiredTick }
  assign id fun entry => { entry with lastExpiredTick := some expiredTick }
  if warning.isSome then
    assign id fun entry => { entry with lastWarning := warning }

def reissue (id : TimelineId) : Mutation Unit := do
  let entry ← entryMut id
  refuse (!entry.status.isExpired) (.illegalTransition id entry.status.statusName "pending(reissue)")
  assign id fun entry => { entry with attempts := saturatingAdd u32Max entry.attempts 1 }
  assign id fun entry => { entry with status := .pending }

def giveUp (id : TimelineId) (lastTick : Nat) (warning : Option WarningPayload) : Mutation Unit := do
  let entry ← entryMut id
  refuse (!entry.status.isExpired) (.illegalTransition id entry.status.statusName "gave_up")
  assign id fun entry => { entry with status := .gaveUp lastTick }
  if warning.isSome then
    assign id fun entry => { entry with lastWarning := warning }

def recordFault (id : TimelineId) (faultTick : Nat) (reason : String) : Mutation Unit := do
  let entry ← entryMut id
  refuse (!(entry.status.isPending || entry.status.isExpired))
    (.illegalTransition id entry.status.statusName "faulted")
  assign id fun entry => { entry with status := .faulted faultTick reason }

/-- The outcome of a checked transition, with the state an error leaves. -/
def outcome (timeline : DecisionTimeline) :
    Except DecisionTimelineError DecisionTimeline →
      EStateM.Result DecisionTimelineError DecisionTimeline Unit
  | .ok changed => .ok () changed
  | .error error => .error error timeline

/-- Two assignments to one entry are one. -/
theorem assign_assign {id : TimelineId} {first second : DecisionEntry → DecisionEntry}
    (kept : ∀ entry, (first entry).id = entry.id) (entries : List DecisionEntry) :
    updateFirst (fun entry => entry.id = id) second
        (updateFirst (fun entry => entry.id = id) first entries) =
      updateFirst (fun entry => entry.id = id) (fun entry => second (first entry)) entries := by
  induction entries with
  | nil => rfl
  | cons entry rest ih =>
    by_cases found : entry.id = id
    · simp [updateFirst, found, kept]
    · simp [updateFirst, found, ih]

variable (id : TimelineId) (timeline : DecisionTimeline)

/-- A mutator that looks the entry up, checks its status and assigns is the checked
transition. -/
theorem guarded_run {allowed : DecisionStatus → Bool} {target : String}
    {change : DecisionEntry → DecisionEntry} {body : Mutation Unit}
    (assigns : ∀ timeline, body.run timeline = (assign id change).run timeline) :
    (do let entry ← entryMut id
        refuse (!allowed entry.status) (.illegalTransition id entry.status.statusName target)
        body : Mutation Unit).run timeline =
      outcome timeline (timeline.transition id allowed target change) := by
  have looked : (entryMut id).run timeline =
      match timeline.get id with
      | none => .error (.unknown id (timeline.wasEvicted id)) timeline
      | some entry => .ok entry timeline := by
    unfold entryMut
    simp only [EStateM.run_bind, EStateM.run_get]
    cases timeline.get id <;> rfl
  rw [EStateM.run_bind, looked, DecisionTimeline.transition]
  cases timeline.get id with
  | none => rfl
  | some entry =>
    simp only [EStateM.run_bind, refuse]
    cases allowed entry.status with
    | true => exact assigns timeline
    | false => rfl

theorem allocate_run (sourceTick : Nat) (agentId : String) :
    (allocate sourceTick agentId).run timeline =
      .ok (timeline.allocate sourceTick agentId).2 (timeline.allocate sourceTick agentId).1 := by
  unfold allocate DecisionTimeline.allocate pushRing
  by_cases full : timeline.cap ≤ timeline.entries.length
  · simp only [EStateM.run_bind, EStateM.run_get, EStateM.run_modify, full, if_true]
    rfl
  · simp only [EStateM.run_bind, EStateM.run_get, EStateM.run_modify, full, if_false]
    rfl

theorem recordReply_run (appliedTick : Nat) (response : DecisionResponse) :
    (recordReply id appliedTick response).run timeline =
      outcome timeline (timeline.recordReply id appliedTick response) := by
  apply guarded_run
  intro timeline
  simp [assign, assign_assign]

theorem recordExpiry_run (expiredTick : Nat) (warning : Option WarningPayload) :
    (recordExpiry id expiredTick warning).run timeline =
      outcome timeline (timeline.recordExpiry id expiredTick warning) := by
  apply guarded_run
  intro timeline
  cases warning <;> simp [assign, assign_assign]

theorem reissue_run : (reissue id).run timeline = outcome timeline (timeline.reissue id) := by
  apply guarded_run
  intro timeline
  simp [assign, assign_assign]

theorem giveUp_run (lastTick : Nat) (warning : Option WarningPayload) :
    (giveUp id lastTick warning).run timeline =
      outcome timeline (timeline.giveUp id lastTick warning) := by
  apply guarded_run
  intro timeline
  cases warning <;> simp [assign, assign_assign]

theorem recordFault_run (faultTick : Nat) (reason : String) :
    (recordFault id faultTick reason).run timeline =
      outcome timeline (timeline.recordFault id faultTick reason) :=
  @guarded_run id timeline (fun status => status.isPending || status.isExpired) _ _ _ fun _ => rfl

end Mutators

inductive TimelineOp where
  | allocate (sourceTick : Nat) (agentId : String)
  | recordReply (id : TimelineId) (appliedTick : Nat) (response : DecisionResponse)
  | recordExpiry (id : TimelineId) (expiredTick : Nat) (warning : Option WarningPayload)
  | reissue (id : TimelineId)
  | giveUp (id : TimelineId) (lastTick : Nat) (warning : Option WarningPayload)
  | recordFault (id : TimelineId) (faultTick : Nat) (reason : String)

namespace TimelineOp

/-- The call, with the id it hands out. -/
def call : TimelineOp → Mutation (Option TimelineId)
  | .allocate sourceTick agentId => some <$> Mutators.allocate sourceTick agentId
  | .recordReply id appliedTick response =>
    (fun _ => none) <$> Mutators.recordReply id appliedTick response
  | .recordExpiry id expiredTick warning =>
    (fun _ => none) <$> Mutators.recordExpiry id expiredTick warning
  | .reissue id => (fun _ => none) <$> Mutators.reissue id
  | .giveUp id lastTick warning => (fun _ => none) <$> Mutators.giveUp id lastTick warning
  | .recordFault id faultTick reason =>
    (fun _ => none) <$> Mutators.recordFault id faultTick reason

def isAllocate : TimelineOp → Bool
  | .allocate _ _ => true
  | _ => false

end TimelineOp

namespace DecisionTimeline

/-- The id an operation hands out, and the timeline it leaves behind, also when it fails. -/
def perform (timeline : DecisionTimeline) (op : TimelineOp) : Option TimelineId × DecisionTimeline :=
  match op.call.run timeline with
  | .ok id changed => (id, changed)
  | .error _ left => (none, left)

def run (timeline : DecisionTimeline) (ops : List TimelineOp) : DecisionTimeline :=
  ops.foldl (fun timeline op => (timeline.perform op).2) timeline

/-- The ids handed out along a run. -/
def handedOut (timeline : DecisionTimeline) : List TimelineOp → List TimelineId
  | [] => []
  | op :: rest => (timeline.perform op).1.toList ++ (timeline.perform op).2.handedOut rest

end DecisionTimeline

/-- An entry before and after a transition: under its id, out of a status that was not the
last, with a response exactly if it is applied now. -/
structure DecisionEntry.Advances (entry changed : DecisionEntry) : Prop where
  id : changed.id = entry.id
  open_ : entry.status.isTerminal = false
  answered : entry.response = none → (changed.response.isSome ↔ ∃ tick, changed.status = .applied tick)

namespace DecisionTimeline

variable {timeline : DecisionTimeline}

/-- A transition advances one entry at most. -/
theorem transition_entries {id : TimelineId} {allowed : DecisionStatus → Bool} {target : String}
    {change : DecisionEntry → DecisionEntry} {changed : DecisionTimeline}
    (success : timeline.transition id allowed target change = .ok changed)
    (advances : ∀ entry : DecisionEntry, allowed entry.status = true → entry.Advances (change entry)) :
    changed = { timeline with entries := changed.entries } ∧
      List.Forall₂ (fun entry after => after = entry ∨ entry.Advances after) timeline.entries
        changed.entries := by
  unfold transition get at success
  cases found : timeline.entries.find? fun entry => entry.id = id with
  | none => simp [found] at success
  | some entry =>
    simp only [found] at success
    by_cases permitted : allowed entry.status = true
    · simp only [permitted, if_true, Except.ok.injEq] at success
      subst success
      refine ⟨rfl, ?_⟩
      generalize timeline.entries = entries at found ⊢
      induction entries with
      | nil => exact .nil
      | cons head rest ih =>
        by_cases hit : head.id = id
        · obtain rfl : head = entry := by simpa [hit] using found
          simp only [updateFirst, hit, decide_true, if_true]
          exact .cons (.inr (advances head permitted))
            (List.forall₂_same.mpr fun _ _ => .inl rfl)
        · simp only [updateFirst, hit, decide_false, Bool.false_eq_true, if_false]
          exact .cons (.inl rfl) (ih (by simpa [hit] using found))
    · simp [permitted] at success

/-- Entries a mutator leaves, matched with those before it. -/
def Advanced (entries after : List DecisionEntry) : Prop :=
  List.Forall₂ (fun entry after => after = entry ∨ entry.Advances after) entries after

private theorem run_map {α β : Type} (change : α → β) (body : Mutation α) :
    (change <$> body).run timeline =
      match body.run timeline with
      | .ok value state => .ok (change value) state
      | .error error state => .error error state := by
  simp only [EStateM.run, Functor.map, EStateM.map]
  cases body timeline <;> rfl

theorem Advanced.before {entries after : List DecisionEntry} (advanced : Advanced entries after)
    {changed : DecisionEntry} (member : changed ∈ after) :
    ∃ entry ∈ entries, changed = entry ∨ entry.Advances changed := by
  induction advanced with
  | nil => simp at member
  | cons step _ ih =>
    rcases List.mem_cons.mp member with rfl | later
    · exact ⟨_, by simp, step⟩
    · obtain ⟨entry, listed, step⟩ := ih later
      exact ⟨entry, by simp [listed], step⟩

theorem perform_mutator {op : TimelineOp} {body : Mutation Unit}
    {result : Except DecisionTimelineError DecisionTimeline}
    (calls : op.call = (fun _ => none) <$> body)
    (runs : body.run timeline = Mutators.outcome timeline result)
    (advances : ∀ changed, result = .ok changed →
      changed = { timeline with entries := changed.entries } ∧
        Advanced timeline.entries changed.entries) :
    (timeline.perform op).1 = none ∧ ∃ entries, (timeline.perform op).2 = { timeline with entries } ∧
      Advanced timeline.entries entries := by
  unfold perform
  rw [calls, run_map, runs]
  cases result with
  | error error =>
    exact ⟨rfl, timeline.entries, rfl, List.forall₂_same.mpr fun _ _ => .inl rfl⟩
  | ok changed =>
    obtain ⟨same, matched⟩ := advances changed rfl
    exact ⟨rfl, changed.entries, same, matched⟩

theorem left_of_error (timeline : DecisionTimeline) {op : TimelineOp} {error : DecisionTimelineError}
    {left : DecisionTimeline} (failed : op.call.run timeline = .error error left) :
    left = timeline := by
  have mutator {body : Mutation Unit} {result : Except DecisionTimelineError DecisionTimeline}
      (runs : body.run timeline = Mutators.outcome timeline result)
      (failed : ((fun _ => (none : Option TimelineId)) <$> body).run timeline = .error error left) :
      left = timeline := by
    rw [run_map, runs] at failed
    cases result with
    | ok changed => cases failed
    | error problem =>
      cases failed
      rfl
  cases op with
  | allocate sourceTick agentId =>
    rw [TimelineOp.call, run_map, Mutators.allocate_run] at failed
    cases failed
  | recordReply id appliedTick response =>
    exact mutator (Mutators.recordReply_run id timeline appliedTick response) failed
  | recordExpiry id expiredTick warning =>
    exact mutator (Mutators.recordExpiry_run id timeline expiredTick warning) failed
  | reissue id => exact mutator (Mutators.reissue_run id timeline) failed
  | giveUp id lastTick warning =>
    exact mutator (Mutators.giveUp_run id timeline lastTick warning) failed
  | recordFault id faultTick reason =>
    exact mutator (Mutators.recordFault_run id timeline faultTick reason) failed

/-- What an operation does: it allocates, or it advances entries and hands out nothing. -/
theorem perform_cases (timeline : DecisionTimeline) (op : TimelineOp) :
    (∃ sourceTick agentId, op = .allocate sourceTick agentId ∧
      timeline.perform op = (some timeline.nextId, (timeline.allocate sourceTick agentId).1)) ∨
    op.isAllocate = false ∧ (timeline.perform op).1 = none ∧
      ∃ entries, (timeline.perform op).2 = { timeline with entries } ∧
        Advanced timeline.entries entries := by
  have waiting {entry : DecisionEntry} (pending : entry.status.isPending = true) :
      entry.status.isTerminal = false := by
    cases status : entry.status <;> simp_all [DecisionStatus.isPending, DecisionStatus.isTerminal]
  have overdue {entry : DecisionEntry} (expired : entry.status.isExpired = true) :
      entry.status.isTerminal = false := by
    cases status : entry.status <;> simp_all [DecisionStatus.isExpired, DecisionStatus.isTerminal]
  cases op with
  | allocate sourceTick agentId =>
    refine .inl ⟨sourceTick, agentId, rfl, ?_⟩
    unfold perform TimelineOp.call
    rw [run_map, Mutators.allocate_run]
    rfl
  | recordReply id appliedTick response =>
    refine .inr ⟨rfl, perform_mutator rfl (Mutators.recordReply_run id timeline appliedTick response)
      fun changed success => transition_entries success fun entry pending => ?_⟩
    exact ⟨rfl, waiting pending, fun _ => by simp⟩
  | recordExpiry id expiredTick warning =>
    refine .inr ⟨rfl, perform_mutator rfl (Mutators.recordExpiry_run id timeline expiredTick warning)
      fun changed success => transition_entries success fun entry pending => ?_⟩
    exact ⟨rfl, waiting pending, fun none => by simp [none]⟩
  | reissue id =>
    refine .inr ⟨rfl, perform_mutator rfl (Mutators.reissue_run id timeline)
      fun changed success => transition_entries success fun entry expired => ?_⟩
    exact ⟨rfl, overdue expired, fun none => by simp [none]⟩
  | giveUp id lastTick warning =>
    refine .inr ⟨rfl, perform_mutator rfl (Mutators.giveUp_run id timeline lastTick warning)
      fun changed success => transition_entries success fun entry expired => ?_⟩
    exact ⟨rfl, overdue expired, fun none => by simp [none]⟩
  | recordFault id faultTick reason =>
    refine .inr ⟨rfl, perform_mutator rfl (Mutators.recordFault_run id timeline faultTick reason)
      fun changed success => transition_entries success fun entry unsettled => ?_⟩
    refine ⟨rfl, ?_, fun none => by simp [none]⟩
    rcases Bool.or_eq_true_iff.mp unsettled with pending | expired
    · exact waiting pending
    · exact overdue expired

/-- The window over the ids handed out so far. -/
structure Windowed (timeline : DecisionTimeline) (handed : List TimelineId) : Prop where
  counted : handed = List.range' 1 handed.length
  next : timeline.nextId = handed.length + 1
  retained : timeline.entries.length ≤ handed.length
  ids : timeline.entries.map (·.id) =
    List.range' (timeline.nextId - timeline.entries.length) timeline.entries.length
  room : 1 ≤ timeline.cap
  bounded : timeline.entries.length ≤ timeline.cap
  answered : ∀ entry ∈ timeline.entries,
    entry.response.isSome ↔ ∃ tick, entry.status = .applied tick

namespace Windowed

variable {handed : List TimelineId}

theorem withCapacity (cap : Nat) : (withCapacity cap).Windowed [] where
  counted := rfl
  next := rfl
  retained := Nat.le_refl 0
  ids := rfl
  room := Nat.le_max_right cap 1
  bounded := Nat.zero_le _
  answered := by simp [DecisionTimeline.withCapacity]

theorem allocate (windowed : timeline.Windowed handed) (left : handed.length + 1 < u64Max)
    (sourceTick : Nat) (agentId : String) :
    (timeline.allocate sourceTick agentId).1.Windowed (handed ++ [timeline.nextId]) := by
  have next : saturatingAdd u64Max timeline.nextId 1 = timeline.nextId + 1 :=
    saturatingAdd_of_le (by rw [windowed.next]; omega)
  have ids := windowed.ids
  have retained := windowed.retained
  have issued := windowed.next
  have fresh (entries : List DecisionEntry) (short : entries.length ≤ handed.length)
      (bounded : entries.length < timeline.cap)
      (ids : entries.map (·.id) = List.range' (timeline.nextId - entries.length) entries.length)
      (answered : ∀ entry ∈ entries, entry.response.isSome ↔ ∃ tick, entry.status = .applied tick) :
      Windowed { timeline with
        nextId := timeline.nextId + 1
        entries := entries ++ [{ id := timeline.nextId, sourceTick, agentId }] }
        (handed ++ [timeline.nextId]) := by
    refine ⟨?_, by simp [issued], by simpa using short, ?_, windowed.room,
      by simpa using Nat.succ_le_of_lt bounded, ?_⟩
    · rw [List.length_append, List.length_singleton, List.range'_1_concat, ← windowed.counted, issued,
        Nat.add_comm 1]
    · rw [List.map_append, ids, List.length_append, List.length_singleton, List.range'_1_concat,
        Nat.add_sub_add_right, Nat.sub_add_cancel (by omega)]
      rfl
    · intro entry member
      rcases List.mem_append.mp member with old | new
      · exact answered entry old
      · obtain rfl := List.mem_singleton.mp new
        simp
  unfold DecisionTimeline.allocate pushRing
  simp only [next]
  by_cases full : timeline.entries.length ≥ timeline.cap
  · have room := windowed.room
    rw [if_pos full]
    refine fresh timeline.entries.tail ?_ ?_ ?_ fun entry member =>
      windowed.answered entry (List.mem_of_mem_tail member)
    · rw [List.length_tail]
      omega
    · rw [List.length_tail]
      have bounded := windowed.bounded
      omega
    · rw [List.map_tail, ids, List.length_tail, List.tail_range']
      congr 1
      omega
  · rw [if_neg full]
    exact fresh timeline.entries retained (by omega) ids windowed.answered

theorem advance (windowed : timeline.Windowed handed) {entries : List DecisionEntry}
    (advanced : Advanced timeline.entries entries) :
    Windowed { timeline with entries } handed := by
  have length : entries.length = timeline.entries.length := advanced.length_eq.symm
  have ids : entries.map (·.id) = timeline.entries.map (·.id) := by
    have same : List.Forall₂ Eq (timeline.entries.map (·.id)) (entries.map (·.id)) := by
      rw [List.forall₂_map_left_iff, List.forall₂_map_right_iff]
      refine advanced.imp fun entry after step => ?_
      rcases step with rfl | step
      · rfl
      · exact step.id.symm
    rw [List.forall₂_eq_eq_eq] at same
    exact same.symm
  refine { windowed with
    retained := length ▸ windowed.retained
    ids := by rw [ids, windowed.ids, length]
    bounded := length ▸ windowed.bounded
    answered := fun after member => ?_ }
  obtain ⟨entry, listed, step⟩ := advanced.before member
  have answered := windowed.answered entry listed
  rcases step with rfl | step
  · exact answered
  · apply step.answered
    cases held : entry.response with
    | none => rfl
    | some response =>
      obtain ⟨tick, applied⟩ := answered.mp (by simp [held])
      have unsettled := step.open_
      simp [applied, DecisionStatus.isTerminal] at unsettled

theorem perform (windowed : timeline.Windowed handed) (op : TimelineOp)
    (left : handed.length + (timeline.perform op).1.toList.length < u64Max) :
    (timeline.perform op).2.Windowed (handed ++ (timeline.perform op).1.toList) := by
  rcases timeline.perform_cases op with ⟨sourceTick, agentId, -, performed⟩ |
    ⟨-, none, entries, performed, advanced⟩
  · rw [performed] at left ⊢
    exact windowed.allocate left sourceTick agentId
  · rw [none, performed]
    simpa using windowed.advance advanced

theorem run {ops : List TimelineOp} (windowed : timeline.Windowed handed)
    (left : handed.length + (timeline.handedOut ops).length < u64Max) :
    (timeline.run ops).Windowed (handed ++ timeline.handedOut ops) := by
  induction ops generalizing timeline handed with
  | nil => simpa [DecisionTimeline.run, handedOut] using windowed
  | cons op rest ih =>
    rw [handedOut, List.length_append] at left
    rw [handedOut, ← List.append_assoc]
    apply ih (windowed.perform op (by omega))
    rw [List.length_append]
    omega

end Windowed

theorem handedOut_length (timeline : DecisionTimeline) (ops : List TimelineOp) :
    (timeline.handedOut ops).length = ops.countP (·.isAllocate) := by
  induction ops generalizing timeline with
  | nil => rfl
  | cons op rest ih =>
    rw [handedOut, List.length_append, ih, List.countP_cons]
    rcases timeline.perform_cases op with ⟨sourceTick, agentId, rfl, performed⟩ |
      ⟨mutator, none, -⟩
    · rw [performed]
      exact Nat.add_comm _ _
    · simp [none, mutator]

/-- An entry of a past id keeps a terminal status. -/
theorem run_keeps {id : Nat} {status : DecisionStatus} (terminal : status.isTerminal = true)
    {ops : List TimelineOp} {handed : List TimelineId} (windowed : timeline.Windowed handed)
    (left : handed.length + (timeline.handedOut ops).length < u64Max) (past : id < timeline.nextId)
    (settled : ∀ entry ∈ timeline.entries, entry.id = id → entry.status = status) :
    ∀ entry ∈ (timeline.run ops).entries, entry.id = id → entry.status = status := by
  induction ops generalizing timeline handed with
  | nil => exact settled
  | cons op rest ih =>
    rw [handedOut, List.length_append] at left
    have stepped := windowed.perform op (by omega)
    have onward : timeline.run (op :: rest) = (timeline.perform op).2.run rest := rfl
    rw [onward]
    refine ih stepped (by rw [List.length_append]; omega) ?_ ?_
    · have issued := windowed.next
      have later := stepped.next
      rw [List.length_append] at later
      omega
    · intro entry member same
      rcases timeline.perform_cases op with ⟨sourceTick, agentId, -, performed⟩ |
        ⟨-, -, entries, performed, advanced⟩
      · rw [performed] at member
        rcases List.mem_append.mp ((pushRing_sublist _ _ _).subset member) with old | new
        · exact settled entry old same
        · obtain rfl := List.mem_singleton.mp new
          exact absurd same (Nat.ne_of_gt past)
      · rw [performed] at member
        obtain ⟨before, listed, step⟩ := advanced.before member
        rcases step with rfl | step
        · exact settled entry listed same
        · have unsettled := step.open_
          rw [settled before listed (step.id.symm.trans same), terminal] at unsettled
          cases unsettled

theorem run_cap (timeline : DecisionTimeline) (ops : List TimelineOp) :
    (timeline.run ops).cap = timeline.cap := by
  refine foldl_keeps DecisionTimeline.cap (fun timeline op _ => ?_) timeline
  rcases timeline.perform_cases op with ⟨sourceTick, agentId, -, performed⟩ |
    ⟨-, -, entries, performed, -⟩
  · rw [performed]
    rfl
  · rw [performed]

theorem handedOut_append (timeline : DecisionTimeline) (earlier later : List TimelineOp) :
    timeline.handedOut (earlier ++ later) =
      timeline.handedOut earlier ++ (timeline.run earlier).handedOut later := by
  induction earlier generalizing timeline with
  | nil => rfl
  | cons op rest ih =>
    have onward : timeline.run (op :: rest) = (timeline.perform op).2.run rest := rfl
    rw [List.cons_append, handedOut, handedOut, ih, onward, List.append_assoc]

theorem Windowed.wasEvicted_iff {handed : List TimelineId} (windowed : timeline.Windowed handed)
    (id : Nat) :
    timeline.wasEvicted id = true ↔ id ∈ handed ∧ id ∉ timeline.entries.map (·.id) := by
  have given : id ∈ handed ↔ 0 < id ∧ id < timeline.nextId := by
    rw [windowed.counted, List.mem_range'_1, windowed.next]
    omega
  have held : (timeline.get id).isNone = true ↔ id ∉ timeline.entries.map (·.id) := by
    simp [get]
  rw [given, ← held, wasEvicted]
  simp

end DecisionTimeline

/-- Every run of the timeline is a window over the ids handed out: contiguous, bounded, no id
twice, evicted ids told apart, refused operations without effect, terminal statuses kept and
responses exactly where a reply was applied. -/
theorem timeline_window (cap : Nat) (ops : List TimelineOp)
    (bounded : ops.countP (·.isAllocate) < u64Max) :
    let start := DecisionTimeline.withCapacity cap
    let timeline := start.run ops
    let handed := start.handedOut ops
    timeline.entries.map (·.id) =
      List.range' (timeline.nextId - timeline.entries.length) timeline.entries.length ∧
    (timeline.entries.length ≤ timeline.cap ∧ timeline.cap = max cap 1) ∧
    handed.Nodup ∧
    (∀ id, timeline.wasEvicted id = true ↔
      id ∈ handed ∧ id ∉ timeline.entries.map (·.id)) ∧
    (∀ op : TimelineOp, ∀ error left, op.call.run timeline = .error error left → left = timeline) ∧
    (∀ earlier later, ops = earlier ++ later → ∀ entry ∈ (start.run earlier).entries,
      entry.status.isTerminal = true →
      ∀ after ∈ timeline.entries, after.id = entry.id → after.status = entry.status) ∧
    ∀ entry ∈ timeline.entries, entry.response.isSome ↔ ∃ tick, entry.status = .applied tick := by
  intro start timeline handed
  have total : handed.length < u64Max := by rwa [start.handedOut_length]
  have windowed : timeline.Windowed handed :=
    (DecisionTimeline.Windowed.withCapacity cap).run (by simpa using total)
  refine ⟨windowed.ids, ⟨windowed.bounded, start.run_cap ops⟩, ?_, windowed.wasEvicted_iff, ?_, ?_, windowed.answered⟩
  · rw [windowed.counted]
    exact List.nodup_range'
  · intro op error left failed
    exact timeline.left_of_error failed
  · rintro earlier later rfl entry member terminal after afterMember same
    have split : handed = start.handedOut earlier ++ (start.run earlier).handedOut later :=
      start.handedOut_append earlier later
    rw [split, List.length_append] at total
    have early : (start.run earlier).Windowed (start.handedOut earlier) :=
      (DecisionTimeline.Windowed.withCapacity cap).run (by simpa using Nat.lt_of_add_right_lt total)
    have onward : timeline = (start.run earlier).run later := List.foldl_append
    rw [onward] at afterMember
    have listed : entry.id ∈ (start.run earlier).entries.map (·.id) :=
      List.mem_map.mpr ⟨entry, member, rfl⟩
    rw [early.ids, List.mem_range'_1] at listed
    have past : entry.id < (start.run earlier).nextId := by
      have retained := early.retained
      have issued := early.next
      exact Nat.lt_of_lt_of_eq listed.2 (by omega)
    refine DecisionTimeline.run_keeps terminal early total past (fun other otherMember twin => ?_)
      after afterMember same
    rw [List.inj_on_of_nodup_map (early.ids ▸ List.nodup_range') otherMember member twin]

/-- Two slots, three decisions: the first is answered and falls out, and a late answer to it is
refused. -/
theorem timeline_window_two : let ops : List TimelineOp :=
      [.allocate 1 "ada", .recordReply 1 2 ⟨none, "", 0, none, none⟩, .allocate 2 "bob",
        .allocate 3 "cy", .recordReply 1 4 ⟨none, "", 0, none, none⟩]
    let timeline := (DecisionTimeline.withCapacity 2).run ops
    timeline.entries.map (·.id) = [2, 3] ∧ timeline.wasEvicted 1 = true := by
  intro ops timeline
  have window := timeline_window 2 ops (by decide)
  refine ⟨window.1.trans (by decide), (window.2.2.2.1 1).mpr ⟨by decide, by decide⟩⟩

end Simetro.Protocol
