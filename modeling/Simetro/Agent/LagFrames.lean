import Simetro.Agent.LifecycleSteps

/-! The lag a warning of the request lifecycle reports: the ticks from a request's source to now,
narrowed to 32 bits. -/

namespace Simetro.Agent

open Simetro.Library Simetro.Protocol

/-- The lag at least one tick, clamped where it does not fit. -/
def dueLag (now sourceTick : Nat) : Nat :=
  if max 1 (now - sourceTick) ≤ u32Max then max 1 (now - sourceTick) else u32Max

/-- A lag that narrowing changes no more than clamping does. -/
def LagFits (now sourceTick : Nat) : Prop :=
  now - sourceTick < 2 ^ 32 ∨ (now - sourceTick) % 2 ^ 32 = u32Max

theorem dueLag_positive (now sourceTick : Nat) : 0 < dueLag now sourceTick := by
  unfold dueLag u32Max
  split <;> omega

theorem dueLag_mono {now sourceTick now' sourceTick' : Nat}
    (longer : now - sourceTick ≤ now' - sourceTick') :
    dueLag now sourceTick ≤ dueLag now' sourceTick' := by
  unfold dueLag u32Max
  split <;> split <;> omega

/-- The reply and expiry paths narrow the lag and then raise it to one tick. -/
theorem lagFrames_due_iff (now sourceTick : Nat) :
    lagFrames now sourceTick = dueLag now sourceTick ↔ LagFits now sourceTick := by
  unfold lagFrames asU32 dueLag LagFits u32Max
  split <;> omega

/-- The backpressure path raises it first. -/
theorem backpressure_due_iff (now sourceTick : Nat) :
    asU32 (max (now - sourceTick) 1) = dueLag now sourceTick ↔ LagFits now sourceTick := by
  unfold asU32 dueLag LagFits u32Max
  split <;> omega

def DrainOutcome.message : DrainOutcome → Option SimMessage
  | .apply _ _ _ _ => none
  | .duplicate message | .stale message | .unknownId message => some message

def ExpiryOutcome.message : ExpiryOutcome → SimMessage
  | .reissue _ warning => warning
  | .giveUp message => message

def EnqueueOutcome.message : EnqueueOutcome → Option SimMessage
  | .enqueued => none
  | .backpressureDropped message => some message

/-- One call to the lifecycle at tick `now` warns of `frames` for a request of tick `sourceTick`. -/
inductive ReportsLag (lifecycle : RequestLifecycle) (now : Nat) : Nat → Nat → Prop
  | reply {reply : AgentReply} {frames : Nat} {agentId : Option String}
      (made : (lifecycle.drainReply reply now).2.message =
        some (.warning (.behind frames agentId))) :
      ReportsLag lifecycle now reply.id.sourceTick frames
  | expiry {outcome : ExpiryOutcome} {sourceTick frames : Nat} {agentId : Option String}
      (listed : outcome ∈ (lifecycle.expireOverdue now).2)
      (made : outcome.message = .warning (.behind frames agentId))
      (source : ∀ next ∈ outcome.nextRequest, next.id.sourceTick = sourceTick) :
      ReportsLag lifecycle now sourceTick frames
  | backpressure {request : AgentRequest} {frames : Nat} {agentId : Option String}
      (made : (lifecycle.tryEnqueue request now).2.message =
        some (.warning (.behind frames agentId))) :
      ReportsLag lifecycle now request.id.sourceTick frames

namespace RequestLifecycle

variable {lifecycle : RequestLifecycle} {now : Nat}

/-- What the caller hears of a reply: nothing, or one of three messages about its id. -/
theorem drainReply_message (lifecycle : RequestLifecycle) (reply : AgentReply) (now : Nat) :
    (lifecycle.drainReply reply now).2.message ∈ [none, some (duplicateWarning reply.id),
      some (staleWarning reply.id now), some (unknownIdFault reply.id)] := by
  rcases lifecycle.drainReply_cases reply now with ⟨_, _, _, -, result⟩ | ⟨_, _, _, -, result⟩ |
    result | result | result <;>
    simp [result, DrainOutcome.message]

/-- Every outcome of an expiry pass is the one of some overdue request. -/
theorem expireOverdue_outcomes {outcome : ExpiryOutcome}
    (listed : outcome ∈ (lifecycle.expireOverdue now).2) :
    ∃ id entry, outcome = expiryOutcome now id entry := by
  have fold (ids : List RequestId) (progress : RequestLifecycle × List ExpiryOutcome)
      (listed : outcome ∈ (ids.foldl (expireOne now) progress).2) :
      outcome ∈ progress.2 ∨ ∃ id entry, outcome = expiryOutcome now id entry := by
    induction ids generalizing progress with
    | nil => exact .inl listed
    | cons id rest ih =>
      rcases ih _ listed with earlier | made
      · unfold expireOne at earlier
        split at earlier
        · exact .inl earlier
        · rename_i entry _
          rcases List.mem_append.mp earlier with before | new
          · exact .inl before
          · exact .inr ⟨id, entry, List.mem_singleton.mp new⟩
      · exact .inr made
  rcases fold _ _ listed with none | made
  · cases none
  · exact made

end RequestLifecycle

/-- A reported lag is narrowed in one of two ways. -/
theorem ReportsLag.frames {lifecycle : RequestLifecycle} {now sourceTick frames : Nat}
    (reports : ReportsLag lifecycle now sourceTick frames) :
    frames = lagFrames now sourceTick ∨ frames = asU32 (max (now - sourceTick) 1) := by
  cases reports with
  | @reply reply frames agentId made =>
    left
    have message := lifecycle.drainReply_message reply now
    rw [made] at message
    have same : frames = lagFrames now reply.id.sourceTick ∧ agentId = some reply.id.agentId := by
      simpa [duplicateWarning, staleWarning, unknownIdFault] using message
    exact same.1
  | @expiry outcome _ _ agentId listed made source =>
    left
    obtain ⟨id, entry, rfl⟩ := RequestLifecycle.expireOverdue_outcomes listed
    unfold RequestLifecycle.expiryOutcome at made source
    split at made
    · rename_i again
      have named : id.sourceTick = sourceTick := by
        simpa [again, ExpiryOutcome.nextRequest, RequestId.nextAttempt] using source
      cases made
      rw [named]
    · cases made
  | @backpressure request _ agentId made =>
    right
    unfold RequestLifecycle.tryEnqueue at made
    split at made
    · cases made
      rfl
    · cases made

/-- Either way a reported lag is the due one where it fits, and only there. -/
theorem ReportsLag.due_iff {lifecycle : RequestLifecycle} {now sourceTick frames : Nat}
    (reports : ReportsLag lifecycle now sourceTick frames) :
    frames = dueLag now sourceTick ↔ LagFits now sourceTick := by
  rcases reports.frames with rfl | rfl
  · exact lagFrames_due_iff now sourceTick
  · exact backpressure_due_iff now sourceTick

/-- A warning reports the due lag, and with it at least one tick and no less for a longer lag that
is reported rightly, exactly where the lag fits. -/
theorem reported_lag_iff {lifecycle : RequestLifecycle} {now sourceTick frames : Nat}
    (reports : ReportsLag lifecycle now sourceTick frames) :
    (frames = dueLag now sourceTick ∧ 0 < frames ∧
      ∀ later now' sourceTick' frames', ReportsLag later now' sourceTick' frames' →
        LagFits now' sourceTick' → now - sourceTick ≤ now' - sourceTick' → frames ≤ frames') ↔
      LagFits now sourceTick := by
  constructor
  · intro due
    exact reports.due_iff.mp due.1
  · intro fits
    have due := reports.due_iff.mpr fits
    refine ⟨due, due ▸ dueLag_positive now sourceTick, ?_⟩
    intro later now' sourceTick' frames' reports' fits' longer
    rw [due, reports'.due_iff.mpr fits']
    exact dueLag_mono longer

/-- A lifecycle that waits for the answer to a request of tick 0, until tick 5. -/
def unanswered : RequestLifecycle :=
  (RequestLifecycle.new.tryEnqueue ⟨⟨1, "miller", 0, 0⟩, 5, "{}"⟩ 0).1

/-- An answer to it. -/
def answer : AgentReply := ⟨⟨1, "miller", 0, 0⟩, none, "", 1⟩

theorem reported_lag_late : (7 = dueLag 7 0 ∧ 0 < 7 ∧
    ∀ later now' sourceTick' frames', ReportsLag later now' sourceTick' frames' →
      LagFits now' sourceTick' → 7 - 0 ≤ now' - sourceTick' → 7 ≤ frames') ↔ LagFits 7 0 :=
  reported_lag_iff (@ReportsLag.reply unanswered 7 answer 7 (some "miller") rfl)

/-- A lag of 2^32 ticks is reported as none by a dropped request, and as one tick by a late reply,
though a lag of one tick less is reported rightly. -/
theorem reported_lag_wraps :
    (ReportsLag unanswered (2 ^ 32) 0 0 ∧ ReportsLag unanswered (2 ^ 32) 0 1) ∧
      ReportsLag unanswered (2 ^ 32 - 1) 0 (2 ^ 32 - 1) ∧ dueLag (2 ^ 32) 0 = u32Max := by
  refine ⟨⟨?_, ?_⟩, ?_, ?_⟩
  · exact @ReportsLag.backpressure unanswered (2 ^ 32) ⟨⟨2, "miller", 0, 0⟩, 5, "{}"⟩ 0
      (some "miller") rfl
  · exact @ReportsLag.reply unanswered (2 ^ 32) answer 1 (some "miller") rfl
  · exact @ReportsLag.reply unanswered (2 ^ 32 - 1) answer (2 ^ 32 - 1) (some "miller") rfl
  · decide

end Simetro.Agent
