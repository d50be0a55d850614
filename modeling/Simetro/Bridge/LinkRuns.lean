import Simetro.Bridge.Link

/-! Runs of the engine and the bridge over their pipes: nothing is lost, repeated or overtaken, and
without a shutdown everything asked is answered. -/

namespace Simetro.Bridge

open Simetro.Agent Simetro.Library Simetro.Protocol

/-- The replies on their way over a pipe, and the requests. -/
def repliesOn (text : F32Text) (pipe : List Char) : List AgentReply :=
  ((envelopes text).all pipe).1.filterMap Envelope.reply?

def requestsOn (text : F32Text) (pipe : List Char) : List AgentRequest :=
  ((envelopes text).all pipe).1.filterMap Envelope.request?

/-- The runtime as it is built, with rings of this capacity. -/
inductive Built : AgentRuntime → Nat → Prop
  | new : Built .new 0
  | withTimelineCapacity (cap : Nat) : Built (.withTimelineCapacity cap) completedRingCap

section Runs

variable {Store : Type} {text : F32Text} {debug : DebugText} {provider : Provider Store} {cap : Nat}
  {link : Link Store}

theorem start_sound (debug : DebugText) {runtime : AgentRuntime} (built : Built runtime cap)
    (bridgeVersion : String) {backend : Store}
    (range : provider.InRange text backend) :
    (Link.start text runtime bridgeVersion backend).Sound text debug provider cap ∧
      runtime.timeline.nextId = 1 := by
  have hello : Carried (helloEnvelope 0 bridgeVersion) :=
    ⟨rfl, show 0 < u64Bound by decide, show schemaVersion < u32Bound by decide, rfl⟩
  have fresh : runtime.lifecycle.pending = [] ∧ runtime.outbox = [] ∧ runtime.timeline.nextId = 1 ∧
      Watched.Holds cap { runtime } := by
    cases built with
    | new => exact ⟨rfl, rfl, rfl, RequestLifecycle.Remembers.start 0⟩
    | withTimelineCapacity cap =>
      exact ⟨rfl, rfl, rfl, RequestLifecycle.Remembers.start completedRingCap⟩
  obtain ⟨pending, outbox, numbered, holds⟩ := fresh
  refine ⟨⟨[], [helloEnvelope 0 bridgeVersion], [], { runtime }, ?_, ?_⟩, numbered⟩
  · exact {
      toBridge := rfl
      toHost := by
        rw [List.flatMap_singleton]
        rfl
      asksCarried := fun envelope listed => absurd listed List.not_mem_nil
      repliesCarried := fun envelope listed => List.mem_singleton.mp listed ▸ hello
      issued := outbox.symm
      matched := .nil
      range
      hostSeq := show 0 < u64Bound by decide
      bridgeSeq := Nat.mod_lt _ (by decide) }
  · refine ⟨rfl, ⟨?_, ?_⟩, holds, by simp, by simp [Link.start]⟩
    · change Issues _ (runtime.lifecycle.pending ++ []) []
      rw [pending]
      exact Issues.start _
    · change ([] : List RequestId).Perm (runtime.lifecycle.pending.map _ ++ ([] ++ []))
      rw [pending]
      exact List.Perm.nil

theorem Link.Sound.run (sound : link.Sound text debug provider cap) {ops : List LinkOp}
    (typed : ∀ op ∈ ops, op.Typed) (few : link.runtime.timeline.nextId + ops.length ≤ u64Max) :
    (link.run text debug provider ops).Sound text debug provider cap ∧
      (link.run text debug provider ops).runtime.timeline.nextId ≤ u64Max := by
  induction ops generalizing link with
  | nil => exact ⟨sound, few⟩
  | cons op rest ih =>
    rw [List.length_cons] at few
    obtain ⟨next, counted⟩ := sound.perform (typed op List.mem_cons_self) (by omega)
    exact ih next (fun other listed => typed other (List.mem_cons_of_mem op listed)) (by omega)

/-- The ids of all that was issued are, in their order, those of the replies handed over, of the
replies and then of the requests on their way, and of the requests still in the outbox. -/
structure Link.InOrder (text : F32Text) (link : Link Store) : Prop where
  distinct : (link.issued.map (·.id)).Nodup
  places : link.issued.map (·.id) = link.outcomes.map (·.1.id) ++
    ((repliesOn text link.toHost).map (·.id) ++
      ((requestsOn text link.toBridge).map (·.id) ++ link.runtime.outbox.map (·.id)))

theorem Link.Sound.inOrder (sound : link.Sound text debug provider cap) : link.InOrder text := by
  obtain ⟨asks, replies, answered, watched, ordered, settled⟩ := sound
  refine ⟨settled.accounts.issuing.distinct, ?_⟩
  rw [repliesOn, requestsOn, ordered.toHost, ordered.toBridge, all_sent ordered.repliesCarried,
    all_sent ordered.asksCarried]
  exact ordered.ids

theorem answered_of_mem {requests : List AgentRequest} {made : List AgentReply}
    (matched : List.Forall₂ (Answers text debug) requests made) {reply : AgentReply}
    (listed : reply ∈ made) : ∃ request ∈ requests, Answers text debug request reply := by
  induction matched with
  | nil => exact absurd listed List.not_mem_nil
  | cons answers _ ih =>
    rcases List.mem_cons.mp listed with rfl | later
    · exact ⟨_, List.mem_cons_self, answers⟩
    · obtain ⟨request, member, answers⟩ := ih later
      exact ⟨request, List.mem_cons_of_mem _ member, answers⟩

theorem Link.Sound.answered (sound : link.Sound text debug provider cap)
    {outcome : AgentReply × ProcessReplyOutcome} (listed : outcome ∈ link.outcomes) :
    ∃ request ∈ link.issued, request.id = outcome.1.id ∧ Answers text debug request outcome.1 := by
  obtain ⟨asks, replies, answered, watched, ordered, settled⟩ := sound
  obtain ⟨request, member, answers⟩ := answered_of_mem ordered.matched
    (List.mem_append_left _ (List.mem_map.mpr ⟨outcome, listed, rfl⟩))
  refine ⟨request, ?_, answers.id.symm, answers⟩
  rw [ordered.issued]
  exact List.mem_append_left _ member

end Runs

end Simetro.Bridge
