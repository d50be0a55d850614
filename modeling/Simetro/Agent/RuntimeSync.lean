import Simetro.Agent.LifecycleSteps
import Simetro.Agent.Runtime

/-! The timeline and the lifecycle in step: which decisions are open in the one and
in flight in the other. -/

namespace Simetro.Agent

open Simetro.Library Simetro.Protocol

/-- A decision and the agent it is for. -/
abbrev Decision := TimelineId × String

/-- The retained entries against the decisions in flight: an entry is pending
while its decision is in flight, and over when it is not. -/
structure InStep (next : Nat) (inFlight : List Decision) (entries : List DecisionEntry) :
    Prop where
  ids : (entries.map (·.id)).Nodup
  flightIds : (inFlight.map (·.1)).Nodup
  agents : (inFlight.map (·.2)).Nodup
  issued : ∀ entry ∈ entries, entry.id < next
  flightIssued : ∀ decision ∈ inFlight, decision.1 < next
  matched : ∀ entry ∈ entries,
    entry.status = .pending ∧ (entry.id, entry.agentId) ∈ inFlight ∨
      entry.status.isTerminal = true ∧ entry.id ∉ inFlight.map (·.1)

/-- Change the entry with this id, if it is retained. -/
def rewriteEntry (id : TimelineId) (change : DecisionEntry → DecisionEntry)
    (entries : List DecisionEntry) : List DecisionEntry :=
  entries.map fun entry => if entry.id = id then change entry else entry

section Rewrites

variable {id : TimelineId} {entries : List DecisionEntry}
  {change other : DecisionEntry → DecisionEntry}

/-- Only what becomes of the entries with the id matters. -/
theorem rewriteEntry_congr (agree : ∀ entry ∈ entries, entry.id = id → change entry = other entry) :
    rewriteEntry id change entries = rewriteEntry id other entries := by
  refine List.map_congr_left fun entry listed => ?_
  by_cases same : entry.id = id
  · rw [if_pos same, if_pos same, agree entry listed same]
  · rw [if_neg same, if_neg same]

theorem rewriteEntry_eq_self (keeps : ∀ entry ∈ entries, entry.id = id → change entry = entry) :
    rewriteEntry id change entries = entries := by
  rw [rewriteEntry_congr keeps, rewriteEntry]
  simp

/-- An id that is no longer retained is left alone. -/
theorem rewriteEntry_of_absent (change : DecisionEntry → DecisionEntry)
    (absent : ∀ entry ∈ entries, entry.id ≠ id) : rewriteEntry id change entries = entries :=
  rewriteEntry_eq_self fun entry member same => absurd same (absent entry member)

end Rewrites

namespace InStep

variable {next : Nat} {inFlight rest : List Decision} {entries : List DecisionEntry}
  {id : TimelineId} {agentId : String} {change : DecisionEntry → DecisionEntry}

theorem empty : InStep next [] ([] : List DecisionEntry) :=
  ⟨by simp, by simp, by simp, by simp, by simp, by simp⟩

theorem of_perm (step : InStep next inFlight entries) (same : inFlight.Perm rest) :
    InStep next rest entries where
  ids := step.ids
  flightIds := (same.map _).nodup_iff.mp step.flightIds
  agents := (same.map _).nodup_iff.mp step.agents
  issued := step.issued
  flightIssued decision member := step.flightIssued decision (same.mem_iff.mpr member)
  matched entry member := by
    simpa only [same.mem_iff, (same.map _).mem_iff] using step.matched entry member

/-- A pending entry of an open decision. -/
theorem pending_of_inFlight (step : InStep next inFlight entries) (flying : (id, agentId) ∈ inFlight)
    {entry : DecisionEntry} (member : entry ∈ entries) (same : entry.id = id) :
    entry.status = .pending := by
  rcases step.matched entry member with ⟨pending, -⟩ | ⟨-, landed⟩
  · exact pending
  · exact absurd (List.mem_map.mpr ⟨_, flying, same.symm⟩) landed

/-- A fresh decision takes off, whatever the window forgets for it. -/
theorem launch (step : InStep next inFlight entries) (free : agentId ∉ inFlight.map (·.2))
    (cap sourceTick : Nat) :
    InStep (next + 1) (inFlight ++ [(next, agentId)])
      (pushRing cap entries { id := next, sourceTick, agentId }) := by
  have recent := pushRing_sublist cap entries { id := next, sourceTick, agentId }
  have unusedEntry : next ∉ entries.map (·.id) := fun present => by
    obtain ⟨entry, member, same⟩ := List.mem_map.mp present
    exact (step.issued entry member).ne same
  have unused : next ∉ inFlight.map (·.1) := fun present => by
    obtain ⟨decision, flying, same⟩ := List.mem_map.mp present
    exact (step.flightIssued decision flying).ne same
  refine ⟨?_, ?_, ?_, ?_, ?_, ?_⟩
  · refine List.Nodup.sublist (recent.map _) ?_
    rw [List.map_append]
    simpa using step.ids.concat unusedEntry
  · rw [List.map_append]
    simpa using step.flightIds.concat unused
  · rw [List.map_append]
    simpa using step.agents.concat free
  · intro entry member
    rcases List.mem_append.mp (recent.subset member) with old | new
    · exact Nat.lt_succ_of_lt (step.issued entry old)
    · rw [List.mem_singleton.mp new]
      exact Nat.lt_succ_self next
  · intro decision member
    rcases List.mem_append.mp member with old | new
    · exact Nat.lt_succ_of_lt (step.flightIssued decision old)
    · rw [List.mem_singleton.mp new]
      exact Nat.lt_succ_self next
  · intro entry member
    rcases List.mem_append.mp (recent.subset member) with old | new
    · rcases step.matched entry old with ⟨pending, flying⟩ | ⟨terminal, landed⟩
      · exact .inl ⟨pending, List.mem_append_left _ flying⟩
      · have different : entry.id ≠ next := (step.issued entry old).ne
        exact .inr ⟨terminal, by simpa [different] using landed⟩
    · rw [List.mem_singleton.mp new]
      exact .inl ⟨rfl, by simp⟩

section Rewrite

theorem rewriteEntry_ids (keeps : ∀ entry, (change entry).id = entry.id) :
    (rewriteEntry id change entries).map (·.id) = entries.map (·.id) := by
  rw [rewriteEntry, List.map_map]
  refine List.map_congr_left fun entry _ => ?_
  by_cases hit : entry.id = id <;> simp [hit, keeps entry]

variable (step : InStep next inFlight entries)
  (keeps : ∀ entry, (change entry).id = entry.id ∧ (change entry).agentId = entry.agentId)
include step keeps

private theorem rewriteEntry_nodup : ((rewriteEntry id change entries).map (·.id)).Nodup := by
  rw [rewriteEntry_ids fun entry => (keeps entry).1]
  exact step.ids

private theorem rewriteEntry_issued :
    ∀ entry ∈ rewriteEntry id change entries, entry.id < next := by
  intro entry member
  have listed : entry.id ∈ entries.map (·.id) :=
    rewriteEntry_ids (fun entry => (keeps entry).1) ▸ List.mem_map.mpr ⟨entry, member, rfl⟩
  obtain ⟨old, present, same⟩ := List.mem_map.mp listed
  exact same ▸ step.issued old present

/-- A change that leaves an open entry open. -/
theorem refresh (pending : ∀ entry, (change entry).status = .pending)
    (flying : (id, agentId) ∈ inFlight) :
    InStep next inFlight (rewriteEntry id change entries) := by
  refine ⟨step.rewriteEntry_nodup keeps, step.flightIds, step.agents,
    step.rewriteEntry_issued keeps, step.flightIssued, ?_⟩
  intro entry member
  obtain ⟨old, listed, rfl⟩ := List.mem_map.mp member
  by_cases hit : old.id = id
  · rcases step.matched old listed with ⟨-, flight⟩ | ⟨-, landed⟩
    · exact .inl ⟨by simp [hit, pending], by simpa [hit, keeps old] using flight⟩
    · exact absurd (List.mem_map.mpr ⟨_, flying, hit.symm⟩) landed
  · simpa [hit] using step.matched old listed

/-- A decision lands: its entry, if it is retained, ends. -/
theorem land (ends : ∀ entry, (change entry).status.isTerminal = true)
    (split : inFlight.Perm ((id, agentId) :: rest)) :
    InStep next rest (rewriteEntry id change entries) := by
  have ahead := step.of_perm split
  obtain ⟨gone, flightIds⟩ := List.nodup_cons.mp ahead.flightIds
  refine ⟨step.rewriteEntry_nodup keeps, flightIds, (List.nodup_cons.mp ahead.agents).2,
    step.rewriteEntry_issued keeps, ?_, ?_⟩
  · exact fun decision member => ahead.flightIssued decision (List.mem_cons_of_mem _ member)
  · intro entry member
    obtain ⟨old, listed, rfl⟩ := List.mem_map.mp member
    by_cases hit : old.id = id
    · exact .inr ⟨by simp [hit, ends], by simpa [hit, keeps old] using gone⟩
    · rw [if_neg hit]
      rcases ahead.matched old listed with ⟨pending, flying⟩ | ⟨terminal, landed⟩
      · refine .inl ⟨pending, ?_⟩
        simpa [hit] using flying
      · exact .inr ⟨terminal, fun present => landed (List.mem_cons_of_mem _ present)⟩

end Rewrite

/-- A decision lands whose entry is no longer retained. -/
theorem land_of_absent (step : InStep next inFlight entries)
    (absent : ∀ entry ∈ entries, entry.id ≠ id) (split : inFlight.Perm ((id, agentId) :: rest)) :
    InStep next rest entries := by
  rw [← rewriteEntry_of_absent (fun entry => { entry with status := .gaveUp 0 }) absent]
  exact step.land (fun _ => ⟨rfl, rfl⟩) (fun _ => rfl) split

end InStep

end Simetro.Agent
