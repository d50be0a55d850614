import Mathlib.Data.List.Sort
import Mathlib.Data.String.Basic
import Simetro.Engine.DecisionRuns

/-! The hosts of a runner stay sorted by id, so the order of registering them does not matter. -/

namespace Simetro.Engine

open Simetro.Library Simetro.Protocol Simetro.Sl1

variable {Mind Log : Type}

/-- The order the hosts are kept in. -/
def AgentHost.Before (host other : AgentHost Mind) : Prop := host.id ≤ other.id

instance (host other : AgentHost Mind) : Decidable (host.Before other) :=
  inferInstanceAs (Decidable (host.id ≤ other.id))

instance : Std.Total (@AgentHost.Before Mind) := ⟨fun host other => le_total host.id other.id⟩

instance : IsTrans (AgentHost Mind) AgentHost.Before := ⟨fun _ _ _ => le_trans⟩

theorem registerAgent_hosts (runner : TickRunner (AgentHost Mind) Log) (host : AgentHost Mind) :
    runner.registerAgent host =
      { runner with hosts := runner.hosts.orderedInsert AgentHost.Before host } := by
  have earlier (other : AgentHost Mind) : decide (¬ host.Before other) = decide (other.id < host.id) :=
    decide_eq_decide.mpr not_le
  rw [List.orderedInsert_eq_take_drop]
  simp only [earlier]
  rfl

theorem registerAgent_perm (runner : TickRunner (AgentHost Mind) Log) (host : AgentHost Mind) :
    (runner.registerAgent host).hosts.Perm (host :: runner.hosts) := by
  rw [registerAgent_hosts]
  exact List.perm_orderedInsert AgentHost.Before host runner.hosts

/-- Register agents in this order. -/
def TickRunner.registerAll (runner : TickRunner (AgentHost Mind) Log) (hosts : List (AgentHost Mind)) :
    TickRunner (AgentHost Mind) Log :=
  hosts.foldl TickRunner.registerAgent runner

/-- All of them are registered, in the order of their ids. -/
theorem registerAll_sorted {hosts : List (AgentHost Mind)} {runner : TickRunner (AgentHost Mind) Log}
    (sorted : runner.hosts.Pairwise AgentHost.Before) :
    ∃ registered, runner.registerAll hosts = { runner with hosts := registered } ∧
      registered.Pairwise AgentHost.Before ∧ registered.Perm (hosts ++ runner.hosts) := by
  induction hosts generalizing runner with
  | nil => exact ⟨runner.hosts, rfl, sorted, .refl _⟩
  | cons host rest ih =>
    have first := registerAgent_hosts runner host
    obtain ⟨registered, whole, order, all⟩ := @ih (runner.registerAgent host) (by
      rw [first]
      exact sorted.orderedInsert host _)
    refine ⟨registered, ?_, order, ?_⟩
    · change (runner.registerAgent host).registerAll rest = _
      rw [whole, first]
    · exact (all.trans ((registerAgent_perm runner host).append_left rest)).trans List.perm_middle

/-- Hosts of distinct ids are registered in one order, whatever order they come in. -/
theorem registerAll_perm {first second : List (AgentHost Mind)} (perm : first.Perm second)
    (distinct : (first.map AgentHost.id).Nodup) {runner : TickRunner (AgentHost Mind) Log}
    (fresh : runner.hosts = []) :
    runner.registerAll first = runner.registerAll second ∧
      (runner.registerAll first).hosts.Perm first ∧
      ((runner.registerAll first).hosts.map AgentHost.id).Pairwise (· < ·) := by
  have start : runner.hosts.Pairwise AgentHost.Before := by
    rw [fresh]
    exact .nil
  obtain ⟨one, registered, sorted, all⟩ := @registerAll_sorted _ _ first runner start
  obtain ⟨other, registeredToo, sortedToo, allToo⟩ := @registerAll_sorted _ _ second runner start
  rw [fresh, List.append_nil] at all allToo
  have names : (one.map AgentHost.id).Nodup := (all.map AgentHost.id).nodup_iff.mpr distinct
  have same : one = other := by
    refine (all.trans (perm.trans allToo.symm)).eq_of_pairwise ?_ sorted sortedToo
    intro host twin listed found before after
    have listedToo : twin ∈ one := (all.trans (perm.trans allToo.symm)).mem_iff.mpr found
    exact List.inj_on_of_nodup_map names listed listedToo (le_antisymm before after)
  refine ⟨?_, ?_, ?_⟩
  · rw [registered, registeredToo, same]
  · rw [registered]
    exact all
  · rw [registered]
    refine List.pairwise_map.mpr ((sorted.and (List.pairwise_map.mp names)).imp ?_)
    exact fun both => lt_of_le_of_ne both.1 both.2

/-- Two runners that differ in the order their agents were registered in have the same hosts, sorted
by id, and send and log the same in every run. -/
theorem registration_order_irrelevant
    (systems : Systems Transit (AgentHost Mind) Log Observation) (backend : AgentBackend)
    (world : World Transit) {runner : TickRunner (AgentHost Mind) Log} (fresh : runner.hosts = [])
    {first second : List (AgentHost Mind)} (perm : first.Perm second)
    (distinct : (first.map AgentHost.id).Nodup) :
    (runner.registerAll first).hosts = (runner.registerAll second).hosts ∧
      (runner.registerAll first).hosts.Perm first ∧
      ((runner.registerAll first).hosts.map AgentHost.id).Pairwise (· < ·) ∧
      ∀ steps, Session.run systems backend { machine := ⟨world, runner.registerAll first⟩ } steps =
        Session.run systems backend { machine := ⟨world, runner.registerAll second⟩ } steps := by
  obtain ⟨same, all, sorted⟩ := registerAll_perm perm distinct fresh
  exact ⟨congrArg TickRunner.hosts same, all, sorted, fun steps => by rw [same]⟩

/-- Three agents of no mind, registered in two orders. -/
theorem registration_order_irrelevant_three :
    let host (id : String) : AgentHost Unit := ⟨id, 1, ()⟩
    let first := [host "bravo", host "alpha", host "charlie"]
    let second := [host "charlie", host "bravo", host "alpha"]
    let runner : TickRunner (AgentHost Unit) Unit := {}
    let world : World Transit := ⟨0, .running, {}, none, none⟩
    let agent : Agent Unit := ⟨fun mind world => (mind, .ok (.fromWorld world)),
      fun mind _ => (mind, .error "silent")⟩
    let systems := hostedSystems (fun _ => "") agent fun log _ _ _ => (log, none)
    (runner.registerAll first).hosts = (runner.registerAll second).hosts ∧
      (runner.registerAll first).hosts.Perm first ∧
      ((runner.registerAll first).hosts.map AgentHost.id).Pairwise (· < ·) ∧
      ∀ steps, Session.run systems defaultBackend { machine := ⟨world, runner.registerAll first⟩ } steps =
        Session.run systems defaultBackend { machine := ⟨world, runner.registerAll second⟩ } steps := by
  intro host first second runner world agent systems
  have perm : first.Perm second :=
    @List.perm_append_comm _ [host "bravo", host "alpha"] [host "charlie"]
  exact registration_order_irrelevant systems defaultBackend world rfl perm (by decide)

end Simetro.Engine
