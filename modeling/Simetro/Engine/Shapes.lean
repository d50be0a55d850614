import Simetro.Engine.Passes

/-! Which parts of a tick leave nodes and paths alone. -/

namespace Simetro.Engine

open Simetro.Library Simetro.Protocol Simetro.Sl1

/-- Nodes and paths are the same. -/
structure Transit.SameShape (start now : Transit) : Prop where
  nodes : now.nodes = start.nodes
  paths : now.paths = start.paths

namespace Transit.SameShape

variable {start middle now : Transit}

theorem refl (transit : Transit) : transit.SameShape transit := ⟨rfl, rfl⟩

theorem trans (first : start.SameShape middle) (second : middle.SameShape now) :
    start.SameShape now :=
  ⟨second.nodes.trans first.nodes, second.paths.trans first.paths⟩

end Transit.SameShape

section Shapes

variable (transit : Transit)

theorem Lifecycle.run_shape : transit.SameShape (Lifecycle.run transit).1 := by
  refine List.foldlRecOn (motive := fun now : Transit × List SimEvent => transit.SameShape now.1)
    _ _ (.refl transit) fun now same spawn _ => ?_
  unfold spawnOne
  split
  · exact same
  · split
    · exact same
    · split
      · exact ⟨same.nodes, same.paths⟩
      · exact ⟨same.nodes, same.paths⟩

theorem Movement.run_shape : transit.SameShape (Movement.run transit).transit := by
  refine List.foldlRecOn (motive := fun now : Arrived => transit.SameShape now.transit)
    _ _ ⟨rfl, rfl⟩ fun now same arrival _ => ?_
  unfold arriveOne
  split
  · split
    · exact same
    · exact ⟨same.nodes, same.paths⟩
  · exact same

theorem Interaction.run_shape : transit.SameShape (Interaction.run transit).1 := by
  refine List.foldlRecOn (motive := fun now : Transit × List SimEvent => transit.SameShape now.1)
    _ _ (.refl transit) fun now same route _ => ?_
  unfold departOne
  split
  · exact same
  · split
    · exact same
    · exact ⟨same.nodes, same.paths⟩

/-- An action that does not change the topology leaves nodes and paths alone. -/
theorem applyAction_shape (display : Float32 → String) (agentId : String) {action : Action}
    (still : actionChangesTopology action = false) :
    transit.SameShape (applyAction display transit agentId action).1 := by
  unfold applyAction
  split
  · rename_i after events applied
    cases action with
    | noOp => cases applied
    | placePiece pieceKind pos => cases still
    | connectPieces source target => cases still
    | removePiece id => cases still
    | setSpeed mover speed =>
      simp only [Actions.attempt, Actions.setSpeed, bind_eq_ok] at applied
      obtain ⟨_, -, found, -, applied⟩ := applied
      split at applied
      · cases applied
      · cases applied
        exact ⟨rfl, rfl⟩
    | defineResource name color =>
      simp only [Actions.attempt, Actions.defineResource, bind_eq_ok] at applied
      obtain ⟨_, -, _, -, id, -, applied⟩ := applied
      cases applied
      exact ⟨rfl, rfl⟩
    | addProducer name amount intervalTicks =>
      simp only [Actions.attempt, Actions.addProducer, bind_eq_ok] at applied
      obtain ⟨resource, -, _, -, id, -, applied⟩ := applied
      cases applied
      exact ⟨rfl, rfl⟩
    | addConsumer name amount intervalTicks =>
      simp only [Actions.attempt, Actions.addConsumer, bind_eq_ok] at applied
      obtain ⟨resource, -, _, -, id, -, applied⟩ := applied
      cases applied
      exact ⟨rfl, rfl⟩
    | setGoal goal =>
      simp only [Actions.attempt, Actions.setGoal] at applied
      split at applied <;> cases applied
  · exact .refl transit
  · exact .refl transit

/-- An action that is not applied leaves the network as it is. -/
theorem applyAction_unapplied (display : Float32 → String) (agentId : String) {action : Action}
    (unapplied : (applyAction display transit agentId action).2.2 ≠ .applied) :
    (applyAction display transit agentId action).1 = transit := by
  unfold applyAction at unapplied ⊢
  split
  · rename_i applied
    rw [applied] at unapplied
    exact absurd rfl unapplied
  · rfl
  · rfl

end Shapes

end Simetro.Engine
