import Simetro.Engine.ActionWrites
import Simetro.Engine.Intact

/-! What an action may change: one thing where it is applied, and nothing where it is refused
or has no effect. -/

namespace Simetro.Engine

open Simetro.Library Simetro.Protocol Actions

/-- The smallest 32-bit number that is no key of the map. -/
structure SmallestFree {Element : Type} (entries : Std.ExtTreeMap Nat Element) (id : Nat) : Prop where
  small : id ≤ u32Max
  free : id ∉ entries
  taken : ∀ other < id, other ∈ entries

theorem smallestFree_of_nextDense {Element : Type} {entries : Std.ExtTreeMap Nat Element} {id : Nat}
    (found : nextDense u32Max entries.keys 0 = some id) : SmallestFree entries id := by
  obtain ⟨free, small⟩ := nextDense_fresh found
  refine ⟨small, free, ?_⟩
  intro other before
  exact Std.ExtTreeMap.mem_keys.mp (nextDense_taken found other (Nat.zero_le _) before)

/-- Inside the bounds that a commanded speed is checked against. -/
structure SpeedInRange (speed : Float32) : Prop where
  finite : speed.isFinite = true
  least : ¬speed < speedMin
  most : ¬speedMax < speed

/-- The path starts or ends at the node. -/
def Path.meets (path : Path) (id : NodeId) : Bool := path.source == id || path.target == id

/-- What an applied action makes of the network. -/
def Effect (before after : Transit) : Action → Prop
  | .noOp | .setGoal _ => False
  | .setSpeed id bits => ∃ mover, before.movers[id]? = some mover ∧ SpeedInRange (f32OfBits bits) ∧
      after = { before with movers := before.movers.insert id { mover with speed := f32OfBits bits } }
  | .placePiece _ pos => ∃ id shape, SmallestFree before.nodes id ∧
      after = { before with
        nodes := before.nodes.insert id ⟨id, (f32OfBits pos.1, f32OfBits pos.2), shape, 0⟩ }
  | .connectPieces source target => ∃ id, SmallestFree before.paths id ∧
      after = { before with paths := before.paths.insert id ⟨id, source, target, 0⟩ }
  | .removePiece id => id ∈ before.nodes ∧
      after = { before with
        nodes := before.nodes.erase id
        paths := before.paths.filter fun _ path => !path.meets id }
  | .defineResource name color => ∃ id, SmallestFree before.resources id ∧
      ((∀ stocked ∈ before.inventory, stocked ∈ before.resources) → id ∉ before.inventory) ∧
      after = { before with
        resources := before.resources.insert id ⟨id, name, color⟩
        inventory := before.inventory.insert id 0 }
  | .addProducer name amount intervalTicks => ∃ id resource,
      before.resourceIdByName name = some resource ∧ SmallestFree before.producers id ∧
      after = { before with
        producers := before.producers.insert id ⟨id, resource, amount, intervalTicks⟩ }
  | .addConsumer name amount intervalTicks => ∃ id resource,
      before.resourceIdByName name = some resource ∧ SmallestFree before.consumers id ∧
      after = { before with
        consumers := before.consumers.insert id ⟨id, resource, amount, intervalTicks⟩ }

/-- The ids that an action takes one more of, and what they are called. -/
def idPool (transit : Transit) : Action → Option (String × List Nat)
  | .placePiece .. => some ("node", transit.nodes.keys)
  | .connectPieces .. => some ("path", transit.paths.keys)
  | .defineResource .. => some ("resource", transit.resources.keys)
  | .addProducer .. => some ("producer", transit.producers.keys)
  | .addConsumer .. => some ("consumer", transit.consumers.keys)
  | .noOp | .setSpeed .. | .removePiece _ | .setGoal _ => none

namespace Actions

variable {display : Float32 → String} {transit after : Transit} {events : List SimEvent}

/-- Erasing the incident paths leaves the paths that do not meet the node. -/
theorem erase_incidentPaths (id : NodeId) :
    (incidentPaths transit id).foldl (·.erase ·) transit.paths =
      transit.paths.filter fun _ path => !path.meets id := by
  apply Std.ExtTreeMap.ext_getElem?
  intro key
  rw [foldl_erase_getElem?, Std.ExtTreeMap.getElem?_filter']
  split
  · rename_i incident
    obtain ⟨path, found, meets⟩ := mem_incidentPaths.mp incident
    have held : path.meets id = true := by simpa [Path.meets] using meets
    simp [found, Option.filter, held]
  · rename_i apart
    cases found : transit.paths[key]? with
    | none => rfl
    | some path =>
      have misses : path.meets id = false := by
        rw [← Bool.not_eq_true]
        intro meets
        exact apart (mem_incidentPaths.mpr ⟨path, found, by simpa [Path.meets] using meets⟩)
      simp [Option.filter, misses]

theorem attempt_effect {action : Action}
    (accepted : attempt display transit action = .ok (some (after, events))) :
    Effect transit after action := by
  cases action with
  | noOp => cases accepted
  | setSpeed id bits =>
    simp only [attempt, setSpeed, bind_eq_ok, reject_eq_ok, present_eq_ok] at accepted
    obtain ⟨_, inside, mover, found, accepted⟩ := accepted
    split at accepted
    · cases accepted
    · cases accepted
      obtain ⟨⟨finite, least⟩, most⟩ : ((f32OfBits bits).isFinite = true ∧
          ¬f32OfBits bits < speedMin) ∧ ¬speedMax < f32OfBits bits := by simpa using inside
      exact ⟨mover, found, ⟨finite, least, most⟩, rfl⟩
  | placePiece pieceKind pos =>
    simp only [attempt, placePiece, bind_eq_ok, present_eq_ok] at accepted
    obtain ⟨_, -, _, -, shape, -, _, -, id, dense, accepted⟩ := accepted
    cases accepted
    exact ⟨id, shape, smallestFree_of_nextDense dense, rfl⟩
  | connectPieces source target =>
    simp only [attempt, connectPieces, bind_eq_ok, present_eq_ok] at accepted
    obtain ⟨_, -, _, -, _, -, _, -, id, dense, accepted⟩ := accepted
    cases accepted
    exact ⟨id, smallestFree_of_nextDense dense, rfl⟩
  | removePiece id =>
    simp only [attempt, removePiece, bind_eq_ok, reject_eq_ok, Bool.not_eq_false'] at accepted
    obtain ⟨_, known, accepted⟩ := accepted
    split at accepted
    · cases accepted
    · cases accepted
      refine ⟨Std.ExtTreeMap.contains_iff_mem.mp known, ?_⟩
      rw [erase_incidentPaths]
  | defineResource name color =>
    simp only [attempt, defineResource, bind_eq_ok, present_eq_ok] at accepted
    obtain ⟨_, -, _, -, id, dense, accepted⟩ := accepted
    cases accepted
    have smallest := smallestFree_of_nextDense dense
    exact ⟨id, smallest, fun within stocked => smallest.free (within id stocked), rfl⟩
  | addProducer resource amount intervalTicks =>
    simp only [attempt, addProducer, bind_eq_ok, present_eq_ok] at accepted
    obtain ⟨resource, known, _, -, id, dense, accepted⟩ := accepted
    cases accepted
    exact ⟨id, resource, known, smallestFree_of_nextDense dense, rfl⟩
  | addConsumer resource amount intervalTicks =>
    simp only [attempt, addConsumer, bind_eq_ok, present_eq_ok] at accepted
    obtain ⟨resource, known, _, -, id, dense, accepted⟩ := accepted
    cases accepted
    exact ⟨id, resource, known, smallestFree_of_nextDense dense, rfl⟩
  | setGoal goal =>
    simp only [attempt, setGoal] at accepted
    split at accepted <;> cases accepted

/-- An applied action pushes events of three kinds at most. -/
theorem attempt_pushes {action : Action} {may : SimEvent → Prop}
    (speed : ∀ mover old new, may (.moverSpeedChange mover old new))
    (placed : ∀ node reason, may (.nodeHighlighted node reason)) (joined : ∀ path, may (.pathPulsed path))
    (accepted : attempt display transit action = .ok (some (after, events))) :
    ∀ event ∈ events, may event := by
  cases action with
  | noOp => cases accepted
  | setSpeed mover bits =>
    simp only [attempt, setSpeed, bind_eq_ok] at accepted
    obtain ⟨_, -, _, -, accepted⟩ := accepted
    split at accepted
    · cases accepted
    · cases accepted
      exact List.forall_mem_singleton.mpr (speed _ _ _)
  | placePiece kind pos =>
    simp only [attempt, placePiece, bind_eq_ok] at accepted
    obtain ⟨_, -, _, -, _, -, _, -, _, -, accepted⟩ := accepted
    cases accepted
    exact List.forall_mem_singleton.mpr (placed _ _)
  | connectPieces source target =>
    simp only [attempt, connectPieces, bind_eq_ok] at accepted
    obtain ⟨_, -, _, -, _, -, _, -, _, -, accepted⟩ := accepted
    cases accepted
    exact List.forall_mem_singleton.mpr (joined _)
  | removePiece id =>
    simp only [attempt, removePiece, bind_eq_ok] at accepted
    obtain ⟨_, -, accepted⟩ := accepted
    split at accepted
    · cases accepted
    · cases accepted
      exact List.forall_mem_nil _
  | defineResource name color =>
    simp only [attempt, defineResource, bind_eq_ok] at accepted
    obtain ⟨_, -, _, -, _, -, accepted⟩ := accepted
    cases accepted
    exact List.forall_mem_nil _
  | addProducer resource amount interval =>
    simp only [attempt, addProducer, bind_eq_ok] at accepted
    obtain ⟨_, -, _, -, _, -, accepted⟩ := accepted
    cases accepted
    exact List.forall_mem_nil _
  | addConsumer resource amount interval =>
    simp only [attempt, addConsumer, bind_eq_ok] at accepted
    obtain ⟨_, -, _, -, _, -, accepted⟩ := accepted
    cases accepted
    exact List.forall_mem_nil _
  | setGoal goal =>
    simp only [attempt, setGoal] at accepted
    split at accepted <;> cases accepted

section Refusals

variable {α β : Type} {reason message : String}

/-- Texts that begin differently are different. -/
theorem ne_of_take {first second : String} (count : Nat)
    (apart : first.toList.take count ≠ second.toList.take count) : first ≠ second := by
  rintro rfl
  exact apart rfl

/-- A refusal that is not the check's comes from what follows the check. -/
theorem refused_past_reject {bad : Bool} {next : Unit → Except String β} (apart : message ≠ reason)
    (refused : (reject bad message >>= next) = .error reason) : next () = .error reason := by
  rcases bind_eq_error.mp refused with here | ⟨⟨⟩, -, later⟩
  · exact absurd (reject_eq_error.mp here).2 apart
  · exact later

theorem refused_past_present {value : Option α} {next : α → Except String β}
    (apart : message ≠ reason) (refused : (present value message >>= next) = .error reason) :
    ∃ found, next found = .error reason := by
  rcases bind_eq_error.mp refused with here | ⟨found, -, later⟩
  · exact absurd (present_eq_error.mp here).2 apart
  · exact ⟨found, later⟩

theorem absent_of_refused {value : Option α} {result : α → β}
    (refused : (present value message >>= fun found => .ok (result found)) = .error reason) :
    value = none := by
  rcases bind_eq_error.mp refused with here | ⟨found, -, later⟩
  · exact (present_eq_error.mp here).1
  · cases later

end Refusals

theorem placePiece_exhausted {pieceKind : String} {pos : F32Bits × F32Bits}
    (refused : placePiece display transit pieceKind pos = .error "node id space exhausted") :
    nextNodeId transit = none := by
  unfold placePiece at refused
  have shaped := refused_past_reject (ne_of_take 1 (by simp [toString]))
    (refused_past_reject (ne_of_take 1 (by simp)) refused)
  obtain ⟨shape, placed⟩ := refused_past_present (ne_of_take 1 (by simp [toString])) shaped
  exact absent_of_refused (refused_past_reject (ne_of_take 1 (by simp [toString])) placed)

theorem connectPieces_exhausted {source target : NodeId}
    (refused : connectPieces transit source target = .error "path id space exhausted") :
    nextPathId transit = none := by
  unfold connectPieces at refused
  have unknown := refused_past_reject (ne_of_take 1 (by simp [toString]))
    (refused_past_reject (ne_of_take 1 (by simp [toString]))
      (refused_past_reject (ne_of_take 1 (by simp [toString])) refused))
  exact absent_of_refused (refused_past_reject (ne_of_take 6 (by simp [toString])) unknown)

theorem defineResource_exhausted {name : String} {color : Nat}
    (refused : defineResource transit name color = .error "resource id space exhausted") :
    nextResourceId transit = none := by
  unfold defineResource validateResourceName at refused
  simp only [bind_assoc] at refused
  have named := refused_past_reject (ne_of_take 10 (by simp [toString]))
    (refused_past_reject (ne_of_take 10 (by simp [toString]))
      (refused_past_reject (ne_of_take 10 (by simp)) refused))
  exact absent_of_refused (refused_past_reject (ne_of_take 10 (by simp [toString])) named)

theorem amounts_pass {amount intervalTicks : Nat} {reason : String} {next : Unit → Attempt}
    (letters : reason.toList.take 1 ≠ ['a'] ∧ reason.toList.take 1 ≠ ['i'])
    (refused : (validateAmountAndInterval amount intervalTicks >>= next) = .error reason) :
    next () = .error reason := by
  unfold validateAmountAndInterval at refused
  rw [bind_assoc] at refused
  refine refused_past_reject (ne_of_take 1 ?_) (refused_past_reject (ne_of_take 1 ?_) refused)
  · simpa [toString] using letters.2.symm
  · simpa [toString] using letters.1.symm

theorem addProducer_exhausted {resource : String} {amount intervalTicks : Nat}
    (refused : addProducer transit resource amount intervalTicks =
      .error "producer id space exhausted") : nextProducerId transit = none := by
  unfold addProducer at refused
  obtain ⟨id, checked⟩ := refused_past_present (ne_of_take 1 (by simp [toString])) refused
  exact absent_of_refused (amounts_pass (by simp) checked)

theorem addConsumer_exhausted {resource : String} {amount intervalTicks : Nat}
    (refused : addConsumer transit resource amount intervalTicks =
      .error "consumer id space exhausted") : nextConsumerId transit = none := by
  unfold addConsumer at refused
  obtain ⟨id, checked⟩ := refused_past_present (ne_of_take 1 (by simp [toString])) refused
  exact absent_of_refused (amounts_pass (by simp) checked)

/-- An action is refused for want of an id only where the ids are used up. -/
theorem attempt_exhausted {action : Action} {kind : String} {used : List Nat}
    (takes : idPool transit action = some (kind, used))
    (refused : attempt display transit action = .error (kind ++ " id space exhausted")) :
    nextDense u32Max used 0 = none := by
  cases action with
  | noOp | setSpeed | removePiece | setGoal => cases takes
  | placePiece pieceKind pos =>
    cases takes
    exact placePiece_exhausted refused
  | connectPieces source target =>
    cases takes
    exact connectPieces_exhausted refused
  | defineResource name color =>
    cases takes
    exact defineResource_exhausted refused
  | addProducer resource amount intervalTicks =>
    cases takes
    exact addProducer_exhausted refused
  | addConsumer resource amount intervalTicks =>
    cases takes
    exact addConsumer_exhausted refused

end Actions

/-- What `apply_action` reports goes with what it did. -/
structure ActedAsReported (agentId : String) (action : Action) (before : Writes.Stage)
    (outcome : ActionOutcome) (after : Writes.Stage) : Prop where
  kept : outcome ≠ .applied → after = before
  applied : outcome = .applied →
    Effect before.world.network after.world.network action ∧
      after.world = { before.world with network := after.world.network } ∧
      before.events <+: after.events
  exhausted : ∀ kind used, idPool before.world.network action = some (kind, used) →
    outcome = .rejected (.invalidAction agentId (kind ++ " id space exhausted")) →
    ∀ id ≤ u32Max, id ∈ used

theorem applyAction_acts (display : Float32 → String) (agentId : String) (action : Action)
    (stage : Writes.Stage) :
    ActedAsReported agentId action stage (Writes.applyAction display agentId action stage).1
      (Writes.applyAction display agentId action stage).2 := by
  rw [Writes.applyAction_eq]
  unfold applyAction
  cases tried : Actions.attempt display stage.world.network action with
  | error reason =>
    refine ⟨?_, ?_, ?_⟩
    · intro unapplied
      simp [Writes.Stage.setNetwork]
    · intro applied
      cases applied
    · intro kind used takes refused id small
      obtain rfl : reason = kind ++ " id space exhausted" := by simpa using refused
      exact nextDense_exhausted (Actions.attempt_exhausted takes tried) id (Nat.zero_le _) small
  | ok result =>
    cases result with
    | none =>
      refine ⟨?_, ?_, ?_⟩
      · intro unapplied
        simp [Writes.Stage.setNetwork]
      · intro applied
        cases applied
      · intro kind used takes refused
        cases refused
    | some result =>
      obtain ⟨network, pushed⟩ := result
      refine ⟨?_, ?_, ?_⟩
      · intro unapplied
        exact absurd rfl unapplied
      · intro applied
        exact ⟨Actions.attempt_effect tried, rfl, List.prefix_append _ _⟩
      · intro kind used takes refused
        cases refused

end Simetro.Engine
