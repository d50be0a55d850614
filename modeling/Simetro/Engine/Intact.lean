import Simetro.Engine.Passes

/-! Referential integrity of the transit network: every reference resolves and every
element stands under its own id. -/

namespace Simetro.Engine

open Simetro.Library Simetro.Protocol

section Sound

variable (nodes : Std.ExtTreeMap NodeId Node) (paths : Std.ExtTreeMap PathId Path)

structure Path.Sound (key : PathId) (path : Path) : Prop where
  own : path.id = key
  source : path.source ∈ nodes
  target : path.target ∈ nodes

/-- The node waited at, or the path travelled on, exists. -/
def MoverState.Sound : MoverState → Prop
  | .empty => True
  | .waiting node => node ∈ nodes
  | .traveling path _ => path ∈ paths

structure Mover.Sound (key : MoverId) (mover : Mover) : Prop where
  own : mover.id = key
  home : mover.homePath ∈ paths
  state : mover.state.Sound nodes paths

variable (resources : Std.ExtTreeMap ResourceId Resource)

structure Producer.Sound (key : ProducerId) (producer : Producer) : Prop where
  own : producer.id = key
  resource : producer.resource ∈ resources

structure Consumer.Sound (key : ConsumerId) (consumer : Consumer) : Prop where
  own : consumer.id = key
  resource : consumer.resource ∈ resources

/-- No two resources share a name. -/
def DistinctNames : Prop :=
  ∀ (key other : ResourceId) (one two : Resource), resources[key]? = some one →
    resources[other]? = some two → one.name = two.name → key = other

end Sound

/-- The network is referentially intact. -/
structure Transit.Intact (transit : Transit) : Prop where
  nodes : Everywhere (fun key node => node.id = key) transit.nodes
  paths : Everywhere (Path.Sound transit.nodes) transit.paths
  movers : Everywhere (Mover.Sound transit.nodes transit.paths) transit.movers
  resources : Everywhere (fun key resource => resource.id = key) transit.resources
  names : DistinctNames transit.resources
  inventory : ∀ key : ResourceId, key ∈ transit.inventory ↔ key ∈ transit.resources
  producers : Everywhere (Producer.Sound transit.resources) transit.producers
  consumers : Everywhere (Consumer.Sound transit.resources) transit.consumers

section Growth

variable {nodes moreNodes : Std.ExtTreeMap NodeId Node} {paths morePaths : Std.ExtTreeMap PathId Path}
  (nodesKept : ∀ id ∈ nodes, id ∈ moreNodes) (pathsKept : ∀ id ∈ paths, id ∈ morePaths)

include nodesKept in
theorem Path.Sound.mono {key : PathId} {path : Path} (sound : path.Sound nodes key) :
    path.Sound moreNodes key :=
  ⟨sound.own, nodesKept _ sound.source, nodesKept _ sound.target⟩

include nodesKept pathsKept

theorem MoverState.Sound.mono {state : MoverState} (sound : state.Sound nodes paths) :
    state.Sound moreNodes morePaths := by
  cases state with
  | empty => trivial
  | waiting node => exact nodesKept node sound
  | traveling path progress => exact pathsKept path sound

theorem Mover.Sound.mono {key : MoverId} {mover : Mover} (sound : mover.Sound nodes paths key) :
    mover.Sound moreNodes morePaths key :=
  ⟨sound.own, pathsKept _ sound.home, sound.state.mono nodesKept pathsKept⟩

end Growth

section Fresh

variable {Element : Type} {entries : Std.ExtTreeMap Nat Element} {id : Nat}

theorem kept_of_insert (element : Element) : ∀ key ∈ entries, key ∈ entries.insert id element := by
  intro key member
  rw [Std.ExtTreeMap.mem_insert]
  exact .inr member

/-- The next dense id of a map is a 32-bit number that is not taken. -/
theorem nextDense_fresh (found : nextDense u32Max entries.keys 0 = some id) :
    id ∉ entries ∧ id ≤ u32Max := by
  have increasing : entries.keys.Pairwise (· < ·) :=
    Std.ExtTreeMap.ordered_keys.imp fun ordered => Nat.compare_eq_lt.mp ordered
  rw [← Std.ExtTreeMap.mem_keys]
  exact ⟨nextDense_free increasing found, nextDense_within (Nat.zero_le _) found⟩

end Fresh

namespace Actions

variable {transit after : Transit} {events : List SimEvent} (intact : transit.Intact)
include intact

theorem setSpeed_intact {display : Float32 → String} {id : MoverId} {bits : F32Bits}
    (applied : setSpeed display transit id bits = .ok (some (after, events))) : after.Intact := by
  simp only [setSpeed, bind_eq_ok, reject_eq_ok, present_eq_ok] at applied
  obtain ⟨_, -, mover, found, applied⟩ := applied
  split at applied
  · cases applied
  · cases applied
    have sound := intact.movers id mover found
    exact { intact with movers := intact.movers.insert ⟨sound.own, sound.home, sound.state⟩ }

theorem placePiece_intact {display : Float32 → String} {pieceKind : String} {pos : F32Bits × F32Bits}
    (applied : placePiece display transit pieceKind pos = .ok (some (after, events))) :
    after.Intact := by
  simp only [placePiece, bind_eq_ok, reject_eq_ok, present_eq_ok] at applied
  obtain ⟨_, -, _, -, shape, -, _, -, id, -, applied⟩ := applied
  cases applied
  exact { intact with
    nodes := intact.nodes.insert rfl
    paths := intact.paths.mono fun _ _ _ sound => sound.mono (kept_of_insert _)
    movers := intact.movers.mono fun _ _ _ sound =>
      sound.mono (kept_of_insert _) fun _ member => member }

omit intact in
/-- A piece is placed under an id of its own and changes no other. -/
theorem placePiece_new {display : Float32 → String} {pieceKind : String} {pos : F32Bits × F32Bits}
    (applied : placePiece display transit pieceKind pos = .ok (some (after, events))) :
    ∃ id node, id ∉ transit.nodes ∧ id ≤ u32Max ∧
      after = { transit with nodes := transit.nodes.insert id node } := by
  simp only [placePiece, bind_eq_ok, reject_eq_ok, present_eq_ok] at applied
  obtain ⟨_, -, _, -, shape, -, _, -, id, dense, applied⟩ := applied
  cases applied
  obtain ⟨fresh, small⟩ := nextDense_fresh dense
  exact ⟨id, _, fresh, small, rfl⟩

theorem connectPieces_intact {source target : NodeId}
    (applied : connectPieces transit source target = .ok (some (after, events))) : after.Intact := by
  simp only [connectPieces, bind_eq_ok, reject_eq_ok, present_eq_ok, Bool.not_eq_false'] at applied
  obtain ⟨_, -, _, sourceKnown, _, targetKnown, _, -, id, -, applied⟩ := applied
  cases applied
  have sourceMember := Std.ExtTreeMap.contains_iff_mem.mp sourceKnown
  have targetMember := Std.ExtTreeMap.contains_iff_mem.mp targetKnown
  exact { intact with
    paths := intact.paths.insert ⟨rfl, sourceMember, targetMember⟩
    movers := intact.movers.mono fun _ _ _ sound =>
      sound.mono (fun _ member => member) (kept_of_insert _) }

omit intact in
/-- A mover that does not hold the node has neither its home nor its place on an incident path. -/
theorem heldBy_eq_none {id : NodeId} {incident : List PathId} {mover : Mover}
    (free : heldBy id incident mover = none) : mover.homePath ∉ incident ∧
      (∀ node, mover.state = .waiting node → node ≠ id) ∧
      ∀ path progress, mover.state = .traveling path progress → path ∉ incident := by
  unfold heldBy at free
  cases place : mover.state with
  | empty => simpa [place] using free
  | waiting node =>
    simp only [place] at free
    split at free
    · cases free
    · rename_i apart
      simpa [apart] using free
  | traveling path progress =>
    simp only [place] at free
    split at free
    · cases free
    · rename_i apart
      simpa [apart] using free

omit intact in
theorem mem_incidentPaths {id : NodeId} {key : PathId} : key ∈ incidentPaths transit id ↔
    ∃ path, transit.paths[key]? = some path ∧ (path.source = id ∨ path.target = id) := by
  simp only [incidentPaths, List.mem_map, List.mem_filter, Bool.or_eq_true, beq_iff_eq]
  constructor
  · rintro ⟨⟨listed, path⟩, ⟨row, incident⟩, rfl⟩
    exact ⟨path, Std.ExtTreeMap.mem_toList_iff_getElem?_eq_some.mp row, incident⟩
  · rintro ⟨path, found, incident⟩
    exact ⟨(key, path), ⟨Std.ExtTreeMap.mem_toList_iff_getElem?_eq_some.mpr found, incident⟩, rfl⟩

theorem removePiece_intact {id : NodeId}
    (applied : removePiece transit id = .ok (some (after, events))) : after.Intact := by
  simp only [removePiece, bind_eq_ok, reject_eq_ok] at applied
  obtain ⟨_, -, applied⟩ := applied
  split at applied
  · cases applied
  · rename_i free
    cases applied
    have nodeKept (key : NodeId) (apart : key ≠ id) (member : key ∈ transit.nodes) :
        key ∈ transit.nodes.erase id := by
      rw [Std.ExtTreeMap.mem_erase]
      exact ⟨fun same => apart (Std.LawfulEqCmp.compare_eq_iff_eq.mp same).symm, member⟩
    have pathKept (key : PathId) (apart : key ∉ incidentPaths transit id)
        (member : key ∈ transit.paths) :
        key ∈ (incidentPaths transit id).foldl (·.erase ·) transit.paths := by
      rw [Std.ExtTreeMap.mem_iff_isSome_getElem?, foldl_erase_getElem?, if_neg apart]
      exact Std.ExtTreeMap.mem_iff_isSome_getElem?.mp member
    refine { intact with nodes := intact.nodes.erase id, paths := ?_, movers := ?_ }
    · intro key path found
      rw [foldl_erase_getElem?] at found
      split at found
      · cases found
      · rename_i apart
        have sound := intact.paths key path found
        have ends : ¬(path.source = id ∨ path.target = id) := fun incident =>
          apart (mem_incidentPaths.mpr ⟨path, found, incident⟩)
        exact ⟨sound.own, nodeKept _ (fun same => ends (.inl same)) sound.source,
          nodeKept _ (fun same => ends (.inr same)) sound.target⟩
    · intro key mover found
      have sound := intact.movers key mover found
      obtain ⟨home, waits, travels⟩ := heldBy_eq_none
        (List.findSome?_eq_none_iff.mp free _ (Std.ExtTreeMap.mem_toList_iff_getElem?_eq_some.mpr found))
      refine ⟨sound.own, pathKept _ home sound.home, ?_⟩
      have place := sound.state
      cases state : mover.state with
      | empty => trivial
      | waiting node =>
        rw [state] at place
        exact nodeKept node (waits node state) place
      | traveling path progress =>
        rw [state] at place
        exact pathKept path (travels path progress state) place

theorem defineResource_intact {name : String} {color : Nat}
    (applied : defineResource transit name color = .ok (some (after, events))) : after.Intact := by
  simp only [defineResource, bind_eq_ok, reject_eq_ok, present_eq_ok] at applied
  obtain ⟨_, -, _, unused, id, -, applied⟩ := applied
  cases applied
  have unnamed (key : ResourceId) (resource : Resource) (found : transit.resources[key]? = some resource) :
      resource.name ≠ name := by
    have listed := Std.ExtTreeMap.mem_toList_iff_getElem?_eq_some.mpr found
    simpa using List.any_eq_false.mp unused _ listed
  refine { intact with
    resources := intact.resources.insert rfl
    names := ?_
    inventory := ?_
    producers := intact.producers.mono fun _ _ _ sound => ⟨sound.own, kept_of_insert _ _ sound.resource⟩
    consumers := intact.consumers.mono fun _ _ _ sound => ⟨sound.own, kept_of_insert _ _ sound.resource⟩ }
  · intro key other one two first second same
    rw [Std.ExtTreeMap.getElem?_insert] at first second
    split at first
    · rename_i atKey
      split at second
      · rename_i atOther
        exact (Std.LawfulEqCmp.compare_eq_iff_eq.mp atKey).symm.trans
          (Std.LawfulEqCmp.compare_eq_iff_eq.mp atOther)
      · obtain rfl := Option.some.inj first
        exact absurd same.symm (unnamed other two second)
    · split at second
      · obtain rfl := Option.some.inj second
        exact absurd same (unnamed key one first)
      · exact intact.names key other one two first second same
  · intro key
    rw [Std.ExtTreeMap.mem_insert, Std.ExtTreeMap.mem_insert, intact.inventory key]

theorem resourceIdByName_mem {name : String} {id : ResourceId}
    (found : transit.resourceIdByName name = some id) : id ∈ transit.resources := by
  obtain ⟨⟨key, resource⟩, located, rfl⟩ := Option.map_eq_some_iff.mp found
  have member := Std.ExtTreeMap.mem_toList_iff_getElem?_eq_some.mp (List.mem_of_find?_eq_some located)
  have own : resource.id = key := intact.resources key resource member
  subst own
  exact mem_of_getElem? member

theorem addProducer_intact {resource : String} {amount intervalTicks : Nat}
    (applied : addProducer transit resource amount intervalTicks = .ok (some (after, events))) :
    after.Intact := by
  simp only [addProducer, bind_eq_ok, present_eq_ok] at applied
  obtain ⟨resource, found, _, -, id, -, applied⟩ := applied
  cases applied
  have known := resourceIdByName_mem intact found
  exact { intact with producers := intact.producers.insert ⟨rfl, known⟩ }

theorem addConsumer_intact {resource : String} {amount intervalTicks : Nat}
    (applied : addConsumer transit resource amount intervalTicks = .ok (some (after, events))) :
    after.Intact := by
  simp only [addConsumer, bind_eq_ok, present_eq_ok] at applied
  obtain ⟨resource, found, _, -, id, -, applied⟩ := applied
  cases applied
  have known := resourceIdByName_mem intact found
  exact { intact with consumers := intact.consumers.insert ⟨rfl, known⟩ }

theorem attempt_intact {display : Float32 → String} {action : Action}
    (applied : attempt display transit action = .ok (some (after, events))) : after.Intact := by
  cases action with
  | noOp => cases applied
  | setSpeed mover speed => exact setSpeed_intact intact applied
  | placePiece pieceKind pos => exact placePiece_intact intact applied
  | connectPieces source target => exact connectPieces_intact intact applied
  | removePiece id => exact removePiece_intact intact applied
  | defineResource name color => exact defineResource_intact intact applied
  | addProducer resource amount intervalTicks => exact addProducer_intact intact applied
  | addConsumer resource amount intervalTicks => exact addConsumer_intact intact applied
  | setGoal goal =>
    simp only [attempt, setGoal] at applied
    split at applied <;> cases applied

end Actions

theorem applyAction_intact {transit : Transit} (intact : transit.Intact) (display : Float32 → String)
    (agentId : String) (action : Action) : (applyAction display transit agentId action).1.Intact := by
  unfold applyAction
  split
  · rename_i applied
    exact Actions.attempt_intact intact applied
  · exact intact
  · exact intact

end Simetro.Engine
