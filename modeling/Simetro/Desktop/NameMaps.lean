import Simetro.Desktop.SceneBuild
import Simetro.Engine.ActionEffects
import Simetro.Engine.NetworkRuns

/-! The names of nodes and paths in the static payload, while actions make and remove pieces. The
names come from the load and ids are used again, so that they fit as long as no node of the scene
file is removed, and not after that. -/

namespace Simetro.Desktop

open Simetro.Engine Simetro.Library Simetro.Protocol

/-- What the payload names and actions make and remove. -/
inductive ElementKind where
  | node
  | path
  deriving DecidableEq

namespace ElementKind

def ids (transit : Transit) : ElementKind → List Nat
  | .node => transit.nodes.keys
  | .path => transit.paths.keys

def loaded (idMap : SceneIdMap) : ElementKind → Std.ExtTreeMap Nat String
  | .node => idMap.nodes.names
  | .path => idMap.paths.names

def shown {Mirror : Type} (payload : StaticPayload Mirror) : ElementKind → Std.ExtTreeMap Nat String
  | .node => payload.nodeNames
  | .path => payload.pathNames

end ElementKind

/-- The network now, and before each action that was applied to it, the latest first. -/
structure EditSession where
  network : Transit
  earlier : List Transit := []

namespace EditSession

/-- One action of an agent: `none` where it is not applied. -/
def apply (display : Float32 → String) (session : EditSession) (step : String × Action) :
    Option EditSession :=
  match applyAction display session.network step.1 step.2 with
  | (network, _, .applied) => some ⟨network, session.network :: session.earlier⟩
  | _ => none

/-- The payload a driver sends after the actions. -/
def payload {Mirror : Type} (mirror : Option Sl1.Sl1Scene → Mirror) (scene : LoadedScene)
    (session : EditSession) : StaticPayload Mirror :=
  Snapshot.encodeStaticParts mirror scene.name scene.theme scene.idMap
    { scene.world with network := session.network }

/-- At some moment of the session nothing had the id. -/
def Missed (session : EditSession) (kind : ElementKind) (id : Nat) : Prop :=
  ∃ network ∈ session.network :: session.earlier, id ∉ kind.ids network

/-- What is there now and was not at some moment was made by an action. -/
def Made (session : EditSession) (kind : ElementKind) (id : Nat) : Prop :=
  id ∈ kind.ids session.network ∧ session.Missed kind id

/-- An element of the scene file that an action has removed. -/
def Removed (scene : LoadedScene) (session : EditSession) (kind : ElementKind) (id : Nat) : Prop :=
  id ∈ kind.loaded scene.idMap ∧ session.Missed kind id

/-- The names are of what is there, and nothing made since goes by the name of what was removed. -/
structure NamesMatch {Mirror : Type} (mirror : Option Sl1.Sl1Scene → Mirror) (scene : LoadedScene)
    (session : EditSession) : Prop where
  keys : ∀ (kind : ElementKind) (id : Nat), id ∈ kind.shown (session.payload mirror scene) ↔ id ∈ kind.ids session.network
  own : ∀ (kind : ElementKind) (id : Nat), session.Made kind id → ∀ other removed, session.Removed scene other removed →
    (kind.shown (session.payload mirror scene))[id]? ≠ (other.loaded scene.idMap)[removed]?

end EditSession

namespace Snapshot

theorem nameMap_getElem? (kind : String) (names : Std.ExtTreeMap Nat String) (ids : List Nat) (id : Nat) :
    (nameMap kind names ids)[id]? =
      names[id]?.or (if id ∈ ids then some s!"{kind}_{id}" else none) := by
  unfold nameMap
  induction ids generalizing names with
  | nil => simp
  | cons head rest ih =>
    rw [List.foldl_cons, ih, Std.ExtTreeMap.getElem?_insertIfNew]
    by_cases same : head = id
    · subst same
      by_cases known : head ∈ names
      · simp [known]
      · simp [known]
    · simp [same, Ne.symm same]

/-- The loaded name stays, whatever is under the id now. -/
theorem nameMap_loaded {kind name : String} {names : Std.ExtTreeMap Nat String} {id : Nat}
    (loaded : names[id]? = some name) (ids : List Nat) : (nameMap kind names ids)[id]? = some name := by
  rw [nameMap_getElem?, loaded, Option.some_or]

theorem mem_nameMap {kind : String} {names : Std.ExtTreeMap Nat String} {ids : List Nat} {id : Nat} :
    id ∈ nameMap kind names ids ↔ id ∈ names ∨ id ∈ ids := by
  rw [Std.ExtTreeMap.mem_iff_isSome_getElem?, nameMap_getElem?, Std.ExtTreeMap.mem_iff_isSome_getElem?,
    Option.isSome_or, Bool.or_eq_true]
  by_cases listed : id ∈ ids <;> simp [listed]

end Snapshot

section Loaded

open SceneLoader

/-- A section names the elements it loads. -/
theorem loadSection_names {Raw Element : Type} {sectionName : String} {name : Raw → String}
    {build : Nat → Raw → Loading Element} {raws : List Raw} {index : Nat} {before interning : Interning}
    {existing elements : Std.ExtTreeMap Nat Element} (named : ∀ id, id ∈ before.names ↔ id ∈ existing)
    (success : loadSection sectionName name build raws index before existing =
      .ok (interning, elements)) (id : Nat) : id ∈ interning.names ↔ id ∈ elements := by
  induction raws generalizing index before existing with
  | nil =>
    cases success
    exact named id
  | cons raw rest ih =>
    simp only [loadSection, bind_eq_ok] at success
    obtain ⟨_, -, _, -, element, -, later⟩ := success
    refine ih (fun other => ?_) later
    rw [Std.ExtTreeMap.mem_insert, Std.ExtTreeMap.mem_insert, named]

theorem validate_names {llmLive : Bool} {raw : RawScene} {scene : LoadedScene}
    (accepted : SceneLoader.validate llmLive raw = .ok scene) (kind : ElementKind) (id : Nat) :
    id ∈ kind.loaded scene.idMap ↔ id ∈ kind.ids scene.world.network := by
  simp only [SceneLoader.validate, bind_eq_ok] at accepted
  obtain ⟨theme, -, ⟨nodeIds, nodes⟩, nodesRead, ⟨pathIds, paths⟩, pathsRead, ⟨moverIds, movers⟩, -,
    ⟨resourceIds, resources⟩, -, inventory, -, ⟨producerIds, producers⟩, -,
    ⟨consumerIds, consumers⟩, -, agents, -, sl1, -, same⟩ := accepted
  cases same
  cases kind with
  | node => exact (loadSection_names (fun _ => by simp) nodesRead id).trans Std.ExtTreeMap.mem_keys.symm
  | path => exact (loadSection_names (fun _ => by simp) pathsRead id).trans Std.ExtTreeMap.mem_keys.symm

end Loaded

section Effects

variable {before after : Transit} {action : Action}

theorem node_stays (effect : Effect before after action) {id : NodeId} (there : id ∈ before.nodes)
    (spared : action ≠ .removePiece id) : id ∈ after.nodes := by
  cases action with
  | noOp | setGoal => cases effect
  | placePiece kind pos =>
    obtain ⟨other, shape, -, rfl⟩ := effect
    exact Std.ExtTreeMap.mem_insert.mpr (.inr there)
  | removePiece other =>
    obtain ⟨-, rfl⟩ := effect
    have apart : compare other id ≠ .eq := fun same =>
      spared (congrArg Action.removePiece (Std.LawfulEqCmp.compare_eq_iff_eq.mp same))
    exact Std.ExtTreeMap.mem_erase.mpr ⟨apart, there⟩
  | setSpeed mover bits =>
    obtain ⟨_, -, -, rfl⟩ := effect
    exact there
  | connectPieces source target =>
    obtain ⟨_, -, rfl⟩ := effect
    exact there
  | defineResource name color =>
    obtain ⟨_, -, -, rfl⟩ := effect
    exact there
  | addProducer name amount intervalTicks =>
    obtain ⟨_, _, -, -, rfl⟩ := effect
    exact there
  | addConsumer name amount intervalTicks =>
    obtain ⟨_, _, -, -, rfl⟩ := effect
    exact there

theorem path_stays (effect : Effect before after action) {id : PathId} {path : Path}
    (found : before.paths[id]? = some path)
    (spared : ∀ node, action = .removePiece node → path.meets node = false) :
    after.paths[id]? = some path := by
  cases action with
  | noOp | setGoal => cases effect
  | connectPieces source target =>
    obtain ⟨other, smallest, rfl⟩ := effect
    have apart : other ≠ id := by
      rintro rfl
      exact smallest.free (mem_of_getElem? found)
    exact (getElem?_insert_of_ne apart _).trans found
  | removePiece node =>
    obtain ⟨-, rfl⟩ := effect
    rw [Std.ExtTreeMap.getElem?_filter', found]
    simp [Option.filter, spared node rfl]
  | setSpeed mover bits =>
    obtain ⟨_, -, -, rfl⟩ := effect
    exact found
  | placePiece kind pos =>
    obtain ⟨_, _, -, rfl⟩ := effect
    exact found
  | defineResource name color =>
    obtain ⟨_, -, -, rfl⟩ := effect
    exact found
  | addProducer name amount intervalTicks =>
    obtain ⟨_, _, -, -, rfl⟩ := effect
    exact found
  | addConsumer name amount intervalTicks =>
    obtain ⟨_, _, -, -, rfl⟩ := effect
    exact found

end Effects

namespace EditSession

variable {display : Float32 → String} {session next : EditSession} {step : String × Action}
  {kind : ElementKind} {id : Nat}

theorem apply_effect (applied : session.apply display step = some next) :
    Effect session.network next.network step.2 ∧ next.earlier = session.network :: session.earlier := by
  unfold apply applyAction at applied
  cases tried : Actions.attempt display session.network step.2 with
  | error reason =>
    rw [tried] at applied
    cases applied
  | ok made =>
    rw [tried] at applied
    cases made with
    | none => cases applied
    | some made =>
      cases applied
      exact ⟨Actions.attempt_effect tried, rfl⟩

/-- What was missed is missed for good. -/
theorem missed_apply (applied : session.apply display step = some next) :
    next.Missed kind id ↔ id ∉ kind.ids next.network ∨ session.Missed kind id := by
  unfold Missed
  rw [(apply_effect applied).2, List.exists_mem_cons_iff]

theorem missed_run {steps : List (String × Action)}
    (ran : steps.foldlM (apply display) session = some next) (missed : session.Missed kind id) :
    next.Missed kind id := by
  induction steps generalizing session with
  | nil =>
    cases ran
    exact missed
  | cons step rest ih =>
    obtain ⟨middle, applied, later⟩ := Option.bind_eq_some_iff.mp ran
    exact ih later ((missed_apply applied).mpr (.inr missed))

/-- A node that some action of the run removes is missed. -/
theorem missed_of_removed {steps : List (String × Action)}
    (ran : steps.foldlM (apply display) session = some next) {agentId : String}
    (listed : (agentId, .removePiece id) ∈ steps) : next.Missed .node id := by
  induction steps generalizing session with
  | nil => cases listed
  | cons step rest ih =>
    obtain ⟨middle, applied, later⟩ := Option.bind_eq_some_iff.mp ran
    rcases List.mem_cons.mp listed with rfl | rest
    · obtain ⟨-, same⟩ := (apply_effect applied).1
      refine missed_run later ((missed_apply applied).mpr (.inl ?_))
      rw [same]
      exact fun found => (Std.ExtTreeMap.mem_erase.mp (Std.ExtTreeMap.mem_keys.mp found)).1
        Std.ReflCmp.compare_self
    · exact ih later rest

/-- Everything of the scene file has been there all the time, its paths as they were. -/
structure Spared (scene : LoadedScene) (session : EditSession) : Prop where
  kept : ∀ (kind : ElementKind) (id : Nat), id ∈ kind.loaded scene.idMap → ¬ session.Missed kind id
  paths : ∀ (id : PathId) (path : Path), scene.world.network.paths[id]? = some path →
    session.network.paths[id]? = some path

section Scene

variable {llmLive : Bool} {raw : RawScene} {scene : LoadedScene}
  (accepted : SceneLoader.validate llmLive raw = .ok scene)
include accepted

theorem spared_load : Spared scene { network := scene.world.network } := by
  refine ⟨fun kind id loaded => ?_, fun _ _ found => found⟩
  rintro ⟨network, listed, absent⟩
  rw [List.mem_singleton.mp listed] at absent
  exact absent ((validate_names accepted kind id).mp loaded)

theorem spared_apply (spared : session.Spared scene) (applied : session.apply display step = some next)
    (spares : ∀ id, step.2 = .removePiece id → id ∉ scene.idMap.nodes.names) : next.Spared scene := by
  have intact := SceneLoader.validate_intact accepted
  obtain ⟨effect, -⟩ := apply_effect applied
  have paths (id : PathId) (path : Path) (found : scene.world.network.paths[id]? = some path) :
      next.network.paths[id]? = some path := by
    refine path_stays effect (spared.paths id path found) fun node removed => ?_
    have sound := intact.paths id path found
    -- both ends of a loaded path are loaded nodes
    have loaded {other : NodeId} (there : other ∈ scene.world.network.nodes) : other ≠ node := by
      rintro rfl
      exact spares other removed
        ((validate_names accepted .node other).mpr (Std.ExtTreeMap.mem_keys.mpr there))
    simp [Path.meets, loaded sound.source, loaded sound.target]
  refine ⟨fun kind id loaded => ?_, paths⟩
  have before := spared.kept kind id loaded
  rw [missed_apply applied]
  refine not_or.mpr ⟨not_not.mpr ?_, before⟩
  cases kind with
  | node =>
    have there : id ∈ session.network.nodes := by
      by_contra absent
      exact before ⟨_, List.mem_cons_self, fun listed => absent (Std.ExtTreeMap.mem_keys.mp listed)⟩
    exact Std.ExtTreeMap.mem_keys.mpr
      (node_stays effect there fun removed => spares id removed loaded)
  | path =>
    have there := Std.ExtTreeMap.mem_keys.mp ((validate_names accepted .path id).mp loaded)
    obtain ⟨path, found⟩ :=
      Option.isSome_iff_exists.mp (Std.ExtTreeMap.mem_iff_isSome_getElem?.mp there)
    exact Std.ExtTreeMap.mem_keys.mpr (mem_of_getElem? (paths id path found))

theorem spared_run {steps : List (String × Action)} (spared : session.Spared scene)
    (ran : steps.foldlM (apply display) session = some next)
    (spares : ∀ agentId id, (agentId, .removePiece id) ∈ steps → id ∉ scene.idMap.nodes.names) :
    next.Spared scene := by
  induction steps generalizing session with
  | nil =>
    cases ran
    exact spared
  | cons step rest ih =>
    obtain ⟨middle, applied, later⟩ := Option.bind_eq_some_iff.mp ran
    refine ih (spared_apply accepted spared applied fun id removed => ?_) later
      fun agentId id listed => spares agentId id (List.mem_cons_of_mem step listed)
    exact spares step.1 id (removed ▸ List.mem_cons_self)

end Scene

section Names

variable {Mirror : Type} (mirror : Option Sl1.Sl1Scene → Mirror) (scene : LoadedScene)
  (session : EditSession)

theorem mem_shown : id ∈ kind.shown (session.payload mirror scene) ↔
    id ∈ kind.loaded scene.idMap ∨ id ∈ kind.ids session.network := by
  cases kind with
  | node => exact Snapshot.mem_nameMap
  | path => exact Snapshot.mem_nameMap

theorem shown_loaded {name : String} (loaded : (kind.loaded scene.idMap)[id]? = some name) :
    (kind.shown (session.payload mirror scene))[id]? = some name := by
  cases kind with
  | node => exact Snapshot.nameMap_loaded loaded _
  | path => exact Snapshot.nameMap_loaded loaded _

variable {mirror scene session}

theorem Spared.namesMatch (spared : session.Spared scene) : session.NamesMatch mirror scene := by
  refine ⟨fun kind id => ?_, fun _ _ _ other removed gone => ?_⟩
  · rw [mem_shown, or_iff_right_of_imp]
    intro loaded
    by_contra absent
    exact spared.kept kind id loaded ⟨_, List.mem_cons_self, absent⟩
  · exact absurd gone.2 (spared.kept other removed gone.1)

/-- A removed element leaves its name behind: for nothing, or for what took its id. -/
theorem NamesMatch.not_removed (matched : session.NamesMatch mirror scene) :
    ¬ session.Removed scene kind id := by
  rintro ⟨loaded, missed⟩
  obtain ⟨name, named⟩ :=
    Option.isSome_iff_exists.mp (Std.ExtTreeMap.mem_iff_isSome_getElem?.mp loaded)
  have there := (matched.keys kind id).mp ((mem_shown mirror scene session).mpr (.inl loaded))
  refine matched.own kind id ⟨there, missed⟩ kind id ⟨loaded, missed⟩ ?_
  rw [shown_loaded mirror scene session named, named]

end Names

end EditSession

open EditSession

/-- After a run of applied actions the names match what is there exactly where no action of the
run removes a node of the scene file. -/
theorem names_match_iff {Mirror : Type} (mirror : Option Sl1.Sl1Scene → Mirror) {llmLive : Bool}
    {raw : RawScene} {scene : LoadedScene}
    (accepted : SceneLoader.validate llmLive raw = .ok scene) {display : Float32 → String}
    {steps : List (String × Action)} {session : EditSession}
    (ran : steps.foldlM (EditSession.apply display) { network := scene.world.network } = some session) :
    session.NamesMatch mirror scene ↔
      ∀ agentId id, (agentId, .removePiece id) ∈ steps → id ∉ scene.idMap.nodes.names := by
  constructor
  · intro matched agentId id listed loaded
    have removed : session.Removed scene .node id := ⟨loaded, missed_of_removed ran listed⟩
    exact matched.not_removed removed
  · intro spares
    exact (spared_run accepted (spared_load accepted) ran spares).namesMatch

/-- The shuttle beside a depot that no line leads to. -/
def depotScene : RawScene :=
  { shuttleScene with pieces := { shuttleScene.pieces with
      nodes := shuttleScene.pieces.nodes ++ [⟨"depot", (20.0, 0.0), .diamond, 1⟩] } }

/-- A station built, joined to the line and taken away again. -/
def detour : List (String × Action) :=
  [("builder", .placePiece "node_square" (0, 0)), ("builder", .connectPieces 1 3),
    ("builder", .removePiece 3)]

/-- The depot goes, and a station is built under its id. -/
def rebuilding : List (String × Action) :=
  [("builder", .removePiece 2), ("builder", .placePiece "node_square" (0, 0))]

def edited (scene : LoadedScene) (steps : List (String × Action)) : Option EditSession :=
  steps.foldlM (EditSession.apply fun _ => "") { network := scene.world.network }

theorem names_match_detour : ∃ scene session, SceneLoader.validate false depotScene = .ok scene ∧
    edited scene detour = some session ∧ session.NamesMatch (fun _ => ()) scene := by
  have evaluated : yields (SceneLoader.validate false depotScene) (fun scene =>
      (edited scene detour).isSome && !scene.idMap.nodes.names.contains 3) = true := by
    decide +kernel
  obtain ⟨scene, accepted, read⟩ := yields_iff.mp evaluated
  rw [Bool.and_eq_true, Bool.not_eq_true', Option.isSome_iff_exists] at read
  obtain ⟨⟨session, ran⟩, later⟩ := read
  refine ⟨scene, session, accepted, ran, (names_match_iff _ accepted ran).mpr ?_⟩
  rintro agentId id listed loaded
  obtain ⟨-, same⟩ : agentId = "builder" ∧ id = 3 := by simpa [detour] using listed
  rw [← Std.ExtTreeMap.contains_iff_mem, same, later] at loaded
  cases loaded

/-- The name of the removed depot stays, at first of nothing and then of the station built since. -/
theorem names_linger : ∃ scene gone rebuilt, SceneLoader.validate false depotScene = .ok scene ∧
    edited scene (rebuilding.take 1) = some gone ∧ ¬ gone.NamesMatch (fun _ => ()) scene ∧
    2 ∉ gone.network.nodes ∧ (gone.payload (fun _ => ()) scene).nodeNames[2]? = some "depot" ∧
    edited scene rebuilding = some rebuilt ∧ ¬ rebuilt.NamesMatch (fun _ => ()) scene ∧
    rebuilt.Made .node 2 ∧ (rebuilt.payload (fun _ => ()) scene).nodeNames[2]? = some "depot" := by
  have evaluated : yields (SceneLoader.validate false depotScene) (fun scene =>
      scene.idMap.nodes.names[2]? = some "depot" &&
      (edited scene (rebuilding.take 1)).any (fun gone => !gone.network.nodes.contains 2) &&
      (edited scene rebuilding).any fun rebuilt => rebuilt.network.nodes.contains 2) = true := by
    decide +kernel
  obtain ⟨scene, accepted, read⟩ := yields_iff.mp evaluated
  simp only [Bool.and_eq_true, Option.any_eq_true, Bool.not_eq_true', decide_eq_true_eq] at read
  obtain ⟨⟨named, gone, first, absent⟩, rebuilt, second, there⟩ := read
  have loaded : 2 ∈ scene.idMap.nodes.names := mem_of_getElem? named
  have missed : gone.Missed .node 2 := missed_of_removed first List.mem_cons_self
  have missedToo : rebuilt.Missed .node 2 := missed_of_removed second List.mem_cons_self
  refine ⟨scene, gone, rebuilt, accepted, first, fun matched => matched.not_removed ⟨loaded, missed⟩,
    fun listed => ?_, @shown_loaded .node _ _ _ _ _ _ named, second,
    fun matched => matched.not_removed ⟨loaded, missedToo⟩, ⟨?_, missedToo⟩,
    @shown_loaded .node _ _ _ _ _ _ named⟩
  · rw [← Std.ExtTreeMap.contains_iff_mem, absent] at listed
    cases listed
  · exact Std.ExtTreeMap.mem_keys.mpr (Std.ExtTreeMap.contains_iff_mem.mp there)

end Simetro.Desktop
