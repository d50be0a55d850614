import Simetro.Desktop.SceneBuild
import Simetro.Engine.BlockRuns
import Simetro.Sl1.PredicateTemplates
import Simetro.Sl1.References
import Simetro.Sl1.ValidIds

/-! How the page draws a scene of the scenario language that has no geometry of its own: its places
become nodes and its links paths, numbered in the order of their ids. -/

namespace Simetro.Frontend

open Simetro.Desktop Simetro.Engine Simetro.Library Simetro.Sl1

/-! ## What the payload repeats of the block -/

structure Sl1PlaceView where
  id : String
  role : String
  pos : Float32 × Float32
  shape : Option String
  color : Option Nat

structure Sl1LinkView where
  id : String
  source : String
  target : String
  direction : String

structure Sl1Block where
  places : List Sl1PlaceView
  links : List Sl1LinkView

def placeToView (place : Sl1Place) : Sl1PlaceView :=
  ⟨place.id, place.role, place.pos, place.shape, place.color⟩

def directionToView : Sl1LinkDirection → String
  | .forward => "forward"
  | .bidirectional => "bidirectional"

def linkToView (link : Sl1Link) : Sl1LinkView :=
  ⟨link.id, link.source, link.target, directionToView link.direction⟩

def sl1Block (block : Option Sl1Scene) : Sl1Block where
  places := (block.map fun scene => scene.places.map placeToView).getD []
  links := (block.map fun scene => scene.links.map linkToView).getD []

/-! ## The order of ids -/

/-- Scripts compare strings by their code units. -/
def compareIds (a b : String) : Ordering :=
  if codeUnits a < codeUnits b then .lt else if codeUnits b < codeUnits a then .gt else .eq

def sortById {Entry : Type} (id : Entry → String) (entries : List Entry) : List Entry :=
  entries.mergeSort fun a b => (compareIds (id a) (id b)).isLE

section Order

theorem compareIds_isLE {a b : String} :
    (compareIds a b).isLE = true ↔ codeUnits a ≤ codeUnits b := by
  unfold compareIds
  by_cases less : codeUnits a < codeUnits b
  · simp [less, le_of_lt less]
  · by_cases more : codeUnits b < codeUnits a
    · simp [less, more]
    · simp [less, more, not_lt.mp more]

variable {Entry : Type} {id : Entry → String} {entries : List Entry}

theorem sortById_of_increasing
    (increasing : entries.Pairwise fun a b => codeUnits (id a) < codeUnits (id b)) :
    sortById id entries = entries :=
  List.mergeSort_of_pairwise (increasing.imp fun less => compareIds_isLE.mpr (le_of_lt less))

end Order

/-! ## Roles -/

/-- Where the code reads a property that is not there, the value is missing. -/
structure RoleHint where
  shape : Option NodeShapeTag
  color : Option Nat

/-- The properties that every object inherits. -/
def inheritedNames : List String :=
  ["constructor", "hasOwnProperty", "isPrototypeOf", "propertyIsEnumerable", "toLocaleString",
    "toString", "valueOf", "__proto__", "__defineGetter__", "__defineSetter__",
    "__lookupGetter__", "__lookupSetter__"]

/-- A role's entry of the table. An inherited property is found as well and has no hints. -/
def roleHints (role : String) : Option RoleHint :=
  if role = "source" then some ⟨some .circle, some 2⟩
  else if role = "compute_cluster" then some ⟨some .hexagon, some 4⟩
  else if role = "dashboard" then some ⟨some .square, some 5⟩
  else if role = "operator" then some ⟨some .diamond, some 6⟩
  else if role ∈ inheritedNames then some ⟨none, none⟩
  else none

def fallbackHint : RoleHint := ⟨some .circle, some 1⟩

def nodeShapeTag (s : String) : Option NodeShapeTag :=
  if s = "circle" then some .circle
  else if s = "square" then some .square
  else if s = "triangle" then some .triangle
  else if s = "diamond" then some .diamond
  else if s = "hexagon" then some .hexagon
  else none

/-- A missing color stays missing: it is clamped to no number. -/
def clampColor (paletteLen : Nat) (c : Option Nat) : Option Nat :=
  if paletteLen > 0 then c.map fun c => max 0 (min (paletteLen - 1) c) else some 0

/-! ## The projection -/

inductive Arrow where
  | forward
  | bidirectional
  deriving DecidableEq

structure DrawnNode where
  id : Nat
  pos : Float32 × Float32
  shape : Option NodeShapeTag
  color : Option Nat
  deriving DecidableEq

structure DrawnPath where
  id : Nat
  fromPos : Float32 × Float32
  toPos : Float32 × Float32
  color : Option Nat
  arrow : Option Arrow
  deriving DecidableEq

/-- A static payload as the page draws it: the fields that the projection replaces, and the payload
with the others. -/
structure DrawnScene where
  payload : StaticPayload Sl1Block
  nodes : List DrawnNode
  paths : List DrawnPath
  nodeNames : Std.ExtTreeMap Nat String
  pathNames : Std.ExtTreeMap Nat String
  showNodeLabels : Bool

def DrawnScene.ofPayload (payload : StaticPayload Sl1Block) : DrawnScene where
  payload
  nodes := payload.nodes.map fun node => ⟨node.id, node.pos, some node.shape, some node.color⟩
  paths := payload.paths.map fun path => ⟨path.id, path.fromPos, path.toPos, some path.color, none⟩
  nodeNames := payload.nodeNames
  pathNames := payload.pathNames
  showNodeLabels := false

section Place

variable (paletteLen : Nat) (place : Sl1PlaceView)

def Sl1PlaceView.hint : RoleHint := (roleHints place.role).getD fallbackHint

def Sl1PlaceView.drawnColor : Option Nat := clampColor paletteLen (place.color.or place.hint.color)

def Sl1PlaceView.drawn (id : Nat) : DrawnNode where
  id
  pos := place.pos
  shape := (place.shape.bind nodeShapeTag).or place.hint.shape
  color := place.drawnColor paletteLen

end Place

/-- The loop over the places. -/
structure Placing where
  nodeIdCounter : Nat
  idByPlace : Std.ExtTreeMap String Nat
  posByPlace : Std.ExtTreeMap String (Float32 × Float32)
  colorByPlace : Std.ExtTreeMap String (Option Nat)
  nodes : List DrawnNode
  nodeNames : Std.ExtTreeMap Nat String

def Placing.start (nodeNames : Std.ExtTreeMap Nat String) : Placing := ⟨1, ∅, ∅, ∅, [], nodeNames⟩

/-- The first place of an id wins. -/
def Placing.addPlace (paletteLen : Nat) (placing : Placing) (place : Sl1PlaceView) : Placing :=
  if placing.idByPlace.contains place.id then placing
  else
    let id := placing.nodeIdCounter
    { nodeIdCounter := id + 1
      idByPlace := placing.idByPlace.insert place.id id
      posByPlace := placing.posByPlace.insert place.id place.pos
      colorByPlace := placing.colorByPlace.insert place.id (place.drawnColor paletteLen)
      nodes := placing.nodes ++ [place.drawn paletteLen id]
      nodeNames := placing.nodeNames.insert id place.id }

/-- The loop over the links. -/
structure Linking where
  pathIdCounter : Nat
  paths : List DrawnPath
  pathNames : Std.ExtTreeMap Nat String

def arrowOf (direction : String) : Arrow :=
  if direction = "bidirectional" then .bidirectional else .forward

/-- A link to a place that is not drawn is passed over; one that is drawn has the color of the place
that it comes from. -/
def Linking.addLink (paletteLen : Nat) (placing : Placing) (linking : Linking)
    (link : Sl1LinkView) : Linking :=
  match placing.posByPlace[link.source]?, placing.posByPlace[link.target]? with
  | some fromPos, some toPos =>
      let color := (placing.colorByPlace[link.source]?).getD fallbackHint.color
      let id := linking.pathIdCounter
      { pathIdCounter := id + 1
        paths := linking.paths ++
          [⟨id, fromPos, toPos, clampColor paletteLen color, some (arrowOf link.direction)⟩]
        pathNames := linking.pathNames.insert id link.id }
  | _, _ => linking

def placeAll (payload : StaticPayload Sl1Block) : Placing :=
  (sortById (·.id) payload.sl1.places).foldl (Placing.addPlace payload.palette.length)
    (.start payload.nodeNames)

def linkAll (payload : StaticPayload Sl1Block) (placing : Placing) : Linking :=
  (sortById (·.id) payload.sl1.links).foldl (Linking.addLink payload.palette.length placing)
    ⟨1, [], payload.pathNames⟩

def synthesizeSl1Geometry (payload : StaticPayload Sl1Block) : DrawnScene :=
  if payload.nodes.length > 0 then .ofPayload payload
  else if payload.sl1.places.length = 0 then .ofPayload payload
  else
    let placing := placeAll payload
    let linking := linkAll payload placing
    { payload
      nodes := placing.nodes
      paths := linking.paths
      nodeNames := placing.nodeNames
      pathNames := linking.pathNames
      showNodeLabels := true }

/-! ## What the loops have drawn -/

section Loops

variable {paletteLen : Nat}

/-- The places that are drawn so far. -/
structure Placed (paletteLen : Nat) (kept : List Sl1PlaceView) (placing : Placing) : Prop where
  distinct : (kept.map (·.id)).Nodup
  next : placing.nodeIdCounter = kept.length + 1
  nodes : placing.nodes = (kept.zipIdx 1).map fun entry => entry.1.drawn paletteLen entry.2
  named : ∀ entry ∈ kept.zipIdx 1, placing.nodeNames[entry.2]? = some entry.1.id
  known : ∀ name, name ∈ placing.idByPlace ↔ name ∈ kept.map (·.id)
  positions : ∀ name, placing.posByPlace[name]? =
    (kept.find? fun place => place.id = name).map (·.pos)
  colors : ∀ name, placing.colorByPlace[name]? =
    (kept.find? fun place => place.id = name).map (·.drawnColor paletteLen)

theorem Placed.start (nodeNames : Std.ExtTreeMap Nat String) :
    Placed paletteLen [] (.start nodeNames) := by
  constructor <;> simp [Placing.start]

namespace Placed

variable {kept : List Sl1PlaceView} {placing : Placing}

theorem addPlace (placed : Placed paletteLen kept placing) (place : Sl1PlaceView) :
    Placed paletteLen (keepNew (·.id) kept place) (placing.addPlace paletteLen place) := by
  by_cases known : place.id ∈ kept.map (·.id)
  · rw [keepNew, if_pos known, Placing.addPlace,
      if_pos (Std.ExtTreeMap.contains_iff_mem.mpr ((placed.known _).mpr known))]
    exact placed
  · have unseen : placing.idByPlace.contains place.id = false := by
      rw [← Bool.not_eq_true, Std.ExtTreeMap.contains_iff_mem, placed.known]
      exact known
    rw [keepNew, if_neg known, Placing.addPlace, unseen, if_neg Bool.false_ne_true]
    -- the new place is found under its own id only
    have found (name : String) : ((kept ++ [place]).find? fun other => other.id = name) =
        if place.id = name then some place else kept.find? fun other => other.id = name := by
      rw [List.find?_append]
      by_cases same : place.id = name
      · subst same
        have none : (kept.find? fun other => other.id = place.id) = none := by
          rw [List.find?_eq_none]
          intro other member
          simpa using fun same => known (List.mem_map.mpr ⟨other, member, same⟩)
        simp [none]
      · simp [same]
    constructor
    · simp only [List.map_append, List.map_cons, List.map_nil]
      exact List.nodup_append.mpr ⟨placed.distinct, by simp, by simpa using known⟩
    · simp [placed.next]
    · simp [List.zipIdx_append, placed.nodes, placed.next, Nat.add_comm]
    · intro entry member
      rw [List.zipIdx_append, List.mem_append] at member
      rcases member with old | new
      · have below := List.snd_lt_of_mem_zipIdx old
        have apart : compare (kept.length + 1) entry.2 ≠ .eq := by
          rw [ne_eq, compare_eq_iff_eq]
          omega
        rw [Std.ExtTreeMap.getElem?_insert, placed.next, if_neg apart]
        exact placed.named entry old
      · have last : entry = (place, 1 + kept.length) := by simpa using new
        subst last
        simp [placed.next, Nat.add_comm]
    · intro name
      rw [Std.ExtTreeMap.mem_insert, compare_eq_iff_eq, placed.known]
      simp [or_comm, eq_comm]
    · intro name
      rw [Std.ExtTreeMap.getElem?_insert, found, placed.positions]
      by_cases same : place.id = name <;> simp [same]
    · intro name
      rw [Std.ExtTreeMap.getElem?_insert, found, placed.colors]
      by_cases same : place.id = name <;> simp [same]

theorem foldl (placed : Placed paletteLen kept placing) (places : List Sl1PlaceView) :
    Placed paletteLen (places.foldl (keepNew (·.id)) kept)
      (places.foldl (Placing.addPlace paletteLen) placing) := by
  induction places generalizing kept placing with
  | nil => exact placed
  | cons place rest ih => exact ih (placed.addPlace place)

theorem place_of_mem (placed : Placed paletteLen kept placing) {node : DrawnNode} (member : node ∈ placing.nodes) :
    ∃ place ∈ kept, placing.nodeNames[node.id]? = some place.id ∧
      node = place.drawn paletteLen node.id := by
  rw [placed.nodes] at member
  obtain ⟨entry, listed, rfl⟩ := List.mem_map.mp member
  exact ⟨entry.1, List.fst_mem_of_mem_zipIdx listed, placed.named entry listed, rfl⟩

theorem names (placed : Placed paletteLen kept placing) :
    placing.nodes.map (fun node => placing.nodeNames[node.id]?) =
      kept.map fun place => some place.id := by
  rw [placed.nodes, List.map_map]
  calc (kept.zipIdx 1).map _
      = (kept.zipIdx 1).map fun entry => some entry.1.id := List.map_congr_left placed.named
    _ = ((kept.zipIdx 1).map (·.1)).map fun place => some place.id := by rw [List.map_map]; rfl
    _ = kept.map fun place => some place.id := by rw [List.zipIdx_map_fst]

theorem ordered (placed : Placed paletteLen kept placing)
    (increasing : kept.Pairwise fun a b => codeUnits a.id < codeUnits b.id) :
    placing.nodes.Pairwise fun left right => ∃ name other,
      placing.nodeNames[left.id]? = some name ∧ placing.nodeNames[right.id]? = some other ∧
      codeUnits name < codeUnits other := by
  rw [placed.nodes, List.pairwise_map]
  rw [← List.zipIdx_map_fst 1 kept, List.pairwise_map] at increasing
  apply increasing.imp_of_mem
  intro left right leftListed rightListed below
  exact ⟨_, _, placed.named left leftListed, placed.named right rightListed, below⟩

end Placed

/-- A color that is clamped already stays as it is. -/
theorem clampColor_drawnColor (place : Sl1PlaceView) :
    clampColor paletteLen (place.drawnColor paletteLen) = place.drawnColor paletteLen := by
  unfold Sl1PlaceView.drawnColor clampColor
  by_cases colored : paletteLen > 0
  · cases place.color.or place.hint.color <;> simp [colored]
  · simp [colored]

/-- The path of a link between two of the places. -/
def Joins (paletteLen : Nat) (places : List Sl1PlaceView) (link : Sl1LinkView) (path : DrawnPath) :
    Prop :=
  ∃ source ∈ places, ∃ target ∈ places, source.id = link.source ∧ target.id = link.target ∧
    path = ⟨path.id, source.pos, target.pos, source.drawnColor paletteLen,
      some (arrowOf link.direction)⟩

/-- The link has both its ends among the places. -/
def Sl1LinkView.between (places : List Sl1PlaceView) (link : Sl1LinkView) : Bool :=
  (places.map (·.id)).contains link.source && (places.map (·.id)).contains link.target

theorem between_eq (places : List Sl1PlaceView) (link : Sl1LinkView) :
    link.between places = ((places.find? fun place => place.id = link.source).isSome &&
      (places.find? fun place => place.id = link.target).isSome) := by
  have within (name : String) : (places.map (·.id)).contains name =
      (places.find? fun place => place.id = name).isSome := by
    rw [Bool.eq_iff_iff, List.contains_iff_mem, List.find?_isSome]
    simp
  rw [Sl1LinkView.between, within, within]

/-- The links that are drawn so far. -/
structure Linked (paletteLen : Nat) (places : List Sl1PlaceView) (joined : List Sl1LinkView)
    (linking : Linking) : Prop where
  next : linking.pathIdCounter = joined.length + 1
  numbered : linking.paths.map (·.id) = List.range' 1 joined.length
  named : linking.paths.map (fun path => linking.pathNames[path.id]?) =
    joined.map fun link => some link.id
  joins : List.Forall₂ (Joins paletteLen places) joined linking.paths

namespace Linked

variable {places : List Sl1PlaceView} {joined : List Sl1LinkView} {placing : Placing}
  {linking : Linking}

theorem addLink (placed : Placed paletteLen places placing)
    (linked : Linked paletteLen places joined linking) (link : Sl1LinkView) :
    Linked paletteLen places (joined ++ [link].filter (·.between places))
      (linking.addLink paletteLen placing link) := by
  have sourceAt := placed.positions link.source
  have targetAt := placed.positions link.target
  have colorAt := placed.colors link.source
  cases source : places.find? fun place => place.id = link.source with
  | none =>
    have apart : link.between places = false := by rw [between_eq, source]; rfl
    simpa [apart, Linking.addLink, sourceAt, source] using linked
  | some origin =>
    cases target : places.find? fun place => place.id = link.target with
    | none =>
      have apart : link.between places = false := by rw [between_eq, source, target]; rfl
      simpa [apart, Linking.addLink, sourceAt, source, targetAt, target] using linked
    | some goal =>
      have between : link.between places = true := by rw [between_eq, source, target]; rfl
      rw [source, Option.map_some] at sourceAt colorAt
      rw [target, Option.map_some] at targetAt
      have originNamed : origin.id = link.source := by simpa using List.find?_some source
      have goalNamed : goal.id = link.target := by simpa using List.find?_some target
      simp only [Linking.addLink, sourceAt, targetAt, colorAt, Option.getD_some,
        clampColor_drawnColor, List.filter_cons, between, if_true, List.filter_nil]
      refine ⟨?_, ?_, ?_, ?_⟩
      · simp [linked.next]
      · simp [linked.numbered, linked.next, List.range'_concat, Nat.add_comm]
      · rw [List.map_append, List.map_append, ← linked.named]
        congr 1
        · apply List.map_congr_left
          intro path member
          have listed : path.id ∈ List.range' 1 joined.length :=
            linked.numbered ▸ List.mem_map_of_mem member
          have apart : compare linking.pathIdCounter path.id ≠ .eq := by
            rw [ne_eq, compare_eq_iff_eq, linked.next]
            have := (List.mem_range'_1.mp listed).2
            omega
          rw [Std.ExtTreeMap.getElem?_insert, if_neg apart]
        · simp
      · apply List.rel_append linked.joins
        exact .cons ⟨origin, List.mem_of_find?_eq_some source, goal,
          List.mem_of_find?_eq_some target, originNamed, goalNamed, rfl⟩ .nil

theorem foldl (placed : Placed paletteLen places placing)
    (linked : Linked paletteLen places joined linking) (links : List Sl1LinkView) :
    Linked paletteLen places (joined ++ links.filter (·.between places))
      (links.foldl (Linking.addLink paletteLen placing) linking) := by
  induction links generalizing joined linking with
  | nil => simpa using linked
  | cons link rest ih =>
    rw [List.foldl_cons, ← List.singleton_append, List.filter_append, ← List.append_assoc]
    exact ih (linked.addLink placed link)

end Linked

end Loops

section Projection

variable {payload : StaticPayload Sl1Block}

/-- The places that are drawn, in the order of their nodes. -/
def drawnPlaces (payload : StaticPayload Sl1Block) : List Sl1PlaceView :=
  firsts (·.id) (sortById (·.id) payload.sl1.places)

/-- The links that are drawn, in the order of their paths. -/
def drawnLinks (payload : StaticPayload Sl1Block) : List Sl1LinkView :=
  (sortById (·.id) payload.sl1.links).filter (·.between (drawnPlaces payload))

theorem placeAll_placed :
    Placed payload.palette.length (drawnPlaces payload) (placeAll payload) :=
  (Placed.start payload.nodeNames).foldl _

theorem linkAll_linked : Linked payload.palette.length (drawnPlaces payload) (drawnLinks payload)
    (linkAll payload (placeAll payload)) := by
  have start : Linked payload.palette.length (drawnPlaces payload) [] ⟨1, [], payload.pathNames⟩ :=
    ⟨rfl, rfl, rfl, .nil⟩
  exact start.foldl placeAll_placed _

theorem synthesizeSl1Geometry_of_bare (bare : payload.nodes = []) (given : payload.sl1.places ≠ []) :
    synthesizeSl1Geometry payload =
      { payload
        nodes := (placeAll payload).nodes
        paths := (linkAll payload (placeAll payload)).paths
        nodeNames := (placeAll payload).nodeNames
        pathNames := (linkAll payload (placeAll payload)).pathNames
        showNodeLabels := true } := by
  have some : ¬ payload.sl1.places.length = 0 := fun none => given (List.eq_nil_of_length_eq_zero none)
  rw [synthesizeSl1Geometry, if_neg (by simp [bare]), if_neg some]

end Projection

/-! ## Scenes from a file -/

section Loaded

/-- What the validator makes sure of for the drawing. -/
structure Charted (scene : Sl1Scene) : Prop where
  placesIncreasing : Increasing (·.id) scene.places
  linksIncreasing : Increasing (·.id) scene.links
  placeIds : ∀ place ∈ scene.places, isValidSl1Id place.id = true
  linkIds : ∀ link ∈ scene.links, isValidSl1Id link.id = true
  ends : ∀ link ∈ scene.links,
    Declares (·.id) scene.places link.source ∧ Declares (·.id) scene.places link.target

theorem validate_charted {raw : RawSl1Scene} {scene : Sl1Scene}
    (accepted : Sl1.validate raw = .ok scene) : Charted scene := by
  simp only [Sl1.validate, bind_eq_ok] at accepted
  obtain ⟨_, -, things, -, places, placesRead, links, linksRead, _, -, _, -, _, -, _, -, _, -, _, -,
    _, -, _, -, _, -, same⟩ := accepted
  cases same
  have placesSound := catalog_sound placesRead
  have linksSound := catalog_sound linksRead
  refine ⟨placesSound.increasing, linksSound.increasing, ?_, ?_, ?_⟩
  · intro place member
    obtain ⟨source, -, read⟩ := placesSound.readFrom member
    exact validatePlace_properId source place read
  · intro link member
    obtain ⟨source, -, read⟩ := linksSound.readFrom member
    exact validateLink_properId _ source link read
  · intro link member
    obtain ⟨source, -, read⟩ := linksSound.readFrom member
    simp only [validateLink, bind_eq_ok, reject_eq_ok] at read
    obtain ⟨_, -, _, -, _, fromKnown, _, toKnown, _, -, _, -, _, -, _, -, _, -, _, -, _, -, _, -,
      same⟩ := read
    cases same
    exact ⟨declares_of_idSet fromKnown, declares_of_idSet toKnown⟩

theorem isValidSl1Id_small {id : String} (valid : isValidSl1Id id = true) :
    ∀ letter ∈ id.toList, letter.toNat < 0x10000 := by
  intro letter member
  have allowed := isIdCharacter_of_mem valid member
  change (((decide (letter.val ≥ 'A'.val ∧ letter.val ≤ 'Z'.val) ||
    (decide (letter.val ≥ 'a'.val) && decide (letter.val ≤ 'z'.val))) ||
    (decide (letter.val ≥ '0'.val) && decide (letter.val ≤ '9'.val))) || letter == '_' ||
    letter == '-') = true at allowed
  simp only [Bool.or_eq_true, Bool.and_eq_true, decide_eq_true_eq, beq_iff_eq, ge_iff_le,
    UInt32.le_iff_toNat_le] at allowed
  rcases allowed with (((⟨-, most⟩ | ⟨-, most⟩) | ⟨-, most⟩) | rfl) | rfl
  · exact most.trans_lt (by decide)
  · exact most.trans_lt (by decide)
  · exact most.trans_lt (by decide)
  · decide
  · decide

/-- The engine's order of valid ids is the page's. -/
theorem codeUnits_increasing {Entry : Type} {id : Entry → String} {entries : List Entry}
    (increasing : Increasing id entries) (valid : ∀ entry ∈ entries, isValidSl1Id (id entry) = true) :
    entries.Pairwise fun a b => codeUnits (id a) < codeUnits (id b) := by
  apply List.Pairwise.imp_of_mem _ increasing
  intro a b first second less
  apply codeUnits_lt less
  intro letter member
  rcases List.mem_append.mp member with inside | inside
  · exact isValidSl1Id_small (valid a first) letter inside
  · exact isValidSl1Id_small (valid b second) letter inside

theorem validate_palette {llmLive : Bool} {raw : RawScene} {loaded : LoadedScene}
    (accepted : SceneLoader.validate llmLive raw = .ok loaded) :
    0 < loaded.theme.palette.length := by
  simp only [SceneLoader.validate, bind_eq_ok] at accepted
  obtain ⟨theme, shape, _, -, _, -, _, -, _, -, _, -, _, -, _, -, _, -, _, -, same⟩ := accepted
  cases same
  simp only [SceneLoader.checkShape, bind_eq_ok] at shape
  obtain ⟨_, -, _, -, _, -, _, -, _, read, _, -, _, -, _, -, _, -, _, -, _, -, _, -, same⟩ := shape
  cases same
  simp only [SceneLoader.validateTheme, bind_eq_ok, reject_eq_ok] at read
  obtain ⟨_, -, _, -, _, colored, _, -, _, -, same⟩ := read
  cases same
  simpa [List.length_pos_iff] using colored

/-- The page draws the block as the scene declares it: place for place and link for link. Every node
has a color of the palette, except where a role is named like a property that objects inherit. -/
structure DrawnScene.Follows (drawn : DrawnScene) (palette : List String) (scene : Sl1Scene) :
    Prop where
  nodes : drawn.nodes = ((scene.places.map placeToView).zipIdx 1).map fun entry =>
    entry.1.drawn palette.length entry.2
  nodeNames : drawn.nodes.map (fun node => drawn.nodeNames[node.id]?) =
    scene.places.map fun place => some place.id
  paths : List.Forall₂ (Joins palette.length (scene.places.map placeToView))
    (scene.links.map linkToView) drawn.paths
  pathIds : drawn.paths.map (·.id) = List.range' 1 scene.links.length
  pathNames : drawn.paths.map (fun path => drawn.pathNames[path.id]?) =
    scene.links.map fun link => some link.id
  colors : ∀ node ∈ drawn.nodes, (∃ color < palette.length, node.color = some color) ∨
    ∃ place ∈ scene.places, drawn.nodeNames[node.id]? = some place.id ∧ place.color = none ∧
      place.role ∈ inheritedNames

theorem drawnColor_cases {paletteLen : Nat} (colored : 0 < paletteLen) (place : Sl1PlaceView) :
    (∃ color < paletteLen, place.drawnColor paletteLen = some color) ∨
      place.color = none ∧ place.role ∈ inheritedNames := by
  cases given : place.color.or place.hint.color with
  | some color =>
    refine .inl ⟨min (paletteLen - 1) color, by omega, ?_⟩
    simp [Sl1PlaceView.drawnColor, clampColor, given, colored]
  | none =>
    obtain ⟨unset, unhinted⟩ := Option.or_eq_none_iff.mp given
    refine .inr ⟨unset, ?_⟩
    by_contra own
    simp only [Sl1PlaceView.hint, roleHints, own, if_false] at unhinted
    repeat' split at unhinted
    all_goals cases unhinted

theorem drawnPlaces_of_charted {payload : StaticPayload Sl1Block} {scene : Sl1Scene}
    (charted : Charted scene) (places : payload.sl1.places = scene.places.map placeToView) :
    drawnPlaces payload = scene.places.map placeToView := by
  have increasing : (scene.places.map placeToView).Pairwise fun a b =>
      codeUnits a.id < codeUnits b.id :=
    List.pairwise_map.mpr (codeUnits_increasing charted.placesIncreasing charted.placeIds)
  have distinct : ((scene.places.map placeToView).map (·.id)).Nodup := by
    rw [List.map_map]
    exact charted.placesIncreasing.distinct
  rw [drawnPlaces, places, sortById_of_increasing increasing, firsts_of_distinct distinct]

theorem drawnLinks_of_charted {payload : StaticPayload Sl1Block} {scene : Sl1Scene}
    (charted : Charted scene) (places : payload.sl1.places = scene.places.map placeToView)
    (links : payload.sl1.links = scene.links.map linkToView) :
    drawnLinks payload = scene.links.map linkToView := by
  have increasing : (scene.links.map linkToView).Pairwise fun a b =>
      codeUnits a.id < codeUnits b.id :=
    List.pairwise_map.mpr (codeUnits_increasing charted.linksIncreasing charted.linkIds)
  rw [drawnLinks, links, sortById_of_increasing increasing, drawnPlaces_of_charted charted places,
    List.filter_eq_self]
  intro view member
  obtain ⟨link, declared, rfl⟩ := List.mem_map.mp member
  obtain ⟨⟨source, starts, sourceNamed⟩, target, stops, targetNamed⟩ := charted.ends link declared
  have known {place : Sl1Place} {id : String} (listed : place ∈ scene.places) (named : place.id = id) :
      ((scene.places.map placeToView).map (·.id)).contains id = true := by
    rw [List.contains_iff_mem, List.map_map]
    exact List.mem_map.mpr ⟨place, listed, named⟩
  rw [Sl1LinkView.between, Bool.and_eq_true]
  exact ⟨known starts sourceNamed, known stops targetNamed⟩

/-- A scene with a block and no geometry is drawn as it is declared. -/
theorem loaded_block_drawn {llmLive : Bool} {raw : RawScene} {loaded : LoadedScene}
    {scene : Sl1Scene} (accepted : SceneLoader.validate llmLive raw = .ok loaded)
    (block : loaded.sl1 = some scene)
    (bare : (Snapshot.encodeStatic sl1Block loaded).nodes = []) (given : scene.places ≠ []) :
    (synthesizeSl1Geometry (Snapshot.encodeStatic sl1Block loaded)).Follows loaded.theme.palette
      scene := by
  obtain ⟨furnished, checked⟩ := SceneLoader.validate_block accepted
  obtain ⟨source, valid⟩ := checked scene block
  have charted := validate_charted valid
  have declared : loaded.world.sl1 = some scene := by
    rw [← block]
    exact congrArg Block.sl1 furnished
  generalize encoded : Snapshot.encodeStatic sl1Block loaded = payload at bare ⊢
  have palette : payload.palette = loaded.theme.palette := by rw [← encoded]; rfl
  have places : payload.sl1.places = scene.places.map placeToView := by
    rw [← encoded]
    simp [Snapshot.encodeStatic, Snapshot.encodeStaticParts, sl1Block, declared]
  have links : payload.sl1.links = scene.links.map linkToView := by
    rw [← encoded]
    simp [Snapshot.encodeStatic, Snapshot.encodeStaticParts, sl1Block, declared]
  have placed : Placed _ (drawnPlaces payload) _ := placeAll_placed
  have linked : Linked _ (drawnPlaces payload) (drawnLinks payload) _ := linkAll_linked
  rw [drawnLinks_of_charted charted places links] at linked
  rw [drawnPlaces_of_charted charted places, palette] at placed linked
  rw [synthesizeSl1Geometry_of_bare bare (by simpa [places] using given)]
  refine ⟨placed.nodes, ?_, linked.joins, ?_, ?_, ?_⟩
  · rw [placed.names, List.map_map]
    rfl
  · simpa using linked.numbered
  · rw [linked.named, List.map_map]
    rfl
  · intro node member
    obtain ⟨view, listed, named, drawn⟩ := placed.place_of_mem member
    obtain ⟨place, declared, rfl⟩ := List.mem_map.mp listed
    rw [drawn]
    exact (drawnColor_cases (validate_palette accepted) (placeToView place)).imp_right
      fun unhinted => ⟨place, declared, named, unhinted⟩

/-- A mine and a shop with a road between them. -/
def roadScene : RawSl1Scene where
  places := [{ id := "shop", role := "sink", pos := (0, 2) },
    { id := "mine", role := "constructor", pos := (0, 1) }]
  links := [{
    id := "road", linkType := "road", source := "mine", target := "shop"
    direction := some "bidirectional", travelTicks := 3, queueCapacity := 4
    backpressure := some "block_upstream" }]

/-- The road alone. -/
def roadOnlyScene : RawScene := { shuttleScene with
  pieces := { nodes := [], paths := [], movers := [] }, sl1 := some (.ok roadScene) }

theorem loaded_block_drawn_road : ∃ loaded scene,
    SceneLoader.validate false roadOnlyScene = .ok loaded ∧ loaded.sl1 = some scene ∧
      scene.places.length = 2 ∧ (synthesizeSl1Geometry (Snapshot.encodeStatic sl1Block loaded)).Follows
        loaded.theme.palette scene := by
  have evaluated : yields (SceneLoader.validate false roadOnlyScene) (fun loaded =>
      loaded.sl1.any (·.places.length == 2) &&
        (Snapshot.encodeStatic sl1Block loaded).nodes.isEmpty) = true := by
    decide +kernel
  obtain ⟨loaded, accepted, shape⟩ := yields_iff.mp evaluated
  simp only [Bool.and_eq_true, List.isEmpty_iff, Option.any_eq_true, beq_iff_eq] at shape
  obtain ⟨⟨scene, block, two⟩, bare⟩ := shape
  have given : scene.places ≠ [] := by
    intro none
    simp [none] at two
  exact ⟨loaded, scene, accepted, block, two, loaded_block_drawn accepted block bare given⟩

end Loaded

end Simetro.Frontend
