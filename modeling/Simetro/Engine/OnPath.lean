import Simetro.Engine.BlockRuns
import Simetro.Engine.Snapshot

/-! What the row of a mover tells of where it is. -/

namespace Simetro.Engine

open Simetro.Library Simetro.Protocol Simetro.Sl1

/-- Where a mover that is somewhere is drawn, and the path its row names: 0 while it waits. -/
inductive MoverState.Stands (transit : Transit) : MoverState → Float32 × Float32 → Nat → Prop where
  | waiting {id : NodeId} {node : Node} (here : transit.nodes[id]? = some node) :
      Stands transit (.waiting id) node.pos 0
  | traveling {id : PathId} {path : Path} {source target : Node} (progress : Float32)
      (on : transit.paths[id]? = some path) (start : transit.nodes[path.source]? = some source)
      (finish : transit.nodes[path.target]? = some target) :
      Stands transit (.traveling id progress)
        (between source.pos.1 target.pos.1 (clampUnit progress),
          between source.pos.2 target.pos.2 (clampUnit progress)) id

section Rows

variable {transit : Transit} {id : MoverId} {mover : Mover}

/-- In an intact network every mover that is not empty has its row. -/
theorem moverRow_shows (intact : transit.Intact) (found : transit.movers[id]? = some mover) :
    (mover.state = .empty ∧ moverRow transit mover = none) ∨
      ∃ pos onPath, mover.state.Stands transit pos onPath ∧
        moverRow transit mover = some ⟨id, pos, mover.speed, onPath⟩ := by
  have sound := intact.movers id mover found
  have there {Element : Type} {entries : Std.ExtTreeMap Nat Element} {key : Nat}
      (present : key ∈ entries) : ∃ element, entries[key]? = some element :=
    Option.isSome_iff_exists.mp (Std.ExtTreeMap.mem_iff_isSome_getElem?.mp present)
  have stands := sound.state
  unfold moverRow
  rw [sound.own]
  cases state : mover.state with
  | empty => exact .inl ⟨rfl, rfl⟩
  | waiting node =>
    rw [state] at stands
    obtain ⟨element, here⟩ := there stands
    exact .inr ⟨_, _, .waiting here, by simp only [here, Option.bind_eq_bind, Option.bind_some, pure]⟩
  | traveling path progress =>
    rw [state] at stands
    obtain ⟨element, on⟩ := there stands
    have ends := intact.paths path element on
    obtain ⟨source, start⟩ := there ends.source
    obtain ⟨target, finish⟩ := there ends.target
    exact .inr ⟨_, _, .traveling progress on start finish, by
      simp only [on, start, finish, Option.bind_eq_bind, Option.bind_some, pure]⟩

/-- The rows of movers do not depend on the buffer. -/
theorem encodeSnapshot_movers (world : World Transit) (out : SnapshotPayload) :
    (encodeSnapshot world out).1.movers =
      world.network.movers.toList.filterMap fun entry => moverRow world.network entry.2 := by
  unfold encodeSnapshot
  cases world.sl1Runtime <;> rfl

/-- A row is that of one mover, and names the path it stands for. -/
theorem row_of_mem {world : World Transit} (intact : world.network.Intact) {out : SnapshotPayload}
    {row : WireMover} (listed : row ∈ (encodeSnapshot world out).1.movers) :
    ∃ mover, world.network.movers[row.id]? = some mover ∧ row.speed = mover.speed ∧
      mover.state.Stands world.network row.pos row.onPath := by
  rw [encodeSnapshot_movers] at listed
  obtain ⟨⟨id, mover⟩, entry, shown⟩ := List.mem_filterMap.mp listed
  have found := Std.ExtTreeMap.mem_toList_iff_getElem?_eq_some.mp entry
  rcases moverRow_shows intact found with ⟨-, none⟩ | ⟨pos, onPath, stands, some⟩
  · cases none.symm.trans shown
  · cases some.symm.trans shown
    exact ⟨mover, found, rfl, stands⟩

theorem mem_of_stands {world : World Transit} (intact : world.network.Intact) (out : SnapshotPayload)
    (found : world.network.movers[id]? = some mover) (standing : mover.state ≠ .empty) :
    ∃ row ∈ (encodeSnapshot world out).1.movers, row.id = id ∧
      mover.state.Stands world.network row.pos row.onPath := by
  rcases moverRow_shows intact found with ⟨empty, -⟩ | ⟨pos, onPath, stands, shown⟩
  · exact absurd empty standing
  · refine ⟨⟨id, pos, mover.speed, onPath⟩, ?_, rfl, stands⟩
    rw [encodeSnapshot_movers]
    exact List.mem_filterMap.mpr
      ⟨(id, mover), Std.ExtTreeMap.mem_toList_iff_getElem?_eq_some.mpr found, shown⟩

end Rows

namespace MoverState

/-- Waiting both times, or on the same path. -/
def Alike : MoverState → MoverState → Prop
  | .waiting _, .waiting _ => True
  | .traveling path _, .traveling other _ => path = other
  | _, _ => False

/-- Waiting once and on path 0 once. -/
def Mistaken : MoverState → MoverState → Prop
  | .waiting _, .traveling path _ | .traveling path _, .waiting _ => path = 0
  | _, _ => False

instance (one two : MoverState) : Decidable (Mistaken one two) := by
  unfold Mistaken
  split <;> infer_instance

variable {transit other : Transit} {one two : MoverState} {pos pos' : Float32 × Float32}
  {onPath onPath' : Nat}

/-- Two rows name the same path when the mover was alike, and when it may be mistaken. -/
theorem Stands.same_iff (first : one.Stands transit pos onPath)
    (second : two.Stands other pos' onPath') : onPath = onPath' ↔ one.Alike two ∨ one.Mistaken two := by
  cases first with
  | waiting here =>
    cases second with
    | waiting there => exact ⟨fun _ => .inl trivial, fun _ => rfl⟩
    | traveling progress on start finish => exact ⟨fun same => .inr same.symm, (·.elim nofun Eq.symm)⟩
  | traveling progress on start finish =>
    cases second with
    | waiting there => exact ⟨.inr, (·.elim nofun id)⟩
    | traveling progress' on' start' finish' => exact ⟨.inl, (·.elim id nofun)⟩

theorem Mistaken.not_alike (mistaken : one.Mistaken two) : ¬ one.Alike two := by
  cases one <;> cases two <;> first | exact id | exact mistaken.elim

theorem Mistaken.standing (mistaken : one.Mistaken two) : one ≠ .empty ∧ two ≠ .empty := by
  constructor <;> rintro rfl
  · exact mistaken.elim
  · cases one <;> exact mistaken.elim

end MoverState

/-- What holds of the states a mover is in in two worlds. -/
def InBoth (holds : MoverState → MoverState → Prop) (first second : World Transit) (id : MoverId) : Prop :=
  ∃ one two, first.network.movers[id]? = some one ∧ second.network.movers[id]? = some two ∧
    holds one.state two.state

/-- Between the worlds of any two runs, the path that two rows of a mover name tells whether and
where it is on a path, unless it waits in one of them and is on path 0 in the other. -/
theorem onPath_tells_iff {llmLive llmLive' : Bool} {raw raw' : RawScene} {scene scene' : LoadedScene}
    (accepted : SceneLoader.validate llmLive raw = .ok scene)
    (accepted' : SceneLoader.validate llmLive' raw' = .ok scene') {first second : World Transit}
    (reached : scene.Reaches first) (reached' : scene'.Reaches second) (id : MoverId)
    (out out' : SnapshotPayload) :
    (∀ row ∈ (encodeSnapshot first out).1.movers, ∀ row' ∈ (encodeSnapshot second out').1.movers,
      row.id = id → row'.id = id → row.onPath = row'.onPath →
        InBoth MoverState.Alike first second id) ↔
    ¬ InBoth MoverState.Mistaken first second id := by
  have intact := reached.intact accepted
  have intact' := reached'.intact accepted'
  constructor
  · rintro tells ⟨one, two, found, found', mistaken⟩
    obtain ⟨standing, standing'⟩ := mistaken.standing
    obtain ⟨row, listed, own, stands⟩ := mem_of_stands intact out found standing
    obtain ⟨row', listed', own', stands'⟩ := mem_of_stands intact' out' found' standing'
    have same := (stands.same_iff stands').mpr (.inr mistaken)
    obtain ⟨one', two', foundToo, foundToo', alike⟩ := tells row listed row' listed' own own' same
    cases found.symm.trans foundToo
    cases found'.symm.trans foundToo'
    exact mistaken.not_alike alike
  · rintro clear row listed row' listed' rfl own' same
    obtain ⟨one, found, -, stands⟩ := row_of_mem intact listed
    obtain ⟨two, found', -, stands'⟩ := row_of_mem intact' listed'
    rw [own'] at found'
    rcases (stands.same_iff stands').mp same with alike | mistaken
    · exact ⟨one, two, found, found', alike⟩
    · exact absurd ⟨one, two, found, found', mistaken⟩ clear

theorem onPath_tells_shuttle : ∃ scene world, SceneLoader.validate false shuttleScene = .ok scene ∧
    scene.Reaches world ∧ ∀ row ∈ (encodeSnapshot world {}).1.movers,
      ∀ row' ∈ (encodeSnapshot world {}).1.movers, row.id = 0 → row'.id = 0 →
        row.onPath = row'.onPath → InBoth MoverState.Alike world world 0 := by
  have accepts : yields (SceneLoader.validate false shuttleScene) (fun _ => true) = true := by
    decide +kernel
  obtain ⟨scene, accepted, -⟩ := yields_iff.mp accepts
  obtain ⟨voyage, ran, -⟩ :=
    movers_walk (fun _ => "") unattended defaultBackend accepted {} shuttleDrive
  have reached : scene.Reaches voyage.machine.world :=
    ⟨Unit, Unit, Unit, _, unattended, _, {}, shuttleDrive, voyage, ran, rfl⟩
  refine ⟨scene, voyage.machine.world, accepted, reached,
    (onPath_tells_iff accepted accepted reached reached 0 {} {}).mpr ?_⟩
  rintro ⟨one, two, found, foundToo, mistaken⟩
  cases found.symm.trans foundToo
  cases state : one.state <;> rw [state] at mistaken <;> exact mistaken.elim

/-- The shuttle with a train that needs a tick and a half. -/
def expressScene : RawScene :=
  { shuttleScene with pieces := { shuttleScene.pieces with movers := [⟨"train", "line", 40.0⟩] } }

/-- The nodes, and the paths with their ends. -/
def Transit.topology (transit : Transit) : List NodeId × List (PathId × NodeId × NodeId) :=
  (transit.nodes.keys, transit.paths.toList.map fun (id, path) => (id, path.source, path.target))

def driven (scene : LoadedScene) (steps : List DriverStep) : Run (Machine Transit Unit Unit) (Voyage Unit Unit) :=
  steps.foldlM (Voyage.step (transitSystems (fun _ => "") unattended) defaultBackend)
    { machine := ⟨scene.world, {}⟩ }

/-- On its first tick the train is on the line, which has id 0, on its second it waits at the end. -/
theorem onPath_mistaken : ∃ scene first second,
    SceneLoader.validate false expressScene = .ok scene ∧ scene.Reaches first ∧ scene.Reaches second ∧
    first.network.topology = second.network.topology ∧
    (∃ row ∈ (encodeSnapshot first {}).1.movers, ∃ row' ∈ (encodeSnapshot second {}).1.movers,
      row.id = 0 ∧ row'.id = 0 ∧ row.onPath = row'.onPath) ∧
    ¬ InBoth MoverState.Alike first second 0 := by
  have evaluated : yields (SceneLoader.validate false expressScene) (fun scene =>
      match driven scene [.tick], driven scene [.tick, .tick] with
      | .done one, .done two =>
        let first := one.machine.world.network
        let second := two.machine.world.network
        decide (first.topology = second.topology) &&
          ((first.movers[0]?).any fun mover : Mover => (second.movers[0]?).any fun later : Mover =>
            decide (mover.state.Mistaken later.state))
      | _, _ => false) = true := by
    decide +kernel
  obtain ⟨scene, accepted, read⟩ := yields_iff.mp evaluated
  obtain ⟨one, ran, -⟩ := movers_walk (fun _ => "") unattended defaultBackend accepted {} [.tick]
  obtain ⟨two, ranToo, -⟩ :=
    movers_walk (fun _ => "") unattended defaultBackend accepted {} [.tick, .tick]
  have reached : scene.Reaches one.machine.world :=
    ⟨Unit, Unit, Unit, _, unattended, _, {}, _, one, ran, rfl⟩
  have reachedToo : scene.Reaches two.machine.world :=
    ⟨Unit, Unit, Unit, _, unattended, _, {}, _, two, ranToo, rfl⟩
  simp only [show driven scene [.tick] = .done one from ran,
    show driven scene [.tick, .tick] = .done two from ranToo, Bool.and_eq_true, decide_eq_true_eq,
    Option.any_eq_true] at read
  obtain ⟨topology, mover, found, later, foundToo, mistaken⟩ := read
  obtain ⟨standing, standingToo⟩ := mistaken.standing
  obtain ⟨row, listed, own, stands⟩ := mem_of_stands (reached.intact accepted) {} found standing
  obtain ⟨row', listed', own', stands'⟩ :=
    mem_of_stands (reachedToo.intact accepted) {} foundToo standingToo
  refine ⟨scene, _, _, accepted, reached, reachedToo, topology,
    ⟨row, listed, row', listed', own, own', (stands.same_iff stands').mpr (.inr mistaken)⟩, ?_⟩
  rintro ⟨other, others, here, there, alike⟩
  cases found.symm.trans here
  cases foundToo.symm.trans there
  exact mistaken.not_alike alike

end Simetro.Engine
