import Simetro.Engine.OnPath
import Simetro.Sl1.Roster

/-! A snapshot depicts the world it is taken of: whatever the buffer held, every mover that is
somewhere and every element the scene declares has one row with its current values. -/

namespace Simetro.Engine

open Simetro.Library Simetro.Protocol Simetro.Sl1

section Rows

variable {Key Value Row : Type} {cmp : Key → Key → Ordering}

/-- One row for each declared key, in their order, with what is held under it. -/
def Shows (declared : Key → Prop) (current : Std.ExtTreeMap Key Value cmp) [Std.TransCmp cmp]
    (row : Key → Value → Row) (rows : List Row) : Prop :=
  ∃ keys : List Key, keys.Pairwise (cmp · · = .lt) ∧ (∀ key, key ∈ keys ↔ declared key) ∧
    List.Forall₂ (fun key one => ∃ value, current[key]? = some value ∧ one = row key value) keys rows

variable [Std.TransCmp cmp] [Std.LawfulEqCmp cmp]

end Rows

/-- The block of a world as its scene declares it. -/
structure LoadedScene.Furnished (scene : LoadedScene) (block : Block) : Prop where
  sl1 : block.sl1 = scene.sl1
  legacy : scene.sl1 = none → block.sl1Runtime = none
  rostered : ∀ declared, scene.sl1 = some declared →
    ∃ runtime, block.sl1Runtime = some runtime ∧ declared.Rostered runtime

theorem LoadedScene.Furnished.load {scene : LoadedScene}
    (loaded : scene.world.block = ⟨0, scene.sl1, scene.sl1.map .fromScene⟩) :
    scene.Furnished scene.world.block := by
  rw [loaded]
  refine ⟨rfl, fun absent => ?_, fun declared present => ?_⟩
  · rw [absent]
    rfl
  · rw [present]
    exact ⟨_, rfl, .load declared⟩

theorem LoadedScene.Furnished.ticked {scene : LoadedScene} {before : Block}
    (held : scene.Furnished before)
    (checked : ∀ block, scene.sl1 = some block → ∃ source, Sl1.validate source = .ok block)
    (backend : AgentBackend) (events : List SimEvent) (messages : List SimMessage) :
    scene.Furnished (before.ticked backend events messages) := by
  refine ⟨held.sl1, fun absent => ?_, fun declared present => ?_⟩
  · unfold Block.ticked
    rw [held.sl1, absent]
    exact held.legacy absent
  · obtain ⟨runtime, active, rostered⟩ := held.rostered declared present
    obtain ⟨source, valid⟩ := checked declared present
    have enrolled : declared.Rostered (Frame.mk runtime events messages [] [] []).runtime := rostered
    exact ⟨_, Block.ticked_runtime (held.sl1.trans present) active backend events messages,
      enrolled.run (validate_valid valid) backend⟩

theorem LoadedScene.Reaches.furnished {scene : LoadedScene} {world : World Transit}
    (reached : scene.Reaches world) {llmLive : Bool} {raw : RawScene}
    (accepted : SceneLoader.validate llmLive raw = .ok scene) : scene.Furnished world.block := by
  obtain ⟨loaded, checked⟩ := SceneLoader.validate_block accepted
  exact reached.block (.load loaded) fun backend events messages before held =>
    held.ticked checked backend events messages

/-- The shuttle beside a block that watches its stock age. -/
def agingShuttleScene : RawScene := { shuttleScene with sl1 := some (.ok agingScene) }

end Simetro.Engine
