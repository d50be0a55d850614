import Simetro.Engine.Intact
import Simetro.Engine.TickKeeps

/-! The transit passes keep the network intact. -/

namespace Simetro.Engine

open Simetro.Library Simetro.Protocol

/-- A pass over movers: the network stays intact, its nodes and paths as they were. -/
structure Transit.Carries (start now : Transit) : Prop where
  intact : now.Intact
  nodes : now.nodes = start.nodes
  paths : now.paths = start.paths

theorem Transit.Intact.carries {transit : Transit} (intact : transit.Intact) :
    transit.Carries transit := ⟨intact, rfl, rfl⟩

/-- Put a mover somewhere that exists. -/
theorem Transit.Carries.place {start now : Transit} (carries : start.Carries now) {id : MoverId}
    {mover : Mover} (found : now.movers[id]? = some mover) {state : MoverState}
    (there : state.Sound start.nodes start.paths) :
    start.Carries (now.setMover id { mover with state }) := by
  have sound := carries.intact.movers id mover found
  rw [← carries.nodes, ← carries.paths] at there
  refine ⟨?_, carries.nodes, carries.paths⟩
  exact { carries.intact with
    movers := carries.intact.movers.insert ⟨sound.own, sound.home, there⟩ }

namespace Lifecycle

theorem spawns_sound {transit : Transit} (intact : transit.Intact) {spawn : Spawn}
    (due : spawn ∈ spawns transit) : spawn.path ∈ transit.paths := by
  obtain ⟨⟨id, mover⟩, -, starts⟩ := List.mem_filterMap.mp due
  dsimp only at starts
  split at starts
  · obtain ⟨path, found, rfl⟩ := Option.map_eq_some_iff.mp starts
    show path.id ∈ transit.paths
    rw [(intact.paths _ path found).own]
    exact mem_of_getElem? found
  · cases starts

theorem spawnOne_carries {start : Transit} {spawn : Spawn} (path : spawn.path ∈ start.paths)
    {now : Transit × List SimEvent} (carries : start.Carries now.1) :
    start.Carries (spawnOne now spawn).1 := by
  unfold spawnOne
  split
  · exact carries
  · rename_i mover found
    simp only [Mover.spawnAt, Mover.beginTravel]
    cases mover.state with
    | empty => exact carries.place found path
    | waiting other => exact carries
    | traveling other progress => exact carries

theorem run_intact {transit : Transit} (intact : transit.Intact) : (run transit).1.Intact := by
  have carried : transit.Carries (run transit).1 :=
    List.foldlRecOn (motive := fun now : Transit × List SimEvent => transit.Carries now.1) _ _
      intact.carries fun _ carries _ due => spawnOne_carries (spawns_sound intact due) carries
  exact carried.intact

end Lifecycle

namespace Movement

theorem advanceOne_sound {dt : Float32} {nodes : Std.ExtTreeMap NodeId Node}
    {paths : Std.ExtTreeMap PathId Path} {key : MoverId} {mover : Mover}
    (sound : mover.Sound nodes paths key) : (advanceOne dt mover).1.Sound nodes paths key := by
  unfold advanceOne
  split
  · rename_i path progress advanced reached travels moved
    rw [Mover.advance, travels] at moved
    cases moved
    have there := sound.state
    rw [travels] at there
    exact ⟨sound.own, sound.home, there⟩
  · exact sound

theorem advanceAll_intact {transit : Transit} (intact : transit.Intact) :
    (advanceAll transit).Intact :=
  { intact with movers := intact.movers.map fun _ _ sound => advanceOne_sound sound }

theorem arriveOne_intact {now : Arrived} (intact : now.transit.Intact) (arrival : MoverId × PathId) :
    (arriveOne now arrival).transit.Intact := by
  unfold arriveOne
  split
  · rename_i mover path found located
    simp only [Mover.arrive]
    cases mover.state with
    | empty => exact intact
    | waiting node => exact intact
    | traveling other progress =>
      have target : (MoverState.waiting path.target).Sound now.transit.nodes now.transit.paths :=
        (intact.paths _ path located).target
      exact (intact.carries.place found target).intact
  · exact intact

theorem run_intact {transit : Transit} (intact : transit.Intact) : (run transit).transit.Intact :=
  List.foldlRecOn (motive := fun now : Arrived => now.transit.Intact) _ _ (advanceAll_intact intact)
    fun _ kept arrival _ => arriveOne_intact kept arrival

end Movement

namespace Interaction

theorem routes_sound {transit : Transit} {route : Route} (due : route ∈ routes transit) :
    route.path ∈ transit.paths := by
  obtain ⟨⟨id, mover⟩, -, leaves⟩ := List.mem_filterMap.mp due
  dsimp only at leaves
  split at leaves
  · obtain ⟨⟨key, path⟩, found, rfl⟩ := Option.map_eq_some_iff.mp leaves
    exact mem_of_getElem?
      (Std.ExtTreeMap.mem_toList_iff_getElem?_eq_some.mp (List.mem_of_find?_eq_some found))
  · cases leaves

theorem departOne_carries {start : Transit} {route : Route} (path : route.path ∈ start.paths)
    {now : Transit × List SimEvent} (carries : start.Carries now.1) :
    start.Carries (departOne now route).1 := by
  unfold departOne
  split
  · exact carries
  · rename_i mover found
    simp only [Mover.beginTravel]
    cases mover.state with
    | empty => exact carries
    | waiting node => exact carries.place found path
    | traveling other progress => exact carries

theorem run_intact {transit : Transit} (intact : transit.Intact) : (run transit).1.Intact := by
  have carried : transit.Carries (run transit).1 :=
    List.foldlRecOn (motive := fun now : Transit × List SimEvent => transit.Carries now.1) _ _
      intact.carries fun _ carries _ due => departOne_carries (routes_sound due) carries
  exact carried.intact

end Interaction

namespace Production

section Stock

variable {resources : Std.ExtTreeMap ResourceId Resource} {inventory : Std.ExtTreeMap ResourceId Nat}
  (stocked : ∀ key : ResourceId, key ∈ inventory ↔ key ∈ resources)
include stocked

theorem produce_stocked {entry : ResourceId × Nat} (known : entry.1 ∈ resources) (key : ResourceId) :
    key ∈ produce inventory entry ↔ key ∈ resources := by
  rw [produce, Std.ExtTreeMap.mem_insert, stocked]
  constructor
  · rintro (same | member)
    · exact Std.LawfulEqCmp.compare_eq_iff_eq.mp same ▸ known
    · exact member
  · exact .inr

theorem consume_stocked (entry : ResourceId × Nat) (key : ResourceId) :
    key ∈ consume inventory entry ↔ key ∈ resources := by
  rw [consume, Std.ExtTreeMap.mem_modify, stocked]

end Stock

theorem produced_known {transit : Transit} (intact : transit.Intact) {tick : Nat}
    {entry : ResourceId × Nat} (due : entry ∈ produced tick transit) : entry.1 ∈ transit.resources := by
  obtain ⟨⟨key, producer⟩, listed, rfl⟩ := List.mem_map.mp due
  have found := Std.ExtTreeMap.mem_toList_iff_getElem?_eq_some.mp (List.mem_filter.mp listed).1
  exact (intact.producers key producer found).resource

theorem run_intact {transit : Transit} (intact : transit.Intact) (tick : Nat) :
    (run tick transit).Intact := by
  have grown (key : ResourceId) :
      key ∈ (produced tick transit).foldl produce transit.inventory ↔ key ∈ transit.resources :=
    List.foldlRecOn (motive := fun inventory : Std.ExtTreeMap ResourceId Nat =>
        ∀ key : ResourceId, key ∈ inventory ↔ key ∈ transit.resources) _ _ intact.inventory
      (fun _ stocked _ due => produce_stocked stocked (produced_known intact due)) key
  refine { intact with inventory := ?_ }
  exact List.foldlRecOn (motive := fun inventory : Std.ExtTreeMap ResourceId Nat =>
      ∀ key : ResourceId, key ∈ inventory ↔ key ∈ transit.resources) _ _ grown
    fun _ stocked entry _ => consume_stocked stocked entry

end Production

theorem transitSystems_keeps {Host Log Observation : Type} (display : Float32 → String)
    (agents : Systems Transit Host Log Observation) :
    (transitSystems display agents).Keeps Transit.Intact where
  lifecycle _ intact := Lifecycle.run_intact intact
  movement _ intact := Movement.run_intact intact
  interaction _ intact := Interaction.run_intact intact
  production machine intact := Production.run_intact intact machine.world.tick
  applyAction _ agentId action intact := applyAction_intact intact display agentId action

end Simetro.Engine
