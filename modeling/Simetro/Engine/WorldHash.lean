import Simetro.Engine.IntactPasses
import Simetro.Sl1.StateHash

/-! What `state_hash` feeds to the hasher for a world, and how much of an intact transit
network it determines: all of it but the names of the resources. -/

namespace Simetro.Engine

open Simetro.Library Simetro.Protocol

namespace StateHash

open Chunk

def shapeTag : NodeShape → UInt8
  | .circle => 1
  | .square => 2
  | .triangle => 3
  | .diamond => 4
  | .hexagon => 5

def feedMoverState : MoverState → Chunk
  | .empty => byte 0xE0
  | .waiting node => byte 0xE1 ++ u32 node
  | .traveling path progress => byte 0xE2 ++ u32 path ++ f32 progress

def feedNode (node : Node) : Chunk :=
  f32 node.pos.1 ++ f32 node.pos.2 ++ u8 node.color ++ byte (shapeTag node.shape)

def feedPath (path : Path) : Chunk := u32 path.source ++ u32 path.target ++ u8 path.color

def feedMover (mover : Mover) : Chunk :=
  u32 mover.homePath ++ f32 mover.speed ++ feedMoverState mover.state

/-- A resource is fed without its name. -/
def feedResource (resource : Resource) : Chunk := u8 resource.color

def feedProducer (producer : Producer) : Chunk :=
  u32 producer.resource ++ u64 producer.amount ++ u32 producer.intervalTicks

def feedConsumer (consumer : Consumer) : Chunk :=
  u32 consumer.resource ++ u64 consumer.amount ++ u32 consumer.intervalTicks

def feedResources (transit : Transit) : Chunk :=
  if !transit.resources.isEmpty || !transit.inventory.isEmpty || !transit.producers.isEmpty ||
      !transit.consumers.isEmpty then
    bare "resources.v1" ++ entries u32 feedResource transit.resources ++
      entries u32 u64 transit.inventory ++ entries u32 feedProducer transit.producers ++
      entries u32 feedConsumer transit.consumers
  else raw []

def feedTransit (transit : Transit) : Chunk :=
  bare "world.v1" ++ f32 transit.dt ++ entries u32 feedNode transit.nodes ++
    entries u32 feedPath transit.paths ++ entries u32 feedMover transit.movers ++
    feedResources transit

/-- `feed_world`. -/
def feedWorld (world : World Transit) : Chunk :=
  feedTransit world.network ++
    match world.sl1 with
    | none => raw []
    | some scene => Sl1.StateHash.feedSl1 scene world.sl1Runtime

end StateHash

/-- The network with the names of its resources struck out. -/
def Transit.unnamed (transit : Transit) : Transit :=
  { transit with resources := transit.resources.map fun _ resource => { resource with name := "" } }

namespace StateHash

open Chunk

theorem shapeTag_injective : Function.Injective shapeTag := by
  intro first second same
  cases first <;> cases second <;> first | rfl | exact absurd same (by decide)

theorem feedMoverState_reads : Reads feedMoverState fun state => state := by
  constructor
  intro first second after rest agree
  cases first with
  | empty =>
    cases second with
    | empty => exact ⟨rfl, List.append_cancel_left agree.2.2⟩
    | _ => exact absurd agree.2.2 (by simp [feedMoverState])
  | waiting =>
    cases second with
    | waiting =>
      obtain ⟨nodes, ends⟩ := (Reads.unsigned 4).read agree.skip
      simp_all
    | _ => exact absurd agree.2.2 (by simp [feedMoverState])
  | traveling =>
    cases second with
    | traveling =>
      simp only [feedMoverState, Chunk.append_assoc] at agree
      obtain ⟨paths, agree⟩ := (Reads.unsigned 4).next agree.skip
      obtain ⟨progress, ends⟩ := Reads.f32.read agree
      simp_all
    | _ => exact absurd agree.2.2 (by simp [feedMoverState])

theorem feedNode_reads : Reads feedNode fun node => (node.pos, node.color, node.shape) := by
  constructor
  intro first second after rest agree
  simp only [feedNode, Chunk.append_assoc] at agree
  obtain ⟨xs, agree⟩ := Reads.f32.next agree
  obtain ⟨ys, agree⟩ := Reads.f32.next agree
  obtain ⟨colors, agree⟩ := (Reads.unsigned 1).next agree
  obtain ⟨shapes, ends⟩ := (Reads.tag shapeTag_injective).read agree
  refine ⟨?_, ends⟩
  simp_all [Prod.ext_iff]

theorem feedPath_reads : Reads feedPath fun path => (path.source, path.target, path.color) := by
  constructor
  intro first second after rest agree
  simp only [feedPath, Chunk.append_assoc] at agree
  obtain ⟨sources, agree⟩ := (Reads.unsigned 4).next agree
  obtain ⟨targets, agree⟩ := (Reads.unsigned 4).next agree
  obtain ⟨colors, ends⟩ := (Reads.unsigned 1).read agree
  refine ⟨?_, ends⟩
  simp_all

theorem feedMover_reads : Reads feedMover fun mover => (mover.homePath, mover.speed, mover.state) := by
  constructor
  intro first second after rest agree
  simp only [feedMover, Chunk.append_assoc] at agree
  obtain ⟨homes, agree⟩ := (Reads.unsigned 4).next agree
  obtain ⟨speeds, agree⟩ := Reads.f32.next agree
  obtain ⟨states, ends⟩ := feedMoverState_reads.read agree
  refine ⟨?_, ends⟩
  simp_all

theorem feedResource_reads : Reads feedResource Resource.color := (Reads.unsigned 1).on Resource.color

theorem feedProducer_reads : Reads feedProducer fun producer =>
    (producer.resource, producer.amount, producer.intervalTicks) := by
  constructor
  intro first second after rest agree
  simp only [feedProducer, Chunk.append_assoc] at agree
  obtain ⟨resources, agree⟩ := (Reads.unsigned 4).next agree
  obtain ⟨amounts, agree⟩ := (Reads.unsigned 8).next agree
  obtain ⟨intervals, ends⟩ := (Reads.unsigned 4).read agree
  refine ⟨?_, ends⟩
  simp_all

theorem feedConsumer_reads : Reads feedConsumer fun consumer =>
    (consumer.resource, consumer.amount, consumer.intervalTicks) := by
  constructor
  intro first second after rest agree
  simp only [feedConsumer, Chunk.append_assoc] at agree
  obtain ⟨resources, agree⟩ := (Reads.unsigned 4).next agree
  obtain ⟨amounts, agree⟩ := (Reads.unsigned 8).next agree
  obtain ⟨intervals, ends⟩ := (Reads.unsigned 4).read agree
  refine ⟨?_, ends⟩
  simp_all

section Determines

variable {first second : Transit} (intact : first.Intact) (intact' : second.Intact)
include intact intact'

theorem feedResources_determines (agree : Agree (feedResources first) (feedResources second) [] []) :
    first.unnamed.resources = second.unnamed.resources ∧ first.inventory = second.inventory ∧
      first.producers = second.producers ∧ first.consumers = second.consumers := by
  have nothing {transit : Transit} (bare : (!transit.resources.isEmpty || !transit.inventory.isEmpty ||
      !transit.producers.isEmpty || !transit.consumers.isEmpty) = false) :
      transit.resources = ∅ ∧ transit.inventory = ∅ ∧ transit.producers = ∅ ∧
        transit.consumers = ∅ := by
    simpa [and_assoc] using bare
  cases stocked : (!first.resources.isEmpty || !first.inventory.isEmpty ||
      !first.producers.isEmpty || !first.consumers.isEmpty) <;>
    cases stocked' : (!second.resources.isEmpty || !second.inventory.isEmpty ||
      !second.producers.isEmpty || !second.consumers.isEmpty) <;>
    simp only [feedResources, stocked, stocked', if_true, Bool.false_eq_true, if_false,
      Chunk.append_assoc] at agree
  case false.false =>
    simp [Transit.unnamed, nothing stocked, nothing stocked']
  case false.true => exact absurd agree.2.2 (by simp [bare, utf8, utf8Chars])
  case true.false => exact absurd agree.2.2 (by simp [bare, utf8, utf8Chars])
  case true.true =>
    obtain ⟨resources, agree⟩ := (Reads.rows (Reads.unsigned 4) feedResource_reads).next agree.skip
    obtain ⟨inventory, agree⟩ := (Reads.entries (Reads.unsigned 4) (Reads.unsigned 8)).next agree
    obtain ⟨producers, agree⟩ := (Reads.rows (Reads.unsigned 4) feedProducer_reads).next agree
    obtain ⟨consumers, -⟩ := (Reads.rows (Reads.unsigned 4) feedConsumer_reads).read agree
    refine ⟨?_, inventory, ?_, ?_⟩
    · have struck {transit : Transit} (intact : transit.Intact) : Everywhere
          (fun key resource => resource.id = key ∧ resource.name = "") transit.unnamed.resources :=
        intact.resources.map fun key resource own => ⟨own, rfl⟩
      refine eq_of_views (fun key one two here there (views : one.color = two.color) => ?_) ?_
      · obtain ⟨own, blank⟩ := struck intact key one here
        obtain ⟨own', blank'⟩ := struck intact' key two there
        cases one
        cases two
        simp_all
      · simpa only [Transit.unnamed, Std.ExtTreeMap.map_map] using resources
    · refine eq_of_views (fun key one two here there views => ?_) producers
      have own := (intact.producers key one here).own.trans (intact'.producers key two there).own.symm
      cases one
      cases two
      simp_all
    · refine eq_of_views (fun key one two here there views => ?_) consumers
      have own := (intact.consumers key one here).own.trans (intact'.consumers key two there).own.symm
      cases one
      cases two
      simp_all

/-- The bytes of an intact network determine it, but for the names of its resources. -/
theorem feedTransit_determines (agree : Agree (feedTransit first) (feedTransit second) [] []) :
    first.unnamed = second.unnamed := by
  simp only [feedTransit, Chunk.append_assoc] at agree
  obtain ⟨steps, agree⟩ := Reads.f32.next agree.skip
  obtain ⟨nodes, agree⟩ := (Reads.rows (Reads.unsigned 4) feedNode_reads).next agree
  obtain ⟨paths, agree⟩ := (Reads.rows (Reads.unsigned 4) feedPath_reads).next agree
  obtain ⟨movers, agree⟩ := (Reads.rows (Reads.unsigned 4) feedMover_reads).next agree
  obtain ⟨resources, inventory, producers, consumers⟩ :=
    feedResources_determines intact intact' agree
  have nodes : first.nodes = second.nodes := by
    refine eq_of_views (fun key one two here there views => ?_) nodes
    have own := (intact.nodes key one here).trans (intact'.nodes key two there).symm
    cases one
    cases two
    simp_all
  have paths : first.paths = second.paths := by
    refine eq_of_views (fun key one two here there views => ?_) paths
    have own := (intact.paths key one here).own.trans (intact'.paths key two there).own.symm
    cases one
    cases two
    simp_all
  have movers : first.movers = second.movers := by
    refine eq_of_views (fun key one two here there views => ?_) movers
    have own := (intact.movers key one here).own.trans (intact'.movers key two there).own.symm
    cases one
    cases two
    simp_all
  cases first
  cases second
  simp_all [Transit.unnamed]

end Determines

end StateHash

end Simetro.Engine
