import Simetro.Desktop.Driver

/-! The simulation view: its snapshot buffer, its ring of animations, what a message changes and what
a frame draws. Widgets that only repeat a message are left out. -/

namespace Simetro.Frontend

open Simetro.Desktop Simetro.Protocol

/-- `Math.min`, for a bound that is a number. -/
def mathMin (bound value : Float) : Float :=
  if value.isNaN then value else if value < bound then value else bound

/-- `Math.max`, for a bound that is a number. -/
def mathMax (bound value : Float) : Float :=
  if value.isNaN then value else if bound < value then value else bound

/-! ## Snapshots -/

structure MoverState where
  id : Nat
  pos : Float × Float
  speed : Float
  onPath : Nat

structure SnapshotBuffer (Snapshot : Type) where
  ring : List Snapshot := []
  stale : Bool := false

def ringCap : Nat := 4

namespace SnapshotBuffer

variable {Snapshot : Type} (buffer : SnapshotBuffer Snapshot)

def push (snap : Snapshot) : SnapshotBuffer Snapshot :=
  if buffer.stale then { ring := [snap], stale := false }
  else
    let ring := buffer.ring ++ [snap]
    { buffer with ring := if ring.length > ringCap then ring.drop 1 else ring }

def current : Option Snapshot := buffer.ring.getLast?

def previous : Option Snapshot :=
  if buffer.ring.length < 2 then none else buffer.ring[buffer.ring.length - 2]?

def markStale : SnapshotBuffer Snapshot := { buffer with stale := true }

/-- A mover of the current snapshot, on its way from where the previous one has it. The map of the
previous rows keeps the last row of an id. -/
def interpolate (previous : List MoverState) (a : Float) (mover : MoverState) : MoverState :=
  let from' := ((previous.reverse.find? fun row => row.id = mover.id).map (·.pos)).getD mover.pos
  { mover with
    pos := (from'.1 + (mover.pos.1 - from'.1) * a, from'.2 + (mover.pos.2 - from'.2) * a) }

def interpolatedMovers (movers : Snapshot → List MoverState) (alpha : Float) : List MoverState :=
  match buffer.current, buffer.previous with
  | none, _ => []
  | some current, none => movers current
  | some current, some previous =>
      (movers current).map (interpolate (movers previous) (mathMax 0 (mathMin 1 alpha)))

end SnapshotBuffer

/-! ## Animations -/

/-- How long the animation of an event lasts; the HUD shows the events of the scenario language. -/
def durationMs : SimEvent → Nat
  | .moverDeparted .. => 200
  | .moverArrived .. => 300
  | .moverSpeedChange .. => 150
  | .nodeHighlighted .. => 600
  | .pathPulsed .. => 400
  | .agentDecided .. => 250
  | _ => 0

structure Slot where
  alive : Bool := false
  startMs : Float := 0
  payload : SimEvent := .tick 0

abbrev slotCapacity : Nat := 256

def firstSlot : Fin slotCapacity := 0

structure AnimationEngine where
  slots : Vector Slot slotCapacity := .replicate slotCapacity {}
  nextIndex : Fin slotCapacity := firstSlot

namespace AnimationEngine

variable (engine : AnimationEngine)

def fill (i : Fin slotCapacity) (event : SimEvent) (nowMs : Float) : AnimationEngine where
  slots := engine.slots.set i ⟨true, nowMs, event⟩
  nextIndex := i + 1

/-- The first free slot from the next one on, or that one if all are alive. -/
def spawn (event : SimEvent) (nowMs : Float) : AnimationEngine :=
  if durationMs event ≤ 0 then engine
  else
    match (List.finRange slotCapacity).find? fun probe =>
        !(engine.slots.get (engine.nextIndex + probe)).alive with
    | some probe => engine.fill (engine.nextIndex + probe) event nowMs
    | none => engine.fill engine.nextIndex event nowMs

def expire (nowMs : Float) (slot : Slot) : Slot :=
  if slot.alive && decide ((durationMs slot.payload).toFloat ≤ nowMs - slot.startMs) then
    { slot with alive := false }
  else slot

/-- Release what has expired and draw the rest in the order of the slots. -/
def draw (nowMs : Float) : AnimationEngine × List SimEvent :=
  let slots := engine.slots.map (expire nowMs)
  ({ engine with slots }, (slots.toList.filter (·.alive)).map (·.payload))

def clear : AnimationEngine where
  slots := engine.slots.map fun slot => { slot with alive := false }
  nextIndex := firstSlot

end AnimationEngine

/-! ## The view -/

structure SceneView (Static Snapshot : Type) where
  scene : Option Static := none
  snapshots : SnapshotBuffer Snapshot := {}
  animations : AnimationEngine := {}
  paused : Bool := false
  /-- Zero before the first snapshot. -/
  lastSnapshotAt : Float := 0
  snapshotPeriodMs : Float := 50

/-- What one frame hands to the renderer. -/
structure Frame (Static Snapshot : Type) where
  scene : Static
  current : Snapshot
  previous : Option Snapshot
  movers : List MoverState
  overlay : List SimEvent

namespace SceneView

variable {Static Snapshot : Type} (view : SceneView Static Snapshot)

def clearSceneScopedRuntime : SceneView Static Snapshot :=
  { view with
    snapshots := {}
    animations := view.animations.clear
    lastSnapshotAt := 0 }

def resetLocalSceneState : SceneView Static Snapshot :=
  { view.clearSceneScopedRuntime with scene := none }

def applySceneStatic (projected : Static) : SceneView Static Snapshot :=
  { view.clearSceneScopedRuntime with scene := some projected }

def handleSnapshot (snap : Snapshot) (now : Float) : SceneView Static Snapshot :=
  if view.paused then
    { view with
      lastSnapshotAt := now
      snapshots := view.snapshots.markStale }
  else
    { view with
      snapshotPeriodMs :=
        if view.lastSnapshotAt != 0 then
          mathMax 16 (mathMin 500 (view.snapshotPeriodMs * 0.8 + (now - view.lastSnapshotAt) * 0.2))
        else view.snapshotPeriodMs
      lastSnapshotAt := now
      snapshots := view.snapshots.push snap }

def handleEvents (events : List SimEvent) (now : Float) : SceneView Static Snapshot :=
  if view.paused then view
  else
    { view with
      animations := events.foldl (fun animations event => animations.spawn event now) view.animations }

def setPaused (paused : Bool) : SceneView Static Snapshot :=
  { view with
    paused
    snapshots := view.snapshots.markStale
    lastSnapshotAt := if paused then view.lastSnapshotAt else 0 }

/-- The tab is shown again. -/
def refocus (now : Float) : SceneView Static Snapshot :=
  { view with
    snapshots := view.snapshots.markStale
    lastSnapshotAt := now }

/-- What `showSim` does to the view before it connects a transport. -/
def enter : SceneView Static Snapshot :=
  { view.resetLocalSceneState with paused := false }

def frame (movers : Snapshot → List MoverState) (now : Float) :
    SceneView Static Snapshot × Option (Frame Static Snapshot) :=
  match view.snapshots.current, view.scene with
  | some current, some scene =>
      let previous := view.snapshots.previous
      let alpha := if view.paused || previous.isNone then 1
        else mathMax 0 (mathMin 1 ((now - view.lastSnapshotAt) / view.snapshotPeriodMs))
      let rows := view.snapshots.interpolatedMovers movers alpha
      if view.paused then (view, some ⟨scene, current, previous, rows, []⟩)
      else
        let drawn := view.animations.draw now
        ({ view with animations := drawn.1 }, some ⟨scene, current, previous, rows, drawn.2⟩)
  | _, _ => (view, none)

end SceneView

/-- `handleMessage`: geometry of the scenario language is projected into nodes and paths; reports,
faults and warnings only reach widgets. -/
def handleMessage {shell : Shell} {Scene : Type} (project : shell.Static → Scene)
    (view : SceneView Scene shell.Snapshot) (now : Float) : Payload shell → SceneView Scene shell.Snapshot
  | .static payload => view.applySceneStatic (project payload)
  | .snapshot snap => view.handleSnapshot snap now
  | .events events => view.handleEvents events now
  | .message _ => view

/-! ## Where what the view holds comes from -/

section Buffer

variable {Snapshot : Type} {buffer : SnapshotBuffer Snapshot} {snap other : Snapshot}

theorem SnapshotBuffer.mem_push (listed : other ∈ (buffer.push snap).ring) :
    other ∈ buffer.ring ∨ other = snap := by
  rw [push] at listed
  split at listed
  · exact .inr (List.mem_singleton.mp listed)
  · have kept : other ∈ buffer.ring ++ [snap] := by
      simp only at listed
      split at listed
      · exact List.mem_of_mem_drop listed
      · exact listed
    rcases List.mem_append.mp kept with old | new
    · exact .inl old
    · exact .inr (List.mem_singleton.mp new)

theorem SnapshotBuffer.current_mem (found : buffer.current = some snap) : snap ∈ buffer.ring :=
  List.mem_of_getLast? found

theorem SnapshotBuffer.previous_mem (found : buffer.previous = some snap) : snap ∈ buffer.ring := by
  rw [previous] at found
  split at found
  · cases found
  · exact List.mem_of_getElem? found

/-- Interpolation moves the movers of the current snapshot and changes nothing else of them. -/
theorem SnapshotBuffer.interpolatedMovers_rows (movers : Snapshot → List MoverState) (alpha : Float)
    (found : buffer.current = some snap) :
    (buffer.interpolatedMovers movers alpha).map (fun row => (row.id, row.speed, row.onPath)) =
      (movers snap).map fun row => (row.id, row.speed, row.onPath) := by
  rw [interpolatedMovers, found]
  cases buffer.previous with
  | none => rfl
  | some previous => exact List.map_map

end Buffer

namespace AnimationEngine

variable {engine : AnimationEngine} {event : SimEvent} {nowMs : Float} {slot : Slot}

theorem mem_fill {i : Fin slotCapacity} (listed : slot ∈ (engine.fill i event nowMs).slots) :
    slot ∈ engine.slots ∨ slot.payload = event := by
  rcases @Vector.mem_or_eq_of_mem_set _ _ _ _ _ _ i.isLt listed with old | rfl
  · exact .inl old
  · exact .inr rfl

theorem mem_spawn (listed : slot ∈ (engine.spawn event nowMs).slots) :
    slot ∈ engine.slots ∨ slot.payload = event := by
  rw [spawn] at listed
  split at listed
  · exact .inl listed
  · split at listed
    · exact mem_fill listed
    · exact mem_fill listed

theorem mem_spawns (events : List SimEvent) :
    ∀ {engine : AnimationEngine}, slot ∈ (events.foldl (fun animations event =>
        animations.spawn event nowMs) engine).slots →
      slot ∈ engine.slots ∨ slot.payload ∈ events := by
  induction events with
  | nil => exact fun listed => .inl listed
  | cons event rest ih =>
    intro engine listed
    rcases ih listed with earlier | later
    · rcases mem_spawn earlier with old | new
      · exact .inl old
      · exact .inr (new ▸ List.mem_cons_self)
    · exact .inr (List.mem_cons_of_mem event later)

/-- Slots only ever expire, with the payload they had. -/
theorem expire_alive (alive : (expire nowMs slot).alive = true) : expire nowMs slot = slot := by
  rw [expire] at alive ⊢
  split
  · rename_i expired
    rw [if_pos expired] at alive
    cases alive
  · rfl

theorem mem_draw (listed : slot ∈ (engine.draw nowMs).1.slots) (alive : slot.alive = true) :
    slot ∈ engine.slots := by
  obtain ⟨before, member, rfl⟩ := Vector.mem_map.mp listed
  rwa [expire_alive alive]

/-- What is drawn is alive. -/
theorem drawn_mem (listed : event ∈ (engine.draw nowMs).2) :
    ∃ slot ∈ engine.slots, slot.alive = true ∧ slot.payload = event := by
  obtain ⟨slot, kept, rfl⟩ := List.mem_map.mp listed
  obtain ⟨member, alive⟩ := List.mem_filter.mp kept
  exact ⟨slot, mem_draw (Vector.mem_toList_iff.mp member) alive, alive, rfl⟩

theorem drawn_length : (engine.draw nowMs).2.length ≤ slotCapacity := by
  rw [draw, List.length_map]
  exact (List.length_filter_le _ _).trans (Nat.le_of_eq (Vector.length_toList))

theorem clear_dead (listed : slot ∈ engine.clear.slots) : slot.alive = false := by
  obtain ⟨before, -, rfl⟩ := Vector.mem_map.mp listed
  rfl

end AnimationEngine

/-- The snapshots held were taken, and the animations that run were told of, as the two say. -/
structure SceneView.Within {Static Snapshot : Type} (taken : Snapshot → Prop)
    (happened : SimEvent → Prop) (view : SceneView Static Snapshot) : Prop where
  ring : ∀ snap ∈ view.snapshots.ring, taken snap
  alive : ∀ slot ∈ view.animations.slots, slot.alive = true → happened slot.payload

namespace SceneView.Within

variable {Static Snapshot : Type} {taken : Snapshot → Prop} {happened : SimEvent → Prop}
  {view : SceneView Static Snapshot}

theorem mono (within : view.Within taken happened) {taken' : Snapshot → Prop}
    {happened' : SimEvent → Prop} (more : ∀ snap, taken snap → taken' snap)
    (more' : ∀ event, happened event → happened' event) : view.Within taken' happened' :=
  ⟨fun snap listed => more snap (within.ring snap listed),
    fun slot listed alive => more' slot.payload (within.alive slot listed alive)⟩

/-- A view whose runtime was cleared holds nothing. -/
theorem cleared (view : SceneView Static Snapshot) :
    view.clearSceneScopedRuntime.Within taken happened :=
  ⟨fun _ listed => absurd listed List.not_mem_nil, fun slot listed alive => by
    rw [AnimationEngine.clear_dead listed] at alive
    cases alive⟩

theorem of_view {after : SceneView Static Snapshot} (within : view.Within taken happened)
    (snapshots : after.snapshots = view.snapshots) (animations : after.animations = view.animations) :
    after.Within taken happened := by
  constructor
  · rw [snapshots]
    exact within.ring
  · rw [animations]
    exact within.alive

theorem handleSnapshot (within : view.Within taken happened) {snap : Snapshot} (new : taken snap)
    (now : Float) : (view.handleSnapshot snap now).Within taken happened := by
  rw [SceneView.handleSnapshot]
  split
  · exact ⟨within.ring, within.alive⟩
  · refine ⟨fun other listed => ?_, within.alive⟩
    rcases SnapshotBuffer.mem_push listed with old | rfl
    · exact within.ring other old
    · exact new

theorem handleEvents (within : view.Within taken happened) {events : List SimEvent}
    (new : ∀ event ∈ events, happened event) (now : Float) :
    (view.handleEvents events now).Within taken happened := by
  rw [SceneView.handleEvents]
  split
  · exact within
  · refine ⟨within.ring, fun slot listed alive => ?_⟩
    rcases AnimationEngine.mem_spawns events listed with old | spawned
    · exact within.alive slot old alive
    · exact new slot.payload spawned

theorem setPaused (within : view.Within taken happened) (paused : Bool) :
    (view.setPaused paused).Within taken happened := ⟨within.ring, within.alive⟩

theorem refocus (within : view.Within taken happened) (now : Float) :
    (view.refocus now).Within taken happened := ⟨within.ring, within.alive⟩

theorem frame (within : view.Within taken happened) (movers : Snapshot → List MoverState) (now : Float) :
    (view.frame movers now).1.Within taken happened := by
  unfold SceneView.frame
  split
  · simp only
    split
    · exact within
    · exact ⟨within.ring, fun slot listed alive =>
        within.alive slot (AnimationEngine.mem_draw listed alive) alive⟩
  · exact within

end SceneView.Within

section Scenes

variable {Static Snapshot : Type} {view : SceneView Static Snapshot} (now : Float)

theorem SceneView.handleSnapshot_scene {snap : Snapshot} :
    (view.handleSnapshot snap now).scene = view.scene := by
  rw [handleSnapshot]
  split
  · rfl
  · rfl

theorem SceneView.handleEvents_scene {events : List SimEvent} :
    (view.handleEvents events now).scene = view.scene := by
  rw [handleEvents]
  split
  · rfl
  · rfl

/-- A frame only changes the animations. -/
theorem SceneView.frame_kept (movers : Snapshot → List MoverState) :
    (view.frame movers now).1 = { view with animations := (view.frame movers now).1.animations } := by
  unfold frame
  split
  · simp only
    split
    · rfl
    · rfl
  · rfl

theorem SceneView.frame_scene (movers : Snapshot → List MoverState) :
    (view.frame movers now).1.scene = view.scene := by
  rw [frame_kept]

end Scenes

/-- A frame shows the scene of the view, the movers of its current snapshot and animations that run. -/
theorem SceneView.frame_shows {Static Snapshot : Type} {taken : Snapshot → Prop}
    {happened : SimEvent → Prop} {view : SceneView Static Snapshot} (within : view.Within taken happened)
    (movers : Snapshot → List MoverState) (now : Float) {shown : Frame Static Snapshot}
    (drawn : (view.frame movers now).2 = some shown) :
    view.scene = some shown.scene ∧ taken shown.current ∧
      (∀ snap, shown.previous = some snap → taken snap) ∧
      shown.movers.map (fun row => (row.id, row.speed, row.onPath)) =
        (movers shown.current).map (fun row => (row.id, row.speed, row.onPath)) ∧
      (∀ event ∈ shown.overlay, happened event) ∧ shown.overlay.length ≤ slotCapacity := by
  unfold SceneView.frame at drawn
  split at drawn
  · rename_i current scene found there
    have rows (alpha : Float) := SnapshotBuffer.interpolatedMovers_rows movers alpha found
    have earlier (snap : Snapshot) (before : view.snapshots.previous = some snap) : taken snap :=
      within.ring snap (SnapshotBuffer.previous_mem before)
    have now := within.ring current (SnapshotBuffer.current_mem found)
    simp only at drawn
    split at drawn
    · cases drawn
      exact ⟨there, now, earlier, rows _, nofun, Nat.zero_le _⟩
    · cases drawn
      refine ⟨there, now, earlier, rows _, fun event listed => ?_, AnimationEngine.drawn_length⟩
      obtain ⟨slot, member, alive, rfl⟩ := AnimationEngine.drawn_mem listed
      exact within.alive slot member alive
  · cases drawn

theorem SnapshotBuffer.push_current {Snapshot : Type} (buffer : SnapshotBuffer Snapshot)
    (snap : Snapshot) : (buffer.push snap).current = some snap := by
  rw [push]
  split
  · rfl
  · simp only [current]
    split
    · rename_i long
      rw [List.getLast?_drop, if_neg (Nat.not_le.mpr (Nat.lt_of_le_of_lt (by decide) long)),
        List.getLast?_concat]
    · exact List.getLast?_concat

end Simetro.Frontend
