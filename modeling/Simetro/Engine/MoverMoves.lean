import Simetro.Engine.ActionEffects
import Simetro.Engine.IntactPasses
import Simetro.Library.Walk

/-! What each pass of a tick does to one mover, and the events that tell of it. -/

namespace Simetro.Protocol

/-- The mover whose departure or arrival an event is. -/
def SimEvent.traveler? : SimEvent → Option Nat
  | .moverDeparted mover _ _ | .moverArrived mover _ _ => some mover
  | _ => none

/-- The event is about the mover. -/
def SimEvent.moves (mover : Nat) (event : SimEvent) : Bool := event.traveler? == some mover

end Simetro.Protocol

namespace Simetro.Engine

open Simetro.Library Simetro.Protocol

/-- A mover's place on the network of nodes and paths. -/
abbrev Place := Whereabouts NodeId Path

section Places

variable (transit : Transit) (id : MoverId)

/-- The network has the mover there, the path it travels on included. -/
def Transit.Holds : Place → Prop
  | .unstarted => ∀ mover, transit.movers[id]? = some mover → mover.state = .empty
  | .resting node => ∃ mover, transit.movers[id]? = some mover ∧ mover.state = .waiting node
  | .along path => ∃ mover progress, transit.movers[id]? = some mover ∧
      mover.state = .traveling path.id progress ∧ transit.paths[path.id]? = some path

/-- The mover's home path, if there are both. -/
def Transit.home : Option Path :=
  transit.movers[id]?.bind fun mover => transit.paths[mover.homePath]?

/-- A walk of the mover, as events tell it: each departure is along a path that it may leave on,
each arrival along one it may come in by. -/
abbrev EventWalk (leaves enters : Path → Prop) : Place → List SimEvent → Place → Prop :=
  Walk Path.source Path.target
    (fun event path => event = .moverDeparted id path.source path.id ∧ leaves path)
    (fun event path => event = .moverArrived id path.target path.id ∧ enters path)

end Places

variable {transit : Transit} {id key : MoverId} {mover : Mover} {place : Place}

theorem Transit.setMover_getElem? : (transit.setMover key mover).movers[id]? =
    if key = id then some mover else transit.movers[id]? := by
  rw [setMover, Std.ExtTreeMap.getElem?_insert]
  by_cases same : key = id
  · rw [if_pos same, if_pos (Std.LawfulEqCmp.compare_eq_iff_eq.mpr same)]
  · rw [if_neg same, if_neg fun equal => same (Std.LawfulEqCmp.compare_eq_iff_eq.mp equal)]

/-- What another mover does is nothing to this one. -/
theorem Transit.Holds.apart (holds : transit.Holds id place) (other : key ≠ id) :
    (transit.setMover key mover).Holds id place := by
  have same : (transit.setMover key mover).movers[id]? = transit.movers[id]? := by
    rw [setMover_getElem?, if_neg other]
  cases place with
  | unstarted => exact fun mover found => holds mover (same.symm.trans found)
  | resting node =>
    obtain ⟨mover, found, waits⟩ := holds
    exact ⟨mover, same.trans found, waits⟩
  | along path =>
    obtain ⟨mover, progress, found, travels, there⟩ := holds
    exact ⟨mover, progress, same.trans found, travels, there⟩

theorem Transit.home_setMover (found : transit.movers[key]? = some mover) (state : MoverState) :
    (transit.setMover key { mover with state }).home id = transit.home id := by
  unfold home
  rw [setMover_getElem?]
  by_cases same : key = id
  · subst same
    rw [if_pos rfl, found]
    rfl
  · rw [if_neg same]
    rfl

section States

variable (found : transit.movers[id]? = some mover) (holds : transit.Holds id place)
include found holds

theorem unstarted_of_empty (state : mover.state = .empty) : place = .unstarted := by
  cases place with
  | unstarted => rfl
  | resting node =>
    obtain ⟨same, there, waits⟩ := holds
    cases found.symm.trans there
    cases state.symm.trans waits
  | along path =>
    obtain ⟨same, progress, there, travels, -⟩ := holds
    cases found.symm.trans there
    cases state.symm.trans travels

theorem resting_of_waiting {node : NodeId} (state : mover.state = .waiting node) :
    place = .resting node := by
  cases place with
  | unstarted => cases state.symm.trans (holds mover found)
  | resting other =>
    obtain ⟨same, there, waits⟩ := holds
    cases found.symm.trans there
    cases state.symm.trans waits
    rfl
  | along path =>
    obtain ⟨same, progress, there, travels, -⟩ := holds
    cases found.symm.trans there
    cases state.symm.trans travels

theorem along_of_traveling {way : PathId} {progress : Float32}
    (state : mover.state = .traveling way progress) :
    ∃ path, place = .along path ∧ path.id = way ∧ transit.paths[way]? = some path := by
  cases place with
  | unstarted => cases state.symm.trans (holds mover found)
  | resting other =>
    obtain ⟨same, there, waits⟩ := holds
    cases found.symm.trans there
    cases state.symm.trans waits
  | along path =>
    obtain ⟨same, progress, there, travels, placed⟩ := holds
    cases found.symm.trans there
    cases state.symm.trans travels
    exact ⟨path, rfl, rfl, placed⟩

end States

/-- A pass over the movers, as far as it got: the paths and the mover's home are as they were,
and the events so far walk the mover from where it was to where it is. -/
structure Passing (id : MoverId) (leaves enters : Path → Prop) (start : Transit) (place : Place)
    (now : Transit × List SimEvent) : Prop where
  paths : now.1.paths = start.paths
  home : now.1.home id = start.home id
  walked : ∃ next, EventWalk id leaves enters place (now.2.filter (SimEvent.moves id)) next ∧
    now.1.Holds id next

namespace Passing

variable {leaves enters : Path → Prop} {start : Transit} {now : Transit × List SimEvent}

theorem begin_ (holds : start.Holds id place) : Passing id leaves enters start place (start, []) :=
  ⟨rfl, rfl, place, .stay place, holds⟩

/-- A mover changes state and an event tells. -/
theorem move (passing : Passing id leaves enters start place now)
    (found : now.1.movers[key]? = some mover) {state : MoverState} {event : SimEvent}
    (about : event.traveler? = some key)
    (own : key = id → ∀ next, EventWalk id leaves enters place (now.2.filter (SimEvent.moves id)) next →
      now.1.Holds id next → ∃ after, EventWalk id leaves enters next [event] after ∧
        (now.1.setMover key { mover with state }).Holds id after) :
    Passing id leaves enters start place
      (now.1.setMover key { mover with state }, now.2 ++ [event]) := by
  obtain ⟨next, walk, holds⟩ := passing.walked
  refine ⟨passing.paths, (Transit.home_setMover found state).trans passing.home, ?_⟩
  rw [List.filter_append]
  by_cases same : key = id
  · obtain ⟨after, onward, arrived⟩ := own same next walk holds
    have told : [event].filter (SimEvent.moves id) = [event] := by
      simp [SimEvent.moves, about, same]
    rw [told]
    exact ⟨after, walk.trans onward, arrived⟩
  · have untold : [event].filter (SimEvent.moves id) = [] := by
      simp [SimEvent.moves, about, same]
    rw [untold, List.append_nil]
    exact ⟨next, walk, holds.apart same⟩

end Passing

theorem setMover_self : (transit.setMover id mover).movers[id]? = some mover := by
  rw [Transit.setMover_getElem?, if_pos rfl]

namespace Lifecycle

/-- Spawning sends a mover that has not started along its home path. -/
theorem spawnOne_passing {start : Transit} (intact : start.Intact) {spawn : Spawn}
    (due : spawn ∈ spawns start) {now : Transit × List SimEvent}
    (passing : Passing id (start.home id = some ·) (fun _ => False) start place now) :
    Passing id (start.home id = some ·) (fun _ => False) start place (spawnOne now spawn) := by
  obtain ⟨⟨key, first⟩, listed, starts⟩ := List.mem_filterMap.mp due
  have located := Std.ExtTreeMap.mem_toList_iff_getElem?_eq_some.mp listed
  cases unspawned : first.state with
  | waiting node => simp [unspawned] at starts
  | traveling way progress => simp [unspawned] at starts
  | empty =>
    simp only [unspawned] at starts
    obtain ⟨path, found, rfl⟩ := Option.map_eq_some_iff.mp starts
    have own := (intact.paths _ path found).own
    unfold spawnOne
    cases there : now.1.movers[key]? with
    | none => exact passing
    | some mover =>
      simp only [Mover.spawnAt, Mover.beginTravel]
      cases state : mover.state with
      | waiting node => exact passing
      | traveling way progress => exact passing
      | empty =>
        refine passing.move there rfl ?_
        rintro rfl next - holds
        obtain rfl := unstarted_of_empty there holds state
        have home : start.home key = some path := by
          rw [Transit.home, located]
          exact found
        refine ⟨.along path, .start ⟨rfl, home⟩ (.stay _), _, _, setMover_self, rfl, ?_⟩
        rw [← own] at found
        exact (congrArg (·[path.id]?) passing.paths).trans found

theorem run_passing (intact : transit.Intact) (holds : transit.Holds id place) :
    Passing id (transit.home id = some ·) (fun _ => False) transit place (run transit) :=
  List.foldlRecOn (motive := Passing id (transit.home id = some ·) (fun _ => False) transit place)
    _ _ (.begin_ holds) fun _ passing _ due => spawnOne_passing intact due passing

end Lifecycle

namespace Movement

theorem advanceAll_getElem? : (advanceAll transit).movers[id]? =
    transit.movers[id]?.map fun mover => (advanceOne transit.dt mover).1 :=
  Std.ExtTreeMap.getElem?_map

/-- Progress leaves a mover in its place. -/
theorem advanceOne_place (dt : Float32) (mover : Mover) :
    (advanceOne dt mover).1.homePath = mover.homePath ∧
      match mover.state with
      | .traveling way _ => ∃ progress, (advanceOne dt mover).1.state = .traveling way progress
      | other => (advanceOne dt mover).1.state = other := by
  unfold advanceOne Mover.advance
  cases state : mover.state with
  | empty => exact ⟨rfl, state⟩
  | waiting node => exact ⟨rfl, state⟩
  | traveling way progress => exact ⟨rfl, _, rfl⟩

theorem advanceAll_home : (advanceAll transit).home id = transit.home id := by
  rw [Transit.home, advanceAll_getElem?, Transit.home]
  cases transit.movers[id]? with
  | none => rfl
  | some mover => exact congrArg (transit.paths[·]?) (advanceOne_place transit.dt mover).1

theorem advanceAll_holds (holds : transit.Holds id place) : (advanceAll transit).Holds id place := by
  cases place with
  | unstarted =>
    intro mover found
    rw [advanceAll_getElem?] at found
    obtain ⟨before, there, rfl⟩ := Option.map_eq_some_iff.mp found
    have placed := (advanceOne_place transit.dt before).2
    rw [holds before there] at placed
    exact placed
  | resting node =>
    obtain ⟨mover, found, waits⟩ := holds
    have placed := (advanceOne_place transit.dt mover).2
    rw [waits] at placed
    refine ⟨_, ?_, placed⟩
    rw [advanceAll_getElem?, found]
    rfl
  | along path =>
    obtain ⟨mover, progress, found, travels, there⟩ := holds
    have placed := (advanceOne_place transit.dt mover).2
    rw [travels] at placed
    obtain ⟨further, placed⟩ := placed
    refine ⟨_, further, ?_, placed, there⟩
    rw [advanceAll_getElem?, found]
    rfl

/-- A mover that is due was on its way along that path. -/
theorem arrivals_traveling {arrival : MoverId × PathId} (due : arrival ∈ arrivals transit) :
    ∃ mover progress, transit.movers[arrival.1]? = some mover ∧
      mover.state = .traveling arrival.2 progress := by
  obtain ⟨⟨key, mover⟩, listed, reaches⟩ := List.mem_filterMap.mp due
  obtain ⟨way, reached, rfl⟩ := Option.map_eq_some_iff.mp reaches
  refine ⟨mover, ?_⟩
  unfold advanceOne Mover.advance at reached
  cases state : mover.state with
  | empty => simp [state] at reached
  | waiting node => simp [state] at reached
  | traveling path progress =>
    simp only [state] at reached
    obtain ⟨-, same⟩ := Option.ite_none_right_eq_some.mp reached
    cases same
    exact ⟨progress, Std.ExtTreeMap.mem_toList_iff_getElem?_eq_some.mp listed, rfl⟩

/-- An arrival ends the travel that was due to end. -/
theorem arriveOne_passing {start : Transit} (holds : start.Holds id place)
    {arrival : MoverId × PathId} (due : arrival ∈ arrivals start) {now : Arrived}
    (passing : Passing id (fun _ => False) (fun path => start.paths[path.id]? = some path) start place
      (now.transit, now.events)) :
    Passing id (fun _ => False) (fun path => start.paths[path.id]? = some path) start place
      ((arriveOne now arrival).transit, (arriveOne now arrival).events) := by
  unfold arriveOne
  cases there : now.transit.movers[arrival.1]? with
  | none => exact passing
  | some mover =>
    cases found : now.transit.paths[arrival.2]? with
    | none => exact passing
    | some path =>
      simp only [Mover.arrive]
      cases state : mover.state with
      | empty => exact passing
      | waiting node => exact passing
      | traveling way progress =>
        refine passing.move there rfl ?_
        intro same next walk here
        subst same
        obtain ⟨along, rfl, -, -⟩ := along_of_traveling there here state
        obtain rfl := walk.along_of_undeparted fun _ _ told => told.2
        obtain ⟨first, progress', located, travels⟩ := arrivals_traveling due
        obtain ⟨_, same, ends, placed⟩ := along_of_traveling located holds travels
        cases same
        have paths : now.transit.paths = start.paths := passing.paths
        rw [paths, placed] at found
        cases found
        rw [← ends] at placed
        refine ⟨.resting path.target, .arrive ⟨?_, placed⟩ (.stay _), _, setMover_self, rfl⟩
        rw [ends]

theorem run_passing (holds : transit.Holds id place) :
    Passing id (fun _ => False) (fun path => transit.paths[path.id]? = some path) transit place
      ((run transit).transit, (run transit).events) :=
  List.foldlRecOn (motive := fun now : Arrived => Passing id (fun _ => False)
      (fun path => transit.paths[path.id]? = some path) transit place (now.transit, now.events))
    _ _ ⟨rfl, advanceAll_home, place, .stay place, advanceAll_holds holds⟩
    fun _ passing _ due => arriveOne_passing holds due passing

end Movement

namespace Interaction

/-- A route leads out of the node that its mover waits at. -/
theorem routes_waiting {route : Route} (due : route ∈ routes transit) :
    ∃ mover path, transit.movers[route.mover]? = some mover ∧ mover.state = .waiting route.fromNode ∧
      transit.paths[route.path]? = some path ∧ path.source = route.fromNode := by
  obtain ⟨⟨key, mover⟩, listed, leaves⟩ := List.mem_filterMap.mp due
  cases state : mover.state with
  | empty => simp [state] at leaves
  | traveling way progress => simp [state] at leaves
  | waiting node =>
    simp only [state] at leaves
    obtain ⟨⟨way, path⟩, found, rfl⟩ := Option.map_eq_some_iff.mp leaves
    exact ⟨mover, path, Std.ExtTreeMap.mem_toList_iff_getElem?_eq_some.mp listed, state,
      Std.ExtTreeMap.mem_toList_iff_getElem?_eq_some.mp (List.mem_of_find?_eq_some found),
      by simpa using List.find?_some found⟩

theorem departOne_passing {start : Transit} (intact : start.Intact) (holds : start.Holds id place)
    {route : Route} (due : route ∈ routes start) {now : Transit × List SimEvent}
    (passing : Passing id (fun path => start.paths[path.id]? = some path) (fun _ => False) start place
      now) :
    Passing id (fun path => start.paths[path.id]? = some path) (fun _ => False) start place
      (departOne now route) := by
  obtain ⟨first, path, located, waits, found, leaves⟩ := routes_waiting due
  have own := (intact.paths _ path found).own
  unfold departOne
  cases there : now.1.movers[route.mover]? with
  | none => exact passing
  | some mover =>
    simp only [Mover.beginTravel]
    cases state : mover.state with
    | empty => exact passing
    | traveling way progress => exact passing
    | waiting node =>
      refine passing.move there rfl ?_
      intro same next walk here
      subst same
      obtain rfl := resting_of_waiting there here state
      obtain rfl := walk.resting_of_unarrived fun _ _ told => told.2
      cases resting_of_waiting located holds waits
      rw [← own] at found
      refine ⟨.along path, .depart leaves ⟨?_, found⟩ (.stay _), _, 0.0, setMover_self, ?_, ?_⟩
      · rw [own, leaves]
      · rw [own]
      · exact (congrArg (·[path.id]?) passing.paths).trans found

theorem run_passing (intact : transit.Intact) (holds : transit.Holds id place) :
    Passing id (fun path => transit.paths[path.id]? = some path) (fun _ => False) transit place
      (run transit) :=
  List.foldlRecOn (motive := Passing id (fun path => transit.paths[path.id]? = some path)
      (fun _ => False) transit place)
    _ _ (.begin_ holds) fun _ passing _ due => departOne_passing intact holds due passing

end Interaction

section Actions

variable {before after : Transit} {action : Action}

/-- What an action leaves of a mover: all but its speed. -/
def Mover.situation (mover : Mover) : PathId × MoverState := (mover.homePath, mover.state)

/-- A path is erased or stays what it is. -/
theorem effect_path (effect : Effect before after action) {way : PathId} {path : Path}
    (was : before.paths[way]? = some path) (stays : way ∈ after.paths) :
    after.paths[way]? = some path := by
  cases action with
  | noOp => exact effect.elim
  | setGoal goal => exact effect.elim
  | setSpeed mover bits =>
    obtain ⟨_, -, -, rfl⟩ := effect
    exact was
  | placePiece kind pos =>
    obtain ⟨_, _, -, rfl⟩ := effect
    exact was
  | connectPieces source target =>
    obtain ⟨fresh, smallest, rfl⟩ := effect
    have apart : compare fresh way ≠ .eq := by
      intro same
      rw [Std.LawfulEqCmp.compare_eq_iff_eq.mp same] at smallest
      exact smallest.free (mem_of_getElem? was)
    rw [Std.ExtTreeMap.getElem?_insert, if_neg apart]
    exact was
  | removePiece node =>
    obtain ⟨-, rfl⟩ := effect
    have kept := Std.ExtTreeMap.getElem?_eq_some_getElem stays
    rw [Std.ExtTreeMap.getElem?_filter', was] at kept
    rw [Std.ExtTreeMap.getElem?_filter', was, kept]
    rw [Option.filter_eq_some_iff] at kept
    exact congrArg some (Option.some.inj kept.1).symm
  | defineResource name color =>
    obtain ⟨_, -, -, rfl⟩ := effect
    exact was
  | addProducer name amount interval =>
    obtain ⟨_, _, -, -, rfl⟩ := effect
    exact was
  | addConsumer name amount interval =>
    obtain ⟨_, _, -, -, rfl⟩ := effect
    exact was

theorem effect_situation (effect : Effect before after action) :
    after.movers[id]?.map Mover.situation = before.movers[id]?.map Mover.situation := by
  cases action with
  | noOp => exact effect.elim
  | setGoal goal => exact effect.elim
  | setSpeed key bits =>
    obtain ⟨mover, found, -, rfl⟩ := effect
    change (before.setMover key _).movers[id]?.map _ = _
    rw [Transit.setMover_getElem?]
    by_cases same : key = id
    · subst same
      rw [if_pos rfl, found]
      rfl
    · rw [if_neg same]
  | placePiece kind pos =>
    obtain ⟨_, _, -, rfl⟩ := effect
    rfl
  | connectPieces source target =>
    obtain ⟨_, -, rfl⟩ := effect
    rfl
  | removePiece node =>
    obtain ⟨-, rfl⟩ := effect
    rfl
  | defineResource name color =>
    obtain ⟨_, -, -, rfl⟩ := effect
    rfl
  | addProducer name amount interval =>
    obtain ⟨_, _, -, -, rfl⟩ := effect
    rfl
  | addConsumer name amount interval =>
    obtain ⟨_, _, -, -, rfl⟩ := effect
    rfl

section Effects

variable (kept : after.Intact) (effect : Effect before after action)
include kept effect

/-- A mover's home path is never removed. -/
theorem effect_home (intact : before.Intact) : after.home id = before.home id := by
  have situated : after.movers[id]?.map Mover.situation = before.movers[id]?.map Mover.situation :=
    effect_situation effect
  unfold Transit.home
  cases found : before.movers[id]? with
  | none =>
    rw [found, Option.map_none, Option.map_eq_none_iff] at situated
    rw [situated]
    rfl
  | some mover =>
    rw [found, Option.map_some, Option.map_eq_some_iff] at situated
    obtain ⟨other, there, same⟩ := situated
    have home := (intact.movers id mover found).home
    have stays := (kept.movers id other there).home
    rw [there]
    change after.paths[other.homePath]? = before.paths[mover.homePath]?
    rw [(Prod.mk.inj same).1] at stays ⊢
    have was := Std.ExtTreeMap.getElem?_eq_some_getElem home
    rw [was]
    exact effect_path effect was stays

/-- An action leaves every mover in its place: what holds a mover is not removed. -/
theorem effect_holds (holds : before.Holds id place) : after.Holds id place := by
  have situated : after.movers[id]?.map Mover.situation = before.movers[id]?.map Mover.situation :=
    effect_situation effect
  cases place with
  | unstarted =>
    intro mover found
    rw [found, Option.map_some, eq_comm, Option.map_eq_some_iff] at situated
    obtain ⟨other, there, same⟩ := situated
    exact (Prod.mk.inj same).2.symm.trans (holds other there)
  | resting node =>
    obtain ⟨mover, found, waits⟩ := holds
    rw [found, Option.map_some, Option.map_eq_some_iff] at situated
    obtain ⟨other, there, same⟩ := situated
    exact ⟨other, there, (Prod.mk.inj same).2.trans waits⟩
  | along path =>
    obtain ⟨mover, progress, found, travels, was⟩ := holds
    rw [found, Option.map_some, Option.map_eq_some_iff] at situated
    obtain ⟨other, there, same⟩ := situated
    have onway := (Prod.mk.inj same).2.trans travels
    have stays := (kept.movers id other there).state
    rw [onway] at stays
    exact ⟨other, progress, there, onway, effect_path effect was stays⟩

end Effects

theorem applyAction_home (intact : transit.Intact) (display : Float32 → String) (agentId : String)
    (action : Action) : (applyAction display transit agentId action).1.home id = transit.home id := by
  have kept := applyAction_intact intact display agentId action
  unfold applyAction at kept ⊢
  split at kept
  · rename_i accepted
    exact effect_home kept (Actions.attempt_effect accepted) intact
  · rfl
  · rfl

theorem applyAction_holds (intact : transit.Intact) (holds : transit.Holds id place)
    (display : Float32 → String) (agentId : String) (action : Action) :
    (applyAction display transit agentId action).1.Holds id place := by
  have kept := applyAction_intact intact display agentId action
  unfold applyAction at kept ⊢
  split at kept
  · rename_i accepted
    exact effect_holds kept (Actions.attempt_effect accepted) holds
  · exact holds
  · exact holds

theorem applyAction_unmoved (display : Float32 → String) (agentId : String) (action : Action) :
    (applyAction display transit agentId action).2.1.filter (SimEvent.moves id) = [] := by
  apply List.filter_eq_nil_iff.mpr
  unfold applyAction
  split
  · rename_i accepted
    exact Actions.attempt_pushes (fun _ _ _ => nofun) (fun _ _ => nofun) (fun _ => nofun) accepted
  · exact List.forall_mem_nil _
  · exact List.forall_mem_nil _

end Actions

end Simetro.Engine
