/-! Walks along directed edges, as a log of departures and arrivals tells them. -/

namespace Simetro.Library

/-- Where a walker is: not out yet, at a vertex, or on the way along an edge. -/
inductive Whereabouts (Vertex Edge : Type) where
  | unstarted
  | resting (vertex : Vertex)
  | along (edge : Edge)

variable {Vertex Edge Entry Other : Type} {source target : Edge → Vertex}
  {departs arrives : Entry → Edge → Prop}

/-- The log takes the walker from one place to another. It departs along any edge at first and
later along edges out of the vertex it rests at, and before it departs again it arrives at the
end of the edge it is on. -/
inductive Walk (source target : Edge → Vertex) (departs arrives : Entry → Edge → Prop) :
    Whereabouts Vertex Edge → List Entry → Whereabouts Vertex Edge → Prop where
  | stay (place : Whereabouts Vertex Edge) : Walk source target departs arrives place [] place
  | start {entry : Entry} {edge : Edge} {rest : List Entry} {last : Whereabouts Vertex Edge}
      (told : departs entry edge) (onward : Walk source target departs arrives (.along edge) rest last) :
      Walk source target departs arrives .unstarted (entry :: rest) last
  | depart {entry : Entry} {edge : Edge} {rest : List Entry} {last : Whereabouts Vertex Edge}
      {vertex : Vertex} (leaves : source edge = vertex) (told : departs entry edge)
      (onward : Walk source target departs arrives (.along edge) rest last) :
      Walk source target departs arrives (.resting vertex) (entry :: rest) last
  | arrive {entry : Entry} {edge : Edge} {rest : List Entry} {last : Whereabouts Vertex Edge}
      (told : arrives entry edge)
      (onward : Walk source target departs arrives (.resting (target edge)) rest last) :
      Walk source target departs arrives (.along edge) (entry :: rest) last

namespace Walk

variable {place middle last : Whereabouts Vertex Edge} {entries more : List Entry}

theorem trans (first : Walk source target departs arrives place entries middle)
    (second : Walk source target departs arrives middle more last) :
    Walk source target departs arrives place (entries ++ more) last := by
  induction first with
  | stay place => exact second
  | start told onward ih => exact .start told (ih second)
  | depart leaves told onward ih => exact .depart leaves told (ih second)
  | arrive told onward ih => exact .arrive told (ih second)

/-- A log that tells of the same departures and arrivals in its own words. -/
theorem map {departs' arrives' : Other → Edge → Prop} {retell : Entry → Other}
    (departures : ∀ entry edge, departs entry edge → departs' (retell entry) edge)
    (landings : ∀ entry edge, arrives entry edge → arrives' (retell entry) edge)
    (walk : Walk source target departs arrives place entries last) :
    Walk source target departs' arrives' place (entries.map retell) last := by
  induction walk with
  | stay place => exact .stay place
  | start told onward ih => exact .start (departures _ _ told) ih
  | depart leaves told onward ih => exact .depart leaves (departures _ _ told) ih
  | arrive told onward ih => exact .arrive (landings _ _ told) ih

theorem mono {departs' arrives' : Entry → Edge → Prop}
    (departures : ∀ entry edge, departs entry edge → departs' entry edge)
    (landings : ∀ entry edge, arrives entry edge → arrives' entry edge)
    (walk : Walk source target departs arrives place entries last) :
    Walk source target departs' arrives' place entries last := by
  have same : Walk source target departs' arrives' place (entries.map id) last :=
    walk.map departures landings
  rwa [List.map_id] at same

/-- Without departures a walker on the way has been so from the first. -/
theorem along_of_undeparted (never : ∀ entry edge, ¬departs entry edge) {edge : Edge}
    (walk : Walk source target departs arrives place entries (.along edge)) : place = .along edge := by
  cases walk with
  | stay => rfl
  | start told => exact absurd told (never _ _)
  | depart leaves told => exact absurd told (never _ _)
  | arrive told onward =>
    cases onward with
    | depart leaves again => exact absurd again (never _ _)

/-- Without arrivals a walker at rest has been so from the first. -/
theorem resting_of_unarrived (never : ∀ entry edge, ¬arrives entry edge) {vertex : Vertex}
    (walk : Walk source target departs arrives place entries (.resting vertex)) :
    place = .resting vertex := by
  cases walk with
  | stay => rfl
  | start told onward =>
    cases onward with
    | arrive again => exact absurd again (never _ _)
  | depart leaves told onward =>
    cases onward with
    | arrive again => exact absurd again (never _ _)
  | arrive told => exact absurd told (never _ _)

end Walk

end Simetro.Library
