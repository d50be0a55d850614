import Simetro.Sl1.RuntimeState
import Simetro.Sl1.ValidateConditions
import Simetro.Sl1.ValidateFlow
import Simetro.Sl1.ValidateObservers

/-! The scene validator: sections in dependency order, each a catalog of its own. -/

namespace Simetro.Sl1

open Simetro.Library

def checkSectionCap (sectionName : String) (count : Nat) : Checked Unit :=
  reject (maxSl1ItemsPerSection < count)
    (.tooManyItems sectionName count maxSl1ItemsPerSection)

def checkUnknownFields (extra : IdSet) : Checked Unit :=
  match extra.toList with
  | [] => .ok ()
  | field :: _ => .error (.unknownField field)

/-- Schema version, unknown fields and section sizes. -/
def checkShape (raw : RawSl1Scene) : Checked Unit := do
  reject (raw.schemaVersion.toNat != sl1SchemaVersion)
    (.unsupportedSchema raw.schemaVersion.toNat sl1SchemaVersion)
  checkUnknownFields raw.extra
  checkSectionCap "places" raw.places.length
  checkSectionCap "links" raw.links.length
  checkSectionCap "things" raw.things.length
  checkSectionCap "transforms" raw.transforms.length
  checkSectionCap "demand" raw.demand.length
  checkSectionCap "pressure" raw.pressure.length
  checkSectionCap "objectives" raw.objectives.length
  checkSectionCap "failure_conditions" raw.failureConditions.length
  checkSectionCap "victory_conditions" raw.victoryConditions.length
  checkSectionCap "agents" raw.agents.length
  checkSectionCap "milestones" raw.milestones.length

/-- `scenario_language_v1::validate`. -/
def validate (raw : RawSl1Scene) : Checked Sl1Scene := do
  checkShape raw
  let things ← catalog validateThing (·.id) (.thingDuplicateId ·.id) noCrossCheck raw.things
  let thingIds := idSet (things.map (·.id))
  let thingTags := idSet (things.flatMap (·.tags))
  let places ← catalog validatePlace (·.id) (.placeDuplicateId ·.id)
    (crossCheckPlace thingIds thingTags) raw.places
  let placeIds := idSet (places.map (·.id))
  let links ← catalog (validateLink placeIds) (·.id) (.linkDuplicateId ·.id)
    (crossCheckLink thingIds thingTags) raw.links
  let linkIds := idSet (links.map (·.id))
  let placesById : IdMap Sl1Place := table places (·.id) id
  let transforms ← catalog (validateTransform placesById thingIds) (·.id)
    (.transformDuplicateId ·.id) noCrossCheck raw.transforms
  let transformIds := idSet (transforms.map (·.id))
  let demand ← catalog (validateDemand placeIds thingIds) (·.id) (.demandDuplicateId ·.id)
    noCrossCheck raw.demand
  let demandIds := idSet (demand.map (·.id))
  let pressure ← catalog (validatePressure ⟨placesById, thingIds, demandIds, linkIds⟩) (·.id)
    (.pressureDuplicateId ·.id) noCrossCheck raw.pressure
  let objectives ←
    catalog (validateObjective ⟨places, placeIds, thingIds, transformIds, demandIds⟩) (·.id)
      (.objectiveDuplicateId ·.id) noCrossCheck raw.objectives
  let objectiveIds := idSet (objectives.map (·.id))
  let failureConditions ← catalog (validateFailureCondition ⟨places, thingIds, objectiveIds⟩)
    (·.id) (.failureConditionDuplicateId ·.id) noCrossCheck raw.failureConditions
  let victoryConditions ← catalog validateVictoryCondition (·.id)
    (.victoryConditionDuplicateId ·.id) noCrossCheck raw.victoryConditions
  let observability ← raw.observability.mapM (validateObservability places thingIds)
  let dashboards := (observability.map (·.dashboards)).getD []
  let metrics := (observability.map (·.metrics)).getD []
  let alerts := (observability.map (·.alerts)).getD []
  let dashboardIds := idSet (dashboards.map (·.id))
  let metricIds := idSet (metrics.map (·.id))
  let agents ← catalog
    (validateAgent ⟨placeIds, transformIds, demandIds, dashboardIds, metricIds, objectiveIds⟩)
    (·.id) (.agentDuplicateId ·.id) noCrossCheck raw.agents
  let focusable := places.map (·.id) ++ links.map (·.id) ++ things.map (·.id) ++
    transforms.map (·.id) ++ demand.map (·.id) ++ pressure.map (·.id) ++ objectives.map (·.id) ++
    failureConditions.map (·.id) ++ metrics.map (·.id) ++ dashboards.map (·.id) ++
    alerts.map (·.id) ++ agents.map (·.id)
  let milestones ← catalog
    (validateMilestone ⟨idSet (pressure.map (·.id)), metricIds, dashboardIds, idSet focusable⟩)
    (·.id) (.milestoneDuplicateId ·.id) noCrossCheck raw.milestones
  return {
    schemaVersion := raw.schemaVersion.toNat
    places
    links
    things
    transforms
    demand
    pressure
    objectives
    failureConditions
    victoryConditions
    agents
    observability
    milestones }

end Simetro.Sl1
