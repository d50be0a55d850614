import Simetro.Engine.Passes
import Simetro.Library.Draws

/-! What one production pass makes of each stock, and exactly when nothing is drawn that is
not there. -/

namespace Simetro.Engine.Production

open Simetro.Library

variable (tick : Nat) (transit : Transit)

/-- The stock once the producers that fire have paid in. -/
def stocked : Std.ExtTreeMap ResourceId Nat := (produced tick transit).foldl produce transit.inventory

/-- The consumers counted as satisfied, by resource and amount. -/
def served : List (ResourceId × Nat) :=
  consumed tick { transit with inventory := stocked tick transit }

theorem run_inventory (resource : ResourceId) :
    (run tick transit).inventory.getD resource 0 =
      (stocked tick transit).getD resource 0 - tally (served tick transit) resource :=
  drain_getD (stocked tick transit) (served tick transit) resource

/-- The pass conserves stock: what is there afterwards and what the satisfied consumers took
add up to what was there and what the producers added, and each of those consumers received
its full amount. -/
structure Conserves : Prop where
  balance : ∀ resource, (run tick transit).inventory.getD resource 0 +
    tally (served tick transit) resource =
      transit.inventory.getD resource 0 + tally (produced tick transit) resource
  received : drawn (stocked tick transit) (served tick transit) = (served tick transit).map (·.2)

/-- The amounts of the consumers of a resource that fire and ask for no more than `available`. -/
def askedWithin (available : Nat) (resource : ResourceId) : Nat :=
  ((transit.consumers.toList.filter fun row => fires tick row.2.intervalTicks &&
      row.2.resource == resource && row.2.amount ≤ available).map fun row => row.2.amount).sum

/-- The consumers of every resource that could each be served alone ask together for no more
than there is, and the stock fits its counter. -/
structure Sustainable : Prop where
  fits : ∀ resource, transit.inventory.getD resource 0 + tally (produced tick transit) resource ≤ u64Max
  enough : ∀ resource, askedWithin tick transit
    (transit.inventory.getD resource 0 + tally (produced tick transit) resource) resource ≤
      transit.inventory.getD resource 0 + tally (produced tick transit) resource

variable {tick transit}

theorem tally_served {resource : ResourceId} :
    tally (served tick transit) resource =
      askedWithin tick transit ((stocked tick transit).getD resource 0) resource := by
  unfold served consumed askedWithin
  induction transit.consumers.toList with
  | nil => rfl
  | cons row rest ih =>
    simp only [List.filter_cons]
    by_cases here : row.2.resource = resource
    · subst here
      split <;> rename_i serves
      · have asks : (fires tick row.2.intervalTicks && row.2.resource == row.2.resource &&
            row.2.amount ≤ (stocked tick transit).getD row.2.resource 0) = true := by
          simpa using serves
        rw [if_pos asks, List.map_cons, List.map_cons, tally_cons, if_pos rfl, List.sum_cons, ih]
      · have idle : ¬(fires tick row.2.intervalTicks && row.2.resource == row.2.resource &&
            row.2.amount ≤ (stocked tick transit).getD row.2.resource 0) = true := by
          simpa using serves
        rw [if_neg idle, ih]
    · have elsewhere : (fires tick row.2.intervalTicks && row.2.resource == resource &&
          row.2.amount ≤ (stocked tick transit).getD resource 0) = false := by
        simp [here]
      rw [elsewhere, if_neg Bool.false_ne_true]
      split
      · rw [List.map_cons, tally_cons, if_neg here, Nat.zero_add, ih]
      · exact ih

variable (counted : ∀ resource, transit.inventory.getD resource 0 ≤ u64Max)
include counted

theorem stocked_getD (resource : ResourceId) : (stocked tick transit).getD resource 0 =
    min (transit.inventory.getD resource 0 + tally (produced tick transit) resource) u64Max :=
  deposit_getD_min transit.inventory (produced tick transit) resource (counted resource)

/-- A pass conserves stock exactly where the firing consumers do not overdraw any resource
between them. -/
theorem conserves_iff : Conserves tick transit ↔ Sustainable tick transit := by
  have stock := @stocked_getD tick transit counted
  constructor
  · rintro ⟨balance, received⟩
    have covered := (drawn_full_iff _ _).mp received
    have fits (resource : ResourceId) : transit.inventory.getD resource 0 +
        tally (produced tick transit) resource ≤ u64Max := by
      have kept := balance resource
      have there := covered resource
      rw [run_inventory, stock] at kept
      rw [stock] at there
      omega
    refine ⟨fits, fun resource => ?_⟩
    have there := covered resource
    rw [tally_served, stock, Nat.min_eq_left (fits resource)] at there
    exact there
  · rintro ⟨fits, enough⟩
    have exactly (resource : ResourceId) : (stocked tick transit).getD resource 0 =
        transit.inventory.getD resource 0 + tally (produced tick transit) resource := by
      rw [stock, Nat.min_eq_left (fits resource)]
    have covered (resource : ResourceId) : tally (served tick transit) resource ≤
        (stocked tick transit).getD resource 0 := by
      rw [tally_served, exactly]
      exact enough resource
    refine ⟨fun resource => ?_, (drawn_full_iff _ _).mpr covered⟩
    rw [run_inventory, Nat.sub_add_cancel (covered resource), exactly]

omit counted

/-- Eight units of one resource, and two consumers of five that fire on every tick. -/
def shared : Transit where
  resources := (∅ : Std.ExtTreeMap ResourceId Resource).insert 0 ⟨0, "ore", 1⟩
  inventory := (∅ : Std.ExtTreeMap ResourceId Nat).insert 0 8
  consumers := ((∅ : Std.ExtTreeMap ConsumerId Consumer).insert 0 ⟨0, 0, 5, 1⟩).insert 1 ⟨1, 0, 5, 1⟩

/-- Both are counted as satisfied, and the second one finds three units. -/
theorem shared_overdrawn : ¬Conserves 1 shared := by
  rintro ⟨balance, -⟩
  have short : (run 1 shared).inventory.getD 0 0 + tally (served 1 shared) 0 ≠
      shared.inventory.getD 0 0 + tally (produced 1 shared) 0 := by decide +kernel
  exact short (balance 0)

theorem conserves_iff_shared : Conserves 1 shared ↔ Sustainable 1 shared := by
  apply conserves_iff
  intro resource
  unfold shared
  rw [insert_getD]
  split
  · decide
  · simp

end Simetro.Engine.Production
