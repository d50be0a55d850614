import Simetro.Library.Reservation
import Simetro.Sl1.Transforms

/-! How a start, a release, a completion and an injection move the stock, the
claims and the reservations of every slot and bucket. -/

namespace Simetro.Sl1

open Simetro.Library

namespace Sl1RuntimeState

theorem updateSlots_stock (runtime : Sl1RuntimeState) (updated place thing : String)
    (change : IdMap Nat → IdMap Nat) : (runtime.updateSlots updated change).stock place thing =
      if updated = place then (change (runtime.inventories.getD updated ∅)).getD thing 0
      else runtime.stock place thing := by
  simp only [stock, updateSlots, insert_getD]
  split <;> rfl

end Sl1RuntimeState

namespace Sl1Transform

variable (transform : Sl1Transform)

/-- What the rows book on a slot or bucket of `place`. -/
def amountAt (rows : List (String × Nat)) (place key : String) : Nat :=
  if transform.runsOn = place then tally rows key else 0

theorem reservationRows_tally (place thing : String) :
    tally transform.reservationRows (place, thing) =
      transform.amountAt transform.outputRows place thing := by
  unfold reservationRows amountAt outputRows ioRows
  by_cases here : transform.runsOn = place
  · simp [tally, here, Function.comp_def]
  · simp [tally, here, Function.comp_def]

end Sl1Transform

namespace Transforms

variable (transform : Sl1Transform) (runtime : Sl1RuntimeState)

theorem commitStart_stock (place thing : String) :
    (commitStart transform runtime).stock place thing =
      runtime.stock place thing - transform.amountAt transform.inputRows place thing := by
  have moved := runtime.updateSlots_stock transform.runsOn place thing fun slots =>
    withdraw slots transform.inputRows
  refine moved.trans ?_
  rw [withdraw_getD, Sl1Transform.amountAt]
  split
  · rename_i here
    rw [← here]
    rfl
  · rfl

theorem commitStart_used (place bucket : String)
    (fits : runtime.used place bucket + transform.amountAt transform.costRows place bucket ≤ u64Max) :
    (commitStart transform runtime).used place bucket =
      runtime.used place bucket + transform.amountAt transform.costRows place bucket := by
  have claimed : (commitStart transform runtime).placeCapacityUsed =
      runtime.placeCapacityUsed.insert transform.runsOn
        (deposit u64Max (runtime.placeCapacityUsed.getD transform.runsOn ∅) transform.costRows) := rfl
  simp only [Sl1RuntimeState.used, Sl1Transform.amountAt, claimed, insert_getD] at fits ⊢
  split at fits
  · rename_i here
    subst here
    rw [if_pos rfl, if_pos rfl, deposit_getD _ _ _ fits]
  · rename_i elsewhere
    rw [if_neg elsewhere, if_neg elsewhere, Nat.add_zero]

theorem commitStart_reserved (place thing : String)
    (fits : runtime.reserved place thing + transform.amountAt transform.outputRows place thing ≤
      u64Max) :
    (commitStart transform runtime).reserved place thing =
      runtime.reserved place thing + transform.amountAt transform.outputRows place thing := by
  rw [← Sl1Transform.reservationRows_tally] at fits ⊢
  exact deposit_getD _ _ _ fits

theorem release_used (place bucket : String) :
    (release transform runtime).used place bucket =
      runtime.used place bucket - transform.amountAt transform.costRows place bucket := by
  have released : (release transform runtime).placeCapacityUsed =
      runtime.placeCapacityUsed.modify transform.runsOn fun used =>
        drain used transform.costRows := rfl
  simp only [Sl1RuntimeState.used, Sl1Transform.amountAt, released]
  rw [Std.ExtTreeMap.getD_modify]
  simp only [Std.LawfulEqCmp.compare_eq_iff_eq]
  split
  · rename_i here
    subst here
    rw [Std.ExtTreeMap.getD_eq_getD_getElem? (t := runtime.placeCapacityUsed)]
    cases runtime.placeCapacityUsed[transform.runsOn]? with
    | none => simp
    | some used => exact drain_getD used _ bucket
  · rfl

theorem release_reserved (place thing : String) :
    (release transform runtime).reserved place thing =
      runtime.reserved place thing - transform.amountAt transform.outputRows place thing := by
  rw [← Sl1Transform.reservationRows_tally]
  exact cancel_getD _ _ _

theorem completeRun_used (now : Nat) (place bucket : String) :
    (completeRun transform now runtime).used place bucket =
      runtime.used place bucket - transform.amountAt transform.costRows place bucket :=
  release_used transform (produceOutputs transform now runtime) place bucket

theorem completeRun_reserved (now : Nat) (place thing : String) :
    (completeRun transform now runtime).reserved place thing =
      runtime.reserved place thing - transform.amountAt transform.outputRows place thing :=
  release_reserved transform (produceOutputs transform now runtime) place thing

theorem deposit_lands (slots : IdMap Nat) (rows : List (String × Nat)) (thing : String) :
    Lands u64Max (slots.getD thing 0) (tally rows thing) ((deposit u64Max slots rows).getD thing 0) := by
  by_cases below : (deposit u64Max slots rows).getD thing 0 < u64Max
  · exact .inl (deposit_getD_of_lt _ _ _ below)
  · exact .inr ⟨Nat.le_of_not_lt below, deposit_getD_le _ _ _ _⟩

theorem completeRun_stock (now : Nat) (place thing : String) :
    Lands u64Max (runtime.stock place thing)
      (transform.amountAt transform.outputRows place thing)
      ((completeRun transform now runtime).stock place thing) := by
  have moved := runtime.updateSlots_stock transform.runsOn place thing fun slots =>
    deposit u64Max slots transform.outputRows
  have landed : (completeRun transform now runtime).stock place thing = _ := moved
  rw [landed, Sl1Transform.amountAt]
  split
  · rename_i here
    subst here
    exact deposit_lands _ _ _
  · exact .inl rfl

end Transforms

namespace Pressure.SourceInjection

variable (injection : SourceInjection) (runtime : Sl1RuntimeState) (units : Nat)

theorem land_stock (place thing : String) : (injection.land runtime units).stock place thing =
    if (injection.place, injection.thing) = (place, thing) then
      saturatingAdd u64Max (runtime.stock place thing) units
    else runtime.stock place thing := by
  rw [land, Sl1RuntimeState.updateSlots_stock]
  by_cases here : injection.place = place
  · subst here
    rw [if_pos rfl, insert_getD]
    simp only [Prod.mk.injEq, true_and]
    split
    · rename_i same
      rw [same]
      rfl
    · rfl
  · simp [here]

theorem saturatingAdd_lands (limit before amount : Nat) :
    Lands limit before amount (saturatingAdd limit before amount) := by
  unfold Lands saturatingAdd
  omega

end Pressure.SourceInjection

end Simetro.Sl1
