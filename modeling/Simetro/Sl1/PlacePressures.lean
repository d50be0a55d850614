import Simetro.Sl1.PlaceView
import Simetro.Sl1.PressureWindows

/-! The steps of the pressure pass as a place sees them: windows that open and end,
quotas and injections, each about this place or about another. -/

namespace Simetro.Sl1

open Simetro.Library Simetro.Protocol

namespace Pressure

variable {locale : Locality} {now : Nat}

section Windows

variable (frame : Frame)

/-- A deactivation ends one pressure and clears its carry. -/
theorem deactivate_seenFrom (scene : Sl1Scene) (id : String) :
    (deactivate scene now frame id).seenFrom locale =
      { frame.seenFrom locale with
        active := fun name => (frame.seenFrom locale).active name && name != id
        carry := fun name thing =>
          if name = id then none else (frame.seenFrom locale).carry name thing } := by
  have ended : (deactivate scene now frame id).seenFrom locale =
      (frame.modify fun runtime => { runtime with pressure := { runtime.pressure with
        active := runtime.pressure.active.erase id
        sourceInjectCarryMilli :=
          runtime.pressure.sourceInjectCarryMilli.filter fun key _ => key.1 != id } }).seenFrom
        locale := by
    unfold deactivate
    cases pressureDef scene id <;> rfl
  rw [ended]
  refine PlaceView.ext rfl rfl rfl rfl rfl rfl rfl ?_ ?_
  · funext name
    by_cases own : name = id
    · simp [Frame.seenFrom, own]
    · have other : (name != id) = true := by simpa using own
      dsimp only
      rw [other, Bool.and_true]
      exact congrArg (locale.presses name && ·) (contains_erase_of_ne (Ne.symm own))
  · funext name thing
    by_cases own : name = id
    · simp [Frame.seenFrom, Sl1RuntimeState.injectCarry, own]
    · have kept : (frame.runtime.pressure.sourceInjectCarryMilli.filter
          fun key _ => key.1 != id)[(name, locale.place, thing)]? =
          frame.runtime.pressure.sourceInjectCarryMilli[(name, locale.place, thing)]? := by
        rw [Std.ExtTreeMap.getElem?_filter']
        cases frame.runtime.pressure.sourceInjectCarryMilli[(name, locale.place, thing)]? <;>
          simp [own]
      simp only [Frame.seenFrom, Sl1RuntimeState.injectCarry, Frame.modify_runtime, kept, own,
        if_false]

theorem deactivate_foreign (scene : Sl1Scene) {id : String}
    (foreign : locale.presses id = false) :
    (deactivate scene now frame id).seenFrom locale = frame.seenFrom locale := by
  rw [deactivate_seenFrom]
  refine PlaceView.ext rfl rfl rfl rfl rfl rfl rfl ?_ ?_
  · funext name
    by_cases own : name = id
    · simp [Frame.seenFrom, own, foreign]
    · simp [own]
  · funext name thing
    by_cases own : name = id
    · simp [Frame.seenFrom, own, foreign]
    · simp [own]

theorem warnUnsupported_seenFrom (pressure : Sl1Pressure) :
    (warnUnsupported now frame pressure).seenFrom locale = frame.seenFrom locale := by
  unfold warnUnsupported
  split
  · rfl
  · exact (Frame.warn_seenFrom locale _ rfl).trans rfl

/-- An activation pass opens the window of one pressure. -/
theorem activate_seenFrom (pressure : Sl1Pressure) :
    (activate now frame pressure).seenFrom locale =
      { frame.seenFrom locale with
        active := fun name => (frame.seenFrom locale).active name ||
          locale.presses name && pressure.window.covers now && pressure.id == name } := by
  have covers : pressure.window.covers now = true ↔
      pressure.atTick ≤ now ∧ now < pressure.endTick := pressure.window.covers_iff
  by_cases opens : pressure.atTick ≤ now ∧ now < pressure.endTick ∧
      ¬ frame.runtime.pressure.active.contains pressure.id
  · rw [activate, if_pos opens, warnUnsupported_seenFrom]
    refine PlaceView.ext rfl rfl rfl rfl rfl rfl rfl ?_ rfl
    funext name
    have open' := covers.mpr ⟨opens.1, opens.2.1⟩
    by_cases own : pressure.id = name
    · subst own
      simp only [Frame.seenFrom, Frame.emit_runtime, Frame.modify_runtime,
        Std.ExtTreeMap.contains_insert_self, open', Bool.and_true, beq_self_eq_true]
      cases locale.presses pressure.id <;> simp
    · have other : (pressure.id == name) = false := by simpa using own
      dsimp only
      rw [other, Bool.and_false, Bool.or_false]
      exact congrArg (locale.presses name && ·) (contains_insert_of_ne own now)
  · rw [activate, if_neg opens]
    refine PlaceView.ext rfl rfl rfl rfl rfl rfl rfl ?_ rfl
    funext name
    by_cases own : pressure.id = name ∧ pressure.window.covers now = true
    · obtain ⟨rfl, open'⟩ := own
      have active : frame.runtime.pressure.active.contains pressure.id = true := by
        by_contra absent
        exact opens ⟨(covers.mp open').1, (covers.mp open').2, absent⟩
      simp only [Frame.seenFrom, active, open', Bool.and_true, beq_self_eq_true, Bool.or_self]
    · have unopened : (pressure.window.covers now && pressure.id == name) = false :=
        Bool.eq_false_iff.mpr fun both =>
          own ((Bool.and_eq_true_iff.mp both).symm.imp_left beq_iff_eq.mp)
      dsimp only
      rw [Bool.and_assoc, unopened, Bool.and_false, Bool.or_false]

theorem activate_foreign (pressure : Sl1Pressure) (foreign : locale.presses pressure.id = false) :
    (activate now frame pressure).seenFrom locale = frame.seenFrom locale := by
  rw [activate_seenFrom]
  refine PlaceView.ext rfl rfl rfl rfl rfl rfl rfl ?_ rfl
  funext name
  by_cases own : pressure.id = name
  · subst own
    simp [foreign]
  · have other : (pressure.id == name) = false := by simpa using own
    simp only [other, Bool.and_false, Bool.or_false]

end Windows

section Injections

variable (injection : SourceInjection) {caps other : PairMap Nat} {first second : Frame}

theorem injectSource_foreign (elsewhere : injection.place ≠ locale.place) (frame : Frame) :
    (injectSource caps now frame injection).seenFrom locale = frame.seenFrom locale := by
  have kept : (frame.modify injection.keepCarry).seenFrom locale = frame.seenFrom locale := by
    refine PlaceView.ext rfl rfl rfl rfl rfl rfl rfl rfl ?_
    funext name thing
    have apart : injection.carryKey ≠ (name, locale.place, thing) := fun same =>
      elsewhere (Prod.mk.inj (Prod.mk.inj same).2).1
    simp [Frame.seenFrom, Sl1RuntimeState.injectCarry, SourceInjection.keepCarry,
      Std.ExtTreeMap.getElem?_insert, apart]
  refine injectSource_rule (motive := fun after => after.seenFrom locale = frame.seenFrom locale)
    kept ?_
  rw [← kept]
  refine PlaceView.ext ?_ rfl rfl rfl rfl rfl rfl rfl rfl
  simp [Frame.seenFrom, SourceInjection.land, Sl1RuntimeState.updateSlots,
    Std.ExtTreeMap.getElem?_insert, elsewhere]

variable (here : injection.place = locale.place) (presses : locale.presses injection.pressure = true)
  (same : first.seenFrom locale = second.seenFrom locale)
include here presses same

theorem injectSource_local (cap : caps.getD (locale.place, injection.thing) 0 =
      other.getD (locale.place, injection.thing) 0) :
    (injectSource caps now first injection).seenFrom locale =
      (injectSource other now second injection).seenFrom locale := by
  have milli : injection.milli first.runtime = injection.milli second.runtime := by
    have carry := seenFrom_carry same presses injection.thing
    rw [Sl1RuntimeState.injectCarry, Sl1RuntimeState.injectCarry] at carry
    rw [SourceInjection.milli, SourceInjection.milli, SourceInjection.carryKey, here,
      Std.ExtTreeMap.getD_eq_getD_getElem?, carry, ← Std.ExtTreeMap.getD_eq_getD_getElem?]
  have due : injection.due first.runtime = injection.due second.runtime := by
    rw [SourceInjection.due, milli, ← SourceInjection.due]
  have units : injection.units caps first.runtime = injection.units other second.runtime := by
    rw [SourceInjection.units, SourceInjection.units, due, here, cap,
      seenFrom_stock same injection.thing]
  have carried (frame : Frame) : (frame.modify injection.keepCarry).seenFrom locale =
      { frame.seenFrom locale with
        carry := fun name thing =>
          if injection.pressure = name ∧ injection.thing = thing then
            some (injection.milli frame.runtime % 1000)
          else (frame.seenFrom locale).carry name thing } := by
    refine PlaceView.ext rfl rfl rfl rfl rfl rfl rfl rfl ?_
    funext name thing
    by_cases own : injection.pressure = name ∧ injection.thing = thing
    · obtain ⟨rfl, rfl⟩ := own
      simp [Frame.seenFrom, Sl1RuntimeState.injectCarry, SourceInjection.keepCarry,
        SourceInjection.carryKey, here, presses]
    · have apart : injection.carryKey ≠ (name, locale.place, thing) := fun key =>
        own ⟨(Prod.mk.inj key).1, (Prod.mk.inj (Prod.mk.inj key).2).2⟩
      simp [Frame.seenFrom, Sl1RuntimeState.injectCarry, SourceInjection.keepCarry,
        Std.ExtTreeMap.getElem?_insert, apart, own]
  have landed (frame : Frame) (op : LedgerOp) (units : Nat) :
      (frame.perform now op (injection.land · units)).seenFrom locale =
      { frame.seenFrom locale with
        slots := some (((frame.seenFrom locale).slots.getD ∅).insert injection.thing
          (saturatingAdd u64Max (((frame.seenFrom locale).slots.getD ∅).getD injection.thing 0)
            units)) } := by
    refine PlaceView.ext ?_ rfl rfl rfl rfl rfl rfl rfl rfl
    simp [Frame.seenFrom, SourceInjection.land, Sl1RuntimeState.updateSlots, here,
      Std.ExtTreeMap.getD_eq_getD_getElem?]
  have after : (first.modify injection.keepCarry).seenFrom locale =
      (second.modify injection.keepCarry).seenFrom locale := by
    rw [carried, carried, same, milli]
  unfold injectSource
  simp only
  rw [due, units]
  split
  · exact after
  · rw [landed, landed, after]

end Injections

section Bearing

variable {scene other : Sl1Scene} {place : String} {pressure : Sl1Pressure}

theorem presses_of_bears (member : pressure ∈ scene.pressure)
    (bears : pressure.bearsOn place = true) : (scene.locality place).presses pressure.id = true :=
  Sl1Scene.presses_iff.mpr ⟨pressure, member, rfl, bears⟩

theorem not_presses (valid : scene.Valid) (member : pressure ∈ scene.pressure)
    (idle : pressure.bearsOn place = false) :
    (scene.locality place).presses pressure.id = false := by
  refine Bool.eq_false_iff.mpr fun presses => ?_
  obtain ⟨same, sameMember, ids, bears⟩ := Sl1Scene.presses_iff.mp presses
  rw [List.inj_on_of_nodup_map valid.pressureIncreasing.distinct sameMember member ids, idle] at bears
  cases bears

end Bearing

theorem reduceQuota_foreign {place : String} {pressure : Sl1Pressure}
    (idle : pressure.bearsOn place = false) (entries : PairMap Nat) (bucket : String) :
    (reduceQuota entries pressure).getD (place, bucket) 0 = entries.getD (place, bucket) 0 := by
  unfold reduceQuota
  unfold Sl1Pressure.bearsOn at idle
  cases params : pressure.params with
  | quotaReduction capacity percent =>
    rw [params] at idle
    have elsewhere : pressure.target ≠ place := by simpa using idle
    rw [insert_getD, if_neg fun key => elsewhere (Prod.mk.inj key).1]
  | sourceMultiplier | demandGrowth | pathOutage | unsupportedInThisPr => rfl

theorem reduceQuota_congr (pressure : Sl1Pressure) {first second : PairMap Nat}
    {slot : String × String} (same : first.getD slot 0 = second.getD slot 0) :
    (reduceQuota first pressure).getD slot 0 = (reduceQuota second pressure).getD slot 0 := by
  unfold reduceQuota
  cases pressure.params with
  | quotaReduction capacity percent =>
    rw [insert_getD, insert_getD]
    split
    · rename_i here
      rw [here, same]
    · exact same
  | sourceMultiplier | demandGrowth | pathOutage | unsupportedInThisPr => exact same

/-- The injection of one pressure, if it is a source. -/
def injectOne (caps : PairMap Nat) (now : Nat) (frame : Frame) (pressure : Sl1Pressure) : Frame :=
  match pressure.params with
  | .sourceMultiplier thing multiplierMilli =>
      injectSource caps now frame ⟨pressure.id, pressure.target, thing, multiplierMilli⟩
  | _ => frame

theorem applySourceInjection_eq (scene : Sl1Scene) (now : Nat) (frame : Frame) :
    applySourceInjection scene now frame =
      (activePressures scene frame.runtime).foldl (injectOne scene.storageCaps now) frame := by
  rw [applySourceInjection, activeInjections, List.foldl_filterMap]
  congr 1
  funext frame pressure
  unfold injectOne
  cases pressure.params <;> rfl

/-- A scene without pressures runs its pressure pass as any other, to no effect. -/
theorem run_of_settled {scene : Sl1Scene} {frame : Frame}
    (settled : scene.pressure.isEmpty = true → frame.runtime.pressure = {}) :
    run scene now frame = applySourceInjection scene now (overlaid scene now frame) := by
  rw [run_eq]
  split
  · rename_i unscheduled
    have none := List.isEmpty_iff.mp unscheduled
    have runtime : rebuildOverlays scene frame.runtime = frame.runtime := by
      simp only [rebuildOverlays, activePressures, none, List.filter_nil, List.foldl_nil,
        settled unscheduled]
      exact congrArg (fun pressure => { frame.runtime with pressure }) (settled unscheduled).symm
    have untouched : overlaid scene now frame = frame := by
      simp only [overlaid, toDeactivate, settled unscheduled, none, List.foldl_nil]
      exact congrArg (fun runtime => { frame with runtime }) runtime
    simp [untouched, applySourceInjection_eq, activePressures, none]
  · rfl

end Pressure

end Simetro.Sl1
