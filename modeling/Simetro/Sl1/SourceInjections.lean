import Simetro.Library.Meter
import Simetro.Sl1.DemandThrottles
import Simetro.Sl1.PlacePressures

/-! What the pressure pass holds and has injected for each pressure. -/

namespace Simetro.Sl1

open Simetro.Library Simetro.Protocol

/-- The entry books an injection of the pressure. -/
def LedgerOp.injectedBy (id : String) : LedgerOp → Bool
  | .inject pressure _ _ _ _ => pressure == id
  | _ => false

/-- Units an injection offered. -/
def LedgerEntry.offered (entry : LedgerEntry) : Nat :=
  match entry.op with
  | .inject _ _ _ due _ => due
  | _ => 0

/-- What a pressure carries over and has injected. -/
@[ext] structure SourceView where
  carry : String → String → Option Nat
  injections : List LedgerEntry

namespace Frame

variable (frame : Frame) (id : String)

/-- The ledger entries of the pressure's injections. -/
def injections : List LedgerEntry := frame.ledger.filter fun entry => entry.op.injectedBy id

def source : SourceView where
  carry := frame.runtime.injectCarry id
  injections := frame.injections id

theorem injections_perform (now : Nat) (op : LedgerOp) (change : Sl1RuntimeState → Sl1RuntimeState)
    (foreign : op.injectedBy id = false) :
    (frame.perform now op change).injections id = frame.injections id := by
  simp [injections, foreign]

theorem source_of_views {frame other : Frame} (pressure : other.runtime.pressure = frame.runtime.pressure)
    (ledger : other.injections id = frame.injections id) : other.source id = frame.source id := by
  unfold source Sl1RuntimeState.injectCarry
  rw [pressure, ledger]

end Frame

namespace Transforms

variable {transform : Sl1Transform} {caps : PassCaps} {now : Nat} {frame last : Frame}
  {state next : Sl1TransformState} {id : String}

/-- Transforms book no injection. -/
theorem Advanced.injections (advanced : Advanced transform caps now frame state next last) :
    last.injections id = frame.injections id := by
  cases advanced with
  | kept | overdue | overdueFailed | exhausted => rfl
  | started => exact frame.injections_perform id now _ _ rfl
  | completed => exact frame.injections_perform id now _ _ rfl
  | breached => exact frame.injections_perform id now (.abort transform.id) _ rfl
  | breachedFailed => exact frame.injections_perform id now (.abort transform.id) _ rfl

theorem Served.injections (served : Served transform caps now frame state next last) :
    last.injections id = frame.injections id := by
  cases served with
  | quiet | missed | starved | blocked => rfl
  | started => exact frame.injections_perform id now _ _ rfl

theorem runTransforms_injections (scene : Sl1Scene) (now : Nat) (frame : Frame) :
    (runTransforms scene now frame).injections id = frame.injections id :=
  runTransforms_keeps (Frame.injections · id) (fun transform =>
    processOne_keeps transform _ now (Frame.injections · id) Advanced.injections Served.injections
      fun _ _ => rfl) frame

end Transforms

/-- After the pressure pass a tick leaves every pressure as it is. -/
theorem run_source (scene : Sl1Scene) (backend : AgentBackend) (now : Nat) (frame : Frame) (id : String) :
    (run scene backend now frame).source id = (Pressure.run scene now frame).source id := by
  refine Frame.source_of_views id (congrArg Overlays.pressure (run_overlays scene backend now frame)) ?_
  have ledger : (run scene backend now frame).ledger = (moveStock scene now frame).ledger :=
    congrArg Flow.ledger (run_flow scene backend now frame)
  unfold Frame.injections
  rw [ledger, moveStock_eq]
  exact Transforms.runTransforms_injections scene now _

namespace Pressure

section Overlaid

variable {scene : Sl1Scene} {now : Nat} {frame : Frame} {id : String}

theorem deactivate_source (scene : Sl1Scene) (now : Nat) (frame : Frame) (id : String) :
    (deactivate scene now frame id).source id = ⟨fun _ _ => none, frame.injections id⟩ := by
  have dropped : (frame.modify fun runtime => { runtime with pressure := { runtime.pressure with
        active := runtime.pressure.active.erase id
        sourceInjectCarryMilli :=
          runtime.pressure.sourceInjectCarryMilli.filter fun key _ => key.1 != id
        unsupportedWarned := runtime.pressure.unsupportedWarned.erase id } }).source id =
      ⟨fun _ _ => none, frame.injections id⟩ := by
    refine SourceView.ext ?_ rfl
    funext place thing
    simp [Frame.source, Sl1RuntimeState.injectCarry]
  unfold deactivate
  cases pressureDef scene id <;> exact dropped

theorem deactivate_source_other {other : String} (different : other ≠ id) :
    (deactivate scene now frame other).source id = frame.source id := by
  have kept : (frame.modify fun runtime => { runtime with pressure := { runtime.pressure with
        active := runtime.pressure.active.erase other
        sourceInjectCarryMilli :=
          runtime.pressure.sourceInjectCarryMilli.filter fun key _ => key.1 != other
        unsupportedWarned := runtime.pressure.unsupportedWarned.erase other } }).source id =
      frame.source id := by
    refine SourceView.ext ?_ rfl
    funext place thing
    have passed : (id != other) = true := by simpa using Ne.symm different
    simp only [Frame.source, Sl1RuntimeState.injectCarry, Frame.modify_runtime]
    rw [Std.ExtTreeMap.getElem?_filter']
    cases frame.runtime.pressure.sourceInjectCarryMilli[(id, place, thing)]? <;> simp [passed]
  unfold deactivate
  cases pressureDef scene other <;> exact kept

theorem warnUnsupported_source (pressure : Sl1Pressure) :
    (warnUnsupported now frame pressure).source id = frame.source id := by
  unfold warnUnsupported
  split <;> rfl

theorem activate_source (pressure : Sl1Pressure) :
    (activate now frame pressure).source id = frame.source id := by
  unfold activate
  split
  · exact (warnUnsupported_source pressure).trans rfl
  · rfl

/-- Only a deactivation clears a carry. -/
theorem overlaid_source : (overlaid scene now frame).source id =
    { frame.source id with
      carry := if id ∈ toDeactivate scene frame.runtime now then fun _ _ => none
        else frame.runtime.injectCarry id } := by
  have activated (current : Frame) :
      ((scene.pressure.foldl (activate now) current).modify (rebuildOverlays scene)).source id =
        current.source id :=
    foldl_keeps (Frame.source · id) (fun frame pressure _ => activate_source pressure) current
  refine (activated _).trans ?_
  by_cases past : id ∈ toDeactivate scene frame.runtime now
  · have distinct : (toDeactivate scene frame.runtime now).Nodup :=
      Std.ExtTreeMap.nodup_keys.filter _
    obtain ⟨before, same, final⟩ := foldl_once (Frame.source · id) distinct past
      (fun _ _ _ different => deactivate_source_other different) frame
    have entries : before.injections id = frame.injections id := congrArg SourceView.injections same
    rw [final, deactivate_source, entries, if_pos past]
    rfl
  · rw [if_neg past]
    exact foldl_keeps (Frame.source · id) (fun _ other listed =>
      deactivate_source_other fun same => past (same ▸ listed)) frame

end Overlaid

/-- The entry books what the slot takes of the offered units. -/
structure Injects (caps : PairMap Nat) (injection : SourceInjection) (entry : LedgerEntry) : Prop where
  op : entry.op = .inject injection.pressure injection.place injection.thing entry.offered
    (min entry.offered (caps.getD (injection.place, injection.thing) 0 -
      entry.before.stock injection.place injection.thing))
  lands : entry.after = injection.land entry.before
    (min entry.offered (caps.getD (injection.place, injection.thing) 0 -
      entry.before.stock injection.place injection.thing))

section Injection

variable {caps : PairMap Nat} {now : Nat} {frame : Frame} {injection : SourceInjection} {id : String}

theorem injectSource_source_other (different : injection.pressure ≠ id) :
    (injectSource caps now frame injection).source id = frame.source id := by
  have kept : (frame.modify injection.keepCarry).source id = frame.source id := by
    refine SourceView.ext ?_ rfl
    funext place thing
    have apart : injection.carryKey ≠ (id, place, thing) := fun key => different (Prod.mk.inj key).1
    simp [Frame.source, Sl1RuntimeState.injectCarry, SourceInjection.keepCarry,
      Std.ExtTreeMap.getElem?_insert, apart]
  refine injectSource_rule (motive := fun after => after.source id = frame.source id) kept ?_
  have booked := (frame.modify injection.keepCarry).injections_perform id now
    (.inject injection.pressure injection.place injection.thing (injection.due frame.runtime)
      (injection.units caps frame.runtime))
    (injection.land · (injection.units caps frame.runtime))
    (by simpa [LedgerOp.injectedBy] using different)
  rw [← kept]
  exact SourceView.ext rfl booked

/-- An injection keeps the fraction and books the whole units, if any. -/
theorem injectSource_source : ∃ booked,
    (injectSource caps now frame injection).source injection.pressure =
      ⟨fun place thing => if place = injection.place ∧ thing = injection.thing then
          some (injection.milli frame.runtime % 1000)
        else frame.runtime.injectCarry injection.pressure place thing,
      frame.injections injection.pressure ++ booked⟩ ∧
    booked.length ≤ 1 ∧ (booked.map (·.offered)).sum = injection.due frame.runtime ∧
    ∀ entry ∈ booked, entry.tick = now ∧ Injects caps injection entry := by
  have kept : (frame.modify injection.keepCarry).runtime.injectCarry injection.pressure =
      fun place thing => if place = injection.place ∧ thing = injection.thing then
          some (injection.milli frame.runtime % 1000)
        else frame.runtime.injectCarry injection.pressure place thing := by
    funext place thing
    by_cases own : place = injection.place ∧ thing = injection.thing
    · obtain ⟨rfl, rfl⟩ := own
      simp [Sl1RuntimeState.injectCarry, SourceInjection.keepCarry, SourceInjection.carryKey]
    · have apart : injection.carryKey ≠ (injection.pressure, place, thing) := fun key =>
        own ⟨(Prod.mk.inj (Prod.mk.inj key).2).1.symm, (Prod.mk.inj (Prod.mk.inj key).2).2.symm⟩
      simp [Sl1RuntimeState.injectCarry, SourceInjection.keepCarry,
        Std.ExtTreeMap.getElem?_insert, apart, own]
  unfold injectSource
  simp only
  by_cases nothing : injection.due frame.runtime = 0
  · rw [if_pos nothing]
    refine ⟨[], SourceView.ext kept (List.append_nil _).symm, by simp, by simp [nothing], by simp⟩
  · rw [if_neg nothing]
    refine ⟨[⟨now, .inject injection.pressure injection.place injection.thing
        (injection.due frame.runtime) (injection.units caps frame.runtime),
      (frame.modify injection.keepCarry).runtime,
      injection.land (frame.modify injection.keepCarry).runtime (injection.units caps frame.runtime)⟩],
      SourceView.ext kept ?_, by simp, by simp [LedgerEntry.offered], ?_⟩
    · simp [Frame.source, Frame.injections, LedgerOp.injectedBy]
    · intro entry listed
      obtain rfl := List.mem_singleton.mp listed
      exact ⟨rfl, rfl, rfl⟩

end Injection

section Pass

variable {scene : Sl1Scene} {now : Nat} {frame : Frame} {id : String}

theorem injectOne_source_other {caps : PairMap Nat} {pressure : Sl1Pressure} (different : pressure.id ≠ id) :
    (injectOne caps now frame pressure).source id = frame.source id := by
  unfold injectOne
  split
  · exact injectSource_source_other different
  · rfl

theorem applySourceInjection_active (scene : Sl1Scene) (now : Nat) (frame : Frame) (id : String) :
    (applySourceInjection scene now frame).runtime.pressure.active.contains id =
      frame.runtime.pressure.active.contains id :=
  congrArg WindowTracker.inside applySourceInjection_tracker

/-- Nothing but its deactivation ends a pressure. -/
theorem overlaid_active (current : frame.runtime.pressure.active.contains id = true)
    (goesOn : id ∉ toDeactivate scene frame.runtime now) :
    (overlaid scene now frame).runtime.pressure.active.contains id = true := by
  have kept : ((toDeactivate scene frame.runtime now).foldl (deactivate scene now) frame).tracker id =
      frame.tracker id :=
    foldl_keeps (Frame.tracker · id) (fun _ other listed =>
      deactivate_tracker_other fun same => goesOn (same ▸ listed)) frame
  have start : ((toDeactivate scene frame.runtime now).foldl (deactivate scene now)
      frame).runtime.pressure.active.contains id = true :=
    (congrArg WindowTracker.inside kept).trans current
  refine List.foldlRecOn (motive := fun frame : Frame =>
    frame.runtime.pressure.active.contains id = true) scene.pressure (activate now) start ?_
  intro before held pressure _
  by_cases own : pressure.id = id
  · subst own
    have opened := congrArg WindowTracker.inside (@activate_tracker now before pressure)
    have inside : (before.tracker pressure.id).inside = true := held
    rw [Window.enter, inside, Bool.not_true, Bool.and_false, if_neg Bool.false_ne_true] at opened
    exact opened.trans inside
  · exact (congrArg WindowTracker.inside (activate_tracker_other own)).trans held

/-- The pass over the active pressures touches what each of them holds once. -/
theorem run_source_of_active (valid : scene.Valid) {pressure : Sl1Pressure}
    (member : pressure ∈ scene.pressure)
    (active : (run scene now frame).runtime.pressure.active.contains pressure.id = true) :
    ∃ before : Frame, before.source pressure.id = (overlaid scene now frame).source pressure.id ∧
      (run scene now frame).source pressure.id =
        (injectOne scene.storageCaps now before pressure).source pressure.id := by
  have distinct := valid.pressureIncreasing.distinct
  have scheduled : scene.pressure.isEmpty = false := by
    cases declared : scene.pressure with
    | nil => simp [declared] at member
    | cons => rfl
  rw [run_eq, scheduled, if_neg Bool.false_ne_true] at active ⊢
  rw [applySourceInjection_active] at active
  rw [applySourceInjection_eq]
  refine foldl_once (Frame.source · pressure.id) (List.Nodup.filter _ distinct.of_map)
    (List.mem_filter.mpr ⟨member, active⟩) ?_ _
  intro current other listed different
  refine injectOne_source_other fun same => different ?_
  exact List.inj_on_of_nodup_map distinct (List.mem_filter.mp listed).1 member same

/-- A pressure that is not active after the pass injects nothing and carries nothing over. -/
theorem run_source_of_inactive
    (idle : frame.runtime.pressure.active.contains id = false →
      frame.runtime.injectCarry id = fun _ _ => none)
    (inactive : (run scene now frame).runtime.pressure.active.contains id = false) :
    (run scene now frame).source id = ⟨fun _ _ => none, frame.injections id⟩ := by
  rw [run_eq] at inactive ⊢
  split at inactive
  · rw [if_pos ‹_›]
    exact SourceView.ext (idle inactive) rfl
  rw [if_neg ‹_›, applySourceInjection_eq]
  rw [applySourceInjection_active] at inactive
  have others : ((activePressures scene (overlaid scene now frame).runtime).foldl
      (injectOne scene.storageCaps now) (overlaid scene now frame)).source id =
        (overlaid scene now frame).source id := by
    refine foldl_keeps (Frame.source · id) (fun current pressure listed => ?_) _
    refine injectOne_source_other fun same => ?_
    have active := (List.mem_filter.mp listed).2
    rw [same, inactive] at active
    cases active
  rw [others, overlaid_source]
  refine SourceView.ext ?_ rfl
  by_cases past : id ∈ toDeactivate scene frame.runtime now
  · exact if_pos past
  · rw [if_neg past]
    refine idle ?_
    by_contra current
    have still := @overlaid_active scene now frame id (by simpa using current) past
    rw [inactive] at still
    cases still

/-- An active source adds its rate to what it carries, injects the whole units and carries the
fraction on. -/
theorem run_injects (valid : scene.Valid) {pressure : Sl1Pressure} (member : pressure ∈ scene.pressure)
    {thing : String} {rate : Nat} (source : pressure.params = .sourceMultiplier thing rate)
    (active : (run scene now frame).runtime.pressure.active.contains pressure.id = true)
    (fits : (frame.runtime.injectCarry pressure.id pressure.target thing).getD 0 + rate ≤ u64Max) :
    ∃ booked, (run scene now frame).source pressure.id =
        ⟨fun place other => if place = pressure.target ∧ other = thing then
            some (((frame.runtime.injectCarry pressure.id pressure.target thing).getD 0 + rate) % 1000)
          else frame.runtime.injectCarry pressure.id place other,
        frame.injections pressure.id ++ booked⟩ ∧
      booked.length ≤ 1 ∧
      (booked.map (·.offered)).sum =
        ((frame.runtime.injectCarry pressure.id pressure.target thing).getD 0 + rate) / 1000 ∧
      ∀ entry ∈ booked, entry.tick = now ∧
        Injects scene.storageCaps ⟨pressure.id, pressure.target, thing, rate⟩ entry := by
  obtain ⟨before, reached, final⟩ := run_source_of_active valid member active
  have going : pressure.id ∉ toDeactivate scene frame.runtime now := by
    intro past
    have ends : pressure.id ∈ frame.runtime.pressure.active ∧ pressure.endTick ≤ now := by
      simpa [toDeactivate, pressureDef_of_mem valid member] using past
    have outlived := congrArg WindowTracker.inside (@run_tracker scene now frame pressure valid member)
    rw [pressure.window.visit_past ends.2] at outlived
    have ended : (run scene now frame).runtime.pressure.active.contains pressure.id = false := outlived
    rw [active] at ended
    cases ended
  rw [overlaid_source, if_neg going] at reached
  have carry : before.runtime.injectCarry pressure.id = frame.runtime.injectCarry pressure.id :=
    congrArg SourceView.carry reached
  have entries : before.injections pressure.id = frame.injections pressure.id :=
    congrArg SourceView.injections reached
  let injection : SourceInjection := ⟨pressure.id, pressure.target, thing, rate⟩
  have milli : injection.milli before.runtime =
      (frame.runtime.injectCarry pressure.id pressure.target thing).getD 0 + rate := by
    have held : before.runtime.pressure.sourceInjectCarryMilli.getD injection.carryKey 0 =
        (frame.runtime.injectCarry pressure.id pressure.target thing).getD 0 := by
      rw [Std.ExtTreeMap.getD_eq_getD_getElem?, ← carry]
      rfl
    rw [SourceInjection.milli, held]
    exact saturatingAdd_of_le fits
  have own : injectOne scene.storageCaps now before pressure =
      injectSource scene.storageCaps now before injection := by
    rw [injectOne, source]
  obtain ⟨booked, after, few, total, sound⟩ := @injectSource_source scene.storageCaps now before injection
  refine ⟨booked, ?_, few, ?_, sound⟩
  · rw [final, own]
    refine after.trans ?_
    rw [milli, entries, carry]
  · rw [total, SourceInjection.due, milli]

end Pass

end Pressure

end Simetro.Sl1
