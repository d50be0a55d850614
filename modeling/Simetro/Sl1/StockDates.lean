import Simetro.Sl1.Ambient
import Simetro.Sl1.StoreInvariants

/-! Stock and freshness are separate maps. Every transform that lands stock dates
it; a source pressure lands stock and dates nothing. -/

namespace Simetro.Sl1

open Simetro.Library Simetro.Protocol

/-- The tick a freshness entry carries, if any. -/
def FreshnessState.lastWrite : FreshnessState → Option Nat
  | .ok tick | .stale tick => some tick
  | .noData | .degraded | .invalid => none

theorem Objectives.lastSetTick_eq (runtime : Sl1RuntimeState) (place thing : String) :
    lastSetTick runtime place thing = (runtime.freshness.getD (place, thing) .noData).lastWrite := by
  unfold lastSetTick FreshnessState.lastWrite
  cases runtime.freshness.getD (place, thing) .noData <;> rfl

/-- A source pressure finds nothing to fill: the slot of the injection is full. -/
def LedgerEntry.LandsNothing (scene : Sl1Scene) (entry : LedgerEntry) : Prop :=
  match entry.op with
  | .inject _ place thing _ _ =>
      scene.storageCaps.getD (place, thing) 0 ≤ entry.before.stock place thing
  | .start _ | .complete _ | .abort _ => True

instance (scene : Sl1Scene) : (entry : LedgerEntry) → Decidable (entry.LandsNothing scene)
  | ⟨_, .inject _ place thing _ _, before, _⟩ =>
    Nat.decLe (scene.storageCaps.getD (place, thing) 0) (before.stock place thing)
  | ⟨_, .start _, _, _⟩ | ⟨_, .complete _, _, _⟩ | ⟨_, .abort _, _, _⟩ => .isTrue trivial

/-- Positive stock carries a last-write tick that no writer is later than. -/
def Frame.StockDated (frame : Frame) : Prop :=
  ∀ place thing : String, 0 < frame.runtime.stock place thing →
    ∃ tick, Objectives.lastSetTick frame.runtime place thing = some tick ∧
      ∀ entry ∈ frame.ledger, entry.before.stock place thing < entry.after.stock place thing →
        entry.tick ≤ tick

/-- The stock is dated by `now`, as long as no source has landed any. -/
structure Dated (scene : Sl1Scene) (now : Nat) (frame : Frame) : Prop where
  written : ∀ entry ∈ frame.ledger, entry.tick ≤ now
  dated : (∀ entry ∈ frame.ledger, entry.LandsNothing scene) → frame.StockDated

namespace Dated

variable {scene : Sl1Scene} {now later : Nat} {frame other : Frame}

theorem mono (dated : Dated scene now frame) (after : now ≤ later) : Dated scene later frame :=
  ⟨fun entry member => Nat.le_trans (dated.written entry member) after, dated.dated⟩

theorem of_flow (dated : Dated scene now frame) (same : other.flow = frame.flow)
    (marks : Objectives.lastSetTick other.runtime = Objectives.lastSetTick frame.runtime) :
    Dated scene now other := by
  have ledger : other.ledger = frame.ledger := congrArg Flow.ledger same
  have inventories : other.runtime.inventories = frame.runtime.inventories :=
    congrArg Flow.inventories same
  constructor
  · rw [ledger]
    exact dated.written
  · intro lands place thing stocked
    rw [Sl1RuntimeState.stock, inventories] at stocked
    rw [ledger] at lands ⊢
    rw [marks]
    exact dated.dated lands place thing stocked

/-- A change keeps the stock dated where it marks a slot with `now`, or leaves its
mark and adds nothing to it. -/
theorem perform (dated : Dated scene now frame) {op : LedgerOp}
    {change : Sl1RuntimeState → Sl1RuntimeState}
    (marked : LedgerEntry.LandsNothing scene ⟨now, op, frame.runtime, change frame.runtime⟩ →
      ∀ place thing : String,
        Objectives.lastSetTick (change frame.runtime) place thing = some now ∨
        Objectives.lastSetTick (change frame.runtime) place thing =
            Objectives.lastSetTick frame.runtime place thing ∧
          (change frame.runtime).stock place thing ≤ frame.runtime.stock place thing) :
    Dated scene now (frame.perform now op change) := by
  have written : ∀ entry ∈ (frame.perform now op change).ledger, entry.tick ≤ now := by
    intro entry member
    rcases List.mem_append.mp member with earlier | last
    · exact dated.written entry earlier
    · rw [List.mem_singleton.mp last]
  refine ⟨written, fun lands place thing stocked => ?_⟩
  rw [Frame.perform_ledger] at lands
  have before := dated.dated fun entry member => lands entry (List.mem_append_left _ member)
  rcases marked (lands _ (List.mem_append_right _ (List.mem_singleton_self _))) place thing with
    fresh | ⟨kept, nothing⟩
  · exact ⟨now, fresh, fun entry member _ => written entry member⟩
  · obtain ⟨tick, mark, latest⟩ := before place thing (Nat.lt_of_lt_of_le stocked nothing)
    refine ⟨tick, kept.trans mark, fun entry member grew => ?_⟩
    rcases List.mem_append.mp member with earlier | last
    · exact latest entry earlier grew
    · rw [List.mem_singleton.mp last] at grew
      exact absurd nothing (Nat.not_le_of_lt grew)

end Dated

namespace Transforms

variable {scene : Sl1Scene} {transform : Sl1Transform} {caps : PassCaps} {now : Nat}
  {frame last : Frame} {state next : Sl1TransformState}

theorem produceOutputs_freshness (runtime : Sl1RuntimeState) (slot : String × String) :
    (produceOutputs transform now runtime).freshness.getD slot .noData =
      if transform.runsOn = slot.1 ∧ slot.2 ∈ transform.outputs.map (·.thingId) then .ok now
      else runtime.freshness.getD slot .noData := by
  have landed (outputs : List Sl1TransformIo) (freshness : PairMap FreshnessState) :
      (outputs.foldl (fun freshness output =>
        freshness.insert (transform.runsOn, output.thingId) (.ok now)) freshness).getD slot .noData =
        if transform.runsOn = slot.1 ∧ slot.2 ∈ outputs.map (·.thingId) then .ok now
        else freshness.getD slot .noData := by
    induction outputs generalizing freshness with
    | nil => simp
    | cons output rest ih =>
      rw [List.foldl_cons, ih, insert_getD]
      by_cases here : (transform.runsOn, output.thingId) = slot
      · subst here
        simp
      · have elsewhere : transform.runsOn = slot.1 → slot.2 ≠ output.thingId := fun place thing =>
          here (Prod.ext place thing.symm)
        rw [if_neg here]
        by_cases place : transform.runsOn = slot.1 <;> simp [place, elsewhere]
  exact landed transform.outputs runtime.freshness

/-- A completion marks every slot it fills. -/
theorem completeRun_marks (runtime : Sl1RuntimeState) (place thing : String) :
    Objectives.lastSetTick (completeRun transform now runtime) place thing = some now ∨
    Objectives.lastSetTick (completeRun transform now runtime) place thing =
        Objectives.lastSetTick runtime place thing ∧
      (completeRun transform now runtime).stock place thing ≤ runtime.stock place thing := by
  have mark : Objectives.lastSetTick (completeRun transform now runtime) place thing =
      Objectives.lastSetTick (produceOutputs transform now runtime) place thing := rfl
  rw [mark, Objectives.lastSetTick_eq, Objectives.lastSetTick_eq, produceOutputs_freshness]
  by_cases filled : transform.runsOn = place ∧ thing ∈ transform.outputs.map (·.thingId)
  · rw [if_pos filled]
    exact .inl rfl
  · rw [if_neg filled]
    refine .inr ⟨rfl, Nat.le_trans (completeRun_stock transform runtime now place thing).le ?_⟩
    have nothing : transform.amountAt transform.outputRows place thing = 0 := by
      unfold Sl1Transform.amountAt
      split
      · rename_i here
        refine tally_eq_zero fun row member same => filled ⟨here, ?_⟩
        obtain ⟨output, listed, rfl⟩ := List.mem_map.mp member
        exact List.mem_map.mpr ⟨output, listed, same⟩
      · rfl
    rw [nothing, Nat.add_zero]

theorem Advanced.dated (dated : Dated scene now frame)
    (advanced : Advanced transform caps now frame state next last) : Dated scene now last := by
  have aborted : Dated scene now (aborted transform now frame) :=
    dated.perform fun _ _ _ => .inr ⟨rfl, Nat.le_refl _⟩
  cases advanced with
  | kept => exact dated
  | started =>
    refine dated.perform fun _ place thing => .inr ⟨rfl, ?_⟩
    exact commitStart_stock transform frame.runtime place thing ▸ Nat.sub_le _ _
  | completed => exact dated.perform fun _ => completeRun_marks frame.runtime
  | breached | breachedFailed => exact ⟨aborted.written, aborted.dated⟩
  | overdue | overdueFailed | exhausted => exact ⟨dated.written, dated.dated⟩

theorem Served.dated (dated : Dated scene now frame)
    (served : Served transform caps now frame state next last) : Dated scene now last := by
  cases served with
  | quiet => exact dated
  | started =>
    refine dated.perform fun _ place thing => .inr ⟨rfl, ?_⟩
    exact commitStart_stock transform frame.runtime place thing ▸ Nat.sub_le _ _
  | missed | starved | blocked => exact ⟨dated.written, dated.dated⟩

theorem runTransforms_dated (dated : Dated scene now frame) :
    Dated scene now (runTransforms scene now frame) := by
  refine runTransforms_rule (motive := Dated scene now) dated fun frame transform _ dated => ?_
  obtain ⟨_, _, middle, last, advanced, served, same⟩ :=
    processOne_cases transform scene.passCaps now frame
  have final := served.dated (advanced.dated dated)
  exact same ▸ ⟨final.written, final.dated⟩

theorem ageEntry_lastWrite (budget : Option Nat) (now : Nat) (state : FreshnessState) :
    (ageEntry budget now state).lastWrite = state.lastWrite := by
  cases state with
  | ok tick =>
    cases budget with
    | none => rfl
    | some ticks =>
      simp only [ageEntry]
      split <;> rfl
  | noData | stale | degraded | invalid => rfl

/-- Aging keeps every mark. -/
theorem ageFreshness_lastSetTick (place thing : String) :
    Objectives.lastSetTick (ageFreshness scene now frame).runtime place thing =
      Objectives.lastSetTick frame.runtime place thing := by
  have aged : (ageFreshness scene now frame).runtime.freshness[(place, thing)]? =
      (frame.runtime.freshness[(place, thing)]?).map
        (ageEntry ((thingBudgets scene).getD thing none) now) :=
    Std.ExtTreeMap.getElem?_map
  rw [Objectives.lastSetTick_eq, Objectives.lastSetTick_eq,
    Std.ExtTreeMap.getD_eq_getD_getElem? (t := (ageFreshness scene now frame).runtime.freshness),
    Std.ExtTreeMap.getD_eq_getD_getElem? (t := frame.runtime.freshness), aged]
  cases frame.runtime.freshness[(place, thing)]? with
  | none => rfl
  | some state => exact ageEntry_lastWrite _ now state

end Transforms

namespace Pressure

variable {scene : Sl1Scene} {now : Nat} {frame : Frame}

theorem injectSource_dated (injection : SourceInjection) (dated : Dated scene now frame) :
    Dated scene now (injectSource scene.storageCaps now frame injection) := by
  have kept : Dated scene now (frame.modify injection.keepCarry) := ⟨dated.written, dated.dated⟩
  refine injectSource_rule (motive := Dated scene now) kept
    (kept.perform fun full place thing => .inr ⟨rfl, ?_⟩)
  rw [SourceInjection.land_stock]
  split
  · have nothing : injection.units scene.storageCaps frame.runtime = 0 := by
      have room : scene.storageCaps.getD (injection.place, injection.thing) 0 -
          frame.runtime.stock injection.place injection.thing = 0 := Nat.sub_eq_zero_of_le full
      rw [SourceInjection.units, room, Nat.min_zero]
    rw [nothing]
    exact Nat.min_le_left _ _
  · exact Nat.le_refl _

theorem run_dated (dated : Dated scene now frame) : Dated scene now (run scene now frame) := by
  have started := dated.of_flow (Frame.flow_of_core (overlaid_core scene now frame)) (by
    funext place thing
    rw [Objectives.lastSetTick, overlaid_freshness]
    rfl)
  exact run_rule (motive := Dated scene now) dated started
    fun _ injection dated => injectSource_dated injection dated

end Pressure

section Run

variable {scene : Sl1Scene}

theorem load_dated (valid : scene.Valid) : Dated scene 0 (Frame.load scene) := by
  refine ⟨by simp [Frame.load], fun _ place thing stocked => ?_⟩
  by_cases declared : ∃ declared ∈ scene.places, declared.id = place
  · obtain ⟨declared, member, rfl⟩ := declared
    change 0 < (Sl1RuntimeState.fromScene scene).stock declared.id thing at stocked
    rw [Sl1RuntimeState.fromScene_stock valid member, Sl1Place.storageInitial] at stocked
    have mark := Sl1RuntimeState.fromScene_freshness valid member thing
    cases found : declared.storage[thing]? with
    | none => simp [found] at stocked
    | some slot =>
      have positive : 0 < slot.initial := by simpa [found] using stocked
      refine ⟨0, ?_, by simp [Frame.load]⟩
      rw [Objectives.lastSetTick_eq, Std.ExtTreeMap.getD_eq_getD_getElem?]
      change (((Sl1RuntimeState.fromScene scene).freshness[(declared.id, thing)]?).getD _).lastWrite = _
      rw [mark, found]
      simp [positive, FreshnessState.lastWrite]
  · have absent : ∀ declared ∈ scene.places, declared.id ≠ place := fun other member same =>
      declared ⟨other, member, same⟩
    exact absurd (Sl1RuntimeState.fromScene_stock_undeclared absent thing) (Nat.ne_of_gt stocked)

theorem moveStock_dated {now : Nat} {frame : Frame} (dated : Dated scene now frame) :
    Dated scene now (moveStock scene now frame) := by
  have pressed := Pressure.run_dated dated
  have aged : Dated scene now (Transforms.ageFreshness scene now (Pressure.run scene now frame)) :=
    pressed.of_flow (Frame.flow_of_core (Transforms.ageFreshness_core scene now _))
      (funext fun place => funext fun thing => Transforms.ageFreshness_lastSetTick place thing)
  rw [moveStock_eq]
  exact Transforms.runTransforms_dated aged

theorem ticks_dated (valid : scene.Valid) (backend : AgentBackend) (count : Nat) :
    Dated scene (worldTick count) (ticks scene backend count) := by
  induction count with
  | zero => exact load_dated valid
  | succ count ih =>
    have later : worldTick count ≤ worldTick (count + 1) := by
      rw [worldTick_eq, worldTick_eq]
      omega
    refine (moveStock_dated (ih.mono later)).of_flow (run_flow scene backend _ _) ?_
    funext place thing
    rw [Objectives.lastSetTick_eq, Objectives.lastSetTick_eq, ticks, run_freshness]

end Run

/-- In every run whose injections all find their slots full, positive stock carries a
last-write tick that no writer is later than. -/
theorem stock_dated {raw : RawSl1Scene} {scene : Sl1Scene} (accepted : validate raw = .ok scene)
    (backend : AgentBackend) (count : Nat)
    (full : ∀ entry ∈ (ticks scene backend count).ledger, entry.LandsNothing scene) :
    (ticks scene backend count).StockDated :=
  (ticks_dated (validate_valid accepted) backend count).dated full

/-- A mine that is full when the surge comes. -/
def lateSurgeScene : RawSl1Scene :=
  { surgeScene 10 with
    pressure := [{
      id := "surge", kind := "source_multiplier", atTick := 7, durationTicks := 2, target := "mine"
      thing := some "ore", multiplier := some 3.0 }] }

theorem stock_dated_lateSurge : ∃ scene, validate lateSurgeScene = .ok scene ∧
    (ticks scene defaultBackend 8).runtime.stock "mine" "ore" = 10 ∧
    (ticks scene defaultBackend 8).StockDated := by
  have evaluated : yields (validate lateSurgeScene) (fun scene =>
      (ticks scene defaultBackend 8).runtime.stock "mine" "ore" == 10 &&
        decide (∀ entry ∈ (ticks scene defaultBackend 8).ledger, entry.LandsNothing scene)) = true := by
    decide +kernel
  obtain ⟨scene, accepted, stocked⟩ := yields_iff.mp evaluated
  obtain ⟨stocked, full⟩ := Bool.and_eq_true_iff.mp stocked
  exact ⟨scene, accepted, beq_iff_eq.mp stocked,
    stock_dated accepted defaultBackend 8 (of_decide_eq_true full)⟩

/-- A surge stocks an empty slot and leaves it without data. -/
theorem stock_undated : ∃ scene, validate (surgeScene 20) = .ok scene ∧
    ¬ (ticks scene defaultBackend 2).StockDated := by
  have evaluated : yields (validate (surgeScene 20)) (fun scene =>
      decide (0 < (ticks scene defaultBackend 2).runtime.stock "mine" "ore") &&
        Objectives.lastSetTick (ticks scene defaultBackend 2).runtime "mine" "ore" == none) = true := by
    decide +kernel
  obtain ⟨scene, accepted, found⟩ := yields_iff.mp evaluated
  obtain ⟨stocked, unmarked⟩ := Bool.and_eq_true_iff.mp found
  refine ⟨scene, accepted, fun dated => ?_⟩
  obtain ⟨tick, mark, -⟩ := dated "mine" "ore" (of_decide_eq_true stocked)
  rw [beq_iff_eq.mp unmarked] at mark
  cases mark

end Simetro.Sl1
