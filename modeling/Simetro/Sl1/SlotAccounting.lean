import Simetro.Sl1.TransformJobs

/-! Every cadence slot of a transform ends exactly once: produced, failed or
missed. -/

namespace Simetro.Sl1

open Simetro.Library Simetro.Protocol

namespace Frame

variable (frame : Frame) (id : String)

/-- The transform's slots as the transcript shows them, given its state. -/
def slotAccount (state : Sl1TransformState) : SlotAccount where
  produced := frame.completions id
  failed := frame.warnings id .failed
  missed := frame.warnings id .slotMissed
  busy := !state.isIdle

/-- The account of a frame between ticks. -/
def slots : SlotAccount := frame.slotAccount id (frame.runtime.transformState id)

theorem slots_eq : frame.slots id = (frame.job id).account := by
  simp only [slots, slotAccount, job, Job.account, jobAs]
  cases frame.runtime.transformState id <;> rfl

end Frame

/-- One tick of a run is one tick of every transform's slot worker. -/
theorem ticks_slots {scene : Sl1Scene} (valid : scene.Valid) (backend : AgentBackend)
    {transform : Sl1Transform} (member : transform ∈ scene.transforms) (count : Nat) :
    SlotAccount.Ticks (Transforms.cadenceFires transform (worldTick (count + 1)))
      ((ticks scene backend count).slots transform.id)
      ((ticks scene backend (count + 1)).slots transform.id) := by
  rw [Frame.slots_eq, Frame.slots_eq]
  exact (ticks_job valid backend member count).account

/-- Cadence ticks of a transform: the multiples of its cadence. -/
def Sl1Transform.isCadenceTick (transform : Sl1Transform) (tick : Nat) : Bool :=
  tick % transform.cadenceTicks == 0

/-- In every run of consecutive ticks the cadence slots of a transform balance
against its completions, failures and misses and the slot in hand. Every slot is
taken or missed once, and a taken slot is produced once, failed once or in hand. -/
theorem cadence_slots_balance {raw : RawSl1Scene} {scene : Sl1Scene}
    (accepted : validate raw = .ok scene) (backend : AgentBackend) {count : Nat}
    (reachable : count ≤ u64Max) {transform : Sl1Transform} (member : transform ∈ scene.transforms) :
    let opens := transform.isCadenceTick
    let account := fun tick => (ticks scene backend tick).slots transform.id
    (slotsBy opens count = (ticks scene backend count).completions transform.id +
      (ticks scene backend count).warnings transform.id .failed +
      (ticks scene backend count).warnings transform.id .slotMissed +
      if (ticks scene backend count).runtime.transformState transform.id = .idle then 0 else 1) ∧
    (∀ earlier < count, opens (earlier + 1) = true → Taken opens account (earlier + 1) ∨
      (account (earlier + 1)).missed = (account earlier).missed + 1) ∧
    (∀ slot later, Taken opens account slot → slot ≤ later → later ≤ count →
      (∀ other, slot < other → other ≤ later → ¬ Taken opens account other) →
      (account later).busy = true ∧ SlotAccount.NoneEnded (account slot) (account later) ∨
        (account later).busy = false ∧ SlotAccount.EndedOnce (account slot) (account later)) ∧
    (∀ slot next, Taken opens account slot → slot < next → next ≤ count →
      Taken opens account next → (∀ other, slot < other → other < next →
        ¬ Taken opens account other) → SlotAccount.EndedOnce (account slot) (account next)) := by
  intro opens account
  have valid := validate_valid accepted
  have cadence := (valid.transforms transform member).cadence_pos
  have ticked : ∀ tick < count,
      SlotAccount.Ticks (opens (tick + 1)) (account tick) (account (tick + 1)) := by
    intro tick within
    have step := ticks_slots valid backend member tick
    rw [worldTick_of_le (by omega)] at step
    have fires : Transforms.cadenceFires transform (tick + 1) = opens (tick + 1) := by
      simp [Transforms.cadenceFires, opens, Sl1Transform.isCadenceTick, cadence]
    exact fires ▸ step
  have fresh : (account 0).ended + (account 0).missed + (account 0).busy.toNat = 0 := by
    simp [account, ticks, Frame.slots, Frame.slotAccount, Frame.completions, Frame.warnings,
      Frame.load, SlotAccount.ended, Sl1RuntimeState.fromScene_transformState]
  refine ⟨?_, fun earlier within fires => slot_taken_or_missed ticked within fires,
    fun slot later taken after within alone => taken_slot_fate ticked taken after within alone,
    fun slot next taken later within nextTaken between =>
      taken_slot_ended ticked taken later within nextTaken between⟩
  have balance := slots_balance fresh ticked
  refine balance.trans ?_
  simp only [account, Frame.slots, Frame.slotAccount]
  cases (ticks scene backend count).runtime.transformState transform.id <;> simp

theorem cadence_slots_balance_surge : ∃ scene, validate (surgeScene 20) = .ok scene ∧
    ∃ transform ∈ scene.transforms, (ticks scene defaultBackend 8).completions transform.id = 1 ∧
      slotsBy transform.isCadenceTick 8 = 1 +
        (ticks scene defaultBackend 8).warnings transform.id .failed +
        (ticks scene defaultBackend 8).warnings transform.id .slotMissed +
        if (ticks scene defaultBackend 8).runtime.transformState transform.id = .idle then 0
        else 1 := by
  have evaluated : yields (validate (surgeScene 20)) (fun scene => scene.transforms.any
      fun transform => (ticks scene defaultBackend 8).completions transform.id == 1) = true := by
    decide +kernel
  obtain ⟨scene, accepted, found⟩ := yields_iff.mp evaluated
  obtain ⟨transform, member, completed⟩ := List.any_eq_true.mp found
  rw [beq_iff_eq] at completed
  have balance := (cadence_slots_balance accepted defaultBackend (by decide : 8 ≤ u64Max) member).1
  rw [completed] at balance
  exact ⟨scene, accepted, transform, member, completed, balance⟩

end Simetro.Sl1
