import Mathlib.Data.List.Basic
import Mathlib.Data.List.Range

/-! A worker that serves periodic slots one at a time. Each tick first advances
the slot in hand, which may end as produced or failed, then serves the slot that
opens on the tick, if any: taken by a free worker, missed by a busy one. -/

namespace Simetro.Library

structure SlotAccount where
  produced : Nat
  failed : Nat
  missed : Nat
  busy : Bool

namespace SlotAccount

/-- Slots that ended after they were taken. -/
def ended (account : SlotAccount) : Nat := account.produced + account.failed

inductive Advances : SlotAccount → SlotAccount → Prop where
  | kept : Advances account account
  | produced (busy : account.busy = true) :
      Advances account { account with produced := account.produced + 1, busy := false }
  | failed (busy : account.busy = true) :
      Advances account { account with failed := account.failed + 1, busy := false }

inductive Serves (fires : Bool) : SlotAccount → SlotAccount → Prop where
  | quiet (noSlot : fires = false) : Serves fires account account
  | taken (slot : fires = true) (free : account.busy = false) :
      Serves fires account { account with busy := true }
  | missed (slot : fires = true) (busy : account.busy = true) :
      Serves fires account { account with missed := account.missed + 1 }

/-- One tick of the worker. -/
def Ticks (fires : Bool) (before after : SlotAccount) : Prop :=
  ∃ middle, Advances before middle ∧ Serves fires middle after

/-- A tick accounts for the slot it opens. -/
theorem Ticks.balance (ticked : Ticks fires before after) :
    after.ended + after.missed + after.busy.toNat =
      before.ended + before.missed + before.busy.toNat + fires.toNat := by
  obtain ⟨middle, advanced, served⟩ := ticked
  have first : middle.ended + middle.missed + middle.busy.toNat =
      before.ended + before.missed + before.busy.toNat := by
    cases advanced with
    | kept => rfl
    | produced busy | failed busy =>
      simp only [ended, busy, Bool.toNat_false, Bool.toNat_true]
      omega
  cases served with
  | quiet noSlot => simpa [noSlot] using first
  | taken slot free =>
    simp only [ended, slot, free, Bool.toNat_false, Bool.toNat_true] at first ⊢
    omega
  | missed slot busy =>
    simp only [ended, slot] at first ⊢
    simp only [Bool.toNat_true]
    omega

/-- A slot is taken or missed, never both; missing it leaves the worker busy too. -/
theorem Ticks.slot (ticked : Ticks true before after) : after.busy = true ∧
    (after.missed = before.missed ∨ after.missed = before.missed + 1) := by
  obtain ⟨middle, advanced, served⟩ := ticked
  have unchanged : middle.missed = before.missed := by cases advanced <;> rfl
  cases served with
  | quiet noSlot => cases noSlot
  | taken => exact ⟨rfl, .inl unchanged⟩
  | missed slot busy => exact ⟨busy, .inr (congrArg (· + 1) unchanged)⟩

theorem Ticks.missed_eq (ticked : Ticks false before after) : after.missed = before.missed := by
  obtain ⟨middle, advanced, served⟩ := ticked
  cases served with
  | quiet => cases advanced <;> rfl
  | taken slot | missed slot => cases slot

theorem Ticks.mono (ticked : Ticks fires before after) :
    before.produced ≤ after.produced ∧ before.failed ≤ after.failed := by
  obtain ⟨middle, advanced, served⟩ := ticked
  have first : before.produced ≤ middle.produced ∧ before.failed ≤ middle.failed := by
    cases advanced with
    | kept => exact ⟨Nat.le_refl _, Nat.le_refl _⟩
    | produced => exact ⟨Nat.le_succ _, Nat.le_refl _⟩
    | failed => exact ⟨Nat.le_refl _, Nat.le_succ _⟩
  cases served <;> exact first

/-- Between two accounts exactly one slot ended, as produced or as failed. -/
def EndedOnce (first last : SlotAccount) : Prop :=
  last.produced = first.produced + 1 ∧ last.failed = first.failed ∨
    last.produced = first.produced ∧ last.failed = first.failed + 1

/-- Between two accounts no slot ended. -/
def NoneEnded (first last : SlotAccount) : Prop :=
  last.produced = first.produced ∧ last.failed = first.failed

end SlotAccount

section Run

variable {fires : Nat → Bool} {account : Nat → SlotAccount} {count : Nat}

/-- Ticks in `1..=count` on which a slot opens. -/
def slotsBy (fires : Nat → Bool) (count : Nat) : Nat := (List.range' 1 count).countP fires

theorem slotsBy_succ (fires : Nat → Bool) (count : Nat) :
    slotsBy fires (count + 1) = slotsBy fires count + (fires (count + 1)).toNat := by
  unfold slotsBy
  rw [List.range'_1_concat, List.countP_append, Nat.add_comm 1 count]
  cases fired : fires (count + 1) <;> simp [fired]

/-- A slot opens on `slot` and is taken. -/
def Taken (fires : Nat → Bool) (account : Nat → SlotAccount) (slot : Nat) : Prop :=
  ∃ earlier, slot = earlier + 1 ∧ fires slot = true ∧
    (account slot).missed = (account earlier).missed

variable (fresh : (account 0).ended + (account 0).missed + (account 0).busy.toNat = 0)
  (ticked : ∀ tick < count, SlotAccount.Ticks (fires (tick + 1)) (account tick) (account (tick + 1)))
include fresh ticked

/-- Every slot so far was produced, failed or missed, or is in hand. -/
theorem slots_balance : slotsBy fires count = (account count).produced +
    (account count).failed + (account count).missed + (account count).busy.toNat := by
  have total : ∀ tick ≤ count, slotsBy fires tick =
      (account tick).ended + (account tick).missed + (account tick).busy.toNat := by
    intro tick within
    induction tick with
    | zero => exact fresh.symm
    | succ tick ih =>
      rw [slotsBy_succ, ih (by omega), (ticked tick (by omega)).balance]
  exact total count (Nat.le_refl _)

omit fresh in
private theorem ended_of_taken {slot later : Nat} (taken : Taken fires account slot)
    (after : slot ≤ later) (within : later ≤ count)
    (alone : ∀ other, slot < other → other ≤ later → ¬ Taken fires account other) :
    (account later).ended + (account later).busy.toNat = (account slot).ended + 1 := by
  obtain ⟨earlier, rfl, slotFires, unmissed⟩ := taken
  induction later, after using Nat.le_induction with
  | base =>
    have tick := ticked earlier (by omega)
    rw [slotFires] at tick
    rw [tick.slot.1]
    rfl
  | succ later reached ih =>
    have before := ih (by omega) fun other above below => alone other above (by omega)
    have tick := ticked later (by omega)
    have balance := tick.balance
    cases laterFires : fires (later + 1) with
    | false =>
      rw [laterFires] at tick balance
      have unmissed := tick.missed_eq
      simp only [Bool.toNat_false] at balance
      omega
    | true =>
      rw [laterFires] at tick balance
      rcases tick.slot.2 with same | missed
      · exact absurd ⟨later, rfl, laterFires, same⟩ (alone (later + 1) (by omega) (by omega))
      · simp only [Bool.toNat_true] at balance
        omega

omit fresh in
private theorem account_mono {first last : Nat} (after : first ≤ last) (within : last ≤ count) :
    (account first).produced ≤ (account last).produced ∧
      (account first).failed ≤ (account last).failed := by
  induction last, after using Nat.le_induction with
  | base => exact ⟨Nat.le_refl _, Nat.le_refl _⟩
  | succ last reached ih =>
    have before := ih (by omega)
    have tick := (ticked last (by omega)).mono
    omega

omit fresh in
/-- From a taken slot to a later tick with no slot taken in between: the slot is
still in hand, or it ended exactly once. -/
theorem taken_slot_fate {slot later : Nat} (taken : Taken fires account slot)
    (after : slot ≤ later) (within : later ≤ count)
    (alone : ∀ other, slot < other → other ≤ later → ¬ Taken fires account other) :
    (account later).busy = true ∧ SlotAccount.NoneEnded (account slot) (account later) ∨
      (account later).busy = false ∧ SlotAccount.EndedOnce (account slot) (account later) := by
  have total := ended_of_taken ticked taken after within alone
  have mono := account_mono ticked after within
  unfold SlotAccount.ended at total
  unfold SlotAccount.NoneEnded SlotAccount.EndedOnce
  cases inHand : (account later).busy <;> rw [inHand] at total <;>
    simp only [Bool.toNat_true, Bool.toNat_false] at total
  · exact .inr ⟨rfl, by omega⟩
  · exact .inl ⟨rfl, by omega⟩

omit fresh in
/-- A slot ended exactly once when the next slot is taken. -/
theorem taken_slot_ended {slot next : Nat} (taken : Taken fires account slot)
    (later : slot < next) (within : next ≤ count) (nextTaken : Taken fires account next)
    (between : ∀ other, slot < other → other < next → ¬ Taken fires account other) :
    SlotAccount.EndedOnce (account slot) (account next) := by
  have mono := account_mono ticked (Nat.le_of_lt later) within
  obtain ⟨earlier, rfl, nextFires, unmissed⟩ := nextTaken
  have inHand := ended_of_taken ticked taken (Nat.le_of_lt_succ later) (by omega)
    fun other above below => between other above (by omega)
  have tick := ticked earlier (by omega)
  have balance := tick.balance
  rw [nextFires] at tick balance
  rw [tick.slot.1] at balance
  simp only [Bool.toNat_true] at balance
  unfold SlotAccount.ended at balance inHand
  unfold SlotAccount.EndedOnce
  omega

omit fresh in
/-- Every slot that opens is taken, or missed exactly once. -/
theorem slot_taken_or_missed {earlier : Nat} (within : earlier < count)
    (opens : fires (earlier + 1) = true) :
    Taken fires account (earlier + 1) ∨
      (account (earlier + 1)).missed = (account earlier).missed + 1 := by
  have tick := ticked earlier within
  rw [opens] at tick
  rcases tick.slot.2 with same | missed
  · exact .inl ⟨earlier, rfl, opens, same⟩
  · exact .inr missed

end Run

end Simetro.Library
