import Mathlib.Algebra.Order.BigOperators.Group.List
import Mathlib.Algebra.Order.Group.Nat
import Mathlib.Logic.Function.Basic
import Simetro.Library.Trace

/-! A store shared by tasks. A start consumes inputs from slots, claims capacity
in buckets and reserves room for its outputs; a finish lands the outputs and
releases both; an abort releases both. Supplies land from outside. Amounts that
land are clamped at `limit`. -/

namespace Simetro.Library

variable {Task Slot Bucket : Type} [DecidableEq Task]

/-- What each task moves, and how much the slots and buckets hold. -/
structure Plan (Task Slot Bucket : Type) where
  tasks : List Task
  needs : Task → Slot → Nat
  yields : Task → Slot → Nat
  cost : Task → Bucket → Nat
  room : Slot → Nat
  base : Bucket → Nat
  limit : Nat

structure Store (Task Slot Bucket : Type) where
  stock : Slot → Nat
  reserved : Slot → Nat
  used : Bucket → Nat
  running : Task → Bool

inductive StoreOp (Task Slot : Type) where
  | start (task : Task)
  | finish (task : Task)
  | abort (task : Task)
  | supply (slot : Slot) (due units : Nat)

/-- `amount` landed on `before`, unless the limit clamped it. -/
def Lands (limit before amount after : Nat) : Prop :=
  after = before + amount ∨ (limit ≤ after ∧ after ≤ before + amount)

theorem Lands.le (lands : Lands limit before amount after) : after ≤ before + amount := by
  unfold Lands at lands
  omega

theorem Lands.exact (lands : Lands limit before amount after) (below : after < limit) :
    after = before + amount := by
  unfold Lands at lands
  omega

theorem Lands.exact_of_fits (lands : Lands limit before amount after)
    (fits : before + amount ≤ limit) : after = before + amount := by
  unfold Lands at lands
  omega

namespace Plan

variable (plan : Plan Task Slot Bucket)

/-- A start is admitted when its inputs are in stock, its claims fit their
buckets and its outputs fit beside stock and earlier reservations. -/
structure Admits (store : Store Task Slot Bucket) (task : Task) : Prop where
  declared : task ∈ plan.tasks
  idle : store.running task = false
  inStock : ∀ slot, plan.needs task slot ≤ store.stock slot
  capacity : ∀ bucket, 0 < plan.cost task bucket →
    store.used bucket + plan.cost task bucket ≤ plan.base bucket
  fits : ∀ slot, 0 < plan.yields task slot →
    min (store.stock slot + store.reserved slot + plan.yields task slot) plan.limit ≤ plan.room slot

def started (store : Store Task Slot Bucket) (task : Task) : Store Task Slot Bucket where
  stock slot := store.stock slot - plan.needs task slot
  reserved slot := store.reserved slot + plan.yields task slot
  used bucket := store.used bucket + plan.cost task bucket
  running := Function.update store.running task true

/-- A task gives back its claims and reservations. -/
def released (store : Store Task Slot Bucket) (task : Task) : Store Task Slot Bucket where
  stock := store.stock
  reserved slot := store.reserved slot - plan.yields task slot
  used bucket := store.used bucket - plan.cost task bucket
  running := Function.update store.running task false

inductive Step (plan : Plan Task Slot Bucket) [DecidableEq Slot] :
    Store Task Slot Bucket → StoreOp Task Slot → Store Task Slot Bucket → Prop where
  | start (admitted : plan.Admits store task) :
      Step plan store (.start task) (plan.started store task)
  | finish (declared : task ∈ plan.tasks) (busy : store.running task = true)
      (lands : ∀ slot, Lands plan.limit (store.stock slot) (plan.yields task slot) (landed slot)) :
      Step plan store (.finish task) { plan.released store task with stock := landed }
  | abort (declared : task ∈ plan.tasks) (busy : store.running task = true) :
      Step plan store (.abort task) (plan.released store task)
  | supply (clamped : units = min due (plan.room slot - store.stock slot))
      (lands : Lands plan.limit (store.stock slot) units landed) :
      Step plan store (.supply slot due units)
        { store with stock := Function.update store.stock slot landed }

/-- Total of an amount over the running tasks. -/
def load (amount : Task → Nat) (running : Task → Bool) : Nat :=
  (plan.tasks.map fun task => if running task then amount task else 0).sum

/-- Claims and reservations are exactly those of the running tasks. -/
structure Balanced (store : Store Task Slot Bucket) : Prop where
  used : ∀ bucket, store.used bucket = plan.load (plan.cost · bucket) store.running
  reserved : ∀ slot, store.reserved slot = plan.load (plan.yields · slot) store.running

end Plan

/-- Over distinct tasks, switching one on adds its amount. -/
private theorem sum_switch_on {tasks : List Task} {running : Task → Bool} {amount : Task → Nat}
    (distinct : tasks.Nodup) (member : task ∈ tasks) (idle : running task = false) :
    (tasks.map fun other =>
      if Function.update running task true other then amount other else 0).sum =
      (tasks.map fun other => if running other then amount other else 0).sum + amount task := by
  induction tasks with
  | nil => simp at member
  | cons head rest ih =>
    obtain ⟨absent, distinct⟩ := List.nodup_cons.mp distinct
    simp only [List.map_cons, List.sum_cons]
    rcases List.mem_cons.mp member with same | later
    · subst head
      have unchanged : (rest.map fun other =>
          if Function.update running task true other then amount other else 0) =
          rest.map fun other => if running other then amount other else 0 := by
        apply List.map_congr_left
        intro other present
        have different : other ≠ task := fun equal => absent (equal ▸ present)
        simp [Function.update_of_ne different]
      simp only [Function.update_self, if_true, unchanged, idle, Bool.false_eq_true, if_false]
      omega
    · have different : head ≠ task := fun equal => absent (equal ▸ later)
      rw [Function.update_of_ne different, ih distinct later]
      omega

namespace Plan

variable {plan : Plan Task Slot Bucket} {store after : Store Task Slot Bucket}

theorem load_start (distinct : plan.tasks.Nodup) (declared : task ∈ plan.tasks)
    (idle : running task = false) (amount : Task → Nat) :
    plan.load amount (Function.update running task true) =
      plan.load amount running + amount task :=
  sum_switch_on distinct declared idle

theorem load_release (distinct : plan.tasks.Nodup) (declared : task ∈ plan.tasks)
    (busy : running task = true) (amount : Task → Nat) :
    plan.load amount (Function.update running task false) + amount task =
      plan.load amount running := by
  have restored : Function.update (Function.update running task false) task true = running := by
    rw [Function.update_idem, ← busy, Function.update_eq_self]
  have switched : plan.load amount (Function.update (Function.update running task false) task true) =
      plan.load amount (Function.update running task false) + amount task :=
    load_start distinct declared (by simp) amount
  rw [restored] at switched
  exact switched.symm

omit [DecidableEq Task] in
/-- No load exceeds the total over all tasks. -/
theorem load_le_total (amount : Task → Nat) (running : Task → Bool) :
    plan.load amount running ≤ (plan.tasks.map amount).sum := by
  apply List.sum_le_sum
  intro task _
  split <;> omega

namespace Balanced

variable (balanced : plan.Balanced store) (distinct : plan.tasks.Nodup)
include balanced distinct

theorem cost_le_used (declared : task ∈ plan.tasks) (busy : store.running task = true)
    (bucket : Bucket) : plan.cost task bucket ≤ store.used bucket := by
  have split := load_release distinct declared busy (plan.cost · bucket)
  rw [balanced.used]
  omega

theorem yields_le_reserved (declared : task ∈ plan.tasks) (busy : store.running task = true)
    (slot : Slot) : plan.yields task slot ≤ store.reserved slot := by
  have split := load_release distinct declared busy (plan.yields · slot)
  rw [balanced.reserved]
  omega

/-- An idle task's claims still fit beside those of the running ones. -/
theorem used_add_cost_le (declared : task ∈ plan.tasks) (idle : store.running task = false)
    (bucket : Bucket) :
    store.used bucket + plan.cost task bucket ≤ (plan.tasks.map (plan.cost · bucket)).sum := by
  rw [balanced.used, ← load_start distinct declared idle (plan.cost · bucket)]
  exact load_le_total _ _

theorem reserved_add_yields_le (declared : task ∈ plan.tasks) (idle : store.running task = false)
    (slot : Slot) :
    store.reserved slot + plan.yields task slot ≤ (plan.tasks.map (plan.yields · slot)).sum := by
  rw [balanced.reserved, ← load_start distinct declared idle (plan.yields · slot)]
  exact load_le_total _ _

private theorem released (declared : task ∈ plan.tasks) (busy : store.running task = true) :
    plan.Balanced (plan.released store task) := by
  constructor
  · intro bucket
    have split := load_release distinct declared busy (plan.cost · bucket)
    simp only [Plan.released, balanced.used]
    omega
  · intro slot
    have split := load_release distinct declared busy (plan.yields · slot)
    simp only [Plan.released, balanced.reserved]
    omega

end Balanced

variable [DecidableEq Slot]

/-- Every step keeps the claims balanced. -/
theorem Balanced.step (balanced : plan.Balanced store) (distinct : plan.tasks.Nodup)
    (taken : plan.Step store op after) : plan.Balanced after := by
  cases taken with
  | start admitted =>
    constructor
    · intro bucket
      simp only [started, balanced.used]
      rw [load_start distinct admitted.declared admitted.idle]
    · intro slot
      simp only [started, balanced.reserved]
      rw [load_start distinct admitted.declared admitted.idle]
  | finish declared busy lands =>
    exact ⟨(balanced.released distinct declared busy).used,
      (balanced.released distinct declared busy).reserved⟩
  | abort declared busy => exact balanced.released distinct declared busy
  | supply clamped lands => exact ⟨balanced.used, balanced.reserved⟩

/-- No bucket is claimed beyond its base capacity. -/
def WithinBase (plan : Plan Task Slot Bucket) (store : Store Task Slot Bucket) : Prop :=
  ∀ bucket, store.used bucket ≤ plan.base bucket

theorem WithinBase.step (within : plan.WithinBase store) (taken : plan.Step store op after) :
    plan.WithinBase after := by
  intro bucket
  have before := within bucket
  cases taken with
  | @start _ task admitted =>
    have claim := admitted.capacity bucket
    simp only [started]
    omega
  | finish =>
    simp only [released]
    omega
  | abort =>
    simp only [released]
    omega
  | supply => exact before

/-- Stock and reservations together fit every slot. -/
def WithinRoom (plan : Plan Task Slot Bucket) (store : Store Task Slot Bucket) : Prop :=
  ∀ slot, store.stock slot + store.reserved slot ≤ plan.room slot

/-- The steps that leave reserved room alone: a supply finds no reservation or
fits beside it, a start's outputs fit below the limit. -/
def LeavesRoom (plan : Plan Task Slot Bucket) (store : Store Task Slot Bucket) :
    StoreOp Task Slot → Prop
  | .start task => ∀ slot, 0 < plan.yields task slot →
      store.stock slot - plan.needs task slot + store.reserved slot + plan.yields task slot ≤
        plan.limit
  | .supply slot due _ =>
      store.reserved slot = 0 ∨ store.stock slot + store.reserved slot + due ≤ plan.room slot
  | .finish _ | .abort _ => True

theorem WithinRoom.step (within : plan.WithinRoom store) (balanced : plan.Balanced store)
    (distinct : plan.tasks.Nodup) (taken : plan.Step store op after)
    (leaves : plan.LeavesRoom store op) : plan.WithinRoom after := by
  intro slot
  have before := within slot
  cases taken with
  | @start _ task admitted =>
    have outputs := admitted.fits slot
    have below := leaves slot
    simp only [started]
    omega
  | @finish task _ landed declared busy lands =>
    have landing := (lands slot).le
    have reserved := balanced.yields_le_reserved distinct declared busy slot
    simp only [released]
    omega
  | abort =>
    simp only [released]
    omega
  | @supply units due target _ landed clamped lands =>
    by_cases same : slot = target
    · subst slot
      have landing := lands.le
      simp only [Function.update_self]
      rcases leaves with free | beside <;> omega
    · simpa [Function.update_of_ne same] using before

/-- Where room was kept, a finish lands its outputs whole. -/
theorem WithinRoom.finish_exact (within : plan.WithinRoom store) (balanced : plan.Balanced store)
    (distinct : plan.tasks.Nodup) (roomy : ∀ slot, plan.room slot ≤ plan.limit)
    (taken : plan.Step store (.finish task) after) (slot : Slot) :
    after.stock slot = store.stock slot + plan.yields task slot ∧
      after.stock slot ≤ plan.room slot := by
  cases taken with
  | finish declared busy lands =>
    have reserved := balanced.yields_le_reserved distinct declared busy slot
    have before := within slot
    have limit := roomy slot
    have landed := (lands slot).exact_of_fits (by omega)
    exact ⟨landed, by simp only [landed]; omega⟩

def consumed (plan : Plan Task Slot Bucket) (slot : Slot) : StoreOp Task Slot → Nat
  | .start task => plan.needs task slot
  | _ => 0

def produced (plan : Plan Task Slot Bucket) (slot : Slot) : StoreOp Task Slot → Nat
  | .finish task => plan.yields task slot
  | _ => 0

def supplied (slot : Slot) : StoreOp Task Slot → Nat
  | .supply target _ units => if slot = target then units else 0
  | _ => 0

/-- A step whose stock stays below the limit moves exactly what it names. -/
theorem Step.conserves (taken : plan.Step store op after) {slot : Slot}
    (below : after.stock slot < plan.limit) :
    after.stock slot + plan.consumed slot op =
      store.stock slot + supplied slot op + plan.produced slot op := by
  cases taken with
  | start admitted =>
    have available := admitted.inStock slot
    simp only [started, consumed, supplied, produced]
    omega
  | finish declared busy lands =>
    have landed := (lands slot).exact below
    simp only [consumed, supplied, produced, landed]
    omega
  | abort => rfl
  | @supply units due target _ landed clamped lands =>
    simp only [consumed, supplied, produced] at below ⊢
    by_cases same : slot = target
    · subst slot
      rw [Function.update_self] at below ⊢
      simp [lands.exact below]
    · simp [same]

end Plan

end Simetro.Library
