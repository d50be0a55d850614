import Simetro.Library.Saturating
import Simetro.Library.Slots

/-! A slot worker with a deadline. An attempt that is not over by its deadline is
breached; where the plan retries, the job is late from then on and starts afresh as
soon as it can, with a new deadline and at most `maxAttempts` attempts. -/

namespace Simetro.Library

structure RetryPlan where
  duration : Nat
  deadline : Nat
  maxAttempts : Nat
  retries : Bool
  /-- The last moment there is. -/
  limit : Nat
  /-- Where the attempt counter stops. -/
  attemptLimit : Nat
  duration_pos : 0 < duration
  duration_le : duration ≤ deadline
  attempts_pos : 0 < maxAttempts
  attempts_lt : maxAttempts < attemptLimit

inductive JobState where
  | idle
  | running (scheduledAt startedAt attempt : Nat)
  | waiting (scheduledAt attempt : Nat)
  | late (scheduledAt attempt : Nat)
  deriving DecidableEq

namespace JobState

def isIdle : JobState → Bool
  | .idle => true
  | .running _ _ _ | .waiting _ _ | .late _ _ => false

@[simp] theorem isIdle_idle : isIdle .idle = true := rfl

@[simp] theorem isIdle_running (scheduledAt startedAt attempt : Nat) :
    isIdle (.running scheduledAt startedAt attempt) = false := rfl

@[simp] theorem isIdle_waiting (scheduledAt attempt : Nat) :
    isIdle (.waiting scheduledAt attempt) = false := rfl

@[simp] theorem isIdle_late (scheduledAt attempt : Nat) :
    isIdle (.late scheduledAt attempt) = false := rfl

end JobState

/-- The state of the job and what it has been through. -/
structure Job where
  state : JobState
  starts : Nat
  produced : Nat
  failed : Nat
  missed : Nat
  breaches : Nat

namespace Job

variable (job : Job)

def account : SlotAccount := ⟨job.produced, job.failed, job.missed, !job.state.isIdle⟩

def ended : Nat := job.produced + job.failed

def start (scheduledAt now attempt : Nat) : Job :=
  { job with state := .running scheduledAt now attempt, starts := job.starts + 1 }

def produce : Job := { job with state := .idle, produced := job.produced + 1 }

def fail : Job := { job with state := .idle, failed := job.failed + 1 }

def breach : Job := { job with breaches := job.breaches + 1 }

def beLate (scheduledAt attempt : Nat) : Job := { job with state := .late scheduledAt attempt }

end Job

namespace RetryPlan

variable (plan : RetryPlan)

def deadlineTick (scheduledAt : Nat) : Nat := saturatingAdd plan.limit scheduledAt plan.deadline

def completionTick (startedAt : Nat) : Nat := saturatingAdd plan.limit startedAt plan.duration

def next (attempt : Nat) : Nat := saturatingAdd plan.attemptLimit attempt 1

/-- A breach is answered by a retry, or the slot has failed. -/
inductive Breaches (scheduledAt attempt : Nat) (job : Job) : Job → Prop where
  | retried (allowed : plan.retries = true) (more : attempt < plan.maxAttempts) :
      Breaches scheduledAt attempt job (job.breach.beLate scheduledAt (plan.next attempt))
  | failed : Breaches scheduledAt attempt job job.breach.fail

/-- What the job in hand can do at `now`. -/
inductive Advances (now : Nat) (job : Job) : Job → Prop where
  | idle (free : job.state = .idle) : Advances now job job
  | going (running : job.state = .running scheduledAt startedAt attempt)
      (inTime : now ≤ plan.deadlineTick scheduledAt)
      (unfinished : now < plan.completionTick startedAt) : Advances now job job
  | produced (running : job.state = .running scheduledAt startedAt attempt)
      (inTime : now ≤ plan.deadlineTick scheduledAt)
      (finished : plan.completionTick startedAt ≤ now) : Advances now job job.produce
  | breached (running : job.state = .running scheduledAt startedAt attempt)
      (past : plan.deadlineTick scheduledAt < now)
      (answer : plan.Breaches scheduledAt attempt job after) : Advances now job after
  | overdue (waiting : job.state = .waiting scheduledAt attempt)
      (past : plan.deadlineTick scheduledAt < now)
      (answer : plan.Breaches scheduledAt attempt job after) : Advances now job after
  | queued (waiting : job.state = .waiting scheduledAt attempt)
      (inTime : now ≤ plan.deadlineTick scheduledAt) : Advances now job job
  | started (waiting : job.state = .waiting scheduledAt attempt)
      (inTime : now ≤ plan.deadlineTick scheduledAt) :
      Advances now job (job.start scheduledAt now attempt)
  | restarted (late : job.state = .late scheduledAt attempt) (allowed : plan.retries = true) :
      Advances now job (job.start now now attempt)
  | deferred (late : job.state = .late scheduledAt attempt) (allowed : plan.retries = true)
      (more : plan.next attempt ≤ plan.maxAttempts) :
      Advances now job (job.beLate scheduledAt (plan.next attempt))
  | exhausted (late : job.state = .late scheduledAt attempt) : Advances now job job.fail

/-- What serving the slot that opens at `now`, if any, can do. -/
inductive Opens (now : Nat) (fires : Bool) (job : Job) : Job → Prop where
  | quiet (noSlot : fires = false) : Opens now fires job job
  | missed (slot : fires = true) (busy : job.state ≠ .idle) :
      Opens now fires job { job with missed := job.missed + 1 }
  | started (slot : fires = true) (free : job.state = .idle) :
      Opens now fires job (job.start now now 1)
  | queued (slot : fires = true) (free : job.state = .idle) :
      Opens now fires job { job with state := .waiting now 1 }

/-- One tick: the job in hand advances, then the slot is served. -/
def Ticks (now : Nat) (fires : Bool) (before after : Job) : Prop :=
  ∃ middle, plan.Advances now before middle ∧ Opens now fires middle after

end RetryPlan

namespace RetryPlan

variable {plan : RetryPlan} {now : Nat} {fires : Bool} {job middle after : Job}

theorem Breaches.account (answer : plan.Breaches scheduledAt attempt job after)
    (busy : job.state.isIdle = false) : SlotAccount.Advances job.account after.account := by
  cases answer with
  | retried =>
    have same : (job.breach.beLate scheduledAt (plan.next attempt)).account = job.account := by
      simp [Job.account, Job.breach, Job.beLate, busy]
    exact same ▸ .kept
  | failed => exact .failed (by simp [Job.account, busy])

/-- The job's account is that of a slot worker. -/
theorem Advances.account (advanced : plan.Advances now job after) :
    SlotAccount.Advances job.account after.account := by
  cases advanced with
  | idle | going | queued => exact .kept
  | produced running =>
    exact .produced (by simp [Job.account, running])
  | breached state _ answer | overdue state _ answer =>
    exact answer.account (by rw [state]; rfl)
  | started state | restarted state | deferred state =>
    have busy : job.account.busy = true := by simp [Job.account, state]
    have same : SlotAccount.mk job.produced job.failed job.missed true = job.account := by
      rw [← busy]
      rfl
    exact same ▸ .kept
  | exhausted late => exact .failed (by simp [Job.account, late])

theorem Opens.account (opened : Opens now fires job after) :
    SlotAccount.Serves fires job.account after.account := by
  have free (idle : job.state = .idle) : job.account.busy = false := by
    simp [Job.account, idle]
  cases opened with
  | quiet noSlot => exact .quiet noSlot
  | missed slot busy =>
    refine .missed slot ?_
    cases state : job.state with
    | idle => exact absurd state busy
    | running | waiting | late => simp [Job.account, state]
  | started slot idle | queued slot idle => exact .taken slot (free idle)

theorem Ticks.account (ticked : plan.Ticks now fires job after) :
    SlotAccount.Ticks fires job.account after.account := by
  obtain ⟨middle, advanced, opened⟩ := ticked
  exact ⟨middle.account, advanced.account, opened.account⟩

theorem Ticks.ended_le (ticked : plan.Ticks now fires job after) : job.ended ≤ after.ended := by
  have mono := ticked.account.mono
  exact Nat.add_le_add mono.1 mono.2

theorem le_of_inTime (inTime : now ≤ plan.deadlineTick scheduledAt) :
    now ≤ scheduledAt + plan.deadline :=
  Nat.le_trans inTime (saturatingAdd_le_add _ _ _)

theorem lt_of_over (past : plan.deadlineTick scheduledAt < now) (within : now ≤ plan.limit) :
    scheduledAt + plan.deadline < now := by
  unfold deadlineTick saturatingAdd at past
  omega

theorem lt_of_unfinished (unfinished : now < plan.completionTick startedAt) :
    now < startedAt + plan.duration :=
  Nat.lt_of_lt_of_le unfinished (saturatingAdd_le_add _ _ _)

theorem next_eq (within : attempt ≤ plan.maxAttempts) : plan.next attempt = attempt + 1 := by
  have room := plan.attempts_lt
  exact saturatingAdd_of_le (by omega)

/-- The job in hand at `now` was taken at `slot`. Its attempt and the time it is in
follow from its state; so does how often it was started since `base` starts. -/
inductive InHand (plan : RetryPlan) (slot base now : Nat) (job : Job) : Prop where
  | first (state : job.state = .running slot startedAt 1) (inTime : now ≤ slot + plan.deadline)
      (starts : job.starts ≤ base + 1)
  | queued (state : job.state = .waiting slot 1) (inTime : now ≤ slot + plan.deadline)
      (starts : job.starts ≤ base)
  | late (state : job.state = .late slot attempt) (allowed : plan.retries = true)
      (again : 2 ≤ attempt) (more : attempt ≤ plan.maxAttempts)
      (since : now + 1 = slot + plan.deadline + attempt) (starts : job.starts ≤ base + 1)
  | again (state : job.state = .running startedAt startedAt attempt)
      (allowed : plan.retries = true) (again : 2 ≤ attempt) (more : attempt ≤ plan.maxAttempts)
      (started : startedAt = slot + plan.deadline + attempt)
      (unfinished : now < startedAt + plan.duration) (starts : job.starts ≤ base + 2)

namespace InHand

variable {slot base : Nat} (inHand : plan.InHand slot base now job)
include inHand

theorem busy : job.state ≠ .idle := by
  cases inHand with
  | first state | queued state | late state | again state => simp [state]

theorem starts_le : job.starts ≤ base + 2 := by
  cases inHand with
  | first _ _ starts | queued _ _ starts | late _ _ _ _ _ starts | again _ _ _ _ _ _ starts => omega

/-- A slot is over in time. -/
theorem lt_bound : now < slot + plan.deadline + plan.maxAttempts + plan.duration := by
  have attempts := plan.attempts_pos
  have duration := plan.duration_pos
  cases inHand with
  | first | queued | late | again => omega

/-- Without retries it is over after the deadline. -/
theorem le_deadline (never : plan.retries = false) : now ≤ slot + plan.deadline := by
  cases inHand with
  | first _ inTime | queued _ inTime => exact inTime
  | late _ allowed | again _ allowed => simp [never] at allowed

theorem of_same (state : after.state = job.state) (starts : after.starts = job.starts) :
    plan.InHand slot base now after := by
  cases inHand with
  | first same inTime few => exact .first (state.trans same) inTime (starts ▸ few)
  | queued same inTime few => exact .queued (state.trans same) inTime (starts ▸ few)
  | late same allowed again more since few =>
    exact .late (state.trans same) allowed again more since (starts ▸ few)
  | again same allowed again more started unfinished few =>
    exact .again (state.trans same) allowed again more started unfinished (starts ▸ few)

end InHand

/-- What a tick makes of the job in hand: it goes on, or its slot has ended. -/
def GoesOnOrEnds (plan : RetryPlan) (slot base now : Nat) (job middle : Job) : Prop :=
  plan.InHand slot base now middle ∧ middle.ended = job.ended ∨
    middle.state = .idle ∧ middle.ended = job.ended + 1 ∧ middle.starts ≤ base + 2

private theorem Job.ended_fail (job : Job) : job.fail.ended = job.ended + 1 := rfl

private theorem Job.ended_produce (job : Job) : job.produce.ended = job.ended + 1 := by
  simp only [Job.ended, Job.produce]
  omega

/-- A first attempt is breached one tick after the deadline. -/
private theorem Breaches.goesOnOrEnds {slot base : Nat}
    (answer : plan.Breaches slot 1 job middle) (past : plan.deadlineTick slot < now + 1)
    (within : now + 1 ≤ plan.limit) (inTime : now ≤ slot + plan.deadline)
    (starts : job.starts ≤ base + 1) : plan.GoesOnOrEnds slot base (now + 1) job middle := by
  have first := lt_of_over past within
  cases answer with
  | retried allowed more =>
    refine .inl ⟨.late rfl allowed ?_ ?_ ?_ starts, rfl⟩ <;>
      rw [next_eq (Nat.le_of_lt more)] <;> omega
  | failed => exact .inr ⟨rfl, Job.ended_fail _, Nat.le_succ_of_le starts⟩

theorem InHand.advance {slot base : Nat} (inHand : plan.InHand slot base now job)
    (within : now + 1 ≤ plan.limit) (advanced : plan.Advances (now + 1) job middle) :
    plan.GoesOnOrEnds slot base (now + 1) job middle := by
  cases inHand with
  | first state inTime starts =>
    cases advanced with
    | going running still =>
      obtain ⟨rfl, rfl, rfl⟩ := JobState.running.inj (state.symm.trans running)
      exact .inl ⟨.first state (le_of_inTime still) starts, rfl⟩
    | produced => exact .inr ⟨rfl, Job.ended_produce job, Nat.le_succ_of_le starts⟩
    | breached running past answer =>
      obtain ⟨rfl, rfl, rfl⟩ := JobState.running.inj (state.symm.trans running)
      exact answer.goesOnOrEnds past within inTime starts
    | idle other | overdue other | queued other | started other | restarted other | deferred other
    | exhausted other => cases state.symm.trans other
  | queued state inTime starts =>
    cases advanced with
    | overdue waiting past answer =>
      obtain ⟨rfl, rfl⟩ := JobState.waiting.inj (state.symm.trans waiting)
      exact answer.goesOnOrEnds past within inTime (Nat.le_succ_of_le starts)
    | queued waiting still =>
      obtain ⟨rfl, rfl⟩ := JobState.waiting.inj (state.symm.trans waiting)
      exact .inl ⟨.queued state (le_of_inTime still) starts, rfl⟩
    | started waiting still =>
      obtain ⟨rfl, rfl⟩ := JobState.waiting.inj (state.symm.trans waiting)
      exact .inl ⟨.first rfl (le_of_inTime still) (Nat.succ_le_succ starts), rfl⟩
    | idle other | going other | produced other | breached other | restarted other | deferred other
    | exhausted other => cases state.symm.trans other
  | late state allowed again more since starts =>
    cases advanced with
    | restarted late =>
      obtain ⟨rfl, rfl⟩ := JobState.late.inj (state.symm.trans late)
      have duration := plan.duration_pos
      exact .inl ⟨.again rfl allowed again more since (by omega) (Nat.succ_le_succ starts), rfl⟩
    | deferred late _ remaining =>
      obtain ⟨rfl, rfl⟩ := JobState.late.inj (state.symm.trans late)
      rw [next_eq more] at remaining ⊢
      exact .inl ⟨.late rfl allowed (by omega) remaining (by omega) starts, rfl⟩
    | exhausted => exact .inr ⟨rfl, Job.ended_fail job, Nat.le_succ_of_le starts⟩
    | idle other | going other | produced other | breached other | overdue other | queued other
    | started other => cases state.symm.trans other
  | again state allowed again more started unfinished starts =>
    cases advanced with
    | going running _ still =>
      obtain ⟨rfl, rfl, rfl⟩ := JobState.running.inj (state.symm.trans running)
      exact .inl ⟨.again state allowed again more started (lt_of_unfinished still) starts, rfl⟩
    | produced => exact .inr ⟨rfl, Job.ended_produce job, starts⟩
    | breached running past =>
      -- the retry has a deadline of its own, and its duration fits in it
      obtain ⟨rfl, rfl, rfl⟩ := JobState.running.inj (state.symm.trans running)
      have late := lt_of_over past within
      have fits := plan.duration_le
      omega
    | idle other | overdue other | queued other | started other | restarted other | deferred other
    | exhausted other => cases state.symm.trans other

theorem Advances.missed_eq (advanced : plan.Advances now job middle) : middle.missed = job.missed := by
  cases advanced with
  | breached _ _ answer | overdue _ _ answer => cases answer <;> rfl
  | idle | going | produced | queued | started | restarted | deferred | exhausted => rfl

/-- An advance that frees the worker starts nothing. -/
theorem Advances.starts_eq (advanced : plan.Advances now job middle) (free : middle.state = .idle) :
    middle.starts = job.starts := by
  cases advanced with
  | breached _ _ answer | overdue _ _ answer => cases answer <;> rfl
  | idle | going | produced | queued | deferred | exhausted => rfl
  | started | restarted => cases free

/-- A free worker takes the slot that opens. -/
theorem Opens.of_idle (plan : RetryPlan) (opened : Opens now fires middle after)
    (free : middle.state = .idle) :
    after = middle ∨ fires = true ∧ after.missed = middle.missed ∧ after.ended = middle.ended ∧
      plan.InHand now middle.starts now after := by
  cases opened with
  | quiet => exact .inl rfl
  | missed _ busy => exact absurd free busy
  | started slot => exact .inr ⟨slot, rfl, rfl, .first rfl (Nat.le_add_right _ _) (Nat.le_refl _)⟩
  | queued slot => exact .inr ⟨slot, rfl, rfl, .queued rfl (Nat.le_add_right _ _) (Nat.le_refl _)⟩

/-- A busy one goes on with its job. -/
theorem Opens.of_busy (opened : Opens now fires middle after) (busy : middle.state ≠ .idle) :
    after.state = middle.state ∧ after.starts = middle.starts ∧ after.ended = middle.ended := by
  cases opened with
  | quiet | missed => exact ⟨rfl, rfl, rfl⟩
  | started _ free | queued _ free => exact absurd free busy

/-- A tick of the job in hand: it goes on, or its slot has ended, and then the worker
is free or has taken the next slot. -/
theorem InHand.tick {slot base : Nat} (inHand : plan.InHand slot base now job)
    (within : now + 1 ≤ plan.limit) (ticked : plan.Ticks (now + 1) fires job after) :
    plan.InHand slot base (now + 1) after ∧ after.ended = job.ended ∨
      job.ended < after.ended ∧ (after.state = .idle ∧ after.starts ≤ base + 2 ∨
        fires = true ∧ after.missed = job.missed) := by
  obtain ⟨middle, advanced, opened⟩ := ticked
  rcases inHand.advance within advanced with ⟨goesOn, same⟩ | ⟨free, past, starts⟩
  · obtain ⟨state, sameStarts, sameEnded⟩ := opened.of_busy goesOn.busy
    exact .inl ⟨goesOn.of_same state sameStarts, sameEnded.trans same⟩
  · rcases opened.of_idle plan free with rfl | ⟨slotFires, unmissed, sameEnded, -⟩
    · exact .inr ⟨by omega, .inl ⟨free, starts⟩⟩
    · exact .inr ⟨by omega, .inr ⟨slotFires, unmissed.trans advanced.missed_eq⟩⟩

theorem Ticks.of_idle (ticked : plan.Ticks now fires job after) (free : job.state = .idle) :
    after = job ∨ fires = true ∧ after.missed = job.missed ∧
      plan.InHand now job.starts now after := by
  obtain ⟨middle, advanced, opened⟩ := ticked
  have unchanged : middle = job := by
    cases advanced with
    | idle => rfl
    | going other | produced other | breached other | overdue other | queued other | started other
    | restarted other | deferred other | exhausted other => cases free.symm.trans other
  subst unchanged
  rcases opened.of_idle plan free with same | ⟨slotFires, unmissed, -, taken⟩
  · exact .inl same
  · exact .inr ⟨slotFires, unmissed, taken⟩

/-- A slot that opens and is not missed is taken. -/
theorem Ticks.takes (ticked : plan.Ticks now true job after) (unmissed : after.missed = job.missed) :
    plan.InHand now job.starts now after := by
  obtain ⟨middle, advanced, opened⟩ := ticked
  have kept := advanced.missed_eq
  cases opened with
  | quiet noSlot => cases noSlot
  | missed =>
    simp only at unmissed
    omega
  | started _ free =>
    exact advanced.starts_eq free ▸ .first rfl (Nat.le_add_right _ _) (Nat.le_refl _)
  | queued _ free =>
    exact advanced.starts_eq free ▸ .queued rfl (Nat.le_add_right _ _) (Nat.le_refl _)

theorem Opens.counts (opened : Opens now fires middle after) :
    after.produced = middle.produced ∧ after.breaches = middle.breaches := by
  cases opened <;> exact ⟨rfl, rfl⟩

/-- An attempt that has its duration before it goes on. -/
theorem Advances.going_of_lt {startedAt : Nat} (advanced : plan.Advances now job middle)
    (running : job.state = .running startedAt startedAt attempt)
    (fits : startedAt + plan.duration ≤ plan.limit) (before : now < startedAt + plan.duration) :
    middle = job := by
  have room := plan.duration_le
  cases advanced with
  | going => rfl
  | produced same _ finished =>
    obtain ⟨rfl, rfl, rfl⟩ := JobState.running.inj (running.symm.trans same)
    rw [completionTick, saturatingAdd_of_le fits] at finished
    omega
  | breached same past =>
    obtain ⟨rfl, rfl, rfl⟩ := JobState.running.inj (running.symm.trans same)
    have late := lt_of_over past (by omega)
    omega
  | idle other | overdue other | queued other | started other | restarted other | deferred other
  | exhausted other => cases running.symm.trans other

/-- It completes when its duration is over. -/
theorem Advances.produced_at {startedAt : Nat}
    (advanced : plan.Advances (startedAt + plan.duration) job middle)
    (running : job.state = .running startedAt startedAt attempt)
    (fits : startedAt + plan.duration ≤ plan.limit) : middle = job.produce := by
  have room := plan.duration_le
  cases advanced with
  | produced => rfl
  | going same _ unfinished =>
    obtain ⟨rfl, rfl, rfl⟩ := JobState.running.inj (running.symm.trans same)
    exact absurd (lt_of_unfinished unfinished) (Nat.lt_irrefl _)
  | breached same past =>
    obtain ⟨rfl, rfl, rfl⟩ := JobState.running.inj (running.symm.trans same)
    have late := lt_of_over past fits
    omega
  | idle other | overdue other | queued other | started other | restarted other | deferred other
  | exhausted other => cases running.symm.trans other

/-- A worker that was late and now runs has started in this tick. -/
theorem Ticks.run_of_late (ticked : plan.Ticks now fires job after)
    (late : job.state = .late dueAt tried)
    (running : after.state = .running scheduledAt startedAt attempt) :
    scheduledAt = now ∧ startedAt = now := by
  obtain ⟨middle, advanced, opened⟩ := ticked
  have fresh (kept : middle.state = .running scheduledAt startedAt attempt) :
      scheduledAt = now ∧ startedAt = now := by
    cases advanced with
    | restarted =>
      obtain ⟨rfl, rfl, rfl⟩ := JobState.running.inj kept
      exact ⟨rfl, rfl⟩
    | deferred | exhausted => cases kept
    | idle other | going other | produced other | breached other | overdue other | queued other
    | started other => cases late.symm.trans other
  cases opened with
  | quiet | missed => exact fresh running
  | started =>
    obtain ⟨rfl, rfl, rfl⟩ := JobState.running.inj running
    exact ⟨rfl, rfl⟩
  | queued => cases running

section Run

variable {fires : Nat → Bool} {job : Nat → Job} {count : Nat} (reachable : count ≤ plan.limit)
  (ticked : ∀ tick < count, plan.Ticks (tick + 1) (fires (tick + 1)) (job tick) (job (tick + 1)))

/-- A slot opens on `slot` and the worker takes it. -/
abbrev Takes (fires : Nat → Bool) (job : Nat → Job) : Nat → Prop :=
  Taken fires fun tick => (job tick).account

include ticked

theorem inHand_of_taken {slot : Nat} (taken : Takes fires job slot) (within : slot ≤ count) :
    plan.InHand slot (job (slot - 1)).starts slot (job slot) := by
  obtain ⟨earlier, rfl, slotFires, unmissed⟩ := taken
  have tick := ticked earlier (by omega)
  rw [slotFires] at tick
  exact tick.takes unmissed

include reachable

/-- A taken slot is in hand until it ends. -/
theorem inHand_or_ended {slot later : Nat} (taken : Takes fires job slot) (after : slot ≤ later)
    (within : later ≤ count) :
    plan.InHand slot (job (slot - 1)).starts later (job later) ∨
      (job slot).ended < (job later).ended := by
  have split : plan.InHand slot (job (slot - 1)).starts later (job later) ∧
      (job later).ended = (job slot).ended ∨ (job slot).ended < (job later).ended := by
    induction later, after using Nat.le_induction with
    | base => exact .inl ⟨inHand_of_taken ticked taken within, rfl⟩
    | succ later _ ih =>
      have tick := ticked later (by omega)
      rcases ih (by omega) with ⟨inHand, same⟩ | past
      · rcases inHand.tick (by omega) tick with ⟨goesOn, unended⟩ | ⟨ended, -⟩
        · exact .inl ⟨goesOn, unended.trans same⟩
        · exact .inr (by omega)
      · exact .inr (Nat.lt_of_lt_of_le past tick.ended_le)
  exact split.imp_left And.left

/-- A slot is over within its deadline, its attempts and one more run. -/
theorem slot_over {slot later : Nat} (taken : Takes fires job slot)
    (after : slot + plan.deadline + plan.maxAttempts + plan.duration ≤ later)
    (within : later ≤ count) : (job slot).ended < (job later).ended := by
  rcases inHand_or_ended reachable ticked taken (by omega) within with inHand | past
  · exact absurd inHand.lt_bound (by omega)
  · exact past

/-- Without retries it is over right after its deadline. -/
theorem slot_over_of_never (never : plan.retries = false) {slot later : Nat}
    (taken : Takes fires job slot) (after : slot + plan.deadline < later) (within : later ≤ count) :
    (job slot).ended < (job later).ended := by
  rcases inHand_or_ended reachable ticked taken (by omega) within with inHand | past
  · exact absurd (inHand.le_deadline never) (by omega)
  · exact past

/-- Until the next slot is taken there are at most two starts. -/
theorem slot_starts {slot later : Nat} (taken : Takes fires job slot) (after : slot ≤ later)
    (within : later ≤ count)
    (alone : ∀ other, slot < other → other ≤ later → ¬ Takes fires job other) :
    (job later).starts ≤ (job (slot - 1)).starts + 2 := by
  have held : plan.InHand slot (job (slot - 1)).starts later (job later) ∨
      (job later).state = .idle ∧ (job later).starts ≤ (job (slot - 1)).starts + 2 := by
    induction later, after using Nat.le_induction with
    | base => exact .inl (inHand_of_taken ticked taken within)
    | succ later reached ih =>
      have tick := ticked later (by omega)
      have untaken (slotFires : fires (later + 1) = true) :
          (job (later + 1)).missed ≠ (job later).missed := fun unmissed =>
        alone (later + 1) (by omega) (Nat.le_refl _) ⟨later, rfl, slotFires, unmissed⟩
      rcases ih (by omega) fun other above below => alone other above (by omega) with
        inHand | ⟨free, few⟩
      · rcases inHand.tick (by omega) tick with ⟨goesOn, -⟩ | ⟨-, free | ⟨slotFires, unmissed⟩⟩
        · exact .inl goesOn
        · exact .inr free
        · exact absurd unmissed (untaken slotFires)
      · rcases tick.of_idle free with same | ⟨slotFires, unmissed, -⟩
        · rw [same]
          exact .inr ⟨free, few⟩
        · exact absurd unmissed (untaken slotFires)
  exact held.elim InHand.starts_le And.right

/-- Every job in a run that starts idle was taken at some slot. -/
theorem idle_or_inHand (fresh : (job 0).state = .idle) {tick : Nat} (within : tick ≤ count) :
    (job tick).state = .idle ∨ ∃ slot base, plan.InHand slot base tick (job tick) := by
  induction tick with
  | zero => exact .inl fresh
  | succ tick ih =>
    have ticks := ticked tick (by omega)
    have taken (slotFires : fires (tick + 1) = true)
        (unmissed : (job (tick + 1)).missed = (job tick).missed) :=
      inHand_of_taken ticked ⟨tick, rfl, slotFires, unmissed⟩ within
    rcases ih (by omega) with free | ⟨slot, base, inHand⟩
    · rcases ticks.of_idle free with same | ⟨slotFires, unmissed, -⟩
      · exact .inl (same ▸ free)
      · exact .inr ⟨_, _, taken slotFires unmissed⟩
    · rcases inHand.tick (by omega) ticks with ⟨goesOn, -⟩ | ⟨-, free | ⟨slotFires, unmissed⟩⟩
      · exact .inr ⟨slot, base, goesOn⟩
      · exact .inl free.1
      · exact .inr ⟨_, _, taken slotFires unmissed⟩

/-- A run with a deadline of its own goes on to its completion. -/
theorem run_goes_on {startedAt : Nat} (later : Nat)
    (running : (job startedAt).state = .running startedAt startedAt attempt)
    (fits : startedAt + plan.duration ≤ count) (after : startedAt ≤ later)
    (before : later < startedAt + plan.duration) :
    (job later).state = .running startedAt startedAt attempt ∧
      (job later).produced = (job startedAt).produced ∧
      (job later).breaches = (job startedAt).breaches := by
  induction later, after using Nat.le_induction with
  | base => exact ⟨running, rfl, rfl⟩
  | succ later reached ih =>
    obtain ⟨state, produced, breaches⟩ := ih (by omega)
    obtain ⟨middle, advanced, opened⟩ := ticked later (by omega)
    obtain rfl := advanced.going_of_lt state (by omega) (by omega)
    have counts := opened.counts
    have same := (opened.of_busy (by simp [state])).1
    exact ⟨same.trans state, counts.1.trans produced, counts.2.trans breaches⟩

/-- It completes exactly its duration after its start, without a breach. -/
theorem run_completes {startedAt : Nat}
    (running : (job startedAt).state = .running startedAt startedAt attempt)
    (fits : startedAt + plan.duration ≤ count) :
    (job (startedAt + plan.duration)).produced = (job startedAt).produced + 1 ∧
      (job (startedAt + plan.duration)).breaches = (job startedAt).breaches := by
  have positive := plan.duration_pos
  obtain ⟨last, same⟩ : ∃ last, startedAt + plan.duration = last + 1 :=
    ⟨startedAt + plan.duration - 1, by omega⟩
  obtain ⟨state, produced, breaches⟩ :=
    run_goes_on reachable ticked last running fits (by omega) (by omega)
  obtain ⟨middle, advanced, opened⟩ := ticked last (by omega)
  have counts := opened.counts
  rw [← same] at advanced counts
  obtain rfl := advanced.produced_at state (by omega)
  rw [← produced, ← breaches]
  exact counts

end Run

end RetryPlan

end Simetro.Library
