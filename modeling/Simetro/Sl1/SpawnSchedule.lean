import Simetro.Sl1.Ambient
import Simetro.Sl1.DemandInvariants

/-! When a demand wants an instance: its schedule, followed with a cursor, against the
pauses the agents impose on it. -/

namespace Simetro.Sl1

open Simetro.Library Simetro.Protocol

/-- The ticks of a schedule. -/
def Sl1DemandSchedule.Names : Sl1DemandSchedule → Nat → Prop
  | .fixed everyTicks startTick, now => startTick ≤ now ∧ everyTicks ∣ now - startTick
  | .scripted ticks, now => now ∈ ticks

/-- A script lists its ticks in order. -/
def Sl1DemandSchedule.Ordered : Sl1DemandSchedule → Prop
  | .fixed _ _ => True
  | .scripted ticks => ticks.Pairwise (· < ·)

section Validation

private theorem checkScripted_ordered {demand : String} {ticks : List Nat} {previous : Option Nat}
    {done : Unit} (success : checkScripted demand ticks previous = .ok done) :
    ticks.Pairwise (· < ·) ∧ ∀ earlier, previous = some earlier → ∀ tick ∈ ticks, earlier < tick := by
  induction ticks generalizing previous with
  | nil => exact ⟨.nil, by simp⟩
  | cons tick rest ih =>
    simp only [checkScripted, bind_eq_ok, reject_eq_ok] at success
    obtain ⟨_, -, _, -, _, increasing, later⟩ := success
    obtain ⟨ordered, after⟩ := ih later
    have above := after tick rfl
    refine ⟨List.pairwise_cons.mpr ⟨above, ordered⟩, ?_⟩
    rintro earlier rfl other listed
    have first : earlier < tick := by simpa using increasing
    rcases List.mem_cons.mp listed with same | listed
    · exact same ▸ first
    · exact Nat.lt_trans first (above other listed)

private theorem validateDemandSchedule_ordered {demand : String} {raw : RawSl1DemandSchedule}
    {schedule : Sl1DemandSchedule} (success : validateDemandSchedule demand raw = .ok schedule) :
    schedule.Ordered := by
  unfold validateDemandSchedule at success
  split at success
  · simp only [validateFixedSchedule, bind_eq_ok] at success
    obtain ⟨_, -, _, -, _, -, _, -, _, -, _, -, _, -, same⟩ := success
    cases same
    trivial
  · simp only [validateScriptedSchedule, bind_eq_ok] at success
    obtain ⟨_, -, _, -, ticks, -, _, -, _, -, _, checked, same⟩ := success
    cases same
    exact (checkScripted_ordered checked).1
  all_goals cases success

/-- The demands of an accepted scene have ordered scripts, its agents distinct ids. -/
theorem validate_schedules {raw : RawSl1Scene} {scene : Sl1Scene}
    (success : validate raw = .ok scene) :
    (∀ demand ∈ scene.demand, demand.spawnSchedule.Ordered) ∧
      (scene.agents.map (·.id)).Nodup := by
  simp only [validate, bind_eq_ok] at success
  obtain ⟨_, -, things, -, places, -, links, -, transforms, -, demand, demandRead, pressure, -,
    objectives, -, failures, -, victories, -, observability, -, agents, agentsRead, milestones, -,
    same⟩ := success
  cases same
  constructor
  · intro one member
    obtain ⟨source, -, read⟩ := (catalog_sound demandRead).readFrom member
    simp only [validateDemand, bind_eq_ok] at read
    obtain ⟨_, -, _, -, _, -, _, -, schedule, scheduled, _, -, _, -, _, -, _, -, same⟩ := read
    cases same
    exact validateDemandSchedule_ordered scheduled
  · exact Increasing.distinct (catalog_sound agentsRead).increasing

end Validation

namespace Demand

/-- Over an ordered script the walk fires on a listed tick and leaves the cursor at
the first later one. -/
theorem scriptedAdvance_eq (now : Nat) (script : List Nat) (ordered : script.Pairwise (· < ·))
    (cursor : Nat) : ((scriptedAdvance now script cursor).1 = true ↔ now ∈ script) ∧
      ∃ passed, (scriptedAdvance now script cursor).2 = cursor + passed ∧
        ∀ later, now < later → (later ∈ script.drop passed ↔ later ∈ script) := by
  induction script generalizing cursor with
  | nil => exact ⟨by simp [scriptedAdvance], 0, rfl, by simp⟩
  | cons candidate rest ih =>
    obtain ⟨above, ordered⟩ := List.pairwise_cons.mp ordered
    unfold scriptedAdvance
    by_cases due : candidate = now
    · subst due
      refine ⟨by simp, 1, by simp, fun later after => ?_⟩
      simp [Nat.ne_of_gt after]
    · by_cases past : candidate < now
      · obtain ⟨fires, passed, moved, kept⟩ := ih ordered (cursor + 1)
        simp only [due, past, if_true, if_false]
        refine ⟨by simp [fires, Ne.symm due], passed + 1, by omega, fun later after => ?_⟩
        have different : later ≠ candidate := by omega
        simp [kept later after, different]
      · simp only [due, past, if_false]
        refine ⟨?_, 0, rfl, fun later _ => Iff.rfl⟩
        have absent : now ∉ rest := fun listed => by
          have := above now listed
          omega
        simp [absent, Ne.symm due]

/-- From `now` on the queue fires on the ticks of its schedule. -/
def Follows (schedule : Sl1DemandSchedule) (now : Nat) (queue : Sl1DemandRuntime) : Prop :=
  match schedule with
  | .fixed _ _ => True
  | .scripted ticks => ∀ later, now < later →
      (later ∈ ticks.drop queue.scriptedCursor ↔ later ∈ ticks)

variable {schedule : Sl1DemandSchedule} {now next : Nat} {queue other : Sl1DemandRuntime}

theorem Follows.start (schedule : Sl1DemandSchedule) : Follows schedule 0 {} := by
  cases schedule with
  | fixed => trivial
  | scripted ticks => exact fun later _ => by simp

/-- A schedule that is not looked at is not lost. -/
theorem Follows.later (follows : Follows schedule now queue) (after : now ≤ next) :
    Follows schedule next queue := by
  cases schedule with
  | fixed => trivial
  | scripted ticks => exact fun last beyond => follows last (by omega)

theorem Follows.of_cursor (follows : Follows schedule now queue)
    (same : other.scriptedCursor = queue.scriptedCursor) : Follows schedule now other := by
  cases schedule with
  | fixed => trivial
  | scripted ticks => exact fun last beyond => same ▸ follows last beyond

theorem Follows.shouldSpawn_iff (follows : Follows schedule now queue) (ordered : schedule.Ordered)
    (after : now < next) : (shouldSpawn schedule queue next).1 = true ↔ schedule.Names next := by
  have started : next ≠ 0 := by omega
  cases schedule with
  | fixed everyTicks startTick =>
    simp [shouldSpawn, started, Sl1DemandSchedule.Names, Nat.dvd_iff_mod_eq_zero]
  | scripted ticks =>
    have walk := (scriptedAdvance_eq next (ticks.drop queue.scriptedCursor) (List.Pairwise.drop ordered)
      queue.scriptedCursor).1
    simpa [shouldSpawn, started, Sl1DemandSchedule.Names] using walk.trans (follows next after)

theorem Follows.advance (follows : Follows schedule now queue) (ordered : schedule.Ordered)
    (after : now < next) : Follows schedule next (shouldSpawn schedule queue next).2 := by
  have started : next ≠ 0 := by omega
  cases schedule with
  | fixed => trivial
  | scripted ticks =>
    obtain ⟨passed, moved, kept⟩ := (scriptedAdvance_eq next (ticks.drop queue.scriptedCursor) (List.Pairwise.drop ordered)
      queue.scriptedCursor).2
    intro last beyond
    have reach := (kept last beyond).trans (follows last (by omega))
    simpa [shouldSpawn, started, moved, List.drop_drop] using reach

end Demand

/-- The tick from which a demand is no longer paused; 0 without a pause. -/
def Sl1RuntimeState.pauseUntil (runtime : Sl1RuntimeState) (id : String) : Nat :=
  runtime.agentDemandPauses.getD id 0

namespace Demand

/-- Whether `run_demand` asks for instances: no pause holds and the schedule fires. -/
def wants (demand : Sl1Demand) (now : Nat) (runtime : Sl1RuntimeState) : Bool :=
  decide (runtime.pauseUntil demand.id ≤ now) &&
    (shouldSpawn demand.spawnSchedule (runtime.demandRuntime demand.id) now).1

/-- The instances a wanted spawn adds to a backlog: as many as asked for, up to the cap. -/
def joining (demand : Sl1Demand) (pressure : Sl1PressureRuntime) (queue : Sl1DemandRuntime) : Nat :=
  min (Pressure.effectiveSpawnCount pressure demand.id)
    (maxDemandOutstanding - queue.pending.length)

variable {demand : Sl1Demand} {now : Nat} {frame : Frame} {queue : Sl1DemandRuntime}

private theorem spawnMany_size (want : Nat) (queue : Sl1DemandRuntime) :
    (spawnMany demand now want queue).1.scriptedCursor = queue.scriptedCursor ∧
      (spawnMany demand now want queue).1.pending.length =
        queue.pending.length + min want (maxDemandOutstanding - queue.pending.length) := by
  induction want generalizing queue with
  | zero => simp [spawnMany]
  | succ want ih =>
    unfold spawnMany
    by_cases full : maxDemandOutstanding ≤ queue.pending.length
    · rw [if_pos full, Nat.sub_eq_zero_of_le full]
      split <;> simp
    · obtain ⟨cursor, size⟩ := ih (spawnOne demand now queue)
      have one : (spawnOne demand now queue).pending.length = queue.pending.length + 1 := by
        simp [spawnOne]
      rw [if_neg full]
      refine ⟨cursor, ?_⟩
      rw [one] at size
      omega

private theorem spawnScheduled_book (now : Nat) (held : (frame.book demand.id).queue = some queue) :
    ∃ next, (spawnScheduled demand now frame).book demand.id =
        { frame.book demand.id with
          queue := some next
          spawned := frame.spawned demand.id +
            if (shouldSpawn demand.spawnSchedule queue now).1 then joining demand frame.runtime.pressure queue else 0 } ∧
      next.scriptedCursor = (shouldSpawn demand.spawnSchedule queue now).2.scriptedCursor := by
  obtain ⟨cursor, advanced⟩ := shouldSpawn_queue demand.spawnSchedule queue now
  unfold spawnScheduled joining
  rw [demandRuntime_of_some held]
  generalize shouldSpawn demand.spawnSchedule queue now = decision at advanced ⊢
  obtain ⟨fires, scheduled⟩ := decision
  simp only at advanced
  cases fires with
  | false => exact ⟨scheduled, storeDemand_book held scheduled, rfl⟩
  | true =>
    simp only [not_true, if_false, if_true]
    obtain ⟨kept, size⟩ := spawnMany_size
      (Pressure.effectiveSpawnCount frame.runtime.pressure demand.id) scheduled
    generalize spawnMany demand now _ _ = outcome at kept size ⊢
    obtain ⟨spawned, overflowed⟩ := outcome
    simp only at kept size ⊢
    have backlog : scheduled.pending = queue.pending := by rw [advanced]
    rw [backlog] at size
    rw [backlog]
    have added : (spawned.pending.drop queue.pending.length).length =
        min (Pressure.effectiveSpawnCount frame.runtime.pressure demand.id)
          (maxDemandOutstanding - queue.pending.length) := by
      rw [List.length_drop]
      omega
    have entered : ((frame.modify (·.storeDemand demand.id spawned)).enqueue
        ((spawned.pending.drop queue.pending.length).map
          fun one => ⟨now, demand.id, one.sequence⟩)).book demand.id = _ :=
      enqueue_book _
    rw [storeDemand_book held, added] at entered
    refine ⟨spawned, ?_, kept⟩
    cases overflowed with
    | false => exact entered
    | true => exact warnOverflow_book.trans entered

theorem spawn_paused (paused : now < frame.runtime.pauseUntil demand.id) :
    spawn demand now frame = frame := by
  unfold Sl1RuntimeState.pauseUntil at paused
  rw [Std.ExtTreeMap.getD_eq_getD_getElem?] at paused
  unfold spawn
  cases pause : frame.runtime.agentDemandPauses[demand.id]? with
  | none => simp [pause] at paused
  | some pauseUntil =>
    rw [pause] at paused
    exact if_pos paused

/-- Without a pause in force the schedule is followed, a stale pause forgotten. -/
theorem spawn_unpaused (free : frame.runtime.pauseUntil demand.id ≤ now) :
    ∃ pauses, (pauses = frame.runtime.agentDemandPauses ∨
        pauses = frame.runtime.agentDemandPauses.erase demand.id) ∧
      spawn demand now frame = spawnScheduled demand now (frame.modify fun runtime =>
        { runtime with agentDemandPauses := pauses }) := by
  unfold Sl1RuntimeState.pauseUntil at free
  rw [Std.ExtTreeMap.getD_eq_getD_getElem?] at free
  unfold spawn
  cases pause : frame.runtime.agentDemandPauses[demand.id]? with
  | none => exact ⟨_, .inl rfl, rfl⟩
  | some pauseUntil =>
    rw [pause] at free
    exact ⟨_, .inr rfl, if_neg (Nat.not_lt.mpr free)⟩

private theorem spawn_turn (now : Nat) (held : (frame.book demand.id).queue = some queue) :
    ∃ next, ((spawn demand now frame).book demand.id).queue = some next ∧
      (spawn demand now frame).spawned demand.id = frame.spawned demand.id +
        (if wants demand now frame.runtime then joining demand frame.runtime.pressure queue else 0) ∧
      next.scriptedCursor = if now < frame.runtime.pauseUntil demand.id then queue.scriptedCursor
        else (shouldSpawn demand.spawnSchedule queue now).2.scriptedCursor := by
  have current := demandRuntime_of_some held
  by_cases paused : now < frame.runtime.pauseUntil demand.id
  · have unwanted : wants demand now frame.runtime = false := by
      simp [wants, paused]
    rw [spawn_paused paused, unwanted, if_pos paused]
    exact ⟨queue, held, rfl, rfl⟩
  · have free := Nat.le_of_not_lt paused
    have wanted : wants demand now frame.runtime =
        (shouldSpawn demand.spawnSchedule queue now).1 := by
      simp [wants, free, current]
    obtain ⟨pauses, -, spawned⟩ := spawn_unpaused free
    have same : ((frame.modify fun runtime =>
        { runtime with agentDemandPauses := pauses }).book demand.id).queue = some queue := held
    obtain ⟨next, booked, cursor⟩ := spawnScheduled_book now same
    rw [spawned, wanted, if_neg paused]
    exact ⟨next, congrArg DemandBook.queue booked, congrArg DemandBook.spawned booked, cursor⟩

/-- Only pruning touches the pauses. -/
theorem pauses_kept (demand : Sl1Demand) (now : Nat) :
    Keeps demand now fun frame : Frame => frame.runtime.agentDemandPauses where
  stored _ _ := rfl
  entered _ _ := rfl
  overflowed _ := rfl
  dropped _ _ := rfl
  served _ _ := rfl

private theorem spawnScheduled_pauses (demand : Sl1Demand) (now : Nat) (frame : Frame) :
    (spawnScheduled demand now frame).runtime.agentDemandPauses =
      frame.runtime.agentDemandPauses :=
  spawnScheduled_keeps frame (pauses_kept demand now)

private theorem spawn_paused_iff (demand : Sl1Demand) (frame : Frame) (id : String) {later : Nat}
    (after : now ≤ later) : later < (spawn demand now frame).runtime.pauseUntil id ↔
      later < frame.runtime.pauseUntil id := by
  by_cases paused : now < frame.runtime.pauseUntil demand.id
  · rw [spawn_paused paused]
  · obtain ⟨pauses, same | erased, spawned⟩ := spawn_unpaused (Nat.le_of_not_lt paused)
    · rw [spawned, Sl1RuntimeState.pauseUntil, spawnScheduled_pauses, same]
      rfl
    · rw [spawned, Sl1RuntimeState.pauseUntil, spawnScheduled_pauses, erased, Frame.modify_runtime,
        Std.ExtTreeMap.getD_erase]
      by_cases own : demand.id = id
      · subst own
        simp only [Std.compare_self, if_true]
        omega
      · simp [own, Sl1RuntimeState.pauseUntil]

/-- A turn only forgets pauses that no longer hold. -/
theorem serve_paused_iff (demand : Sl1Demand) (frame : Frame) (id : String) {later : Nat}
    (after : now ≤ later) : later < (serve demand now frame).runtime.pauseUntil id ↔
      later < frame.runtime.pauseUntil id := by
  unfold serve
  split
  · have kept : (resetOverflow demand (fulfill demand now (drop demand now
        (spawn demand now frame)))).runtime.agentDemandPauses =
          (spawn demand now frame).runtime.agentDemandPauses :=
      settle_keeps _ (pauses_kept demand now)
    rw [Sl1RuntimeState.pauseUntil, kept]
    exact spawn_paused_iff demand frame id after
  · rfl

/-- A demand's turn adds what it wants to its queue and moves its cursor unless it
is paused. -/
theorem serve_turn (now : Nat) (held : (frame.book demand.id).queue = some queue) :
    (serve demand now frame).spawned demand.id = frame.spawned demand.id +
        (if wants demand now frame.runtime then joining demand frame.runtime.pressure queue else 0) ∧
      ∃ next, ((serve demand now frame).book demand.id).queue = some next ∧
        next.scriptedCursor = if now < frame.runtime.pauseUntil demand.id then queue.scriptedCursor
          else (shouldSpawn demand.spawnSchedule queue now).2.scriptedCursor := by
  obtain ⟨first, present, spawned, cursor⟩ := spawn_turn now held
  have dropped : (drop demand now (spawn demand now frame)).book demand.id = _ := drop_book present
  obtain ⟨second, kept, served⟩ : ∃ second : Sl1DemandRuntime,
      second.scriptedCursor = first.scriptedCursor ∧
        ((fulfill demand now (drop demand now (spawn demand now frame))).book demand.id).queue =
          some second ∧
        (fulfill demand now (drop demand now (spawn demand now frame))).spawned demand.id =
          (spawn demand now frame).spawned demand.id := by
    have left := congrArg DemandBook.queue dropped
    have same : (drop demand now (spawn demand now frame)).spawned demand.id = _ :=
      congrArg DemandBook.spawned dropped
    rcases fulfill_book now left with quiet | ⟨front, rest, -, served⟩
    · rw [quiet]
      exact ⟨dropExpired now first, rfl, left, same⟩
    · exact ⟨fulfillFront (dropExpired now first), rfl, congrArg DemandBook.queue served,
        (congrArg DemandBook.spawned served).trans same⟩
  obtain ⟨overflow, reset⟩ := resetOverflow_book served.1
  have declared := contains_of_some held
  have turn : serve demand now frame = resetOverflow demand
      (fulfill demand now (drop demand now (spawn demand now frame))) := if_pos declared
  rw [turn]
  refine ⟨?_, _, congrArg DemandBook.queue reset, kept.trans cursor⟩
  exact (congrArg DemandBook.spawned reset).trans (served.2.trans spawned)

end Demand

end Simetro.Sl1
