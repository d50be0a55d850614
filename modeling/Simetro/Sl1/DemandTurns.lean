import Simetro.Library.ServiceLine
import Simetro.Sl1.DemandThrottles
import Simetro.Sl1.Footprints

/-! A demand's tick as a turn of its waiting line, with the overflow flag and its warnings. -/

namespace Simetro.Sl1

open Simetro.Library Simetro.Protocol

/-- The tick of a `BacklogOverflow` warning of the demand. -/
def SimMessage.overflowTick (id : String) : SimMessage → Option Nat
  | .warning (.sl1Demand demand .backlogOverflow tick _ _ _ _) => if demand = id then some tick else none
  | _ => none

/-- A demand's line and flag, and its part of the transcript. -/
structure DemandDesk where
  pending : List Sl1DemandInstance
  overflow : Bool
  spawned : Nat
  fulfilments : List DemandEntry
  overflows : List Nat

def Frame.desk (frame : Frame) (id : String) : DemandDesk where
  pending := (frame.runtime.demandRuntime id).pending
  overflow := (frame.runtime.demandRuntime id).overflow
  spawned := frame.spawned id
  fulfilments := frame.fulfilments.filter fun entry => entry.demand = id
  overflows := frame.messages.filterMap (SimMessage.overflowTick id)

/-- What the desk shows beside the book. -/
def Frame.deskEntries (frame : Frame) (id : String) : List DemandEntry × List Nat :=
  (frame.fulfilments.filter fun entry => entry.demand = id,
    frame.messages.filterMap (SimMessage.overflowTick id))

theorem Frame.desk_of_book {frame other : Frame} {id : String} (booked : other.book id = frame.book id)
    (entered : other.deskEntries id = frame.deskEntries id) : other.desk id = frame.desk id := by
  have queue : other.runtime.demand[id]? = frame.runtime.demand[id]? := congrArg DemandBook.queue booked
  have runtime : other.runtime.demandRuntime id = frame.runtime.demandRuntime id := by
    simp only [Sl1RuntimeState.demandRuntime, Std.ExtTreeMap.getD_eq_getD_getElem?, queue]
  have spawned : other.spawned id = frame.spawned id := congrArg DemandBook.spawned booked
  change DemandDesk.mk _ _ _ (other.deskEntries id).1 (other.deskEntries id).2 = _
  rw [runtime, spawned, entered]
  rfl

theorem Frame.desk_of_queues {frame other : Frame} (id : String) (same : other.queues = frame.queues) :
    other.desk id = frame.desk id := by
  refine desk_of_book (book_of_queues id same) ?_
  have warnings (current : Frame) : current.messages.filterMap (SimMessage.overflowTick id) =
      current.queues.warnings.filterMap (SimMessage.overflowTick id) := by
    unfold queues
    rw [List.filterMap_filter]
    apply List.filterMap_congr
    intro message _
    cases message with
    | fault | agentReport => rfl
    | warning payload => cases payload <;> rfl
  have fulfilments : other.fulfilments = frame.fulfilments := congrArg Queues.fulfilments same
  unfold deskEntries
  rw [warnings, warnings, same, fulfilments]

theorem Frame.serve_desk (frame : Frame) (entry : DemandEntry) (id : String) :
    (frame.serve entry).desk id = { frame.desk id with
      fulfilments := (frame.desk id).fulfilments ++ if entry.demand = id then [entry] else [] } := by
  by_cases own : entry.demand = id
  · simp [desk, spawned, own]
  · simp [desk, spawned, own]

/-- A wanted instance finds no room. -/
def refuses (want : Nat) (backlog : List Sl1DemandInstance) : Bool :=
  maxDemandOutstanding - backlog.length < want

/-- The desk after the demand's pass. -/
def DemandDesk.turn (desk : DemandDesk) (id : String) (want : Nat) (turn : LineTurn Sl1DemandInstance) :
    DemandDesk where
  pending := turn.left (·.deadlineTick) desk.pending
  overflow := (desk.overflow || refuses want desk.pending) &&
    maxDemandOutstanding ≤ (turn.left (·.deadlineTick) desk.pending).length
  spawned := desk.spawned + turn.joining.length
  fulfilments := desk.fulfilments ++
    (turn.served (·.deadlineTick) desk.pending).map fun one => ⟨turn.now, id, one.sequence⟩
  overflows := desk.overflows ++ if refuses want desk.pending && !desk.overflow then [turn.now] else []

namespace Demand

/-- The target holds every required thing. -/
def inStock (demand : Sl1Demand) (runtime : Sl1RuntimeState) : Bool :=
  match demand.target with
  | .place place => runtime.inventories.contains place &&
      demand.requires.all fun thing => runtime.stock place thing != 0

/-- How many instances `run_demand` asks for. -/
def wanted (demand : Sl1Demand) (now : Nat) (runtime : Sl1RuntimeState) : Nat :=
  if wants demand now runtime then Pressure.effectiveSpawnCount runtime.pressure demand.id else 0

/-- Instances spawned at a tick with the demand's deadline. -/
def Fresh (demand : Sl1Demand) (now : Nat) (one : Sl1DemandInstance) : Prop :=
  one.spawnedAt = now ∧ one.deadlineTick = saturatingAdd u64Max now demand.deadlineTicks

variable {demand : Sl1Demand} {now : Nat} {frame : Frame}

/-- As many instances join as there is room for, and a refusal raises the flag once. -/
theorem spawnMany_joined (want : Nat) (queue : Sl1DemandRuntime) :
    ∃ joined, (∀ one ∈ joined, Fresh demand now one) ∧
      joined.length = min want (maxDemandOutstanding - queue.pending.length) ∧
      (spawnMany demand now want queue).1.pending = queue.pending ++ joined ∧
      (spawnMany demand now want queue).1.overflow = (queue.overflow || refuses want queue.pending) ∧
      (spawnMany demand now want queue).2 = (refuses want queue.pending && !queue.overflow) := by
  induction want generalizing queue with
  | zero => exact ⟨[], by simp, by simp, by simp [spawnMany], by simp [spawnMany, refuses],
      by simp [spawnMany, refuses]⟩
  | succ want ih =>
    unfold spawnMany
    by_cases full : maxDemandOutstanding ≤ queue.pending.length
    · have refused : refuses (want + 1) queue.pending = true := by
        simp [refuses, Nat.sub_eq_zero_of_le full]
      rw [if_pos full, Nat.sub_eq_zero_of_le full, refused]
      refine ⟨[], by simp, by simp, ?_⟩
      cases raised : queue.overflow with
      | true => simp [raised]
      | false => simp
    · obtain ⟨joined, fresh, size, pending, flag, warned⟩ := ih (spawnOne demand now queue)
      have grown : (spawnOne demand now queue).pending.length = queue.pending.length + 1 := by
        simp [spawnOne]
      have later : refuses want (spawnOne demand now queue).pending =
          refuses (want + 1) queue.pending := by
        unfold refuses
        rw [grown, decide_eq_decide]
        omega
      rw [if_neg full]
      refine ⟨⟨queue.nextSequence, now, saturatingAdd u64Max now demand.deadlineTicks⟩ :: joined,
        ?_, ?_, ?_, ?_, ?_⟩
      · intro one member
        rcases List.mem_cons.mp member with rfl | listed
        · exact ⟨rfl, rfl⟩
        · exact fresh one listed
      · rw [List.length_cons, size, grown]
        omega
      · rw [pending]
        simp [spawnOne]
      · rw [flag, later]
        rfl
      · rw [warned, later]
        rfl

section Desk

variable (declared : frame.runtime.demand.contains demand.id = true)

theorem storeDemand_declared (frame : Frame) (id other : String) (next : Sl1DemandRuntime) :
    (frame.modify (·.storeDemand id next)).runtime.demand.contains other =
      frame.runtime.demand.contains other :=
  Std.ExtTreeMap.contains_modify

private theorem declared_kept (id : String) :
    Keeps demand now fun frame : Frame => frame.runtime.demand.contains id where
  stored frame _ := storeDemand_declared frame demand.id id _
  entered _ _ := rfl
  overflowed _ := rfl
  dropped _ _ := rfl
  served _ _ := rfl

theorem spawn_declared (frame : Frame) (id : String) :
    (spawn demand now frame).runtime.demand.contains id = frame.runtime.demand.contains id :=
  spawn_keeps frame (declared_kept id) fun _ => rfl

theorem fulfill_declared (frame : Frame) (id : String) :
    (fulfill demand now frame).runtime.demand.contains id = frame.runtime.demand.contains id :=
  fulfill_keeps frame (declared_kept id)

theorem warnDropped_desk (frame : Frame) (one : Sl1DemandInstance) (id : String) :
    (warnDropped demand now frame one).desk id = frame.desk id := by
  simp [Frame.desk, Frame.spawned, warnDropped, SimMessage.overflowTick]

theorem enqueue_desk (frame : Frame) (instances : List Sl1DemandInstance) :
    (frame.enqueue (instances.map fun one => ⟨now, demand.id, one.sequence⟩)).desk demand.id =
      { frame.desk demand.id with
        spawned := (frame.desk demand.id).spawned + instances.length } := by
  have added := congrArg DemandBook.spawned
    (@enqueue_book demand now frame instances)
  unfold Frame.desk
  exact congrArg (DemandDesk.mk _ _ · _ _) added

theorem warnOverflow_desk (frame : Frame) :
    (warnOverflow demand now frame).desk demand.id =
      { frame.desk demand.id with overflows := (frame.desk demand.id).overflows ++ [now] } := by
  simp [Frame.desk, Frame.spawned, warnOverflow, SimMessage.overflowTick]

include declared

theorem storeDemand_desk (next : Sl1DemandRuntime) :
    (frame.modify (·.storeDemand demand.id next)).desk demand.id =
      { frame.desk demand.id with pending := next.pending, overflow := next.overflow } := by
  have stored : (frame.runtime.storeDemand demand.id next).demandRuntime demand.id = next := by
    rw [Std.ExtTreeMap.contains_eq_isSome_getElem?] at declared
    obtain ⟨held, entry⟩ := Option.isSome_iff_exists.mp declared
    simp [Sl1RuntimeState.demandRuntime, Sl1RuntimeState.storeDemand,
      Std.ExtTreeMap.getD_eq_getD_getElem?, entry]
  unfold Frame.desk
  rw [Frame.modify_runtime, stored]
  rfl

/-- The desk once instances joined and a refusal was noted. -/
def joinedDesk (desk : DemandDesk) (now want : Nat) (joined : List Sl1DemandInstance) : DemandDesk :=
  { desk with
    pending := desk.pending ++ joined
    overflow := desk.overflow || refuses want desk.pending
    spawned := desk.spawned + joined.length
    overflows := desk.overflows ++ if refuses want desk.pending && !desk.overflow then [now] else [] }

/-- Instances may join, as many as are asked for and as there is room for. -/
def Joins (demand : Sl1Demand) (now want : Nat) (before after : DemandDesk) : Prop :=
  ∃ joined, (∀ one ∈ joined, Fresh demand now one) ∧
    joined.length = min want (maxDemandOutstanding - before.pending.length) ∧
    after = joinedDesk before now want joined

omit declared in
theorem Joins.none (desk : DemandDesk) : Joins demand now 0 desk desk :=
  ⟨[], by simp, by simp, by simp [joinedDesk, refuses]⟩

theorem spawnScheduled_desk {want : Nat}
    (asks : want = if (shouldSpawn demand.spawnSchedule (frame.runtime.demandRuntime demand.id) now).1
      then Pressure.effectiveSpawnCount frame.runtime.pressure demand.id else 0) :
    Joins demand now want (frame.desk demand.id)
      ((spawnScheduled demand now frame).desk demand.id) := by
  obtain ⟨cursor, advanced⟩ :=
    shouldSpawn_queue demand.spawnSchedule (frame.runtime.demandRuntime demand.id) now
  unfold spawnScheduled
  generalize shouldSpawn demand.spawnSchedule (frame.runtime.demandRuntime demand.id) now =
    decision at asks advanced ⊢
  obtain ⟨fires, queue⟩ := decision
  simp only at advanced asks
  have backlog : queue.pending = (frame.desk demand.id).pending := by
    rw [advanced]
    rfl
  have raised : queue.overflow = (frame.desk demand.id).overflow := by
    rw [advanced]
    rfl
  cases fires with
  | false =>
    have stored := storeDemand_desk declared queue
    rw [backlog, raised] at stored
    subst asks
    exact stored ▸ Joins.none _
  | true =>
    simp only [not_true, if_false, if_true] at asks ⊢
    rw [← asks]
    obtain ⟨joined, fresh, size, pending, flag, warned⟩ :=
      @spawnMany_joined demand now want queue
    generalize spawnMany demand now want queue = outcome at pending flag warned ⊢
    obtain ⟨spawned, overflowed⟩ := outcome
    simp only at pending flag warned ⊢
    have stored := storeDemand_desk declared spawned
    rw [pending, flag, backlog, raised] at stored
    rw [backlog, raised] at warned
    refine ⟨joined, fresh, backlog ▸ size, ?_⟩
    have added : joinedDesk (frame.desk demand.id) now want joined =
        { frame.desk demand.id with
          pending := (frame.desk demand.id).pending ++ joined
          overflow := (frame.desk demand.id).overflow || refuses want (frame.desk demand.id).pending
          spawned := (frame.desk demand.id).spawned + joined.length
          overflows := (frame.desk demand.id).overflows ++ if overflowed then [now] else [] } := by
      rw [warned]
      rfl
    have entered := @enqueue_desk demand now
      (frame.modify (·.storeDemand demand.id spawned)) joined
    rw [stored] at entered
    rw [added, pending, List.drop_left]
    cases overflowed with
    | false => exact entered.trans (by simp)
    | true => exact (warnOverflow_desk _).trans (by rw [entered]; rfl)

/-- A paused demand asks for nothing; else its schedule decides. -/
theorem spawn_desk : Joins demand now (wanted demand now frame.runtime) (frame.desk demand.id)
    ((spawn demand now frame).desk demand.id) := by
  by_cases paused : now < frame.runtime.pauseUntil demand.id
  · have none : wanted demand now frame.runtime = 0 := by simp [wanted, wants, paused]
    rw [spawn_paused paused, none]
    exact Joins.none _
  · obtain ⟨pauses, -, spawned⟩ := spawn_unpaused (Nat.le_of_not_lt paused)
    rw [spawned]
    have asks : wanted demand now frame.runtime =
        if (shouldSpawn demand.spawnSchedule (frame.runtime.demandRuntime demand.id) now).1
        then Pressure.effectiveSpawnCount frame.runtime.pressure demand.id else 0 := by
      simp [wanted, wants, Nat.le_of_not_lt paused]
    exact @spawnScheduled_desk _ _ (frame.modify fun runtime =>
      { runtime with agentDemandPauses := pauses }) declared _ asks

theorem drop_desk : (drop demand now frame).desk demand.id =
    { frame.desk demand.id with
      pending := (frame.desk demand.id).pending.dropWhile (isExpired now) } := by
  unfold drop
  exact (foldl_keeps (fun frame : Frame => frame.desk demand.id)
    (fun frame one _ => warnDropped_desk frame one demand.id) _).trans (storeDemand_desk declared _)

/-- The front is served if anyone waits and the target is in stock. -/
theorem fulfill_desk : (fulfill demand now frame).desk demand.id =
    if inStock demand frame.runtime then
      { frame.desk demand.id with
        pending := (frame.desk demand.id).pending.tail
        fulfilments := (frame.desk demand.id).fulfilments ++
          ((frame.desk demand.id).pending.take 1).map fun one => ⟨now, demand.id, one.sequence⟩ }
    else frame.desk demand.id := by
  have met : demandRequirementsMet demand frame.runtime =
      (inStock demand frame.runtime && !(frame.desk demand.id).pending.isEmpty) := by
    simp only [demandRequirementsMet, inStock, Frame.desk, Bool.and_assoc]
    rw [Bool.and_comm (!_)]
  unfold fulfill
  rw [met]
  cases inStock demand frame.runtime with
  | false => rfl
  | true =>
    cases waiting : (frame.desk demand.id).pending with
    | nil =>
      change frame.desk demand.id = DemandDesk.mk _ _ _ _ _
      rw [List.take_nil, List.map_nil, List.append_nil, List.tail_nil, ← waiting]
    | cons front rest =>
      have queued : (frame.runtime.demandRuntime demand.id).pending = front :: rest := waiting
      simp only [queued]
      change ((frame.modify (·.storeDemand demand.id _)).serve _).desk demand.id = _
      rw [Frame.serve_desk, storeDemand_desk declared]
      simp [fulfillFront, queued]
      rfl

theorem resetOverflow_desk : (resetOverflow demand frame).desk demand.id =
    { frame.desk demand.id with
      overflow := (frame.desk demand.id).overflow &&
        maxDemandOutstanding ≤ (frame.desk demand.id).pending.length } := by
  have rearmed : (rearm (frame.runtime.demandRuntime demand.id)).pending = (frame.desk demand.id).pending ∧
      (rearm (frame.runtime.demandRuntime demand.id)).overflow = ((frame.desk demand.id).overflow &&
        maxDemandOutstanding ≤ (frame.desk demand.id).pending.length) := by
    unfold rearm Frame.desk
    generalize frame.runtime.demandRuntime demand.id = queue
    cases raised : queue.overflow with
    | false => simp [raised]
    | true =>
      by_cases room : queue.pending.length < maxDemandOutstanding
      · simp [room]
      · simp [raised, room, Nat.le_of_not_lt room]
  refine (storeDemand_desk declared _).trans ?_
  rw [rearmed.1, rearmed.2]

omit declared in
theorem inStock_of_inventories {runtime other : Sl1RuntimeState}
    (same : other.inventories = runtime.inventories) :
    inStock demand other = inStock demand runtime := by
  unfold inStock Sl1RuntimeState.stock
  rw [same]

omit declared in
theorem afterDrop_inventories (demand : Sl1Demand) (now : Nat) (frame : Frame) :
    (drop demand now (spawn demand now frame)).runtime.inventories = frame.runtime.inventories := by
  have kept : Keeps demand now fun frame : Frame => frame.runtime.inventories :=
    ⟨fun _ _ => rfl, fun _ _ => rfl, fun _ => rfl, fun _ _ => rfl, fun _ _ => rfl⟩
  exact (drop_keeps _ kept).trans (spawn_keeps frame kept fun _ => rfl)

/-- A demand's turn is a turn of its desk: instances may join, the overdue ones leave and then
the front is served. -/
theorem serve_desk : ∃ turn : LineTurn Sl1DemandInstance, turn.now = now ∧
    (∀ one ∈ turn.joining, Fresh demand now one) ∧
    turn.joining.length = min (wanted demand now frame.runtime)
      (maxDemandOutstanding - (frame.desk demand.id).pending.length) ∧
    turn.isOpen = inStock demand (drop demand now (spawn demand now frame)).runtime ∧
    ((drop demand now (spawn demand now frame)).desk demand.id).pending =
      turn.waiting (·.deadlineTick) (frame.desk demand.id).pending ∧
    (serve demand now frame).desk demand.id =
      (frame.desk demand.id).turn demand.id (wanted demand now frame.runtime) turn := by
  obtain ⟨joined, fresh, size, spawned⟩ := @spawn_desk _ now _ declared
  have stocked := @inStock_of_inventories demand _ _ (afterDrop_inventories demand now frame)
  have here : (spawn demand now frame).runtime.demand.contains demand.id = true :=
    (spawn_declared frame demand.id).trans declared
  have dropped := @drop_desk _ now _ here
  have stillDeclared : (drop demand now (spawn demand now frame)).runtime.demand.contains demand.id =
      true := by
    rw [drop_runtime]
    exact (storeDemand_declared _ demand.id demand.id _).trans here
  have fulfilled := @fulfill_desk _ now _ stillDeclared
  have reset := @resetOverflow_desk demand (fulfill demand now (drop demand now (spawn demand now frame)))
    ((fulfill_declared _ demand.id).trans stillDeclared)
  have own : serve demand now frame = resetOverflow demand
      (fulfill demand now (drop demand now (spawn demand now frame))) := if_pos declared
  refine ⟨⟨now, joined, inStock demand frame.runtime⟩, rfl, fresh, size, stocked.symm, ?_, ?_⟩
  · rw [dropped, spawned]
    rfl
  · rw [own, reset, fulfilled, stocked, dropped, spawned]
    unfold DemandDesk.turn LineTurn.left LineTurn.served
    cases inStock demand frame.runtime with
    | false =>
      -- nobody is served
      exact congrArg (DemandDesk.mk _ _ _ · _) (List.append_nil _).symm
    | true => rfl

end Desk

private theorem deskEntries_kept {id : String} (other : demand.id ≠ id) :
    Keeps demand now (Frame.deskEntries · id) where
  stored _ _ := rfl
  entered _ _ := rfl
  overflowed _ := by simp [Frame.deskEntries, warnOverflow, SimMessage.overflowTick, other]
  dropped _ _ := by simp [Frame.deskEntries, warnDropped, SimMessage.overflowTick]
  served _ _ := by simp [Frame.deskEntries, other]

/-- Another demand's turn leaves the desk alone. -/
theorem serve_desk_other {id : String} (other : demand.id ≠ id) (frame : Frame) :
    (serve demand now frame).desk id = frame.desk id :=
  Frame.desk_of_book (serve_book_other other frame)
    (serve_keeps frame (deskEntries_kept other) fun _ => rfl)

end Demand

end Simetro.Sl1
