import Simetro.Library.TicketLine
import Simetro.Sl1.StoreInvariants

/-! Every demand's queue is a ticket line: what spawned waits, was dropped with one
warning, or was fulfilled once. -/

namespace Simetro.Sl1

open Simetro.Library Simetro.Protocol

def Sl1DemandInstance.ticket (one : Sl1DemandInstance) : Ticket := ⟨one.sequence, one.deadlineTick⟩

/-- The instance a `Dropped` warning of the demand names. -/
def SimMessage.droppedSequence (id : String) : SimMessage → Option Nat
  | .warning (.sl1Demand demand .dropped _ sequence _ _ _) => if demand = id then sequence else none
  | _ => none

/-- One demand's queue and its part of the transcript. -/
structure DemandBook where
  queue : Option Sl1DemandRuntime
  spawned : Nat
  dropped : List Nat
  fulfilled : List Nat

namespace Frame

variable (frame : Frame) (id : String)

/-- Instances the demand spawned so far. -/
def spawned : Nat := frame.spawns.countP fun entry => entry.demand = id

/-- Sequence numbers of the demand's `Dropped` warnings, in order. -/
def dropped : List Nat := frame.messages.filterMap (SimMessage.droppedSequence id)

/-- Sequence numbers of the demand's fulfilled instances, in order. -/
def fulfilled : List Nat :=
  (frame.fulfilments.filter fun entry => entry.demand = id).map (·.sequence)

def book : DemandBook := ⟨frame.runtime.demand[id]?, frame.spawned id, frame.dropped id,
  frame.fulfilled id⟩

theorem dropped_of_queues :
    frame.dropped id = frame.queues.warnings.filterMap (SimMessage.droppedSequence id) := by
  unfold dropped queues
  rw [List.filterMap_filter]
  apply List.filterMap_congr
  intro message _
  cases message with
  | fault | agentReport => rfl
  | warning payload => cases payload <;> rfl

theorem book_of_queues {frame other : Frame} (same : other.queues = frame.queues) :
    other.book id = frame.book id := by
  have demand : other.runtime.demand = frame.runtime.demand := congrArg Queues.demand same
  have spawns : other.spawns = frame.spawns := congrArg Queues.spawns same
  have fulfilments : other.fulfilments = frame.fulfilments := congrArg Queues.fulfilments same
  simp only [book, spawned, fulfilled, dropped_of_queues, demand, spawns, fulfilments, same]

end Frame

/-- The ticket line a queue and its transcript stand for. -/
def Sl1DemandRuntime.line (queue : Sl1DemandRuntime) (spawned : Nat) (dropped fulfilled : List Nat) :
    TicketLine := ⟨spawned, queue.pending.map (·.ticket), dropped, fulfilled⟩

/-- The queue's counters are those of its line, the line is sound, and no deadline
is later than the one a spawn at `now` would get. -/
structure Accounted (demand : Sl1Demand) (now : Nat) (queue : Sl1DemandRuntime) (spawned : Nat)
    (dropped fulfilled : List Nat) : Prop where
  next : queue.nextSequence = spawned
  droppedCount : queue.droppedCount = dropped.length
  fulfilledCount : queue.fulfilledCount = fulfilled.length
  sound : (queue.line spawned dropped fulfilled).Sound maxDemandOutstanding
  latest : ∀ one ∈ queue.pending, one.deadlineTick ≤ saturatingAdd u64Max now demand.deadlineTicks

section Queue

variable {demand : Sl1Demand} {now : Nat} {queue : Sl1DemandRuntime} {spawned : Nat}
  {dropped fulfilled : List Nat}

namespace Accounted

variable (accounted : Accounted demand now queue spawned dropped fulfilled)
include accounted

theorem later {next : Nat} (after : now ≤ next) :
    Accounted demand next queue spawned dropped fulfilled :=
  { accounted with
    latest := fun one waits => Nat.le_trans (accounted.latest one waits)
      (saturatingAdd_mono after (Nat.le_refl _)) }

theorem flags (scriptedCursor : Nat) (overflow : Bool) : Accounted demand now
    { queue with scriptedCursor, overflow } spawned dropped fulfilled :=
  ⟨accounted.next, accounted.droppedCount, accounted.fulfilledCount, accounted.sound,
    accounted.latest⟩

theorem spawnOne (room : queue.pending.length < maxDemandOutstanding)
    (fits : spawned + 1 ≤ u64Max) : Accounted demand now (Demand.spawnOne demand now queue)
      (spawned + 1) dropped fulfilled := by
  have issued : (Demand.spawnOne demand now queue).line (spawned + 1) dropped fulfilled =
      (queue.line spawned dropped fulfilled).issue
        (saturatingAdd u64Max now demand.deadlineTicks) := by
    simp [Demand.spawnOne, Sl1DemandRuntime.line, TicketLine.issue, Sl1DemandInstance.ticket,
      accounted.next]
  refine ⟨?_, accounted.droppedCount, accounted.fulfilledCount, ?_, ?_⟩
  · change saturatingAdd u64Max queue.nextSequence 1 = spawned + 1
    rw [accounted.next, saturatingAdd_of_le fits]
  · rw [issued]
    refine accounted.sound.issue ?_ ?_
    · simpa [Sl1DemandRuntime.line] using room
    · intro ticket waits
      obtain ⟨one, pending, rfl⟩ := List.mem_map.mp waits
      exact accounted.latest one pending
  · intro one waits
    rcases List.mem_append.mp waits with earlier | new
    · exact accounted.latest one earlier
    · rw [List.mem_singleton.mp new]

theorem spawned_eq :
    spawned = dropped.length + fulfilled.length + queue.pending.length := by
  simpa [Sl1DemandRuntime.line, TicketLine.closed] using accounted.sound.issued

end Accounted

/-- Instances join at the back, up to the cap. -/
theorem spawnMany_accounted (want : Nat) (accounted : spawned ≤ u64Max →
      Accounted demand now queue spawned dropped fulfilled) :
    ∃ joined, (Demand.spawnMany demand now want queue).1.pending = queue.pending ++ joined ∧
      (spawned + joined.length ≤ u64Max →
        Accounted demand now (Demand.spawnMany demand now want queue).1 (spawned + joined.length)
          dropped fulfilled) := by
  induction want generalizing queue spawned with
  | zero => exact ⟨[], by simp [Demand.spawnMany], accounted⟩
  | succ want ih =>
    unfold Demand.spawnMany
    split
    · split
      · exact ⟨[], by simp, accounted⟩
      · exact ⟨[], by simp, fun fits => (accounted fits).flags _ _⟩
    · rename_i room
      have one : spawned + 1 ≤ u64Max → Accounted demand now (Demand.spawnOne demand now queue)
          (spawned + 1) dropped fulfilled := fun fits =>
        (accounted (by omega)).spawnOne (Nat.lt_of_not_le room) fits
      obtain ⟨joined, pending, final⟩ := ih one
      refine ⟨⟨queue.nextSequence, now, saturatingAdd u64Max now demand.deadlineTicks⟩ :: joined,
        ?_, fun fits => ?_⟩
      · rw [pending]
        simp [Demand.spawnOne]
      · rw [List.length_cons] at fits ⊢
        have same : spawned + (joined.length + 1) = spawned + 1 + joined.length := by omega
        exact same ▸ final (by omega)

theorem shouldSpawn_queue (schedule : Sl1DemandSchedule) (queue : Sl1DemandRuntime) (now : Nat) :
    ∃ cursor, (Demand.shouldSpawn schedule queue now).2 =
      { queue with scriptedCursor := cursor } := by
  unfold Demand.shouldSpawn
  split
  · exact ⟨queue.scriptedCursor, rfl⟩
  · split
    · exact ⟨queue.scriptedCursor, rfl⟩
    · exact ⟨_, rfl⟩

theorem foldl_count (instances : List Sl1DemandInstance) {count : Nat}
    (fits : count + instances.length ≤ u64Max) :
    instances.foldl (fun count _ => saturatingAdd u64Max count 1) count =
      count + instances.length := by
  induction instances generalizing count with
  | nil => rfl
  | cons one rest ih =>
    rw [List.length_cons] at fits ⊢
    rw [List.foldl_cons, saturatingAdd_of_le (by omega), ih (by omega)]
    omega

/-- Dropping from the front lets the line's overdue tickets expire. -/
theorem Accounted.drop (accounted : Accounted demand now queue spawned dropped fulfilled)
    (fits : spawned ≤ u64Max) : Accounted demand now (Demand.dropExpired now queue) spawned
      (dropped ++ (queue.pending.takeWhile (Demand.isExpired now)).map (·.sequence)) fulfilled ∧
    ∀ one ∈ (Demand.dropExpired now queue).pending, now ≤ one.deadlineTick := by
  have expired : (Demand.dropExpired now queue).line spawned
      (dropped ++ (queue.pending.takeWhile (Demand.isExpired now)).map (·.sequence)) fulfilled =
      (queue.line spawned dropped fulfilled).expire now := by
    simp only [Sl1DemandRuntime.line, TicketLine.expire, Demand.dropExpired, List.dropWhile_map,
      List.takeWhile_map, List.map_map]
    rfl
  refine ⟨⟨accounted.next, ?_, accounted.fulfilledCount, ?_, ?_⟩, ?_⟩
  · have within : (queue.pending.takeWhile (Demand.isExpired now)).length ≤ queue.pending.length :=
      (List.takeWhile_prefix _).length_le
    have total := accounted.spawned_eq
    change (queue.pending.takeWhile (Demand.isExpired now)).foldl _ queue.droppedCount = _
    rw [accounted.droppedCount, foldl_count _ (by omega), List.length_append, List.length_map]
  · rw [expired]
    exact accounted.sound.expire now
  · intro one waits
    exact accounted.latest one (List.dropWhile_sublist _ |>.subset waits)
  · intro one waits
    have inLine : one.ticket ∈ ((queue.line spawned dropped fulfilled).expire now).waiting := by
      rw [← expired]
      exact List.mem_map_of_mem waits
    exact accounted.sound.expire_due inLine

/-- Fulfilment serves the front of the line. -/
theorem Accounted.fulfill (accounted : Accounted demand now queue spawned dropped fulfilled)
    (fits : spawned ≤ u64Max) {front : Sl1DemandInstance} {rest : List Sl1DemandInstance}
    (waiting : queue.pending = front :: rest) : Accounted demand now (Demand.fulfillFront queue)
      spawned dropped (fulfilled ++ [front.sequence]) := by
  have served : (Demand.fulfillFront queue).line spawned dropped (fulfilled ++ [front.sequence]) =
      (queue.line spawned dropped fulfilled).serve := by
    simp [Sl1DemandRuntime.line, TicketLine.serve, Demand.fulfillFront, waiting,
      Sl1DemandInstance.ticket]
  refine ⟨accounted.next, accounted.droppedCount, ?_, ?_, ?_⟩
  · have total := accounted.spawned_eq
    rw [waiting, List.length_cons] at total
    change saturatingAdd u64Max queue.fulfilledCount 1 = _
    rw [accounted.fulfilledCount, saturatingAdd_of_le (by omega), List.length_append,
      List.length_singleton]
  · rw [served]
    exact accounted.sound.serve
  · intro one waits
    exact accounted.latest one (List.mem_of_mem_tail waits)

end Queue

/-- The book holds a queue that its transcript accounts for, as long as the
demand spawned fewer than 2^64 instances. -/
def DemandBook.Sound (demand : Sl1Demand) (now : Nat) (book : DemandBook) : Prop :=
  ∃ queue, book.queue = some queue ∧ (book.spawned ≤ u64Max →
    Accounted demand now queue book.spawned book.dropped book.fulfilled)

/-- No waiting instance is overdue. -/
def DemandBook.Due (now : Nat) (book : DemandBook) : Prop :=
  book.spawned ≤ u64Max → ∀ queue, book.queue = some queue →
    ∀ one ∈ queue.pending, now ≤ one.deadlineTick

section Books

variable {demand : Sl1Demand} {now : Nat} {frame : Frame} {queue : Sl1DemandRuntime}

theorem demandRuntime_of_some (held : (frame.book demand.id).queue = some queue) :
    frame.runtime.demandRuntime demand.id = queue := by
  have entry : frame.runtime.demand[demand.id]? = some queue := held
  simp [Sl1RuntimeState.demandRuntime, Std.ExtTreeMap.getD_eq_getD_getElem?, entry]

theorem contains_of_some (held : (frame.book demand.id).queue = some queue) :
    frame.runtime.demand.contains demand.id = true := by
  have entry : frame.runtime.demand[demand.id]? = some queue := held
  rw [Std.ExtTreeMap.contains_eq_isSome_getElem?, entry]
  rfl

theorem storeDemand_book (held : (frame.book demand.id).queue = some queue)
    (next : Sl1DemandRuntime) : (frame.modify (·.storeDemand demand.id next)).book demand.id =
      { frame.book demand.id with queue := some next } := by
  have entry : frame.runtime.demand[demand.id]? = some queue := held
  have stored : (frame.runtime.demand.modify demand.id fun _ => next)[demand.id]? = some next := by
    rw [Std.ExtTreeMap.getElem?_modify_self, entry]
    rfl
  change DemandBook.mk _ _ _ _ = DemandBook.mk _ _ _ _
  exact congrArg (DemandBook.mk · _ _ _) stored

theorem enqueue_book (instances : List Sl1DemandInstance) :
    (frame.enqueue (instances.map fun one => ⟨now, demand.id, one.sequence⟩)).book demand.id =
      { frame.book demand.id with spawned := frame.spawned demand.id + instances.length } := by
  have count : (instances.map fun one => DemandEntry.mk now demand.id one.sequence).countP
      (fun entry => decide (entry.demand = demand.id)) = instances.length := by
    rw [List.countP_map]
    simp [Function.comp_def]
  change DemandBook.mk _ _ _ _ = DemandBook.mk _ _ _ _
  simp only [Frame.spawned, Frame.enqueue_spawns, List.countP_append, count]
  rfl

theorem warnOverflow_book :
    (Demand.warnOverflow demand now frame).book demand.id = frame.book demand.id := by
  simp [Frame.book, Frame.dropped, Frame.spawned, Frame.fulfilled, Demand.warnOverflow,
    SimMessage.droppedSequence]

private theorem warnDropped_book (one : Sl1DemandInstance) :
    (Demand.warnDropped demand now frame one).book demand.id =
      { frame.book demand.id with dropped := frame.dropped demand.id ++ [one.sequence] } := by
  simp [Frame.book, Frame.dropped, Frame.spawned, Frame.fulfilled, Demand.warnDropped,
    SimMessage.droppedSequence]

private theorem warnAll_book (gone : List Sl1DemandInstance) (frame : Frame) :
    (gone.foldl (Demand.warnDropped demand now) frame).book demand.id =
      { frame.book demand.id with
        dropped := frame.dropped demand.id ++ gone.map (·.sequence) } := by
  induction gone generalizing frame with
  | nil => simp [Frame.book]
  | cons one rest ih =>
    have first : (Demand.warnDropped demand now frame one).book demand.id = _ :=
      warnDropped_book one
    have dropped : (Demand.warnDropped demand now frame one).dropped demand.id = _ :=
      congrArg DemandBook.dropped first
    rw [List.foldl_cons, ih, first, dropped]
    simp

private theorem serve_book (sequence : Nat) :
    (frame.serve ⟨now, demand.id, sequence⟩).book demand.id =
      { frame.book demand.id with fulfilled := frame.fulfilled demand.id ++ [sequence] } := by
  simp [Frame.book, Frame.dropped, Frame.spawned, Frame.fulfilled]

private theorem spawnScheduled_sound (sound : (frame.book demand.id).Sound demand now) :
    ((Demand.spawnScheduled demand now frame).book demand.id).Sound demand now := by
  obtain ⟨queue, held, accounted⟩ := sound
  obtain ⟨cursor, advanced⟩ := shouldSpawn_queue demand.spawnSchedule queue now
  unfold Demand.spawnScheduled
  rw [demandRuntime_of_some held]
  generalize Demand.shouldSpawn demand.spawnSchedule queue now = decision at advanced ⊢
  obtain ⟨fires, next⟩ := decision
  simp only at advanced
  subst advanced
  cases fires with
  | false =>
    have stored := storeDemand_book held { queue with scriptedCursor := cursor }
    exact stored ▸ ⟨_, rfl, fun fits => (accounted fits).flags _ _⟩
  | true =>
    simp only [not_true, if_false]
    obtain ⟨joined, pending, final⟩ := spawnMany_accounted
      (Pressure.effectiveSpawnCount frame.runtime.pressure demand.id)
      fun fits => (accounted fits).flags cursor queue.overflow
    generalize Demand.spawnMany demand now _ _ = outcome at pending final ⊢
    obtain ⟨spawned, overflowed⟩ := outcome
    simp only at pending final ⊢
    rw [pending, List.drop_left]
    have entered : ((frame.modify (·.storeDemand demand.id spawned)).enqueue
        (joined.map fun one => ⟨now, demand.id, one.sequence⟩)).book demand.id =
        ⟨some spawned, frame.spawned demand.id + joined.length, frame.dropped demand.id,
          frame.fulfilled demand.id⟩ := by
      rw [enqueue_book, storeDemand_book held]
      rfl
    have result : (⟨some spawned, frame.spawned demand.id + joined.length, frame.dropped demand.id,
        frame.fulfilled demand.id⟩ : DemandBook).Sound demand now := ⟨spawned, rfl, final⟩
    rw [← entered] at result
    cases overflowed with
    | false => exact result
    | true => exact warnOverflow_book.symm ▸ result

private theorem spawn_sound (sound : (frame.book demand.id).Sound demand now) :
    ((Demand.spawn demand now frame).book demand.id).Sound demand now := by
  unfold Demand.spawn
  split
  · exact spawnScheduled_sound sound
  · split
    · exact sound
    · exact spawnScheduled_sound sound

theorem drop_book (held : (frame.book demand.id).queue = some queue) :
    (Demand.drop demand now frame).book demand.id =
      ⟨some (Demand.dropExpired now queue), frame.spawned demand.id,
        frame.dropped demand.id ++
          (queue.pending.takeWhile (Demand.isExpired now)).map (·.sequence),
        frame.fulfilled demand.id⟩ := by
  unfold Demand.drop
  rw [demandRuntime_of_some held, warnAll_book, storeDemand_book held]
  rfl

private theorem drop_sound (sound : (frame.book demand.id).Sound demand now) :
    ((Demand.drop demand now frame).book demand.id).Sound demand now ∧
      ((Demand.drop demand now frame).book demand.id).Due now := by
  obtain ⟨queue, held, accounted⟩ := sound
  rw [drop_book held]
  refine ⟨⟨_, rfl, fun fits => ((accounted fits).drop fits).1⟩, fun fits other same => ?_⟩
  cases same
  exact ((accounted fits).drop fits).2

/-- Either nothing is fulfilled, or the instance at the front is. -/
theorem fulfill_book (now : Nat) (held : (frame.book demand.id).queue = some queue) :
    Demand.fulfill demand now frame = frame ∨ ∃ front rest, queue.pending = front :: rest ∧
      (Demand.fulfill demand now frame).book demand.id =
        ⟨some (Demand.fulfillFront queue), frame.spawned demand.id, frame.dropped demand.id,
          frame.fulfilled demand.id ++ [front.sequence]⟩ := by
  unfold Demand.fulfill
  split
  · exact .inl rfl
  · simp only
    rw [demandRuntime_of_some held]
    split
    · exact .inl rfl
    · rename_i front rest waiting
      refine .inr ⟨front, rest, waiting, ?_⟩
      rw [serve_book, storeDemand_book held]
      rfl

private theorem fulfill_sound (sound : (frame.book demand.id).Sound demand now)
    (due : (frame.book demand.id).Due now) :
    ((Demand.fulfill demand now frame).book demand.id).Sound demand now ∧
      ((Demand.fulfill demand now frame).book demand.id).Due now := by
  obtain ⟨queue, held, accounted⟩ := sound
  rcases fulfill_book now held with same | ⟨front, rest, waiting, served⟩
  · rw [same]
    exact ⟨⟨queue, held, accounted⟩, due⟩
  · rw [served]
    refine ⟨⟨_, rfl, fun fits => (accounted fits).fulfill fits waiting⟩, fun fits other same => ?_⟩
    cases same
    exact fun one waits => due fits queue held one (List.mem_of_mem_tail waits)

theorem resetOverflow_book (held : (frame.book demand.id).queue = some queue) :
    ∃ overflow, (Demand.resetOverflow demand frame).book demand.id =
      { frame.book demand.id with queue := some { queue with overflow := overflow } } := by
  have rearmed : ∃ overflow, Demand.rearm queue = { queue with overflow := overflow } := by
    unfold Demand.rearm
    split
    · exact ⟨false, rfl⟩
    · exact ⟨queue.overflow, rfl⟩
  obtain ⟨overflow, same⟩ := rearmed
  refine ⟨overflow, ?_⟩
  rw [← same, ← storeDemand_book held, ← demandRuntime_of_some held]
  rfl

private theorem resetOverflow_sound (sound : (frame.book demand.id).Sound demand now)
    (due : (frame.book demand.id).Due now) :
    ((Demand.resetOverflow demand frame).book demand.id).Sound demand now ∧
      ((Demand.resetOverflow demand frame).book demand.id).Due now := by
  obtain ⟨queue, held, accounted⟩ := sound
  obtain ⟨overflow, reset⟩ := resetOverflow_book held
  rw [reset]
  refine ⟨⟨_, rfl, fun fits => (accounted fits).flags queue.scriptedCursor overflow⟩,
    fun fits other equal => ?_⟩
  cases equal
  exact due fits queue held

/-- A demand's own tick keeps its book sound and leaves nothing overdue. -/
theorem serve_sound (sound : (frame.book demand.id).Sound demand now) :
    ((Demand.serve demand now frame).book demand.id).Sound demand now ∧
      ((Demand.serve demand now frame).book demand.id).Due now := by
  obtain ⟨queue, held, -⟩ := id sound
  have declared : frame.runtime.demand.contains demand.id = true := contains_of_some held
  unfold Demand.serve
  rw [if_pos declared]
  obtain ⟨dropped, due⟩ := drop_sound (spawn_sound sound)
  obtain ⟨fulfilled, stillDue⟩ := fulfill_sound dropped due
  exact resetOverflow_sound fulfilled stillDue

end Books

section OtherBooks

variable {demand : Sl1Demand} {now : Nat} {id : String} (other : demand.id ≠ id)
include other

private theorem storeDemand_book_other (frame : Frame) (next : Sl1DemandRuntime) :
    (frame.modify (·.storeDemand demand.id next)).book id = frame.book id := by
  have kept : (frame.runtime.demand.modify demand.id fun _ => next)[id]? =
      frame.runtime.demand[id]? := by
    rw [Std.ExtTreeMap.getElem?_modify]
    simp [other]
  change DemandBook.mk _ _ _ _ = DemandBook.mk _ _ _ _
  exact congrArg (DemandBook.mk · _ _ _) kept

private theorem enqueue_book_other (now : Nat) (frame : Frame) (instances : List Sl1DemandInstance) :
    (frame.enqueue (instances.map fun one => ⟨now, demand.id, one.sequence⟩)).book id =
      frame.book id := by
  have none : (instances.map fun one => DemandEntry.mk now demand.id one.sequence).countP
      (fun entry => decide (entry.demand = id)) = 0 := by
    rw [List.countP_map]
    simp [Function.comp_def, other]
  change DemandBook.mk _ _ _ _ = DemandBook.mk _ _ _ _
  simp only [Frame.spawned, Frame.enqueue_spawns, List.countP_append, none]
  rfl

private theorem warnDropped_book_other (frame : Frame) (one : Sl1DemandInstance) :
    (Demand.warnDropped demand now frame one).book id = frame.book id := by
  simp [Frame.book, Frame.dropped, Frame.spawned, Frame.fulfilled, Demand.warnDropped,
    SimMessage.droppedSequence, other]

omit other in
private theorem warnOverflow_book_other (frame : Frame) :
    (Demand.warnOverflow demand now frame).book id = frame.book id := by
  simp [Frame.book, Frame.dropped, Frame.spawned, Frame.fulfilled, Demand.warnOverflow,
    SimMessage.droppedSequence]

private theorem fulfilment_book_other (frame : Frame) (sequence : Nat) :
    (frame.serve ⟨now, demand.id, sequence⟩).book id = frame.book id := by
  simp [Frame.book, Frame.dropped, Frame.spawned, Frame.fulfilled, other]

private theorem book_kept : Demand.Keeps demand now (Frame.book · id) where
  stored := storeDemand_book_other other
  entered := enqueue_book_other other now
  overflowed := warnOverflow_book_other
  dropped := warnDropped_book_other other
  served := fulfilment_book_other other

/-- Another demand's tick leaves the book alone. -/
theorem serve_book_other (frame : Frame) :
    (Demand.serve demand now frame).book id = frame.book id :=
  Demand.serve_keeps frame (book_kept other) fun _ => rfl

end OtherBooks

section Run

variable {scene : Sl1Scene} (valid : scene.Valid) {demand : Sl1Demand}
  (member : demand ∈ scene.demand)
include valid member

theorem runDemand_sound {now : Nat} {frame : Frame}
    (sound : (frame.book demand.id).Sound demand now) :
    ((Demand.runDemand scene now frame).book demand.id).Sound demand now ∧
      ((Demand.runDemand scene now frame).book demand.id).Due now := by
  have distinct := valid.demandIncreasing.distinct
  have others (current : Frame) (next : Sl1Demand) (present : next ∈ scene.demand)
      (different : next ≠ demand) :
      (Demand.serve next now current).book demand.id = current.book demand.id :=
    serve_book_other (fun same => different
      (List.inj_on_of_nodup_map distinct present member same)) current
  obtain ⟨before, reached, final⟩ := foldl_once (Frame.book · demand.id)
    (List.Nodup.of_map _ distinct) member others frame
  change ((scene.demand.foldl _ frame).book demand.id).Sound demand now ∧
    ((scene.demand.foldl _ frame).book demand.id).Due now
  rw [final]
  exact serve_sound (reached ▸ sound)

end Run

/-- The passes before the demands leave the queues alone. -/
theorem moveStock_queues (scene : Sl1Scene) (now : Nat) (frame : Frame) :
    (moveStock scene now frame).queues = frame.queues := by
  have aged : (Transforms.ageFreshness scene now (Pressure.run scene now frame)).queues =
      frame.queues :=
    (Frame.queues_of_core (Transforms.ageFreshness_core scene now _)).trans
      (Pressure.run_queues scene now frame)
  rw [moveStock_eq]
  exact (Transforms.runTransforms_queues scene now _).trans aged

theorem run_queues (scene : Sl1Scene) (backend : AgentBackend) (now : Nat) (frame : Frame) :
    (run scene backend now frame).queues =
      (Demand.runDemand scene now (moveStock scene now frame)).queues := by
  rw [run, Frame.queues_of_core (runObservers_core scene backend now _), Objectives.run_queues,
    runFlow_eq]

/-- In every run a declared demand's book is sound and nothing waiting is overdue. -/
theorem ticks_book {scene : Sl1Scene} (valid : scene.Valid) (backend : AgentBackend)
    {demand : Sl1Demand} (member : demand ∈ scene.demand) (count : Nat) :
    ((ticks scene backend count).book demand.id).Sound demand (worldTick count) ∧
      ((ticks scene backend count).book demand.id).Due (worldTick count) := by
  induction count with
  | zero =>
    have held : (Frame.load scene).runtime.demand[demand.id]? = some {} :=
      table_of_mem valid.demandIncreasing.distinct member
    refine ⟨⟨{}, held, fun _ => ⟨rfl, rfl, rfl, TicketLine.sound_empty, by simp⟩⟩, ?_⟩
    intro _ queue same
    rw [Frame.book, ticks, held] at same
    cases same
    simp
  | succ count ih =>
    have later : worldTick count ≤ worldTick (count + 1) := by
      rw [worldTick_eq, worldTick_eq]
      omega
    obtain ⟨queue, held, accounted⟩ := ih.1
    have before : ((moveStock scene (worldTick (count + 1)) (ticks scene backend count)).book
        demand.id).Sound demand (worldTick (count + 1)) := by
      rw [Frame.book_of_queues demand.id (moveStock_queues scene _ _)]
      exact ⟨queue, held, fun fits => (accounted fits).later later⟩
    rw [ticks, Frame.book_of_queues demand.id (run_queues scene backend _ _)]
    exact runDemand_sound valid member before

/-- In every run with fewer than 2^64 spawns of a demand its queue is accounted
for: the counters add up, waiting instances are numbered consecutively, sorted by
deadline and not overdue, and every instance that left the queue was dropped with
one warning or fulfilled once, never both. -/
theorem demand_accounted {raw : RawSl1Scene} {scene : Sl1Scene} (accepted : validate raw = .ok scene)
    (backend : AgentBackend) (count : Nat) {demand : Sl1Demand} (member : demand ∈ scene.demand)
    (few : (ticks scene backend count).spawned demand.id < 2 ^ 64) :
    let run := ticks scene backend count
    let queue := run.runtime.demandRuntime demand.id
    queue.nextSequence = queue.pending.length + queue.fulfilledCount + queue.droppedCount ∧
    queue.pending.map (·.sequence) =
      List.range' (queue.fulfilledCount + queue.droppedCount) queue.pending.length ∧
    queue.pending.Pairwise (fun earlier later => earlier.deadlineTick ≤ later.deadlineTick) ∧
    (∀ one ∈ queue.pending, worldTick count ≤ one.deadlineTick) ∧
    queue.pending.length ≤ maxDemandOutstanding ∧
    (run.dropped demand.id).Nodup ∧ (run.dropped demand.id).length = queue.droppedCount ∧
    (run.fulfilled demand.id).Nodup ∧ (run.fulfilled demand.id).length = queue.fulfilledCount ∧
    (run.dropped demand.id ++ run.fulfilled demand.id).Perm
      (List.range (queue.fulfilledCount + queue.droppedCount)) ∧
    (∀ sequence ∈ run.dropped demand.id, sequence ∉ run.fulfilled demand.id) := by
  intro run queue
  have fits : run.spawned demand.id ≤ u64Max := by
    change run.spawned demand.id < 2 ^ 64 at few
    unfold u64Max
    omega
  obtain ⟨⟨held, found, accounted⟩, due⟩ := ticks_book (validate_valid accepted) backend member count
  have current : queue = held := demandRuntime_of_some found
  rw [current]
  have line : Accounted demand (worldTick count) held (run.spawned demand.id)
      (run.dropped demand.id) (run.fulfilled demand.id) := accounted fits
  have closed : (held.line (run.spawned demand.id) (run.dropped demand.id)
      (run.fulfilled demand.id)).closed = held.fulfilledCount + held.droppedCount := by
    rw [line.fulfilledCount, line.droppedCount, Nat.add_comm]
    rfl
  have numbered := line.sound.numbered
  have settled := line.sound.settled
  have ordered := line.sound.ordered
  rw [closed] at numbered settled
  refine ⟨?_, ?_, ?_, due fits held found, ?_, line.sound.expired_nodup, line.droppedCount.symm,
    line.sound.served_nodup, line.fulfilledCount.symm, settled, fun _ => line.sound.not_both⟩
  · have total := line.spawned_eq
    rw [← line.next, ← line.droppedCount, ← line.fulfilledCount] at total
    omega
  · simpa [Sl1DemandRuntime.line, Sl1DemandInstance.ticket, Function.comp_def] using numbered
  · rw [Sl1DemandRuntime.line, List.pairwise_map] at ordered
    exact ordered
  · simpa [Sl1DemandRuntime.line] using line.sound.capped

/-- A shop without stock whose orders lapse after one tick, until a pressure
stocks it. -/
def lapsingScene : RawSl1Scene where
  places := [{
    id := "shop", role := "sink", pos := (0, 0)
    storage := (∅ : IdMap RawSl1StorageSlot).insert "ore" { capacity := 10 } }]
  things := [{ id := "ore", kind := "material" }]
  demand := [{
    id := "orders", kind := "job", target := ⟨"place", "shop"⟩, requires := ["ore"]
    spawnSchedule := { kind := "fixed", everyTicks := some 1, startTick := some 1 }
    deadlineTicks := 1, priority := "normal", value := 5, penalty := { score := -2 } }]
  pressure := [{
    id := "surge", kind := "source_multiplier", atTick := 5, durationTicks := 1, target := "shop"
    thing := some "ore", multiplier := some 3.0 }]

theorem demand_accounted_lapsing : ∃ scene, validate lapsingScene = .ok scene ∧
    ∃ demand ∈ scene.demand, (ticks scene defaultBackend 7).dropped demand.id = [0, 1, 2] ∧
      (ticks scene defaultBackend 7).fulfilled demand.id = [3, 4, 5] ∧
      ((ticks scene defaultBackend 7).runtime.demandRuntime demand.id).nextSequence =
        ((ticks scene defaultBackend 7).runtime.demandRuntime demand.id).pending.length +
          ((ticks scene defaultBackend 7).runtime.demandRuntime demand.id).fulfilledCount +
          ((ticks scene defaultBackend 7).runtime.demandRuntime demand.id).droppedCount := by
  have evaluated : yields (validate lapsingScene) (fun scene => scene.demand.any fun demand =>
      decide ((ticks scene defaultBackend 7).spawned demand.id < 2 ^ 64 ∧
        (ticks scene defaultBackend 7).dropped demand.id = [0, 1, 2] ∧
        (ticks scene defaultBackend 7).fulfilled demand.id = [3, 4, 5])) = true := by
    decide +kernel
  obtain ⟨scene, accepted, found⟩ := yields_iff.mp evaluated
  obtain ⟨demand, member, facts⟩ := List.any_eq_true.mp found
  obtain ⟨few, dropped, fulfilled⟩ := of_decide_eq_true facts
  exact ⟨scene, accepted, demand, member, dropped, fulfilled,
    (demand_accounted accepted defaultBackend 7 member few).1⟩

end Simetro.Sl1
