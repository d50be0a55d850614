import Simetro.Library.Latch
import Simetro.Library.Reordering
import Simetro.Library.Splitting
import Simetro.Sl1.DemandTurns
import Simetro.Sl1.GrowthOverlays
import Simetro.Sl1.ValidIds

/-! Every demand's line through a run: served first in first out within a bound, and warned of
once each time it overflows. -/

namespace Simetro.Sl1

open Simetro.Library Simetro.Protocol

namespace Demand

section Turn

variable (scene : Sl1Scene) (backend : AgentBackend) (demand : Sl1Demand) (count : Nat)

/-- The frame when the demand's turn comes in tick `count + 1`. -/
def turnStart : Frame :=
  (scene.demand.takeWhile fun other => other.id ≠ demand.id).foldl
    (fun frame other => serve other (worldTick (count + 1)) frame)
    (moveStock scene (worldTick (count + 1)) (ticks scene backend count))

/-- The frame after that turn's drops. -/
def afterDrops : Frame :=
  drop demand (worldTick (count + 1))
    (spawn demand (worldTick (count + 1)) (turnStart scene backend demand count))

/-- Who still waits then. -/
def waitingLine : List Sl1DemandInstance :=
  ((afterDrops scene backend demand count).runtime.demandRuntime demand.id).pending

/-- The instance leaves the front of the line in tick `count + 1` as the demand's one fulfilment. -/
def Fulfils (one : Sl1DemandInstance) : Prop :=
  waitingLine scene backend demand count =
      one :: ((ticks scene backend (count + 1)).runtime.demandRuntime demand.id).pending ∧
    (ticks scene backend (count + 1)).fulfilments.filter (fun entry => entry.demand = demand.id) =
      (ticks scene backend count).fulfilments.filter (fun entry => entry.demand = demand.id) ++
        [⟨worldTick (count + 1), demand.id, one.sequence⟩]

/-- Fewer instances spawned in tick `count + 1` than were asked for. -/
def Refuses : Prop :=
  (ticks scene backend (count + 1)).spawned demand.id < (ticks scene backend count).spawned demand.id +
    wanted demand (worldTick (count + 1)) (turnStart scene backend demand count).runtime

instance : Decidable (Refuses scene backend demand count) :=
  inferInstanceAs (Decidable (_ < _))

/-- Ticks of the demand's `BacklogOverflow` warnings so far. -/
def overflowTicks : List Nat :=
  (ticks scene backend count).messages.filterMap (SimMessage.overflowTick demand.id)

/-- Tick `count + 1` warns of an overflow. -/
def Warns : Prop :=
  overflowTicks scene backend demand (count + 1) =
    overflowTicks scene backend demand count ++ [worldTick (count + 1)]

/-- How many wait at the end of a tick. -/
def backlog : Nat := ((ticks scene backend count).runtime.demandRuntime demand.id).pending.length

end Turn

/-- The declared demands before one, the one, and those after it. -/
theorem takeWhile_split {demands : List Sl1Demand} {demand : Sl1Demand}
    (distinct : (demands.map (·.id)).Nodup) (member : demand ∈ demands) :
    ∃ later, demands = demands.takeWhile (fun other => other.id ≠ demand.id) ++ demand :: later ∧
      ∀ other ∈ later, other.id ≠ demand.id := by
  induction demands with
  | nil => cases member
  | cons head rest ih =>
    rw [List.map_cons, List.nodup_cons] at distinct
    by_cases own : head.id = demand.id
    · have absent : ∀ other ∈ rest, other.id ≠ demand.id := by
        intro other listed same
        exact distinct.1 (List.mem_map.mpr ⟨other, listed, same.trans own.symm⟩)
      have here : head = demand := by
        rcases List.mem_cons.mp member with same | later
        · exact same.symm
        · exact absurd rfl (absent demand later)
      exact ⟨rest, by simp [here], absent⟩
    · have later : demand ∈ rest := by
        rcases List.mem_cons.mp member with rfl | later
        · exact absurd rfl own
        · exact later
      obtain ⟨after, split, absent⟩ := ih distinct.2 later
      refine ⟨after, ?_, absent⟩
      rw [List.takeWhile_cons_of_pos (by simpa using own), List.cons_append, ← split]

/-- A tick is a turn of the desk of every demand. -/
structure DeskTurn (scene : Sl1Scene) (backend : AgentBackend) (demand : Sl1Demand) (count : Nat)
    (turn : LineTurn Sl1DemandInstance) : Prop where
  now : turn.now = worldTick (count + 1)
  fresh : ∀ one ∈ turn.joining, Fresh demand (worldTick (count + 1)) one
  room : turn.joining.length =
    min (wanted demand (worldTick (count + 1)) (turnStart scene backend demand count).runtime)
      (maxDemandOutstanding - backlog scene backend demand count)
  stocked : turn.isOpen = inStock demand (afterDrops scene backend demand count).runtime
  waiting : waitingLine scene backend demand count = turn.waiting (·.deadlineTick)
    ((ticks scene backend count).desk demand.id).pending
  desk : (ticks scene backend (count + 1)).desk demand.id =
    ((ticks scene backend count).desk demand.id).turn demand.id
      (wanted demand (worldTick (count + 1)) (turnStart scene backend demand count).runtime) turn

/-- Oldest first, and none from after a tick. -/
def InOrder (now : Nat) (line : List Sl1DemandInstance) : Prop :=
  line.Pairwise (fun earlier later => earlier.spawnedAt ≤ later.spawnedAt) ∧
    ∀ one ∈ line, one.spawnedAt ≤ now

theorem InOrder.sublist {now : Nat} {line part : List Sl1DemandInstance} (ordered : InOrder now line)
    (within : part.Sublist line) : InOrder now part :=
  ⟨ordered.1.sublist within, fun one listed => ordered.2 one (within.subset listed)⟩

namespace DeskTurn

variable {scene : Sl1Scene} {backend : AgentBackend} {demand : Sl1Demand} {count : Nat}
  {turn : LineTurn Sl1DemandInstance} (step : DeskTurn scene backend demand count turn)
include step

theorem served_left : turn.served (·.deadlineTick) ((ticks scene backend count).desk demand.id).pending ++
    ((ticks scene backend (count + 1)).desk demand.id).pending =
      waitingLine scene backend demand count := by
  rw [step.desk, step.waiting]
  exact LineTurn.served_append_left

theorem fulfils {one : Sl1DemandInstance}
    (served : turn.served (·.deadlineTick) ((ticks scene backend count).desk demand.id).pending = [one]) :
    Fulfils scene backend demand count one := by
  constructor
  · rw [← step.served_left, served]
    rfl
  · have entered := congrArg DemandDesk.fulfilments step.desk
    simp only [DemandDesk.turn, served, step.now] at entered
    exact entered

/-- New instances are the newest. -/
theorem inOrder (ordered : InOrder (worldTick count)
      ((ticks scene backend count).desk demand.id).pending) :
    InOrder (worldTick (count + 1)) (waitingLine scene backend demand count) := by
  have later : worldTick count ≤ worldTick (count + 1) := by
    rw [worldTick_eq, worldTick_eq]
    omega
  have everyone : InOrder (worldTick (count + 1))
      (((ticks scene backend count).desk demand.id).pending ++ turn.joining) := by
    constructor
    · refine List.pairwise_append.mpr ⟨ordered.1, ?_, ?_⟩
      · refine List.pairwise_of_forall_mem_list ?_
        intro one joins other alsoJoins
        rw [(step.fresh one joins).1, (step.fresh other alsoJoins).1]
      · intro one waits other joins
        rw [(step.fresh other joins).1]
        exact (ordered.2 one waits).trans later
    · intro one listed
      rcases List.mem_append.mp listed with waits | joins
      · exact (ordered.2 one waits).trans later
      · exact (step.fresh one joins).1.le
  rw [step.waiting]
  exact everyone.sublist (List.dropWhile_sublist _)

end DeskTurn

section Run

variable {scene : Sl1Scene} (valid : scene.Valid) (backend : AgentBackend) {demand : Sl1Demand}
  (member : demand ∈ scene.demand)
include valid member

theorem ticks_turn (count : Nat) : ∃ turn, DeskTurn scene backend demand count turn := by
  obtain ⟨later, split, after⟩ := takeWhile_split valid.demandIncreasing.distinct member
  have before (other : Sl1Demand)
      (earlier : other ∈ scene.demand.takeWhile fun other => other.id ≠ demand.id) :
      other.id ≠ demand.id := by
    simpa using List.mem_takeWhile_imp earlier
  -- the other demands, before and after, leave the desk alone
  have desk : (turnStart scene backend demand count).desk demand.id =
      (ticks scene backend count).desk demand.id :=
    (foldl_keeps (Frame.desk · demand.id)
        (fun frame other earlier => serve_desk_other (before other earlier) frame) _).trans
      (Frame.desk_of_queues demand.id (moveStock_queues scene _ _))
  have book : (turnStart scene backend demand count).book demand.id =
      (ticks scene backend count).book demand.id :=
    (foldl_keeps (Frame.book · demand.id)
        (fun frame other earlier => serve_book_other (before other earlier) frame) _).trans
      (Frame.book_of_queues demand.id (moveStock_queues scene _ _))
  have final : (ticks scene backend (count + 1)).desk demand.id =
      (serve demand (worldTick (count + 1)) (turnStart scene backend demand count)).desk demand.id := by
    refine (Frame.desk_of_queues demand.id (run_queues scene backend _ _)).trans ?_
    rw [runDemand, split, List.foldl_append, List.foldl_cons]
    exact foldl_keeps (Frame.desk · demand.id)
      (fun frame other listed => serve_desk_other (after other listed) frame) _
  obtain ⟨queue, held, -⟩ := (ticks_book valid backend member count).1
  have here : (turnStart scene backend demand count).runtime.demand.contains demand.id = true :=
    contains_of_some (book ▸ held)
  obtain ⟨turn, now, fresh, room, stocked, waiting, served⟩ := @serve_desk _ (worldTick (count + 1)) _ here
  rw [desk] at room waiting served
  exact ⟨turn, now, fresh, room, stocked, waiting, final.trans served⟩

theorem ticks_inOrder (count : Nat) :
    InOrder (worldTick count) ((ticks scene backend count).desk demand.id).pending := by
  induction count with
  | zero =>
    have held : (Frame.load scene).runtime.demand[demand.id]? = some {} :=
      table_of_mem valid.demandIncreasing.distinct member
    have empty : ((ticks scene backend 0).desk demand.id).pending = [] := by
      change ((Frame.load scene).runtime.demandRuntime demand.id).pending = []
      rw [Sl1RuntimeState.demandRuntime, Std.ExtTreeMap.getD_eq_getD_getElem?, held]
      rfl
    rw [empty]
    exact ⟨List.Pairwise.nil, by simp⟩
  | succ count ih =>
    obtain ⟨turn, step⟩ := ticks_turn valid backend member count
    have within := step.served_left
    exact (step.inOrder ih).sublist (within ▸ List.sublist_append_right _ _)

/-- While the target is in stock and nobody up to an instance is overdue, the line moves on by
one a tick. -/
theorem fulfils_in_turn {count : Nat} {one : Sl1DemandInstance} {ahead behind : List Sl1DemandInstance}
    (placed : waitingLine scene backend demand count = ahead ++ one :: behind)
    (stocked : ∀ offset ≤ ahead.length,
      inStock demand (afterDrops scene backend demand (count + offset)).runtime = true)
    (patient : ∀ item ∈ ahead ++ [one], worldTick (count + 1 + ahead.length) ≤ item.deadlineTick) :
    Fulfils scene backend demand (count + ahead.length) one := by
  choose turns steps using ticks_turn valid backend member
  have size : (ahead ++ [one]).length = ahead.length + 1 := by simp
  have start : (turns count).waiting (·.deadlineTick) ((ticks scene backend count).desk demand.id).pending =
      (ahead ++ [one]) ++ behind := by
    rw [← (steps count).waiting, placed, List.append_assoc]
    rfl
  have service (offset : Nat) (small : offset < (ahead ++ [one]).length) :
      (turns (count + offset)).isOpen = true :=
    (steps _).stocked.trans (stocked offset (by omega))
  have inTime (offset : Nat) (small : offset < (ahead ++ [one]).length) (item : Sl1DemandInstance)
      (listed : item ∈ ahead ++ [one]) : (turns (count + offset)).now ≤ item.deadlineTick := by
    have sooner : worldTick (count + offset + 1) ≤ worldTick (count + 1 + ahead.length) := by
      rw [worldTick_eq, worldTick_eq]
      omega
    exact (steps _).now ▸ sooner.trans (patient item listed)
  have served := @served_in_turn Sl1DemandInstance (·.deadlineTick) turns
    (fun count => ((ticks scene backend count).desk demand.id).pending)
    (fun count => congrArg DemandDesk.pending (steps count).desk) count (ahead ++ [one]) behind start
    service inTime ahead.length (by omega)
  exact (steps _).fulfils (by simpa using served)

/-- In a tick nobody is served, or the oldest who waits is, in time. -/
theorem tick_serves (count : Nat) :
    (ticks scene backend (count + 1)).fulfilments.filter (fun entry => entry.demand = demand.id) =
        (ticks scene backend count).fulfilments.filter (fun entry => entry.demand = demand.id) ∨
      ∃ one, Fulfils scene backend demand count one ∧ worldTick (count + 1) ≤ one.deadlineTick ∧
        ∀ other ∈ waitingLine scene backend demand count, one.spawnedAt ≤ other.spawnedAt := by
  obtain ⟨turn, step⟩ := ticks_turn valid backend member count
  rcases List.eq_nil_or_concat' (turn.served (·.deadlineTick)
    ((ticks scene backend count).desk demand.id).pending) with nobody | ⟨front, one, shape⟩
  · refine .inl ((congrArg DemandDesk.fulfilments step.desk).trans ?_)
    simp only [DemandDesk.turn, nobody]
    exact List.append_nil _
  · have listed : one ∈ turn.served (·.deadlineTick)
        ((ticks scene backend count).desk demand.id).pending := by
      rw [shape]
      simp
    obtain ⟨-, served, waits, inTime⟩ := LineTurn.served_spec listed
    refine .inr ⟨one, step.fulfils served, step.now ▸ inTime, ?_⟩
    have ordered := (step.inOrder (ticks_inOrder valid backend member count)).1
    rw [step.waiting, waits] at ordered ⊢
    intro other among
    rcases List.mem_cons.mp among with rfl | behind
    · exact Nat.le_refl _
    · exact (List.pairwise_cons.mp ordered).1 other behind

/-- What `run_demand` refuses and reports in a tick. -/
theorem tick_refuses (count : Nat) :
    (Refuses scene backend demand count ↔ maxDemandOutstanding - backlog scene backend demand count <
      wanted demand (worldTick (count + 1)) (turnStart scene backend demand count).runtime) ∧
    overflowTicks scene backend demand (count + 1) = overflowTicks scene backend demand count ++
      if decide (Refuses scene backend demand count) &&
        !((ticks scene backend count).runtime.demandRuntime demand.id).overflow
      then [worldTick (count + 1)] else [] := by
  obtain ⟨turn, step⟩ := ticks_turn valid backend member count
  have spawned : (ticks scene backend (count + 1)).spawned demand.id =
      (ticks scene backend count).spawned demand.id + turn.joining.length :=
    congrArg DemandDesk.spawned step.desk
  have room := step.room
  have exact : Refuses scene backend demand count ↔
      maxDemandOutstanding - backlog scene backend demand count <
        wanted demand (worldTick (count + 1)) (turnStart scene backend demand count).runtime := by
    unfold Refuses
    rw [spawned, room]
    omega
  refine ⟨exact, ?_⟩
  have warned := congrArg DemandDesk.overflows step.desk
  simp only [DemandDesk.turn, refuses, step.now] at warned
  rw [decide_eq_decide.mpr exact]
  exact warned

/-- The overflow flag is a latch that a refusal sets while the backlog is at the cap. -/
def overflowLatch : Latch where
  isSet count := ((ticks scene backend count).runtime.demandRuntime demand.id).overflow
  raises count := decide (Refuses scene backend demand count)
  high count := decide (maxDemandOutstanding ≤ backlog scene backend demand count)
  start := by
    have held : (Frame.load scene).runtime.demand[demand.id]? = some {} :=
      table_of_mem valid.demandIncreasing.distinct member
    simp [ticks, Sl1RuntimeState.demandRuntime, Std.ExtTreeMap.getD_eq_getD_getElem?, held]
  step count := by
    obtain ⟨turn, step⟩ := ticks_turn valid backend member count
    have flag := congrArg DemandDesk.overflow step.desk
    have left := congrArg DemandDesk.pending step.desk
    simp only [DemandDesk.turn] at flag left
    rw [← left] at flag
    rw [decide_eq_decide.mpr (tick_refuses valid backend member count).1]
    exact flag

theorem reports_iff (count : Nat) : (overflowLatch valid backend member).reports count = true ↔
    Warns scene backend demand count := by
  unfold Warns Latch.reports
  rw [(tick_refuses valid backend member count).2]
  change (decide (Refuses scene backend demand count) &&
    !((ticks scene backend count).runtime.demandRuntime demand.id).overflow) = true ↔ _
  split
  · rename_i raised
    simp [raised]
  · rename_i calm
    simpa using calm

end Run

end Demand

open Demand

variable {raw : RawSl1Scene} {scene : Sl1Scene}

/-- Demand is served first in, first out, within as many ticks as wait ahead; each tick serves at
most one instance, the oldest left, and none past its deadline. -/
theorem demand_first_in_first_out (accepted : validate raw = .ok scene) (backend : AgentBackend)
    {demand : Sl1Demand} (member : demand ∈ scene.demand) :
    (∀ count one ahead behind,
      waitingLine scene backend demand count = ahead ++ one :: behind →
      (∀ offset ≤ ahead.length,
        inStock demand (afterDrops scene backend demand (count + offset)).runtime = true) →
      (∀ item ∈ ahead ++ [one], worldTick (count + 1 + ahead.length) ≤ item.deadlineTick) →
      Fulfils scene backend demand (count + ahead.length) one) ∧
    ∀ count,
      (ticks scene backend (count + 1)).fulfilments.filter (fun entry => entry.demand = demand.id) =
          (ticks scene backend count).fulfilments.filter (fun entry => entry.demand = demand.id) ∨
        ∃ one, Fulfils scene backend demand count one ∧ worldTick (count + 1) ≤ one.deadlineTick ∧
          ∀ other ∈ waitingLine scene backend demand count, one.spawnedAt ≤ other.spawnedAt := by
  have valid := validate_valid accepted
  constructor
  · intro count one ahead behind placed stocked patient
    exact fulfils_in_turn valid backend member placed stocked patient
  · intro count
    exact tick_serves valid backend member count

/-- A shop whose orders wait for the stock of tick 5. -/
def patientScene : RawSl1Scene :=
  { lapsingScene with demand := lapsingScene.demand.map fun demand => { demand with deadlineTicks := 9 } }

theorem demand_first_in_first_out_patient : ∃ scene, validate patientScene = .ok scene ∧
    ∃ demand ∈ scene.demand, ∃ one, one.spawnedAt = 5 ∧
      Fulfils scene defaultBackend demand (4 + 4) one := by
  let ahead : List Sl1DemandInstance := [⟨0, 1, 10⟩, ⟨1, 2, 11⟩, ⟨2, 3, 12⟩, ⟨3, 4, 13⟩]
  have evaluated : yields (validate patientScene) (fun scene => scene.demand.any fun demand =>
      waitingLine scene defaultBackend demand 4 == ahead ++ ⟨4, 5, 14⟩ :: [] &&
        (List.range 5).all fun offset =>
          inStock demand (afterDrops scene defaultBackend demand (4 + offset)).runtime) = true := by
    decide +kernel
  obtain ⟨scene, accepted, found⟩ := yields_iff.mp evaluated
  obtain ⟨demand, member, facts⟩ := List.any_eq_true.mp found
  obtain ⟨placed, stocked⟩ := Bool.and_eq_true_iff.mp facts
  refine ⟨scene, accepted, demand, member, ⟨4, 5, 14⟩, rfl, ?_⟩
  refine (demand_first_in_first_out accepted defaultBackend member).1 4 ⟨4, 5, 14⟩ ahead []
    (beq_iff_eq.mp placed) ?_ (by decide)
  intro offset within
  exact List.all_eq_true.mp stocked offset (List.mem_range.mpr (Nat.lt_succ_of_le within))

/-- The overflow flag stands only over a full backlog, each warning is the first refusal since the
backlog was below the cap, and none goes without one. -/
theorem overflow_warned_once (accepted : validate raw = .ok scene) (backend : AgentBackend)
    {demand : Sl1Demand} (member : demand ∈ scene.demand) :
    (∀ count, ((ticks scene backend count).runtime.demandRuntime demand.id).overflow = true →
      maxDemandOutstanding ≤ backlog scene backend demand count) ∧
    (∀ count, Warns scene backend demand count ↔ Refuses scene backend demand count ∧
      ((ticks scene backend count).runtime.demandRuntime demand.id).overflow = false) ∧
    (∀ count, Warns scene backend demand count ∨
      overflowTicks scene backend demand (count + 1) = overflowTicks scene backend demand count) ∧
    (∀ count, Refuses scene backend demand count → ∃ warned ≤ count, Warns scene backend demand warned ∧
      ∀ between, warned < between → between ≤ count →
        maxDemandOutstanding ≤ backlog scene backend demand between) ∧
    ∀ first second, first < second → Warns scene backend demand first →
      Warns scene backend demand second →
      ∃ between, first < between ∧ between ≤ second ∧
        backlog scene backend demand between < maxDemandOutstanding := by
  have valid := validate_valid accepted
  have reports := reports_iff valid backend member
  refine ⟨?_, ?_, ?_, ?_, ?_⟩
  · intro count marked
    exact of_decide_eq_true (@Latch.high_of_isSet (overflowLatch valid backend member) count marked).2
  · intro count
    rw [← reports count]
    simp [Latch.reports, overflowLatch]
  · intro count
    unfold Warns
    rw [(tick_refuses valid backend member count).2]
    split
    · exact .inl rfl
    · exact .inr (List.append_nil _)
  · intro count refused
    obtain ⟨warned, earlier, reported, held⟩ :=
      @Latch.reported_of_raises (overflowLatch valid backend member) count (decide_eq_true refused)
    exact ⟨warned, earlier, (reports warned).mp reported,
      fun between after within => of_decide_eq_true (held between after within)⟩
  · intro first second after firstWarns secondWarns
    obtain ⟨between, beyond, within, low⟩ := Latch.low_between_reports
      ((reports first).mpr firstWarns) ((reports second).mpr secondWarns) after
    exact ⟨between, beyond, within, Nat.lt_of_not_le (of_decide_eq_false low)⟩

/-- Together the rushes ask for one order more than may wait. -/
def rushedScene : RawSl1Scene :=
  { lapsingScene with
    pressure := (List.range 157).map fun number =>
      { id := toString number, kind := "demand_growth", atTick := 1, durationTicks := 1
        target := "orders", spawnMultiplier := some 64 } }

/-- One of the rushes. -/
def rush (number : Nat) : RawSl1Pressure :=
  { id := toString number, kind := "demand_growth", atTick := 1, durationTicks := 1
    target := "orders", spawnMultiplier := some 64 }

/-- The rush of a number, as it is read. -/
def surge (number : Nat) : Sl1Pressure :=
  { id := toString number, kind := .demandGrowth, atTick := 1, durationTicks := 1, target := "orders"
    params := .demandGrowth 64 }

theorem validatePressure_rush {scope : PressureScope} (known : scope.demandIds.contains "orders" = true)
    {number : Nat} (small : number < 10 ^ 16) :
    validatePressure scope (rush number) = .ok (surge number) := by
  have named : isValidSl1Id (rush number).id = true := isValidSl1Id_toString small
  have blank : isBlank "orders" = false := by decide
  have params : demandGrowthParams scope .demandGrowth (rush number) = .ok (.demandGrowth 64) := by
    simp only [demandGrowthParams, bind_eq_ok]
    refine ⟨(), rfl, (), rfl, (), rfl, (), rfl, (), ?_, 64, rfl, (), rfl, rfl⟩
    rw [reject_eq_ok, Bool.not_eq_false']
    exact known
  simp only [validatePressure, bind_eq_ok, reject_eq_ok, Bool.not_eq_false']
  exact ⟨(), named, (), rfl, (), rfl, (), rfl, (), rfl, .demandGrowth, rfl, (), blank, _, params, rfl⟩

theorem catalog_rushes (scope : PressureScope) (known : scope.demandIds.contains "orders" = true) :
    ∃ sorted, catalog (validatePressure scope) (·.id) (.pressureDuplicateId ·.id) noCrossCheck
      rushedScene.pressure = .ok sorted ∧ sorted.Perm ((List.range 157).map surge) := by
  refine ⟨_, catalog_eq_ok.mpr ⟨(List.range 157).map surge, ⟨?_, ?_⟩, rfl⟩, sortByKey_perm _ _⟩
  · change List.Forall₂ _ ((List.range 157).map rush) _
    rw [List.forall₂_map_left_iff, List.forall₂_map_right_iff, List.forall₂_same]
    intro number listed
    have small : number < 10 ^ 16 := (List.mem_range.mp listed).trans (by decide)
    exact ⟨validatePressure_rush known small, rfl⟩
  · rw [List.map_map]
    exact List.nodup_range.map toString_injective

theorem surges_growth {pressures : List Sl1Pressure}
    (rushing : pressures.Perm ((List.range 157).map surge)) :
    (pressures.map (·.growthOf "orders")).sum = 157 * 64 := by
  have each : (((List.range 157).map surge).map (·.growthOf "orders")) = List.replicate 157 64 := by
    rw [List.map_map, List.eq_replicate_iff]
    refine ⟨by simp, fun value listed => ?_⟩
    obtain ⟨number, -, rfl⟩ := List.mem_map.mp listed
    simp [Sl1Pressure.growthOf, surge]
  rw [(rushing.map _).sum_eq, each, List.sum_replicate_nat]

/-- In the first tick of the rush its demand asks for more than may wait. -/
theorem rush_wants {scene : Sl1Scene} (valid : scene.Valid)
    (rushing : scene.pressure.Perm ((List.range 157).map surge)) {demand : Sl1Demand}
    (only : scene.demand = [demand]) (own : demand.id = "orders")
    (schedule : demand.spawnSchedule = .fixed 1 1) (backend : AgentBackend) :
    maxDemandOutstanding < wanted demand (worldTick 1) (turnStart scene backend demand 0).runtime := by
  let pressed := Pressure.run scene 1 (Frame.load scene)
  have start : turnStart scene backend demand 0 = moveStock scene 1 (Frame.load scene) := by
    unfold turnStart
    rw [only, List.takeWhile_cons_of_neg (by simp)]
    rfl
  have active : Pressure.activePressures scene pressed.runtime = scene.pressure := by
    refine List.filter_eq_self.mpr fun pressure listed => ?_
    obtain ⟨number, -, rfl⟩ := List.mem_map.mp (rushing.mem_iff.mp listed)
    have ends : 1 < (surge number).endTick := (by decide : 1 < saturatingAdd u64Max 1 1)
    exact Pressure.run_active valid listed (Nat.le_refl 1) ends
  have declared : scene.pressure.isEmpty = false := by
    rw [List.isEmpty_eq_false_iff_exists_mem]
    exact ⟨surge 0, rushing.mem_iff.mpr (List.mem_map_of_mem (by simp))⟩
  have growth : pressed.runtime.pressure.demandSpawnMultiplier.getD "orders" 0 = 157 * 64 := by
    rw [Pressure.run_growth declared, active, surges_growth rushing]
    rfl
  have overlays : (moveStock scene 1 (Frame.load scene)).runtime.pressure = pressed.runtime.pressure :=
    congrArg Overlays.pressure (moveStock_overlays scene 1 (Frame.load scene))
  have pauses : (moveStock scene 1 (Frame.load scene)).runtime.agentDemandPauses = ∅ :=
    congrArg Throttles.pauses (moveStock_throttles scene 1 (Frame.load scene))
  have asks : wants demand 1 (moveStock scene 1 (Frame.load scene)).runtime = true := by
    unfold wants Sl1RuntimeState.pauseUntil
    rw [pauses, schedule]
    simp [shouldSpawn]
  rw [start]
  change maxDemandOutstanding < wanted demand 1 _
  rw [wanted, asks, if_pos rfl, overlays, own, Pressure.effectiveSpawnCount, growth]
  decide

theorem overflow_warned_once_rushed : ∃ scene, validate rushedScene = .ok scene ∧
    ∃ demand ∈ scene.demand, Refuses scene defaultBackend demand 0 ∧
      Warns scene defaultBackend demand 0 := by
  have evaluated : yields (validate { rushedScene with pressure := [] }) (fun scene =>
      scene.demand.map (fun demand => (demand.id, demand.spawnSchedule)) ==
        [("orders", .fixed 1 1)]) = true := by
    decide +kernel
  obtain ⟨calm, calmly, only⟩ := yields_iff.mp evaluated
  obtain ⟨demand, listed, named⟩ := List.map_eq_singleton_iff.mp (beq_iff_eq.mp only)
  obtain ⟨own, schedule⟩ := Prod.mk.inj named
  have known : (idSet (calm.demand.map (·.id))).contains "orders" = true := by
    simp [listed, own, idSet]
  have few : rushedScene.pressure.length ≤ maxSl1ItemsPerSection := by
    simp [rushedScene, maxSl1ItemsPerSection]
  obtain ⟨pressure, read, rushing⟩ := catalog_rushes calm.pressureScope known
  have accepted := validate_pressed calmly rfl few read
  have member : demand ∈ calm.demand := by simp [listed]
  have valid := validate_valid accepted
  have wants := rush_wants valid rushing listed own schedule defaultBackend
  have refused := (tick_refuses valid defaultBackend member 0).1.mpr
    (Nat.lt_of_le_of_lt (Nat.sub_le _ _) wants)
  exact ⟨_, accepted, demand, member, refused,
    ((overflow_warned_once accepted defaultBackend member).2.1 0).mpr
      ⟨refused, (overflowLatch valid defaultBackend member).start⟩⟩

end Simetro.Sl1
