import Simetro.Engine.AgentLog

/-! Runs of the agent log: where each entry ends up, and how often the fall back is announced. -/

namespace Simetro.Engine.AgentLog

open Simetro.Library Simetro.Protocol

variable {Row : Type}

/-- The log after a sequence of entries, and what each `append` returned. -/
def appendAll (row : AgentLogEntry → Row) (log : AgentLog Row) (entries : List AgentLogEntry) :
    AgentLog Row × List (Option WarningPayload) :=
  entries.foldl (fun (log, warnings) entry =>
    ((log.append row entry).1, warnings ++ [(log.append row entry).2])) (log, [])

/-- Every entry is a row of the sink, a row of the ring, or dropped. -/
structure Placed (row : AgentLogEntry → Row) (entries : List AgentLogEntry) (log : AgentLog Row)
    (sunk kept lost : List (AgentLogEntry × Nat)) : Prop where
  each : (sunk ++ kept ++ lost).Perm entries.zipIdx
  sink : log.sink = sunk.map fun entry => row entry.1
  ring : log.ring = kept.map fun entry => row entry.1
  dropped : log.dropped = min u64Max lost.length
  room : 0 < log.ringCap
  bounded : log.ring.length ≤ log.ringCap

/-- The fall back is announced when it happens. -/
def Announced (log : AgentLog Row) (warnings : List (Option WarningPayload)) : Prop :=
  warnings.countP Option.isSome = if log.degraded then 1 else 0

section Steps

variable {row : AgentLogEntry → Row} {log : AgentLog Row} {entries : List AgentLogEntry}
  {entry : AgentLogEntry} {sunk kept lost : List (AgentLogEntry × Nat)}

theorem appendAll_concat (log : AgentLog Row) (entries : List AgentLogEntry) (entry : AgentLogEntry) :
    appendAll row log (entries ++ [entry]) =
      ((((appendAll row log entries).1.append row entry).1),
        (appendAll row log entries).2 ++ [((appendAll row log entries).1.append row entry).2]) := by
  simp [appendAll]

/-- One more entry, next to those placed before. -/
theorem each_concat {before : List (AgentLogEntry × Nat)} (each : before.Perm entries.zipIdx)
    {after : List (AgentLogEntry × Nat)} (added : after.Perm (before ++ [(entry, entries.length)])) :
    after.Perm (entries ++ [entry]).zipIdx := by
  rw [List.zipIdx_append]
  exact added.trans (each.append (by simp))

theorem saturatingAdd_min (count : Nat) :
    saturatingAdd u64Max (min u64Max count) 1 = min u64Max (count + 1) := by
  unfold saturatingAdd
  omega

theorem Placed.drop (placed : Placed row entries log sunk kept lost) :
    Placed row (entries ++ [entry]) { log with dropped := saturatingAdd u64Max log.dropped 1 } sunk
      kept (lost ++ [(entry, entries.length)]) where
  each := each_concat placed.each (by simp)
  sink := placed.sink
  ring := placed.ring
  dropped := by
    rw [List.length_append]
    exact (congrArg (saturatingAdd u64Max · 1) placed.dropped).trans (saturatingAdd_min _)
  room := placed.room
  bounded := placed.bounded

/-- A full ring drops its oldest entry. -/
theorem Placed.pushRing (placed : Placed row entries log sunk kept lost) :
    ∃ kept lost, Placed row (entries ++ [entry]) (log.pushRing (row entry)) sunk kept lost := by
  unfold AgentLog.pushRing
  split
  case isTrue full =>
    cases kept with
    | nil =>
      have empty := placed.ring
      have room := placed.room
      rw [List.map_nil] at empty
      rw [empty, List.length_nil] at full
      omega
    | cons oldest rest =>
      have ring := placed.ring
      refine ⟨rest ++ [(entry, entries.length)], lost ++ [oldest], ?_, placed.sink, ?_, ?_,
        placed.room, ?_⟩
      · refine each_concat placed.each (List.perm_iff_count.mpr fun other => ?_)
        simp only [List.count_append, List.count_cons, List.count_nil]
        omega
      · rw [ring]
        simp
      · rw [List.length_append]
        exact (congrArg (saturatingAdd u64Max · 1) placed.dropped).trans (saturatingAdd_min _)
      · have bounded := placed.bounded
        rw [ring] at bounded ⊢
        simpa using bounded
  case isFalse space =>
    refine ⟨kept ++ [(entry, entries.length)], lost, ?_, placed.sink, ?_, placed.dropped,
      placed.room, ?_⟩
    · refine each_concat placed.each (List.perm_iff_count.mpr fun other => ?_)
      simp only [List.count_append]
      omega
    · rw [List.map_append, ← placed.ring]
      rfl
    · simp only [List.length_append, List.length_singleton]
      omega

theorem Placed.degrade (placed : Placed row entries log sunk kept lost) :
    Placed row entries log.firstDegrade.1 sunk kept lost := by
  unfold firstDegrade
  split
  · exact placed
  · exact ⟨placed.each, placed.sink, placed.ring, placed.dropped, placed.room, placed.bounded⟩

theorem Placed.append (placed : Placed row entries log sunk kept lost) :
    ∃ sunk kept lost, Placed row (entries ++ [entry]) (log.append row entry).1 sunk kept lost := by
  unfold AgentLog.append
  split
  · exact ⟨_, _, _, placed.drop.degrade⟩
  · split
    · obtain ⟨kept, lost, placed⟩ := placed.pushRing
      exact ⟨_, _, _, placed⟩
    · dsimp only
      split
      · have written : Placed row entries { log with writes := log.writes + 1 } sunk kept lost :=
          ⟨placed.each, placed.sink, placed.ring, placed.dropped, placed.room, placed.bounded⟩
        obtain ⟨kept, lost, placed⟩ := written.pushRing
        exact ⟨_, _, _, placed.degrade⟩
      · refine ⟨sunk ++ [(entry, entries.length)], kept, lost, ?_, ?_, placed.ring, placed.dropped,
          placed.room, placed.bounded⟩
        · refine each_concat placed.each (List.perm_iff_count.mpr fun other => ?_)
          simp only [List.count_append]
          omega
        · rw [List.map_append, ← placed.sink]
          rfl

theorem pushRing_degraded (log : AgentLog Row) (added : Row) :
    (log.pushRing added).degraded = log.degraded := by
  unfold pushRing
  split <;> rfl

/-- An announcement goes with the change to the ring, and there is no way back. -/
theorem append_announces : (if (log.append row entry).1.degraded then 1 else 0) =
    (if log.degraded then 1 else 0) + [(log.append row entry).2].countP Option.isSome := by
  unfold AgentLog.append
  cases degraded : log.degraded with
  | true => split <;> simp [firstDegrade, degraded, pushRing_degraded]
  | false =>
    split
    · simp [firstDegrade]
    · simp only [Bool.false_eq_true, if_false]
      split <;> simp [firstDegrade, pushRing_degraded]

theorem append_ringCap : (log.append row entry).1.ringCap = log.ringCap := by
  have pushed (log : AgentLog Row) (added : Row) : (log.pushRing added).ringCap = log.ringCap := by
    unfold pushRing
    split <;> rfl
  have degraded (log : AgentLog Row) : log.firstDegrade.1.ringCap = log.ringCap := by
    unfold firstDegrade
    split <;> rfl
  unfold AgentLog.append
  split
  · rw [degraded]
  · split
    · exact pushed _ _
    · dsimp only
      split
      · rw [degraded, pushed]
      · rfl

theorem appendAll_ringCap (entries : List AgentLogEntry) :
    (appendAll row log entries).1.ringCap = log.ringCap := by
  induction entries using List.reverseRecOn with
  | nil => rfl
  | append_singleton entries entry ih => rw [appendAll_concat, append_ringCap, ih]

theorem appendAll_announced (fine : log.degraded = false) (entries : List AgentLogEntry) :
    Announced (appendAll row log entries).1 (appendAll row log entries).2 := by
  induction entries using List.reverseRecOn with
  | nil => simp [appendAll, Announced, fine]
  | append_singleton entries entry ih =>
    rw [appendAll_concat, Announced, List.countP_append, append_announces, ih]

/-- From an empty log every entry of every run has its place. -/
theorem appendAll_placed (fails : Nat → Bool) {cap : Nat} (room : 0 < cap)
    (entries : List AgentLogEntry) : ∃ sunk kept lost,
      Placed row entries (appendAll row { fails, ringCap := cap } entries).1 sunk kept lost := by
  induction entries using List.reverseRecOn with
  | nil => exact ⟨[], [], [], .refl _, rfl, rfl, rfl, room, Nat.zero_le _⟩
  | append_singleton entries entry ih =>
    obtain ⟨sunk, kept, lost, placed⟩ := ih
    rw [appendAll_concat]
    exact placed.append

end Steps

end Simetro.Engine.AgentLog
