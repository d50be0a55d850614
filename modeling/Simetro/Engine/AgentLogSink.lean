import Simetro.Engine.AgentLogRuns
import Simetro.Engine.LogLine

/-! The agent log down to the bytes of its sink, each of whose writes may break off. -/

namespace Simetro.Engine

open Simetro.Bridge Simetro.Library Simetro.Protocol

/-- A writer: what it holds, how often `write_all` was called, and at which calls it breaks off,
after how many bytes. -/
structure Sink where
  bytes : List UInt8 := []
  calls : Nat := 0
  breaks : Nat → Option Nat

/-- A call that fails has not written everything. -/
def Sink.writeAll (sink : Sink) (buffer : List UInt8) : Sink × Bool :=
  match sink.breaks sink.calls with
  | none => ({ sink with bytes := sink.bytes ++ buffer, calls := sink.calls + 1 }, true)
  | some count =>
    ({ sink with
        bytes := sink.bytes ++ buffer.take (min count (buffer.length - 1))
        calls := sink.calls + 1 }, false)

/-- The log as the source has it. Its ring holds lines. -/
structure LineLog where
  sink : Sink
  ring : List (List UInt8) := []
  ringCap : Nat := AgentLog.defaultRingCap
  degraded : Bool := false
  dropped : Nat := 0

namespace LineLog

variable (text : F32Text)

def lineEnd : UInt8 := 10

def pushRing (log : LineLog) (line : List UInt8) : LineLog :=
  if log.ringCap ≤ log.ring.length then
    { log with
      ring := log.ring.tail ++ [line]
      dropped := saturatingAdd u64Max log.dropped 1 }
  else { log with ring := log.ring ++ [line] }

def firstDegrade (log : LineLog) : LineLog × Option WarningPayload :=
  if log.degraded then (log, none) else ({ log with degraded := true }, some .agentLogSlow)

/-- The line and then its end. No row of the log fails to serialize. -/
def append (log : LineLog) (entry : AgentLogEntry) : LineLog × Option WarningPayload :=
  match entry.validate with
  | .error _ => { log with dropped := saturatingAdd u64Max log.dropped 1 }.firstDegrade
  | .ok () =>
    let line := entry.line text
    if log.degraded then (log.pushRing line, none)
    else
      match log.sink.writeAll line with
      | (sink, false) => ({ log with sink }.pushRing line).firstDegrade
      | (sink, true) =>
        match sink.writeAll [lineEnd] with
        | (sink, false) => ({ log with sink }.pushRing line).firstDegrade
        | (sink, true) => ({ log with sink }, none)

def appendAll (log : LineLog) (entries : List AgentLogEntry) :
    LineLog × List (Option WarningPayload) :=
  entries.foldl (fun (log, warnings) entry =>
    ((log.append text entry).1, warnings ++ [(log.append text entry).2])) (log, [])

/-- Rows of the abstract log are lines of this one. The sink holds whole lines and, behind them,
at most the start of another. -/
structure Shows (entries : List AgentLogEntry) (log : LineLog) (rows : AgentLog (List UInt8)) :
    Prop where
  sink : ∃ tail, log.sink.bytes = rows.sink.flatMap (fun line => line ++ [lineEnd]) ++ tail ∧
    (tail = [] ∨ ∃ entry ∈ entries, tail <+: entry.line text)
  fails : ∀ write, rows.fails write =
    ((log.sink.breaks (2 * write)).isSome || (log.sink.breaks (2 * write + 1)).isSome)
  ring : log.ring = rows.ring
  ringCap : log.ringCap = rows.ringCap
  degraded : log.degraded = rows.degraded
  dropped : log.dropped = rows.dropped

/-- Until the fall back every row took two writes and left a whole line. -/
structure Refines (entries : List AgentLogEntry) (log : LineLog) (rows : AgentLog (List UInt8)) :
    Prop extends Shows text entries log rows where
  calls : log.degraded = false → log.sink.calls = 2 * rows.writes
  whole : log.degraded = false →
    log.sink.bytes = rows.sink.flatMap fun line => line ++ [lineEnd]

section Steps

variable {text} {entries : List AgentLogEntry} {log : LineLog} {rows : AgentLog (List UInt8)}
  {entry : AgentLogEntry}

theorem Shows.pushRing (shows : Shows text entries log rows) (line : List UInt8) :
    Shows text entries (log.pushRing line) (rows.pushRing line) := by
  unfold LineLog.pushRing AgentLog.pushRing
  rw [shows.ringCap, shows.ring, shows.dropped]
  split
  · exact ⟨shows.sink, shows.fails, rfl, rfl, shows.degraded, rfl⟩
  · exact ⟨shows.sink, shows.fails, rfl, rfl, shows.degraded, rfl⟩

theorem Shows.firstDegrade (shows : Shows text entries log rows) :
    Refines text entries log.firstDegrade.1 rows.firstDegrade.1 ∧
      log.firstDegrade.2 = rows.firstDegrade.2 := by
  unfold LineLog.firstDegrade AgentLog.firstDegrade
  rw [← shows.degraded]
  split
  case isTrue degraded =>
    refine ⟨⟨shows, fun fine => ?_, fun fine => ?_⟩, rfl⟩
    · rw [degraded] at fine
      cases fine
    · rw [degraded] at fine
      cases fine
  case isFalse =>
    exact ⟨⟨⟨shows.sink, shows.fails, shows.ring, shows.ringCap, rfl, shows.dropped⟩,
      fun fine => Bool.noConfusion fine, fun fine => Bool.noConfusion fine⟩, rfl⟩

theorem Shows.more (shows : Shows text entries log rows) (entry : AgentLogEntry) :
    Shows text (entries ++ [entry]) log rows := by
  obtain ⟨tail, bytes, start⟩ := shows.sink
  refine ⟨⟨tail, bytes, start.imp id ?_⟩, shows.fails, shows.ring, shows.ringCap, shows.degraded,
    shows.dropped⟩
  rintro ⟨other, listed, before⟩
  exact ⟨other, List.mem_append_left _ listed, before⟩

/-- A line that broke off, or whose end did, stands unfinished behind the others. -/
theorem Refines.breakOff (refines : Refines text entries log rows) (fine : log.degraded = false)
    {tail : List UInt8} (start : tail <+: entry.line text) (calls writes : Nat) :
    Shows text (entries ++ [entry])
      { log with
        sink := ⟨log.sink.bytes ++ tail, calls, log.sink.breaks⟩
        degraded := false }
      { rows with
        writes
        degraded := false } := by
  refine ⟨⟨tail, ?_, .inr ⟨entry, by simp, start⟩⟩, refines.fails, refines.ring, refines.ringCap,
    rfl, refines.dropped⟩
  exact congrArg (· ++ tail) (refines.whole fine)

theorem pushRing_degraded (log : LineLog) (line : List UInt8) :
    (log.pushRing line).degraded = log.degraded := by
  unfold pushRing
  split <;> rfl

/-- Both logs take an entry alike. -/
theorem Refines.append (refines : Refines text entries log rows) (entry : AgentLogEntry) :
    Refines text (entries ++ [entry]) (log.append text entry).1
        (rows.append (AgentLogEntry.line text) entry).1 ∧
      (log.append text entry).2 = (rows.append (AgentLogEntry.line text) entry).2 := by
  have shows := refines.toShows.more entry
  unfold LineLog.append AgentLog.append
  cases entry.validate with
  | error _ =>
    refine Shows.firstDegrade ⟨shows.sink, shows.fails, shows.ring, shows.ringCap, shows.degraded, ?_⟩
    exact congrArg (saturatingAdd u64Max · 1) shows.dropped
  | ok _ =>
    cases fine : log.degraded with
    | true =>
      have degraded : rows.degraded = true := refines.degraded.symm.trans fine
      simp only [degraded, if_true, and_true]
      refine ⟨shows.pushRing _, fun healthy => ?_, fun healthy => ?_⟩
      · rw [pushRing_degraded, fine] at healthy
        cases healthy
      · rw [pushRing_degraded, fine] at healthy
        cases healthy
    | false =>
      have healthy : rows.degraded = false := refines.degraded.symm.trans fine
      have fails := refines.fails rows.writes
      simp only [healthy, Bool.false_eq_true, if_false, Sink.writeAll, refines.calls fine]
      cases first : log.sink.breaks (2 * rows.writes) with
      | some count =>
        rw [first, Option.isSome_some, Bool.true_or] at fails
        simp only [fails, if_true]
        exact ((refines.breakOff fine (List.take_prefix _ _) _ _).pushRing _).firstDegrade
      | none =>
        simp only
        cases second : log.sink.breaks (2 * rows.writes + 1) with
        | some count =>
          rw [second, Option.isSome_some, Bool.or_true] at fails
          simp only [fails, if_true]
          have nothing : [lineEnd].take (min count ([lineEnd].length - 1)) = [] := by simp
          rw [nothing, List.append_nil]
          exact ((refines.breakOff fine (List.prefix_refl _) _ _).pushRing _).firstDegrade
        | none =>
          rw [first, second] at fails
          simp only [fails, Option.isSome_none, Bool.or_self, Bool.false_eq_true, if_false, and_true]
          have whole : log.sink.bytes ++ entry.line text ++ [lineEnd] =
              (rows.sink ++ [entry.line text]).flatMap fun line => line ++ [lineEnd] := by
            rw [refines.whole fine]
            simp
          refine ⟨⟨⟨[], ?_, .inl rfl⟩, refines.fails, refines.ring, refines.ringCap, rfl,
            refines.dropped⟩, fun _ => ?_, fun _ => whole⟩
          · rw [List.append_nil]
            exact whole
          · simp only
            omega

theorem append_degraded (degraded : log.degraded = true) (entry : AgentLogEntry) :
    (log.append text entry).1.degraded = true ∧ (log.append text entry).1.sink = log.sink := by
  unfold LineLog.append
  split
  · simp [firstDegrade, degraded]
  · simp only [degraded, if_true]
    refine ⟨(pushRing_degraded _ _).trans degraded, ?_⟩
    unfold LineLog.pushRing
    split <;> rfl

end Steps

/-- A log with an empty sink that breaks off where it will. -/
def opened (breaks : Nat → Option Nat) (ringCap : Nat) : LineLog where
  sink := { breaks }
  ringCap

/-- Nothing is lost silently by the log that took these entries. -/
structure Accounted (log : LineLog) (warnings : List (Option WarningPayload)) (cap : Nat)
    (entries : List AgentLogEntry) : Prop where
  /-- Every entry has one place: a whole line of the sink, the ring, or the counter. -/
  placed : ∃ sunk kept lost : List (AgentLogEntry × Nat),
    (sunk ++ kept ++ lost).Perm entries.zipIdx ∧
      (∃ tail, log.sink.bytes = (sunk.flatMap fun entry => entry.1.line text ++ [lineEnd]) ++ tail ∧
        (tail = [] ∨ ∃ entry ∈ entries, tail <+: entry.line text)) ∧
      log.ring = kept.map (fun entry => entry.1.line text) ∧ log.dropped = min u64Max lost.length
  counted : log.sink.bytes.count lineEnd + log.ring.length ≤ entries.length ∧
    log.dropped = min u64Max (entries.length - (log.sink.bytes.count lineEnd + log.ring.length))
  bounded : log.ring.length ≤ cap
  announced : warnings.countP Option.isSome ≤ 1

section Runs

variable {text} {entries : List AgentLogEntry} {log : LineLog}

theorem appendAll_concat (log : LineLog) (entries : List AgentLogEntry) (entry : AgentLogEntry) :
    log.appendAll text (entries ++ [entry]) =
      (((log.appendAll text entries).1.append text entry).1,
        (log.appendAll text entries).2 ++ [((log.appendAll text entries).1.append text entry).2]) := by
  simp [LineLog.appendAll]

/-- The abstract log whose write fails where a call of this one breaks off. -/
def rowsOf (breaks : Nat → Option Nat) (cap : Nat) : AgentLog (List UInt8) where
  fails write := (breaks (2 * write)).isSome || (breaks (2 * write + 1)).isSome
  ringCap := cap

theorem appendAll_refines (breaks : Nat → Option Nat) (cap : Nat) (entries : List AgentLogEntry) :
    Refines text entries ((opened breaks cap).appendAll text entries).1
        (AgentLog.appendAll (AgentLogEntry.line text) (rowsOf breaks cap) entries).1 ∧
      ((opened breaks cap).appendAll text entries).2 =
        (AgentLog.appendAll (AgentLogEntry.line text) (rowsOf breaks cap) entries).2 := by
  induction entries using List.reverseRecOn with
  | nil =>
    exact ⟨⟨⟨⟨[], rfl, .inl rfl⟩, fun _ => rfl, rfl, rfl, rfl, rfl⟩, fun _ => rfl, fun _ => rfl⟩, rfl⟩
  | append_singleton entries entry ih =>
    obtain ⟨refines, warnings⟩ := ih
    obtain ⟨appended, warning⟩ := refines.append entry
    rw [appendAll_concat, AgentLog.appendAll_concat]
    exact ⟨appended, by rw [warnings, warning]⟩

/-- Every line end of the sink ends a row. -/
theorem count_lines {Label : Type} (sunk : List (AgentLogEntry × Label)) :
    (sunk.flatMap fun entry => entry.1.line text ++ [lineEnd]).count lineEnd = sunk.length := by
  induction sunk with
  | nil => rfl
  | cons entry rest ih =>
    have plain : (entry.1.line text).count lineEnd = 0 := List.count_eq_zero.mpr (line_plain entry.1)
    rw [List.flatMap_cons, List.count_append, ih, List.count_append, plain, List.length_cons]
    simp
    omega

theorem tail_plain {tail : List UInt8} (start : tail = [] ∨ ∃ entry ∈ entries, tail <+: entry.line text) :
    tail.count lineEnd = 0 := by
  refine List.count_eq_zero.mpr fun listed => ?_
  rcases start with rfl | ⟨entry, -, before⟩
  · cases listed
  · exact line_plain entry (before.subset listed)

theorem appendAll_accounted (breaks : Nat → Option Nat) {cap : Nat} (room : 0 < cap)
    (entries : List AgentLogEntry) :
    Accounted text ((opened breaks cap).appendAll text entries).1
      ((opened breaks cap).appendAll text entries).2 cap entries := by
  obtain ⟨refines, warnings⟩ := @appendAll_refines text breaks cap entries
  obtain ⟨sunk, kept, lost, placed⟩ := @AgentLog.appendAll_placed _ (AgentLogEntry.line text)
    (rowsOf breaks cap).fails cap room entries
  obtain ⟨tail, bytes, start⟩ := refines.sink
  have lines : ((opened breaks cap).appendAll text entries).1.sink.bytes =
      (sunk.flatMap fun entry => entry.1.line text ++ [lineEnd]) ++ tail := by
    refine bytes.trans (congrArg (· ++ tail) ?_)
    refine (congrArg (List.flatMap _) placed.sink).trans ?_
    rw [List.flatMap_map]
  have ring := refines.ring.trans placed.ring
  have dropped := refines.dropped.trans placed.dropped
  have total := placed.each.length_eq
  simp only [List.length_append, List.length_zipIdx] at total
  have count : ((opened breaks cap).appendAll text entries).1.sink.bytes.count lineEnd = sunk.length := by
    rw [lines, List.count_append, count_lines, tail_plain start, Nat.add_zero]
  have ringLength := congrArg List.length ring
  rw [List.length_map] at ringLength
  refine ⟨⟨sunk, kept, lost, placed.each, ⟨tail, lines, start⟩, ring, dropped⟩, ?_, ?_, ?_⟩
  · rw [count, ringLength, dropped]
    refine ⟨by omega, ?_⟩
    rw [show entries.length - (sunk.length + kept.length) = lost.length by omega]
  · rw [refines.ring]
    exact placed.bounded.trans_eq (AgentLog.appendAll_ringCap entries)
  · rw [warnings]
    have announced := @AgentLog.appendAll_announced _ (AgentLogEntry.line text) (rowsOf breaks cap) rfl
      entries
    rw [announced]
    split <;> decide

/-- A degraded log leaves its sink alone. -/
theorem appendAll_silent (degraded : log.degraded = true) (entries : List AgentLogEntry) :
    (log.appendAll text entries).1.sink = log.sink := by
  have both : (log.appendAll text entries).1.degraded = true ∧
      (log.appendAll text entries).1.sink = log.sink := by
    induction entries using List.reverseRecOn with
    | nil => exact ⟨degraded, rfl⟩
    | append_singleton entries entry ih =>
      obtain ⟨still, sink⟩ := @append_degraded text _ ih.1 entry
      rw [appendAll_concat]
      exact ⟨still, sink.trans ih.2⟩
  exact both.2

theorem appendAll_append (log : LineLog) (before after : List AgentLogEntry) :
    (log.appendAll text (before ++ after)).1 =
      ((log.appendAll text before).1.appendAll text after).1 := by
  induction after using List.reverseRecOn with
  | nil => rw [List.append_nil]; rfl
  | append_singleton after entry ih =>
    rw [← List.append_assoc, appendAll_concat, appendAll_concat, ih]

/-- Whatever breaks off, every entry is a line of the sink, in the ring or counted as dropped, and
after the one announced fall back the sink is left alone. -/
theorem appendAll_loses_nothing (text : F32Text) (breaks : Nat → Option Nat) (cap : Nat)
    (room : 0 < cap) (entries : List AgentLogEntry) :
    Accounted text ((opened breaks cap).appendAll text entries).1
        ((opened breaks cap).appendAll text entries).2 cap entries ∧
      ∀ before after, entries = before ++ after →
        ((opened breaks cap).appendAll text before).1.degraded = true →
          ((opened breaks cap).appendAll text entries).1.sink =
            ((opened breaks cap).appendAll text before).1.sink := by
  refine ⟨appendAll_accounted breaks room entries, ?_⟩
  rintro before after rfl degraded
  rw [appendAll_append, appendAll_silent degraded]

/-- A row of no schema version. -/
def versionless : AgentLogEntry where
  schemaVersion := 0
  tick := 0
  agentId := "planner"
  observationHash := 0
  parsedAction := none
  consideredCount := 0
  rationale := ""

theorem appendAll_loses_nothing_versionless :
    Accounted plainText ((opened (fun _ => none) 1).appendAll plainText [versionless]).1
        ((opened (fun _ => none) 1).appendAll plainText [versionless]).2 1 [versionless] ∧
      ∀ before after, [versionless] = before ++ after →
        ((opened (fun _ => none) 1).appendAll plainText before).1.degraded = true →
          ((opened (fun _ => none) 1).appendAll plainText [versionless]).1.sink =
            ((opened (fun _ => none) 1).appendAll plainText before).1.sink :=
  appendAll_loses_nothing plainText (fun _ => none) 1 (by decide) [versionless]

theorem appendAll_versionless (log : LineLog) (count : Nat) :
    (log.appendAll text (List.replicate count versionless)).1.sink = log.sink ∧
      (log.appendAll text (List.replicate count versionless)).1.ring = log.ring := by
  induction count with
  | zero => exact ⟨rfl, rfl⟩
  | succ count ih =>
    have invalid : versionless.validate = .error (.unsupportedVersion 0) := rfl
    rw [List.replicate_succ', appendAll_concat]
    unfold LineLog.append
    simp only [invalid, firstDegrade]
    split <;> exact ih

/-- The counter stops at the largest `u64`: of `2 ^ 64` rows that no log takes it counts one less. -/
theorem dropped_saturates :
    (List.replicate (2 ^ 64) versionless).length ≠
      ((opened (fun _ => none) 1).appendAll plainText
          (List.replicate (2 ^ 64) versionless)).1.sink.bytes.count lineEnd +
        ((opened (fun _ => none) 1).appendAll plainText
          (List.replicate (2 ^ 64) versionless)).1.ring.length +
        ((opened (fun _ => none) 1).appendAll plainText
          (List.replicate (2 ^ 64) versionless)).1.dropped := by
  have empty := @appendAll_versionless plainText (opened (fun _ => none) 1) (2 ^ 64)
  have counted := (@appendAll_accounted plainText (fun _ => none) 1 (by decide)
    (List.replicate (2 ^ 64) versionless)).counted.2
  rw [counted, empty.1, empty.2, List.length_replicate]
  decide

end Runs

end LineLog

end Simetro.Engine
