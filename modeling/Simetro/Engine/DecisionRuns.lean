import Simetro.Engine.AgentLog
import Simetro.Engine.Decisions

/-! Runs of a tick runner with everything it has sent and logged. Where the hosts have
different ids and report as themselves, nothing is decided twice. -/

namespace Simetro.Protocol

/-- Who decided at which tick. -/
abbrev DecisionKey := Nat × String

def SimEvent.decidedId? : SimEvent → Option String
  | .agentDecided agentId _ => some agentId
  | _ => none

def AgentReport.key (report : AgentReport) : DecisionKey := (report.tick, report.agentId)

end Simetro.Protocol

namespace Simetro.Engine

open Simetro.Library Simetro.Protocol Simetro.Sl1

/-- What a tick left in the buffers. -/
structure TickRecord where
  tick : Nat
  events : List SimEvent
  messages : List SimMessage

/-- A world and its runner, with a record of every tick so far. -/
structure Session (Mind Log : Type) where
  machine : Machine Transit (AgentHost Mind) Log
  records : List TickRecord := []

/-- The driver ticks the engine, or sets the state the world is in. -/
inductive RunnerStep where
  | tick
  | enter (state : RunState)

section Run

variable {Mind Log : Type} (systems : Systems Transit (AgentHost Mind) Log Observation)
  (backend : AgentBackend)

def Session.step (session : Session Mind Log) : RunnerStep → Session Mind Log
  | .tick =>
    match tickOnce systems backend session.machine with
    | .done machine =>
      ⟨machine, session.records ++ [⟨machine.world.tick, machine.runner.events, machine.runner.messages⟩]⟩
    | .panicked machine _ => { session with machine }
  | .enter state => { session with machine := session.machine.enter state }

def Session.run (session : Session Mind Log) (steps : List RunnerStep) : Session Mind Log :=
  steps.foldl (Session.step systems backend) session

end Run

def AgentLogEntry.key (entry : AgentLogEntry) : DecisionKey := (entry.tick, entry.agentId)

namespace TickRecord

variable (record : TickRecord)

def decided : List DecisionKey :=
  record.events.filterMap fun event => event.decidedId?.map fun id => (record.tick, id)

def reported : List DecisionKey :=
  (record.messages.filterMap SimMessage.report?).map AgentReport.key

end TickRecord

namespace Session

variable {Mind Row : Type}

def decided {Log : Type} (session : Session Mind Log) : List DecisionKey :=
  session.records.flatMap TickRecord.decided

def reported {Log : Type} (session : Session Mind Log) : List DecisionKey :=
  session.records.flatMap TickRecord.reported

/-- The rows of the attached log. -/
def logged (session : Session Mind (AgentLog Row)) : List Row :=
  (session.machine.runner.agentLog.map AgentLog.rows).getD []

/-- Each agent decides at most once at each tick: one event, one report, one row. -/
structure DecidesOnce (session : Session Mind (AgentLog AgentLogEntry)) : Prop where
  decided : session.decided.Nodup
  reported : session.reported.Nodup
  logged : (session.logged.map AgentLogEntry.key).Nodup

end Session

section Once

variable {Mind : Type}

/-- The agent reports as itself, about the present tick. -/
structure Candid (tick : Nat) (decision : Decision) : Prop where
  reported : decision.report.key = (tick, decision.agentId)
  seen : ∀ seen, decision.seen = some seen → seen.tick = tick

/-- The engine with a log of entries. -/
def loggingSystems (display : Float32 → String) (agent : Agent Mind) :
    Systems Transit (AgentHost Mind) (AgentLog AgentLogEntry) Observation :=
  hostedSystems display agent fun log => log.record id

def Decision.key (tick : Nat) (decision : Decision) : DecisionKey := (tick, decision.agentId)

theorem decided_of_events {record : TickRecord} {decisions : List Decision}
    (shown : record.events.filter SimEvent.isDecided = decisions.map Decision.event) :
    record.decided = decisions.map (Decision.key record.tick) := by
  have narrowed : record.decided = (record.events.filter SimEvent.isDecided).filterMap fun event =>
      event.decidedId?.map fun id => (record.tick, id) := by
    rw [List.filterMap_filter]
    apply List.filterMap_congr
    intro event _
    cases event <;> rfl
  rw [narrowed, shown, List.filterMap_map, ← List.filterMap_eq_map]
  rfl

theorem reported_of_messages {record : TickRecord} {decisions : List Decision}
    (shown : record.messages.filterMap SimMessage.report? = decisions.map (·.report))
    (candid : ∀ decision ∈ decisions, Candid record.tick decision) :
    record.reported = decisions.map (Decision.key record.tick) := by
  unfold TickRecord.reported
  rw [shown, List.map_map]
  apply List.map_congr_left
  intro decision listed
  exact (candid decision listed).reported

/-- Rows of a log that may be missing. -/
def rowsOf (log : Option (AgentLog AgentLogEntry)) : List AgentLogEntry :=
  (log.map AgentLog.rows).getD []

def OrderedLog (log : Option (AgentLog AgentLogEntry)) : Prop := ∀ some', log = some some' → some'.Ordered

theorem record_rows {log : Option (AgentLog AgentLogEntry)} {tick : Nat} {decision : Decision}
    (ordered : OrderedLog log) (candid : Candid tick decision) :
    let after := decision.record (fun log => log.record id) log
    OrderedLog after ∧ ((rowsOf after).map AgentLogEntry.key).Sublist
      ((rowsOf log).map AgentLogEntry.key ++ [decision.key tick]) := by
  unfold Decision.record
  cases log with
  | none => exact ⟨ordered, List.sublist_append_left _ _⟩
  | some log =>
    cases present : decision.seen with
    | none => exact ⟨ordered, List.sublist_append_left _ _⟩
    | some seen =>
      obtain ⟨still, grown⟩ := AgentLog.append_rows (ordered log rfl) id
        (.new seen decision.agentId decision.report.chosen decision.report.considered.length
          decision.report.rationale)
      constructor
      · intro other same
        cases same
        exact still
      · have keyed := grown.map AgentLogEntry.key
        rw [List.map_append] at keyed
        have key : AgentLogEntry.key (.new seen decision.agentId decision.report.chosen
            decision.report.considered.length decision.report.rationale) = decision.key tick := by
          rw [← candid.seen seen present]
          rfl
        rw [List.map_singleton, id, key] at keyed
        exact keyed

theorem records_rows {decisions : List Decision} {tick : Nat}
    (candid : ∀ decision ∈ decisions, Candid tick decision)
    {log : Option (AgentLog AgentLogEntry)} (ordered : OrderedLog log) :
    let after := decisions.foldl (Decision.record fun log => log.record id) log
    OrderedLog after ∧ ((rowsOf after).map AgentLogEntry.key).Sublist
      ((rowsOf log).map AgentLogEntry.key ++ decisions.map (Decision.key tick)) := by
  induction decisions generalizing log with
  | nil => exact ⟨ordered, by simp⟩
  | cons decision rest ih =>
    obtain ⟨still, first⟩ := record_rows ordered (candid decision (by simp))
    obtain ⟨last, later⟩ := ih (fun other listed => candid other (by simp [listed])) still
    refine ⟨last, later.trans ?_⟩
    rw [List.map_cons, ← List.singleton_append, ← List.append_assoc]
    exact first.append (.refl _)

variable {display : Float32 → String} {agent : Agent Mind} {sound : AgentHost Mind → Prop}
  {session : Session Mind (AgentLog AgentLogEntry)}

namespace Machine.Ticked

variable {Log : Type} {append : Log → Observation → String → AgentReport → Log × Option WarningPayload}
  {may : Nat → Decision → Prop} {before after : Machine Transit (AgentHost Mind) Log}
  {decisions : List Decision}

/-- While the clock runs, a tick that decides anything is one tick later. -/
theorem onward (ticked : before.Ticked append sound may after decisions)
    (running : before.world.tick < u64Max) :
    (decisions = [] ∨ after.world.tick = before.world.tick + 1) ∧
      before.world.tick ≤ after.world.tick ∧ after.world.tick ≤ before.world.tick + 1 := by
  rcases ticked.clock with ⟨none, still⟩ | clock
  · exact ⟨.inl none, by omega, by omega⟩
  · rw [saturatingAdd_of_le (Nat.succ_le_of_lt running)] at clock
    exact ⟨.inr clock, by omega, by omega⟩

/-- The decisions of a tick are none of those before it, and no two of them are one. -/
theorem keys (ticked : before.Ticked append sound may after decisions)
    (running : before.world.tick < u64Max)
    (distinct : (before.runner.hosts.map AgentHost.id).Nodup) {earlier : List DecisionKey}
    (once : earlier.Nodup) (past : ∀ key ∈ earlier, key.1 ≤ before.world.tick) :
    (earlier ++ decisions.map (Decision.key after.world.tick)).Nodup ∧
      ∀ key ∈ earlier ++ decisions.map (Decision.key after.world.tick), key.1 ≤ after.world.tick := by
  obtain ⟨fresh, onward, -⟩ := ticked.onward running
  constructor
  · refine List.Nodup.append once ?_ fun key early late => ?_
    · apply List.Nodup.of_map Prod.snd
      rw [List.map_map]
      exact ticked.once.nodup distinct
    · obtain ⟨decision, listed, rfl⟩ := List.mem_map.mp late
      rcases fresh with none | later
      · rw [none] at listed
        cases listed
      · have before : after.world.tick ≤ before.world.tick := past _ early
        omega
  · intro key listed
    rcases List.mem_append.mp listed with early | late
    · exact (past key early).trans onward
    · obtain ⟨decision, -, rfl⟩ := List.mem_map.mp late
      exact Nat.le_refl _

end Machine.Ticked

/-- A session after at most `count` ticks: all that was sent and logged stems from one list
of decisions. -/
structure Session.Tidy (sound : AgentHost Mind → Prop) (names : List String) (count : Nat)
    (session : Session Mind (AgentLog AgentLogEntry)) : Prop where
  hosts : ∀ host ∈ session.machine.runner.hosts, sound host
  names : session.machine.runner.hosts.map AgentHost.id = names
  clock : session.machine.world.tick ≤ count
  ordered : OrderedLog session.machine.runner.agentLog
  keys : ∃ keys : List DecisionKey, keys.Nodup ∧
    (∀ key ∈ keys, key.1 ≤ session.machine.world.tick) ∧ session.decided = keys ∧
      session.reported = keys ∧ (session.logged.map AgentLogEntry.key).Sublist keys

theorem Session.Tidy.once {names : List String} {count : Nat} (tidy : session.Tidy sound names count) :
    session.DecidesOnce := by
  obtain ⟨keys, distinct, -, decided, reported, logged⟩ := tidy.keys
  exact ⟨decided ▸ distinct, reported ▸ distinct, logged.nodup distinct⟩

variable (display) in
/-- One step, while the clock still runs. -/
theorem Session.Tidy.step (makes : agent.Makes sound Candid) (backend : AgentBackend)
    {names : List String} (distinct : names.Nodup) {count : Nat} (running : count < u64Max)
    (tidy : session.Tidy sound names count) (step : RunnerStep) :
    (session.step (loggingSystems display agent) backend step).Tidy sound names (count + 1) := by
  cases step with
  | enter state =>
    exact ⟨tidy.hosts, tidy.names, Nat.le_succ_of_le tidy.clock, tidy.ordered, tidy.keys⟩
  | tick =>
    have ticks : ∃ after decisions,
        tickOnce (loggingSystems display agent) backend session.machine = .done after ∧
          session.machine.Ticked (fun log => log.record id) sound Candid after decisions :=
      tickOnce_decides display agent makes backend tidy.hosts
    obtain ⟨after, decisions, ran, ticked⟩ := ticks
    have next : session.step (loggingSystems display agent) backend .tick = ⟨after, session.records ++
        [⟨after.world.tick, after.runner.events, after.runner.messages⟩]⟩ := by
      unfold Session.step
      rw [ran]
    obtain ⟨keys, once, past, decided, reported, logged⟩ := tidy.keys
    obtain ⟨ordered, rows⟩ := records_rows ticked.allowed tidy.ordered
    have running' : session.machine.world.tick < u64Max := Nat.lt_of_le_of_lt tidy.clock running
    obtain ⟨-, -, onward⟩ := ticked.onward running'
    obtain ⟨distinct', past'⟩ := ticked.keys running' (tidy.names ▸ distinct) once past
    have clock : after.world.tick ≤ count + 1 := onward.trans (Nat.succ_le_succ tidy.clock)
    rw [next]
    refine ⟨ticked.hosts, ticked.names.trans tidy.names, clock, ticked.log ▸ ordered,
      keys ++ decisions.map (Decision.key after.world.tick), distinct', past', ?_, ?_, ?_⟩
    · unfold Session.decided
      rw [List.flatMap_append, List.flatMap_singleton, decided_of_events ticked.decided]
      exact congrArg (· ++ _) decided
    · unfold Session.reported
      rw [List.flatMap_append, List.flatMap_singleton,
        reported_of_messages ticked.reports ticked.allowed]
      exact congrArg (· ++ _) reported
    · have now : (⟨after, session.records ++ [⟨after.world.tick, after.runner.events,
          after.runner.messages⟩]⟩ : Session Mind (AgentLog AgentLogEntry)).logged = rowsOf _ :=
        congrArg rowsOf ticked.log
      rw [now]
      exact rows.trans (logged.append (.refl _))

variable (display) in
/-- In every run that ends before the clock does, nothing is decided twice. -/
theorem Session.run_once (makes : agent.Makes sound Candid) (backend : AgentBackend)
    {names : List String} (distinct : names.Nodup) (start : session.Tidy sound names 0)
    {steps : List RunnerStep} (within : steps.length ≤ u64Max) :
    (session.run (loggingSystems display agent) backend steps).DecidesOnce := by
  suffices reach : ∀ count, count + steps.length ≤ u64Max → session.Tidy sound names count →
      (session.run (loggingSystems display agent) backend steps).Tidy sound names
        (count + steps.length) from
    (reach 0 (by omega) start).once
  clear within start
  induction steps generalizing session with
  | nil => exact fun count _ tidy => tidy
  | cons step rest ih =>
    intro count within tidy
    rw [List.length_cons] at within ⊢
    have first := tidy.step display makes backend distinct (show count < u64Max by omega) step
    have last := ih (count + 1) (by omega) first
    rw [show count + (rest.length + 1) = count + 1 + rest.length by omega]
    exact last

end Once

end Simetro.Engine
