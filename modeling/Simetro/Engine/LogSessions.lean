import Simetro.Engine.AgentLogSink
import Simetro.Engine.DecisionRuns
import Simetro.Engine.LogRoundTrip

/-! Runs of a tick runner with a log whose sink never fails: its lines are the choices the run
sent, in their order. -/

namespace Simetro.Engine

open Simetro.Bridge Simetro.Library Simetro.Protocol Simetro.Sl1

/-- What an agent chose at a tick. -/
structure Choice where
  tick : Nat
  agentId : String
  chosen : Option Action
  deriving DecidableEq

namespace Choice

def key (choice : Choice) : DecisionKey := (choice.tick, choice.agentId)

def event (choice : Choice) : SimEvent :=
  .agentDecided choice.agentId ((choice.chosen.map Action.tag).getD .noOp)

end Choice

def AgentLogEntry.choice (entry : AgentLogEntry) : Choice :=
  ⟨entry.tick, entry.agentId, entry.parsedAction⟩

def Decision.choice (tick : Nat) (decision : Decision) : Choice :=
  ⟨tick, decision.agentId, decision.report.chosen⟩

def TickRecord.reports (record : TickRecord) : List AgentReport :=
  record.messages.filterMap SimMessage.report?

/-- The choices of a tick: who decided, with the report sent for it. -/
def TickRecord.choices (record : TickRecord) : List Choice :=
  List.zipWith (fun key report => ⟨key.1, key.2, report.chosen⟩) record.decided record.reports

namespace Session

variable {Mind Log : Type} (session : Session Mind Log)

/-- The events of decisions, as they were sent. -/
def decidedEvents : List SimEvent :=
  session.records.flatMap fun record => record.events.filter SimEvent.isDecided

def reports : List AgentReport := session.records.flatMap TickRecord.reports

def choices : List Choice := session.records.flatMap TickRecord.choices

/-- The bytes of the attached log's sink. -/
def written (session : Session Mind LineLog) : List UInt8 :=
  (session.machine.runner.agentLog.map fun log => log.sink.bytes).getD []

end Session

namespace LineLog

variable (text : F32Text)

/-- The row the tick runner appends for a decision. -/
def record (log : LineLog) (observation : Observation) (agentId : String) (report : AgentReport) :
    LineLog × Option WarningPayload :=
  log.append text (.new observation agentId report.chosen report.considered.length report.rationale)

/-- A log that never failed and never will, with a line for each entry. -/
structure Holds (entries : List AgentLogEntry) (log : LineLog) : Prop where
  fails : log.sink.breaks = fun _ => none
  degraded : log.degraded = false
  bytes : log.sink.bytes = entries.flatMap fun entry => entry.line text ++ [lineEnd]

variable {text} {log : LineLog} {entries : List AgentLogEntry}

theorem Holds.append (holds : log.Holds text entries) {entry : AgentLogEntry}
    (valid : entry.validate = .ok ()) : (log.append text entry).1.Holds text (entries ++ [entry]) := by
  unfold LineLog.append
  simp only [valid, holds.degraded, Bool.false_eq_true, if_false, Sink.writeAll, holds.fails]
  refine ⟨rfl, rfl, ?_⟩
  rw [List.flatMap_append, List.flatMap_singleton, ← holds.bytes, ← List.append_assoc]

end LineLog

/-- The engine with a log of lines. -/
def lineSystems {Mind : Type} (text : F32Text) (display : Float32 → String) (agent : Agent Mind) :
    Systems Transit (AgentHost Mind) LineLog Observation :=
  hostedSystems display agent (LineLog.record text)

/-- An agent observes the present tick, and the numbers of its action are those of their types. -/
structure Attests (tick : Nat) (decision : Decision) : Prop where
  seen : ∀ seen, decision.seen = some seen → seen.tick = tick
  typed : ∀ action, decision.report.chosen = some action → FitsAction action

/-- A decision whose row the log takes. -/
structure Loggable (tick : Nat) (decision : Decision) : Prop extends Attests tick decision where
  considered : decision.report.considered.length ≤ AgentHost.maxConsidered
  rationale : decision.report.rationale.length ≤ AgentHost.maxRationaleChars

section Rows

variable {Mind : Type} {agent : Agent Mind} {sound : AgentHost Mind → Prop}

/-- A host passes no report on before it trimmed it. -/
theorem step_trimmed {host : AgentHost Mind} {world : World Transit} {report : AgentReport}
    (reported : (host.step agent world).2 = .ok report) :
    report.considered.length ≤ AgentHost.maxConsidered ∧
      report.rationale.length ≤ AgentHost.maxRationaleChars := by
  obtain ⟨untrimmed, rfl⟩ : ∃ untrimmed, report = AgentHost.trimReport untrimmed := by
    unfold AgentHost.step at reported
    split at reported
    · cases reported
    · split at reported
      · cases reported
      · cases reported
      · cases reported
        exact ⟨_, rfl⟩
  constructor
  · exact List.length_take_le _ _
  · unfold AgentHost.trimReport
    dsimp only
    split
    · rw [String.length_ofList]
      exact List.length_take_le _ _
    · rename_i short
      exact Nat.le_of_not_lt short

theorem Agent.Makes.loggable (makes : agent.Makes sound Attests) : agent.Makes sound Loggable where
  observes := makes.observes
  steps := makes.steps
  unseen host world report held reported :=
    ⟨makes.unseen host world report held reported, (step_trimmed reported).1, (step_trimmed reported).2⟩
  logged host world report held reported :=
    ⟨makes.logged host world report held reported, (step_trimmed reported).1, (step_trimmed reported).2⟩

/-- What the log asks of an id. -/
def ProperName (name : String) : Prop := 1 ≤ name.utf8ByteSize ∧ name.utf8ByteSize ≤ AgentLog.agentIdMaxLen

instance (name : String) : Decidable (ProperName name) := inferInstanceAs (Decidable (_ ∧ _))

/-- The row of a decision, of what the log observed for it. -/
def Decision.entry (decision : Decision) (seen : Observation) : AgentLogEntry :=
  .new seen decision.agentId decision.report.chosen decision.report.considered.length
    decision.report.rationale

theorem entry_valid {tick : Nat} {decision : Decision} (loggable : Loggable tick decision)
    (named : ProperName decision.agentId) (seen : Observation) :
    (decision.entry seen).validate = .ok () := by
  have present : decision.agentId.isEmpty = false := by
    have bytes := named.1
    refine String.isEmpty_eq_false_iff.mpr fun empty => ?_
    rw [empty] at bytes
    exact absurd bytes (by decide)
  have within : ¬ AgentLog.agentIdMaxLen < decision.agentId.utf8ByteSize := Nat.not_lt.mpr named.2
  have short : ¬ AgentLog.rationaleMaxLen < decision.report.rationale.utf8ByteSize := by
    have bytes := utf8ByteSize_le decision.report.rationale
    have characters := loggable.rationale
    unfold AgentHost.maxRationaleChars at characters
    unfold AgentLog.rationaleMaxLen
    omega
  unfold AgentLogEntry.validate
  simp only [Decision.entry, AgentLogEntry.new, AgentLogEntry.validateResponse, present, within,
    short]
  rfl

theorem entry_fits {tick : Nat} {decision : Decision} (loggable : Loggable tick decision)
    (early : tick ≤ u64Max) {seen : Observation} (observed : decision.seen = some seen) :
    FitsEntry (decision.entry seen) := by
  have now := loggable.seen seen observed
  have count := loggable.considered
  refine ⟨show AgentLog.schemaVersion < u32Bound by decide, ?_, by rintro _ ⟨⟩, loggable.typed, ?_, by rintro _ ⟨⟩, by rintro _ ⟨⟩,
    by rintro _ ⟨⟩⟩
  · change seen.tick < u64Bound
    unfold u64Bound
    unfold u64Max at early
    omega
  · change decision.report.considered.length < u64Bound
    unfold AgentHost.maxConsidered at count
    unfold u64Bound
    omega

/-- The decisions of a tick are written, each with what the log observed for it. -/
theorem records_written {text : F32Text} {tick : Nat} (early : tick ≤ u64Max)
    {decisions : List Decision} (loggable : ∀ decision ∈ decisions, Loggable tick decision)
    (named : ∀ decision ∈ decisions, ProperName decision.agentId)
    (seen : ∀ decision ∈ decisions, decision.seen.isSome = true) {log : LineLog}
    {entries : List AgentLogEntry} (holds : log.Holds text entries) :
    ∃ after more, decisions.foldl (Decision.record (LineLog.record text)) (some log) = some after ∧
      after.Holds text (entries ++ more) ∧ (∀ entry ∈ more, FitsEntry entry) ∧
      more.map AgentLogEntry.choice = decisions.map (Decision.choice tick) := by
  induction decisions generalizing log entries with
  | nil => exact ⟨log, [], rfl, by rwa [List.append_nil], by simp, rfl⟩
  | cons decision rest ih =>
    obtain ⟨observed, present⟩ := Option.isSome_iff_exists.mp (seen decision (by simp))
    have allowed := loggable decision (by simp)
    have valid := entry_valid allowed (named decision (by simp)) observed
    obtain ⟨after, more, ran, later, fits, choices⟩ := ih
      (fun other listed => loggable other (by simp [listed]))
      (fun other listed => named other (by simp [listed]))
      (fun other listed => seen other (by simp [listed])) (holds.append valid)
    have first : decision.record (LineLog.record text) (some log) =
        some (log.append text (decision.entry observed)).1 := by
      unfold Decision.record
      rw [present]
      rfl
    refine ⟨after, decision.entry observed :: more, ?_, ?_, ?_, ?_⟩
    · rw [List.foldl_cons, first]
      exact ran
    · rw [List.append_assoc] at later
      exact later
    · intro entry listed
      rcases List.mem_cons.mp listed with rfl | other
      · exact entry_fits allowed early present
      · exact fits entry other
    · have same : (decision.entry observed).choice = decision.choice tick := by
        rw [← allowed.seen observed present]
        rfl
      rw [List.map_cons, List.map_cons, choices, same]

theorem choices_of_tick {record : TickRecord} {decisions : List Decision}
    (decided : record.events.filter SimEvent.isDecided = decisions.map Decision.event)
    (reports : record.reports = decisions.map (·.report)) :
    record.choices = decisions.map (Decision.choice record.tick) := by
  unfold TickRecord.choices
  rw [decided_of_events decided, reports, List.zipWith_map, List.zipWith_self]
  rfl

end Rows

section Runs

variable {Mind : Type} {text : F32Text} {display : Float32 → String} {agent : Agent Mind}
  {sound : AgentHost Mind → Prop} {names : List String} {session : Session Mind LineLog}

/-- The log holds a line for every choice of a session, in order. -/
structure Session.Traced (text : F32Text) (sound : AgentHost Mind → Prop) (names : List String)
    (session : Session Mind LineLog) : Prop where
  hosts : ∀ host ∈ session.machine.runner.hosts, sound host
  names : session.machine.runner.hosts.map AgentHost.id = names
  log : ∃ log entries, session.machine.runner.agentLog = some log ∧ log.Holds text entries ∧
    (∀ entry ∈ entries, FitsEntry entry) ∧ entries.map AgentLogEntry.choice = session.choices
  keys : session.choices.map Choice.key = session.decided
  events : session.choices.map Choice.event = session.decidedEvents
  chosen : session.choices.map Choice.chosen = session.reports.map AgentReport.chosen
  once : (session.choices.map Choice.key).Nodup
  past : ∀ key ∈ session.choices.map Choice.key, key.1 ≤ session.machine.world.tick
  ordered : session.choices.Pairwise fun early late => early.tick ≤ late.tick

variable (display) in
/-- One step, while the clock still runs. -/
theorem Session.Traced.step (makes : agent.Makes sound Loggable) (backend : AgentBackend)
    (distinct : names.Nodup) (proper : ∀ name ∈ names, ProperName name)
    (traced : session.Traced text sound names) (running : session.machine.world.tick < u64Max)
    (step : RunnerStep) :
    (session.step (lineSystems text display agent) backend step).Traced text sound names ∧
      (session.step (lineSystems text display agent) backend step).machine.world.tick ≤
        session.machine.world.tick + 1 := by
  cases step with
  | enter state =>
    exact ⟨⟨traced.hosts, traced.names, traced.log, traced.keys, traced.events, traced.chosen,
      traced.once, traced.past, traced.ordered⟩, Nat.le_succ _⟩
  | tick =>
    obtain ⟨after, decisions, ran, ticked⟩ : ∃ after decisions,
        tickOnce (lineSystems text display agent) backend session.machine = .done after ∧
          session.machine.Ticked (LineLog.record text) sound Loggable after decisions :=
      tickOnce_decides display agent makes backend traced.hosts
    let record : TickRecord := ⟨after.world.tick, after.runner.events, after.runner.messages⟩
    have next : session.step (lineSystems text display agent) backend .tick =
        ⟨after, session.records ++ [record]⟩ := by
      unfold Session.step
      rw [ran]
    obtain ⟨-, before, onward⟩ := ticked.onward running
    obtain ⟨log, entries, attached, holds, fits, written⟩ := traced.log
    have named : ∀ decision ∈ decisions, ProperName decision.agentId := fun decision listed =>
      proper _ (traced.names ▸ ticked.once.subset (List.mem_map.mpr ⟨decision, listed, rfl⟩))
    have observed := ticked.seen (by rw [attached]; rfl)
    obtain ⟨logged, more, appended, longer, fitting, added⟩ := records_written
      (onward.trans (Nat.succ_le_of_lt running)) ticked.allowed named observed holds
    have new : record.choices = decisions.map (Decision.choice after.world.tick) :=
      choices_of_tick ticked.decided ticked.reports
    have choices : Session.choices ⟨after, session.records ++ [record]⟩ =
        session.choices ++ decisions.map (Decision.choice after.world.tick) := by
      unfold Session.choices
      rw [List.flatMap_append, List.flatMap_singleton, new]
    have keyed : (session.choices ++ decisions.map (Decision.choice after.world.tick)).map Choice.key =
        session.choices.map Choice.key ++ decisions.map (Decision.key after.world.tick) := by
      rw [List.map_append, List.map_map]
      rfl
    obtain ⟨once, past⟩ := ticked.keys running (traced.names ▸ distinct) traced.once traced.past
    rw [next]
    refine ⟨⟨ticked.hosts, ticked.names.trans traced.names, ?_, ?_, ?_, ?_, ?_, ?_, ?_⟩, onward⟩
    · refine ⟨logged, entries ++ more, ?_, longer, ?_, ?_⟩
      · rw [ticked.log, attached]
        exact appended
      · intro entry listed
        exact (List.mem_append.mp listed).elim (fits entry) (fitting entry)
      · rw [choices, List.map_append, written, added]
    · rw [choices, keyed, traced.keys]
      unfold Session.decided
      rw [List.flatMap_append, List.flatMap_singleton, decided_of_events ticked.decided]
    · rw [choices, List.map_append, traced.events, List.map_map]
      unfold Session.decidedEvents
      rw [List.flatMap_append, List.flatMap_singleton, ticked.decided]
      rfl
    · rw [choices, List.map_append, traced.chosen, List.map_map]
      unfold Session.reports
      rw [List.flatMap_append, List.flatMap_singleton, List.map_append]
      have sent : record.reports = decisions.map (·.report) := ticked.reports
      rw [sent, List.map_map]
      rfl
    · rw [choices, keyed]
      exact once
    · rw [choices, keyed]
      exact past
    · rw [choices]
      refine List.pairwise_append.mpr ⟨traced.ordered, ?_, ?_⟩
      · exact List.pairwise_map.mpr (List.pairwise_of_forall fun _ _ => Nat.le_refl _)
      · intro early listed late found
        obtain ⟨decision, -, rfl⟩ := List.mem_map.mp found
        exact (traced.past _ (List.mem_map_of_mem listed)).trans before

variable (display) in
/-- Every run that ends before the clock does leaves a trace. -/
theorem Session.Traced.run (makes : agent.Makes sound Loggable) (backend : AgentBackend)
    (distinct : names.Nodup) (proper : ∀ name ∈ names, ProperName name) {steps : List RunnerStep}
    (traced : session.Traced text sound names)
    (within : session.machine.world.tick + steps.length ≤ u64Max) :
    (session.run (lineSystems text display agent) backend steps).Traced text sound names := by
  induction steps generalizing session with
  | nil => exact traced
  | cons step rest ih =>
    rw [List.length_cons] at within
    obtain ⟨first, clock⟩ := traced.step display makes backend distinct proper (by omega) step
    exact ih first (by omega)

/-- A machine under a fresh log whose sink never fails. -/
theorem Session.traced_opened {machine : Machine Transit (AgentHost Mind) LineLog} {ringCap : Nat}
    (hosts : ∀ host ∈ machine.runner.hosts, sound host)
    (attached : machine.runner.agentLog = some (.opened (fun _ => none) ringCap)) :
    Session.Traced text sound (machine.runner.hosts.map AgentHost.id) { machine } :=
  ⟨hosts, rfl, ⟨_, [], attached, ⟨rfl, rfl, rfl⟩, by simp, rfl⟩, rfl, rfl, rfl, List.nodup_nil,
    by simp [Session.choices], List.Pairwise.nil⟩

end Runs

end Simetro.Engine
