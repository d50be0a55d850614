import Simetro.Engine.LogSessions
import Simetro.Headless.Replay

/-! The replay of a log against the run that wrote it: it sends the choices of the run again,
exactly when no chosen action holds an infinity or a NaN. -/

namespace Simetro.Headless

open Simetro.Bridge Simetro.Engine Simetro.Library Simetro.Protocol Simetro.Sl1

section Entries

variable {text : F32Text} {complaint : List Char → String} {entries : List AgentLogEntry}

/-- The line of a row is an entry, or an issue where a float of it is none. -/
theorem parseLine_chars {entry : AgentLogEntry} (fits : FitsEntry entry) (parsed : ParsedLog)
    (index : Nat) : parseLine text complaint parsed (entry.chars text, index) =
      let line := saturatingAdd u64Max index 1
      if finiteChoice entry.parsedAction then
        { parsed with entries := parsed.entries ++ [⟨line, entry⟩] }
      else
        { parsed with
          issues := parsed.issues ++
            [⟨"malformed_json", line, none, none, complaint (entry.chars text)⟩] } := by
  unfold parseLine
  simp only [trim_chars, chars_nonempty, Bool.false_eq_true, if_false, readEntry_chars fits]
  cases finiteChoice entry.parsedAction <;> rfl

theorem parseLines_chars (fits : ∀ entry ∈ entries, FitsEntry entry) (parsed : ParsedLog)
    (start : Nat) : ∃ issues, (issues = [] ↔ ∀ entry ∈ entries, finiteChoice entry.parsedAction = true) ∧
      (((entries.map (AgentLogEntry.chars text)).zipIdx start).foldl (parseLine text complaint)
        parsed).issues = parsed.issues ++ issues ∧
      (((entries.map (AgentLogEntry.chars text)).zipIdx start).foldl (parseLine text complaint)
        parsed).entries.map NumberedEntry.entry = parsed.entries.map NumberedEntry.entry ++
          entries.filter fun entry => finiteChoice entry.parsedAction := by
  induction entries generalizing parsed start with
  | nil => exact ⟨[], by simp, by simp, by simp⟩
  | cons entry rest ih =>
    have first := @parseLine_chars text complaint entry (fits entry (by simp)) parsed start
    rw [List.map_cons, List.zipIdx_cons, List.foldl_cons, first]
    have later := fun parsed => ih (fun other listed => fits other (by simp [listed])) parsed (start + 1)
    cases finite : finiteChoice entry.parsedAction with
    | true =>
      obtain ⟨issues, none, malformed, read⟩ := later { parsed with
        entries := parsed.entries ++ [⟨saturatingAdd u64Max start 1, entry⟩] }
      refine ⟨issues, by simp [none, finite], malformed, ?_⟩
      have kept : (entry :: rest).filter (fun entry => finiteChoice entry.parsedAction) =
          entry :: rest.filter fun entry => finiteChoice entry.parsedAction :=
        List.filter_cons_of_pos finite
      simp only [if_true]
      rw [read, kept, List.map_append, List.append_assoc]
      rfl
    | false =>
      let issue : ReplayIssue := ⟨"malformed_json", saturatingAdd u64Max start 1, none, none,
        complaint (entry.chars text)⟩
      obtain ⟨issues, -, malformed, read⟩ := later { parsed with issues := parsed.issues ++ [issue] }
      refine ⟨issue :: issues, by simp [finite], ?_, ?_⟩
      · simp only [Bool.false_eq_true, if_false]
        rw [malformed, List.append_assoc]
        rfl
      · simp only [Bool.false_eq_true, if_false]
        rw [read, List.filter_cons_of_neg (by simp [finite])]

/-- The bytes of whole lines are read line by line. -/
theorem parseAgentLog_written (fits : ∀ entry ∈ entries, FitsEntry entry) : ∃ src,
    decodeUtf8 (entries.flatMap fun entry => entry.line text ++ [LineLog.lineEnd]) = some src ∧
      ((parseAgentLog text complaint src).issues = [] ↔
        ∀ entry ∈ entries, finiteChoice entry.parsedAction = true) ∧
      (parseAgentLog text complaint src).entries.map NumberedEntry.entry =
        entries.filter fun entry => finiteChoice entry.parsedAction := by
  have bytes : (entries.flatMap fun entry => entry.line text ++ [LineLog.lineEnd]) =
      utf8Chars ((entries.map (AgentLogEntry.chars text)).flatMap fun row => row ++ ['\n']) := by
    rw [List.flatMap_map, utf8Chars_flatMap]
    congr 1
    funext entry
    rw [utf8Chars_append]
    rfl
  have rows := lines_written (entries.map (AgentLogEntry.chars text)) fun row listed => by
    obtain ⟨entry, -, rfl⟩ := List.mem_map.mp listed
    exact chars_plain entry
  obtain ⟨issues, none, malformed, read⟩ := @parseLines_chars text complaint entries fits {} 0
  refine ⟨_, bytes ▸ decodeUtf8_utf8Chars _, ?_, ?_⟩
  · unfold parseAgentLog
    rw [rows, malformed]
    exact none
  · unfold parseAgentLog
    rw [rows, read]
    rfl

end Entries

section Correlation

/-- Entries in the order of their ticks that never repeat an agent at a tick. -/
theorem correlateAfter_eq_nil {entries : List NumberedEntry} {seen : List (Nat × String)}
    {prev : Option Nat} (ordered : entries.Pairwise fun early late => early.entry.tick ≤ late.entry.tick)
    (after : ∀ last, prev = some last → ∀ line ∈ entries, last ≤ line.entry.tick)
    (once : (entries.map fun line => line.entry.key).Nodup)
    (fresh : ∀ line ∈ entries, line.entry.key ∉ seen) : correlateAfter seen prev entries = [] := by
  induction entries generalizing seen prev with
  | nil => rfl
  | cons line rest ih =>
    obtain ⟨onward, ordered⟩ := List.pairwise_cons.mp ordered
    obtain ⟨single, once⟩ := List.nodup_cons.mp once
    have timely : (prev.filter fun last => line.entry.tick < last) = none := by
      refine Option.filter_eq_none_iff.mpr fun last same => ?_
      simpa using after last same line (by simp)
    have unseen : ¬ (line.entry.tick, line.entry.agentId) ∈ seen := fresh line (by simp)
    have later := @ih (line.entry.key :: seen) (some line.entry.tick) ordered
      (fun last same other listed => Option.some.inj same ▸ onward other listed) once
      fun other listed member => by
        rcases List.mem_cons.mp member with same | early
        · exact single (List.mem_map.mpr ⟨other, listed, same⟩)
        · exact fresh other (by simp [listed]) early
    rw [correlateAfter]
    simp only [timely, unseen, if_false]
    exact later

end Correlation

section Sending

variable {entries : List NumberedEntry}

theorem replayedEvents_from (seq : Nat) : replayedEvents (envelopesFrom seq entries) =
    entries.map fun line => line.entry.choice.event := by
  induction entries generalizing seq with
  | nil => rfl
  | cons line rest ih =>
    rw [List.map_cons, ← ih (saturatingAdd u64Max (saturatingAdd u64Max seq 1) 1)]
    rfl

theorem replayedReports_from (seq : Nat) : replayedReports (envelopesFrom seq entries) =
    entries.map fun line => reportFromEntry line.entry := by
  induction entries generalizing seq with
  | nil => rfl
  | cons line rest ih =>
    rw [List.map_cons, ← ih (saturatingAdd u64Max (saturatingAdd u64Max seq 1) 1)]
    rfl

end Sending

/-- The choice a report tells of. -/
def choiceOfReport (report : AgentReport) : Choice := ⟨report.tick, report.agentId, report.chosen⟩

def ReplayOptions.keeps (options : ReplayOptions) (choice : Choice) : Bool :=
  options.selects choice.tick choice.agentId

/-- The log of a run replays it: nothing of it is malformed, repeated or out of order, and the
events and reports sent for it, or for a part of it, are those of the run. -/
structure Replays {Mind : Type} (text : F32Text) (complaint : List Char → String)
    (session : Session Mind LineLog) : Prop where
  clean : ∃ src, decodeUtf8 session.written = some src ∧
    (buildReplayReport (parseAgentLog text complaint src)).issues = []
  events : session.choices.map Choice.event = session.decidedEvents
  keys : session.choices.map Choice.key = session.decided
  chosen : session.choices.map Choice.chosen = session.reports.map AgentReport.chosen
  replayed : ∀ options, options.inverted = false → ∃ envelopes,
    cmdReplay text complaint session.written options = .ok envelopes ∧
      replayedEvents envelopes = (session.choices.filter options.keeps).map Choice.event ∧
      (replayedReports envelopes).map choiceOfReport = session.choices.filter options.keeps

section Runs

variable {Mind : Type} {text : F32Text} {complaint : List Char → String} {display : Float32 → String}
  {agent : Agent Mind} {sound : AgentHost Mind → Prop} {names : List String}
  {session : Session Mind LineLog}

theorem replays_iff_of_traced (traced : session.Traced text sound names) :
    Replays text complaint session ↔
      ∀ report ∈ session.reports, finiteChoice report.chosen = true := by
  obtain ⟨log, entries, attached, holds, fits, written⟩ := traced.log
  obtain ⟨src, decoded, malformed, read⟩ := @parseAgentLog_written text complaint entries fits
  have bytes : session.written = entries.flatMap fun entry => entry.line text ++ [LineLog.lineEnd] := by
    rw [Session.written, attached]
    exact holds.bytes
  rw [← bytes] at decoded
  have finite : (∀ entry ∈ entries, finiteChoice entry.parsedAction = true) ↔
      ∀ report ∈ session.reports, finiteChoice report.chosen = true := by
    have same : entries.map AgentLogEntry.parsedAction = session.reports.map AgentReport.chosen := by
      rw [← traced.chosen, ← written, List.map_map]
      rfl
    have both : (∀ chosen ∈ entries.map AgentLogEntry.parsedAction, finiteChoice chosen = true) ↔
        ∀ chosen ∈ session.reports.map AgentReport.chosen, finiteChoice chosen = true := by
      rw [same]
    rwa [List.forall_mem_map, List.forall_mem_map] at both
  rw [← finite, ← malformed]
  constructor
  · intro replays
    obtain ⟨other, again, none⟩ := replays.clean
    obtain rfl := Option.some.inj (decoded.symm.trans again)
    exact (List.append_eq_nil_iff.mp none).1
  · intro none
    rw [List.filter_eq_self.mpr (malformed.mp none)] at read
    have chosen : (parseAgentLog text complaint src).entries.map (fun line => line.entry.choice) =
        session.choices := by
      rw [← written, ← read, List.map_map]
      rfl
    have correlated : correlateEntries (parseAgentLog text complaint src).entries = [] := by
      refine correlateAfter_eq_nil ?_ (fun _ same => by cases same) ?_ fun _ _ => List.not_mem_nil
      · have ordered := traced.ordered
        rw [← chosen, List.pairwise_map] at ordered
        exact ordered
      · have once := traced.once
        rw [← chosen, List.map_map] at once
        exact once
    refine ⟨⟨src, decoded, ?_⟩, traced.events, traced.keys, traced.chosen, fun options straight => ?_⟩
    · change (parseAgentLog text complaint src).issues ++ correlateEntries _ = []
      rw [none, correlated]
      rfl
    · have whole : ¬ 0 < (buildReplayReport (parseAgentLog text complaint src)).malformed := by
        change ¬ 0 < (parseAgentLog text complaint src).issues.length
        rw [none]
        exact Nat.lt_irrefl 0
      have kept : (selectEntries (parseAgentLog text complaint src).entries options).map
          (fun line => line.entry.choice) = session.choices.filter options.keeps := by
        rw [← chosen, List.filter_map]
        rfl
      refine ⟨protocolEnvelopes (selectEntries (parseAgentLog text complaint src).entries options),
        ?_, ?_, ?_⟩
      · unfold cmdReplay
        rw [straight, decoded]
        exact if_neg whole
      · rw [protocolEnvelopes, replayedEvents_from, ← kept, List.map_map]
        rfl
      · rw [protocolEnvelopes, replayedReports_from, ← kept, List.map_map]
        rfl

/-- A log whose sink never fails replays the run of distinct agents of proper ids that wrote it, as
long as the clock runs and they observe the present tick, exactly when no chosen action holds an
infinity or a NaN. -/
theorem run_replays_iff (text : F32Text) (complaint : List Char → String)
    (display : Float32 → String) (backend : AgentBackend) (makes : agent.Makes sound Attests)
    {machine : Machine Transit (AgentHost Mind) LineLog} {ringCap : Nat}
    (hosts : ∀ host ∈ machine.runner.hosts, sound host)
    (distinct : (machine.runner.hosts.map AgentHost.id).Nodup)
    (proper : ∀ host ∈ machine.runner.hosts, ProperName host.id)
    (attached : machine.runner.agentLog = some (.opened (fun _ => none) ringCap))
    {steps : List RunnerStep} (within : machine.world.tick + steps.length ≤ u64Max) :
    let session := Session.run (lineSystems text display agent) backend { machine } steps
    Replays text complaint session ↔
      ∀ report ∈ session.reports, finiteChoice report.chosen = true := by
  refine replays_iff_of_traced (Session.Traced.run display makes.loggable backend distinct ?_
    (Session.traced_opened hosts attached) within)
  intro name listed
  obtain ⟨host, member, rfl⟩ := List.mem_map.mp listed
  exact proper host member

end Runs

/-- An agent that always chooses this action. -/
def steadyAgent (chosen : Action) : Agent Unit where
  observe mind world := (mind, .ok (.fromWorld world))
  act mind observation := (mind, .ok (.ok
    { tick := observation.tick
      agentId := "pilot"
      considered := []
      chosen := some chosen
      rationale := ""
      confidence := 0 }))

theorem steadyAgent_makes {chosen : Action} (fits : FitsAction chosen) :
    (steadyAgent chosen).Makes (fun _ => True) Attests where
  observes _ _ _ := trivial
  steps _ _ _ := trivial
  unseen host world report _ reported := by
    refine ⟨fun _ => nofun, fun action same => ?_⟩
    cases reported
    cases same
    exact fits
  logged host world report _ reported := by
    refine ⟨fun _ seen => Option.some.inj seen ▸ rfl, fun action same => ?_⟩
    cases reported
    cases same
    exact fits

/-- One agent on an empty map, under a fresh log. -/
def piloted : Machine Transit (AgentHost Unit) LineLog where
  world := ⟨0, .running, {}, none, none⟩
  runner := { hosts := [⟨"pilot", 1, ()⟩], agentLog := some (.opened (fun _ => none) 1) }

theorem run_replays_iff_goal :
    let session := Session.run (lineSystems plainText (fun _ => "") (steadyAgent (.setGoal "loop")))
      defaultBackend { machine := piloted } [.tick, .enter .paused, .tick, .enter .running, .tick]
    Replays plainText (fun _ => "") session ↔
      ∀ report ∈ session.reports, finiteChoice report.chosen = true :=
  run_replays_iff plainText (fun _ => "") (fun _ => "") defaultBackend
    (steadyAgent_makes (show FitsAction (.setGoal "loop") from trivial)) (fun _ _ => trivial)
    (by decide) (by decide) rfl (by decide)

/-- A piece of no kind is rejected, but its place, which is none, is logged as null: the line cannot
be read and the replay refuses the whole log. -/
theorem nowhere_unreadable :
    let session := Session.run (lineSystems plainText (fun _ => "")
      (steadyAgent (.placePiece "" (0x7fc00000#32, 0x7fc00000#32)))) defaultBackend
      { machine := piloted } [.tick]
    (piloted.runner.hosts.map AgentHost.id).Nodup ∧
      (∀ host ∈ piloted.runner.hosts, ProperName host.id) ∧
      session.decidedEvents = [.agentDecided "pilot" .placePiece] ∧
      ¬ Replays plainText (fun _ => "") session := by
  let nowhere : Action := .placePiece "" (0x7fc00000#32, 0x7fc00000#32)
  let session := Session.run (lineSystems plainText (fun _ => "") (steadyAgent nowhere)) defaultBackend
    { machine := piloted } [.tick]
  have opened : Session.Traced plainText (fun _ => True) (piloted.runner.hosts.map AgentHost.id)
      { machine := piloted } := Session.traced_opened (fun _ _ => trivial) rfl
  have traced : session.Traced plainText (fun _ => True) (piloted.runner.hosts.map AgentHost.id) :=
    opened.run (fun _ => "") (steadyAgent_makes (show FitsAction nowhere from trivial)).loggable
      defaultBackend (by decide) (by decide) (by decide)
  refine ⟨by decide, by decide, by decide +kernel, fun replays => ?_⟩
  have finite := (replays_iff_of_traced traced).mp replays
  have sent : session.reports.map AgentReport.chosen = [some nowhere] := by decide +kernel
  have readable : ∀ chosen ∈ [some nowhere], finiteChoice chosen = true := by
    rw [← sent]
    exact List.forall_mem_map.mpr finite
  exact absurd (readable _ (List.mem_singleton.mpr rfl)) (by decide)

end Simetro.Headless
