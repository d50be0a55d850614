import Simetro.Desktop.FaultSticky

/-! The envelopes a driver sends are numbered without a gap, and a scene that does not load
costs one fault and changes nothing else. -/

namespace Simetro.Desktop

open Simetro.Engine Simetro.Library Simetro.Protocol Simetro.Sl1

namespace Driver

variable {shell : Shell}

/-- Events of which each finds an engine of its own: a tick may panic in the one and not in
the other. -/
abbrev Happenings (shell : Shell) :=
  List (Systems shell.Network shell.Host shell.Log shell.Observation × DriverEvent shell)

def runUnder (backend : AgentBackend) (encoders : Encoders shell) (driver : Driver shell)
    (happenings : Happenings shell) : Driver shell :=
  happenings.foldl (fun driver happening =>
    handleEvent happening.1 backend encoders driver happening.2) driver

/-- The envelopes sent are numbered from zero, and the next number is the one after. -/
structure Numbered (driver : Driver shell) : Prop where
  sent : driver.sent.map Envelope.seq = List.range driver.sent.length
  next : driver.state.seq = driver.sent.length

namespace Numbered

variable {driver : Driver shell} (numbered : driver.Numbered)
include numbered

theorem emit (payload : Payload shell) : (driver.emit payload).Numbered := by
  constructor
  · simp only [Driver.emit, List.map_append, List.map_cons, List.map_nil, List.length_append,
      List.length_singleton, List.range_succ, numbered.sent, numbered.next]
  · simp only [Driver.emit, List.length_append, List.length_singleton, numbered.next]

/-- Whatever keeps the counter and the envelopes keeps them numbered. -/
theorem of_same {after : Driver shell} (sent : after.sent = driver.sent)
    (seq : after.state.seq = driver.state.seq) : after.Numbered := by
  constructor
  · rw [sent]
    exact numbered.sent
  · rw [seq, sent]
    exact numbered.next

theorem emitEvents : driver.emitEvents.Numbered := by
  unfold Driver.emitEvents
  simp only
  split
  · exact numbered.emit _
  · exact numbered

theorem emitMessages : driver.emitMessages.Numbered :=
  List.foldlRecOn (motive := Numbered) _ _ numbered fun _ kept message _ => kept.emit (.message message)

variable (encoders : Encoders shell)

theorem emitSnapshot : (Driver.emitSnapshot encoders driver).Numbered := by
  apply Numbered.emit
  exact numbered.of_same rfl rfl

theorem emitTopology : (Driver.emitTopology encoders driver).Numbered := by
  let refreshed : Driver shell := { driver with state := { driver.state with
    lastStatic := encoders.encodeStaticParts driver.state.sceneMeta driver.world } }
  have cached : refreshed.Numbered := numbered.of_same rfl rfl
  have shown := (cached.emit (.static refreshed.state.lastStatic)).emitSnapshot encoders
  exact shown.of_same rfl rfl

theorem emitPeriodicSnapshot : (Driver.emitPeriodicSnapshot encoders driver).Numbered := by
  unfold Driver.emitPeriodicSnapshot
  split
  · apply Numbered.emitSnapshot
    exact numbered.of_same rfl rfl
  · exact numbered.of_same rfl rfl

variable (systems : Systems shell.Network shell.Host shell.Log shell.Observation)
  (backend : AgentBackend)

theorem tickAndEmit : (Driver.tickAndEmit systems backend encoders driver).Numbered := by
  unfold Driver.tickAndEmit
  split
  · apply Numbered.emit
    exact numbered.of_same rfl rfl
  · rename_i machine ticked
    have stepped : (driver.withMachine machine).Numbered := numbered.of_same rfl rfl
    simp only
    split
    · exact (stepped.emitTopology encoders).emitEvents.emitMessages.emitPeriodicSnapshot encoders
    · exact stepped.emitEvents.emitMessages.emitPeriodicSnapshot encoders

theorem stepOnce : (Driver.stepOnce systems backend encoders driver).Numbered := by
  have resumed : (driver.setPaused false).Numbered := numbered.of_same rfl rfl
  unfold Driver.stepOnce
  simp only
  split
  · split
    · have running : ((driver.setPaused false).enter .running).Numbered := resumed.of_same rfl rfl
      exact (running.tickAndEmit encoders systems backend).of_same rfl rfl
    · exact (resumed.tickAndEmit encoders systems backend).of_same rfl rfl
  · split
    · have running : ((driver.setPaused false).enter .running).Numbered := resumed.of_same rfl rfl
      exact running.tickAndEmit encoders systems backend
    · exact resumed.tickAndEmit encoders systems backend

theorem togglePause : driver.togglePause.Numbered := by
  unfold Driver.togglePause
  simp only
  split
  · exact numbered.of_same rfl rfl
  · split
    · exact numbered.of_same rfl rfl
    · exact numbered.of_same rfl rfl

theorem replaceScene (scene : SceneRef) (files : SceneFiles shell) :
    (Driver.replaceScene encoders driver scene files).1.Numbered := by
  unfold Driver.replaceScene
  split
  · exact numbered.emit _
  · rename_i loaded read
    have applied : (driver.applySceneLoad loaded).Numbered := numbered.of_same rfl rfl
    exact (applied.emit (.static loaded.staticPayload)).emitSnapshot encoders

theorem handleCommand (files : SceneFiles shell) (command : DriverCommand) :
    (Driver.handleCommand systems backend encoders driver files command).Numbered := by
  cases command with
  | togglePause => exact numbered.togglePause
  | step => exact numbered.stepOnce encoders systems backend
  | setSpeed factor => exact numbered.of_same rfl rfl
  | reload => exact numbered.replaceScene encoders driver.activeScene files
  | subscribe => exact (numbered.emit _).emitSnapshot encoders
  | setScene scene =>
    have replaced := numbered.replaceScene encoders scene files
    simp only [Driver.handleCommand]
    split
    · rename_i outcome
      rw [outcome] at replaced
      exact replaced.of_same rfl rfl
    · rename_i outcome
      rw [outcome] at replaced
      exact replaced.of_same rfl rfl

theorem handleEvent (event : DriverEvent shell) :
    (Driver.handleEvent systems backend encoders driver event).Numbered := by
  cases event with
  | timer =>
    simp only [Driver.handleEvent]
    split
    · exact numbered
    · exact numbered.tickAndEmit encoders systems backend
  | command command files => exact numbered.handleCommand encoders systems backend files command

theorem runUnder (happenings : Happenings shell) :
    (Driver.runUnder backend encoders driver happenings).Numbered :=
  List.foldlRecOn (motive := Numbered) _ _ numbered
    fun _ kept happening _ => kept.handleEvent encoders happening.1 backend happening.2

end Numbered

theorem start_numbered (encoders : Encoders shell) (scene : SceneRef) (loaded : SceneLoad shell) :
    (start encoders scene loaded).Numbered := by
  unfold start
  apply Numbered.emitSnapshot
  apply Numbered.emit
  exact ⟨rfl, rfl⟩

/-- The scene whose file a command reads. -/
def target? (driver : Driver shell) : DriverCommand → Option SceneRef
  | .setScene scene => some scene
  | .reload => some driver.activeScene
  | _ => none

/-- The driver shows and does what it did before: only the envelopes, their number and the
replies may have changed. -/
structure Preserved (before after : Driver shell) : Prop where
  world : after.world = before.world
  runner : after.state.machine.runner = before.state.machine.runner
  sceneMeta : after.state.sceneMeta = before.state.sceneMeta
  snapshotBuf : after.state.snapshotBuf = before.state.snapshotBuf
  lastStatic : after.state.lastStatic = before.state.lastStatic
  paused : after.state.paused = before.state.paused
  speedFactor : after.state.speedFactor = before.state.speedFactor
  activeScene : after.activeScene = before.activeScene
  ticksSinceSnapshot : after.ticksSinceSnapshot = before.ticksSinceSnapshot

theorem handleCommand_of_unloaded (systems : Systems shell.Network shell.Host shell.Log shell.Observation)
    (backend : AgentBackend) (encoders : Encoders shell) {driver : Driver shell}
    {command : DriverCommand} {target : SceneRef} (loads : driver.target? command = some target)
    {files : SceneFiles shell} {failure : SceneLoadFailure}
    (fails : files target.path = .error failure) :
    (handleCommand systems backend encoders driver files command).sent =
        driver.sent ++ [⟨driver.state.seq, .message (.fault failure.toFault)⟩] ∧
      Preserved driver (handleCommand systems backend encoders driver files command) := by
  have replaced : replaceScene encoders driver target files =
      (driver.emit (.message (.fault failure.toFault)), .error failure) := by
    unfold replaceScene
    rw [fails]
  cases command with
  | setScene scene =>
    cases loads
    simp only [handleCommand, replaced]
    exact ⟨rfl, rfl, rfl, rfl, rfl, rfl, rfl, rfl, rfl, rfl⟩
  | reload =>
    cases loads
    simp only [handleCommand, replaced]
    exact ⟨rfl, rfl, rfl, rfl, rfl, rfl, rfl, rfl, rfl, rfl⟩
  | _ => cases loads

/-- Whatever the driver is told and however its ticks end, it numbers its envelopes 0, 1,
2 and so on, and a scene that does not load costs exactly one fault. -/
theorem envelopes_numbered (backend : AgentBackend) (encoders : Encoders shell) (scene : SceneRef)
    (loaded : SceneLoad shell) (happenings : Happenings shell) :
    let driver := runUnder backend encoders (start encoders scene loaded) happenings
    driver.sent.map Envelope.seq = List.range driver.sent.length ∧
      ∀ systems command target files failure, driver.target? command = some target →
        files target.path = .error failure →
        (handleCommand systems backend encoders driver files command).sent = driver.sent ++
            [⟨driver.sent.length, .message (.fault failure.toFault)⟩] ∧
          Preserved driver (handleCommand systems backend encoders driver files command) := by
  have numbered := (start_numbered encoders scene loaded).runUnder encoders backend happenings
  refine ⟨numbered.sent, ?_⟩
  intro systems command target files failure loads fails
  rw [← numbered.next]
  exact handleCommand_of_unloaded systems backend encoders loads fails

end Driver

/-! ## What the driver feeds -/

section Feed

variable {shell : Shell}

/-- The static payload a page has after an envelope, and the snapshot of it. -/
def note (known : Option shell.Static × Option shell.Snapshot) (envelope : Envelope shell) :
    Option shell.Static × Option shell.Snapshot :=
  match envelope.payload with
  | .static payload => (some payload, none)
  | .snapshot snap => (known.1, some snap)
  | .events _ => known
  | .message _ => known

def latest (sent : List (Envelope shell)) : Option shell.Static × Option shell.Snapshot :=
  sent.foldl note (none, none)

/-- All sent earlier is sent, and the latest static payload and its snapshot are the ones held. -/
structure Feeds (earlier : List (Envelope shell)) (driver : Driver shell) : Prop where
  sent : earlier <+: driver.sent
  latest : latest driver.sent = (some driver.state.lastStatic, some driver.state.snapshotBuf)

variable {earlier : List (Envelope shell)} {driver : Driver shell} (encoders : Encoders shell)

theorem latest_append (sent more : List (Envelope shell)) :
    latest (sent ++ more) = more.foldl note (latest sent) := List.foldl_append

namespace Feeds

theorem of_same {after : Driver shell} (feeds : Feeds earlier driver) (sent : after.sent = driver.sent)
    (lastStatic : after.state.lastStatic = driver.state.lastStatic)
    (snapshotBuf : after.state.snapshotBuf = driver.state.snapshotBuf) : Feeds earlier after where
  sent := sent ▸ feeds.sent
  latest := by rw [sent, lastStatic, snapshotBuf, feeds.latest]

/-- An envelope that is neither static nor a snapshot. -/
theorem tell (feeds : Feeds earlier driver) {payload : Payload shell}
    (untold : ∀ known, note known ⟨driver.state.seq, payload⟩ = known) :
    Feeds earlier (driver.emit payload) where
  sent := feeds.sent.trans (List.prefix_append _ _)
  latest := (latest_append _ _).trans ((untold _).trans feeds.latest)

theorem emitSnapshot (feeds : Feeds earlier driver) : Feeds earlier (driver.emitSnapshot encoders) where
  sent := feeds.sent.trans (List.prefix_append _ _)
  latest := by
    refine (latest_append _ _).trans ?_
    rw [feeds.latest]
    rfl

/-- The cached payload and a snapshot. -/
theorem refresh (sent : earlier <+: driver.sent) :
    Feeds earlier ((driver.emit (.static driver.state.lastStatic)).emitSnapshot encoders) where
  sent := (sent.trans (List.prefix_append _ _)).trans (List.prefix_append _ _)
  latest := by
    refine (latest_append _ _).trans ?_
    rw [Driver.emit, latest_append]
    rfl

theorem emitTopology (feeds : Feeds earlier driver) : Feeds earlier (driver.emitTopology encoders) := by
  let lastStatic := encoders.encodeStaticParts driver.state.sceneMeta driver.world
  let encoded : Driver shell := { driver with state := { driver.state with lastStatic } }
  have sent : Feeds earlier ((encoded.emit (.static lastStatic)).emitSnapshot encoders) :=
    refresh encoders feeds.sent
  exact sent.of_same rfl rfl rfl

theorem emitEvents (feeds : Feeds earlier driver) : Feeds earlier driver.emitEvents := by
  unfold Driver.emitEvents
  simp only
  split
  · exact feeds.tell fun _ => rfl
  · exact feeds

theorem emitMessages (feeds : Feeds earlier driver) : Feeds earlier driver.emitMessages :=
  List.foldlRecOn (motive := Feeds earlier) _ _ feeds fun _ kept _ _ => kept.tell fun _ => rfl

theorem emitPeriodicSnapshot (feeds : Feeds earlier driver) :
    Feeds earlier (driver.emitPeriodicSnapshot encoders) := by
  unfold Driver.emitPeriodicSnapshot
  split
  · apply emitSnapshot
    exact feeds.of_same rfl rfl rfl
  · exact feeds.of_same rfl rfl rfl

variable (systems : Systems shell.Network shell.Host shell.Log shell.Observation) (backend : AgentBackend)

theorem tickAndEmit (feeds : Feeds earlier driver) :
    Feeds earlier (driver.tickAndEmit systems backend encoders) := by
  unfold Driver.tickAndEmit
  split
  · rename_i machine message _
    have wrecked : Feeds earlier (((driver.withMachine machine).enter .faulted).setPaused true) :=
      feeds.of_same rfl rfl rfl
    exact wrecked.tell fun _ => rfl
  · rename_i machine _
    have ticked : Feeds earlier (driver.withMachine machine) := feeds.of_same rfl rfl rfl
    simp only
    split
    · exact (ticked.emitTopology encoders).emitEvents.emitMessages.emitPeriodicSnapshot encoders
    · exact ticked.emitEvents.emitMessages.emitPeriodicSnapshot encoders

theorem stepOnce (feeds : Feeds earlier driver) :
    Feeds earlier (driver.stepOnce systems backend encoders) := by
  have resumed : Feeds earlier (if (driver.setPaused false).world.state = .paused then
      (driver.setPaused false).enter .running else driver.setPaused false) := by
    split
    · exact feeds.of_same rfl rfl rfl
    · exact feeds.of_same rfl rfl rfl
  have ticked := resumed.tickAndEmit encoders systems backend
  unfold Driver.stepOnce
  simp only
  split
  · exact ticked.of_same rfl rfl rfl
  · exact ticked

theorem togglePause (feeds : Feeds earlier driver) : Feeds earlier driver.togglePause := by
  unfold Driver.togglePause
  simp only
  split
  · exact feeds.of_same rfl rfl rfl
  · split
    · exact feeds.of_same rfl rfl rfl
    · exact feeds.of_same rfl rfl rfl

theorem replaceScene (feeds : Feeds earlier driver) (scene : SceneRef) (files : SceneFiles shell) :
    Feeds earlier (driver.replaceScene encoders scene files).1 := by
  unfold Driver.replaceScene
  split
  · exact feeds.tell fun _ => rfl
  · rename_i loaded _
    have loads : earlier <+: (driver.applySceneLoad loaded).sent := feeds.sent
    exact refresh encoders loads

theorem handleEvent (feeds : Feeds earlier driver) (event : DriverEvent shell) :
    Feeds earlier (driver.handleEvent systems backend encoders event) := by
  cases event with
  | timer =>
    simp only [Driver.handleEvent]
    split
    · exact feeds
    · exact feeds.tickAndEmit encoders systems backend
  | command command files =>
    cases command with
    | togglePause => exact feeds.togglePause
    | step => exact feeds.stepOnce encoders systems backend
    | setSpeed factor => exact feeds.of_same rfl rfl rfl
    | reload => exact feeds.replaceScene encoders driver.activeScene files
    | setScene scene =>
      have replaced := feeds.replaceScene encoders scene files
      simp only [Driver.handleEvent, Driver.handleCommand]
      split
      · rename_i outcome
        rw [outcome] at replaced
        exact replaced.of_same rfl rfl rfl
      · rename_i outcome
        rw [outcome] at replaced
        exact replaced.of_same rfl rfl rfl
    | subscribe => exact refresh encoders feeds.sent

theorem start (scene : SceneRef) (loaded : SceneLoad shell) :
    Feeds [] (Driver.start encoders scene loaded) := by
  unfold Driver.start
  simp only
  exact refresh encoders List.nil_prefix

end Feeds

end Feed

end Simetro.Desktop
