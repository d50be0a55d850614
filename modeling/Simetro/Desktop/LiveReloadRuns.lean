import Simetro.Desktop.LiveReloadSteps

/-! Runs in which the driver and the watcher stay in step lose no change of the scene file. -/

namespace Simetro.Desktop

open Simetro.Engine Simetro.Library Simetro.Protocol Simetro.Sl1

namespace LiveReload

variable {shell : Shell}

theorem spawnDriver_inStep (initialScene : SceneRef) (files : String → Content) :
    (spawnDriver initialScene files : LiveReload shell).InStep :=
  ⟨rfl, fun _ => rfl, fun started => absurd rfl started, nofun, nofun⟩

section Contents

/-- A content some file has at first or is given later. -/
def Occurs (files : String → Content) (events : List LiveEvent) (content : Content) : Prop :=
  (∃ path, files path = content) ∨ ∃ path, LiveEvent.write path content ∈ events

/-- Every content the files have or a load has read is known. -/
structure Within (known : Content → Prop) (live : LiveReload shell) : Prop where
  files : ∀ path, known (live.files path)
  loads : ∀ load ∈ live.loads, known load.2

variable {known : Content → Prop} {live : LiveReload shell} (within : Within known live)
include within

theorem Within.turned {after : LiveReload shell} (turn : DriverTurn live after) : Within known after := by
  constructor
  · rw [turn.files]
    exact within.files
  · rcases turn.loads with same | ⟨scene, read⟩
    · rw [same]
      exact within.loads
    · rw [read]
      rintro load (_ | ⟨_, earlier⟩)
      · exact within.files scene.path
      · exact within.loads load earlier

variable (systems : Systems shell.Network shell.Host shell.Log shell.Observation)
  (backend : AgentBackend) (encoders : Encoders shell)
  (load : Content → Except SceneLoadFailure (SceneLoad shell))

theorem Within.stepped (event : LiveEvent)
    (written : ∀ path content, event = .write path content → known content) :
    Within known (live.step systems backend encoders load event) := by
  have same (channel : List DriverCommand) (watcher : Watcher) (clock : Nat) :
      Within known { live with channel, watcher, clock } := ⟨within.files, within.loads⟩
  cases event with
  | write path content =>
    refine ⟨fun other => ?_, within.loads⟩
    show known (if other = path then content else live.files other)
    split
    · exact written path content rfl
    · exact within.files other
  | send command =>
    simp only [step, send]
    split
    · exact within
    · exact same ..
  | receive => exact within.turned (receive_turn systems backend encoders load live)
  | timer => exact within.turned (timer_turn systems backend encoders live)
  | poll =>
    simp only [step, poll]
    split
    · exact same ..
    · split
      · rename_i scene watch _ _
        obtain ⟨watcher, channel, looked, -⟩ := look_eq live scene
          (watch.observe (observeSceneFile live.content) live.clock)
        rw [looked]
        exact same ..
      · exact same ..
    · exact within
  | pass millis => exact same ..

end Contents

section Watching

/-- The watcher has ended, or it watches the active scene with a watch that holds. -/
def Watches (live : LiveReload shell) (holds : DebouncedFileWatch → Prop) : Prop :=
  live.watcher = .finished ∨ ∃ watch, live.watcher = .watching live.activeScene watch ∧ holds watch

variable {live : LiveReload shell} {holds after : DebouncedFileWatch → Prop}

theorem look_watches (seen : DebouncedFileWatch × Bool) (held : after seen.1) :
    (live.look live.activeScene seen).Watches after := by
  obtain ⟨watcher, channel, looked, finished | watching⟩ := look_eq live live.activeScene seen
  · rw [looked]
    exact .inl finished
  · rw [looked]
    exact .inr ⟨seen.1, watching, held⟩

theorem Watches.polled (watches : live.Watches holds)
    (looked : ∀ watch, holds watch → after (watch.observe (observeSceneFile live.content) live.clock).1) :
    live.poll.Watches after := by
  rcases watches with finished | ⟨watch, watching, held⟩
  · left
    rw [poll, finished]
    exact finished
  · have turn : live.poll =
        live.look live.activeScene (watch.observe (observeSceneFile live.content) live.clock) := by
      simp only [poll, watching, if_true]
    rw [turn]
    exact look_watches _ (looked watch held)

/-- After any turn the watcher expects what the file holds within the debounce period. -/
theorem InStep.poll_watches (inStep : live.InStep) : live.poll.Watches fun watch =>
    watch.Expects (observeSceneFile live.content) (live.clock + sceneWatchDebounce) := by
  have fresh : live.retarget.Watches fun watch =>
      watch.Expects (observeSceneFile live.content) (live.clock + sceneWatchDebounce) :=
    .inr ⟨_, rfl, .inl rfl⟩
  unfold poll
  split
  · exact fresh
  · rename_i scene watch watching
    split
    · rename_i active
      subst active
      obtain ⟨period, timely⟩ := inStep.timely _ watch watching
      have expects := DebouncedWatch.observe_expects timely (observeSceneFile live.content)
      rw [period] at expects
      exact look_watches _ expects
    · exact fresh
  · rename_i finished
    exact .inl finished

end Watching

def elapsed (events : List LiveEvent) : Nat := (events.map LiveEvent.millis).sum

section Settled

variable (systems : Systems shell.Network shell.Host shell.Log shell.Observation)
  (backend : AgentBackend) (encoders : Encoders shell)
  (load : Content → Except SceneLoadFailure (SceneLoad shell))

/-- The event changes neither the active scene nor what its file holds. -/
def rests (live : LiveReload shell) (event : LiveEvent) : Bool :=
  (live.step systems backend encoders load event).activeScene == live.activeScene &&
    (live.step systems backend encoders load event).content == live.content

theorem run_append (live : LiveReload shell) (first second : List LiveEvent) :
    live.run systems backend encoders load (first ++ second) =
      (live.run systems backend encoders load first).run systems backend encoders load second :=
  List.foldl_append

/-- Only the watcher's own turns touch its watch. -/
theorem step_watcher {live : LiveReload shell} {event : LiveEvent} (other : event ≠ .poll) :
    (live.step systems backend encoders load event).watcher = live.watcher := by
  cases event with
  | write path content => rfl
  | send command =>
    simp only [step, send]
    split <;> rfl
  | receive => exact (receive_turn systems backend encoders load live).watcher
  | timer => exact (timer_turn systems backend encoders live).watcher
  | poll => exact absurd rfl other
  | pass millis => rfl

theorem step_clock (live : LiveReload shell) (event : LiveEvent) :
    (live.step systems backend encoders load event).clock = live.clock + event.millis := by
  cases event with
  | write path content => rfl
  | send command =>
    simp only [step, send]
    split <;> rfl
  | receive => exact (receive_turn systems backend encoders load live).clock
  | timer => exact (timer_turn systems backend encoders live).clock
  | poll =>
    simp only [step, poll]
    split
    · rfl
    · split
      · rename_i scene watch _ _
        obtain ⟨watcher, channel, looked, -⟩ := look_eq live scene
          (watch.observe (observeSceneFile live.content) live.clock)
        rw [looked]
        rfl
      · rfl
    · rfl
  | pass millis => rfl

theorem run_clock (live : LiveReload shell) (events : List LiveEvent) :
    (live.run systems backend encoders load events).clock = live.clock + elapsed events := by
  induction events generalizing live with
  | nil => rfl
  | cons event rest ih =>
    have later := ih (live.step systems backend encoders load event)
    rw [step_clock] at later
    rw [elapsed, List.map_cons, List.sum_cons, ← Nat.add_assoc]
    exact later

variable {systems backend encoders load} {live : LiveReload shell}
  {holds : DebouncedFileWatch → Prop} {seen : SceneFileObservation}

theorem rests_content {event : LiveEvent}
    (rest : live.rests systems backend encoders load event = true) :
    (live.step systems backend encoders load event).content = live.content :=
  beq_iff_eq.mp (Bool.and_eq_true_iff.mp rest).2

theorem Watches.stepped (watches : live.Watches holds) {event : LiveEvent}
    (rest : live.rests systems backend encoders load event = true)
    (current : observeSceneFile live.content = seen)
    (looked : ∀ watch now, holds watch → holds (watch.observe seen now).1) :
    (live.step systems backend encoders load event).Watches holds := by
  obtain ⟨active, _⟩ := Bool.and_eq_true_iff.mp rest
  by_cases turn : event = .poll
  · subst turn
    subst current
    exact watches.polled fun watch held => looked watch live.clock held
  · rw [Watches, step_watcher systems backend encoders load turn, beq_iff_eq.mp active]
    exact watches

/-- While the active scene and its file rest, a watch keeps what looks at that file keep. -/
theorem Watches.run {events : List LiveEvent}
    (watches : live.Watches holds)
    (settled : meetsThroughout (step · systems backend encoders load)
      (rests systems backend encoders load) live events = true)
    (current : observeSceneFile live.content = seen)
    (looked : ∀ watch now, holds watch → holds (watch.observe seen now).1) :
    (live.run systems backend encoders load events).Watches holds := by
  induction events generalizing live with
  | nil => exact watches
  | cons event rest ih =>
    obtain ⟨first, later⟩ := Bool.and_eq_true_iff.mp settled
    exact ih (watches.stepped first current looked) later (by rw [rests_content first, current])

theorem run_content {events : List LiveEvent}
    (settled : meetsThroughout (step · systems backend encoders load)
      (rests systems backend encoders load) live events = true) :
    (live.run systems backend encoders load events).content = live.content := by
  induction events generalizing live with
  | nil => rfl
  | cons event rest ih =>
    obtain ⟨first, later⟩ := Bool.and_eq_true_iff.mp settled
    exact (ih later).trans (rests_content first)

/-- Two polls at least the debounce period apart have settled the watch. -/
theorem InStep.settled (inStep : live.InStep) {between later : List LiveEvent}
    (settled : meetsThroughout (step · systems backend encoders load)
      (rests systems backend encoders load) live (.poll :: (between ++ .poll :: later)) = true)
    (long : sceneWatchDebounce ≤ elapsed between) :
    (live.run systems backend encoders load (.poll :: (between ++ .poll :: later))).Watches fun watch =>
      watch.stable = observeSceneFile live.content := by
  rw [meetsThroughout_cons, meetsThroughout_append, Bool.and_eq_true_iff, Bool.and_eq_true_iff] at settled
  obtain ⟨first, waited, last⟩ := settled
  obtain ⟨second, resting⟩ := Bool.and_eq_true_iff.mp last
  have polled : live.poll.content = live.content := rests_content first
  have waiting : (live.poll.run systems backend encoders load between).content = live.content :=
    (run_content waited).trans polled
  have repolled := (rests_content second).trans waiting
  have expects := inStep.poll_watches.run waited (congrArg observeSceneFile polled)
    fun watch now held => held.observe now
  have clock : (live.poll.run systems backend encoders load between).clock =
      live.clock + elapsed between :=
    (run_clock systems backend encoders load live.poll between).trans
      (congrArg (· + elapsed between) (step_clock systems backend encoders load live .poll))
  have stable : (live.poll.run systems backend encoders load between).poll.Watches fun watch =>
      watch.stable = observeSceneFile live.content := by
    refine expects.polled fun watch held => ?_
    rw [waiting]
    exact held.settles (by rw [clock]; exact Nat.add_le_add_left long live.clock)
  have rest := stable.run resting (congrArg observeSceneFile repolled) fun watch now held => by
    rw [DebouncedWatch.observe_stable, held]
    exact ite_self _
  rw [run, List.foldl_cons, List.foldl_append, List.foldl_cons]
  exact rest

/-- The last load for the active scene, once there is one, read what its file holds. -/
structure UpToDate (live : LiveReload shell) : Prop where
  loaded : live.task ≠ .subscribing → live.lastRead.isSome = true
  current : ∀ read, live.lastRead = some read → read = live.content

theorem InStep.upToDate (inStep : live.InStep) {known : Content → Prop} (within : Within known live)
    (distinct : ∀ one two, known one → known two → observeSceneFile one = observeSceneFile two →
      one = two)
    (watches : live.Watches fun watch => watch.stable = observeSceneFile live.content)
    (served : live.reloadWaiting = false) : live.UpToDate := by
  refine ⟨inStep.loaded, fun read found => ?_⟩
  have occurs : known read := by
    obtain ⟨load, first, rfl⟩ := Option.map_eq_some_iff.mp found
    exact within.loads load (List.mem_of_find?_eq_some first)
  suffices same : live.lastSeen = some (observeSceneFile live.content) by
    rw [lastSeen, found] at same
    exact distinct read live.content occurs (within.files _) (Option.some.inj same)
  rcases live.phases with subscribing | ⟨driver, running⟩ | ended
  · rw [lastRead, inStep.waiting subscribing] at found
    cases found
  · rcases watches with finished | ⟨watch, watching, stable⟩
    · obtain ⟨fault, ended⟩ := inStep.finished finished
      cases running.symm.trans ended
    · have covered := inStep.covered
      simp only [covers, running, served, watching, stable, bne_self_eq_false, Bool.false_or,
        Bool.or_false, beq_iff_eq] at covered
      exact covered
  · exact lastSeen_of_ended ended inStep.covered

end Settled

/-- Two polls at least the debounce period apart. -/
def PollsThrough (events : List LiveEvent) : Prop :=
  ∃ earlier between later, events = earlier ++ .poll :: (between ++ .poll :: later) ∧
    sceneWatchDebounce ≤ elapsed between

theorem run_within (systems : Systems shell.Network shell.Host shell.Log shell.Observation)
    (backend : AgentBackend) (encoders : Encoders shell)
    (load : Content → Except SceneLoadFailure (SceneLoad shell)) (initialScene : SceneRef)
    (files : String → Content) (events : List LiveEvent) : Within (Occurs files events)
      ((spawnDriver initialScene files).run systems backend encoders load events) := by
  have start : Within (Occurs files events) (spawnDriver initialScene files : LiveReload shell) :=
    ⟨fun path => .inl ⟨path, rfl⟩, nofun⟩
  refine List.foldlRecOn (motive := Within (Occurs files events)) events _ start ?_
  intro live within event member
  refine within.stepped systems backend encoders load event ?_
  rintro path content rfl
  exact .inr ⟨path, member⟩

/-- While every write and every baseline keeps up, no change is lost: after the active scene
and its file have come to rest, two polls past the debounce period and the reloads they
cause bring the driver's last load up to date. -/
theorem no_change_lost (systems : Systems shell.Network shell.Host shell.Log shell.Observation)
    (backend : AgentBackend) (encoders : Encoders shell)
    (load : Content → Except SceneLoadFailure (SceneLoad shell)) (initialScene : SceneRef)
    (files : String → Content) (events before after : List LiveEvent)
    (split : events = before ++ after)
    (distinct : ∀ one two, Occurs files events one → Occurs files events two →
      observeSceneFile one = observeSceneFile two → one = two)
    (kept : meetsThroughout (step · systems backend encoders load) keepsUp
      (spawnDriver initialScene files) events = true)
    (settled : meetsThroughout (step · systems backend encoders load)
      (rests systems backend encoders load)
      ((spawnDriver initialScene files).run systems backend encoders load before) after = true)
    (polled : PollsThrough after)
    (served : ((spawnDriver initialScene files).run systems backend encoders load
      events).reloadWaiting = false) :
    ((spawnDriver initialScene files).run systems backend encoders load events).UpToDate := by
  have sound := meetsThroughout_invariant InStep
    (fun live event kept inStep => inStep.stepped systems backend encoders load event kept)
    (spawnDriver_inStep initialScene files) kept
  obtain ⟨earlier, between, later, rfl, long⟩ := polled
  obtain ⟨_, rest⟩ := Bool.and_eq_true_iff.mp (meetsThroughout_append.symm.trans settled)
  have resting : meetsThroughout (step · systems backend encoders load)
      (rests systems backend encoders load)
      ((spawnDriver initialScene files).run systems backend encoders load (before ++ earlier))
      (.poll :: (between ++ .poll :: later)) = true := by
    rw [run_append]
    exact rest
  have reached : ((spawnDriver initialScene files).run systems backend encoders load
      (before ++ earlier)).InStep :=
    sound _ ⟨.poll :: (between ++ .poll :: later), by rw [split, List.append_assoc]⟩
  have watches := reached.settled resting long
  rw [← run_content resting, ← run_append, List.append_assoc, ← split] at watches
  exact InStep.upToDate (sound events (List.prefix_refl _))
    (run_within systems backend encoders load initialScene files events) distinct watches served

section Scenes

/-- Whatever a readable file holds, an empty scene is read out of it. -/
def readEmpty : Content → Except SceneLoadFailure (SceneLoad emptyShell)
  | some _ => .ok
    { machine := ⟨⟨0, .loaded, (), none, none⟩, {}⟩
      sceneMeta := ()
      staticPayload := () }
  | none => .error (.read "not found")

def firstScene : SceneRef := ⟨"first", "games/first.json"⟩

def secondScene : SceneRef := ⟨"second", "games/second.json"⟩

def gameFiles (path : String) : Content :=
  if path = secondScene.path then some [1] else some [0]

/-- The driver after the events, started on the first scene. -/
def play (events : List LiveEvent) : LiveReload emptyShell :=
  (spawnDriver firstScene gameFiles).run crashingAgent defaultBackend emptyEncoders readEmpty events

/-- The watcher has taken its baseline of the first scene, whose file is then edited. -/
def edited : List LiveEvent :=
  [.send .subscribe, .receive, .poll, .write firstScene.path (some [2])]

/-- The driver switches to the second scene, whose file is edited before the watcher's next
turn. -/
def switched : List LiveEvent :=
  [.send .subscribe, .receive, .poll, .send (.setScene secondScene), .receive,
    .write secondScene.path (some [2])]

/-- Polls past the debounce period, and room for the driver to handle a reload. -/
def quiet : List LiveEvent := [.poll, .pass 300, .poll, .pass 300, .poll, .receive]

theorem quiet_pollsThrough : PollsThrough quiet :=
  ⟨[], [.pass 300], [.pass 300, .poll, .receive], rfl, by decide⟩

theorem gameFiles_distinct {events : List LiveEvent}
    (known : ∀ path content, LiveEvent.write path content ∈ events → content = some [2])
    (one two : Content) (first : Occurs gameFiles events one) (second : Occurs gameFiles events two) :
    observeSceneFile one = observeSceneFile two → one = two := by
  have listed (content : Content) (occurs : Occurs gameFiles events content) :
      content ∈ [some [0], some [1], some [2]] := by
    rcases occurs with ⟨path, rfl⟩ | ⟨path, written⟩
    · unfold gameFiles
      split <;> simp
    · rw [known path content written]
      simp
  have apart : ∀ one ∈ ([some [0], some [1], some [2]] : List Content),
      ∀ two ∈ ([some [0], some [1], some [2]] : List Content),
        observeSceneFile one = observeSceneFile two → one = two := by decide +kernel
  exact apart one (listed one first) two (listed two second)

theorem no_change_lost_edited : (play (edited ++ quiet)).UpToDate :=
  no_change_lost crashingAgent defaultBackend emptyEncoders readEmpty firstScene gameFiles
    (edited ++ quiet) edited quiet rfl (gameFiles_distinct (by simp [edited, quiet])) (by decide +kernel)
    (by decide +kernel) quiet_pollsThrough (by decide +kernel)

/-- A switch of scenes lets the watcher take a baseline the driver has not loaded. -/
theorem change_lost : (∀ one two, Occurs gameFiles (switched ++ quiet) one →
      Occurs gameFiles (switched ++ quiet) two → observeSceneFile one = observeSceneFile two → one = two) ∧
    meetsThroughout (step · crashingAgent defaultBackend emptyEncoders readEmpty)
      (rests crashingAgent defaultBackend emptyEncoders readEmpty) (play switched) quiet = true ∧
    PollsThrough quiet ∧ (play (switched ++ quiet)).reloadWaiting = false ∧
    ¬(play (switched ++ quiet)).UpToDate := by
  refine ⟨gameFiles_distinct (by simp [switched, quiet]), by decide +kernel, quiet_pollsThrough,
    by decide +kernel, fun upToDate => ?_⟩
  have stale : (play (switched ++ quiet)).lastRead = some (some [1]) := by decide +kernel
  have changed : (play (switched ++ quiet)).content = some [2] := by decide +kernel
  have same := upToDate.current _ stale
  rw [changed] at same
  cases same

end Scenes

end LiveReload

end Simetro.Desktop
