import Simetro.Desktop.Geometry
import Simetro.Frontend.ViewRouter

/-! The desktop program: the driver sends envelopes, and the page gets them one by one while scenes are
entered and left and frames are drawn. -/

namespace Simetro.Frontend

open Simetro.Desktop Simetro.Engine Simetro.Library Simetro.Protocol Simetro.Sl1

variable {Mirror Scene : Type}

/-- The driver and the page, with what the page handled and drew so far. -/
structure Session (Mirror Scene : Type) where
  driver : Driver (desktopShell Mirror)
  /-- How many of the envelopes sent have arrived. -/
  arrived : Nat := 0
  app : App (desktopShell Mirror) Scene := {}
  handled : List (Nat × Payload (desktopShell Mirror)) := []
  frames : List (Frame Scene (desktopShell Mirror).Snapshot) := []

/-- The driver handles a timer tick or a command, the next envelope arrives, something happens to the
page, or it draws a frame. -/
inductive SessionStep where
  | engine (mishaps : Mishaps SpeedTuner Unit) (input : Input)
  | arrives (now : Float)
  | page (event : PageEvent)
  | frame (now : Float)

namespace Session

section Runs

variable (printing : Printing) (backend : AgentBackend) (building : Building Mirror)
  (project : StaticPayload Mirror → Scene) (movers : World Transit → List MoverState)

def step (session : Session Mirror Scene) : SessionStep → Session Mirror Scene
  | .engine mishaps input =>
      { session with
        driver := Driver.handleEvent (desktopSystems printing mishaps) backend
          (sceneEncoders building.mirror) session.driver (input.event building) }
  | .arrives now =>
      match session.driver.sent[session.arrived]? with
      | none => session
      | some envelope =>
          let payloads := session.app.received envelope
          { session with
            arrived := session.arrived + 1
            app := session.app.handleAll project payloads now
            handled := session.handled ++ payloads.map fun payload => (envelope.seq, payload) }
  | .page event => { session with app := session.app.handle project event }
  | .frame now =>
      let drawn := session.app.frame movers now
      { session with app := drawn.1, frames := session.frames ++ drawn.2.toList }

def run (session : Session Mirror Scene) (steps : List SessionStep) : Session Mirror Scene :=
  steps.foldl (step printing backend building project movers) session

/-- The driver has started and the page shows the gallery. -/
def start (scene : SceneRef) (loaded : SceneLoad (desktopShell Mirror)) : Session Mirror Scene where
  driver := Driver.start (sceneEncoders building.mirror) scene loaded

end Runs

end Session

/-! ## One scene at a time -/

section Stretches

variable {shell : Shell}

/-- A static payload was sent, then the stretch, in which there is none, and then the rest. -/
structure Stretch (sent : List (Envelope shell)) (opening : shell.Static)
    (stretch rest : List (Envelope shell)) : Prop where
  split : ∃ before static, sent = before ++ static :: (stretch ++ rest) ∧
    static.payload = .static opening
  steady : ∀ envelope ∈ stretch, ∀ payload, envelope.payload ≠ .static payload

def Taken (stretch : List (Envelope shell)) (snap : shell.Snapshot) : Prop :=
  ∃ envelope ∈ stretch, envelope.payload = .snapshot snap

def Happened (stretch : List (Envelope shell)) (event : SimEvent) : Prop :=
  ∃ envelope ∈ stretch, ∃ events, envelope.payload = .events events ∧ event ∈ events

variable {sent stretch rest : List (Envelope shell)} {opening : shell.Static}

theorem Stretch.append (found : Stretch sent opening stretch rest) (more : List (Envelope shell)) :
    Stretch (sent ++ more) opening stretch (rest ++ more) where
  split := by
    obtain ⟨before, static, rfl, opened⟩ := found.split
    refine ⟨before, static, ?_, opened⟩
    simp only [List.append_assoc, List.cons_append]
  steady := found.steady

/-- The next envelope belongs to the stretch. -/
theorem Stretch.extend (found : Stretch sent opening stretch []) {envelope : Envelope shell}
    (unopened : ∀ payload, envelope.payload ≠ .static payload) :
    Stretch (sent ++ [envelope]) opening (stretch ++ [envelope]) [] where
  split := by
    obtain ⟨before, static, rfl, opened⟩ := found.split
    refine ⟨before, static, ?_, opened⟩
    simp only [List.append_assoc, List.cons_append, List.append_nil]
  steady other listed := by
    rcases List.mem_append.mp listed with earlier | new
    · exact found.steady other earlier
    · exact List.mem_singleton.mp new ▸ unopened

theorem Taken.append {snap : shell.Snapshot} (taken : Taken stretch snap) (more : List (Envelope shell)) :
    Taken (stretch ++ more) snap := by
  obtain ⟨envelope, listed, holds⟩ := taken
  exact ⟨envelope, List.mem_append_left more listed, holds⟩

theorem Happened.append {event : SimEvent} (happened : Happened stretch event)
    (more : List (Envelope shell)) : Happened (stretch ++ more) event := by
  obtain ⟨envelope, listed, holds⟩ := happened
  exact ⟨envelope, List.mem_append_left more listed, holds⟩

/-- The scene of the view is that of a stretch of what was seen and all the view holds is from it.
The stretch goes on, unless the transport received its last message. -/
def App.Shows (project : shell.Static → Scene) (seen : List (Envelope shell)) (app : App shell Scene) :
    Prop :=
  ∀ scene, app.view.scene = some scene → ∃ opening stretch rest,
    Stretch seen opening stretch rest ∧ scene = project opening ∧
      app.view.Within (Taken stretch) (Happened stretch) ∧ (rest = [] ∧ app.Attentive ∨ app.Deaf)

namespace App.Shows

variable {project : shell.Static → Scene} {seen : List (Envelope shell)} {app after : App shell Scene}

theorem of_keeps (shows : app.Shows project seen) (keeps : app.Keeps after) :
    after.Shows project seen := by
  intro scene shown
  rw [keeps.scene] at shown
  obtain ⟨opening, stretch, rest, found, same, within, follows⟩ := shows scene shown
  refine ⟨opening, stretch, rest, found, same, keeps.within within, ?_⟩
  rcases follows with ⟨ended, attentive⟩ | deaf
  · rcases keeps.attentive attentive with kept | deaf
    · exact .inl ⟨ended, kept⟩
    · exact .inr deaf
  · exact .inr (keeps.deaf deaf)

theorem handle (shows : app.Shows project seen) (sound : app.Sound) (event : PageEvent) :
    (app.handle project event).Shows project seen := by
  rcases App.handle_scene project sound event with left | keeps
  · intro scene shown
    rw [left] at shown
    cases shown
  · exact shows.of_keeps keeps

/-- An envelope that is handled and not static belongs to the stretch. -/
theorem follow (shows : app.Shows project seen) {envelope : Envelope shell}
    {transport : TauriTransport} (used : app.transport = some transport)
    (registered : transport.registered = true)
    (unopened : ∀ payload, envelope.payload ≠ .static payload)
    {view : SceneView Scene shell.Snapshot} (kept : view.scene = app.view.scene)
    (within : ∀ {stretch}, app.view.Within (Taken stretch) (Happened stretch) →
      view.Within (Taken (stretch ++ [envelope])) (Happened (stretch ++ [envelope]))) :
    App.Shows project (seen ++ [envelope]) { app with view } := by
  intro scene shown
  obtain ⟨opening, stretch, rest, found, same, held, follows⟩ := shows scene (kept.symm.trans shown)
  rcases follows with ⟨rfl, attentive⟩ | deaf
  · exact ⟨opening, stretch ++ [envelope], [], found.extend unopened, same, within held,
      .inl ⟨rfl, attentive⟩⟩
  · have unregistered := (deaf transport used).registered
    rw [registered] at unregistered
    cases unregistered

theorem arrives (shows : app.Shows project seen) (sound : app.Sound) (envelope : Envelope shell)
    (now : Float) :
    (app.handleAll project (app.received envelope) now).Shows project (seen ++ [envelope]) := by
  rcases sound.received envelope with ⟨lost, unregistered⟩ | ⟨handled, transport, used, registered⟩
  · rw [lost]
    intro scene shown
    obtain ⟨opening, stretch, rest, found, same, within, follows⟩ := shows scene shown
    refine ⟨opening, stretch, rest ++ [envelope], found.append _, same, within, .inr ?_⟩
    rcases follows with ⟨-, attentive⟩ | deaf
    · intro transport used
      have registered := attentive transport used
      rw [unregistered transport used] at registered
      cases registered
    · exact deaf
  · rw [handled]
    have lengthen {stretch : List (Envelope shell)}
        (within : app.view.Within (Taken stretch) (Happened stretch)) :
        app.view.Within (Taken (stretch ++ [envelope])) (Happened (stretch ++ [envelope])) :=
      within.mono (fun _ taken => taken.append _) fun _ happened => happened.append _
    have listed (stretch : List (Envelope shell)) : envelope ∈ stretch ++ [envelope] :=
      List.mem_append_right _ (List.mem_singleton_self envelope)
    cases message : envelope.payload with
    | static payload =>
      intro scene shown
      obtain rfl := Option.some.inj shown
      refine ⟨payload, [], [], ⟨⟨seen, envelope, rfl, message⟩, nofun⟩, rfl, ?_, .inl ⟨rfl, ?_⟩⟩
      · exact SceneView.Within.of_view (SceneView.Within.cleared app.view) rfl rfl
      · intro other found
        obtain rfl := Option.some.inj (used.symm.trans found)
        exact registered
    | snapshot snap =>
      refine shows.follow used registered (by rw [message]; nofun) ?_ fun within => ?_
      · exact SceneView.handleSnapshot_scene now
      · exact (lengthen within).handleSnapshot ⟨envelope, listed _, message⟩ now
    | events events =>
      refine shows.follow used registered (by rw [message]; nofun) ?_ fun within => ?_
      · exact SceneView.handleEvents_scene now
      · exact (lengthen within).handleEvents
          (fun event happened => ⟨envelope, listed _, events, message, happened⟩) now
    | message told => exact shows.follow used registered (by rw [message]; nofun) rfl lengthen

end App.Shows

end Stretches

/-! ## Every run -/

section Grounds

variable {Host Log : Type}

theorem latestStatic_steady {sent stretch : List (Envelope (sceneShell Host Log Mirror))}
    (steady : ∀ envelope ∈ stretch, asStatic envelope = none) :
    latestStatic (sent ++ stretch) = latestStatic sent := by
  induction stretch generalizing sent with
  | nil => rw [List.append_nil]
  | cons envelope stretch ih =>
    have split : sent ++ envelope :: stretch = (sent ++ [envelope]) ++ stretch := by simp
    rw [split, ih fun other listed => steady other (List.mem_cons_of_mem _ listed),
      latestStatic_append, steady envelope List.mem_cons_self, Option.none_or]

/-- What was taken in a stretch has the nodes and paths of its static payload. -/
theorem Stretch.shows {sent stretch rest : List (Envelope (sceneShell Host Log Mirror))}
    {opening : StaticPayload Mirror} (found : Stretch sent opening stretch rest)
    (grounded : Grounded sent) {world : World Transit} (taken : Taken stretch world) :
    opening.Shows world.network := by
  obtain ⟨before, static, rfl, opened⟩ := found.split
  obtain ⟨envelope, listed, shown⟩ := taken
  obtain ⟨earlier, later, rfl⟩ := List.append_of_mem listed
  have split : before ++ static :: ((earlier ++ envelope :: later) ++ rest) =
      (before ++ static :: earlier) ++ envelope :: (later ++ rest) := by simp
  obtain ⟨payload, last, shows⟩ := grounded _ _ _ split world shown
  have steady : ∀ other ∈ earlier, asStatic other = none := by
    intro other member
    have unopened := found.steady other (List.mem_append_left _ member)
    unfold asStatic
    split
    · rename_i payload static
      exact absurd static (unopened payload)
    · rfl
  have opens : asStatic static = some opening := by rw [asStatic, opened]
  have same : some payload = some opening := by
    rw [← last, List.append_cons, latestStatic_steady steady, latestStatic_append, opens, Option.some_or]
  exact Option.some.inj same ▸ shows

end Grounds

/-- The frame shows one stretch of what was sent: its scene, movers of its snapshots, and animations
of its events. -/
structure Pictures (project : StaticPayload Mirror → Scene)
    (movers : World Transit → List MoverState) (frame : Frame Scene (World Transit))
    (opening : StaticPayload Mirror) (stretch : List (Envelope (desktopShell Mirror))) : Prop where
  scene : frame.scene = project opening
  current : @Taken (desktopShell Mirror) stretch frame.current
  previous : ∀ world, frame.previous = some world → @Taken (desktopShell Mirror) stretch world
  rows : frame.movers.map (fun row => (row.id, row.speed, row.onPath)) =
    (movers frame.current).map fun row => (row.id, row.speed, row.onPath)
  overlay : ∀ event ∈ frame.overlay, Happened stretch event
  bounded : frame.overlay.length ≤ slotCapacity

namespace Session

/-- What reached the page, handled or not. -/
def seen (session : Session Mirror Scene) : List (Envelope (desktopShell Mirror)) :=
  session.driver.sent.take session.arrived

variable (project : StaticPayload Mirror → Scene) (movers : World Transit → List MoverState)

structure Sound (session : Session Mirror Scene) : Prop where
  fresh : Fresh session.driver
  numbered : session.driver.Numbered
  feeds : Feeds [] session.driver
  arrived : session.arrived ≤ session.driver.sent.length
  app : session.app.Sound
  shows : session.app.Shows project session.seen
  frames : ∀ frame ∈ session.frames, ∃ opening stretch rest,
    Stretch session.seen opening stretch rest ∧ Pictures project movers frame opening stretch
  handled : session.handled.Sublist (session.seen.map fun envelope => (envelope.seq, envelope.payload))

variable {project movers} (printing : Printing) (backend : AgentBackend) (building : Building Mirror)
  {session : Session Mirror Scene}

theorem fresh_handleEvent {driver : Driver (desktopShell Mirror)} (fresh : Fresh driver)
    (mishaps : Mishaps SpeedTuner Unit) (input : Input) :
    Fresh (Driver.handleEvent (desktopSystems printing mishaps) backend (sceneEncoders building.mirror)
      driver (input.event building)) := by
  refine fresh.handleEvent building.mirror (desktop_settles printing mishaps backend) ?_
  intro command files told
  cases input with
  | timer => cases told
  | command given read =>
    cases told
    exact sceneFiles_faithful building read

/-- What was seen is a part of what is sent, whatever is sent since. -/
theorem seen_of_sent {driver : Driver (desktopShell Mirror)}
    (sent : session.driver.sent <+: driver.sent) (arrived : session.arrived ≤ session.driver.sent.length) :
    seen { session with driver } = session.seen := by
  obtain ⟨more, same⟩ := sent
  rw [seen, seen, ← same, List.take_append_of_le_length arrived]

/-- One more envelope is seen. -/
theorem seen_next {envelope : Envelope (desktopShell Mirror)}
    (next : session.driver.sent[session.arrived]? = some envelope) {app : App (desktopShell Mirror) Scene}
    {handled : List (Nat × Payload (desktopShell Mirror))} :
    seen { session with arrived := session.arrived + 1, app, handled } = session.seen ++ [envelope] := by
  rw [seen, seen, List.take_add_one, next, Option.toList_some]

theorem start_sound : App.Sound ({} : App (desktopShell Mirror) Scene) :=
  ⟨nofun, nofun, fun _ => ⟨rfl, rfl⟩⟩

theorem Sound.start (scene : SceneRef) {raw : RawScene} {loaded : SceneLoad (desktopShell Mirror)}
    (initial : buildSceneLoad building raw = .ok loaded) :
    (Session.start building scene loaded).Sound project movers where
  fresh := Fresh.start building.mirror scene (buildSceneLoad_shows building initial)
  numbered := Driver.start_numbered (sceneEncoders building.mirror) scene loaded
  feeds := Feeds.start (sceneEncoders building.mirror) scene loaded
  arrived := Nat.zero_le _
  app := start_sound
  shows := fun _ shown => absurd shown.symm (Option.some_ne_none _)
  frames := fun _ drawn => absurd drawn List.not_mem_nil
  handled := List.nil_sublist _

/-- The driver goes on. -/
theorem Sound.engine {driver : Driver (desktopShell Mirror)} (sound : session.Sound project movers)
    (fresh : Fresh driver) (numbered : driver.Numbered) (feeds : Feeds session.driver.sent driver) :
    Sound project movers { session with driver } := by
  have same := seen_of_sent feeds.sent sound.arrived
  constructor
  case fresh => exact fresh
  case numbered => exact numbered
  case feeds => exact ⟨List.nil_prefix, feeds.latest⟩
  case arrived => exact sound.arrived.trans feeds.sent.length_le
  case app => exact sound.app
  case shows => exact same ▸ sound.shows
  case frames => exact same ▸ sound.frames
  case handled => exact same ▸ sound.handled

theorem Sound.arrives (sound : session.Sound project movers) {envelope : Envelope (desktopShell Mirror)}
    (next : session.driver.sent[session.arrived]? = some envelope) (now : Float) :
    Sound project movers { session with
      arrived := session.arrived + 1
      app := session.app.handleAll project (session.app.received envelope) now
      handled := session.handled ++
        (session.app.received envelope).map fun payload => (envelope.seq, payload) } := by
  have grown := @seen_next Mirror Scene session envelope next
  constructor
  case fresh => exact sound.fresh
  case numbered => exact sound.numbered
  case feeds => exact sound.feeds
  case arrived => exact (List.getElem?_eq_some_iff.mp next).1
  case app => exact ⟨sound.app.left, sound.app.connected, sound.app.gallery⟩
  case shows =>
    rw [grown]
    exact sound.shows.arrives sound.app envelope now
  case frames =>
    rw [grown]
    intro frame drawn
    obtain ⟨opening, stretch, rest, found, pictures⟩ := sound.frames frame drawn
    exact ⟨opening, stretch, rest ++ [envelope], found.append _, pictures⟩
  case handled =>
    rw [grown, List.map_append]
    refine sound.handled.append ?_
    rcases sound.app.received envelope with ⟨lost, -⟩ | ⟨handled, -⟩
    · rw [lost]
      exact List.nil_sublist _
    · rw [handled]
      exact List.Sublist.refl _

theorem Sound.page (sound : session.Sound project movers) (event : PageEvent) :
    Sound project movers { session with app := session.app.handle project event } :=
  { sound with
    app := sound.app.handle project event
    shows := sound.shows.handle sound.app event }

/-- What is drawn now shows one stretch of what was seen. -/
theorem Sound.drawn (sound : session.Sound project movers) {now : Float}
    {frame : Frame Scene (World Transit)}
    (drawn : (session.app.view.frame movers now).2 = some frame) : ∃ opening stretch rest,
    Stretch session.seen opening stretch rest ∧ Pictures project movers frame opening stretch := by
  have anything : session.app.view.Within (fun _ => True) fun _ => True :=
    ⟨fun _ _ => trivial, fun _ _ _ => trivial⟩
  obtain ⟨opening, stretch, rest, found, same, within, -⟩ :=
    sound.shows frame.scene (SceneView.frame_shows anything movers now drawn).1
  obtain ⟨-, current, previous, rows, overlay, bounded⟩ :=
    SceneView.frame_shows within movers now drawn
  exact ⟨opening, stretch, rest, found, same, current, previous, rows, overlay, bounded⟩

theorem Sound.frame (sound : session.Sound project movers) (now : Float) :
    Sound project movers { session with
      app := (session.app.frame movers now).1
      frames := session.frames ++ (session.app.frame movers now).2.toList } := by
  unfold App.frame
  split
  · have keeps : session.app.Keeps
        { session.app with view := (session.app.view.frame movers now).1 } := by
      refine .of_transport ?_ (fun within => within.frame movers now) rfl
      exact SceneView.frame_scene now movers
    refine { sound with app := ?_, shows := sound.shows.of_keeps keeps, frames := ?_ }
    · exact ⟨sound.app.left, sound.app.connected, sound.app.gallery⟩
    · intro frame listed
      rcases List.mem_append.mp listed with earlier | new
      · exact sound.frames frame earlier
      · exact sound.drawn (Option.mem_toList.mp new)
  · rw [Option.toList_none, List.append_nil]
    exact sound

theorem Sound.step (sound : session.Sound project movers) (given : SessionStep) :
    (session.step printing backend building project movers given).Sound project movers := by
  cases given with
  | engine mishaps input =>
    refine sound.engine ?_ ?_ ?_
    · exact fresh_handleEvent printing backend building sound.fresh mishaps input
    · exact sound.numbered.handleEvent _ _ backend (input.event building)
    · exact Feeds.handleEvent _ _ backend ⟨List.prefix_rfl, sound.feeds.latest⟩ (input.event building)
  | arrives now =>
    rw [Session.step]
    split
    · exact sound
    · rename_i envelope next
      exact sound.arrives next now
  | page event => exact sound.page event
  | frame now => exact sound.frame now

theorem Sound.run (sound : session.Sound project movers) (steps : List SessionStep) :
    (session.run printing backend building project movers steps).Sound project movers :=
  List.foldlRecOn (motive := Sound project movers) _ _ sound
    fun _ kept given _ => kept.step printing backend building given

/-! ## What holds in every run -/

/-- The listener of a scene that was entered is registered. -/
def listeningSteps : List SessionStep :=
  [.page (.completed .imported 0), .page (.completed .registers 0), .page (.completed .listened 0)]

/-- The driver answers the subscriber, and the four envelopes sent arrive. -/
def catchingSteps : List SessionStep :=
  [.engine calm (.command .subscribe fun _ => .ok tunedScene)] ++ [1, 2, 3, 4].map .arrives

theorem tunedScene_builds : ∃ loaded : SceneLoad (desktopShell Unit),
    buildSceneLoad plainBuilding tunedScene = .ok loaded := by
  have loads : yields (buildSceneLoad plainBuilding tunedScene :
      Except SceneLoadFailure (SceneLoad (desktopShell Unit))) (fun _ => true) = true := by
    decide +kernel
  obtain ⟨loaded, built, -⟩ := yields_iff.mp loads
  exact ⟨loaded, built⟩

/-- A scene is drawn as its name. -/
def drawName (payload : StaticPayload Unit) : String := payload.name

abbrev runShuttle (session : Session Unit String) (steps : List SessionStep) : Session Unit String :=
  run plainPrinting defaultBackend plainBuilding drawName (fun _ => []) session steps

/-- However the driver is told, wherever ticks panic, whenever scenes are entered and left, and whatever
of what was sent the page had no listener for: every frame shows one scene. It has the nodes and paths
of the worlds that the frame's movers are taken of, and the animations come from the same stretch. -/
theorem frames_show_one_scene (scene : SceneRef) {raw : RawScene}
    {loaded : SceneLoad (desktopShell Mirror)} (initial : buildSceneLoad building raw = .ok loaded)
    (project : StaticPayload Mirror → Scene) (movers : World Transit → List MoverState)
    (steps : List SessionStep) :
    let session := run printing backend building project movers (start building scene loaded) steps
    ∀ frame ∈ session.frames, ∃ opening stretch rest,
      Stretch session.driver.sent opening stretch rest ∧
        Pictures project movers frame opening stretch ∧
        opening.Shows frame.current.network ∧
        ∀ world, frame.previous = some world → opening.Shows world.network := by
  intro session frame drawn
  have sound : session.Sound project movers :=
    (Sound.start building scene initial).run printing backend building steps
  obtain ⟨opening, stretch, rest, found, pictures⟩ := sound.frames frame drawn
  have grounded := sound.fresh.grounded
  have sent : Stretch session.driver.sent opening stretch
      (rest ++ session.driver.sent.drop session.arrived) := by
    have longer := found.append (session.driver.sent.drop session.arrived)
    rwa [seen, List.take_append_drop] at longer
  refine ⟨opening, stretch, _, sent, pictures, sent.shows grounded pictures.current, ?_⟩
  exact fun world before => sent.shows grounded (pictures.previous world before)

theorem frames_show_one_scene_shuttle : ∃ loaded : SceneLoad (desktopShell Unit),
    buildSceneLoad plainBuilding tunedScene = .ok loaded ∧
      let session := runShuttle (start plainBuilding ⟨"shuttle", "games/shuttle.json"⟩ loaded)
        (.page (.showSim "shuttle" none) :: listeningSteps ++ catchingSteps ++ [.frame 5])
      ∀ frame ∈ session.frames, ∃ opening stretch rest,
        Stretch session.driver.sent opening stretch rest ∧
          Pictures drawName (fun _ => []) frame opening stretch ∧
          opening.Shows frame.current.network ∧
          ∀ world, frame.previous = some world → opening.Shows world.network := by
  obtain ⟨loaded, built⟩ := tunedScene_builds
  exact ⟨loaded, built, frames_show_one_scene plainPrinting defaultBackend plainBuilding _ built
    drawName (fun _ => []) _⟩

/-- Every message is handled once at most and in order, as it was sent. A transport that was left hands
on nothing and is unregistered once `listen` is answered, and the gallery has no transport and draws
no frames. -/
theorem messages_handled_once (scene : SceneRef) {raw : RawScene}
    {loaded : SceneLoad (desktopShell Mirror)} (initial : buildSceneLoad building raw = .ok loaded)
    (project : StaticPayload Mirror → Scene) (movers : World Transit → List MoverState)
    (steps : List SessionStep) :
    let session := run printing backend building project movers (start building scene loaded) steps
    session.handled.Sublist (session.driver.sent.map fun envelope => (envelope.seq, envelope.payload)) ∧
      (session.handled.map Prod.fst).Pairwise (· < ·) ∧
      (∀ transport ∈ session.app.left, transport.handler = false ∧
        (transport.setup ≠ .listening → transport.registered = false)) ∧
      (session.app.currentView = .gallery →
        session.app.transport = none ∧ session.app.rafScheduled = false) := by
  intro session
  have sound : session.Sound project movers :=
    (Sound.start building scene initial).run printing backend building steps
  have handled : session.handled.Sublist
      (session.driver.sent.map fun envelope => (envelope.seq, envelope.payload)) := by
    refine sound.handled.trans (List.Sublist.map _ ?_)
    exact List.take_sublist _ _
  refine ⟨handled, ?_, fun transport listed => ?_, sound.app.gallery⟩
  · have numbers := handled.map Prod.fst
    rw [List.map_map] at numbers
    have range : session.driver.sent.map Envelope.seq = List.range session.driver.sent.length :=
      sound.numbered.sent
    refine List.Pairwise.sublist numbers ?_
    exact range ▸ List.pairwise_lt_range
  · obtain ⟨disconnected, tidy⟩ := sound.app.left transport listed
    refine ⟨disconnected, fun answered => Bool.eq_false_of_not_eq_true fun registered => ?_⟩
    rcases tidy.registered registered with waiting | held
    · exact answered waiting
    · have connected := (tidy.unlisten held).1
      rw [disconnected] at connected
      cases connected

theorem messages_handled_once_shuttle : ∃ loaded : SceneLoad (desktopShell Unit),
    buildSceneLoad plainBuilding tunedScene = .ok loaded ∧
      let session := runShuttle (start plainBuilding ⟨"shuttle", "games/shuttle.json"⟩ loaded)
        (.page (.showSim "shuttle" none) :: listeningSteps ++ catchingSteps ++ [.page .showGallery])
      session.handled.Sublist
          (session.driver.sent.map fun envelope => (envelope.seq, envelope.payload)) ∧
        (session.handled.map Prod.fst).Pairwise (· < ·) ∧
        (∀ transport ∈ session.app.left, transport.handler = false ∧
          (transport.setup ≠ .listening → transport.registered = false)) ∧
        (session.app.currentView = .gallery →
          session.app.transport = none ∧ session.app.rafScheduled = false) := by
  obtain ⟨loaded, built⟩ := tunedScene_builds
  exact ⟨loaded, built, messages_handled_once plainPrinting defaultBackend plainBuilding _ built
    drawName (fun _ => []) _⟩

end Session

end Simetro.Frontend
