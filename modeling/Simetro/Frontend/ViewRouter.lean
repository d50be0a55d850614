import Simetro.Bridge.Wire
import Simetro.Frontend.SceneView

/-! The page: a transport for each scene that is entered, and the router between the gallery and the
simulation view. The page runs one callback at a time, and a transport that waits is resumed later. -/

namespace Simetro.Frontend

open Simetro.Desktop Simetro.Protocol

/-! ## The transport -/

/-- Where `setupListener` waits: for the imports, for `listen`, for `cmd_subscribe`, or nowhere. -/
inductive Setup where
  | importing
  | listening
  | subscribing
  | ended
  deriving DecidableEq

/-- A transport from `connect` on. The runtime knows if its callback is registered. -/
structure TauriTransport where
  handler : Bool := true
  unlisten : Bool := false
  registered : Bool := false
  setup : Setup := .importing

/-- What the runtime does for a transport that waits. -/
inductive Completion where
  | imported
  | registers
  | listened
  | subscribed
  | rejected
  deriving DecidableEq

structure SimEnvelope (shell : Shell) where
  schemaVersion : Nat
  seq : Nat
  payload : Payload shell

/-- The wire form of an envelope carries the version of the protocol. -/
def SimEnvelope.new {shell : Shell} (envelope : Envelope shell) : SimEnvelope shell :=
  ⟨Bridge.schemaVersion, envelope.seq, envelope.payload⟩

/-- The version that the frontend expects. -/
def expectedVersion : Nat := 1

namespace TauriTransport

variable (transport : TauriTransport)

def disconnect : TauriTransport :=
  let transport :=
    if transport.unlisten then { transport with unlisten := false, registered := false } else transport
  { transport with handler := false }

def emitTransportLost : Option FaultPayload :=
  if transport.handler then some .transportLost else none

/-- The callback given to `listen`. -/
def receive {shell : Shell} (envelope : SimEnvelope shell) : Option (Payload shell) :=
  if transport.registered && transport.handler then
    if envelope.schemaVersion ≠ expectedVersion then
      some (.message (.fault (.schemaMismatch expectedVersion envelope.schemaVersion)))
    else some envelope.payload
  else none

/-- `setupListener` from where it waits to where it waits next, and the fault it hands on. A `listen`
that is rejected did not register, and one that registered is not rejected. -/
def complete : Completion → TauriTransport × Option FaultPayload
  | .imported =>
      if transport.setup = .importing then ({ transport with setup := .listening }, none)
      else (transport, none)
  | .registers =>
      if transport.setup = .listening then ({ transport with registered := true }, none)
      else (transport, none)
  | .listened =>
      if transport.setup = .listening ∧ transport.registered then
        if transport.handler then ({ transport with unlisten := true, setup := .subscribing }, none)
        else ({ transport with registered := false, setup := .ended }, none)
      else (transport, none)
  | .subscribed =>
      if transport.setup = .subscribing then ({ transport with setup := .ended }, none)
      else (transport, none)
  | .rejected =>
      if transport.setup = .ended ∨ transport.setup = .listening ∧ transport.registered then
        (transport, none)
      else if transport.setup = .subscribing ∧ transport.unlisten then
        ({ transport with registered := false, unlisten := false, setup := .ended },
          transport.emitTransportLost)
      else ({ transport with setup := .ended }, transport.emitTransportLost)

end TauriTransport

/-! ## The router -/

inductive View where
  | gallery
  | sim
  deriving DecidableEq

/-- A `set_scene` that the driver has not answered. -/
structure Route where
  token : Nat
  previousSceneId : Option String

/-- Where `showSim` throws: at the widgets before the view is reset, at those after it, or at the
address of the page once all is set up. -/
inductive Throw where
  | widgets
  | controls
  | address
  deriving DecidableEq

structure App (shell : Shell) (Scene : Type) where
  view : SceneView Scene shell.Snapshot := {}
  selectedSceneId : Option String := none
  currentView : View := .gallery
  transport : Option TauriTransport := none
  /-- The transports disconnected so far, some of which still wait. -/
  left : List TauriTransport := []
  rafScheduled : Bool := false
  transitioning : Bool := false
  transitionToken : Nat := 0
  routes : List Route := []

/-- What happens to the page besides messages and frames. -/
inductive PageEvent where
  | showGallery
  | showSim (sceneId : String) (throws : Option Throw)
  | transitionOver
  | routed (i : Nat) (ok : Bool)
  | completed (completion : Completion) (now : Float)
  | completedLeft (i : Nat) (completion : Completion) (now : Float)
  | pauseToggled
  | hidden
  | shown (now : Float)

namespace App

variable {shell : Shell} {Scene : Type} (app : App shell Scene)

def disconnect : App shell Scene :=
  { app with
    transport := none
    left := app.left ++ app.transport.toList.map (·.disconnect) }

def showGallery : App shell Scene :=
  let app := { app with transitionToken := app.transitionToken + 1 }
  if app.currentView = .gallery then app
  else { app with currentView := .gallery, rafScheduled := false }.disconnect

def showSim (sceneId : String) (throws : Option Throw) : App shell Scene :=
  if app.transitioning then app
  else
    let previousSceneId := app.selectedSceneId
    let app := { app with
      transitioning := true
      transitionToken := app.transitionToken + 1
      currentView := .sim
      selectedSceneId := some sceneId }
    if throws = some .widgets then app.showGallery
    else
      let app := { app with view := app.view.enter }
      if throws = some .controls then app.showGallery
      else
        let app := { app.disconnect with transport := some {} }
        let app := if previousSceneId = some sceneId then app
          else { app with routes := app.routes ++ [⟨app.transitionToken, previousSceneId⟩] }
        let app := { app with rafScheduled := true }
        if throws = some .address then app.showGallery else app

/-- The driver answers a `set_scene`. A refusal that is not stale restores the selection. -/
def routed (i : Nat) (ok : Bool) : App shell Scene :=
  match app.routes[i]? with
  | none => app
  | some route =>
      let app := { app with routes := app.routes.eraseIdx i }
      if route.token ≠ app.transitionToken ∨ ok then app
      else
        let app := { app with selectedSceneId := route.previousSceneId }
        if route.previousSceneId = none then app.showGallery else app

/-- What the callbacks that are registered hand on of an envelope. -/
def received (envelope : Envelope shell) : List (Payload shell) :=
  (app.left ++ app.transport.toList).filterMap (·.receive (.new envelope))

def visibilityHidden : App shell Scene := { app with rafScheduled := false }

def visibilityShown (now : Float) : App shell Scene :=
  if app.currentView = .sim then { app with view := app.view.refocus now, rafScheduled := true }
  else app

section Messages

variable (project : shell.Static → Scene)

def handleAll (payloads : List (Payload shell)) (now : Float) : App shell Scene :=
  { app with view := payloads.foldl (handleMessage project · now ·) app.view }

/-- The runtime resumes the transport in use, which may hand on a fault. -/
def completed (completion : Completion) (now : Float) : App shell Scene :=
  match app.transport with
  | none => app
  | some transport =>
      let resumed := transport.complete completion
      { app with transport := some resumed.1 }.handleAll project
        (resumed.2.toList.map fun fault => .message (.fault fault)) now

/-- The runtime resumes a transport that was disconnected. -/
def completedLeft (i : Nat) (completion : Completion) (now : Float) : App shell Scene :=
  match app.left[i]? with
  | none => app
  | some transport =>
      let resumed := transport.complete completion
      { app with left := app.left.set i resumed.1 }.handleAll project
        (resumed.2.toList.map fun fault => .message (.fault fault)) now

end Messages

def handle (project : shell.Static → Scene) : PageEvent → App shell Scene
  | .showGallery => app.showGallery
  | .showSim sceneId throws => app.showSim sceneId throws
  | .transitionOver => { app with transitioning := false }
  | .routed i ok => app.routed i ok
  | .completed completion now => app.completed project completion now
  | .completedLeft i completion now => app.completedLeft project i completion now
  | .pauseToggled => { app with view := app.view.setPaused (!app.view.paused) }
  | .hidden => app.visibilityHidden
  | .shown now => app.visibilityShown now

/-- The next animation frame. -/
def frame (movers : shell.Snapshot → List MoverState) (now : Float) :
    App shell Scene × Option (Frame Scene shell.Snapshot) :=
  if app.rafScheduled then
    let drawn := app.view.frame movers now
    ({ app with view := drawn.1 }, drawn.2)
  else (app, none)

end App

/-! ## One listener -/

/-- A callback is registered while `listen` is answered or as long as it can be unregistered, which
only a connected transport can. -/
structure TauriTransport.Tidy (transport : TauriTransport) : Prop where
  registered : transport.registered = true → transport.setup = .listening ∨ transport.unlisten = true
  unlisten : transport.unlisten = true → transport.handler = true ∧ transport.registered = true

/-- The transport received its last message. -/
structure TauriTransport.Spent (transport : TauriTransport) : Prop where
  registered : transport.registered = false
  setup : transport.setup = .ended

namespace TauriTransport

variable {transport : TauriTransport}

theorem receive_of_disconnected {shell : Shell} (disconnected : transport.handler = false)
    (envelope : SimEnvelope shell) : transport.receive envelope = none := by
  rw [receive, disconnected, Bool.and_false, if_neg Bool.false_ne_true]

theorem receive_of_unregistered {shell : Shell} (unregistered : transport.registered = false)
    (envelope : SimEnvelope shell) : transport.receive envelope = none := by
  rw [receive, unregistered, Bool.false_and, if_neg Bool.false_ne_true]

/-- The driver and the frontend agree on the version. -/
theorem receive_of_registered {shell : Shell} (registered : transport.registered = true)
    (connected : transport.handler = true) (envelope : Envelope shell) :
    transport.receive (.new envelope) = some envelope.payload := by
  rw [receive, registered, connected, Bool.and_self, if_pos rfl]
  exact if_neg fun differ => differ rfl

theorem Tidy.disconnect (tidy : transport.Tidy) : transport.disconnect.Tidy := by
  rw [TauriTransport.disconnect]
  split
  · exact ⟨nofun, nofun⟩
  · rename_i unheld
    exact ⟨tidy.registered, fun held => absurd held unheld⟩

/-- What resuming a transport can do. -/
theorem complete_rule {motive : TauriTransport × Option FaultPayload → Prop} (completion : Completion)
    (same : motive (transport, none))
    (imported : transport.setup = .importing → motive ({ transport with setup := .listening }, none))
    (registers : transport.setup = .listening → motive ({ transport with registered := true }, none))
    (listened : transport.registered = true → transport.handler = true →
      motive ({ transport with unlisten := true, setup := .subscribing }, none))
    (bails : transport.setup = .listening → transport.handler = false →
      motive ({ transport with registered := false, setup := .ended }, none))
    (subscribed : transport.setup = .subscribing → motive ({ transport with setup := .ended }, none))
    (unlistens : transport.setup = .subscribing →
      motive ({ transport with registered := false, unlisten := false, setup := .ended },
        transport.emitTransportLost))
    (fails : transport.setup ≠ .ended → (transport.setup = .listening → transport.registered = false) →
      motive ({ transport with setup := .ended }, transport.emitTransportLost)) :
    motive (transport.complete completion) := by
  cases completion with
  | imported =>
    rw [complete]
    split
    · rename_i waiting
      exact imported waiting
    · exact same
  | registers =>
    rw [complete]
    split
    · rename_i waiting
      exact registers waiting
    · exact same
  | listened =>
    rw [complete]
    split
    · rename_i answered
      split
      · rename_i connected
        exact listened answered.2 connected
      · rename_i disconnected
        exact bails answered.1 (Bool.eq_false_of_not_eq_true disconnected)
    · exact same
  | subscribed =>
    rw [complete]
    split
    · rename_i waiting
      exact subscribed waiting
    · exact same
  | rejected =>
    rw [complete]
    split
    · exact same
    · rename_i unanswered
      split
      · rename_i waiting
        exact unlistens waiting.1
      · refine fails (fun settled => unanswered (.inl settled)) fun waiting => ?_
        exact Bool.eq_false_of_not_eq_true fun listens => unanswered (.inr ⟨waiting, listens⟩)

theorem complete_handler (completion : Completion) :
    (transport.complete completion).1.handler = transport.handler := by
  apply complete_rule (motive := fun after => after.1.handler = transport.handler) completion
  all_goals intros; rfl

theorem Tidy.complete (tidy : transport.Tidy) (completion : Completion) :
    (transport.complete completion).1.Tidy := by
  obtain ⟨registered, unlisten⟩ := tidy
  apply complete_rule (motive := fun after => after.1.Tidy) completion
  case same => exact ⟨registered, unlisten⟩
  case imported => exact fun _ => ⟨fun _ => .inl rfl, unlisten⟩
  case registers => exact fun waiting => ⟨fun _ => .inl waiting, fun held => ⟨(unlisten held).1, rfl⟩⟩
  case listened => exact fun listens connected => ⟨fun _ => .inr rfl, fun _ => ⟨connected, listens⟩⟩
  case bails =>
    intro _ disconnected
    refine ⟨nofun, fun held => ?_⟩
    rw [disconnected] at unlisten
    exact absurd (unlisten held).1 Bool.false_ne_true
  case subscribed =>
    intro waiting
    refine ⟨fun listens => .inr ?_, unlisten⟩
    rcases registered listens with early | held
    · rw [waiting] at early
      cases early
    · exact held
  case unlistens => exact fun _ => ⟨nofun, nofun⟩
  case fails =>
    intro _ unanswered
    refine ⟨fun listens => ?_, unlisten⟩
    rcases registered listens with waiting | held
    · rw [unanswered waiting] at listens
      cases listens
    · exact .inr held

/-- A registered callback stays, or the transport is spent. -/
theorem complete_registered (connected : transport.handler = true)
    (registered : transport.registered = true) (completion : Completion) :
    (transport.complete completion).1.registered = true ∨ (transport.complete completion).1.Spent := by
  apply complete_rule (motive := fun after => after.1.registered = true ∨ after.1.Spent) completion
  case bails =>
    intro _ disconnected
    rw [connected] at disconnected
    cases disconnected
  case unlistens => exact fun _ => .inr ⟨rfl, rfl⟩
  case registers => exact fun _ => .inl rfl
  all_goals intros; exact .inl registered

/-- Only a rejection takes the callback away. -/
theorem complete_unrejected (connected : transport.handler = true) {completion : Completion}
    (unrejected : completion ≠ .rejected) :
    (transport.complete completion).1.registered = transport.registered ∨
      (transport.complete completion).1.registered = true := by
  cases completion with
  | imported =>
    rw [complete]
    split
    · exact .inl rfl
    · exact .inl rfl
  | registers =>
    rw [complete]
    split
    · exact .inr rfl
    · exact .inl rfl
  | listened =>
    rw [complete, if_pos connected]
    split
    · exact .inl rfl
    · exact .inl rfl
  | subscribed =>
    rw [complete]
    split
    · exact .inl rfl
    · exact .inl rfl
  | rejected => exact absurd rfl unrejected

theorem Spent.complete (spent : transport.Spent) (completion : Completion) :
    (transport.complete completion).1.Spent := by
  have same {setup : Setup} (waiting : transport.setup = setup) : setup = .ended :=
    waiting.symm.trans spent.setup
  apply complete_rule (motive := fun after => after.1.Spent) completion
  case same => exact spent
  case listened =>
    intro listens
    rw [spent.registered] at listens
    cases listens
  case fails => exact fun waiting => absurd spent.setup waiting
  all_goals intro waiting; cases same waiting

end TauriTransport

/-- One transport is connected at most, and the gallery has neither a transport nor frames. -/
structure App.Sound {shell : Shell} {Scene : Type} (app : App shell Scene) : Prop where
  left : ∀ transport ∈ app.left, transport.handler = false ∧ transport.Tidy
  connected : ∀ transport, app.transport = some transport →
    transport.handler = true ∧ transport.Tidy
  gallery : app.currentView = .gallery → app.transport = none ∧ app.rafScheduled = false

/-- The transport in use received its last message. -/
def App.Deaf {shell : Shell} {Scene : Type} (app : App shell Scene) : Prop :=
  ∀ transport, app.transport = some transport → transport.Spent

/-- The transport in use receives every message. -/
def App.Attentive {shell : Shell} {Scene : Type} (app : App shell Scene) : Prop :=
  ∀ transport, app.transport = some transport → transport.registered = true

/-- The scene stays, nothing new is held, and a transport that stopped to receive is spent. -/
structure App.Keeps {shell : Shell} {Scene : Type} (app after : App shell Scene) : Prop where
  scene : after.view.scene = app.view.scene
  within : ∀ {taken happened}, app.view.Within taken happened → after.view.Within taken happened
  deaf : app.Deaf → after.Deaf
  attentive : app.Attentive → after.Attentive ∨ after.Deaf

namespace App

variable {shell : Shell} {Scene : Type} {app : App shell Scene}

theorem Keeps.of_transport {after : App shell Scene} (scene : after.view.scene = app.view.scene)
    (within : ∀ {taken happened}, app.view.Within taken happened → after.view.Within taken happened)
    (transport : after.transport = app.transport) : app.Keeps after where
  scene
  within
  deaf deaf := by
    intro used found
    exact deaf used (transport ▸ found)
  attentive attentive := by
    refine .inl fun used found => ?_
    exact attentive used (transport ▸ found)

theorem Keeps.trans {between after : App shell Scene} (first : app.Keeps between)
    (second : between.Keeps after) : app.Keeps after where
  scene := second.scene.trans first.scene
  within within := second.within (first.within within)
  deaf deaf := second.deaf (first.deaf deaf)
  attentive attentive := by
    rcases first.attentive attentive with kept | deaf
    · exact second.attentive kept
    · exact .inr (second.deaf deaf)

theorem disconnect_sound (left : ∀ transport ∈ app.left, transport.handler = false ∧ transport.Tidy)
    (connected : ∀ transport, app.transport = some transport →
      transport.handler = true ∧ transport.Tidy)
    (idle : app.currentView = .gallery → app.rafScheduled = false) : app.disconnect.Sound where
  left transport listed := by
    rcases List.mem_append.mp listed with earlier | own
    · exact left transport earlier
    · obtain ⟨used, found, rfl⟩ := List.mem_map.mp own
      exact ⟨rfl, (connected used (Option.mem_toList.mp found)).2.disconnect⟩
  connected := nofun
  gallery shown := ⟨rfl, idle shown⟩

theorem Sound.showGallery (sound : app.Sound) : app.showGallery.Sound := by
  rw [App.showGallery]
  split
  · exact ⟨sound.left, sound.connected, sound.gallery⟩
  · exact disconnect_sound sound.left sound.connected fun _ => rfl

theorem keeps_showGallery : app.Keeps app.showGallery := by
  rw [App.showGallery]
  split
  · exact .of_transport rfl id rfl
  · exact ⟨rfl, id, fun _ => nofun, fun _ => .inr nofun⟩

theorem showGallery_scene : app.showGallery.view.scene = app.view.scene := keeps_showGallery.scene

/-- A transport that was just connected. -/
theorem Sound.of_connected {after : App shell Scene}
    (left : ∀ transport ∈ after.left, transport.handler = false ∧ transport.Tidy)
    (transport : after.transport = some {}) (shown : after.currentView = .sim) : after.Sound where
  left
  connected used found := by
    obtain rfl := Option.some.inj (found.symm.trans transport)
    exact ⟨rfl, nofun, nofun⟩
  gallery hides := by
    rw [shown] at hides
    cases hides

theorem Sound.showSim (sound : app.Sound) (sceneId : String) (throws : Option Throw) :
    (app.showSim sceneId throws).Sound := by
  have left := (disconnect_sound sound.left sound.connected fun shown => (sound.gallery shown).2).left
  unfold App.showSim
  split
  · exact sound
  · split
    · exact Sound.showGallery ⟨sound.left, sound.connected, nofun⟩
    · simp only
      split
      · exact Sound.showGallery ⟨sound.left, sound.connected, nofun⟩
      · split
        · apply Sound.showGallery
          split
          · exact .of_connected left rfl rfl
          · exact .of_connected left rfl rfl
        · split
          · exact .of_connected left rfl rfl
          · exact .of_connected left rfl rfl

theorem showSim_scene (sceneId : String) (throws : Option Throw) :
    (app.showSim sceneId throws).view.scene = none ∨ app.Keeps (app.showSim sceneId throws) := by
  unfold App.showSim
  split
  · exact .inr (.of_transport rfl id rfl)
  · split
    · refine .inr (Keeps.trans ?_ keeps_showGallery)
      exact .of_transport rfl id rfl
    · simp only
      split
      · exact .inl showGallery_scene
      · split
        · refine .inl (showGallery_scene.trans ?_)
          split
          · rfl
          · rfl
        · split
          · exact .inl rfl
          · exact .inl rfl

theorem Sound.routed (sound : app.Sound) (i : Nat) (ok : Bool) : (app.routed i ok).Sound := by
  unfold App.routed
  split
  · exact sound
  · simp only
    split
    · exact ⟨sound.left, sound.connected, sound.gallery⟩
    · split
      · exact Sound.showGallery ⟨sound.left, sound.connected, sound.gallery⟩
      · exact ⟨sound.left, sound.connected, sound.gallery⟩

theorem keeps_routed (i : Nat) (ok : Bool) : app.Keeps (app.routed i ok) := by
  unfold App.routed
  split
  · exact .of_transport rfl id rfl
  · simp only
    split
    · exact .of_transport rfl id rfl
    · split
      · refine Keeps.trans ?_ keeps_showGallery
        exact .of_transport rfl id rfl
      · exact .of_transport rfl id rfl

section Completions

variable (project : shell.Static → Scene)

theorem handleAll_lost (lost : Option FaultPayload) (now : Float) :
    app.handleAll project (lost.toList.map fun fault => .message (.fault fault)) now = app := by
  cases lost with
  | none => rfl
  | some fault => rfl

theorem Sound.completed (sound : app.Sound) (completion : Completion) (now : Float) :
    (app.completed project completion now).Sound := by
  unfold App.completed
  split
  · exact sound
  · rename_i transport used
    simp only [handleAll_lost]
    refine ⟨sound.left, fun after found => ?_, fun shown => ?_⟩
    · obtain rfl := Option.some.inj found
      obtain ⟨connected, tidy⟩ := sound.connected transport used
      exact ⟨(TauriTransport.complete_handler completion).trans connected, tidy.complete completion⟩
    · rw [(sound.gallery shown).1] at used
      cases used

theorem keeps_completed (sound : app.Sound) (completion : Completion) (now : Float) :
    app.Keeps (app.completed project completion now) := by
  unfold App.completed
  split
  · exact .of_transport rfl id rfl
  · rename_i transport used
    simp only [handleAll_lost]
    refine ⟨rfl, id, fun deaf after found => ?_, fun attentive => ?_⟩
    · obtain rfl := Option.some.inj found
      exact (deaf transport used).complete completion
    · have connected := (sound.connected transport used).1
      rcases TauriTransport.complete_registered connected (attentive transport used) completion
        with kept | spent
      · exact .inl fun after found => Option.some.inj found ▸ kept
      · exact .inr fun after found => Option.some.inj found ▸ spent

theorem Sound.completedLeft (sound : app.Sound) (i : Nat) (completion : Completion) (now : Float) :
    (app.completedLeft project i completion now).Sound := by
  unfold App.completedLeft
  split
  · exact sound
  · rename_i transport found
    simp only [handleAll_lost]
    refine ⟨fun after listed => ?_, sound.connected, sound.gallery⟩
    rcases List.mem_or_eq_of_mem_set listed with kept | rfl
    · exact sound.left after kept
    · obtain ⟨disconnected, tidy⟩ := sound.left transport (List.mem_of_getElem? found)
      exact ⟨(TauriTransport.complete_handler completion).trans disconnected, tidy.complete completion⟩

theorem keeps_completedLeft (i : Nat) (completion : Completion) (now : Float) :
    app.Keeps (app.completedLeft project i completion now) := by
  unfold App.completedLeft
  split
  · exact .of_transport rfl id rfl
  · rw [handleAll_lost]
    exact .of_transport rfl id rfl

theorem Sound.handle (sound : app.Sound) (event : PageEvent) : (app.handle project event).Sound := by
  cases event with
  | showGallery => exact sound.showGallery
  | showSim sceneId throws => exact sound.showSim sceneId throws
  | transitionOver => exact ⟨sound.left, sound.connected, sound.gallery⟩
  | routed i ok => exact sound.routed i ok
  | completed completion now => exact sound.completed project completion now
  | completedLeft i completion now => exact sound.completedLeft project i completion now
  | pauseToggled => exact ⟨sound.left, sound.connected, sound.gallery⟩
  | hidden => exact ⟨sound.left, sound.connected, fun shown => ⟨(sound.gallery shown).1, rfl⟩⟩
  | shown now =>
    simp only [App.handle, App.visibilityShown]
    split
    · rename_i shown
      refine ⟨sound.left, sound.connected, fun hides => ?_⟩
      rw [shown] at hides
      cases hides
    · exact sound

/-- Nothing that happens to the page lets a scene lose messages and go on. -/
theorem handle_scene (sound : app.Sound) (event : PageEvent) :
    (app.handle project event).view.scene = none ∨ app.Keeps (app.handle project event) := by
  cases event with
  | showGallery => exact .inr keeps_showGallery
  | showSim sceneId throws => exact showSim_scene sceneId throws
  | transitionOver => exact .inr (.of_transport rfl id rfl)
  | routed i ok => exact .inr (keeps_routed i ok)
  | completed completion now => exact .inr (keeps_completed project sound completion now)
  | completedLeft i completion now => exact .inr (keeps_completedLeft project i completion now)
  | pauseToggled => exact .inr (.of_transport rfl (fun within => within.setPaused _) rfl)
  | hidden => exact .inr (.of_transport rfl id rfl)
  | shown now =>
    simp only [App.handle, App.visibilityShown]
    split
    · exact .inr (.of_transport rfl (fun within => within.refocus now) rfl)
    · exact .inr (.of_transport rfl id rfl)

end Completions

/-- The transport in use hands on every message if it is registered, and the others none. -/
theorem Sound.received (sound : app.Sound) (envelope : Envelope shell) :
    app.received envelope = [] ∧ (∀ transport, app.transport = some transport →
        transport.registered = false) ∨
      app.received envelope = [envelope.payload] ∧ ∃ transport, app.transport = some transport ∧
        transport.registered = true := by
  have quiet : app.left.filterMap (·.receive (.new envelope)) = [] := by
    refine List.filterMap_eq_nil_iff.mpr fun transport listed => ?_
    exact TauriTransport.receive_of_disconnected (sound.left transport listed).1 _
  rw [App.received, List.filterMap_append, quiet, List.nil_append]
  cases used : app.transport with
  | none => exact .inl ⟨rfl, nofun⟩
  | some transport =>
    cases registered : transport.registered with
    | false =>
      refine .inl ⟨?_, fun other found => Option.some.inj found ▸ registered⟩
      rw [Option.toList_some, List.filterMap_cons,
        TauriTransport.receive_of_unregistered registered, List.filterMap_nil]
    | true =>
      refine .inr ⟨?_, transport, rfl, registered⟩
      rw [Option.toList_some, List.filterMap_cons,
        TauriTransport.receive_of_registered registered (sound.connected transport used).1,
        List.filterMap_nil]

end App

end Simetro.Frontend
