import Simetro.Frontend.Session

/-! A page that enters a scene catches up with the driver. -/

namespace Simetro.Frontend

open Simetro.Desktop Simetro.Engine Simetro.Library Simetro.Protocol Simetro.Sl1

variable {Mirror Scene : Type}

/-- Nothing is entered or left, paused or hidden, and no setup is rejected. -/
def PageEvent.Quiet : PageEvent → Prop
  | .showGallery => False
  | .showSim _ _ => False
  | .transitionOver => True
  | .routed _ ok => ok = true
  | .completed completion _ => completion ≠ .rejected
  | .completedLeft _ _ _ => True
  | .pauseToggled => False
  | .hidden => False
  | .shown _ => True

def SessionStep.Quiet : SessionStep → Prop
  | .engine _ _ => True
  | .arrives _ => True
  | .page event => event.Quiet
  | .frame _ => True

/-- The page draws what it knows, and its callback is registered as told. -/
structure App.Knows {shell : Shell} {Scene : Type} (project : shell.Static → Scene) (registered : Bool)
    (known : Option shell.Static × Option shell.Snapshot) (app : App shell Scene) : Prop where
  awake : app.rafScheduled = true
  playing : app.view.paused = false
  listens : ∃ transport, app.transport = some transport ∧ transport.registered = registered
  scene : app.view.scene = known.1.map project
  current : app.view.snapshots.current = known.2

namespace App.Knows

variable {shell : Shell} {project : shell.Static → Scene} {registered : Bool}
  {known : Option shell.Static × Option shell.Snapshot} {app : App shell Scene}

theorem entered (idle : app.transitioning = false) (sceneId : String) :
    (app.showSim sceneId none).Knows project false (none, none) := by
  unfold App.showSim
  rw [idle, if_neg Bool.false_ne_true]
  simp only [reduceCtorEq, if_false]
  split
  · exact ⟨rfl, rfl, ⟨{}, rfl, rfl⟩, rfl, rfl⟩
  · exact ⟨rfl, rfl, ⟨{}, rfl, rfl⟩, rfl, rfl⟩

/-- Quiet events change nothing of it, except that the callback may be registered. -/
theorem handle (knows : app.Knows project registered known) (sound : app.Sound) {event : PageEvent}
    (quiet : event.Quiet) :
    (app.handle project event).Knows project registered known ∨
      (app.handle project event).Knows project true known := by
  cases event with
  | showGallery => exact quiet.elim
  | showSim sceneId throws => exact quiet.elim
  | transitionOver => exact .inl ⟨knows.awake, knows.playing, knows.listens, knows.scene, knows.current⟩
  | routed i ok =>
    obtain rfl : ok = true := quiet
    simp only [App.handle, App.routed]
    split
    · exact .inl knows
    · simp only [or_true, if_true]
      exact .inl ⟨knows.awake, knows.playing, knows.listens, knows.scene, knows.current⟩
  | completed completion now =>
    obtain ⟨transport, used, listens⟩ := knows.listens
    unfold App.handle App.completed
    rw [used]
    simp only [App.handleAll_lost]
    have connected := (sound.connected transport used).1
    rcases TauriTransport.complete_unrejected connected quiet with same | now
    · exact .inl ⟨knows.awake, knows.playing, ⟨_, rfl, same.trans listens⟩, knows.scene, knows.current⟩
    · exact .inr ⟨knows.awake, knows.playing, ⟨_, rfl, now⟩, knows.scene, knows.current⟩
  | completedLeft i completion now =>
    simp only [App.handle, App.completedLeft]
    split
    · exact .inl knows
    · simp only [App.handleAll_lost]
      exact .inl ⟨knows.awake, knows.playing, knows.listens, knows.scene, knows.current⟩
  | pauseToggled => exact quiet.elim
  | hidden => exact quiet.elim
  | shown now =>
    simp only [App.handle, App.visibilityShown]
    split
    · exact .inl ⟨rfl, knows.playing, knows.listens, knows.scene, knows.current⟩
    · exact .inl knows

theorem arrives (knows : app.Knows project true known) (sound : app.Sound) (envelope : Envelope shell)
    (now : Float) :
    (app.handleAll project (app.received envelope) now).Knows project true (note known envelope) := by
  obtain ⟨transport, used, registered⟩ := knows.listens
  rcases sound.received envelope with ⟨-, unregistered⟩ | ⟨handled, -⟩
  · rw [unregistered transport used] at registered
    cases registered
  · rw [handled]
    unfold note
    cases message : envelope.payload with
    | static payload => exact ⟨knows.awake, knows.playing, knows.listens, rfl, rfl⟩
    | snapshot snap =>
      simp only [App.handleAll, List.foldl_cons, List.foldl_nil, handleMessage,
        SceneView.handleSnapshot, knows.playing, Bool.false_eq_true, if_false]
      exact ⟨knows.awake, rfl, knows.listens, knows.scene, SnapshotBuffer.push_current _ snap⟩
    | events events =>
      simp only [App.handleAll, List.foldl_cons, List.foldl_nil, handleMessage,
        SceneView.handleEvents, knows.playing, Bool.false_eq_true, if_false]
      exact ⟨knows.awake, rfl, knows.listens, knows.scene, knows.current⟩
    | message told => exact ⟨knows.awake, knows.playing, knows.listens, knows.scene, knows.current⟩

/-- Without a listener nothing that arrives is handled. -/
theorem misses (knows : app.Knows project false known) (sound : app.Sound) (envelope : Envelope shell)
    (now : Float) :
    (app.handleAll project (app.received envelope) now).Knows project false known := by
  obtain ⟨transport, used, unregistered⟩ := knows.listens
  rcases sound.received envelope with ⟨lost, -⟩ | ⟨-, other, found, registered⟩
  · rw [lost]
    exact knows
  · obtain rfl := Option.some.inj (used.symm.trans found)
    rw [unregistered] at registered
    cases registered

theorem frame (knows : app.Knows project registered known) (movers : shell.Snapshot → List MoverState)
    (now : Float) : (app.frame movers now).1.Knows project registered known := by
  unfold App.frame
  rw [if_pos knows.awake]
  simp only
  rw [SceneView.frame_kept]
  exact ⟨knows.awake, knows.playing, knows.listens, knows.scene, knows.current⟩

end App.Knows

namespace Session

variable (project : StaticPayload Mirror → Scene) (movers : World Transit → List MoverState)

/-- The page knows all that was sent from the base on and that has arrived. -/
def Follows (base : List (Envelope (desktopShell Mirror))) (session : Session Mirror Scene) : Prop :=
  ∃ since, session.seen = base ++ since ∧
    @App.Knows (desktopShell Mirror) Scene project true (since.foldl note (none, none)) session.app

variable {project movers} (printing : Printing) (backend : AgentBackend) (building : Building Mirror)
  {session : Session Mirror Scene} {base : List (Envelope (desktopShell Mirror))}

theorem step_sent (sound : session.Sound project movers) (given : SessionStep) :
    session.driver.sent <+: (session.step printing backend building project movers given).driver.sent := by
  cases given with
  | engine mishaps input =>
    exact (Feeds.handleEvent _ _ backend ⟨List.prefix_rfl, sound.feeds.latest⟩
      (input.event building)).sent
  | arrives now =>
    rw [step]
    split
    · exact List.prefix_rfl
    · exact List.prefix_rfl
  | page event => exact List.prefix_rfl
  | frame now => exact List.prefix_rfl

theorem Follows.step (follows : session.Follows project base) (sound : session.Sound project movers)
    {given : SessionStep} (quiet : given.Quiet) :
    (session.step printing backend building project movers given).Follows project base := by
  obtain ⟨since, seen, knows⟩ := follows
  cases given with
  | engine mishaps input =>
    have sent := step_sent printing backend building sound (.engine mishaps input)
    exact ⟨since, (seen_of_sent sent sound.arrived).trans seen, knows⟩
  | arrives now =>
    rw [Session.step]
    split
    · exact ⟨since, seen, knows⟩
    · rename_i envelope next
      refine ⟨since ++ [envelope], ?_, ?_⟩
      · rw [seen_next next, seen, List.append_assoc]
      · rw [List.foldl_append]
        exact knows.arrives sound.app envelope now
  | page event =>
    rcases knows.handle sound.app quiet with kept | kept
    · exact ⟨since, seen, kept⟩
    · exact ⟨since, seen, kept⟩
  | frame now => exact ⟨since, seen, knows.frame movers now⟩

theorem Follows.run (follows : session.Follows project base) (sound : session.Sound project movers)
    {steps : List SessionStep} (quiet : ∀ given ∈ steps, given.Quiet) :
    (session.run printing backend building project movers steps).Follows project base := by
  induction steps generalizing session with
  | nil => exact follows
  | cons given rest ih =>
    apply ih
    · exact follows.step printing backend building sound (quiet given List.mem_cons_self)
    · exact sound.step printing backend building given
    · exact fun later listed => quiet later (List.mem_cons_of_mem _ listed)

/-- What was sent to a page that follows after it followed is past the base. -/
theorem Follows.since (follows : session.Follows project base)
    {sent : List (Envelope (desktopShell Mirror))} {static : Envelope (desktopShell Mirror)}
    (later : session.driver.sent ++ [static] <+: sent) {since : List (Envelope (desktopShell Mirror))}
    (split : sent = base ++ since) : static ∈ since := by
  obtain ⟨before, seen, -⟩ := follows
  obtain ⟨more, same⟩ := later
  have parts : base ++ (before ++ session.driver.sent.drop session.arrived ++ static :: more) =
      base ++ since := by
    rw [← split, ← same, ← List.append_assoc, ← List.append_assoc, ← seen, Session.seen,
      List.take_append_drop, List.append_assoc, List.singleton_append]
  rw [← List.append_cancel_left parts]
  exact List.mem_append_right _ List.mem_cons_self

end Session

end Simetro.Frontend
