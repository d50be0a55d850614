import Simetro.Engine.TickEnds

/-! What a tick keeps of the network when each of its passes keeps it, whatever the agents do. -/

namespace Simetro.Engine

open Simetro.Library Simetro.Protocol Simetro.Sl1

namespace Run

variable {State α β : Type}

/-- The code finishes, with a value that holds. -/
def Ensures (holds : α → Prop) : Run State α → Prop
  | .done value => holds value
  | .panicked _ _ => False

theorem ensures_iff_ends {holds : α → Prop} {run : Run State α} :
    run.Ensures holds ↔ run.Ends holds fun _ => False := by
  cases run with
  | done value => exact Iff.rfl
  | panicked state message => exact Iff.rfl

theorem Ensures.bind {holds : α → Prop} {after : β → Prop} {first : Run State α}
    {next : α → Run State β} (ensures : first.Ensures holds)
    (rest : ∀ value, holds value → (next value).Ensures after) : (first >>= next).Ensures after :=
  ensures_iff_ends.mpr ((ensures_iff_ends.mp ensures).bind fun value held =>
    ensures_iff_ends.mp (rest value held))

theorem Ensures.foldlM {holds : β → Prop} {step : β → α → Run State β}
    (keeps : ∀ value entry, holds value → (step value entry).Ensures holds) (entries : List α)
    {start : β} (ensures : holds start) : (entries.foldlM step start).Ensures holds :=
  ensures_iff_ends.mpr (Ends.foldlM
    (fun value entry held => ensures_iff_ends.mp (keeps value entry held)) entries ensures)

theorem Ensures.done {holds : α → Prop} {run : Run State α} (ensures : run.Ensures holds) :
    ∃ value, run = .done value ∧ holds value := by
  cases run with
  | done value => exact ⟨value, rfl, ensures⟩
  | panicked state message => exact ensures.elim

end Run

section Keeps

variable {Network Host Log Observation : Type}

/-- The passes on the network and the actions finish and keep a property of it. -/
structure Systems.Keeps (systems : Systems Network Host Log Observation) (holds : Network → Prop) :
    Prop where
  lifecycle : ∀ machine, holds machine.world.network →
    (systems.lifecycle machine).Ensures fun after => holds after.world.network
  movement : ∀ machine, holds machine.world.network →
    (systems.movement machine).Ensures fun after => holds after.1.world.network
  interaction : ∀ machine, holds machine.world.network →
    (systems.interaction machine).Ensures fun after => holds after.world.network
  production : ∀ machine, holds machine.world.network →
    (systems.production machine).Ensures fun after => holds after.world.network
  applyAction : ∀ machine agentId action, holds machine.world.network →
    (systems.applyAction machine agentId action).Ensures fun after => holds after.1.world.network

variable {systems : Systems Network Host Log Observation} {holds : Network → Prop}
  (keeps : systems.Keeps holds)
include keeps

/-- Such passes are bounded whatever the agents choose, and never panic. -/
theorem Systems.Keeps.bounded :
    systems.Bounded (fun _ => True) (fun network _ => holds network) fun _ => False where
  chooses := fun _ _ _ _ _ _ => trivial
  lifecycle machine held := Run.ensures_iff_ends.mp (keeps.lifecycle machine held)
  movement machine held := Run.ensures_iff_ends.mp (keeps.movement machine held)
  interaction machine held := Run.ensures_iff_ends.mp (keeps.interaction machine held)
  production machine held := Run.ensures_iff_ends.mp (keeps.production machine held)
  applyAction machine agentId action _ held := by
    have kept := keeps.applyAction machine agentId action held
    cases answer : systems.applyAction machine agentId action with
    | panicked state message =>
      rw [answer] at kept
      exact kept
    | done after =>
      rw [answer] at kept
      obtain ⟨after, outcome⟩ := after
      cases outcome <;> exact kept

/-- A tick finishes and keeps what the passes and the actions keep. -/
theorem tickOnce_keeps (backend : AgentBackend) {machine : Machine Network Host Log}
    (held : holds machine.world.network) :
    (tickOnce systems backend machine).Ensures fun after => holds after.world.network :=
  Run.ensures_iff_ends.mpr (tickOnce_ends keeps.bounded backend held)

end Keeps

end Simetro.Engine
