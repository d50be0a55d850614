import Simetro.Engine.Tick

/-! How a tick ends: what holds of the network and of the flag for changed topology when it
finishes, and what a panic may leave of the network. -/

namespace Simetro.Engine

open Simetro.Library Simetro.Protocol Simetro.Sl1

namespace Run

variable {State α β : Type}

/-- The code finishes with a value that holds, or panics in a state it may leave. -/
def Ends (holds : α → Prop) (leaves : State → Prop) : Run State α → Prop
  | .done value => holds value
  | .panicked state _ => leaves state

variable {leaves : State → Prop}

theorem Ends.bind {holds : α → Prop} {after : β → Prop} {first : Run State α}
    {next : α → Run State β} (ends : first.Ends holds leaves)
    (rest : ∀ value, holds value → (next value).Ends after leaves) :
    (first >>= next).Ends after leaves := by
  cases first with
  | done value => exact rest value ends
  | panicked state message => exact ends

theorem Ends.foldlM {holds : β → Prop} {step : β → α → Run State β}
    (keeps : ∀ value entry, holds value → (step value entry).Ends holds leaves) (entries : List α)
    {start : β} (ends : holds start) : (entries.foldlM step start).Ends holds leaves := by
  induction entries generalizing start with
  | nil => exact ends
  | cons entry rest ih =>
    rw [List.foldlM_cons]
    exact (keeps start entry ends).bind fun value held => ih held

end Run

section Bounds

variable {Network Host Log Observation : Type}

/-- The network and the flag are as they should be. -/
def Machine.Held (holds : Network → Bool → Prop) (machine : Machine Network Host Log) : Prop :=
  holds machine.world.network machine.runner.topologyDirty

def Machine.Left (leaves : Network → Prop) (machine : Machine Network Host Log) : Prop :=
  leaves machine.world.network

/-- After an action: the flag is raised where it was applied and changes the topology. -/
def Machine.Acted (holds : Network → Bool → Prop) (action : Action)
    (answer : Machine Network Host Log × ActionOutcome) : Prop :=
  match answer.2 with
  | .applied => holds answer.1.world.network
      (actionChangesTopology action || answer.1.runner.topologyDirty)
  | _ => answer.1.Held holds

/-- The agents choose only what they may; the passes and those actions keep what holds, and
panic only where they may leave the network so. -/
structure Systems.Bounded (systems : Systems Network Host Log Observation) (may : Action → Prop)
    (holds : Network → Bool → Prop) (leaves : Network → Prop) : Prop where
  chooses : ∀ host world report action, (systems.step host world).2 = .ok report →
    report.chosen = some action → may action
  lifecycle : ∀ machine, machine.Held holds →
    (systems.lifecycle machine).Ends (Machine.Held holds) (Machine.Left leaves)
  movement : ∀ machine, machine.Held holds →
    (systems.movement machine).Ends (fun after => after.1.Held holds) (Machine.Left leaves)
  interaction : ∀ machine, machine.Held holds →
    (systems.interaction machine).Ends (Machine.Held holds) (Machine.Left leaves)
  production : ∀ machine, machine.Held holds →
    (systems.production machine).Ends (Machine.Held holds) (Machine.Left leaves)
  applyAction : ∀ machine agentId action, may action → machine.Held holds →
    (systems.applyAction machine agentId action).Ends (Machine.Acted holds action)
      (Machine.Left leaves)

variable {systems : Systems Network Host Log Observation} {may : Action → Prop}
  {holds : Network → Bool → Prop} {leaves : Network → Prop} (bounded : systems.Bounded may holds leaves)
include bounded

theorem applyChosen_ends {machine : Machine Network Host Log} (held : machine.Held holds)
    (agentId : String) {chosen : Option Action} (allowed : ∀ action, chosen = some action → may action) :
    (applyChosen systems machine agentId chosen).Ends (Machine.Held holds) (Machine.Left leaves) := by
  cases chosen with
  | none => exact held
  | some action =>
    refine (bounded.applyAction machine agentId action (allowed action rfl) held).bind ?_
    rintro ⟨after, outcome⟩ acted
    cases outcome with
    | rejected warning => exact acted
    | noChange => exact acted
    | applied =>
      cases topology : actionChangesTopology action with
      | true =>
        simp only [Machine.Acted, topology, Bool.true_or] at acted
        simp only [if_true]
        exact acted
      | false =>
        simp only [Machine.Acted, topology, Bool.false_or] at acted
        simp only [Bool.false_eq_true, if_false]
        exact acted

omit bounded in
theorem logDecision_network (machine : Machine Network Host Log) (agentId : String)
    (report : AgentReport) (seen : Option Observation) :
    (logDecision systems machine agentId report seen).world.network = machine.world.network ∧
      (logDecision systems machine agentId report seen).runner.topologyDirty =
        machine.runner.topologyDirty := by
  unfold logDecision
  split
  · exact ⟨rfl, rfl⟩
  · split
    · exact ⟨rfl, rfl⟩
    · dsimp only
      split <;> exact ⟨rfl, rfl⟩

theorem runAgent_ends (tick : Nat) (machine : Machine Network Host Log) (index : Nat)
    (held : machine.Held holds) :
    (runAgent systems tick machine index).Ends (Machine.Held holds) (Machine.Left leaves) := by
  unfold runAgent
  split
  · exact held
  · split
    · exact held
    · dsimp only
      split
      · rename_i report reported
        refine (applyChosen_ends bounded (by exact held) _
          fun action chosen => bounded.chooses _ _ report action reported chosen).bind ?_
        intro after kept
        obtain ⟨network, dirty⟩ := logDecision_network after _ report _
        refine Eq.mpr (congrArg₂ holds network dirty) kept
      · split
        · exact held
        · exact held

omit bounded in
theorem runSl1_network (backend : AgentBackend) (machine : Machine Network Host Log) :
    (runSl1 backend machine).world.network = machine.world.network ∧
      (runSl1 backend machine).runner.topologyDirty = machine.runner.topologyDirty := by
  unfold runSl1
  split
  · exact ⟨rfl, rfl⟩
  · exact ⟨rfl, rfl⟩

theorem runPasses_ends (backend : AgentBackend) {machine : Machine Network Host Log}
    (held : machine.Held holds) :
    (runPasses systems backend machine).Ends (Machine.Held holds) (Machine.Left leaves) := by
  refine (bounded.lifecycle machine held).bind fun spawned held => ?_
  refine (bounded.movement spawned held).bind fun ⟨moved, arrivals⟩ held => ?_
  refine (Run.Ends.foldlM (runAgent_ends bounded _) _ held).bind fun decided held => ?_
  refine (bounded.interaction decided held).bind fun departed held => ?_
  refine (bounded.production departed held).bind fun produced held => ?_
  obtain ⟨network, dirty⟩ := runSl1_network backend produced
  exact Eq.mpr (congrArg₂ holds network dirty) held

/-- How a tick ends that starts on a network on which nothing is dirty. -/
theorem tickOnce_ends (backend : AgentBackend) {machine : Machine Network Host Log}
    (held : holds machine.world.network false) :
    (tickOnce systems backend machine).Ends (Machine.Held holds) (Machine.Left leaves) := by
  unfold tickOnce
  split
  · exact held
  · exact runPasses_ends bounded backend held

end Bounds

end Simetro.Engine
