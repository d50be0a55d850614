import Simetro.Sl1.RuntimeState

/-! The container of the simulation state. The transit network (nodes, paths,
movers, resources and their stock) is a parameter: a tick hands it to its passes
and never looks inside. -/

namespace Simetro.Engine

open Simetro.Sl1

inductive RunState where
  | idle
  | loaded
  | running
  | paused
  | faulted
  deriving DecidableEq

structure World (Network : Type) where
  tick : Nat
  state : RunState
  network : Network
  sl1 : Option Sl1Scene
  sl1Runtime : Option Sl1RuntimeState

end Simetro.Engine
