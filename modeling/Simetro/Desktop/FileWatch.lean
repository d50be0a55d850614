import Simetro.Desktop.LiveReload

/-! The watch on a scene file over all that it ever saw. -/

namespace Simetro.Desktop

open Simetro.Library

/-- `DebouncedFileWatch::new`. -/
def DebouncedFileWatch.new (initial : SceneFileObservation) (debounce : Nat) : DebouncedFileWatch where
  stable := initial
  debounce

/-- After any history the watch fires exactly on a change whose unbroken looks began a debounce
period ago. The stable observation is the one fired last, and none is fired twice in a row. -/
theorem fileWatch_fires_iff (initial : SceneFileObservation) (debounce : Nat)
    (history : List (DebouncedWatch.Look SceneFileObservation)) (current : SceneFileObservation)
    (now : Nat) :
    let watch := DebouncedFileWatch.new initial debounce
    (((watch.after history).observe current now).2 = true ↔ current ≠ (watch.after history).stable ∧
      ∃ start, DebouncedWatch.startOf current history = some start ∧ start + debounce ≤ now) ∧
    (watch.after history).stable = ((watch.fired history).getLast?).getD initial ∧
    (initial :: watch.fired history).IsChain (· ≠ ·) := by
  intro watch
  obtain ⟨follows, period⟩ := DebouncedWatch.follows_after initial debounce history
  have fires := follows.fires_iff current now
  rw [period] at fires
  exact ⟨fires, DebouncedWatch.fired_spec initial debounce history⟩

-- Flapping restarts the wait: the second change fires a period after its own first look.
example :
    let watch := DebouncedFileWatch.new (.present ⟨10, 1⟩) 100
    watch.fired [(.present ⟨11, 2⟩, 0), (.present ⟨12, 3⟩, 50), (.present ⟨12, 3⟩, 100),
      (.present ⟨12, 3⟩, 150), (.present ⟨12, 3⟩, 200)] = [.present ⟨12, 3⟩] := by
  decide

end Simetro.Desktop
