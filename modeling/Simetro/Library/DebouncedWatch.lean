import Mathlib.Data.List.Chain
import Mathlib.Order.Basic

/-! A debounced watch: a change is reported once it has been seen unchanged for a while. -/

namespace Simetro.Library

/-- A change seen first one debounce period before its deadline. -/
structure PendingChange (Observation : Type) where
  observation : Observation
  deadline : Nat

structure DebouncedWatch (Observation : Type) where
  stable : Observation
  debounce : Nat
  pending : Option (PendingChange Observation) := none

namespace DebouncedWatch

variable {Observation : Type} [DecidableEq Observation]

/-- Look at the current observation; the flag reports a change. -/
def observe (watch : DebouncedWatch Observation) (current : Observation) (now : Nat) :
    DebouncedWatch Observation × Bool :=
  if current = watch.stable then ({ watch with pending := none }, false)
  else
    let restart := { watch with pending := some ⟨current, now + watch.debounce⟩ }
    match watch.pending with
    | none => (restart, false)
    | some pending =>
      if pending.observation = current then
        if pending.deadline ≤ now then ({ watch with stable := current, pending := none }, true)
        else (watch, false)
      else (restart, false)

variable (watch : DebouncedWatch Observation) (current : Observation) (now : Nat)

theorem observe_debounce : (watch.observe current now).1.debounce = watch.debounce := by
  unfold observe
  split
  · rfl
  · dsimp only
    split
    · rfl
    · split
      · split <;> rfl
      · rfl

/-- A report makes the observation the stable one; without one the stable one stays. -/
theorem observe_stable : (watch.observe current now).1.stable =
    if (watch.observe current now).2 then current else watch.stable := by
  unfold observe
  split
  · rfl
  · dsimp only
    split
    · rfl
    · split
      · split <;> rfl
      · rfl

omit [DecidableEq Observation] in
/-- No deadline is further away than the debounce period. -/
def Timely : Prop := ∀ pending, watch.pending = some pending → pending.deadline ≤ now + watch.debounce

/-- The observation is stable, or will be on the next look at the deadline or later. -/
def Expects (deadline : Nat) : Prop :=
  watch.stable = current ∨ ∃ pending, watch.pending = some pending ∧
    pending.observation = current ∧ pending.deadline ≤ deadline

variable {watch current now}

omit [DecidableEq Observation] in
theorem Timely.later {later : Nat} (timely : watch.Timely now) (passed : now ≤ later) :
    watch.Timely later := by
  intro pending found
  have bound := timely pending found
  omega

theorem Timely.observe (timely : watch.Timely now) (current : Observation) :
    (watch.observe current now).1.Timely now := by
  intro pending found
  rw [observe_debounce]
  unfold DebouncedWatch.observe at found
  split at found
  · cases found
  · dsimp only at found
    split at found
    · cases found
      exact Nat.le_refl _
    · rename_i waiting held
      split at found
      · split at found
        · cases found
        · exact timely pending found
      · cases found
        exact Nat.le_refl _

/-- A look starts the wait for what it sees. -/
theorem observe_expects (timely : watch.Timely now) (current : Observation) :
    (watch.observe current now).1.Expects current (now + watch.debounce) := by
  unfold DebouncedWatch.observe
  split
  · rename_i same
    exact .inl same.symm
  · dsimp only
    split
    · exact .inr ⟨_, rfl, rfl, Nat.le_refl _⟩
    · rename_i pending held
      split
      · rename_i same
        split
        · exact .inl rfl
        · exact .inr ⟨pending, held, same, timely pending held⟩
      · exact .inr ⟨_, rfl, rfl, Nat.le_refl _⟩

/-- Further looks at the same thing do not restart the wait. -/
theorem Expects.observe {deadline : Nat} (expects : watch.Expects current deadline) (now : Nat) :
    (watch.observe current now).1.Expects current deadline := by
  unfold DebouncedWatch.observe
  split
  · rename_i same
    exact .inl same.symm
  · rename_i changed
    rcases expects with same | ⟨pending, held, same, due⟩
    · exact absurd same.symm changed
    · simp only [held, same, if_true]
      split
      · exact .inl rfl
      · exact .inr ⟨pending, held, same, due⟩

/-- The wait ends with the first look at its deadline or later. -/
theorem Expects.settles {deadline : Nat} (expects : watch.Expects current deadline)
    (due : deadline ≤ now) : (watch.observe current now).1.stable = current := by
  unfold DebouncedWatch.observe
  split
  · rename_i same
    exact same.symm
  · rename_i changed
    rcases expects with same | ⟨pending, held, same, soon⟩
    · exact absurd same.symm changed
    · simp only [held, same, if_true, if_pos (Nat.le_trans soon due)]

/-- What a look does: a stable observation drops the wait, a due one is reported, an awaited one
changes nothing, and any other restarts the wait. -/
theorem observe_cases (watch : DebouncedWatch Observation) (current : Observation) (now : Nat) :
    (current = watch.stable ∧ watch.observe current now = ({ watch with pending := none }, false)) ∨
    (current ≠ watch.stable ∧ ∃ deadline, watch.pending = some ⟨current, deadline⟩ ∧ deadline ≤ now ∧
      watch.observe current now = ({ watch with stable := current, pending := none }, true)) ∨
    (current ≠ watch.stable ∧ ∃ deadline, watch.pending = some ⟨current, deadline⟩ ∧ now < deadline ∧
      watch.observe current now = (watch, false)) ∨
    (current ≠ watch.stable ∧ (∀ deadline, watch.pending ≠ some ⟨current, deadline⟩) ∧
      watch.observe current now =
        ({ watch with pending := some ⟨current, now + watch.debounce⟩ }, false)) := by
  unfold observe
  by_cases same : current = watch.stable
  · exact .inl ⟨same, if_pos same⟩
  · rw [if_neg same]
    dsimp only
    cases held : watch.pending with
    | none => exact .inr (.inr (.inr ⟨same, fun _ => nofun, rfl⟩))
    | some pending =>
      obtain ⟨awaited, deadline⟩ := pending
      by_cases awaits : awaited = current
      · subst awaits
        by_cases due : deadline ≤ now
        · exact .inr (.inl ⟨same, deadline, rfl, due, by simp [due]⟩)
        · exact .inr (.inr (.inl ⟨same, deadline, rfl, Nat.lt_of_not_le due, by simp [due]⟩))
      · refine .inr (.inr (.inr ⟨same, fun other equal => awaits ?_, by simp [awaits]⟩))
        exact congrArg PendingChange.observation (Option.some.inj equal)

section History

/-- A look at an observation at a time. -/
abbrev Look (Observation : Type) := Observation × Nat

variable (watch : DebouncedWatch Observation)

/-- The watch after some looks, and the observations it reported. -/
def looks (history : List (Look Observation)) : DebouncedWatch Observation × List Observation :=
  history.foldl (fun (watch, fired) look =>
    let (watch, reports) := watch.observe look.1 look.2
    (watch, if reports then fired ++ [look.1] else fired)) (watch, [])

def after (history : List (Look Observation)) : DebouncedWatch Observation := (watch.looks history).1

def fired (history : List (Look Observation)) : List Observation := (watch.looks history).2

omit watch in
/-- When the unbroken looks at this observation began that end a history. -/
def startOf (current : Observation) (history : List (Look Observation)) : Option Nat :=
  ((history.reverse.takeWhile fun look => look.1 = current).getLast?).map Prod.snd

theorem after_snoc (history : List (Look Observation)) (look : Look Observation) :
    watch.after (history ++ [look]) = ((watch.after history).observe look.1 look.2).1 := by
  simp [after, looks]

theorem fired_snoc (history : List (Look Observation)) (look : Look Observation) :
    watch.fired (history ++ [look]) =
      if ((watch.after history).observe look.1 look.2).2 then watch.fired history ++ [look.1]
      else watch.fired history := by
  simp only [fired, after, looks, List.foldl_append, List.foldl_cons, List.foldl_nil]
  rfl

omit watch in
theorem startOf_snoc (current : Observation) (history : List (Look Observation))
    (look : Look Observation) : startOf current (history ++ [look]) =
      if look.1 = current then some ((startOf current history).getD look.2) else none := by
  unfold startOf
  rw [List.reverse_append, List.reverse_singleton, List.singleton_append]
  by_cases same : look.1 = current
  · rw [List.takeWhile_cons_of_pos (by simpa using same), if_pos same, List.getLast?_cons]
    cases (history.reverse.takeWhile fun look => look.1 = current).getLast? <;> rfl
  · rw [List.takeWhile_cons_of_neg (by simpa using same), if_neg same]
    rfl

/-- What is not stable is awaited exactly since its unbroken looks began. -/
def Follows (history : List (Look Observation)) : Prop :=
  ∀ current, current ≠ watch.stable → ∀ deadline, watch.pending = some ⟨current, deadline⟩ ↔
    ∃ start, startOf current history = some start ∧ deadline = start + watch.debounce

variable {watch}

theorem Follows.observe {history : List (Look Observation)} (follows : watch.Follows history)
    (look : Look Observation) :
    (watch.observe look.1 look.2).1.Follows (history ++ [look]) := by
  obtain ⟨seen, now⟩ := look
  intro current unstable deadline
  rw [startOf_snoc]
  rcases watch.observe_cases seen now with ⟨same, looked⟩ | ⟨changed, due, held, -, looked⟩ |
    ⟨changed, due, held, -, looked⟩ | ⟨changed, unheld, looked⟩
  · rw [looked] at unstable ⊢
    have other : seen ≠ current := fun equal => unstable (equal ▸ same)
    simp [other]
  · rw [looked] at unstable ⊢
    have other : seen ≠ current := fun equal => unstable equal.symm
    simp [other]
  · rw [looked] at unstable ⊢
    by_cases here : seen = current
    · subst here
      obtain ⟨start, began, -⟩ := (follows seen unstable due).mp held
      have before := follows seen unstable deadline
      rw [began] at before ⊢
      simpa using before
    · have other : due ≠ due ∨ seen ≠ current := .inr here
      simp [held, here]
  · rw [looked] at unstable ⊢
    by_cases here : seen = current
    · subst here
      have fresh : startOf seen history = none := by
        cases began : startOf seen history with
        | none => rfl
        | some start => exact absurd ((follows seen unstable _).mpr ⟨start, began, rfl⟩) (unheld _)
      rw [fresh]
      simp [eq_comm]
    · simp [here]

theorem follows_after (stable : Observation) (debounce : Nat) (history : List (Look Observation)) :
    (DebouncedWatch.after { stable, debounce } history).Follows history ∧
      (DebouncedWatch.after { stable, debounce } history).debounce = debounce := by
  induction history using List.reverseRecOn with
  | nil => exact ⟨fun _ _ _ => by simp [after, looks, startOf], rfl⟩
  | append_singleton history look ih =>
    rw [after_snoc]
    exact ⟨ih.1.observe look, (observe_debounce ..).trans ih.2⟩

/-- A look reports a change exactly when its unbroken looks began a debounce period ago. -/
theorem Follows.fires_iff {history : List (Look Observation)} (follows : watch.Follows history)
    (current : Observation) (now : Nat) : (watch.observe current now).2 = true ↔
      current ≠ watch.stable ∧
        ∃ start, startOf current history = some start ∧ start + watch.debounce ≤ now := by
  rcases watch.observe_cases current now with ⟨same, looked⟩ | ⟨changed, due, held, past, looked⟩ |
    ⟨changed, due, held, early, looked⟩ | ⟨changed, unheld, looked⟩
  · rw [looked]
    simp [same]
  · obtain ⟨start, began, rfl⟩ := (follows current changed due).mp held
    simp [looked, changed, began, past]
  · obtain ⟨start, began, rfl⟩ := (follows current changed due).mp held
    simp [looked, began, early]
  · have fresh : startOf current history = none := by
      cases began : startOf current history with
      | none => rfl
      | some start => exact absurd ((follows current changed _).mpr ⟨start, began, rfl⟩) (unheld _)
    simp [looked, fresh]

/-- The stable observation is the one last reported, and no report repeats it. -/
theorem fired_spec (stable : Observation) (debounce : Nat) (history : List (Look Observation)) :
    let watch : DebouncedWatch Observation := { stable, debounce }
    (watch.after history).stable = ((watch.fired history).getLast?).getD stable ∧
      (stable :: watch.fired history).IsChain (· ≠ ·) := by
  intro watch
  induction history using List.reverseRecOn with
  | nil => exact ⟨rfl, .singleton _⟩
  | append_singleton history look ih =>
    obtain ⟨last, chain⟩ := ih
    rw [after_snoc, observe_stable, fired_snoc]
    by_cases reports : ((watch.after history).observe look.1 look.2).2 = true
    · have changed : look.1 ≠ (watch.after history).stable := by
        rcases (watch.after history).observe_cases look.1 look.2 with ⟨-, looked⟩ | ⟨changed, -⟩ |
          ⟨changed, -⟩ | ⟨changed, -⟩
        · rw [looked] at reports
          cases reports
        all_goals exact changed
      rw [if_pos reports, if_pos reports]
      refine ⟨by simp, List.isChain_append.mpr ⟨chain, .singleton _, ?_⟩⟩
      intro before ends next same
      cases same
      rw [List.getLast?_cons, ← last] at ends
      cases ends
      exact changed.symm
    · rw [if_neg reports, if_neg reports]
      exact ⟨last, chain⟩

end History

end DebouncedWatch

end Simetro.Library
