import Mathlib.Data.List.Basic

/-! Readers that take one item after another off a stream, and consumers that deal with each
item before the next one is read. -/

namespace Simetro.Library

universe u v w x y

/-- A reader takes the next item off its input, finds that there is none, or fails. -/
structure ItemReader (Item : Type u) (Problem : Type v) where
  read : List Char → Except Problem (Option Item) × List Char
  shorter : ∀ {input item rest}, read input = (.ok (some item), rest) → rest.length < input.length

/-- What a consumer wrote, what it then had in mind, and how it ended. -/
structure Served (State : Type u) (Output : Type v) (Ending : Type w) where
  written : List Output
  state : State
  ending : Ending

/-- What was written before comes first. -/
def Served.after {State : Type u} {Output : Type v} {Ending : Type w} (written : List Output)
    (later : Served State Output Ending) : Served State Output Ending :=
  { later with
    written := written ++ later.written }

/-- A consumer judges each item: it stops, or goes on after writing something. -/
structure Consumer (Item : Type u) (Problem : Type v) (State : Type w) (Output : Type x)
    (Ending : Type y) where
  judge : State → Item → Except Ending (State × List Output)
  finish : Option Problem → Ending

namespace ItemReader

variable {Item : Type u} {Problem : Type v} (reader : ItemReader Item Problem)

/-- Every item up to the end of the input or the first problem. -/
def all (input : List Char) : List Item × Option Problem :=
  match _found : reader.read input with
  | (.ok none, _) => ([], none)
  | (.error problem, _) => ([], some problem)
  | (.ok (some item), rest) => (item :: (all rest).1, (all rest).2)
termination_by input.length
decreasing_by all_goals exact reader.shorter ‹_›

variable {input rest : List Char}

theorem all_of_none (found : reader.read input = (.ok none, rest)) : reader.all input = ([], none) := by
  rw [all]
  split
  · rfl
  · rename_i other
    cases found.symm.trans other
  · rename_i other
    cases found.symm.trans other

theorem all_of_some {item : Item} (found : reader.read input = (.ok (some item), rest)) :
    reader.all input = (item :: (reader.all rest).1, (reader.all rest).2) := by
  rw [all]
  split
  · rename_i other
    cases found.symm.trans other
  · rename_i other
    cases found.symm.trans other
  · rename_i other
    cases found.symm.trans other
    rfl

/-- Items that were written one by one are read one by one. -/
theorem all_written {write : Item → List Char} {items : List Item}
    (reads : ∀ item ∈ items, ∀ more, reader.read (write item ++ more) = (.ok (some item), more))
    (more : List Char) :
    reader.all (items.flatMap write ++ more) = (items ++ (reader.all more).1, (reader.all more).2) := by
  induction items with
  | nil => rfl
  | cons item items ih =>
    have later := ih fun other listed => reads other (List.mem_cons_of_mem item listed)
    rw [List.flatMap_cons, List.append_assoc, reader.all_of_some (reads item List.mem_cons_self _), later]
    rfl

end ItemReader

namespace Consumer

variable {Item : Type u} {Problem : Type v} {State : Type w} {Output : Type x} {Ending : Type y}
  (consumer : Consumer Item Problem State Output Ending)

/-- Each item is judged as soon as it is read. -/
def consume (reader : ItemReader Item Problem) (state : State) (input : List Char) :
    Served State Output Ending :=
  match _found : reader.read input with
  | (.ok none, _) => ⟨[], state, consumer.finish none⟩
  | (.error problem, _) => ⟨[], state, consumer.finish (some problem)⟩
  | (.ok (some item), rest) =>
      match consumer.judge state item with
      | .error ending => ⟨[], state, ending⟩
      | .ok (next, written) => (consume reader next rest).after written
termination_by input.length
decreasing_by all_goals exact reader.shorter ‹_›

variable {consumer}

end Consumer

end Simetro.Library
