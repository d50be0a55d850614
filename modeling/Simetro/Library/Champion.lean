import Mathlib.Data.List.Basic

/-! The running best of a list under a strict order that may leave entries incomparable. -/

namespace Simetro.Library

variable {Entry : Type} (beats : Entry → Entry → Bool)

/-- The holder keeps its place against an entry that does not beat it. -/
def contend (holder entry : Entry) : Entry := if beats entry holder then entry else holder

def champion (first : Entry) (rest : List Entry) : Entry := rest.foldl (contend beats) first

/-- No entry of the list beats this one. -/
def unbeaten (entries : List Entry) (entry : Entry) : Bool := entries.all fun other => !beats other entry

def firstUnbeaten (entries : List Entry) : Option Entry := entries.find? (unbeaten beats entries)

/-- No entry beats itself, and what beats an entry beats all that entry beats. -/
structure Ranks : Prop where
  irrefl : ∀ entry, beats entry entry = false
  trans : ∀ {top middle low}, beats top middle = true → beats middle low = true → beats top low = true

variable {beats}

theorem unbeaten_iff {entries : List Entry} {entry : Entry} :
    unbeaten beats entries entry = true ↔ ∀ other ∈ entries, beats other entry = false := by
  simp [unbeaten]

@[simp] theorem champion_nil (first : Entry) : champion beats first [] = first := rfl

@[simp] theorem champion_cons (first entry : Entry) (rest : List Entry) :
    champion beats first (entry :: rest) = champion beats (contend beats first entry) rest := rfl

/-- Where an entry stands that came before `winner`: it did not beat the holder of its time, and
`winner` beats that holder. -/
def Passed (beats : Entry → Entry → Bool) (winner : Entry) (before : List Entry) : Prop :=
  ∀ earlier entry later, before = earlier ++ entry :: later →
    ∃ holder ∈ earlier ++ [entry], beats winner holder = true ∧ beats entry holder = false

/-- A list cut at its winner. -/
structure Won (beats : Entry → Entry → Bool) (entries : List Entry) (winner : Entry)
    (before after : List Entry) : Prop where
  split : entries = before ++ winner :: after
  passed : Passed beats winner before
  held : ∀ entry ∈ after, beats entry winner = false

namespace Won

variable {entries rest before after : List Entry} {winner first next : Entry}

/-- A winner other than the first entry beats the first entry. -/
theorem beats_first (won : Won beats (first :: rest) winner before after) (later : before ≠ []) :
    beats winner first = true := by
  cases before with
  | nil => exact absurd rfl later
  | cons head before =>
    obtain ⟨rfl, -⟩ := List.cons.inj won.split
    obtain ⟨holder, listed, above, -⟩ := won.passed [] first before rfl
    rwa [List.mem_singleton.mp listed] at above

/-- A first entry that the next one beats is one more entry the winner passed. -/
theorem overtake (ranks : Ranks beats) (overtaken : beats next first = true)
    (won : Won beats (next :: rest) winner before after) :
    Won beats (first :: next :: rest) winner (first :: before) after := by
  refine ⟨congrArg (first :: ·) won.split, ?_, won.held⟩
  intro earlier entry later cut
  cases earlier with
  | nil =>
    obtain ⟨rfl, -⟩ := List.cons.inj cut
    refine ⟨first, by simp, ?_, ranks.irrefl first⟩
    by_cases same : before = []
    · subst same
      rwa [← (List.cons.inj won.split).1]
    · exact ranks.trans (won.beats_first same) overtaken
  | cons head earlier =>
    obtain ⟨rfl, rfl⟩ := List.cons.inj cut
    obtain ⟨holder, listed, above, below⟩ := won.passed earlier entry later rfl
    exact ⟨holder, List.mem_cons_of_mem _ listed, above, below⟩

/-- An entry that does not beat the first one changes nothing. -/
theorem skip (ranks : Ranks beats) (kept : beats next first = false)
    (won : Won beats (first :: rest) winner before after) :
    ∃ before after, Won beats (first :: next :: rest) winner before after := by
  cases before with
  | nil =>
    obtain ⟨rfl, rfl⟩ := List.cons.inj won.split
    refine ⟨[], next :: rest, rfl, fun _ _ _ impossible => by simp at impossible, ?_⟩
    intro entry listed
    rcases List.mem_cons.mp listed with rfl | listed
    · exact kept
    · exact won.held entry listed
  | cons head before =>
    have above := won.beats_first (by simp)
    obtain ⟨rfl, tail⟩ := List.cons.inj won.split
    refine ⟨first :: next :: before, after, congrArg (first :: next :: ·) tail, ?_, won.held⟩
    intro earlier entry later cut
    -- the first entry, the skipped one, or an entry that was passed before
    match earlier with
    | [] =>
      obtain ⟨rfl, -⟩ := List.cons.inj cut
      exact ⟨first, by simp, above, ranks.irrefl first⟩
    | [_] =>
      obtain ⟨rfl, others⟩ := List.cons.inj cut
      obtain ⟨rfl, -⟩ := List.cons.inj others
      exact ⟨first, by simp, above, kept⟩
    | _ :: _ :: earlier =>
      obtain ⟨rfl, others⟩ := List.cons.inj cut
      obtain ⟨rfl, rfl⟩ := List.cons.inj others
      obtain ⟨holder, listed, beaten, stayed⟩ := won.passed (first :: earlier) entry later rfl
      refine ⟨holder, ?_, beaten, stayed⟩
      rcases List.mem_cons.mp listed with rfl | listed
      · simp
      · exact List.mem_cons_of_mem _ (List.mem_cons_of_mem _ listed)

/-- An entry that beat the winner would have beaten the holder of its own time. -/
theorem unbeaten (ranks : Ranks beats) (won : Won beats entries winner before after) :
    ∀ other ∈ entries, beats other winner = false := by
  intro other listed
  rw [won.split] at listed
  rcases List.mem_append.mp listed with early | late
  · obtain ⟨earlier, later, cut⟩ := List.append_of_mem early
    obtain ⟨holder, -, above, below⟩ := won.passed earlier other later cut
    by_contra beaten
    have beaten : beats other winner = true := by simpa using beaten
    rw [ranks.trans beaten above] at below
    exact Bool.noConfusion below
  · rcases List.mem_cons.mp late with rfl | late
    · exact ranks.irrefl _
    · exact won.held other late

end Won

/-- Of two cuts of a list one is further left, unless they are the same. -/
theorem cut_cases {before after left right : List Entry} {entry other : Entry}
    (same : before ++ entry :: after = left ++ other :: right) :
    entry ∈ left ∨ (before = left ∧ entry = other) ∨ other ∈ before := by
  rcases List.append_eq_append_iff.mp same with ⟨middle, rfl, rest⟩ | ⟨middle, rfl, rest⟩
  · cases middle with
    | nil => exact .inr (.inl ⟨by simp, (List.cons.inj rest).1⟩)
    | cons head middle =>
      obtain ⟨rfl, -⟩ := List.cons.inj rest
      exact .inl (by simp)
  · cases middle with
    | nil => exact .inr (.inl ⟨by simp, (List.cons.inj rest).1.symm⟩)
    | cons head middle =>
      obtain ⟨rfl, -⟩ := List.cons.inj rest
      exact .inr (.inr (by simp))

theorem champion_won (ranks : Ranks beats) (first : Entry) (rest : List Entry) :
    ∃ before after, Won beats (first :: rest) (champion beats first rest) before after := by
  induction rest generalizing first with
  | nil => exact ⟨[], [], rfl, fun _ _ _ impossible => by simp at impossible, by simp⟩
  | cons next rest ih =>
    rw [champion_cons, contend]
    split
    case isTrue overtaken =>
      obtain ⟨before, after, won⟩ := ih next
      exact ⟨first :: before, after, won.overtake ranks overtaken⟩
    case isFalse kept =>
      obtain ⟨before, after, won⟩ := ih first
      exact won.skip ranks (by simpa using kept)

end Simetro.Library
