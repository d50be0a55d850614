import Simetro.Library.Encoding

/-! Cuts of a text at a byte count: the boundaries of its characters, the walk back to one, and
the prefix that is kept. -/

namespace Simetro.Library

/-- The bytes of a text. -/
def byteSize : List Char → Nat
  | [] => 0
  | head :: tail => head.utf8Size + byteSize tail

/-- Characters end at byte `index`. -/
def isCharBoundary : List Char → Nat → Bool
  | _, 0 => true
  | [], _ + 1 => false
  | head :: tail, index + 1 =>
    head.utf8Size ≤ index + 1 && isCharBoundary tail (index + 1 - head.utf8Size)

/-- The nearest boundary at or before byte `cap`, looked for downwards. -/
def backOff (text : List Char) : Nat → Nat
  | 0 => 0
  | cap + 1 => if isCharBoundary text (cap + 1) then cap + 1 else backOff text cap

/-- The characters that end within the first `count` bytes. -/
def takeBytes : List Char → Nat → List Char
  | [], _ => []
  | head :: tail, count =>
    if head.utf8Size ≤ count then head :: takeBytes tail (count - head.utf8Size) else []

theorem byteSize_cons (head : Char) (tail : List Char) :
    byteSize (head :: tail) = head.utf8Size + byteSize tail := rfl

theorem backOff_succ (text : List Char) (cap : Nat) :
    backOff text (cap + 1) =
      if isCharBoundary text (cap + 1) then cap + 1 else backOff text cap := rfl

theorem takeBytes_cons (head : Char) (tail : List Char) (count : Nat) :
    takeBytes (head :: tail) count =
      if head.utf8Size ≤ count then head :: takeBytes tail (count - head.utf8Size) else [] := rfl

theorem byteSize_append (front back : List Char) :
    byteSize (front ++ back) = byteSize front + byteSize back := by
  induction front with
  | nil => exact (Nat.zero_add _).symm
  | cons head tail ih => rw [List.cons_append, byteSize_cons, byteSize_cons, ih, Nat.add_assoc]

theorem byteSize_replicate (count : Nat) (char : Char) :
    byteSize (List.replicate count char) = count * char.utf8Size := by
  induction count with
  | zero => exact (Nat.zero_mul _).symm
  | succ count ih => rw [List.replicate_succ, byteSize_cons, ih, Nat.succ_mul, Nat.add_comm]

theorem byteSize_toList (text : String) : byteSize text.toList = text.utf8ByteSize := by
  have each (chars : List Char) : byteSize chars = (utf8Chars chars).length := by
    induction chars with
    | nil => rfl
    | cons head tail ih =>
      rw [byteSize_cons, ih, utf8Chars_cons, List.length_append, String.length_utf8EncodeChar]
  rw [each]
  exact length_utf8 text

theorem byteSize_mono {front text : List Char} (starts : front <+: text) :
    byteSize front ≤ byteSize text := by
  obtain ⟨rest, rfl⟩ := starts
  rw [byteSize_append]
  exact Nat.le_add_right _ _

/-- Boundaries are where prefixes end. -/
theorem isCharBoundary_iff {text : List Char} {index : Nat} :
    isCharBoundary text index = true ↔ ∃ front, front <+: text ∧ byteSize front = index := by
  induction text generalizing index with
  | nil =>
    cases index with
    | zero => exact ⟨fun _ => ⟨[], List.nil_prefix, rfl⟩, fun _ => rfl⟩
    | succ index =>
      refine ⟨fun bounded => (Bool.false_ne_true bounded).elim, fun ⟨front, starts, ends⟩ => ?_⟩
      rw [List.prefix_nil.mp starts] at ends
      cases ends
  | cons head tail ih =>
    cases index with
    | zero => exact ⟨fun _ => ⟨[], List.nil_prefix, rfl⟩, fun _ => rfl⟩
    | succ index =>
      rw [isCharBoundary, Bool.and_eq_true, decide_eq_true_eq, ih]
      constructor
      · rintro ⟨fits, front, starts, ends⟩
        refine ⟨head :: front, List.cons_prefix_cons.mpr ⟨rfl, starts⟩, ?_⟩
        rw [byteSize_cons, ends]
        omega
      · rintro ⟨front, starts, ends⟩
        cases front with
        | nil => cases ends
        | cons first front =>
          obtain ⟨rfl, after⟩ := List.cons_prefix_cons.mp starts
          rw [byteSize_cons] at ends
          exact ⟨by omega, front, after, by omega⟩

theorem backOff_le (text : List Char) (cap : Nat) : backOff text cap ≤ cap := by
  induction cap with
  | zero => exact Nat.le_refl _
  | succ cap ih =>
    rw [backOff_succ]
    split
    · exact Nat.le_refl _
    · exact Nat.le_succ_of_le ih

theorem backOff_bounded (text : List Char) (cap : Nat) :
    isCharBoundary text (backOff text cap) = true := by
  induction cap with
  | zero =>
    change isCharBoundary text 0 = true
    unfold isCharBoundary
    rfl
  | succ cap ih =>
    rw [backOff_succ]
    split
    · assumption
    · exact ih

theorem le_backOff {text : List Char} {index cap : Nat} (bounded : isCharBoundary text index = true)
    (within : index ≤ cap) : index ≤ backOff text cap := by
  induction cap with
  | zero => exact within
  | succ cap ih =>
    rw [backOff_succ]
    split
    · exact within
    · rename_i missed
      have other : index ≠ cap + 1 := fun same => missed (same ▸ bounded)
      exact ih (by omega)

theorem takeBytes_starts (text : List Char) (count : Nat) : takeBytes text count <+: text := by
  induction text generalizing count with
  | nil => exact List.nil_prefix
  | cons head tail ih =>
    rw [takeBytes_cons]
    split
    · exact List.cons_prefix_cons.mpr ⟨rfl, ih _⟩
    · exact List.nil_prefix

/-- A prefix is taken by its own bytes. -/
theorem takeBytes_byteSize {front text : List Char} (starts : front <+: text) :
    takeBytes text (byteSize front) = front := by
  induction front generalizing text with
  | nil =>
    cases text with
    | nil => rfl
    | cons head tail => exact if_neg (Nat.not_le.mpr (Char.utf8Size_pos head))
  | cons first front ih =>
    cases text with
    | nil => cases List.prefix_nil.mp starts
    | cons head tail =>
      obtain ⟨rfl, after⟩ := List.cons_prefix_cons.mp starts
      rw [byteSize_cons, takeBytes_cons, if_pos (Nat.le_add_right _ _), Nat.add_sub_cancel_left,
        ih after]

/-- The cut of a text to `cap` bytes. -/
def cutAt (text : List Char) (cap : Nat) : List Char := takeBytes text (backOff text cap)

variable {text front : List Char} {cap : Nat}

theorem byteSize_cutAt : byteSize (cutAt text cap) = backOff text cap := by
  obtain ⟨front, starts, ends⟩ := isCharBoundary_iff.mp (backOff_bounded text cap)
  rw [cutAt, ← ends, takeBytes_byteSize starts]

/-- The cut is the longest prefix within the cap. -/
theorem cutAt_longest :
    cutAt text cap <+: text ∧ byteSize (cutAt text cap) ≤ cap ∧
      ∀ front, front <+: text → byteSize front ≤ cap → front <+: cutAt text cap := by
  refine ⟨takeBytes_starts _ _, Nat.le_trans (Nat.le_of_eq byteSize_cutAt) (backOff_le _ _),
    fun front starts within => ?_⟩
  rcases List.prefix_or_prefix_of_prefix starts (takeBytes_starts text (backOff text cap))
    with before | after
  · exact before
  · have most := le_backOff (isCharBoundary_iff.mpr ⟨front, starts, rfl⟩) within
    have least := byteSize_mono after
    change byteSize (cutAt text cap) ≤ _ at least
    rw [byteSize_cutAt] at least
    have same : cutAt text cap = front := by
      rw [cutAt, ← Nat.le_antisymm most least, takeBytes_byteSize starts]
    exact same ▸ List.prefix_rfl

theorem cutAt_eq (starts : front <+: text) (within : byteSize front ≤ cap)
    (longest : ∀ other, other <+: text → byteSize other ≤ cap → byteSize other ≤ byteSize front) :
    cutAt text cap = front := by
  obtain ⟨cut, short, most⟩ := @cutAt_longest text cap
  have above := longest _ cut short
  rw [byteSize_cutAt] at above
  have under := le_backOff (isCharBoundary_iff.mpr ⟨front, starts, rfl⟩) within
  rw [cutAt, ← Nat.le_antisymm under above, takeBytes_byteSize starts]

/-- A text longer than the cap loses at most the three bytes of a character that straddles it. -/
theorem le_byteSize_cutAt (long : cap < byteSize text) : cap ≤ byteSize (cutAt text cap) + 3 := by
  obtain ⟨⟨rest, whole⟩, short, most⟩ := @cutAt_longest text cap
  cases rest with
  | nil =>
    rw [List.append_nil] at whole
    rw [whole] at short
    omega
  | cons next rest =>
    have four := Char.utf8Size_le_four next
    by_contra far
    have longer : cutAt text cap ++ [next] <+: text := ⟨rest, by rw [List.append_assoc]; exact whole⟩
    have grown := byteSize_append (cutAt text cap) [next]
    rw [byteSize_cons] at grown
    change _ = _ + (_ + 0) at grown
    have kept := (most _ longer (by omega)).length_le
    rw [List.length_append, List.length_singleton] at kept
    omega

end Simetro.Library
