import Mathlib.Data.List.Basic
import Mathlib.Data.List.Range

/-! A bounded waiting line of numbered tickets with deadlines. Tickets are issued
at the back and leave from the front, expired or served. -/

namespace Simetro.Library

structure Ticket where
  number : Nat
  deadline : Nat
  deriving DecidableEq

structure TicketLine where
  issued : Nat
  waiting : List Ticket
  expired : List Nat
  served : List Nat

namespace TicketLine

variable (line : TicketLine)

/-- Tickets that left the line. -/
def closed : Nat := line.expired.length + line.served.length

def issue (deadline : Nat) : TicketLine :=
  { line with
    issued := line.issued + 1
    waiting := line.waiting ++ [⟨line.issued, deadline⟩] }

/-- Let the front tickets whose deadline is before `now` expire. -/
def expire (now : Nat) : TicketLine :=
  { line with
    waiting := line.waiting.dropWhile fun ticket => ticket.deadline < now
    expired := line.expired ++
      (line.waiting.takeWhile fun ticket => ticket.deadline < now).map (·.number) }

def serve : TicketLine :=
  match line.waiting with
  | [] => line
  | front :: rest => { line with waiting := rest, served := line.served ++ [front.number] }

/-- A line of at most `cap` tickets in which every ticket ever issued is
accounted for: it waits, it expired once, or it was served once. -/
structure Sound (cap : Nat) (line : TicketLine) : Prop where
  issued : line.issued = line.closed + line.waiting.length
  numbered : line.waiting.map (·.number) = List.range' line.closed line.waiting.length
  settled : (line.expired ++ line.served).Perm (List.range line.closed)
  ordered : line.waiting.Pairwise fun earlier later => earlier.deadline ≤ later.deadline
  capped : line.waiting.length ≤ cap

variable {line} {cap : Nat}

theorem sound_empty : Sound cap ⟨0, [], [], []⟩ where
  issued := rfl
  numbered := rfl
  settled := .refl _
  ordered := .nil
  capped := Nat.zero_le _

theorem Sound.issue (sound : Sound cap line) {deadline : Nat} (room : line.waiting.length < cap)
    (latest : ∀ ticket ∈ line.waiting, ticket.deadline ≤ deadline) :
    Sound cap (line.issue deadline) where
  issued := by
    have before := sound.issued
    simp only [TicketLine.issue, closed, List.length_append, List.length_singleton] at before ⊢
    omega
  numbered := by
    simp only [TicketLine.issue, closed, List.map_append, List.map_singleton, List.length_append,
      List.length_singleton, List.range'_1_concat]
    rw [sound.numbered, sound.issued]
    rfl
  settled := sound.settled
  ordered := by
    refine List.pairwise_append.mpr ⟨sound.ordered, List.pairwise_singleton _ _, ?_⟩
    intro earlier present later last
    rw [List.mem_singleton] at last
    exact last ▸ latest earlier present
  capped := by
    simp only [TicketLine.issue, List.length_append, List.length_singleton]
    omega

/-- Tickets that leave the front take the next numbers with them. -/
private theorem leaving_numbers (sound : Sound cap line) {gone rest : List Ticket}
    (front : line.waiting = gone ++ rest) :
    gone.map (·.number) = List.range' line.closed gone.length ∧
      rest.map (·.number) = List.range' (line.closed + gone.length) rest.length := by
  have numbered := sound.numbered
  rw [front, List.map_append, List.length_append, ← List.range'_append_1] at numbered
  exact List.append_inj numbered (by simp)

private theorem leaving_settled (sound : Sound cap line) {gone rest : List Ticket}
    (front : line.waiting = gone ++ rest) :
    (line.expired ++ line.served ++ gone.map (·.number)).Perm
      (List.range (line.closed + gone.length)) := by
  rw [(leaving_numbers sound front).1, List.range_eq_range', ← List.range'_append_1,
    ← List.range_eq_range', Nat.zero_add]
  exact sound.settled.append_right _

private theorem Sound.leave_expired (sound : Sound cap line) {gone rest : List Ticket}
    (front : line.waiting = gone ++ rest) :
    Sound cap { line with
      waiting := rest
      expired := line.expired ++ gone.map (·.number) } where
  issued := by
    have before := sound.issued
    rw [front, List.length_append] at before
    simp only [closed, List.length_append, List.length_map] at before ⊢
    omega
  numbered := by
    rw [(leaving_numbers sound front).2]
    simp only [closed, List.length_append, List.length_map]
    rw [Nat.add_right_comm]
  settled := by
    have settled := leaving_settled sound front
    simp only [closed, List.length_append, List.length_map] at settled ⊢
    rw [Nat.add_right_comm, List.append_assoc]
    refine List.Perm.trans ?_ settled
    rw [List.append_assoc]
    exact List.perm_append_comm.append_left _
  ordered := (List.pairwise_append.mp (front ▸ sound.ordered)).2.1
  capped := by
    have before := sound.capped
    rw [front, List.length_append] at before
    exact Nat.le_trans (Nat.le_add_left _ _) before

theorem Sound.expire (sound : Sound cap line) (now : Nat) : Sound cap (line.expire now) :=
  sound.leave_expired List.takeWhile_append_dropWhile.symm

theorem Sound.serve (sound : Sound cap line) : Sound cap line.serve := by
  unfold TicketLine.serve
  split
  · exact sound
  · rename_i front rest waiting
    have leaving : line.waiting = [front] ++ rest := waiting
    have numbers := leaving_numbers sound leaving
    have settled := leaving_settled sound leaving
    have issued := sound.issued
    have capped := sound.capped
    rw [waiting, List.length_cons] at issued capped
    simp only [closed, List.length_singleton, List.map_singleton] at numbers settled issued
    refine ⟨?_, ?_, ?_, (List.pairwise_cons.mp (waiting ▸ sound.ordered)).2,
      Nat.le_trans (Nat.le_succ _) capped⟩
    · simp only [closed, List.length_append, List.length_singleton]
      omega
    · simp only [closed, List.length_append, List.length_singleton]
      exact numbers.2
    · simp only [closed, List.length_append, List.length_singleton]
      rw [← List.append_assoc]
      exact settled

/-- In a sound line, expiry from the front leaves no overdue ticket behind. -/
theorem Sound.expire_due (sound : Sound cap line) {now : Nat} {ticket : Ticket}
    (waits : ticket ∈ (line.expire now).waiting) : now ≤ ticket.deadline := by
  have ordered := (sound.expire now).ordered
  simp only [TicketLine.expire] at waits ordered
  cases rest : line.waiting.dropWhile fun ticket => decide (ticket.deadline < now) with
  | nil => simp [rest] at waits
  | cons front others =>
    have due : now ≤ front.deadline := by
      have kept := List.head_dropWhile_not (fun ticket : Ticket => decide (ticket.deadline < now))
        (show line.waiting.dropWhile _ ≠ [] by simp [rest])
      simpa [rest] using kept
    rw [rest] at waits ordered
    rcases List.mem_cons.mp waits with same | later
    · exact same ▸ due
    · exact Nat.le_trans due ((List.pairwise_cons.mp ordered).1 ticket later)

namespace Sound

variable (sound : Sound cap line)
include sound

theorem expired_nodup : line.expired.Nodup :=
  (List.nodup_append.mp (sound.settled.nodup_iff.mpr List.nodup_range)).1

theorem served_nodup : line.served.Nodup :=
  (List.nodup_append.mp (sound.settled.nodup_iff.mpr List.nodup_range)).2.1

theorem not_both {number : Nat} (expired : number ∈ line.expired) : number ∉ line.served :=
  fun served => (List.nodup_append.mp (sound.settled.nodup_iff.mpr List.nodup_range)).2.2
    number expired number served rfl

end Sound

end TicketLine

end Simetro.Library
