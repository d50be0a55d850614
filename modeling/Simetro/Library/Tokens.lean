import Mathlib.Data.List.Count
import Mathlib.Data.List.Perm.Basic

/-! Tokens that are issued, live for a while and then end in one of two ways:
settled or lapsed. When the books balance and no token was issued twice, none is
settled twice and none is both settled and lapsed. -/

namespace Simetro.Library

variable {Token : Type} {issued live rest settled lapsed gone : List Token} {token : Token}

/-- Every issued token is live, settled or lapsed, as often as it was issued. -/
def Books (issued live settled lapsed : List Token) : Prop :=
  issued.Perm (live ++ settled ++ lapsed)

namespace Books

theorem empty : Books ([] : List Token) [] [] [] := .refl _

theorem issue (books : Books issued live settled lapsed) (token : Token) :
    Books (issued ++ [token]) (live ++ [token]) settled lapsed := by
  classical
  simp only [Books, List.perm_iff_count, List.count_append] at *
  intro other
  have := books other
  omega

theorem settle (books : Books issued live settled lapsed)
    (split : live.Perm (token :: rest)) : Books issued rest (settled ++ [token]) lapsed := by
  classical
  simp only [Books, List.perm_iff_count, List.count_append, List.count_cons,
    List.count_nil] at *
  intro other
  have := books other
  have := split other
  omega

theorem lapse (books : Books issued live settled lapsed)
    (split : live.Perm (gone ++ rest)) : Books issued rest settled (lapsed ++ gone) := by
  classical
  simp only [Books, List.perm_iff_count, List.count_append] at *
  intro other
  have := books other
  have := split other
  omega

section OnceIssued

variable (books : Books issued live settled lapsed) (once : issued.Nodup)
include books once

private theorem parts_nodup : (live ++ settled ++ lapsed).Nodup := books.nodup_iff.mp once

theorem settled_nodup : settled.Nodup :=
  (List.nodup_append.mp (List.nodup_append.mp (books.parts_nodup once)).1).2.1

theorem not_settled_of_lapsed (member : token ∈ lapsed) : token ∉ settled := fun present =>
  (List.nodup_append.mp (books.parts_nodup once)).2.2 token
    (List.mem_append.mpr (.inr present)) token member rfl

end OnceIssued

end Books

end Simetro.Library
