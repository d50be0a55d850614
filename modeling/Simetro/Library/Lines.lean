import Simetro.Library.Encoding
import Simetro.Library.Text

/-! The lines of a text, the text of a list of bytes, and how both come back from lines that
were written one by one. -/

namespace Simetro.Library

/-- The pieces of a text, each with the line feed that ends it; the last may have none. -/
def splitInclusive : List Char → List (List Char)
  | [] => []
  | head :: tail =>
      if head = '\n' then [head] :: splitInclusive tail
      else
        match splitInclusive tail with
        | [] => [[head]]
        | piece :: pieces => (head :: piece) :: pieces

/-- A piece without its line feed and a carriage return before that one. -/
def withoutEnd (piece : List Char) : List Char :=
  match stripSuffix ['\n'] piece with
  | none => piece
  | some line => (stripSuffix ['\r'] line).getD line

/-- `str::lines`. -/
def lines (text : List Char) : List (List Char) := (splitInclusive text).map withoutEnd

/-- The text of bytes that are UTF-8. -/
def decodeUtf8 (bytes : List UInt8) : Option (List Char) :=
  (String.fromUTF8? bytes.toByteArray).map String.toList

theorem decodeUtf8_utf8Chars (text : List Char) : decodeUtf8 (utf8Chars text) = some text := by
  have encoded : (utf8Chars text).toByteArray = (String.ofList text).toByteArray := by
    rw [String.toByteArray_ofList]
    rfl
  have valid : (utf8Chars text).toByteArray.IsValidUTF8 := encoded ▸ (String.ofList text).isValidUTF8
  have read : String.fromUTF8 (utf8Chars text).toByteArray valid = String.ofList text :=
    String.toByteArray_inj.mp encoded
  rw [decodeUtf8, String.fromUTF8?, dif_pos valid, read, Option.map_some, String.toList_ofList]

theorem utf8Chars_flatMap {Row : Type} (rows : List Row) (text : Row → List Char) :
    utf8Chars (rows.flatMap text) = rows.flatMap fun row => utf8Chars (text row) := by
  unfold utf8Chars
  rw [List.flatMap_assoc]

section Written

variable {line : List Char}

theorem stripSuffix_ended (line : List Char) (last : Char) :
    stripSuffix [last] (line ++ [last]) = some line := by
  simp [stripSuffix, stripPrefix]

theorem stripSuffix_other {last : Char} (plain : last ∉ line) : stripSuffix [last] line = none := by
  unfold stripSuffix
  cases reversed : line.reverse with
  | nil => rfl
  | cons head tail =>
    have listed : head ∈ line := List.mem_reverse.mp (by simp [reversed])
    have apart : last ≠ head := fun same => plain (same ▸ listed)
    simp [stripPrefix, apart]

theorem splitInclusive_ended (plain : '\n' ∉ line) (more : List Char) :
    splitInclusive (line ++ '\n' :: more) = (line ++ ['\n']) :: splitInclusive more := by
  induction line with
  | nil => rfl
  | cons head tail ih =>
    have first : head ≠ '\n' := fun same => plain (by simp [same])
    have rest := ih fun listed => plain (by simp [listed])
    rw [List.cons_append, splitInclusive, if_neg first, rest]
    rfl

theorem withoutEnd_ended (plain : '\r' ∉ line) : withoutEnd (line ++ ['\n']) = line := by
  unfold withoutEnd
  rw [stripSuffix_ended]
  simp [stripSuffix_other plain]

/-- Lines that were written one by one are read one by one. -/
theorem lines_written (rows : List (List Char)) (plain : ∀ row ∈ rows, '\n' ∉ row ∧ '\r' ∉ row) :
    lines (rows.flatMap fun row => row ++ ['\n']) = rows := by
  induction rows with
  | nil => rfl
  | cons row rest ih =>
    obtain ⟨newline, return'⟩ := plain row (by simp)
    have later := ih fun other listed => plain other (by simp [listed])
    unfold lines at later ⊢
    rw [List.flatMap_cons, List.append_assoc, List.singleton_append, splitInclusive_ended newline,
      List.map_cons, withoutEnd_ended return', later]

/-- Nothing is trimmed off a line between two visible characters. -/
theorem trim_enclosed {first last : Char} (opened : isWhitespace first = false)
    (closed : isWhitespace last = false) (line : List Char) :
    trim (first :: line ++ [last]) = first :: line ++ [last] := by
  simp [trim, opened, closed]

end Written

end Simetro.Library
