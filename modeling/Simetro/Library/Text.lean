import Simetro.Library.Saturating

/-! Text operations of the scene loader, on lists of characters: trimming by the
Unicode `White_Space` property, splitting at the first match, unsigned decimals. -/

namespace Simetro.Library

/-- The Unicode `White_Space` property. -/
def isWhitespace (character : Char) : Bool :=
  let code := character.toNat
  (9 ≤ code && code ≤ 13) || code == 32 || code == 0x85 || code == 0xA0 || code == 0x1680 ||
    (0x2000 ≤ code && code ≤ 0x200A) || code == 0x2028 || code == 0x2029 || code == 0x202F ||
    code == 0x205F || code == 0x3000

def isBlank (text : String) : Bool := text.toList.all isWhitespace

def trim (characters : List Char) : List Char :=
  (((characters.dropWhile isWhitespace).reverse).dropWhile isWhitespace).reverse

/-- The rest after a prefix. -/
def stripPrefix : List Char → List Char → Option (List Char)
  | [], text => some text
  | _ :: _, [] => none
  | first :: rest, head :: tail => if first = head then stripPrefix rest tail else none

def stripSuffix (suffix text : List Char) : Option (List Char) :=
  (stripPrefix suffix.reverse text.reverse).map List.reverse

/-- Split at the first occurrence of a non-empty separator. -/
def splitOnce (separator : List Char) : List Char → Option (List Char × List Char)
  | [] => none
  | head :: tail =>
      match stripPrefix separator (head :: tail) with
      | some rest => some ([], rest)
      | none => (splitOnce separator tail).map fun (before, after) => (head :: before, after)

def isDigit (character : Char) : Bool := '0' ≤ character && character ≤ '9'

def decimalValue (digits : List Char) : Nat :=
  digits.foldl (fun value digit => 10 * value + (digit.toNat - '0'.toNat)) 0

/-- An unsigned 64-bit decimal with an optional plus sign. -/
def parseU64 (text : List Char) : Option Nat :=
  let digits := (stripPrefix ['+'] text).getD text
  if digits.isEmpty || !digits.all isDigit || u64Max < decimalValue digits then none
  else some (decimalValue digits)

end Simetro.Library
