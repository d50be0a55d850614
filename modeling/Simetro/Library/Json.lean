import Simetro.Library.Text

/-! JSON documents: values, the compact writer and the reader. A number is kept as the
literal it is written with; what it denotes is left to whoever asks for it. -/

namespace Simetro.Library

inductive Json where
  | null
  | bool (value : Bool)
  | number (literal : String)
  | string (text : String)
  | array (items : List Json)
  | object (members : List (String × Json))

namespace Json

/-! Numbers. -/

def isNumeric (character : Char) : Bool := isDigit character || ['-', '+', '.', 'e', 'E'].contains character

/-- At least one digit, then nothing. -/
def allDigits (text : List Char) : Bool := !text.isEmpty && text.all isDigit

def isExponent : List Char → Bool
  | [] => true
  | 'e' :: '+' :: digits | 'e' :: '-' :: digits | 'E' :: '+' :: digits | 'E' :: '-' :: digits
  | 'e' :: digits | 'E' :: digits => allDigits digits
  | _ => false

def isFraction : List Char → Bool
  | '.' :: digit :: rest => isDigit digit && isExponent (rest.dropWhile isDigit)
  | rest => isExponent rest

/-- An integer part without leading zeros, then fraction and exponent. -/
def isUnsigned : List Char → Bool
  | '0' :: rest => isFraction rest
  | digit :: rest => isDigit digit && isFraction (rest.dropWhile isDigit)
  | [] => false

def isNumber (literal : List Char) : Bool :=
  literal.all isNumeric &&
    match literal with
    | '-' :: rest => isUnsigned rest
    | rest => isUnsigned rest

/-! The compact writer. -/

/-- A lower-case hexadecimal digit. -/
def hexDigit (value : Nat) : Char := Nat.digitChar value

/-- How a character stands in a string: the two delimiters and the control characters
are escaped. -/
def escaped (character : Char) : List Char :=
  if character = '"' then ['\\', '"']
  else if character = '\\' then ['\\', '\\']
  else if character = '\n' then ['\\', 'n']
  else if character = '\r' then ['\\', 'r']
  else if character = '\t' then ['\\', 't']
  else if character.toNat = 8 then ['\\', 'b']
  else if character.toNat = 12 then ['\\', 'f']
  else if character.toNat < 32 then
    ['\\', 'u', '0', '0', hexDigit (character.toNat / 16), hexDigit (character.toNat % 16)]
  else [character]

def quoted (text : String) : List Char := '"' :: text.toList.flatMap escaped ++ ['"']

mutual

def chars : Json → List Char
  | .null => ['n', 'u', 'l', 'l']
  | .bool true => ['t', 'r', 'u', 'e']
  | .bool false => ['f', 'a', 'l', 's', 'e']
  | .number literal => literal.toList
  | .string text => quoted text
  | .array [] => ['[', ']']
  | .array (item :: items) => '[' :: (chars item ++ itemsChars items)
  | .object [] => ['\x7b', '\x7d']
  | .object ((key, value) :: members) =>
      '\x7b' :: (quoted key ++ ':' :: (chars value ++ membersChars members))

/-- The items after the first, with the closing bracket. -/
def itemsChars : List Json → List Char
  | [] => [']']
  | item :: items => ',' :: (chars item ++ itemsChars items)

/-- The members after the first, with the closing brace. -/
def membersChars : List (String × Json) → List Char
  | [] => ['\x7d']
  | (key, value) :: members =>
      ',' :: (quoted key ++ ':' :: (chars value ++ membersChars members))

end

/-! The reader. -/

def isBlankSpace (character : Char) : Bool :=
  character = ' ' || character = '\n' || character = '\t' || character = '\r'

def skip (input : List Char) : List Char := input.dropWhile isBlankSpace

def hexValue (character : Char) : Option Nat :=
  if isDigit character then some (character.toNat - '0'.toNat)
  else if 'a' ≤ character ∧ character ≤ 'f' then some (character.toNat - 'a'.toNat + 10)
  else if 'A' ≤ character ∧ character ≤ 'F' then some (character.toNat - 'A'.toNat + 10)
  else none

def readHex : List Char → Option (Nat × List Char)
  | first :: second :: third :: fourth :: rest => do
      let first ← hexValue first
      let second ← hexValue second
      let third ← hexValue third
      let fourth ← hexValue fourth
      return (((first * 16 + second) * 16 + third) * 16 + fourth, rest)
  | _ => none

/-- After the backslash and the `u`: a code unit, and its partner if it is the first of a
surrogate pair. -/
def readUnicode (input : List Char) : Option (Char × List Char) := do
  let (unit, rest) ← readHex input
  if 0xD800 ≤ unit ∧ unit < 0xDC00 then
    match rest with
    | '\\' :: 'u' :: rest =>
        let (low, rest) ← readHex rest
        if 0xDC00 ≤ low ∧ low < 0xE000 then
          return (Char.ofNat (0x10000 + (unit - 0xD800) * 0x400 + (low - 0xDC00)), rest)
        else none
    | _ => none
  else if 0xDC00 ≤ unit ∧ unit < 0xE000 then none
  else return (Char.ofNat unit, rest)

/-- The character a one-letter escape stands for. -/
def unescaped : Char → Option Char
  | '"' => some '"'
  | '\\' => some '\\'
  | '/' => some '/'
  | 'b' => some (Char.ofNat 8)
  | 'f' => some (Char.ofNat 12)
  | 'n' => some '\n'
  | 'r' => some '\r'
  | 't' => some '\t'
  | _ => none

def readChar : List Char → Option (Char × List Char)
  | '\\' :: 'u' :: rest => readUnicode rest
  | '\\' :: letter :: rest => (unescaped letter).map fun character => (character, rest)
  | character :: rest => if character.toNat < 32 then none else some (character, rest)
  | [] => none

/-- The rest of a string whose opening quote was read. -/
def readText : Nat → List Char → Option (List Char × List Char)
  | 0, _ => none
  | fuel + 1, input =>
      match input with
      | '"' :: rest => some ([], rest)
      | input => do
          let (character, rest) ← readChar input
          let (text, rest) ← readText fuel rest
          return (character :: text, rest)

def readString (input : List Char) : Option (String × List Char) :=
  (readText (input.length + 1) input).map fun (text, rest) => (String.ofList text, rest)

def readNumber (input : List Char) : Option (Json × List Char) :=
  let literal := input.takeWhile isNumeric
  if isNumber literal then some (.number (String.ofList literal), input.dropWhile isNumeric)
  else none

/-- A member's key with the colon after it. -/
def readKey (input : List Char) : Option (String × List Char) :=
  match skip input with
  | '"' :: rest => do
      let (key, rest) ← readString rest
      match skip rest with
      | ':' :: rest => some (key, rest)
      | _ => none
  | _ => none

mutual

def readValue : Nat → List Char → Option (Json × List Char)
  | 0, _ => none
  | fuel + 1, input =>
      match skip input with
      | 'n' :: rest => (stripPrefix ['u', 'l', 'l'] rest).map fun rest => (.null, rest)
      | 't' :: rest => (stripPrefix ['r', 'u', 'e'] rest).map fun rest => (.bool true, rest)
      | 'f' :: rest => (stripPrefix ['a', 'l', 's', 'e'] rest).map fun rest => (.bool false, rest)
      | '"' :: rest => (readString rest).map fun (text, rest) => (.string text, rest)
      | '[' :: rest =>
          match skip rest with
          | ']' :: rest => some (.array [], rest)
          | rest => (readItems fuel rest).map fun (items, rest) => (.array items, rest)
      | '\x7b' :: rest =>
          match skip rest with
          | '\x7d' :: rest => some (.object [], rest)
          | rest => (readMembers fuel rest).map fun (members, rest) => (.object members, rest)
      | input => readNumber input

def readItems : Nat → List Char → Option (List Json × List Char)
  | 0, _ => none
  | fuel + 1, input => do
      let (item, rest) ← readValue fuel input
      match skip rest with
      | ']' :: rest => some ([item], rest)
      | ',' :: rest => (readItems fuel rest).map fun (items, rest) => (item :: items, rest)
      | _ => none

def readMembers : Nat → List Char → Option (List (String × Json) × List Char)
  | 0, _ => none
  | fuel + 1, input => do
      let (key, rest) ← readKey input
      let (value, rest) ← readValue fuel rest
      match skip rest with
      | '\x7d' :: rest => some ([(key, value)], rest)
      | ',' :: rest =>
          (readMembers fuel rest).map fun (members, rest) => ((key, value) :: members, rest)
      | _ => none

end

/-- The one value a text holds. -/
def parse (text : List Char) : Option Json := do
  let (value, rest) ← readValue (text.length + 1) text
  if (skip rest).isEmpty then some value else none

/-! Access to values. -/

/-- The member of a name, which may stand at most once: `none` for a second one. -/
def member (name : String) (members : List (String × Json)) : Option (Option Json) :=
  match members.filter fun entry => entry.1 = name with
  | [] => some none
  | [(_, value)] => some (some value)
  | _ => none

/-- The fields of a record, by name or by position. -/
def fields (names : List String) : Json → Option (List (Option Json))
  | .object members => names.mapM fun name => member name members
  | .array items => if items.length = names.length then some (items.map some) else none
  | _ => none

/-- The tag of a tagged record and the record without it. -/
def tagged (tag : String) : Json → Option (String × Json)
  | .object members =>
      match member tag members with
      | some (some (.string name)) => some (name, .object (members.filter fun entry => entry.1 ≠ tag))
      | _ => none
  | .array (.string name :: items) => some (name, .array items)
  | _ => none

def text? : Json → Option String
  | .string text => some text
  | _ => none

/-- An unsigned integer below a bound. -/
def below? (bound : Nat) : Json → Option Nat
  | .number literal =>
      if allDigits literal.toList && Nat.ofDigitChars 10 literal.toList 0 < bound then
        some (Nat.ofDigitChars 10 literal.toList 0)
      else none
  | _ => none

def ofNat (value : Nat) : Json := .number (String.ofList (Nat.toDigits 10 value))

end Json

end Simetro.Library
