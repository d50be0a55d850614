import Mathlib.Algebra.GroupWithZero.Nat
import Simetro.Library.JsonReading
import Simetro.Protocol.Messages

/-! Tool calls of a model and the actions they stand for. How a 32-bit float is written as
a JSON number, and what a JSON number is as a 32-bit float, is the codec's. -/

namespace Simetro.Protocol

/-- Neither an infinity nor a NaN: the exponent is not all ones. -/
def F32Bits.isFinite (value : F32Bits) : Bool := value.toNat / 2 ^ 23 % 256 != 255

end Simetro.Protocol

namespace Simetro.Bridge

open Simetro.Library Simetro.Protocol

/-- The JSON numbers of 32-bit floats. A number may be too large to be read at all, and one
beyond the range of the type is read as an infinity. Finite values are read back. -/
structure F32Text where
  write : F32Bits → String
  read : String → Option F32Bits
  literal : ∀ value, value.isFinite → Json.isNumber (write value).toList = true
  reads : ∀ value, value.isFinite → read (write value) = some value

namespace F32Text

variable (text : F32Text)

/-- JSON has no infinities and no NaN. -/
def toJson (value : F32Bits) : Json := if value.isFinite then .number (text.write value) else .null

def fromJson : Json → Option F32Bits
  | .number literal => text.read literal
  | _ => none

def pairToJson (pair : F32Bits × F32Bits) : Json := .array [text.toJson pair.1, text.toJson pair.2]

def pairFromJson : Json → Option (F32Bits × F32Bits)
  | .array [first, second] => do
      let first ← text.fromJson first
      let second ← text.fromJson second
      return (first, second)
  | _ => none

variable {text}

theorem toJson_sound (value : F32Bits) : (text.toJson value).Sound := by
  unfold toJson
  split
  · rename_i finite
    rw [Json.Sound]
    exact text.literal value finite
  · trivial

/-- Only a finite value is read back. -/
theorem fromJson_toJson (value : F32Bits) :
    text.fromJson (text.toJson value) = if value.isFinite then some value else none := by
  unfold toJson
  split
  · rename_i finite
    exact text.reads value finite
  · rfl

end F32Text

namespace PlainText

/-- `1.0` and positive infinity. -/
def one : F32Bits := 0x3f800000#32
def infinity : F32Bits := 0x7f800000#32

def write (value : F32Bits) : String :=
  if value = one then "1.0" else String.ofList (Nat.toDigits 10 value.toNat)

def read (literal : String) : Option F32Bits :=
  if literal = "1.0" then some one
  else if literal = "1e39" then some infinity
  else (Json.below? (2 ^ 32) (.number literal)).map (BitVec.ofNat 32)

theorem toDigits_ne (value : Nat) {literal : String}
    (other : ∃ character ∈ literal.toList, isDigit character = false) :
    String.ofList (Nat.toDigits 10 value) ≠ literal := by
  rintro rfl
  obtain ⟨character, member, plain⟩ := other
  rw [String.toList_ofList] at member
  rw [isDigit_of_mem_toDigits member] at plain
  cases plain

end PlainText

/-- A stand-in that agrees with the real codec on the numbers `1.0` and `1e39`, and writes
every other value as the decimal of its bits. -/
def plainText : F32Text where
  write := PlainText.write
  read := PlainText.read
  literal value _ := by
    unfold PlainText.write
    split
    · decide
    · rw [String.toList_ofList]
      exact Json.isNumber_toDigits value.toNat
  reads value _ := by
    unfold PlainText.write
    split
    · rename_i same
      rw [same]
      decide
    · have number := Json.below?_ofNat value.isLt
      unfold PlainText.read
      rw [if_neg (PlainText.toDigits_ne _ ⟨'.', by decide, rfl⟩),
        if_neg (PlainText.toDigits_ne _ ⟨'e', by decide, rfl⟩)]
      rw [Json.ofNat] at number
      rw [number]
      simp

inductive LlmError where
  | notAuthenticated
  | subprocessDied (code : Option Int)
  | refused (agentId message : String)
  | timeout (agentId : String) (elapsedMs : Nat)
  | rateLimited (retryAfterMs : Nat)
  | malformedResponse (agentId raw : String)
  | disconnected
  deriving DecidableEq

structure ToolCall where
  name : String
  argumentsJson : String
  deriving DecidableEq

structure BackendRequest where
  agentId : String
  prompt : String
  tools : List String

structure BackendResponse where
  raw : String := ""
  toolCalls : List ToolCall := []

namespace Names

def noOp : String := "no_op"
def setSpeed : String := "set_speed"
def placePiece : String := "place_piece"
def connectPieces : String := "connect_pieces"
def removePiece : String := "remove_piece"
def defineResource : String := "define_resource"
def addProducer : String := "add_producer"
def addConsumer : String := "add_consumer"
def setGoal : String := "set_goal"

end Names

/-- The tools the bridge offers, by name; their schemas are text for the model only. -/
def actionToolSpecs : List String :=
  [Names.noOp, Names.setSpeed, Names.placePiece, Names.connectPieces, Names.removePiece,
    Names.defineResource, Names.addProducer, Names.addConsumer, Names.setGoal]

def u8Bound : Nat := 2 ^ 8
def u32Bound : Nat := 2 ^ 32
def u64Bound : Nat := 2 ^ 64

section Parse

variable (text : F32Text) (call : ToolCall)

/-- The named arguments, all of them given. -/
def ToolCall.arguments (names : List String) : Option (List Json) := do
  let value ← Json.parse call.argumentsJson.toList
  let fields ← value.fields names
  fields.mapM id

def setSpeedArguments : Option Action := do
  let [mover, speed] ← call.arguments ["mover", "speed"] | none
  let mover ← mover.below? u32Bound
  let speed ← text.fromJson speed
  return .setSpeed mover speed

def placePieceArguments : Option Action := do
  let [kind, pos] ← call.arguments ["piece_kind", "pos"] | none
  let kind ← kind.text?
  let pos ← text.pairFromJson pos
  return .placePiece kind pos

def connectPiecesArguments : Option Action := do
  let [source, target] ← call.arguments ["from", "to"] | none
  let source ← source.below? u32Bound
  let target ← target.below? u32Bound
  return .connectPieces source target

def removePieceArguments : Option Action := do
  let [id] ← call.arguments ["id"] | none
  let id ← id.below? u32Bound
  return .removePiece id

def defineResourceArguments : Option Action := do
  let [name, color] ← call.arguments ["name", "color"] | none
  let name ← name.text?
  let color ← color.below? u8Bound
  return .defineResource name color

/-- The arguments producers and consumers share. -/
def flowArguments (action : String → Nat → Nat → Action) : Option Action := do
  let [resource, amount, interval] ← call.arguments ["resource", "amount", "interval_ticks"] | none
  let resource ← resource.text?
  let amount ← amount.below? u64Bound
  let interval ← interval.below? u32Bound
  return action resource amount interval

def setGoalArguments : Option Action := do
  let [goal] ← call.arguments ["goal"] | none
  let goal ← goal.text?
  return .setGoal goal

/-- The action of a tool call, if the tool is known and its arguments fit. -/
def ToolCall.action? : Option Action :=
  if call.name = Names.noOp then some .noOp
  else if call.name = Names.setSpeed then setSpeedArguments text call
  else if call.name = Names.placePiece then placePieceArguments text call
  else if call.name = Names.connectPieces then connectPiecesArguments call
  else if call.name = Names.removePiece then removePieceArguments call
  else if call.name = Names.defineResource then defineResourceArguments call
  else if call.name = Names.addProducer then flowArguments call .addProducer
  else if call.name = Names.addConsumer then flowArguments call .addConsumer
  else if call.name = Names.setGoal then setGoalArguments call
  else none

def parseToolCall (agentId : String) : Except LlmError Action :=
  match call.action? text with
  | some action => .ok action
  | none => .error (.malformedResponse agentId call.argumentsJson)

end Parse

end Simetro.Bridge
