import Mathlib.Data.List.Infix
import Simetro.Agent.Lifecycle
import Simetro.Bridge.ToolCalls

/-! The two ways from a backend's result to a decision: the library's `decide`, which
returns an error, and the stdio loop's `dispatch`, which must announce one. -/

namespace Simetro.Bridge

open Simetro.Agent Simetro.Library Simetro.Protocol

abbrev Backend := BackendRequest → Except LlmError BackendResponse

/-- The derived debug text of a payload. -/
structure DebugText where
  warning : WarningPayload → String
  fault : FaultPayload → String
  message : SimMessage → String

/-- A letter outside ASCII lowers to none of the cues' letters, except the dotted capital I,
whose dot stays behind it; so lowering the ASCII letters is enough. -/
def looksLikeRefusal (text : String) : Bool :=
  let lower := text.toList.map Char.toLower
  ["refuse", "can't help", "won't help", "cannot help", "i'm sorry"].any fun cue =>
    decide (cue.toList <:+: lower)

section Decide

variable (text : F32Text)

/-- The action of the first tool call. -/
def firstAction (response : BackendResponse) (agentId : String) : Except LlmError Action :=
  match response.toolCalls with
  | [] =>
      if looksLikeRefusal response.raw then .error (.refused agentId response.raw)
      else .error (.malformedResponse agentId response.raw)
  | call :: _ => parseToolCall text call agentId

protected def decide (backend : Backend) (agentId prompt : String) : Except LlmError Action :=
  match backend { agentId, prompt, tools := actionToolSpecs } with
  | .error error => .error error
  | .ok response => firstAction text response agentId

end Decide

/-- Every backend failure becomes a fault or a warning. -/
def llmErrorToMessage (fallbackAgentId : String) (lagFrames : Nat) : LlmError → SimMessage
  | .notAuthenticated => .fault (.agentCrashed fallbackAgentId "not authenticated")
  | .subprocessDied code => .fault (.agentCrashed fallbackAgentId
      (match code with
        | some code => "subprocess died (code: " ++ toString code ++ ")"
        | none => "subprocess died (no exit code)"))
  | .disconnected => .fault (.agentCrashed fallbackAgentId "ACP stdio disconnected")
  | .refused agentId message => .warning (.invalidAction agentId ("refused: " ++ message))
  | .timeout agentId _ => .warning (.behind (max lagFrames 1) (some agentId))
  | .rateLimited _ => .warning (.behind (max lagFrames 1) (some fallbackAgentId))
  | .malformedResponse agentId _ => .warning (.invalidAction agentId "malformed response")

def warningRationale (debug : DebugText) : SimMessage → String
  | .warning payload => "bridge warning: " ++ debug.warning payload
  | .fault payload => "bridge fault: " ++ debug.fault payload
  | other => "bridge: " ++ debug.message other

def truncate (text : String) (maxChars : Nat) : String := String.ofList (text.toList.take maxChars)

/-- `1.0`. -/
def fullConfidence : F32Bits := 0x3f800000#32

section Dispatch

variable (text : F32Text) (debug : DebugText)

/-- The reply that announces an error. -/
def announce (request : AgentRequest) (error : LlmError) : AgentReply where
  id := request.id
  chosen := some .noOp
  rationale := warningRationale debug (llmErrorToMessage request.id.agentId 1 error)
  confidence := fullConfidence

def acted (request : AgentRequest) (raw : String) (action : Action) : AgentReply where
  id := request.id
  chosen := some action
  rationale := truncate raw 512
  confidence := fullConfidence

def dispatch (backend : Backend) (request : AgentRequest) : AgentReply :=
  let backendRequest : BackendRequest := {
    agentId := request.id.agentId
    prompt := request.observationJson
    tools := actionToolSpecs }
  match backend backendRequest with
  | .error error => announce debug request error
  | .ok response =>
      match response.toolCalls with
      | [] => acted request response.raw .noOp
      | call :: _ =>
          match parseToolCall text call request.id.agentId with
          | .ok action => acted request response.raw action
          | .error error => announce debug request error

end Dispatch

/-- The rationale is a bridge warning or fault. -/
def IsNotice (rationale : String) : Prop :=
  "bridge warning: ".toList <+: rationale.toList ∨ "bridge fault: ".toList <+: rationale.toList

instance (rationale : String) : Decidable (IsNotice rationale) :=
  inferInstanceAs (Decidable (_ ∨ _))

/-- The reply announces an error exactly when `decide` returns one, and otherwise both
choose the same action. -/
def PathsAgree (text : F32Text) (debug : DebugText) (backend : Backend) (request : AgentRequest) :
    Prop :=
  let reply := dispatch text debug backend request
  let decided := Bridge.decide text backend request.id.agentId request.observationJson
  (IsNotice reply.rationale ↔ ∃ error, decided = .error error) ∧
    ∀ action, decided = .ok action → reply.chosen = some action

/-- The raw text of a result reads as a notice exactly when there is an error to announce. -/
def Candid (text : F32Text) : Except LlmError BackendResponse → Prop
  | .error _ => True
  | .ok response =>
      match response.toolCalls with
      | [] => IsNotice response.raw
      | call :: _ => (call.action? text).isSome → ¬ IsNotice response.raw

theorem llmErrorToMessage_isNotice (debug : DebugText) (agentId : String) (lagFrames : Nat)
    (error : LlmError) :
    IsNotice (warningRationale debug (llmErrorToMessage agentId lagFrames error)) := by
  have warning (payload : WarningPayload) : IsNotice (warningRationale debug (.warning payload)) :=
    .inl ⟨_, String.toList_append.symm⟩
  have fault (payload : FaultPayload) : IsNotice (warningRationale debug (.fault payload)) :=
    .inr ⟨_, String.toList_append.symm⟩
  cases error with
  | notAuthenticated | subprocessDied | disconnected => exact fault _
  | refused | timeout | rateLimited | malformedResponse => exact warning _

/-- The cap on a rationale is longer than any notice's head. -/
theorem truncate_isNotice (raw : String) : IsNotice (truncate raw 512) ↔ IsNotice raw := by
  have kept (head : List Char) (short : head.length ≤ 512) :
      head <+: (truncate raw 512).toList ↔ head <+: raw.toList := by
    rw [truncate, String.toList_ofList, List.prefix_take_iff]
    exact and_iff_left short
  exact or_congr (kept _ (by decide)) (kept _ (by decide))

section Agree

variable {text : F32Text} {debug : DebugText} {request : AgentRequest} {backend : Backend}

/-- What a result makes of both paths. -/
theorem pathsAgree_of_error {error : LlmError} (failed : backend
      ⟨request.id.agentId, request.observationJson, actionToolSpecs⟩ = .error error) :
    PathsAgree text debug backend request := by
  unfold PathsAgree dispatch Bridge.decide
  simp only [failed]
  constructor
  · exact iff_of_true (llmErrorToMessage_isNotice debug _ _ error) ⟨error, rfl⟩
  · intro action chosen
    cases chosen

theorem pathsAgree_of_silence {response : BackendResponse} (answered : backend
      ⟨request.id.agentId, request.observationJson, actionToolSpecs⟩ = .ok response)
    (silent : response.toolCalls = []) :
    PathsAgree text debug backend request ↔ IsNotice response.raw := by
  have refused : ∃ error, firstAction text response request.id.agentId = .error error := by
    unfold firstAction
    rw [silent]
    simp only
    split
    · exact ⟨_, rfl⟩
    · exact ⟨_, rfl⟩
  unfold PathsAgree dispatch Bridge.decide
  simp only [answered, silent, acted, truncate_isNotice]
  constructor
  · intro agree
    exact agree.1.mpr refused
  · intro notice
    refine ⟨iff_of_true notice refused, fun action chosen => ?_⟩
    obtain ⟨error, failed⟩ := refused
    rw [failed] at chosen
    cases chosen

theorem pathsAgree_of_call {response : BackendResponse} {call : ToolCall} {later : List ToolCall}
    (answered : backend
      ⟨request.id.agentId, request.observationJson, actionToolSpecs⟩ = .ok response)
    (called : response.toolCalls = call :: later) :
    PathsAgree text debug backend request ↔
      ((call.action? text).isSome → ¬ IsNotice response.raw) := by
  unfold PathsAgree dispatch Bridge.decide
  simp only [answered, called, firstAction, parseToolCall]
  cases parsed : call.action? text with
  | none =>
    simp only [Option.isSome_none, Bool.false_eq_true, false_implies, iff_true]
    refine ⟨iff_of_true (llmErrorToMessage_isNotice debug _ _ _) ⟨_, rfl⟩, fun action chosen => ?_⟩
    cases chosen
  | some action =>
    simp only [acted, truncate_isNotice, Option.isSome_some, true_implies]
    constructor
    · intro agree notice
      obtain ⟨error, failed⟩ := agree.1.mp notice
      cases failed
    · intro plain
      constructor
      · refine iff_of_false plain ?_
        rintro ⟨error, failed⟩
        cases failed
      · intro other chosen
        cases chosen
        rfl

end Agree

/-- The two paths agree exactly on the results that are candid: a result without tool calls
is an error to one and a decision to the other, so that only its raw text can announce it,
and with a tool call that parses the raw text must not read like a notice. -/
theorem paths_agree_iff (text : F32Text) (debug : DebugText) (backend : Backend)
    (request : AgentRequest) :
    PathsAgree text debug backend request ↔
      Candid text (backend ⟨request.id.agentId, request.observationJson, actionToolSpecs⟩) := by
  cases result : backend ⟨request.id.agentId, request.observationJson, actionToolSpecs⟩ with
  | error error => exact iff_of_true (pathsAgree_of_error result) trivial
  | ok response =>
    unfold Candid
    simp only
    cases calls : response.toolCalls with
    | nil => exact pathsAgree_of_silence result calls
    | cons call later => exact pathsAgree_of_call result calls

def plainDebug : DebugText := ⟨fun _ => "", fun _ => "", fun _ => ""⟩

def probe : AgentRequest := ⟨⟨1, "pilot", 10, 0⟩, 30, "\x7b\x7d"⟩

/-- A backend that declines in words, without a tool call. -/
def declining : Backend := fun _ => .ok { raw := "I refuse to do that." }

theorem refusal_stays_silent :
    Bridge.decide plainText declining probe.id.agentId probe.observationJson =
        .error (.refused "pilot" "I refuse to do that.") ∧
      (dispatch plainText plainDebug declining probe).chosen = some .noOp ∧
      ¬ IsNotice (dispatch plainText plainDebug declining probe).rationale ∧
      ¬ PathsAgree plainText plainDebug declining probe := by
  have cue : looksLikeRefusal "I refuse to do that." = true := by decide +kernel
  have silent : ¬ IsNotice "I refuse to do that." := by decide +kernel
  have refused : Bridge.decide plainText declining probe.id.agentId probe.observationJson =
      .error (.refused "pilot" "I refuse to do that.") := by
    simp only [Bridge.decide, declining, firstAction, cue, if_true, probe]
  refine ⟨refused, ?_, ?_, fun agree => ?_⟩
  · simp only [dispatch, declining, acted]
  · simp only [dispatch, declining, acted, truncate_isNotice]
    exact silent
  · have announced := agree.1.mpr ⟨_, refused⟩
    simp only [dispatch, declining, acted, truncate_isNotice] at announced
    exact silent announced

end Simetro.Bridge
