import Simetro.Bridge.Dispatch
import Simetro.Engine.AgentHost

/-! How long the rationale of a reply gets. -/

namespace Simetro.Bridge

open Simetro.Agent Simetro.Engine Simetro.Library Simetro.Protocol

/-- The derived debug text of the payloads the bridge makes. How a string is quoted is a parameter,
and so is the text of all other payloads. -/
def DebugText.derived (quote : String → String) (others : DebugText) : DebugText where
  warning
    | .invalidAction agentId reason =>
        "InvalidAction \x7b agent_id: " ++ quote agentId ++ ", reason: " ++ quote reason ++ " \x7d"
    | .behind lagFrames (some agentId) =>
        "Behind \x7b lag_frames: " ++ toString lagFrames ++ ", agent_id: Some(" ++ quote agentId ++ ") \x7d"
    | .behind lagFrames none =>
        "Behind \x7b lag_frames: " ++ toString lagFrames ++ ", agent_id: None \x7d"
    | payload => others.warning payload
  fault
    | .agentCrashed agentId message =>
        "AgentCrashed \x7b agent_id: " ++ quote agentId ++ ", message: " ++ quote message ++ " \x7d"
    | payload => others.fault payload
  message := others.message

/-- The characters of the notice of an error. -/
def noticeLength (quote : String → String) (fallbackAgentId : String) : LlmError → Nat
  | .notAuthenticated => 52 + (quote fallbackAgentId).length + (quote "not authenticated").length
  | .subprocessDied (some code) => 52 + (quote fallbackAgentId).length +
      (quote ("subprocess died (code: " ++ toString code ++ ")")).length
  | .subprocessDied none => 52 + (quote fallbackAgentId).length +
      (quote "subprocess died (no exit code)").length
  | .disconnected => 52 + (quote fallbackAgentId).length + (quote "ACP stdio disconnected").length
  | .refused agentId message => 54 + (quote agentId).length + (quote ("refused: " ++ message)).length
  | .timeout agentId _ => 58 + (quote agentId).length
  | .rateLimited _ => 58 + (quote fallbackAgentId).length
  | .malformedResponse agentId _ => 54 + (quote agentId).length + (quote "malformed response").length

/-- A result with nothing to announce, or with an error whose notice stays within the cap. -/
def Announceable (text : F32Text) (quote : String → String) (agentId : String) :
    Except LlmError BackendResponse → Prop
  | .error error => noticeLength quote agentId error ≤ AgentHost.maxRationaleChars
  | .ok response =>
      match response.toolCalls with
      | [] => True
      | call :: _ => (call.action? text).isNone →
          noticeLength quote agentId (.malformedResponse agentId "") ≤ AgentHost.maxRationaleChars

/-- A reply as its type documents it. -/
structure WellFormedReply (request : AgentRequest) (reply : AgentReply) : Prop where
  id : reply.id = request.id
  chosen : reply.chosen.isSome = true
  rationale : reply.rationale.length ≤ AgentHost.maxRationaleChars

section Lengths

variable {quote : String → String} {others : DebugText} {request : AgentRequest}

theorem warningRationale_fault (debug : DebugText) (payload : FaultPayload) :
    warningRationale debug (.fault payload) = "bridge fault: " ++ debug.fault payload := rfl

theorem warningRationale_warning (debug : DebugText) (payload : WarningPayload) :
    warningRationale debug (.warning payload) = "bridge warning: " ++ debug.warning payload := rfl

theorem crashed_length (agentId message : String) :
    (warningRationale (.derived quote others) (.fault (.agentCrashed agentId message))).length =
      52 + (quote agentId).length + (quote message).length := by
  have head : "bridge fault: ".length + "AgentCrashed \x7b agent_id: ".length = 39 := by decide
  have middle : ", message: ".length = 11 := by decide
  have last : " \x7d".length = 2 := by decide
  simp only [warningRationale_fault, DebugText.derived, String.length_append]
  omega

theorem invalid_length (agentId reason : String) :
    (warningRationale (.derived quote others) (.warning (.invalidAction agentId reason))).length =
      54 + (quote agentId).length + (quote reason).length := by
  have head : "bridge warning: ".length + "InvalidAction \x7b agent_id: ".length = 42 := by decide
  have middle : ", reason: ".length = 10 := by decide
  have last : " \x7d".length = 2 := by decide
  simp only [warningRationale_warning, DebugText.derived, String.length_append]
  omega

theorem behind_length (agentId : String) :
    (warningRationale (.derived quote others) (.warning (.behind (max 1 1) (some agentId)))).length =
      58 + (quote agentId).length := by
  have head : "bridge warning: ".length + "Behind \x7b lag_frames: ".length = 37 := by decide
  have lag : (toString (max 1 1)).length = 1 := by decide
  have middle : ", agent_id: Some(".length = 17 := by decide
  have last : ") \x7d".length = 3 := by decide
  simp only [warningRationale_warning, DebugText.derived, String.length_append]
  omega

theorem notice_length (agentId : String) (error : LlmError) :
    (warningRationale (.derived quote others) (llmErrorToMessage agentId 1 error)).length =
      noticeLength quote agentId error := by
  cases error with
  | notAuthenticated => exact crashed_length _ _
  | subprocessDied code => cases code <;> exact crashed_length _ _
  | disconnected => exact crashed_length _ _
  | refused errorAgent message => exact invalid_length _ _
  | timeout errorAgent elapsedMs => exact behind_length _
  | rateLimited retryAfterMs => exact behind_length _
  | malformedResponse errorAgent raw => exact invalid_length _ _

theorem announce_wellFormed (error : LlmError) :
    WellFormedReply request (announce (.derived quote others) request error) ↔
      noticeLength quote request.id.agentId error ≤ AgentHost.maxRationaleChars := by
  rw [← @notice_length quote others]
  exact ⟨fun reply => reply.rationale, fun short => ⟨rfl, rfl, short⟩⟩

theorem acted_wellFormed (raw : String) (action : Action) :
    WellFormedReply request (acted request raw action) := by
  refine ⟨rfl, rfl, ?_⟩
  change (String.ofList (raw.toList.take 512)).length ≤ 512
  rw [String.length_ofList]
  exact List.length_take_le _ _

end Lengths

/-- A reply is what its type says, its rationale within the cap, exactly when there is no error to
announce or the notice of that error is short enough. -/
theorem reply_wellFormed_iff (text : F32Text) (quote : String → String) (others : DebugText)
    (backend : Backend) (request : AgentRequest) :
    WellFormedReply request (dispatch text (.derived quote others) backend request) ↔
      Announceable text quote request.id.agentId
        (backend ⟨request.id.agentId, request.observationJson, actionToolSpecs⟩) := by
  unfold dispatch Announceable
  simp only
  cases backend ⟨request.id.agentId, request.observationJson, actionToolSpecs⟩ with
  | error error => exact announce_wellFormed error
  | ok response =>
    simp only
    cases response.toolCalls with
    | nil => exact iff_of_true (acted_wellFormed _ _) trivial
    | cons call later =>
      simp only [parseToolCall]
      cases call.action? text with
      | some action => exact iff_of_true (acted_wellFormed _ _) fun absent => absurd absent Bool.false_ne_true
      | none => exact (announce_wellFormed _).trans ⟨fun short _ => short, fun short => short rfl⟩

/-- How a plain text is quoted. -/
def plainQuote (value : String) : String := "\"" ++ value ++ "\""

/-- A backend that refuses at length. -/
def verbose : Backend := fun _ => .error (.refused "pilot" (String.ofList (List.replicate 500 'a')))

/-- The notice of a long refusal is not cut. -/
theorem refusal_overlong :
    ¬ WellFormedReply probe (dispatch plainText (.derived plainQuote plainDebug) verbose probe) := by
  have failed : verbose ⟨probe.id.agentId, probe.observationJson, actionToolSpecs⟩ =
      .error (.refused "pilot" (String.ofList (List.replicate 500 'a'))) := rfl
  unfold dispatch
  simp only [failed]
  rw [announce_wellFormed, noticeLength, Nat.not_le]
  simp only [plainQuote, String.length_append, String.length_ofList, List.length_replicate]
  exact Nat.lt_of_lt_of_le (by decide : 512 < 54 + 500) (by omega)

end Simetro.Bridge
