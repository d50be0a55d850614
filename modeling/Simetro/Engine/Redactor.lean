import Simetro.Library.Covering

/-! The redactor of secrets: ten patterns, one after the other, each match replaced by a marker. -/

namespace Simetro.Engine

open Simetro.Library

inductive PatternName where
  | anthropicApiKey
  | openaiApiKey
  | githubFineGrainedPat
  | githubModernToken
  | githubLegacyOauth
  | awsAccessKey
  | googleApiKey
  | azureOpenaiKey
  | jwt
  | pemPrivateKey
  deriving DecidableEq

def PatternName.asStr : PatternName → String
  | .anthropicApiKey => "anthropic_api_key"
  | .openaiApiKey => "openai_api_key"
  | .githubFineGrainedPat => "github_fine_grained_pat"
  | .githubModernToken => "github_modern_token"
  | .githubLegacyOauth => "github_legacy_oauth"
  | .awsAccessKey => "aws_access_key"
  | .googleApiKey => "google_api_key"
  | .azureOpenaiKey => "azure_openai_key"
  | .jwt => "jwt"
  | .pemPrivateKey => "pem_private_key"

structure RedactionResult where
  redacted : String
  redactionCount : Nat
  deriving DecidableEq

namespace Redactor

def markerFor (name : PatternName) : String := s!"<redacted: {name.asStr}>"

section Patterns

def text (literal : String) : Pattern := .letters literal.toList

/-- `[a-f0-9]` -/
def isHex (letter : Char) : Bool := ('a' ≤ letter && letter ≤ 'f') || letter.isDigit

/-- `[A-Za-z0-9_-]` -/
def isUrlSafe (letter : Char) : Bool := letter.isAlphanum || letter == '_' || letter == '-'

/-- `[A-Za-z0-9_-]+` -/
def segment : Pattern := .many isUrlSafe 1 none false

def anthropicApiKey : Pattern :=
  .seq (text "sk-ant-") (.many (fun letter => letter.isAlphanum || letter == '-') 32 none false)

def openaiApiKey : Pattern := .seq (text "sk-") (.many Char.isAlphanum 20 none false)

def githubFineGrainedPat : Pattern :=
  .seq (text "github_pat_") (.many (fun letter => letter.isAlphanum || letter == '_') 82 (some 82) false)

def githubModernToken : Pattern :=
  .seq (.alt (text "ghs") (.alt (text "ghu") (.alt (text "ghr") (text "ghp"))))
    (.seq (text "_") (.many Char.isAlphanum 36 none false))

def githubLegacyOauth : Pattern := .seq (text "gho_") (.many Char.isAlphanum 36 (some 36) false)

def awsAccessKey : Pattern :=
  .seq (.alt (text "AKIA") (text "ASIA"))
    (.many (fun letter => letter.isUpper || letter.isDigit) 16 (some 16) false)

def googleApiKey : Pattern := .seq (text "AIza") (.many isUrlSafe 35 (some 35) false)

def azureKey : Pattern := .many isHex 32 (some 32) false

/-- Up to 200 characters of one line. -/
def azureGap : Pattern := .many (· ≠ '\n') 0 (some 200) false

def azureDomain : Pattern := .alt (text ".openai.azure.com") (text ".cognitiveservices.azure.com")

def azureOpenaiKey : Pattern := .seq azureKey (.seq azureGap azureDomain)

def jwt : Pattern :=
  .seq (text "eyJ") (.seq segment (.seq (text ".eyJ") (.seq segment (.seq (text ".") segment))))

/-- `-----BEGIN [A-Z ]*PRIVATE KEY-----` with its word for the side of the block. -/
def pemBoundary (side : String) : Pattern :=
  .seq (text s!"-----{side} ")
    (.seq (.many (fun letter => letter.isUpper || letter == ' ') 0 none false) (text "PRIVATE KEY-----"))

/-- `[\s\S]*?` -/
def anything : Pattern := .many (fun _ => true) 0 none true

def pemPrivateKey : Pattern := .seq (pemBoundary "BEGIN") (.seq anything (pemBoundary "END"))

end Patterns

/-- The patterns in the order they are searched for, more specific ones first. -/
def patternDefinitions : List (PatternName × Needle) := [
  (.anthropicApiKey, ⟨anthropicApiKey, by decide +kernel⟩),
  (.openaiApiKey, ⟨openaiApiKey, by decide +kernel⟩),
  (.githubFineGrainedPat, ⟨githubFineGrainedPat, by decide +kernel⟩),
  (.githubModernToken, ⟨githubModernToken, by decide +kernel⟩),
  (.githubLegacyOauth, ⟨githubLegacyOauth, by decide +kernel⟩),
  (.awsAccessKey, ⟨awsAccessKey, by decide +kernel⟩),
  (.googleApiKey, ⟨googleApiKey, by decide +kernel⟩),
  (.azureOpenaiKey, ⟨azureOpenaiKey, by decide +kernel⟩),
  (.jwt, ⟨jwt, by decide +kernel⟩),
  (.pemPrivateKey, ⟨pemPrivateKey, by decide +kernel⟩)]

def patternNames : List PatternName := patternDefinitions.map (·.1)

/-- One pattern: its matches are counted, then replaced. -/
def redactPattern (current : List Char × Nat) (definition : PatternName × Needle) : List Char × Nat :=
  let localCount := definition.2.countMatches current.1
  if localCount = 0 then current
  else (definition.2.replaceAll (markerFor definition.1).toList current.1, current.2 + localCount)

def redactSecrets (input : String) : RedactionResult :=
  let swept := patternDefinitions.foldl redactPattern (input.toList, 0)
  { redacted := String.ofList swept.1, redactionCount := swept.2 }

def redactString (input : String) : String := (redactSecrets input).redacted

end Redactor

end Simetro.Engine
