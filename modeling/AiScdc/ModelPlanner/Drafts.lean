import AiScdc.ModelSettings.Routes
import AiScdc.RemoteWorker.Commands
import AiScdc.Text.JsonValues

namespace AiScdc.ModelPlanner

open JsonValues (PyStr Object field plain)
open ModelSettings (AgentRole)
open RemoteWorker (strippedText)
open TextLines (splitLines)

inductive RiskLevel where
  | low | medium | high
  deriving DecidableEq, Repr

def agentRoleValue : AgentRole → String
  | .planner => "planner"
  | .frontend => "frontend"
  | .backend => "backend"
  | .reviewer => "reviewer"
  | .debugger => "debugger"
  | .security => "security"
  | .product => "product"
  | .documentation => "documentation"

def agentRoles : List AgentRole :=
  [.planner,.frontend,.backend,.reviewer,.debugger,.security,.product,.documentation]

def riskLevelValue : RiskLevel → String
  | .low => "low"
  | .medium => "medium"
  | .high => "high"

def riskLevels : List RiskLevel := [.low,.medium,.high]

abbrev NonEmptyString := { text : String // text ≠ "" }

abbrev SomeStrings := { items : List NonEmptyString // items ≠ [] }

structure TaskSpecDraft where
  title : NonEmptyString
  roleRequired : AgentRole
  objective : NonEmptyString
  acceptanceCriteria : SomeStrings
  allowedPaths : SomeStrings
  requiredTests : List NonEmptyString
  riskLevel : RiskLevel
  deriving DecidableEq

section validation

-- A text with a lone surrogate is not a string for the schema.
def nonEmptyString (value : JsonValues.Json) : Option NonEmptyString :=
  value.asText.bind fun s => if h : s.text ≠ "" ∧ s.surrogates = [] then some ⟨s.text,h.1⟩ else none

def nonEmptyStrings (value : JsonValues.Json) : Option (List NonEmptyString) :=
  value.asList.bind fun items => items.mapM nonEmptyString

def someStrings (value : JsonValues.Json) : Option SomeStrings :=
  (nonEmptyStrings value).bind fun items => if h : items ≠ [] then some ⟨items,h⟩ else none

def enumMember {α : Type} (members : List α) (text : α → String) (value : JsonValues.Json) : Option α :=
  value.asText.bind fun s => members.find? fun member => s = plain (text member)

def taskSpecFields : List String :=
  ["title","role_required","objective","acceptance_criteria","allowed_paths","required_tests","risk_level"]

def isTaskSpecField (name : PyStr) : Bool := taskSpecFields.any fun known => name = plain known

def modelValidate (item : JsonValues.Json) : Option TaskSpecDraft :=
  item.asObject.bind fun fields =>
    if fields.all fun entry => isTaskSpecField entry.1 then do
      let title ← nonEmptyString (field fields "title")
      let roleRequired ← enumMember agentRoles agentRoleValue (field fields "role_required")
      let objective ← nonEmptyString (field fields "objective")
      let acceptanceCriteria ← someStrings (field fields "acceptance_criteria")
      let allowedPaths ← someStrings (field fields "allowed_paths")
      let requiredTests ← nonEmptyStrings (field fields "required_tests")
      let riskLevel ← enumMember riskLevels riskLevelValue (field fields "risk_level")
      return ⟨title,roleRequired,objective,acceptanceCriteria,allowedPaths,requiredTests,riskLevel⟩
    else none

end validation

section fences

def fence : Text := "```".toList

def stripJsonFence (content : String) : String :=
  let lines := splitLines content
  if lines.length < 2 then content
  else
    let openingFence := strip (lines.headD "").toList
    let closingFence := strip (lines.getLastD "").toList
    if !fence.isPrefixOf openingFence || closingFence ≠ fence then content
    else
      let fenceInfo := (strip (openingFence.drop fence.length)).map Char.toLower
      if fenceInfo ≠ [] && fenceInfo ≠ "json".toList then content
      else strippedText ("\n".intercalate (lines.drop 1).dropLast)

example : stripJsonFence "``` JSON \n[1,\n2]\n```" = "[1,\n2]" := by decide +kernel

end fences

-- What json.loads gives; it raises something else than a decode error when the text nests too deeply.
inductive Loaded where
  | value (payload : JsonValues.Json)
  | decodeError
  | raised

inductive ParseFailure where
  | modelPlannerError (message : String)
  | raised
  deriving DecidableEq, Repr

def parseTaskSpecDrafts (loads : String → Loaded) (content : String) : Except ParseFailure (List TaskSpecDraft) :=
  match loads (stripJsonFence (strippedText content)) with
  | .raised => .error .raised
  | .decodeError => .error (.modelPlannerError "Model output is not valid JSON")
  | .value payload =>
    match payload.asList with
    | none => .error (.modelPlannerError "Model output must be a non-empty JSON array")
    | some items =>
      if items.isEmpty then .error (.modelPlannerError "Model output must be a non-empty JSON array")
      else match items.mapM modelValidate with
        | none => .error (.modelPlannerError "Model output does not match TaskSpec schema")
        | some specs => .ok specs

section texts

variable {value : JsonValues.Json} {text : NonEmptyString} {items : List NonEmptyString}

theorem plain_eq {s : PyStr} {t : String} : s = plain t ↔ s.text = t ∧ s.surrogates = [] := by
  cases s
  simp [plain]

theorem nonEmptyString_iff : nonEmptyString value = some text ↔ value = .str (plain text.1) := by
  obtain ⟨text,hne⟩ := text
  cases value with
  | str s =>
    simp only [nonEmptyString,JsonValues.Json.asText,Option.bind_some,JsonValues.Json.str.injEq,plain_eq]
    split
    · next h => simp [Subtype.ext_iff,h.2]
    · next h =>
      simp only [reduceCtorEq,false_iff]
      rintro ⟨rfl,hsurrogates⟩
      exact h ⟨hne,hsurrogates⟩
  | _ => simp [nonEmptyString,JsonValues.Json.asText]

end texts

end AiScdc.ModelPlanner
