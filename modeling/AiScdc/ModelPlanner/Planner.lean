import AiScdc.Effects.Traced
import AiScdc.ModelPlanner.Drafts

namespace AiScdc.ModelPlanner

open ModelSettings (ActiveFor AgentRole ModelRoute)

inductive ModelProviderType where
  | fake | openaiCompatible | deepseek
  deriving DecidableEq, Repr

inductive ModelProviderStatus where
  | active | disabled
  deriving DecidableEq, Repr

inductive ModelCredentialStatus where
  | active | deleted
  deriving DecidableEq, Repr

structure ModelProvider where
  workspaceId : Id
  name : String
  providerType : ModelProviderType
  baseUrl : Option String
  status : ModelProviderStatus

structure ModelCredential where
  workspaceId : Id
  encryptedSecret : String
  status : ModelCredentialStatus

-- The rows as the session reads them; `order` is the order in which a query gives the routes.
structure Rows where
  order : List Id
  routes : Id → Option ModelRoute
  providers : Id → Option ModelProvider
  credentials : Id → Option ModelCredential
  workspaceId : Id
  authenticatedWorkspace : Option Id

structure ResolvedModelRouteRead where
  agentRole : AgentRole
  providerName : String
  providerType : ModelProviderType
  modelName : String
  fallbackModels : List String
  credentialRequired : Bool
  credentialAvailable : Bool
  isAvailable : Bool
  resolutionSource : String
  routeId : Option Id

structure PlannerExecutionResult where
  taskSpecs : List TaskSpecDraft
  plannerKind : String
  modelRouteId : Option Id := none
  modelProviderName : Option String := none
  modelName : Option String := none
  fallbackReason : Option String := none

structure ChatMessage where
  role : String
  content : String
  deriving DecidableEq, Repr

structure ChatProviderRequest where
  modelName : String
  messages : List ChatMessage
  deriving DecidableEq, Repr

structure ProviderResponse where
  providerName : String
  modelName : String
  content : String
  promptTokens : ℤ
  completionTokens : ℤ

structure RawUsage where
  source : String
  routeId : Id
  deriving DecidableEq, Repr

structure UsageLedgerCreate where
  projectId : Id
  plannerRunId : Id
  providerName : NonEmptyString
  modelName : NonEmptyString
  promptTokens : ℕ
  completionTokens : ℕ
  rawUsageJson : RawUsage

section routes

def activeRouteForRole (rows : Rows) (agentRole : AgentRole) : Option (Id × ModelRoute) :=
  rows.order.findSome? fun id =>
    (rows.routes id).bind fun route =>
      if ActiveFor rows.workspaceId agentRole route then some (id,route) else none

-- The 404 answer is none.
def getModelProvider (rows : Rows) (providerId : Id) : Option ModelProvider :=
  (rows.providers providerId).filter fun provider =>
    rows.authenticatedWorkspace.all fun workspaceId => provider.workspaceId = workspaceId

def activeCredential (rows : Rows) (credentialId : Option Id) : Option (Id × ModelCredential) :=
  credentialId.bind fun id =>
    (rows.credentials id).bind fun credential =>
      if credential.status = .active then some (id,credential) else none

def resolveModelRoute (rows : Rows) (agentRole : AgentRole) : Option ResolvedModelRouteRead :=
  match activeRouteForRole rows agentRole with
  | none => some ⟨agentRole,"fake",.fake,"fake-" ++ agentRoleValue agentRole,[],false,false,true,"fallback_fake",none⟩
  | some (routeId,route) =>
    (getModelProvider rows route.providerId).map fun provider =>
      let credentialRequired := provider.providerType ≠ .fake
      let credentialAvailable := (activeCredential rows route.credentialId).isSome
      ⟨agentRole,provider.name,provider.providerType,route.modelName,route.fallbackModels,credentialRequired,
        credentialAvailable,provider.status = .active && (!credentialRequired || credentialAvailable),"configured",
        some routeId⟩

end routes

section calls

-- What a call outside gives: an answer, the exception that the planner catches, or another one.
inductive Reply (α : Type) where
  | done (answer : α)
  | caught
  | raised

inductive PlannerEvent where
  | secretOpened (credentialId : Id) (encryptedSecret : String) (reply : Reply String)
  | adapterBuilt (providerName baseUrl apiKey : String) (reply : Reply Unit)
  | chatRequested (request : ChatProviderRequest) (reply : Reply ProviderResponse)
  | adapterClosed
  | usageAppended (entry : UsageLedgerCreate) (stored : Bool)

structure Outside where
  vault : List PlannerEvent → Reply String
  adapterFactory : List PlannerEvent → Reply Unit
  provider : List PlannerEvent → Reply ProviderResponse
  ledger : List PlannerEvent → Bool
  loads : String → Loaded

abbrev Planning := Traced PlannerEvent

def call {α : Type} (reply : List PlannerEvent → Reply α) (event : Reply α → PlannerEvent) : Planning (Option α) :=
  Traced.act fun history =>
    (match reply history with
      | .done answer => some (some answer)
      | .caught => some none
      | .raised => none,event (reply history))

def buildPlannerMessages (goal projectName : String) : List ChatMessage :=
  [⟨"system","You are the planner for AI Software Company Desktop Console. " ++
      "Return JSON only: an array of task draft objects. Each object " ++
      "must include title, role_required, objective, acceptance_criteria, " ++
      "allowed_paths, required_tests, and risk_level. role_required must " ++
      "be one of " ++ ", ".intercalate (agentRoles.map agentRoleValue) ++ ". risk_level must be one of " ++
      ", ".intercalate (riskLevels.map riskLevelValue) ++ ". " ++
      "acceptance_criteria, allowed_paths, and required_tests must be " ++
      "JSON arrays of strings, never a single string. Use repository " ++
      "path globs such as README.md or apps/api/** for allowed_paths. " ++
      "Do not include Markdown or explanatory text."⟩,
   ⟨"user","Project: " ++ projectName ++ "\n" ++ "Goal: " ++ goal ++ "\n" ++
      "Create 2 to 5 implementation task drafts for human approval."⟩]

def fakeResult (fallbackReason : Option String) : PlannerExecutionResult where
  taskSpecs := []
  plannerKind := if fallbackReason = none then "fake" else "model_fallback_fake"
  fallbackReason := fallbackReason

def unavailableReason (resolved : ResolvedModelRouteRead) : String :=
  if resolved.providerType ≠ .fake ∧ resolved.credentialAvailable = false then "credential_unavailable"
  else "provider_unavailable"

structure PlannerRequest where
  projectId : Id
  projectName : String
  goal : String
  plannerRunId : Id

-- The adapter is closed however the request ends; an exception of close() is dropped.
def completeChat (outside : Outside) (provider : ModelProvider) (apiKey : String) (request : ChatProviderRequest) :
    Planning (Option ProviderResponse) := do
  match ← call outside.adapterFactory (.adapterBuilt provider.name (provider.baseUrl.getD "") apiKey) with
  | none => pure none
  | some () =>
    Traced.closedBy (call outside.provider (.chatRequested request)) fun _ => (true,.adapterClosed)

-- An entry that its schema refuses is none.
def usageEntry (request : PlannerRequest) (routeId : Id) (response : ProviderResponse) : Option UsageLedgerCreate :=
  if h : response.providerName ≠ "" ∧ response.modelName ≠ "" ∧ 0 ≤ response.promptTokens ∧
      0 ≤ response.completionTokens then
    some ⟨request.projectId,request.plannerRunId,⟨response.providerName,h.1⟩,⟨response.modelName,h.2.1⟩,
      response.promptTokens.toNat,response.completionTokens.toNat,⟨"model_planner",routeId⟩⟩
  else none

-- A refused entry never reaches the ledger; its failures are logged and dropped like those of the ledger.
def appendUsage (outside : Outside) (request : PlannerRequest) (routeId : Id) (response : ProviderResponse) :
    Planning Unit :=
  match usageEntry request routeId response with
  | none => pure ()
  | some entry => Traced.act fun history => (some (),.usageAppended entry (outside.ledger history))

def usePlannerOutput (outside : Outside) (request : PlannerRequest) (routeId : Id) (route : ModelRoute)
    (provider : ModelProvider) (response : ProviderResponse) : Planning PlannerExecutionResult :=
  match parseTaskSpecDrafts outside.loads response.content with
  | .error (.modelPlannerError _) => pure (fakeResult (some "invalid_model_output"))
  | .error .raised => Traced.raise
  | .ok specs => do
    appendUsage outside request routeId response
    pure ⟨specs,"model",some routeId,some provider.name,some route.modelName,none⟩

def askModel (outside : Outside) (request : PlannerRequest) (routeId : Id) (route : ModelRoute)
    (provider : ModelProvider) (credentialId : Id) (credential : ModelCredential) : Planning PlannerExecutionResult := do
  match ← call outside.vault (.secretOpened credentialId credential.encryptedSecret) with
  | none => pure (fakeResult (some "credential_unavailable"))
  | some secret =>
    match ← completeChat outside provider secret
        ⟨route.modelName,buildPlannerMessages request.goal request.projectName⟩ with
    | none => pure (fakeResult (some "provider_request_failed"))
    | some response => usePlannerOutput outside request routeId route provider response

def createModelPlannerResult (rows : Rows) (outside : Outside) (request : PlannerRequest) :
    Planning PlannerExecutionResult :=
  match resolveModelRoute rows .planner with
  | none => Traced.raise
  | some resolved =>
    if resolved.resolutionSource = "fallback_fake" then pure (fakeResult (some "no_configured_route"))
    else if resolved.providerType = .fake then pure (fakeResult none)
    else match resolved.routeId.filter fun _ => resolved.isAvailable with
      | none => pure (fakeResult (some (unavailableReason resolved)))
      | some routeId =>
        match rows.routes routeId with
        | none => pure (fakeResult (some "no_configured_route"))
        | some route =>
          match (rows.providers route.providerId).filter fun provider => provider.status = .active with
          | none => pure (fakeResult (some "provider_unavailable"))
          | some provider =>
            match activeCredential rows route.credentialId with
            | none => pure (fakeResult (some "credential_unavailable"))
            | some (credentialId,credential) =>
              askModel outside request routeId route provider credentialId credential

end calls

section fakes

theorem labelled_ne {label : String} (h : label ≠ "") (text : String) : label ++ text ≠ "" := by
  simp [String.append_eq_empty_iff,h]

def labelled (label text : String) (h : label ≠ "") : NonEmptyString := ⟨label ++ text,labelled_ne h text⟩

-- " ".join(goal.split())
def normalizedGoal (goal : String) : String :=
  " ".intercalate (((goal.toList.splitOnP isSpace).filter fun word => word ≠ []).map String.ofList)

namespace FakePlanner

def plan (goal : String) : List TaskSpecDraft :=
  [{ title := labelled "Design desktop flow for " (normalizedGoal goal) (by decide)
     roleRequired := .frontend
     objective := labelled "Create the user-facing planner approval flow for " (normalizedGoal goal ++ ".") (by decide)
     acceptanceCriteria :=
       ⟨[⟨"Generated task drafts are visible in the main thread.",by decide⟩,
         ⟨"The user can approve or reject the generated draft batch.",by decide⟩],List.cons_ne_nil _ _⟩
     allowedPaths := ⟨[⟨"apps/desktop/**",by decide⟩],List.cons_ne_nil _ _⟩
     requiredTests :=
       [⟨"App renders planner draft preview",by decide⟩,
        ⟨"App approval adds created tasks to the task board",by decide⟩]
     riskLevel := .medium },
   { title := labelled "Implement planner API for " (normalizedGoal goal) (by decide)
     roleRequired := .backend
     objective :=
       labelled "Persist planner runs, task drafts, and approval decisions for " (normalizedGoal goal ++ ".") (by decide)
     acceptanceCriteria :=
       ⟨[⟨"Planner run creation stores ordered drafts.",by decide⟩,
         ⟨"Approving a run creates normal tasks and task_created events.",by decide⟩],List.cons_ne_nil _ _⟩
     allowedPaths := ⟨[⟨"apps/api/**",by decide⟩],List.cons_ne_nil _ _⟩
     requiredTests :=
       [⟨"Planner run endpoint creates drafts",by decide⟩,⟨"Planner approval endpoint creates tasks",by decide⟩]
     riskLevel := .medium }]

end FakePlanner

def createDefaultPlannerResult (rows : Rows) (outside : Outside) (request : PlannerRequest) :
    Planning PlannerExecutionResult := do
  let result ← createModelPlannerResult rows outside request
  if result.taskSpecs ≠ [] then pure result
  else pure { result with taskSpecs := FakePlanner.plan request.goal }

end fakes

end AiScdc.ModelPlanner
