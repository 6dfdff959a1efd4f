import AiScdc.ModelPlanner.Accepted
import AiScdc.ModelPlanner.Planner

namespace AiScdc.ModelPlanner

open ModelSettings (ActiveFor ModelRoute)
open Traced (Guards)

-- How far the planner is with the model: the last answer from outside, and whether the adapter is closed.
inductive Phase where
  | idle
  | unsealed (reply : Reply String)
  | built (reply : Reply Unit)
  | answered (reply : Reply ProviderResponse)
  | finished (reply : Reply ProviderResponse)
  | recorded (response : ProviderResponse) (stored : Bool)

def Phase.next : Phase → PlannerEvent → Phase
  | _,.secretOpened _ _ reply => .unsealed reply
  | _,.adapterBuilt _ _ _ reply => .built reply
  | _,.chatRequested _ reply => .answered reply
  | .answered reply,.adapterClosed => .finished reply
  | .finished (.done response),.usageAppended _ stored => .recorded response stored
  | s,_ => s

-- No adapter is open and no usage is recorded.
def Phase.quiet : Phase → Bool
  | .built (.done _) | .answered _ | .recorded _ _ => false
  | _ => true

-- The model that the workspace has set for its planner, in working order.
structure Selected (rows : Rows) (routeId : Id) (route : ModelRoute) (provider : ModelProvider)
    (credential : ModelCredential) : Prop where
  first : activeRouteForRole rows .planner = some (routeId,route)
  row : rows.routes routeId = some route
  active : ActiveFor rows.workspaceId .planner route
  providerRow : rows.providers route.providerId = some provider
  providerActive : provider.status = .active
  providerType : provider.providerType ≠ .fake
  visible : ∀ workspaceId, rows.authenticatedWorkspace = some workspaceId → provider.workspaceId = workspaceId
  credentialRow : route.credentialId.bind rows.credentials = some credential
  credentialActive : credential.status = .active

def Permits (rows : Rows) (outside : Outside) (request : PlannerRequest) : Phase → PlannerEvent → Prop
  | .idle,.secretOpened credentialId encryptedSecret _ =>
    ∃ routeId route provider credential, Selected rows routeId route provider credential ∧
      route.credentialId = some credentialId ∧ encryptedSecret = credential.encryptedSecret
  | .unsealed (.done secret),.adapterBuilt providerName baseUrl apiKey _ =>
    ∃ routeId route provider credential, Selected rows routeId route provider credential ∧
      providerName = provider.name ∧ baseUrl = provider.baseUrl.getD "" ∧ apiKey = secret
  | .built (.done ()),.chatRequested chat _ =>
    ∃ routeId route provider credential, Selected rows routeId route provider credential ∧
      chat = ⟨route.modelName,buildPlannerMessages request.goal request.projectName⟩
  | .answered _,.adapterClosed => True
  | .finished (.done response),.usageAppended entry _ =>
    ∃ routeId route provider credential, Selected rows routeId route provider credential ∧
      usageEntry request routeId response = some entry ∧
      ∃ specs, parseTaskSpecDrafts outside.loads response.content = .ok specs
  | _,_ => False

-- The usage of the reply has been handed to the ledger, or makes no entry.
def Accounted (entry : Option UsageLedgerCreate) (response : ProviderResponse) : Phase → Prop
  | .recorded recorded _ => recorded = response ∧ entry ≠ none
  | .finished (.done finished) => finished = response ∧ entry = none
  | _ => False

inductive PlannerOutcome (rows : Rows) (outside : Outside) (request : PlannerRequest) (fallback : List TaskSpecDraft) :
    PlannerExecutionResult → Phase → Prop
  | model {specs response routeId route provider credential s} :
      Selected rows routeId route provider credential →
      parseTaskSpecDrafts outside.loads response.content = .ok specs → specs ≠ [] →
      Accounted (usageEntry request routeId response) response s →
      PlannerOutcome rows outside request fallback
        ⟨specs,"model",some routeId,some provider.name,some route.modelName,none⟩ s
  | fallback {reason s} : s.quiet = true →
      PlannerOutcome rows outside request fallback { fakeResult reason with taskSpecs := fallback } s

def Reply.ofOption {α : Type} : Option α → Reply α
  | some answer => .done answer
  | none => .caught

section outcomes

variable {rows : Rows} {outside : Outside} {request : PlannerRequest} {s : Phase} {routeId credentialId : Id}
  {route : ModelRoute} {provider : ModelProvider} {credential : ModelCredential}

abbrev Planned {α : Type} (rows : Rows) (outside : Outside) (request : PlannerRequest) (s : Phase) (m : Planning α)
    (Q : α → Phase → Prop) : Prop :=
  Guards Phase.next (Permits rows outside request) s m Q fun s' => s'.quiet = true

theorem planned_call {α : Type} {reply : List PlannerEvent → Reply α} {event : Reply α → PlannerEvent}
    {Q : Option α → Phase → Prop} {E : Phase → Prop} (hpermits : ∀ r, Permits rows outside request s (event r))
    (hdone : ∀ answer, Q (some answer) (s.next (event (.done answer)))) (hcaught : Q none (s.next (event .caught)))
    (hraised : E (s.next (event .raised))) :
    Guards Phase.next (Permits rows outside request) s (call reply event) Q E := by
  apply Guards.act
  · exact fun history => hpermits (reply history)
  · intro history
    cases reply history with
    | done answer => exact hdone answer
    | caught => exact hcaught
    | raised => exact hraised

theorem planned_completeChat {secret : String} (hselected : Selected rows routeId route provider credential) :
    Planned rows outside request (.unsealed (.done secret))
      (completeChat outside provider secret ⟨route.modelName,buildPlannerMessages request.goal request.projectName⟩)
      fun answer s' => s'.quiet = true ∧ ∀ response, answer = some response → s' = .finished (.done response) := by
  rw [completeChat]
  refine Guards.bind (Q := fun answer s' => s' = .built (.ofOption answer))
    (planned_call (fun _ => ?_) (fun _ => rfl) rfl rfl) fun answer s' hs => ?_
  · exact ⟨routeId,route,provider,credential,hselected,rfl,rfl,rfl⟩
  · subst hs
    cases answer with
    | none => exact Guards.pure ⟨rfl,fun _ h => by cases h⟩
    | some built =>
      refine Guards.closedBy (Q := fun answer s' => s' = .answered (.ofOption answer))
        (E := fun s' => ∃ reply, s' = .answered reply)
        (planned_call (fun _ => ?_) (fun _ => rfl) rfl ⟨_,rfl⟩) (fun answer s' _ hs => ?_) fun s' _ hs => ?_
      · exact ⟨routeId,route,provider,credential,hselected,rfl⟩
      · subst hs
        refine ⟨trivial,⟨rfl,?_⟩,rfl⟩
        rintro response rfl
        rfl
      · obtain ⟨reply,rfl⟩ := hs
        exact ⟨trivial,rfl⟩

theorem activeRouteForRole_some (h : activeRouteForRole rows .planner = some (routeId,route)) :
    rows.routes routeId = some route ∧ ActiveFor rows.workspaceId .planner route := by
  obtain ⟨id,-,hfound⟩ := List.exists_of_findSome?_eq_some h
  obtain ⟨row,hrow,hactive⟩ := Option.bind_eq_some_iff.mp hfound
  split at hactive
  · next hrole =>
    obtain ⟨rfl,rfl⟩ := Prod.mk.inj (Option.some.inj hactive)
    exact ⟨hrow,hrole⟩
  · cases hactive

theorem activeCredential_some {id : Option Id} (h : activeCredential rows id = some (credentialId,credential)) :
    id = some credentialId ∧ rows.credentials credentialId = some credential ∧ credential.status = .active := by
  obtain ⟨found,hid,hfound⟩ := Option.bind_eq_some_iff.mp h
  obtain ⟨row,hrow,hactive⟩ := Option.bind_eq_some_iff.mp hfound
  split at hactive
  · next hstatus =>
    obtain ⟨rfl,rfl⟩ := Prod.mk.inj (Option.some.inj hactive)
    exact ⟨hid,hrow,hstatus⟩
  · cases hactive

theorem getModelProvider_some {id : Id} (h : getModelProvider rows id = some provider) :
    rows.providers id = some provider ∧
      ∀ workspaceId, rows.authenticatedWorkspace = some workspaceId → provider.workspaceId = workspaceId := by
  obtain ⟨hrow,hvisible⟩ := Option.filter_eq_some_iff.mp h
  refine ⟨hrow,fun workspaceId hworkspace => ?_⟩
  rw [hworkspace] at hvisible
  exact of_decide_eq_true hvisible

theorem planned_fake {reason : Option String} (h : s.quiet = true) :
    Planned rows outside request s (pure (fakeResult reason)) (PlannerOutcome rows outside request []) := by
  have hresult : fakeResult reason = { fakeResult reason with taskSpecs := [] } := rfl
  rw [hresult]
  exact Guards.pure (.fallback h)

theorem planned_usage {specs : List TaskSpecDraft} {response : ProviderResponse}
    (hselected : Selected rows routeId route provider credential)
    (hspecs : parseTaskSpecDrafts outside.loads response.content = .ok specs) :
    Planned rows outside request (.finished (.done response)) (appendUsage outside request routeId response)
      fun _ s' => Accounted (usageEntry request routeId response) response s' := by
  rw [appendUsage]
  split
  · next hrefused => exact Guards.pure ⟨rfl,hrefused⟩
  · next entry hentry =>
    refine Guards.act (fun _ => ⟨routeId,route,provider,credential,hselected,hentry,specs,hspecs⟩) fun _ => ?_
    exact ⟨rfl,by rw [hentry]; exact Option.some_ne_none _⟩

theorem planned_output {response : ProviderResponse} (hselected : Selected rows routeId route provider credential) :
    Planned rows outside request (.finished (.done response))
      (usePlannerOutput outside request routeId route provider response) (PlannerOutcome rows outside request []) := by
  rw [usePlannerOutput]
  split
  · exact planned_fake rfl
  · exact Guards.raise rfl
  · next specs hspecs =>
    refine (planned_usage hselected hspecs).bind fun _ s' haccounted => ?_
    exact Guards.pure (.model hselected hspecs (accepted_iff.mp hspecs).1 haccounted)

theorem planned_askModel (hselected : Selected rows routeId route provider credential)
    (hcredential : route.credentialId = some credentialId) :
    Planned rows outside request .idle (askModel outside request routeId route provider credentialId credential)
      (PlannerOutcome rows outside request []) := by
  rw [askModel]
  refine Guards.bind (Q := fun answer s' => s' = .unsealed (.ofOption answer))
    (planned_call (fun _ => ?_) (fun _ => rfl) rfl rfl) fun answer s' hs => ?_
  · exact ⟨routeId,route,provider,credential,hselected,hcredential,rfl⟩
  · subst hs
    cases answer with
    | none => exact planned_fake rfl
    | some secret =>
      refine (planned_completeChat hselected).bind fun answer s' hs => ?_
      cases answer with
      | none => exact planned_fake hs.1
      | some response =>
        obtain rfl := hs.2 response rfl
        exact planned_output hselected

theorem selected_of_resolved {resolved : ResolvedModelRouteRead}
    (hresolved : resolveModelRoute rows .planner = some resolved)
    (hsource : resolved.resolutionSource ≠ "fallback_fake") (htype : resolved.providerType ≠ .fake)
    (hrouteId : resolved.routeId.filter (fun _ => resolved.isAvailable) = some routeId)
    (hrow : rows.routes routeId = some route)
    (hprovider : (rows.providers route.providerId).filter (fun provider => provider.status = .active) = some provider)
    (hcredential : activeCredential rows route.credentialId = some (credentialId,credential)) :
    Selected rows routeId route provider credential := by
  rw [resolveModelRoute] at hresolved
  split at hresolved
  · obtain rfl := Option.some.inj hresolved
    exact absurd rfl hsource
  · next foundId found hfound =>
    obtain ⟨other,hother,rfl⟩ := Option.map_eq_some_iff.mp hresolved
    obtain rfl := Option.some.inj (Option.filter_eq_some_iff.mp hrouteId).1
    obtain ⟨hfoundRow,hactive⟩ := activeRouteForRole_some hfound
    obtain rfl := Option.some.inj (hfoundRow.symm.trans hrow)
    obtain ⟨hproviderRow,hstatus⟩ := Option.filter_eq_some_iff.mp hprovider
    obtain ⟨hotherRow,hvisible⟩ := getModelProvider_some hother
    obtain rfl := Option.some.inj (hotherRow.symm.trans hproviderRow)
    obtain ⟨hid,hcredentialRow,hcredentialStatus⟩ := activeCredential_some hcredential
    exact ⟨hfound,hrow,hactive,hproviderRow,of_decide_eq_true hstatus,htype,hvisible,
      by rw [hid,Option.bind_some,hcredentialRow],hcredentialStatus⟩

theorem planned_model (rows : Rows) (outside : Outside) (request : PlannerRequest) :
    Planned rows outside request .idle (createModelPlannerResult rows outside request)
      (PlannerOutcome rows outside request []) := by
  rw [createModelPlannerResult]
  split
  · exact Guards.raise rfl
  · next resolved hresolved =>
    by_cases hsource : resolved.resolutionSource = "fallback_fake"
    · rw [if_pos hsource]
      exact planned_fake rfl
    · by_cases htype : resolved.providerType = .fake
      · rw [if_neg hsource,if_pos htype]
        exact planned_fake rfl
      · rw [if_neg hsource,if_neg htype]
        split
        · exact planned_fake rfl
        · next routeId hrouteId =>
          split
          · exact planned_fake rfl
          · next route hrow =>
            split
            · exact planned_fake rfl
            · next provider hprovider =>
              split
              · exact planned_fake rfl
              · next credentialId credential hcredential =>
                exact planned_askModel
                  (selected_of_resolved hresolved hsource htype hrouteId hrow hprovider hcredential)
                  (activeCredential_some hcredential).1

theorem planner_run_course (rows : Rows) (outside : Outside) (request : PlannerRequest) :
    Guards Phase.next (Permits rows outside request) .idle (createDefaultPlannerResult rows outside request)
      (PlannerOutcome rows outside request (FakePlanner.plan request.goal)) fun s => s.quiet = true := by
  rw [createDefaultPlannerResult]
  refine (planned_model rows outside request).bind fun result s houtcome => ?_
  cases houtcome with
  | model hselected hspecs hne haccounted =>
    rw [if_pos hne]
    exact Guards.pure (.model hselected hspecs hne haccounted)
  | fallback hquiet =>
    rw [if_neg (by simp)]
    exact Guards.pure (.fallback hquiet)

end outcomes

end AiScdc.ModelPlanner
